import Retarget.Proofs.Ancestors
import Retarget.Proofs.Preconditions

/-!
# Directories that are made

Directories are made from one that is there, by the names that are missing after it. Where something is there already,
nothing is made; and a link that leads nowhere is something that is there.

* `Disk.walk_whole`: a path leads as far all at once as name by name, unless a directory may not be searched,
* `Disk.makeDirectoriesFrom_start`, `Disk.makeDirectoriesFrom_adds`: directories are made from one that is there, and
  nothing else is made,
* `Disk.makeDirectoriesFrom_there`: nothing is made where something is,
* `Disk.makeDirectoriesFrom_dangling`: and nothing is made through a link that leads nowhere.
-/

namespace Retarget.Disk

variable {d d' : Disk} {f : Follow} {p : Path} {n : Name}

/-! ## Steps that are not denied -/

theorem mayStep_whole (d : Disk) (l : Location) (k : Name) :
    d.mayStep .whole l k = d.mayStep .stepwise l k ∨ d.mayStep .whole l k = .error .denied := by
  have hwhole : (Follow.whole == Follow.stepwise) = false := rfl
  have hstepwise : (Follow.stepwise == Follow.stepwise) = true := rfl
  simp only [mayStep, hwhole, hstepwise, Bool.false_and, Bool.or_false, Bool.true_and]
  by_cases hk : k.isEmpty = true
  · simp [hk]
  · by_cases hdots : (k == Path.here || k == Path.above) = true
    · -- Full stops need no right to search, unless the whole path is looked up.
      simp only [hk, hdots, enter]
      cases d.directoryMode l with
      | error c => exact .inl rfl
      | ok m =>
        by_cases hm : d.maySearch m = true
        · exact .inl (by simp [hm, bind, Except.bind])
        · exact .inr (by simp [hm, bind, Except.bind]; rfl)
    · simp [hk, hdots]

theorem leg_whole (d : Disk) (l : Location) (names : List Name) :
    d.leg .whole l names = d.leg .stepwise l names ∨ d.leg .whole l names = .error .denied := by
  induction names generalizing l with
  | nil => exact .inl rfl
  | cons k rest ih =>
    rw [leg, leg]
    rcases mayStep_whole d l k with h | h
    · rw [h]
      cases d.mayStep .stepwise l k with
      | error c => exact .inl rfl
      | ok u =>
        simp only
        split
        · exact ih l
        · split
          · exact ih l.dropLast
          · split
            · exact .inl rfl
            · split
              · exact .inl rfl
              · exact .inl rfl
              · exact ih (l ++ [k])
    · rw [h]
      exact .inr rfl

/-- Names lead as far all at once as one by one, unless a directory on the way may not be searched. -/
theorem walk_whole (d : Disk) (links : Nat) (l : Location) (names : List Name) :
    d.walk .whole links l names = d.walk .stepwise links l names ∨ d.walk .whole links l names = .error .denied := by
  induction links generalizing l names with
  | zero =>
    rw [walk, walk]
    rcases leg_whole d l names with h | h
    · exact .inl (by rw [h])
    · exact .inr (by rw [h])
  | succ links ih =>
    rw [walk, walk]
    rcases leg_whole d l names with h | h
    · rw [h]
      split
      · exact .inl rfl
      · exact .inl rfl
      · exact ih _ _
    · exact .inr (by rw [h])

/-! ## Full stops -/

theorem discard_ne_notFound {α : Type} {x : Except Cause α} (h : x ≠ .error .notFound) :
    (discard x : Except Cause Unit) ≠ .error .notFound := by
  intro he
  cases x with
  | error c =>
    have hc : c = .notFound := Except.error.inj he
    exact h (by rw [hc])
  | ok a => cases show (Except.ok () : Except Cause Unit) = .error .notFound from he

theorem mayStep_ne_notFound {l : Location} (hl : (d.get? l).isSome) (k : Name) :
    d.mayStep f l k ≠ .error .notFound := by
  obtain ⟨e, he⟩ := Option.isSome_iff_exists.1 hl
  have hmode : d.directoryMode l ≠ .error .notFound := by
    cases e <;> simp [directoryMode, he]
  have henter : d.enter l ≠ .error .notFound := by
    rw [enter]
    cases hm : d.directoryMode l with
    | error c => simpa [bind, Except.bind, hm] using hmode
    | ok m => by_cases hs : d.maySearch m = true <;> simp [bind, Except.bind, hs]
  unfold mayStep
  split
  · exact discard_ne_notFound hmode
  · exact discard_ne_notFound henter

/-- Full stops after something that is there are never missing. -/
theorem leg_stays_cases {l : Location} {names : List Name} (hl : (d.get? l).isSome)
    (hstay : ∀ k ∈ names, k = [] ∨ k = Path.here) :
    d.leg f l names = .ok (.arrived l) ∨ ∃ c, c ≠ .notFound ∧ d.leg f l names = .error c := by
  cases hleg : d.leg f l names with
  | ok r => exact .inl (by rw [leg_stays hstay hleg])
  | error c =>
    refine .inr ⟨c, ?_, rfl⟩
    rintro rfl
    induction names with
    | nil => cases hleg
    | cons k rest ih =>
      have hk : (k.isEmpty || k == Path.here) = true := by simpa using hstay k List.mem_cons_self
      rw [leg] at hleg
      cases hu : d.mayStep f l k with
      | error c =>
        rw [hu] at hleg
        cases hleg
        exact mayStep_ne_notFound hl k hu
      | ok u =>
        simp only [hu, hk, if_true] at hleg
        exact ih (fun j hj => hstay j (List.mem_cons_of_mem _ hj)) hleg

theorem walk_stays_cases (links : Nat) {l : Location} {names : List Name} (hl : (d.get? l).isSome)
    (hstay : ∀ k ∈ names, k = [] ∨ k = Path.here) :
    d.walk f links l names = .ok l ∨ ∃ c, c ≠ .notFound ∧ d.walk f links l names = .error c := by
  rcases leg_stays_cases (f := f) hl hstay with h | ⟨c, hc, h⟩
  · exact .inl (by rw [walk, h])
  · exact .inr ⟨c, hc, by rw [walk, h]⟩

/-! ## What is made -/

theorem isDirectory_start (h : d.isDirectory p = true) : ∃ m, d.get? (d.start p) = some (.directory m) := by
  obtain ⟨l, _, hl, _⟩ := isDirectory_eq_true.1 h
  exact walk_start p.names_ne_nil (locate_eq_ok.1 hl).2

theorem makeDirectory_start (h : d.makeDirectory p = .ok d') : ∃ m, d.get? (d.start p) = some (.directory m) := by
  obtain ⟨a, n, ha, hn, hdir, _⟩ := makeDirectory_eq_ok h
  obtain ⟨before, _, _, hw, _⟩ := approach_name ha hn
  by_cases hbefore : before = []
  · rw [hbefore, walk, leg] at hw
    rw [Except.ok.inj hw]
    exact ⟨_, hdir⟩
  · exact walk_start hbefore hw

/-- Directories are made only from a directory that is there. -/
theorem makeDirectoriesFrom_start (fuel : Nat) (hp : p.bytes ≠ [])
    (h : makeDirectoriesFrom fuel d p = (.ok (), d')) : ∃ m, d.get? (d.start p) = some (.directory m) := by
  induction fuel generalizing p d' with
  | zero => cases h
  | succ fuel ih =>
    rw [makeDirectoriesFrom] at h
    split at h
    · next hempty => exact (hp (Path.bytes_of_components hempty)).elim
    split at h
    · next d₁ hmake => exact makeDirectory_start hmake
    · split at h
      · cases h
      · next q hq =>
        split at h
        · cases h
        · next d₁ hd₁ =>
          by_cases hempty : q.bytes = []
          · -- Nothing is made for an empty path, and then the path itself is made or is there.
            have hsame : d₁ = d := by
              cases fuel with
              | zero => cases hd₁
              | succ fuel =>
                rw [makeDirectoriesFrom, if_pos (by simp [Path.components, hempty, Path.parts, Path.isAbsolute,
                  Path.component?])] at hd₁
                cases hd₁
                rfl
            subst hsame
            split at h
            · next d₂ hensure =>
              rcases ensureDirectory_eq_ok hensure with hmake | ⟨hdir, _⟩
              · exact makeDirectory_start hmake
              · exact isDirectory_start hdir
            · cases h
          · have hstart := ih hempty hd₁
            rwa [start, Path.parent?_isAbsolute hq hempty] at hstart
    · split at h
      · next hdir => exact isDirectory_start hdir
      · cases h

/-- Nothing but directories is added. -/
def Adds (d d' : Disk) : Prop := ∀ k e, d'.get? k = some e → d.get? k = some e ∨ ∃ m, e = .directory m

theorem Adds.trans {d₁ d₂ d₃ : Disk} (h : Adds d₁ d₂) (h' : Adds d₂ d₃) : Adds d₁ d₃ := fun k e he =>
  (h' k e he).elim (h k e) .inr

theorem makeDirectory_adds (h : d.makeDirectory p = .ok d') : Adds d d' := by
  obtain ⟨a, n, _, _, _, _, _, rfl⟩ := makeDirectory_eq_ok h
  intro k e he
  rw [get?_put d (by simp)] at he
  split at he
  · exact .inr ⟨_, (Option.some.inj he).symm⟩
  · exact .inl he

theorem makeDirectoriesFrom_adds (fuel : Nat) (d : Disk) (p : Path) : Adds d (makeDirectoriesFrom fuel d p).2 :=
  makeDirectoriesFrom_keeps (P := Adds d) (Q := fun _ => True) (fun _ _ _ _ _ _ _ => trivial)
    (fun _ _ _ hd _ hmake => hd.trans (makeDirectory_adds hmake)) fuel (fun _ _ => .inl) trivial

/-! ## What cannot be made -/

theorem checkPath_error {c : Cause} (hp : p.bytes ≠ []) (h : checkPath p = .error c) : c ≠ .notFound := by
  rintro rfl
  unfold checkPath at h
  split at h
  · cases h
  · split at h
    · next hempty => exact hp (List.isEmpty_iff.1 hempty)
    · split at h <;> cases h

theorem bytes_ne_nil {xs : List Name} {k : Name} (hsteps : p.steps = xs ++ [k]) : p.bytes ≠ [] := by
  intro hempty
  simp [Path.steps, hempty, Path.parts] at hsteps

/-- A path that is missing on the way, or that cannot be looked up. -/
theorem makeDirectory_error {c : Cause} {xs : List Name} {k : Name} (hsteps : p.steps = xs ++ [k])
    (hw : d.walk .whole linkLimit (d.start p) xs = .error c) :
    d.makeDirectory p = .error c ∨ ∃ c', c' ≠ .notFound ∧ d.makeDirectory p = .error c' := by
  cases hc : checkPath p with
  | error c' =>
    refine .inr ⟨c', checkPath_error (bytes_ne_nil hsteps) hc, ?_⟩
    rw [makeDirectory, approach, hc]
    rfl
  | ok u =>
    refine .inl ?_
    rw [makeDirectory, approach, hc]
    simp only [Path.filter_names, hsteps, List.reverse_append, List.reverse_cons, List.reverse_nil, List.nil_append,
      List.singleton_append, List.reverse_reverse, hw, bind, Except.bind]

theorem isDirectory_error {c : Cause} {xs ys : List Name} (hsteps : p.steps = xs ++ ys)
    (hw : d.walk .whole linkLimit (d.start p) xs = .error c) : d.isDirectory p = false := by
  rw [Bool.eq_false_iff]
  intro hdir
  obtain ⟨l, _, hl, _⟩ := isDirectory_leads hdir
  rw [Leads, hsteps, walk_append_error hw] at hl
  cases hl

/-- The way to the end of a path that leads somewhere is there. -/
theorem approach_there {l : Location} (hl : d.Leads p l) (hoccupied : (d.get? l).isSome) (hp : p.bytes ≠ []) :
    d.approach p ≠ .error .notFound := by
  intro h
  unfold approach at h
  cases hc : checkPath p with
  | error c =>
    rw [hc] at h
    exact checkPath_error hp hc (Except.error.inj h)
  | ok u =>
    simp only [hc, bind, Except.bind, Path.filter_names] at h
    split at h
    · next hnil =>
      -- The path has no steps, so it leads to where it starts.
      rw [Leads, List.reverse_eq_nil_iff.1 hnil, walk, leg] at hl
      obtain rfl := Except.ok.inj hl
      have hstep := mayStep_ne_notFound (f := .whole) hoccupied [Path.dot]
      cases hm : d.enter (d.start p) with
      | error c =>
        rw [hm] at h
        cases h
        exact hstep (by rw [mayStep, if_neg (by decide), hm]; rfl)
      | ok m =>
        rw [hm] at h
        cases h
    · next last before hlast =>
      have hsteps : p.steps = before.reverse ++ [last] := by
        rw [← List.reverse_reverse p.steps, hlast, List.reverse_cons]
      have hne : last ≠ [] := by
        have hmem : last ∈ p.steps := by simp [hsteps]
        simpa using (List.mem_filter.1 hmem).2
      rw [Leads, hsteps] at hl
      obtain ⟨l₁, k, hl₁, hk⟩ := walk_left hl
      obtain ⟨m, hm⟩ := walk_enter hne hk
      simp only [hl₁, hm] at h
      split at h
      · cases h
      · split at h <;> cases h

/-- Where something is already, nothing is made. -/
theorem makeDirectory_there {l : Location} (hl : d.Leads p l) (hoccupied : (d.get? l).isSome) (hp : p.bytes ≠ []) :
    ∃ c, c ≠ .notFound ∧ d.makeDirectory p = .error c := by
  cases hmake : d.makeDirectory p with
  | ok d' =>
    obtain ⟨a, n, ha, hn, _, hname, hvacant, _⟩ := makeDirectory_eq_ok hmake
    obtain ⟨before, hsteps, _, hw, hm, hlen, _⟩ := approach_name ha hn
    -- The last name would lead nowhere.
    rw [Leads, hsteps] at hl
    obtain ⟨l₁, k, hl₁, hk⟩ := walk_left hl
    obtain rfl := Except.ok.inj (hw.symm.trans hl₁)
    rw [walk, leg_name hname, hm] at hk
    simp [hvacant, Nat.not_lt.2 hlen] at hk
  | error c =>
    refine ⟨c, ?_, rfl⟩
    rintro rfl
    exact approach_there hl hoccupied hp (approach_of_makeDirectory hmake)

theorem makeDirectoriesFrom_there (fuel : Nat) {l : Location} (hl : d.Leads p l) (hoccupied : (d.get? l).isSome) :
    (makeDirectoriesFrom fuel d p).2 = d := by
  cases fuel with
  | zero => rfl
  | succ fuel =>
    rw [makeDirectoriesFrom]
    split
    · rfl
    · next hp =>
      have hbytes : p.bytes ≠ [] := fun hempty => hp (by
        simp [Path.components, hempty, Path.parts, Path.isAbsolute, Path.component?])
      obtain ⟨c, hc, hmake⟩ := makeDirectory_there hl hoccupied hbytes
      rw [hmake]
      split
      · next h => cases h
      · next h => exact (hc (Except.error.inj h)).elim
      · rfl

/-- Under a name that is taken, nothing can be made. -/
theorem makeDirectory_occupied {before : List Name} {l : Location} {m : Mode} (hsteps : p.steps = before ++ [n])
    (hn : Path.IsName n) (hway : d.walk .whole linkLimit (d.start p) before = .ok l)
    (hl : d.get? l = some (.directory m)) (hthere : (d.get? (l ++ [n])).isSome) :
    ∃ c, c ≠ .notFound ∧ d.makeDirectory p = .error c := by
  rw [makeDirectory, approach_steps d hsteps hn, hway]
  cases hc : checkPath p with
  | error c => exact ⟨c, checkPath_error (bytes_ne_nil hsteps) hc, rfl⟩
  | ok u =>
    simp only [bind, Except.bind, enter, directoryMode_eq_ok.2 hl]
    by_cases hs : d.maySearch m = true
    · by_cases hlen : Path.nameLimit < n.length
      · exact ⟨.nameTooLong, by simp, by simp [hs, hlen]⟩
      · exact ⟨.alreadyExists, by simp, by simp [hs, hlen, hthere, pure, Except.pure]⟩
    · exact ⟨.denied, by simp, by simp [hs]⟩

theorem makeDirectoriesFrom_stuck (fuel : Nat) {c : Cause} (hp : p.bytes ≠ []) (hc : c ≠ .notFound)
    (hmake : d.makeDirectory p = .error c) (hdir : d.isDirectory p = false) :
    makeDirectoriesFrom (fuel + 1) d p = (.error c, d) := by
  rw [makeDirectoriesFrom, if_neg fun hempty => hp (Path.bytes_of_components hempty), hmake, hdir]
  split
  · next h => cases h
  · next h => exact (hc (Except.error.inj h)).elim
  · next c' _ h =>
    cases h
    rfl

/-- A path that is made all the same is a directory already. -/
theorem isDirectory_of_made {c : Cause} (hp : p.bytes ≠ []) (hc : c ≠ .notFound) (herror : d.makeDirectory p = .error c)
    (hmake : d.makeDirectories p = (.ok (), d')) : d.isDirectory p = true := by
  by_contra hdir
  rw [makeDirectories, makeDirectoriesFrom_stuck _ hp hc herror (eq_false_of_ne_true hdir)] at hmake
  cases hmake

/-- A path stays missing if its parent cannot be made, or if nothing is made for it. -/
theorem makeDirectoriesFrom_vain (fuel : Nat) {q : Path} (hp : p.bytes ≠ [])
    (hmake : d.makeDirectory p = .error .notFound) (hdir : d.isDirectory p = false) (hq : p.parent? = some q)
    (hvain : (makeDirectoriesFrom fuel d q).1 ≠ .ok () ∨ (makeDirectoriesFrom fuel d q).2 = d) :
    (makeDirectoriesFrom (fuel + 1) d p).1 ≠ .ok () := by
  rw [makeDirectoriesFrom, if_neg fun hempty => hp (Path.bytes_of_components hempty), hmake]
  simp only [hq]
  split
  · simp
  · next u d₁ hd₁ =>
    rw [hd₁] at hvain
    rcases hvain with hfail | hsame
    · exact (hfail rfl).elim
    · have hensure : d₁.ensureDirectory p = .error .notFound := by
        rw [show d₁ = d from hsame, ensureDirectory, hmake, hdir]
        rfl
      rw [hensure]
      simp

/-- No directory is made through something that leads nowhere: each name after it is tried in vain. -/
theorem makeDirectoriesFrom_dangling (fuel : Nat) {before rest : List Name} {l : Location} {c : Cause}
    (hd : d.WellFormed) (hsteps : p.steps = before ++ n :: rest) (hn : Path.IsName n)
    (hrest : ∀ k ∈ rest, k ≠ Path.above) (hway : d.walk .whole linkLimit (d.start p) before = .ok l)
    (hthere : (d.get? (l ++ [n])).isSome)
    (hnowhere : d.walk .whole linkLimit (d.start p) (before ++ [n]) = .error c) :
    (makeDirectoriesFrom fuel d p).1 ≠ .ok () := by
  induction fuel generalizing p rest with
  | zero => simp [makeDirectoriesFrom]
  | succ fuel ih =>
    have hall : p.steps = (before ++ [n]) ++ rest := by rw [hsteps]; simp
    have hdir := isDirectory_error hall hnowhere
    obtain ⟨e, he⟩ := Option.isSome_iff_exists.1 hthere
    obtain ⟨m, hm⟩ := hd.parent he
    rcases List.eq_nil_or_concat rest with rfl | ⟨ks, last, hlast⟩
    · obtain ⟨c', hc', hmake⟩ := makeDirectory_occupied hsteps hn hway hm hthere
      simp [makeDirectoriesFrom_stuck fuel (bytes_ne_nil hsteps) hc' hmake hdir]
    have hinit : p.steps = (before ++ [n] ++ ks) ++ [last] := by
      rw [hsteps, hlast, List.concat_eq_append]
      simp
    have hbytes := bytes_ne_nil hinit
    rcases makeDirectory_error hinit (walk_append_error hnowhere ks) with hmake | ⟨c', hc', hmake⟩
    · by_cases hc : c = .notFound
      · -- The way is missing, so the parent is made first: it is before the name, or goes through it as well.
        subst hc
        obtain ⟨k, hk⟩ := Path.fileName?_of_steps hsteps hn hrest
        obtain ⟨q, dots, dots', hq, habs, _, _, hcut⟩ := Path.steps_parent hk
        have hstart : d.start q = d.start p := by rw [start, start, habs]
        refine makeDirectoriesFrom_vain fuel hbytes hmake hdir hq ?_
        rw [hsteps] at hcut
        obtain ⟨xs, hxs⟩ | ⟨xs, hxs, hks⟩ : (∃ xs, before = q.steps ++ xs) ∨
            ∃ xs, q.steps = before ++ n :: xs ∧ rest = xs ++ (dots ++ k :: dots') := by
          rcases List.append_eq_append_iff.1 hcut with ⟨xs, hxs, hrest'⟩ | ⟨xs, hxs, _⟩
          · cases xs with
            | nil => exact .inl ⟨[], by simpa using hxs.symm⟩
            | cons x xs =>
              obtain ⟨rfl, hks⟩ := List.cons.inj hrest'
              exact .inr ⟨xs, hxs, hks⟩
          · exact .inl ⟨xs, hxs⟩
        · right
          rw [hxs] at hway
          obtain ⟨l₁, j, hl₁, hj⟩ := walk_left hway
          obtain ⟨m₁, hm₁⟩ : ∃ m₁, d.get? l₁ = some (.directory m₁) := by
            by_cases hnil : xs = []
            · rw [hnil, walk, leg] at hj
              exact ⟨m, Except.ok.inj hj ▸ hm⟩
            · exact walk_start hnil hj
          exact makeDirectoriesFrom_there fuel (by rw [Leads, hstart]; exact hl₁) (by simp [hm₁])
        · left
          exact ih hxs (fun j hj => hrest j (by rw [hks]; exact List.mem_append_left _ hj)) (hstart ▸ hway)
            (hstart ▸ hnowhere)
      · simp [makeDirectoriesFrom_stuck fuel hbytes hc hmake hdir]
    · simp [makeDirectoriesFrom_stuck fuel hbytes hc' hmake hdir]

end Retarget.Disk

import Retarget.Proofs.Removals
import Retarget.Proofs.TreeWalk

/-!
# The output of a tree

The output of a tree stands beside it, and is an empty directory when the walk begins.

* `treeOutput_spec`: the output is a name after a path that the input goes on from as well,
* `approach_output`: so the way to the output is there,
* `clearOutput_spec`: the output is emptied and nothing else is touched,
* `makeOutput_ready`: the output is made, and is empty.
-/

namespace Retarget

open Disk

variable {d d' : Disk} {input output q : Path} {n : Name}

/-! ## Ways that are there -/

namespace Disk

/-- Names that lead somewhere are looked up in a directory that may be entered. -/
theorem walk_enter {links : Nat} {l l' : Location} {n : Name} {rest : List Name} (hn : n ≠ [])
    (h : d.walk .whole links l (n :: rest) = .ok l') : ∃ m, d.enter l = .ok m := by
  have hempty : n.isEmpty = false := by simpa using hn
  have hstep : d.mayStep .whole l n = discard (d.enter l) := by
    rw [mayStep, hempty]
    rfl
  rw [walk, leg, hstep] at h
  cases hm : d.enter l with
  | ok m => exact ⟨m, rfl⟩
  | error c =>
    rw [hm] at h
    cases h

/-- The steps of a path lead where the path leads. -/
theorem leads_of_locate {p : Path} {l : Location} (h : d.locate p = .ok l) : d.Leads p l := by
  obtain ⟨_, hw⟩ := locate_eq_ok.1 h
  rw [p.names_eq] at hw
  obtain ⟨l', k, hl', hk⟩ := walk_left hw
  suffices l' = l from this ▸ hl'
  split at hk
  · rw [walk, leg] at hk
    cases hm : d.mayStep .whole l' [] with
    | error c => simp [hm] at hk
    | ok u => simpa [hm, leg] using hk
  · rw [walk, leg] at hk
    exact Except.ok.inj hk

/-- Names that stand for directories are never missing. -/
theorem leg_directories (f : Follow) {l : Location} {xs : List Name} (hname : ∀ n ∈ xs, Path.IsName n)
    (hdirs : ∀ k, k <+: xs → ∃ m, d.get? (l ++ k) = some (.directory m)) :
    d.leg f l xs = .ok (.arrived (l ++ xs)) ∨ ∃ c, c ≠ .notFound ∧ d.leg f l xs = .error c := by
  induction xs using List.reverseRecOn with
  | nil => exact .inl (by rw [leg, List.append_nil])
  | append_singleton xs n ih =>
    have hn := hname n (by simp)
    rw [leg_append]
    rcases ih (fun m hm => hname m (List.mem_append_left _ hm))
      (fun k hk => hdirs k (hk.trans (List.prefix_append _ _))) with h | ⟨c, hc, h⟩
    · rw [h]
      obtain ⟨m, hm⟩ := hdirs xs (List.prefix_append _ _)
      obtain ⟨m', hm'⟩ := hdirs (xs ++ [n]) (List.prefix_refl _)
      rw [← List.append_assoc] at hm' ⊢
      simp only [leg_name hn, enter, directoryMode_eq_ok.2 hm, hm', bind, Except.bind]
      by_cases hs : d.maySearch m <;> by_cases hlen : Path.nameLimit < n.length <;> simp [hs, hlen]
    · rw [h]
      exact .inr ⟨c, hc, rfl⟩

theorem walk_directories (f : Follow) (links : Nat) {l : Location} {xs : List Name} (hname : ∀ n ∈ xs, Path.IsName n)
    (hdirs : ∀ k, k <+: xs → ∃ m, d.get? (l ++ k) = some (.directory m)) :
    d.walk f links l xs = .ok (l ++ xs) ∨ ∃ c, c ≠ .notFound ∧ d.walk f links l xs = .error c := by
  rcases leg_directories f hname hdirs with h | ⟨c, hc, h⟩
  · exact .inl (by rw [walk, h])
  · exact .inr ⟨c, hc, by rw [walk, h]⟩

/-- Where a leg stops. -/
def Leg.place : Leg → Location
  | .arrived l => l
  | .atLink l _ _ => l

theorem leg_occupied {f : Follow} {l : Location} {names : List Name} {r : Leg} (hd : d.WellFormed)
    (hl : (d.get? l).isSome) (h : d.leg f l names = .ok r) : (d.get? r.place).isSome := by
  fun_induction leg d f l names with
  | case1 l =>
    cases h
    exact hl
  | case2 l n rest c hc => cases h
  | case3 l n rest u hu hn ih => exact ih hl h
  | case4 l n rest u hu hn habove ih =>
    refine ih ?_ h
    rcases List.eq_nil_or_concat l with rfl | ⟨l, m, rfl⟩
    · rfl
    · obtain ⟨e, he⟩ := Option.isSome_iff_exists.1 hl
      rw [List.concat_eq_append] at he ⊢
      obtain ⟨m', hm'⟩ := hd.parent he
      rw [List.dropLast_concat, hm']
      rfl
  | case5 l n rest u hu hn habove hlong => cases h
  | case6 l n rest u hu hn habove hlong hnone => cases h
  | case7 l n rest u hu hn habove hlong target hlink =>
    cases h
    exact hl
  | case8 l n rest u hu hn habove hlong e hother he ih => exact ih (by rw [he]; rfl) h

/-- A path leads to something that is there. -/
theorem walk_occupied {f : Follow} {links : Nat} {l l' : Location} {names : List Name} (hd : d.WellFormed)
    (hl : (d.get? l).isSome) (h : d.walk f links l names = .ok l') : (d.get? l').isSome := by
  induction links generalizing l names with
  | zero =>
    unfold walk at h
    split at h
    · cases h
    · next l₁ hleg =>
      cases h
      exact leg_occupied hd hl hleg
    · cases h
  | succ links ih =>
    unfold walk at h
    split at h
    · cases h
    · next l₁ hleg =>
      cases h
      exact leg_occupied hd hl hleg
    · next l₁ target rest hleg =>
      refine ih ?_ h
      split
      · rfl
      · exact leg_occupied hd hl hleg

/-- The canonical path of something is the path of a place where something is. -/
theorem canonicalize_spec {p resolved : Path} (hd : d.WellFormed) (h : d.canonicalize p = .ok resolved) :
    ∃ l, resolved = Location.toPath l ∧ (d.get? l).isSome := by
  obtain ⟨_, _, h⟩ := bind_eq_ok.1 h
  obtain ⟨l, hl, h⟩ := bind_eq_ok.1 h
  cases h
  refine ⟨l, rfl, ?_⟩
  obtain ⟨n, rest, hnames⟩ := List.exists_cons_of_ne_nil p.names_ne_nil
  have hstart : (d.get? (d.start p)).isSome := by
    rw [hnames, walk, leg] at hl
    cases hu : d.mayStep .stepwise (d.start p) n with
    | error c => simp [hu] at hl
    | ok u =>
      obtain ⟨m, hm⟩ := mayStep_directory hu
      rw [hm]
      rfl
  exact walk_occupied hd hstart hl

end Disk

/-! ## Ends of paths -/

/-- A path ends at a place, whether something stands there or not. -/
def Disk.EndsAt (d : Disk) (p : Path) (l : Location) : Prop :=
  ∃ a n, d.approach p = .ok a ∧ a.name = some n ∧ l = a.directory ++ [n]

theorem Disk.endsAt_join {place : Location} (hn : Path.IsName n) : d.EndsAt (q.join ⟨n⟩) place ↔
    ∃ l m, d.approach (q.join ⟨n⟩) = .ok ⟨l, m, some n, false⟩ ∧ place = l ++ [n] := by
  constructor
  · rintro ⟨a, k, ha, hk, rfl⟩
    obtain ⟨l, m, _, _, _, _, rfl⟩ := (approach_join_eq_ok hn).1 ha
    cases hk
    exact ⟨l, m, ha, rfl⟩
  · rintro ⟨l, m, ha, rfl⟩
    exact ⟨_, n, ha, rfl, rfl⟩

theorem Disk.EndsAt.mono {place : Location} (hn : Path.IsName n) (h : Extends d d')
    (hplace : d.EndsAt (q.join ⟨n⟩) place) : d'.EndsAt (q.join ⟨n⟩) place := by
  obtain ⟨l, m, ha, rfl⟩ := (endsAt_join hn).1 hplace
  obtain ⟨hc, hl, hm, hlen⟩ := approach_join_spec hn ha
  have henter : d'.enter l = .ok m := by
    have hdir := enter_directory hm
    rw [enter_congr ((h.get _ _ hdir).trans hdir.symm) h.privileged, hm]
  exact (endsAt_join hn).2 ⟨l, m, (approach_join_eq_ok hn).2 ⟨l, m, hc, hl.mono h, henter, hlen, rfl⟩, rfl⟩

theorem Disk.EndsAt.unique {p : Path} {l l' : Location} (h : d.EndsAt p l) (h' : d.EndsAt p l') : l = l' := by
  obtain ⟨a, n, ha, hn, rfl⟩ := h
  obtain ⟨a', n', ha', hn', rfl⟩ := h'
  cases ha.symm.trans ha'
  cases hn.symm.trans hn'
  rfl

/-! ## The way to the output -/

theorem mapError_eq_ok {ε ε' α : Type} {x : Except ε α} {f : ε → ε'} {a : α} : x.mapError f = .ok a ↔ x = .ok a := by
  cases x <;> simp [Except.mapError]

/-- A path is the start of an input, or of the place of something on the disk. -/
def Beside (d : Disk) (input q : Path) : Prop :=
  (∃ rest, rest ≠ [] ∧ input.steps = q.steps ++ rest ∧ q.isAbsolute = input.isAbsolute) ∨
  ∃ rest, rest ≠ [] ∧ (d.get? (q.steps ++ rest)).isSome ∧ q.isAbsolute = true

theorem outputBeside_eq_ok {p o : Path} : outputBeside p = .ok o ↔ p.outputBeside? = some o := by
  unfold outputBeside
  cases p.outputBeside? <;> simp

/-- The output of a tree is beside its path, or beside the place that it leads to. -/
theorem treeOutput_cases (h : treeOutput d input = .ok output) :
    (input.fileName?.isSome = true ∧ input.outputBeside? = some output) ∨
    (input.fileName?.isSome = false ∧ ∃ resolved, d.canonicalize input = .ok resolved ∧
      resolved.outputBeside? = some output) := by
  unfold treeOutput at h
  split at h
  · next hname => exact .inl ⟨hname, outputBeside_eq_ok.1 h⟩
  · next hname =>
    obtain ⟨resolved, hresolved, h⟩ := bind_eq_ok.1 h
    exact .inr ⟨by simpa using hname, resolved, mapError_eq_ok.1 hresolved, outputBeside_eq_ok.1 h⟩

/-- The output is a name after a path that the input goes on from as well. -/
theorem treeOutput_spec (hd : d.WellFormed) (h : treeOutput d input = .ok output) :
    ∃ q n, Path.IsName n ∧ output = q.join ⟨n⟩ ∧ Beside d input q := by
  rcases treeOutput_cases h with ⟨_, h⟩ | ⟨_, resolved, hresolved, h⟩
  · obtain ⟨q, n, rest, hn, ho, hsteps, hrest, habs⟩ := Path.outputBeside?_spec h
    exact ⟨q, _, hn, ho, .inl ⟨rest, hrest, hsteps, habs⟩⟩
  · obtain ⟨l, rfl, hl⟩ := canonicalize_spec hd hresolved
    obtain ⟨e, he⟩ := Option.isSome_iff_exists.1 hl
    obtain ⟨hsteps', habs'⟩ := Path.steps_toPath (hd.isName he)
    obtain ⟨q, n, rest, hn, ho, hsteps, hrest, habs⟩ := Path.outputBeside?_spec h
    refine ⟨q, _, hn, ho, .inr ⟨rest, hrest, ?_, habs.trans habs'⟩⟩
    rw [← hsteps, hsteps']
    exact hl

/-- The name of the output of a tree is marked. -/
theorem treeOutput_marked (h : treeOutput d input = .ok output) :
    ∃ n, output.fileName? = some (Path.outputMarker ++ n) := by
  obtain ⟨p, h⟩ : ∃ p : Path, p.outputBeside? = some output := by
    rcases treeOutput_cases h with ⟨_, h⟩ | ⟨_, resolved, _, h⟩
    · exact ⟨input, h⟩
    · exact ⟨resolved, h⟩
  obtain ⟨q, n, _, hn, rfl, _⟩ := Path.outputBeside?_spec h
  exact ⟨n, q.fileName?_join hn⟩

/-- The output of a tree stays where it is when a disk has more on it. -/
theorem treeOutput_mono (hk : Extends d d') (h : treeOutput d input = .ok output) :
    treeOutput d' input = .ok output := by
  rcases treeOutput_cases h with ⟨hname, h⟩ | ⟨hname, resolved, hresolved, h⟩
  · rw [treeOutput, hname, if_pos rfl, outputBeside, h]
  · have hresolved' : d'.canonicalize input = .ok resolved := by
      obtain ⟨u, hcheck, hresolved⟩ := bind_eq_ok.1 hresolved
      obtain ⟨l, hl, hresolved⟩ := bind_eq_ok.1 hresolved
      exact bind_eq_ok.2 ⟨u, hcheck, bind_eq_ok.2 ⟨l, by rw [hk.start]; exact walk_mono hk hl, hresolved⟩⟩
    rw [treeOutput, hname, hresolved', if_neg (by simp)]
    simp only [Except.mapError, bind, Except.bind, outputBeside, h]

theorem checkRoots_metadata (h : checkRoots d input output = .ok ()) : ∃ found, d.metadata input = .ok found := by
  obtain ⟨found, hfound, _⟩ := bind_eq_ok.1 h
  exact ⟨found, mapError_eq_ok.1 hfound⟩

/-- A disk as it is, or with the old output taken away. -/
abbrev Cleared (q : Path) (n : Name) (d d' : Disk) : Prop :=
  d' = d ∨ ∃ place, d.EndsAt (q.join ⟨n⟩) place ∧ Prunes place d d'

/-- The directories on a way without links stay when what it leads to is taken away. -/
theorem Cleared.directories (h : Cleared q n d d') (hn : Path.IsName n) (hname : ∀ k ∈ q.steps, Path.IsName k)
    (habs : q.isAbsolute = true) (hdirs : ∀ k, k <+: q.steps → ∃ m, d.get? ([] ++ k) = some (.directory m)) :
    ∀ k, k <+: q.steps → ∃ m, d'.get? ([] ++ k) = some (.directory m) := by
  intro k hk
  rcases h with rfl | ⟨place, hplace, hprune⟩
  · exact hdirs k hk
  · obtain ⟨l, m, ha, rfl⟩ := (endsAt_join hn).1 hplace
    obtain ⟨_, hl, _, _⟩ := approach_join_spec hn ha
    rw [Leads, start, habs, if_pos rfl] at hl
    rcases walk_directories .whole linkLimit hname hdirs with hw | ⟨c, _, hw⟩
    · obtain rfl : q.steps = l := Except.ok.inj (hw.symm.trans hl)
      -- The place that was emptied is longer than any of the way.
      rw [hprune.frame]
      · exact hdirs k hk
      · intro hp
        have hle := hp.length_le.trans hk.length_le
        rw [List.length_append, List.length_singleton] at hle
        omega
    · cases hw.symm.trans hl

/-- The way to a name in the directory that a path without links leads to. -/
theorem approach_of_directories (hn : Path.IsName n) (hname : ∀ k ∈ q.steps, Path.IsName k)
    (habs : q.isAbsolute = true) (hdirs : ∀ k, k <+: q.steps → ∃ m, d.get? ([] ++ k) = some (.directory m)) :
    d.approach (q.join ⟨n⟩) ≠ .error .notFound := by
  have hstart : d.start q = [] := by rw [start, habs, if_pos rfl]
  rcases walk_directories .whole linkLimit hname hdirs with hw | ⟨c, hc, hw⟩
  · obtain ⟨m, hm⟩ := hdirs q.steps (List.prefix_refl _)
    exact approach_join_ne_notFound (l := q.steps) (by rw [Leads, hstart, hw]; rfl) hm hn
  · rw [approach_join d q hn, hstart, hw]
    have hcheck := checkPath_join_ne_notFound q hn
    cases hp : checkPath (q.join ⟨n⟩) with
    | error c' => simpa [bind, Except.bind, hp] using hcheck
    | ok u => simpa [bind, Except.bind] using hc

/-- The directory that the output is in is there, also when the output has been emptied. -/
theorem approach_output (hd : d.WellFormed) (hn : Path.IsName n) (hbeside : Beside d input q)
    (hcleared : Cleared q n d d') (hroots : checkRoots d' input output = .ok ()) :
    d'.approach (q.join ⟨n⟩) ≠ .error .notFound := by
  rcases hbeside with ⟨rest, hrest, hsteps, habs⟩ | ⟨rest, hrest, hsome, habs⟩
  · -- The input is found, so all that its path begins with is found.
    obtain ⟨found, hfound⟩ := checkRoots_metadata hroots
    obtain ⟨l', _, hl', _, _⟩ := metadata_eq_ok.1 hfound
    obtain ⟨_, hwalk⟩ := locate_eq_ok.1 hl'
    rw [input.names_eq, hsteps, List.append_assoc] at hwalk
    obtain ⟨l, k, hl, hk⟩ := walk_left hwalk
    obtain ⟨n', rest', rfl⟩ := List.exists_cons_of_ne_nil hrest
    have hn' : n' ≠ [] := by
      have hmem : n' ∈ input.steps := by rw [hsteps]; simp
      simpa using (List.mem_filter.1 hmem).2
    obtain ⟨m, hm⟩ := walk_enter hn' hk
    refine approach_join_ne_notFound (l := l) ?_ (enter_directory hm) hn
    rw [Leads, start, habs]
    exact hl
  · obtain ⟨e, he⟩ := Option.isSome_iff_exists.1 hsome
    have hname : ∀ k ∈ q.steps, Path.IsName k := fun k hk => hd.isName he k (List.mem_append_left _ hk)
    have hdirs : ∀ k, k <+: q.steps → ∃ m, d.get? ([] ++ k) = some (.directory m) := by
      rintro k ⟨r, hr⟩
      rw [← hr, List.append_assoc] at he
      exact hd.above he (by simp [hrest])
    exact approach_of_directories hn hname habs (hcleared.directories hn hname habs hdirs)

/-! ## The empty output -/

/-- Clearing an output takes away what is there and nothing else. -/
theorem clearOutput_spec {r : Except ConvertError Unit} {w w' : Workbench} (hd : w.disk.WellFormed)
    (hn : Path.IsName n) (h : (Converter.clearOutput (q.join ⟨n⟩)).run w = (r, w')) :
    Cleared q n w.disk w'.disk ∧
      (r = .ok () → ∀ place, w.disk.EndsAt (q.join ⟨n⟩) place → w'.disk.Vacated place) := by
  unfold Converter.clearOutput at h
  simp only [Job.run_bind, Job.run_look] at h
  cases hlink : w.disk.linkMetadata (q.join ⟨n⟩) with
  | error c =>
    rw [hlink] at h
    cases h
    refine ⟨.inl rfl, fun _ place hplace => ?_⟩
    obtain ⟨l, m, ha, rfl⟩ := (endsAt_join hn).1 hplace
    have hnone : w.disk.get? (l ++ [n]) = none := by
      cases he : w.disk.get? (l ++ [n]) with
      | none => rfl
      | some e =>
        rw [linkMetadata, ha] at hlink
        simp [bind, Except.bind, entryAt_eq_ok.2 he, pure, Except.pure] at hlink
    refine ⟨fun rest hrest => hd.vacant_below (by simp [hnone]) hrest, fun e he => ?_⟩
    rw [hnone] at he
    cases he
  | ok found =>
    obtain ⟨l, m, ha, hprunes, hdone⟩ := clear_spec hd hn hlink
    rw [hlink] at h
    simp only [Except.isOk, Except.toBool, if_true, Job.run_bind, Job.run_lift, Job.run_orFail, Job.act_apply,
      Job.notice_disk] at h
    cases h
    refine ⟨.inr ⟨l ++ [n], (endsAt_join hn).2 ⟨l, m, ha, rfl⟩, hprunes⟩, fun hr place hplace => ?_⟩
    obtain ⟨l', m', ha', rfl⟩ := (endsAt_join hn).1 hplace
    cases ha.symm.trans ha'
    exact hdone (mapError_eq_ok.1 hr)

theorem clearOutput_less {r : Except ConvertError Unit} {w w' : Workbench} (hd : w.disk.WellFormed)
    (hn : Path.IsName n) (h : (Converter.clearOutput (q.join ⟨n⟩)).run w = (r, w')) :
    Extends w'.disk w.disk ∧ w'.disk.WellFormed := by
  rcases (clearOutput_spec hd hn h).1 with he | ⟨_, _, hprunes⟩
  · rw [he]
    exact ⟨.refl _, hd⟩
  · exact ⟨hprunes.less, hprunes.wellFormed hd⟩

/-- The way to something under a name ends at that name. -/
theorem Disk.approach_of_locate {l : Location} (hn : Path.IsName n) (h : d.locate (q.join ⟨n⟩) = .ok l) :
    ∃ l m, d.Leads q l ∧ d.enter l = .ok m ∧ n.length ≤ Path.nameLimit ∧
      d.approach (q.join ⟨n⟩) = .ok ⟨l, m, some n, false⟩ := by
  obtain ⟨hc, hw⟩ := locate_eq_ok.1 h
  rw [start_join d q hn, q.names_join hn] at hw
  obtain ⟨l', k, hl', hk⟩ := walk_left hw
  obtain ⟨m, hm⟩ := walk_enter hn.ne_nil hk
  have hlen : n.length ≤ Path.nameLimit := by
    by_contra hlong
    rw [walk, leg_name hn, hm] at hk
    simp [Nat.lt_of_not_le hlong] at hk
  exact ⟨l', m, hl', hm, hlen, (approach_join_eq_ok hn).2 ⟨l', m, hc, hl', hm, hlen, rfl⟩⟩

/-- The output is made, if need be, and is an empty directory. -/
theorem makeOutput_ready {rules : List Rule} {options : TreeOptions} {d'' : Disk} (hd : d'.WellFormed)
    (hn : Path.IsName n) (hfound : d'.approach (q.join ⟨n⟩) ≠ .error .notFound)
    (hvacated : ∀ place, d'.EndsAt (q.join ⟨n⟩) place → d'.Vacated place)
    (h : d'.makeDirectories (q.join ⟨n⟩) = (.ok (), d'')) :
    ∃ l m, d'.approach (q.join ⟨n⟩) = .ok ⟨l, m, some n, false⟩ ∧
      (Site.mk rules options input (q.join ⟨n⟩) ⟨[]⟩ (l ++ [n])).Ready d'' ∧
      (∀ k, d''.Bare (l ++ [n] ++ [k])) ∧ (∀ k, k ≠ l ++ [n] → d''.get? k = d'.get? k) ∧ Extends d' d'' := by
  rcases makeDirectories_join hn hfound with ⟨l, m, ha, hvacant, hmake⟩ | ⟨hdir, hmake⟩ | ⟨c, hmake⟩
  · obtain ⟨_, hl, hm, hlen⟩ := approach_join_spec hn ha
    rw [hmake] at h
    cases h
    have hsite : (Site.mk rules options input q ⟨[]⟩ l).Ready d' := ⟨hd, hl, m, enter_directory hm⟩
    obtain ⟨hd'', hleads, hdirectory⟩ := hsite.into_put hm hn hlen hvacant
    refine ⟨l, m, ha, ⟨hd'', hleads, hdirectory⟩, fun k rest => ?_, fun k hk => ?_, extends_put (by simp) hvacant _⟩
    · rw [get?_put d' (by simp), if_neg (by simp), List.append_assoc]
      exact (hvacated _ ((endsAt_join hn).2 ⟨l, m, ha, rfl⟩)).below ([k] ++ rest) (by simp)
    · rw [get?_put d' (by simp), if_neg hk]
  · rw [hmake] at h
    cases h
    obtain ⟨l', _, hl', _⟩ := isDirectory_eq_true.1 hdir
    obtain ⟨l, m, hl, hm, hlen, ha⟩ := approach_of_locate hn hl'
    obtain ⟨hbelow, hkind⟩ := hvacated _ ((endsAt_join hn).2 ⟨l, m, ha, rfl⟩)
    obtain ⟨e, he⟩ : ∃ e, d'.get? (l ++ [n]) = some e := by
      cases he : d'.get? (l ++ [n]) with
      | none => exact (hl.isDirectory_vacant hn he hdir).elim
      | some e => exact ⟨e, rfl⟩
    obtain ⟨m', rfl⟩ := hkind e he
    refine ⟨l, m, ha, ⟨hd, hl.join hm hn hlen he (by simp), m', he⟩, fun k rest => ?_, fun _ _ => rfl, .refl _⟩
    rw [List.append_assoc]
    exact hbelow ([k] ++ rest) (by simp)
  · rw [hmake] at h
    cases h

/-- The disk at the start of a walk to the derived output: the output is an empty directory at the place where its
path ended before, and all that is not below it is as before. -/
theorem derived_ready {rules : List Rule} {options : TreeOptions} {w w₁ : Workbench} {d₂ : Disk}
    (hd : w.disk.WellFormed) (houtput : treeOutput w.disk input = .ok output)
    (hclear : (Converter.clearOutput output).run w = (.ok (), w₁))
    (hroots : checkRoots w₁.disk input output = .ok ()) (hmake : w₁.disk.makeDirectories output = (.ok (), d₂)) :
    ∃ place, w.disk.EndsAt output place ∧ d₂.locate output = .ok place ∧
      (Site.mk rules options input output ⟨[]⟩ place).Ready d₂ ∧ (∀ k, d₂.Bare (place ++ [k])) ∧
      (∀ k, ¬ place <+: k → d₂.get? k = w.disk.get? k) ∧ d₂.current = w.disk.current ∧
      d₂.privileged = w.disk.privileged := by
  obtain ⟨q, n, hn, rfl, hbeside⟩ := treeOutput_spec hd houtput
  obtain ⟨hcleared, hvacated⟩ := clearOutput_spec hd hn hclear
  have hless := clearOutput_less hd hn hclear
  obtain ⟨l, m, ha, hready, hbare, hframe, hkeeps⟩ := makeOutput_ready hless.2 hn
    (approach_output hd hn hbeside hcleared hroots)
    (fun place hplace => hvacated rfl place (hplace.mono hn hless.1)) hmake
  have hplace := (endsAt_join hn).2 ⟨l, m, ha, rfl⟩
  refine ⟨l ++ [n], hplace.mono hn hless.1, locate_eq_ok.2 ⟨(approach_join_spec hn ha).1, ?_⟩, hready, hbare,
    fun k hk => ?_, ?_, ?_⟩
  · rw [q.names_join hn, ← q.steps_join hn]
    exact hready.leads
  · rw [hframe k fun he => hk (he ▸ List.prefix_refl _)]
    rcases hcleared with he | ⟨place, hplace', hprunes⟩
    · rw [he]
    · obtain rfl := (hplace.mono hn hless.1).unique hplace'
      exact hprunes.frame k hk
  · exact hkeeps.current.trans hless.1.current.symm
  · exact hkeeps.privileged.trans hless.1.privileged.symm

/-! ## The steps of a conversion -/

/-- A conversion of a tree stops at its roots, or when the output is made, or walks through the tree. -/
theorem convertTree_cases {rules : List Rule} {options : TreeOptions} {r : Except ConvertError Report}
    {w w' : Workbench} (h : (convertTree rules options input output).run w = (r, w')) :
    ((∃ e, r = .error e) ∧ (w'.disk = w.disk ∨
      checkRoots w.disk input output = .ok () ∧ w'.disk = (w.disk.makeDirectories output).2)) ∨
    ∃ report root w₁, r = .ok report ∧ checkRoots w.disk input output = .ok () ∧
      w.disk.makeDirectories output = (.ok (), w₁.disk) ∧
      walkTree rules options Path.lengthLimit input output ⟨[]⟩ [root] w₁ = (report, w') := by
  unfold convertTree at h
  rcases Job.run_orFail_cases h with ⟨e, _, rfl, rfl⟩ | ⟨u, hroots, h⟩
  · exact .inl ⟨⟨_, rfl⟩, .inl rfl⟩
  rcases Job.run_orFail_cases h with ⟨e, _, rfl, rfl⟩ | ⟨v, hmake, h⟩
  · exact .inl ⟨⟨_, rfl⟩, .inr ⟨hroots, rfl⟩⟩
  rw [Job.run_bind, Job.run_lift] at h
  rcases Job.run_orFail_cases h with ⟨e, _, rfl, rfl⟩ | ⟨root, _, h⟩
  · exact .inl ⟨⟨_, rfl⟩, .inr ⟨hroots, rfl⟩⟩
  cases h
  exact .inr ⟨_, root, _, rfl, hroots, Prod.ext hmake rfl, rfl⟩

/-- What is said in the end changes nothing. -/
theorem convertTreeInto_run {c : Converter} {r : Except ConvertError Report} {w w' : Workbench}
    (h : (c.convertTreeInto input output).run w = (r, w')) :
    ∃ w₁, (convertTree c.registry.rules c.options input output).run w = (r, w₁) ∧ w'.disk = w₁.disk := by
  unfold Converter.convertTreeInto at h
  rcases Job.run_bind_cases h with ⟨e, he, rfl⟩ | ⟨report, w₁, h₁, h⟩
  · exact ⟨w', he, rfl⟩
  · rw [Job.run_bind, Job.run_lift] at h
    cases h
    exact ⟨w₁, h₁, rfl⟩

/-- A conversion to the derived output stops at its roots, or finds the output and clears and fills it. -/
theorem convertTree_derived_cases {c : Converter} {r : Except ConvertError (Path × Report)} {w w' : Workbench}
    (h : (c.convertTree input).run w = (r, w')) :
    ((∃ e, r = .error e) ∧ w' = w ∧
      ∀ output, treeOutput w.disk input = .ok output → checkRoots w.disk input output ≠ .ok ()) ∨
    ∃ output, treeOutput w.disk input = .ok output ∧
      (((∃ e, r = .error e) ∧ ∃ e, (Converter.clearOutput output).run w = (.error e, w')) ∨
      ∃ w₁ w₂ r₁, (Converter.clearOutput output).run w = (.ok (), w₁) ∧
        (convertTree c.registry.rules c.options input output).run w₁ = (r₁, w₂) ∧ w'.disk = w₂.disk ∧
        r = r₁.map fun report => (output, report)) := by
  unfold Converter.convertTree at h
  rcases Job.run_orFail_cases h with ⟨e, he, rfl, rfl⟩ | ⟨output, houtput, h⟩
  · refine .inl ⟨⟨_, rfl⟩, rfl, fun output houtput => ?_⟩
    cases houtput.symm.trans he
  rcases Job.run_orFail_cases h with ⟨e, he, rfl, rfl⟩ | ⟨u, _, h⟩
  · refine .inl ⟨⟨_, rfl⟩, rfl, fun output' houtput' hroots => ?_⟩
    cases houtput.symm.trans houtput'
    cases hroots.symm.trans he
  refine .inr ⟨output, houtput, ?_⟩
  rcases Job.run_bind_cases h with ⟨e, he, rfl⟩ | ⟨u, w₁, hclear, h⟩
  · exact .inl ⟨⟨_, rfl⟩, e, he⟩
  rcases Job.run_bind_cases h with ⟨e, he, rfl⟩ | ⟨report, w₂, hinto, h⟩
  · obtain ⟨w₂, hw₂, hdisk⟩ := convertTreeInto_run he
    exact .inr ⟨w₁, w₂, _, hclear, hw₂, hdisk, rfl⟩
  · obtain ⟨w₃, hw₃, hdisk⟩ := convertTreeInto_run hinto
    cases h
    exact .inr ⟨w₁, w₃, _, hclear, hw₃, hdisk, rfl⟩

end Retarget

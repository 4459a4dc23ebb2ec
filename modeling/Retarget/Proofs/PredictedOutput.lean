import Retarget.Proofs.MadeDirectories

/-!
# Where an output will be

The roots of a conversion are checked before the output is made. The path that is resolved for the check is the
canonical path that the output has once it has been made, so a tree is never converted into itself.

* `Disk.resolveFrom_cases`: a resolved path is there, or goes on from something that is there by a missing name, and by
  names alone after that (`Disk.Missing`),
* `Disk.Missing.made`: these names lead through new directories once the path has been made,
* `Disk.resolve_made`: so the path is made where it was expected,
* `output_predicted`: what that means for the roots.
-/

namespace Retarget

namespace Disk

variable {d d' : Disk} {f : Follow} {p target : Path} {n : Name}

/-! ## What is resolved -/

/-- The paths that are tried get shorter, so the search for something that is there comes to an end. -/
theorem resolveFrom_fuel {fuel fuel' : Nat} {missing : List Name} (h : p.bytes.length < fuel)
    (h' : p.bytes.length < fuel') : d.resolveFrom fuel p missing = d.resolveFrom fuel' p missing := by
  induction fuel generalizing p missing fuel' with
  | zero => omega
  | succ fuel ih =>
    obtain ⟨fuel', rfl⟩ := Nat.exists_eq_succ_of_ne_zero (Nat.ne_zero_of_lt h')
    rw [resolveFrom, resolveFrom]
    split
    · rfl
    · split
      · next parent n hparent hn =>
        have hlen := Path.length_parent? hn hparent
        exact ih (by omega) (by omega)
      · rfl
    · rfl

theorem toPath_below {l : Location} {missing : List Name} (hl : ∀ k ∈ l, Path.IsName k)
    (hmissing : ∀ k ∈ missing, Path.IsName k) :
    missing.foldl (fun p n => p.join ⟨n⟩) l.toPath = Location.toPath (l ++ missing) := by
  induction missing generalizing l with
  | nil => rw [List.append_nil, List.foldl_nil]
  | cons n missing ih =>
    have hn := hmissing n List.mem_cons_self
    rw [List.foldl_cons, Path.toPath_join hl hn, ih, List.append_assoc, List.singleton_append]
    · intro k hk
      rcases List.mem_append.1 hk with hk | hk
      · exact hl k hk
      · rwa [List.mem_singleton.1 hk]
    · exact fun k hk => hmissing k (List.mem_cons_of_mem _ hk)

/-- The step at which a path goes on by something that is missing, and by names alone after that. -/
structure Missing (d : Disk) (start : Location) (steps before : List Name) (n : Name) (rest : List Name)
    (l : Location) : Prop where
  steps_eq : steps = before ++ n :: rest
  isName : Path.IsName n
  names : ∀ k ∈ rest, k ≠ Path.above
  way : d.walk .stepwise linkLimit start before = .ok l
  missing : d.walk .stepwise linkLimit start (before ++ [n]) = .error .notFound

/-- A name after a path that is there, and full stops. -/
theorem Missing.first {q : Path} {l : Location} {dots dots' : List Name} (hd : d.WellFormed)
    (hdots : ∀ k ∈ dots, k = Path.here) (hdots' : ∀ k ∈ dots', k = Path.here) (hn : Path.IsName n)
    (hsteps : p.steps = q.steps ++ (dots ++ n :: dots')) (hq : d.walk .stepwise linkLimit [] q.names = .ok l)
    (hp : d.walk .stepwise linkLimit [] p.names = .error .notFound) :
    d.Missing [] p.steps (q.steps ++ dots) n dots' l := by
  have hoccupied := walk_occupied hd (l := []) rfl hq
  have hway : d.walk .stepwise linkLimit [] q.steps = .ok l := by
    rw [q.names_eq] at hq
    obtain ⟨l', k, hl', hk⟩ := walk_left hq
    rw [hl', walk_stays (fun k hk => .inl ?_) hk]
    split at hk <;> simp_all
  -- Whatever full stops do, they do not lead to nothing.
  have htrail : ∀ k ∈ dots' ++ (if (Path.parts p.bytes).getLast? == some [] then [[]] else []),
      k = [] ∨ k = Path.here := by
    intro k hk
    rcases List.mem_append.1 hk with hk | hk
    · exact .inr (hdots' k hk)
    · split at hk <;> simp_all
  have hnames : p.names = (q.steps ++ dots ++ [n]) ++
      (dots' ++ if (Path.parts p.bytes).getLast? == some [] then [[]] else []) := by
    rw [p.names_eq, hsteps]
    simp
  have hmissing : d.walk .stepwise linkLimit [] (q.steps ++ dots ++ [n]) = .error .notFound := by
    rw [hnames] at hp
    cases hw : d.walk .stepwise linkLimit [] (q.steps ++ dots ++ [n]) with
    | error c =>
      rw [walk_append_error hw] at hp
      exact hp
    | ok l' =>
      obtain ⟨k, _, hk⟩ := walk_append hw
        (dots' ++ if (Path.parts p.bytes).getLast? == some [] then [[]] else [])
      rw [hk] at hp
      rcases walk_stays_cases k (walk_occupied hd (l := []) rfl hw) htrail with hs | ⟨c, hc, hs⟩
      · cases hs.symm.trans hp
      · cases hs.symm.trans hp
        exact (hc rfl).elim
  refine ⟨by rw [hsteps]; simp, hn, fun k hk he => ?_, ?_, hmissing⟩
  · rw [hdots' k hk] at he
    exact absurd he (by decide)
  · obtain ⟨k, _, hk⟩ := walk_append hway dots
    rw [hk]
    rcases walk_stays_cases k hoccupied (fun j hj => .inr (hdots j hj)) with hs | ⟨c, hc, hs⟩
    · exact hs
    · rw [← hk] at hs
      cases (walk_append_error hs [n]).symm.trans hmissing
      exact (hc rfl).elim

/-- A resolved path leads to something that is there, or goes on from such a place by names. -/
theorem resolveFrom_cases {fuel : Nat} {missing : List Name} (hd : d.WellFormed) (habs : p.isAbsolute = true)
    (hmissing : ∀ k ∈ missing, Path.IsName k) (h : d.resolveFrom fuel p missing = .ok target) :
    (∃ l, d.walk .stepwise linkLimit [] p.names = .ok l ∧ target = Location.toPath (l ++ missing)) ∨
    ∃ before n rest l, d.Missing [] p.steps before n rest l ∧
      target = Location.toPath (l ++ n :: Path.named rest ++ missing) := by
  induction fuel generalizing p missing with
  | zero => cases h
  | succ fuel ih =>
    rw [resolveFrom] at h
    split at h
    · next found hfound =>
      obtain ⟨_, _, hfound⟩ := bind_eq_ok.1 hfound
      obtain ⟨l, hl, he⟩ := bind_eq_ok.1 hfound
      cases he
      cases h
      rw [start_absolute habs] at hl
      obtain ⟨e, he⟩ := Option.isSome_iff_exists.1 (walk_occupied hd (l := []) rfl hl)
      exact .inl ⟨l, hl, toPath_below (hd.isName he) hmissing⟩
    · next hcanonical =>
      split at h
      · next q n hq hn =>
        obtain ⟨q', dots, dots', hq', hqabs, hdots, hdots', hsteps⟩ := Path.steps_parent hn
        obtain rfl : q' = q := Option.some.inj (hq'.symm.trans hq)
        have hname := Path.isName_of_fileName? hn
        have hp : d.walk .stepwise linkLimit [] p.names = .error .notFound := by
          rw [canonicalize, start_absolute habs] at hcanonical
          cases hc : checkPath p with
          | error c =>
            rw [hc] at hcanonical
            cases hcanonical
            exact (checkPath_ne_notFound habs hc).elim
          | ok u =>
            rw [hc] at hcanonical
            cases hw : d.walk .stepwise linkLimit [] p.names with
            | error c =>
              rw [hw] at hcanonical
              exact congrArg _ (Except.error.inj hcanonical)
            | ok l =>
              rw [hw] at hcanonical
              cases hcanonical
        have hmore : ∀ k ∈ n :: missing, Path.IsName k := by
          intro k hk
          rcases List.mem_cons.1 hk with rfl | hk
          · exact hname
          · exact hmissing k hk
        rcases ih (hqabs.trans habs) hmore h with ⟨l, hl, rfl⟩ | ⟨before, n₀, rest, l, hm, rfl⟩
        · refine .inr ⟨_, n, dots', l, .first hd hdots hdots' hname hsteps hl hp, ?_⟩
          rw [Path.named_dots hdots']
          simp
        · refine .inr ⟨before, n₀, rest ++ (dots ++ n :: dots'), l, ?_, ?_⟩
          · refine ⟨by rw [hsteps, hm.steps_eq]; simp, hm.isName, fun k hk => ?_, hm.way, hm.missing⟩
            rcases List.mem_append.1 hk with hk | hk
            · exact hm.names k hk
            · rcases List.mem_append.1 hk with hk | hk
              · rw [hdots k hk]
                decide
              · rcases List.mem_cons.1 hk with rfl | hk
                · exact hname.ne_above
                · rw [hdots' k hk]
                  decide
          · rw [Path.named_append, Path.named_append, Path.named_cons _ hname, Path.named_dots hdots,
              Path.named_dots hdots']
            simp
      · cases h
    · cases h

/-! ## Where it is made -/

/-- Names lead through directories to the place that they spell, where there are no links. -/
theorem leg_named {l : Location} {xs : List Name} {r : Leg} (hfree : d.LinkFree l) (habove : ∀ k ∈ xs, k ≠ Path.above)
    (h : d.leg f l xs = .ok r) : r = .arrived (l ++ Path.named xs) := by
  fun_induction leg d f l xs with
  | case1 l => simpa [Path.named] using (Except.ok.inj h).symm
  | case2 l k rest c hc => cases h
  | case3 l k rest u hu hk ih =>
    have hdrop : Path.named (k :: rest) = Path.named rest := List.filter_cons_of_neg (by simp [hk])
    rw [hdrop]
    exact ih hfree (fun j hj => habove j (List.mem_cons_of_mem _ hj)) h
  | case4 l k rest u hu hk hup ih => exact (habove k List.mem_cons_self (by simpa using hup)).elim
  | case5 l k rest u hu hk hup hlong => cases h
  | case6 l k rest u hu hk hup hlong hnone => cases h
  | case7 l k rest u hu hk hup hlong target hlink => exact (hfree [k] target hlink).elim
  | case8 l k rest u hu hk hup hlong e hother he ih =>
    have hkeep : Path.named (k :: rest) = k :: Path.named rest := List.filter_cons_of_pos (by simpa using hk)
    rw [hkeep, List.append_cons]
    refine ih (fun tail target => ?_) (fun j hj => habove j (List.mem_cons_of_mem _ hj)) h
    rw [List.append_assoc]
    exact hfree ([k] ++ tail) target

theorem walk_named {links : Nat} {l l' : Location} {xs : List Name} (hfree : d.LinkFree l)
    (habove : ∀ k ∈ xs, k ≠ Path.above) (h : d.walk f links l xs = .ok l') : l' = l ++ Path.named xs := by
  unfold walk at h
  split at h
  · cases h
  · next hleg =>
    cases h
    exact Leg.arrived.inj (leg_named hfree habove hleg)
  · next hleg => cases leg_named hfree habove hleg

/-- Where directories are made, all directories before may be searched. -/
theorem makeDirectories_way {before rest : List Name} {l : Location}
    (hsteps : p.steps = before ++ n :: rest) (hway : d.walk .stepwise linkLimit (d.start p) before = .ok l)
    (hmake : d.makeDirectories p = (.ok (), d')) : d.walk .whole linkLimit (d.start p) before = .ok l := by
  rcases walk_whole d linkLimit (d.start p) before with h | h
  · rw [h, hway]
  · exfalso
    obtain ⟨ks, last, hlast⟩ : ∃ ks last, n :: rest = ks ++ [last] :=
      ⟨_, _, (List.dropLast_append_getLast (List.cons_ne_nil n rest)).symm⟩
    have hinit : p.steps = (before ++ ks) ++ [last] := by rw [hsteps, hlast, List.append_assoc]
    have hdir := isDirectory_error hsteps h
    obtain ⟨c, hc, herror⟩ : ∃ c, c ≠ .notFound ∧ d.makeDirectory p = .error c := by
      rcases makeDirectory_error hinit (walk_append_error h ks) with herror | herror
      · exact ⟨.denied, by simp, herror⟩
      · exact herror
    cases hdir.symm.trans (isDirectory_of_made (bytes_ne_nil hinit) hc herror hmake)

/-- Where a path goes on by missing names, there is nothing if it can be made. -/
theorem Missing.vacant {before rest : List Name} {l : Location} (hd : d.WellFormed)
    (hm : d.Missing (d.start p) p.steps before n rest l) (hmake : d.makeDirectories p = (.ok (), d')) :
    d.get? (l ++ [n]) = none := by
  obtain ⟨c, hnowhere⟩ : ∃ c, d.walk .whole linkLimit (d.start p) (before ++ [n]) = .error c := by
    rcases walk_whole d linkLimit (d.start p) (before ++ [n]) with h | h
    · exact ⟨_, h.trans hm.missing⟩
    · exact ⟨_, h⟩
  by_contra hthere
  refine makeDirectoriesFrom_dangling (p.bytes.length + 1) hd hm.steps_eq hm.isName hm.names
    (makeDirectories_way hm.steps_eq hm.way hmake) (Option.isSome_iff_ne_none.2 hthere) hnowhere ?_
  rw [← makeDirectories, hmake]

/-- When such a path has been made, there are directories only from there on. -/
theorem Missing.hollow {before rest : List Name} {l : Location} (hd : d.WellFormed)
    (hm : d.Missing (d.start p) p.steps before n rest l) (hmake : d.makeDirectories p = (.ok (), d')) :
    d'.Hollow (l ++ [n]) := by
  have hadds : Adds d d' := by
    have hadds := makeDirectoriesFrom_adds (p.bytes.length + 1) d p
    rwa [← makeDirectories, hmake] at hadds
  have hvacant := hm.vacant hd hmake
  intro tail e he
  rcases hadds _ _ he with hold | hnew
  · by_cases htail : tail = []
    · rw [htail, List.append_nil, hvacant] at hold
      cases hold
    · rw [hd.vacant_below (by simp [hvacant]) htail] at hold
      cases hold
  · exact hnew

/-- A path that goes on by missing names leads through them once it has been made. -/
theorem Missing.made {before rest : List Name} {l place : Location} (hd : d.WellFormed)
    (hm : d.Missing (d.start p) p.steps before n rest l) (hmake : d.makeDirectories p = (.ok (), d'))
    (hplace : d'.Leads p place) : place = l ++ n :: Path.named rest := by
  have hgrows : Grows d d' := by simpa [hmake] using makeDirectories_grows d p
  have hway := makeDirectories_way hm.steps_eq hm.way hmake
  have hfree := (hm.hollow hd hmake).linkFree
  rw [Leads, hgrows.keeps.start, hm.steps_eq, List.append_cons] at hplace
  obtain ⟨l₂, j, hl₂, hj⟩ := walk_left hplace
  obtain ⟨l₁, i, hl₁, hi⟩ := walk_left hl₂
  obtain rfl := Except.ok.inj ((walk_mono hgrows.keeps hway).symm.trans hl₁)
  have harrive : l₂ = l ++ [n] := by
    rw [walk, leg_name hm.isName] at hi
    cases henter : d'.enter l with
    | error c => simp [henter] at hi
    | ok m =>
      by_cases hlen : Path.nameLimit < n.length
      · simp [henter, hlen] at hi
      · cases hget : d'.get? (l ++ [n]) with
        | none => simp [henter, hlen, hget] at hi
        | some e =>
          cases e with
          | link target => exact (hfree [] target (by rw [List.append_nil, hget])).elim
          | file bytes m | directory m => simpa [henter, hlen, hget, eq_comm] using hi
  rw [harrive] at hj
  rw [walk_named hfree hm.names hj, List.append_assoc, List.singleton_append]

/-! ## From the root -/

theorem directories_above {l : Location} {m : Mode} (hd : d.WellFormed) (h : d.get? l = some (.directory m)) :
    ∀ k, k <+: l → ∃ m, d.get? ([] ++ k) = some (.directory m) := by
  rintro k ⟨rest, rfl⟩
  rw [List.nil_append]
  by_cases hrest : rest = []
  · exact ⟨m, by rwa [hrest, List.append_nil] at h⟩
  · exact hd.above h hrest

/-- From the root, the way goes through the directory where a path starts. -/
theorem walk_from_root {links : Nat} {s l : Location} {m : Mode} {xs : List Name} (hd : d.WellFormed)
    (hs : d.get? s = some (.directory m)) (h : d.walk f links [] (s ++ xs) = .ok l) (ys : List Name) :
    d.walk f links [] (s ++ ys) = d.walk f links s ys := by
  rcases leg_directories f (hd.isName hs) (directories_above hd hs) with hleg | ⟨c, _, hleg⟩
  · exact walk_arrived hleg ys
  · rw [walk_append_error (c := c) (by rw [walk, hleg]) xs] at h
    cases h

/-- What is missing on the way from the root is missing on the way from where the path starts. -/
theorem Missing.from_start {s l : Location} {m : Mode} {steps before rest : List Name} (hd : d.WellFormed)
    (hs : d.get? s = some (.directory m)) (h : d.Missing [] (s ++ steps) before n rest l) :
    ∃ before', before = s ++ before' ∧ d.Missing s steps before' n rest l := by
  obtain ⟨before', rfl, hsteps⟩ : ∃ before', before = s ++ before' ∧ steps = before' ++ n :: rest := by
    rcases List.append_eq_append_iff.1 h.steps_eq with ⟨xs, hbefore, hsteps⟩ | ⟨xs, hxs, hrest⟩
    · exact ⟨xs, hbefore, hsteps⟩
    · cases xs with
      | nil => exact ⟨[], by simpa using hxs.symm, hrest.symm⟩
      | cons x xs =>
        -- The directories down to the start are there.
        obtain ⟨rfl, _⟩ := List.cons.inj hrest
        have habove : before ++ [n] <+: s := ⟨xs, by rw [hxs]; simp⟩
        have hnames : ∀ k ∈ before ++ [n], Path.IsName k := fun k hk => hd.isName hs k (habove.subset hk)
        rcases walk_directories .stepwise linkLimit (l := []) hnames
          (fun k hk => directories_above hd hs k (hk.trans habove)) with hw | ⟨c, hc, hw⟩
        · cases hw.symm.trans h.missing
        · cases hw.symm.trans h.missing
          exact (hc rfl).elim
  refine ⟨before', rfl, hsteps, h.isName, h.names, ?_, ?_⟩
  · rw [← walk_from_root hd hs h.way before']
    exact h.way
  · rw [← walk_from_root hd hs h.way (before' ++ [n]), ← List.append_assoc]
    exact h.missing

theorem steps_from_root {m : Mode} (hd : d.WellFormed) (hs : d.get? (d.start p) = some (.directory m)) :
    (d.currentPath.join p).steps = d.start p ++ p.steps := by
  cases hp : p.isAbsolute with
  | true => rw [Path.join_of_isAbsolute _ hp, start_absolute hp, List.nil_append]
  | false =>
    have hstart : d.start p = d.current := by rw [start, hp, if_neg (by simp)]
    rw [hstart] at hs ⊢
    rw [Path.steps_join_path _ hp, currentPath, (Path.steps_toPath (hd.isName hs)).1]

theorem isAbsolute_from_root (d : Disk) (p : Path) : (d.currentPath.join p).isAbsolute = true := by
  refine Path.isAbsolute_join_path p ?_
  rw [currentPath]
  cases d.current <;> simp [Location.toPath, Path.isAbsolute]

/-- The end of a path that can be looked up can be looked up. -/
theorem checkPath_join_right {q : Path} (h : checkPath (q.join p) = .ok ()) (hp : p.bytes ≠ []) :
    checkPath p = .ok () := by
  refine checkPath_of_sublist h (List.IsSuffix.sublist ?_) hp
  cases habs : p.isAbsolute with
  | true => rw [Path.join_of_isAbsolute _ habs]
  | false =>
    rw [Path.join_bytes q habs, ← List.append_assoc]
    exact List.suffix_append _ _

theorem makeDirectories_leads_start {m : Mode} (hs : d.get? (d.start p) = some (.directory m))
    (h : d.makeDirectories p = (.ok (), d')) : ∃ l m, d'.Leads p l ∧ d'.get? l = some (.directory m) := by
  by_cases hp : p.bytes = []
  · rw [start, if_neg (by simp [Path.isAbsolute, hp])] at hs
    exact makeDirectories_leads hs h
  · exact makeDirectories_leads_of_ne hp h

/-- The resolved path of something that is not there yet is its canonical path once it has been made. -/
theorem resolve_made {m : Mode} (hd : d.WellFormed) (hs : d.get? (d.start p) = some (.directory m))
    (h : d.resolve p = .ok target) (hmake : d.makeDirectories p = (.ok (), d')) :
    ∃ place m', target = place.toPath ∧ d'.Leads p place ∧ d'.get? place = some (.directory m') ∧
      d'.canonicalize (d'.currentPath.join p) = .ok target ∧ (p.bytes ≠ [] → d'.canonicalize p = .ok target) := by
  have hgrows : Grows d d' := by simpa [hmake] using makeDirectories_grows d p
  obtain ⟨place, m', hplace, hdir⟩ := makeDirectories_leads_start hs hmake
  have habs := isAbsolute_from_root d p
  have hsteps := steps_from_root hd hs
  have hcheck : checkPath (d.currentPath.join p) = .ok () := by
    cases hc : checkPath (d.currentPath.join p) with
    | ok u => rfl
    | error c =>
      have hcanonical : d.canonicalize (d.currentPath.join p) = .error c := by rw [canonicalize, hc]; rfl
      rw [resolve, resolveFrom_error hcanonical fun he => checkPath_ne_notFound habs (he ▸ hc)] at h
      cases h
  have hstep := walk_stepwise hplace
  rw [hgrows.keeps.start] at hstep
  have hs' := hgrows.keeps.get _ _ hs
  -- Either the path was there before, or it went on by missing names; from the root it passes where it starts.
  obtain ⟨htarget, xs, l, hway⟩ : target = place.toPath ∧
      ∃ xs l, d'.walk .stepwise linkLimit [] (d.start p ++ xs) = .ok l := by
    rcases resolveFrom_cases hd habs (by simp) h with ⟨l, hl, rfl⟩ | ⟨before, n, rest, l, hm, rfl⟩
    · rw [(d.currentPath.join p).names_eq] at hl
      obtain ⟨l₁, k, hl₁, hk⟩ := walk_left hl
      have hstays : l = l₁ := by
        refine walk_stays (fun j hj => .inl ?_) hk
        split at hj <;> simp_all
      rw [← hstays, hsteps] at hl₁
      have hl' := walk_mono hgrows.keeps hl₁
      refine ⟨?_, p.steps, l, hl'⟩
      rw [walk_from_root (hgrows.wellFormed hd) hs' hl' p.steps, hstep] at hl'
      rw [Except.ok.inj hl', List.append_nil]
    · rw [hsteps] at hm
      obtain ⟨before', rfl, hm'⟩ := hm.from_start hd hs
      refine ⟨?_, before', l, walk_mono hgrows.keeps hm.way⟩
      rw [List.append_nil, hm'.made hd hmake hplace]
  refine ⟨place, m', htarget, hplace, hdir, ?_, fun hp => ?_⟩
  · have hcurrent : d'.currentPath = d.currentPath := by rw [currentPath, currentPath, hgrows.keeps.current]
    have hroot : d'.walk .stepwise linkLimit [] (d.currentPath.join p).steps = .ok place := by
      rw [hsteps, walk_from_root (hgrows.wellFormed hd) hs' hway, hstep]
    rw [hcurrent, canonicalize, hcheck, start_absolute habs, walk_names hroot hdir, htarget]
    rfl
  · rw [htarget]
    exact canonicalize_of_locate (locate_eq_ok.2 ⟨checkPath_join_right hcheck hp, walk_names hplace hdir⟩)

end Disk

open Disk

/-- The check of the roots is about the directory that the output will be: if the roots pass it and the output can be
made, then the resolved path of the output is its canonical path, and that is not at or below the canonical path of the
input. The search for the resolved path always comes to an end by itself. An empty path stands for the current
directory, which has to be there. -/
theorem output_predicted (d : Disk) (output : Path) :
    (∀ fuel, (d.currentPath.join output).bytes.length < fuel →
      d.resolveFrom fuel (d.currentPath.join output) [] = d.resolve output) ∧
    ∀ input d', d.WellFormed → (output.bytes = [] → ∃ m, d.get? d.current = some (.directory m)) →
      checkRoots d input output = .ok () → d.makeDirectories output = (.ok (), d') →
      ∃ place inputPlace : Location, d.resolve output = .ok place.toPath ∧
        d'.canonicalize (d'.currentPath.join output) = .ok place.toPath ∧
        (output.bytes ≠ [] → d'.canonicalize output = .ok place.toPath) ∧
        d.canonicalize input = .ok inputPlace.toPath ∧ d'.canonicalize input = .ok inputPlace.toPath ∧
        ¬ inputPlace <+: place ∧
        (Location.toPath place).startsWith inputPlace.toPath = false := by
  refine ⟨fun fuel hfuel => resolveFrom_fuel hfuel (Nat.lt_succ_self _), ?_⟩
  intro input d' hd hempty hroots hmake
  obtain ⟨inputPlace, m, target, hinput, hdir, htarget, hout⟩ := checkRoots_eq_ok hroots
  obtain ⟨m₀, hs⟩ : ∃ m, d.get? (d.start output) = some (.directory m) := by
    by_cases hbytes : output.bytes = []
    · rw [start, if_neg (by simp [Path.isAbsolute, hbytes])]
      exact hempty hbytes
    · exact makeDirectoriesFrom_start _ hbytes hmake
  obtain ⟨place, m', rfl, _, hplace, hroot, hcanonical⟩ := resolve_made hd hs htarget hmake
  have hgrows : Grows d d' := by simpa [hmake] using makeDirectories_grows d output
  refine ⟨place, inputPlace, htarget, hroot, hcanonical, canonicalize_of_locate hinput,
    canonicalize_of_locate (locate_mono hgrows.keeps hinput), fun hp => ?_, hout⟩
  have hinside := (Path.startsWith_toPath (hd.isName hdir) ((hgrows.wellFormed hd).isName hplace)).2 hp
  rw [hinside] at hout
  cases hout

/-- A tree, and a way out of its directory through a link. -/
def linkedAway : Disk where
  current := [Text.encode "w"]
  entries :=
    [([Text.encode "w"], .directory 0o755),
      ([Text.encode "w", Text.encode "suite"], .directory 0o755),
      ([Text.encode "w", Text.encode "suite", Text.encode "a.txt"], .file (Text.encode "tap") 0o644),
      ([Text.encode "far"], .directory 0o755),
      ([Text.encode "far", Text.encode "deep"], .directory 0o755),
      ([Text.encode "w", Text.encode "link"], .link (.ofString "../far/deep"))]

theorem output_predicted_linkedAway :
    linkedAway.resolve (.ofString "link/.././out/new") = .ok (.ofString "/far/out/new") ∧
    (linkedAway.makeDirectories (.ofString "link/.././out/new")).2.canonicalize (.ofString "link/.././out/new") =
      .ok (.ofString "/far/out/new") := by
  have hresolve : linkedAway.resolve (.ofString "link/.././out/new") = .ok (.ofString "/far/out/new") := by
    decide +kernel
  have hd : linkedAway.WellFormed := by decide +kernel
  have hroots : checkRoots linkedAway (.ofString "suite") (.ofString "link/.././out/new") = .ok () := by
    decide +kernel
  have hok : (linkedAway.makeDirectories (.ofString "link/.././out/new")).1 = .ok () := by decide +kernel
  have hempty : (Path.ofString "link/.././out/new").bytes ≠ [] := by decide +kernel
  obtain ⟨place, _, hplace, _, hcanonical, _⟩ := (output_predicted linkedAway (.ofString "link/.././out/new")).2
    (.ofString "suite") _ hd (fun h => (hempty h).elim) hroots (Prod.ext hok rfl)
  refine ⟨hresolve, (hcanonical hempty).trans ?_⟩
  rw [← hplace, hresolve]

end Retarget

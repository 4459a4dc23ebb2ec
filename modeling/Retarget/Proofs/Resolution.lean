import Retarget.Proofs.TreeOutput

/-!
# Resolved paths

The canonical path of something is the path of its place, and a path that ends under a name in a directory is resolved
to the place under that name, whether something stands there or not. Only a link at that place leads elsewhere.

* `Disk.canonicalize_of_locate`: canonical paths and places,
* `Disk.way_eq`: the way to a path from the root and from the current directory,
* `Disk.resolve_join`: the resolved path of a name after a path,
* `checkRoots_eq_ok`: what a check of the roots makes sure of.
-/

namespace Retarget.Disk

variable {d : Disk} {f : Follow} {q target : Path} {n : Name}

/-! ## Step by step -/

theorem mayStep_stepwise {l : Location} {k : Name} {u : Unit} (h : d.mayStep .whole l k = .ok u) :
    d.mayStep .stepwise l k = .ok u := by
  obtain ⟨m, hm⟩ := mayStep_directory h
  unfold mayStep
  split
  · rw [directoryMode_eq_ok.2 hm]
    rfl
  · next hk =>
    have hwhole : (Follow.whole == Follow.stepwise) = false := rfl
    rw [Bool.or_eq_true, not_or] at hk
    rw [mayStep, hwhole, Bool.false_and, Bool.or_false, if_neg hk.1] at h
    exact h

theorem leg_stepwise {l : Location} {names : List Name} {r : Leg} (h : d.leg .whole l names = .ok r) :
    d.leg .stepwise l names = .ok r := by
  fun_induction leg d .whole l names with
  | case1 l => exact h
  | case2 l k rest c hc => cases h
  | case3 l k rest u hu hk ih =>
    rw [leg, mayStep_stepwise hu]
    simp only [hk, if_true]
    exact ih h
  | case4 l k rest u hu hk habove ih =>
    rw [leg, mayStep_stepwise hu]
    simp only [hk, Bool.false_eq_true, if_false, habove, if_true]
    exact ih h
  | case5 l k rest u hu hk habove hlong => cases h
  | case6 l k rest u hu hk habove hlong hnone => cases h
  | case7 l k rest u hu hk habove hlong target hlink =>
    rw [leg, mayStep_stepwise hu]
    simp only [hk, Bool.false_eq_true, if_false, habove, hlong, hlink]
    exact h
  | case8 l k rest u hu hk habove hlong e hother he ih =>
    rw [leg, mayStep_stepwise hu]
    simp only [hk, Bool.false_eq_true, if_false, habove, hlong, he]
    cases e with
    | link target => exact (hother target rfl).elim
    | file bytes m | directory m => exact ih h

/-- Names lead to the same place one by one as all at once. -/
theorem walk_stepwise {links : Nat} {l l' : Location} {names : List Name} (h : d.walk .whole links l names = .ok l') :
    d.walk .stepwise links l names = .ok l' := by
  induction links generalizing l names with
  | zero =>
    unfold walk at h ⊢
    split at h
    · cases h
    · next l₁ hleg =>
      rw [leg_stepwise hleg]
      exact h
    · cases h
  | succ links ih =>
    unfold walk at h ⊢
    split at h
    · cases h
    · next l₁ hleg =>
      rw [leg_stepwise hleg]
      exact h
    · next l₁ target rest hleg =>
      rw [leg_stepwise hleg]
      exact ih h

/-- The canonical path of something is the path of its place. -/
theorem canonicalize_of_locate {p : Path} {l : Location} (h : d.locate p = .ok l) :
    d.canonicalize p = .ok l.toPath := by
  obtain ⟨hc, hw⟩ := locate_eq_ok.1 h
  rw [canonicalize, hc, walk_stepwise hw]
  rfl

/-! ## Names after a way -/

/-- Names that are followed without meeting a link use up no links. -/
theorem walk_arrived {links : Nat} {l l' : Location} {xs : List Name} (h : d.leg f l xs = .ok (.arrived l'))
    (ys : List Name) : d.walk f links l (xs ++ ys) = d.walk f links l' ys := by
  rw [walk, walk, leg_append, h]

/-- Names that stay in a directory lead nowhere else. -/
theorem leg_stays {l : Location} {names : List Name} {r : Leg} (hstay : ∀ k ∈ names, k = [] ∨ k = Path.here)
    (h : d.leg f l names = .ok r) : r = .arrived l := by
  induction names with
  | nil => exact (Except.ok.inj h).symm
  | cons k rest ih =>
    have hk : (k.isEmpty || k == Path.here) = true := by simpa using hstay k List.mem_cons_self
    rw [leg] at h
    cases hu : d.mayStep f l k with
    | error c => rw [hu] at h; cases h
    | ok u =>
      simp only [hu, hk, if_true] at h
      exact ih (fun k hk => hstay k (List.mem_cons_of_mem _ hk)) h

theorem walk_stays {links : Nat} {l l' : Location} {names : List Name} (hstay : ∀ k ∈ names, k = [] ∨ k = Path.here)
    (h : d.walk f links l names = .ok l') : l' = l := by
  unfold walk at h
  split at h
  · cases h
  · next hleg =>
    cases h
    exact Leg.arrived.inj (leg_stays hstay hleg)
  · next hleg => cases leg_stays hstay hleg

/-- A directory stays where it is. -/
theorem walk_empty (links : Nat) {l : Location} {m : Mode} (h : d.get? l = some (.directory m)) :
    d.walk f links l [[]] = .ok l := by
  have hstep : d.mayStep f l [] = .ok () := by
    rw [mayStep, if_pos (by simp), directoryMode_eq_ok.2 h]
    rfl
  rw [walk, leg, hstep]
  simp [leg]

/-- The names of a path lead where its steps lead, if that is a directory. -/
theorem walk_names {p : Path} {links : Nat} {l l' : Location} {m : Mode} (h : d.walk f links l p.steps = .ok l')
    (hdir : d.get? l' = some (.directory m)) : d.walk f links l p.names = .ok l' := by
  rw [p.names_eq]
  split
  · obtain ⟨k, _, hk⟩ := walk_append h [[]]
    rw [hk, walk_empty k hdir]
  · rw [List.append_nil, h]

/-! ## Resolved paths -/

theorem checkPath_ne_notFound {p : Path} (h : p.isAbsolute = true) : checkPath p ≠ .error .notFound := by
  have hne : p.bytes.isEmpty = false := by
    cases hp : p.bytes with
    | nil => simp [Path.isAbsolute, hp] at h
    | cons b bs => rfl
  unfold checkPath
  rw [hne]
  split
  · simp
  · simp only [Bool.false_eq_true, if_false]
    split <;> simp

theorem start_absolute (h : q.isAbsolute = true) : d.start q = [] := by rw [start, if_pos h]

/-- A name after a way: the place under the name, or nothing in a directory, or something that is not followed. -/
theorem walk_name_cases {links : Nat} {l l' : Location} {xs : List Name} (h : d.walk f links l xs = .ok l')
    (hl' : (d.get? l').isSome) (hn : Path.IsName n) (hlink : ∀ t, d.get? (l' ++ [n]) ≠ some (.link t)) :
    (d.walk f links l (xs ++ [n]) = .ok (l' ++ [n]) ∧ (d.get? (l' ++ [n])).isSome) ∨
    (d.walk f links l (xs ++ [n]) = .error .notFound ∧ (∃ m, d.get? l' = some (.directory m)) ∧
      d.get? (l' ++ [n]) = none) ∨
    ∃ c, c ≠ .notFound ∧ d.walk f links l (xs ++ [n]) = .error c := by
  obtain ⟨k, _, hk⟩ := walk_append h [n]
  rw [hk, walk, leg_name hn]
  -- Only a directory may be entered.
  obtain ⟨e, he⟩ := Option.isSome_iff_exists.1 hl'
  cases e with
  | file bytes m | link t =>
    refine .inr (.inr ⟨.notDirectory, by simp, ?_⟩)
    simp [enter, directoryMode, he, bind, Except.bind]
  | directory m =>
    simp only [enter, directoryMode_eq_ok.2 he, bind, Except.bind]
    by_cases hs : d.maySearch m = true
    · by_cases hlen : Path.nameLimit < n.length
      · exact .inr (.inr ⟨.nameTooLong, by simp, by simp [hs, hlen]⟩)
      · cases hg : d.get? (l' ++ [n]) with
        | none => exact .inr (.inl ⟨by simp [hs, hlen], ⟨m, he⟩, rfl⟩)
        | some g =>
          cases g with
          | link t => exact (hlink t hg).elim
          | file bytes m' | directory m' => exact .inl ⟨by simp [hs, hlen], rfl⟩
    · exact .inr (.inr ⟨.denied, by simp, by simp [hs]⟩)

/-- A name that does not stand for a link leads to its own place only. -/
theorem Leads.join_unique {l l' : Location} {e : Entry} (h : d.Leads q l) (h' : d.Leads (q.join ⟨n⟩) l')
    (hl : d.get? l = some e) (hn : Path.IsName n) (hlink : ∀ t, d.get? (l ++ [n]) ≠ some (.link t)) :
    l' = l ++ [n] := by
  rw [Leads, start_join d q hn, q.steps_join hn] at h'
  rcases walk_name_cases h (by simp [hl]) hn hlink with ⟨hw, _⟩ | ⟨hw, _⟩ | ⟨c, _, hw⟩
  · exact Except.ok.inj (h'.symm.trans hw)
  · cases h'.symm.trans hw
  · cases h'.symm.trans hw

theorem canonicalize_join_cases {l : Location} (hd : d.WellFormed) (hq : q.isAbsolute = true) (hn : Path.IsName n)
    (hway : d.walk .stepwise linkLimit [] q.steps = .ok l) (hlink : ∀ t, d.get? (l ++ [n]) ≠ some (.link t)) :
    d.canonicalize (q.join ⟨n⟩) = .ok (Location.toPath (l ++ [n])) ∨
    (d.canonicalize (q.join ⟨n⟩) = .error .notFound ∧ ∃ m, d.get? l = some (.directory m)) ∨
    ∃ c, c ≠ .notFound ∧ d.canonicalize (q.join ⟨n⟩) = .error c := by
  have hcheck := checkPath_join_ne_notFound q hn
  rw [canonicalize, start_join d q hn, q.names_join hn, start_absolute hq]
  cases hc : checkPath (q.join ⟨n⟩) with
  | error c => exact .inr (.inr ⟨c, by rintro rfl; exact hcheck hc, rfl⟩)
  | ok u =>
    rcases walk_name_cases hway (walk_occupied hd (l := []) rfl hway) hn hlink with
      ⟨hw, _⟩ | ⟨hw, hdir, _⟩ | ⟨c, hne, hw⟩
    · exact .inl (by rw [hw]; rfl)
    · exact .inr (.inl ⟨by rw [hw]; rfl, hdir⟩)
    · exact .inr (.inr ⟨c, hne, by rw [hw]; rfl⟩)

/-- The parent of a name after a way is where the way leads. -/
theorem canonicalize_parent {l : Location} {m : Mode} {p : Path} (hq : q.isAbsolute = true) (hn : Path.IsName n)
    (hway : d.walk .stepwise linkLimit [] q.steps = .ok l) (hdir : d.get? l = some (.directory m))
    (hp : (q.join ⟨n⟩).parent? = some p) :
    d.canonicalize p = .ok l.toPath ∨ ∃ c, c ≠ .notFound ∧ d.canonicalize p = .error c := by
  obtain ⟨p', dots, hp', habs, hdots, hsteps⟩ := q.parent?_join hn
  obtain rfl : p' = p := Option.some.inj (hp'.symm.trans hp)
  have habs' := habs.trans hq
  rw [canonicalize, start_absolute habs']
  cases hc : checkPath p' with
  | error c => exact .inr ⟨c, by rintro rfl; exact checkPath_ne_notFound habs' hc, rfl⟩
  | ok u =>
    rw [hsteps] at hway
    obtain ⟨l', k, hl', hk⟩ := walk_left hway
    obtain rfl := walk_stays (fun k hk => .inr (hdots k hk)) hk
    rw [walk_names hl' hdir]
    exact .inl rfl

theorem resolveFrom_error {fuel : Nat} {p : Path} {missing : List Name} {c : Cause} (h : d.canonicalize p = .error c)
    (hc : c ≠ .notFound) : d.resolveFrom (fuel + 1) p missing = .error c := by
  rw [resolveFrom, h]
  cases c <;> simp_all

/-- A path that ends under a name, by its way from the root. -/
theorem resolve_join_root (hd : d.WellFormed) (hn : Path.IsName n)
    (hfound : d.walk .stepwise linkLimit [] (d.currentPath.join q).steps ≠ .error .notFound)
    (h : d.resolve (q.join ⟨n⟩) = .ok target) :
    ∃ l, d.walk .stepwise linkLimit [] (d.currentPath.join q).steps = .ok l ∧
      ((∀ t, d.get? (l ++ [n]) ≠ some (.link t)) → target = Location.toPath (l ++ [n])) := by
  have habs : (d.currentPath.join q).isAbsolute = true := by
    refine Path.isAbsolute_join_path q ?_
    rw [currentPath]
    cases d.current <;> simp [Location.toPath, Path.isAbsolute]
  rw [resolve, ← Path.join_assoc _ _ hn] at h
  generalize d.currentPath.join q = p at *
  cases hway : d.walk .stepwise linkLimit [] p.steps with
  | error c =>
    -- Nothing is missing on the way, so nothing is left out.
    have hnames : d.walk .stepwise linkLimit [] (p.steps ++ [n]) = .error c := walk_append_error hway [n]
    have hcanonical : ∃ c', c' ≠ .notFound ∧ d.canonicalize (p.join ⟨n⟩) = .error c' := by
      rw [canonicalize, start_join d p hn, p.names_join hn, start_absolute habs, hnames]
      cases hc : checkPath (p.join ⟨n⟩) with
      | error c' => exact ⟨c', by rintro rfl; exact checkPath_join_ne_notFound p hn hc, rfl⟩
      | ok u => exact ⟨c, by rintro rfl; exact hfound hway, rfl⟩
    obtain ⟨c', hc', hcanonical⟩ := hcanonical
    rw [resolveFrom_error hcanonical hc'] at h
    cases h
  | ok l =>
    refine ⟨l, rfl, fun hlink => ?_⟩
    rcases canonicalize_join_cases hd habs hn hway hlink with hc | ⟨hc, m, hm⟩ | ⟨c, hne, hc⟩
    · rw [resolveFrom, hc] at h
      exact (Except.ok.inj h).symm
    · obtain ⟨p', _, hp', _⟩ := p.parent?_join hn
      obtain ⟨k, hk⟩ := Nat.exists_eq_succ_of_ne_zero fun hz => p.join_bytes_ne_nil hn (List.length_eq_zero_iff.1 hz)
      rw [resolveFrom, hc, p.fileName?_join hn, hp', hk] at h
      simp only at h
      rcases canonicalize_parent habs hn hway hm hp' with hparent | ⟨c, hne, hparent⟩
      · rw [resolveFrom, hparent] at h
        rw [← Path.toPath_join (hd.isName hm) hn]
        exact (Except.ok.inj h).symm
      · rw [resolveFrom_error hparent hne] at h
        cases h
    · rw [resolveFrom_error hc hne] at h
      cases h

/-- The way to a path from the root is the way from where the path starts, if the current directory can be reached. -/
theorem way_eq (hd : d.WellFormed) {m : Mode} (hcurrent : d.get? (d.start q) = some (.directory m)) :
    d.walk .stepwise linkLimit [] (d.currentPath.join q).steps = d.walk .stepwise linkLimit (d.start q) q.steps ∨
    ∃ c, c ≠ .notFound ∧ d.walk .stepwise linkLimit [] (d.currentPath.join q).steps = .error c := by
  cases hq : q.isAbsolute with
  | true =>
    rw [Path.join_of_isAbsolute _ hq, start_absolute hq]
    exact .inl rfl
  | false =>
    have hstart : d.start q = d.current := by rw [start, hq, if_neg (by simp)]
    rw [hstart] at hcurrent ⊢
    have hname := hd.isName hcurrent
    rw [Path.steps_join_path _ hq, currentPath, (Path.steps_toPath hname).1]
    have hdirs : ∀ k, k <+: d.current → ∃ m, d.get? ([] ++ k) = some (.directory m) := by
      rintro k ⟨rest, hrest⟩
      rw [List.nil_append]
      by_cases hnil : rest = []
      · rw [hnil, List.append_nil] at hrest
        exact ⟨m, hrest ▸ hcurrent⟩
      · rw [← hrest] at hcurrent
        exact hd.above hcurrent hnil
    rcases leg_directories .stepwise hname hdirs with hleg | ⟨c, hc, hleg⟩
    · exact .inl (walk_arrived hleg q.steps)
    · refine .inr ⟨c, hc, walk_append_error ?_ q.steps⟩
      rw [walk, hleg]

/-- A path that ends under a name is resolved to the place under the name, unless a link is there. -/
theorem resolve_join {m : Mode} (hd : d.WellFormed) (hn : Path.IsName n)
    (hstart : d.get? (d.start q) = some (.directory m))
    (hfound : d.walk .stepwise linkLimit (d.start q) q.steps ≠ .error .notFound)
    (h : d.resolve (q.join ⟨n⟩) = .ok target) :
    ∃ l, d.walk .stepwise linkLimit (d.start q) q.steps = .ok l ∧
      ((∀ t, d.get? (l ++ [n]) ≠ some (.link t)) → target = Location.toPath (l ++ [n])) := by
  rcases way_eq hd hstart with he | ⟨c, hc, he⟩
  · rw [← he] at hfound ⊢
    exact resolve_join_root hd hn hfound h
  · obtain ⟨l, hl, _⟩ := resolve_join_root hd hn (by rw [he]; simpa using hc) h
    cases he.symm.trans hl

end Retarget.Disk

namespace Retarget

open Disk

/-- What a check of the roots makes sure of. -/
theorem checkRoots_eq_ok {d : Disk} {input output : Path} (h : checkRoots d input output = .ok ()) :
    ∃ l m target, d.locate input = .ok l ∧ d.get? l = some (.directory m) ∧ d.resolve output = .ok target ∧
      target.startsWith l.toPath = false := by
  obtain ⟨found, hfound, h⟩ := bind_eq_ok.1 h
  obtain ⟨l, e, hl, he, rfl⟩ := metadata_eq_ok.1 (mapError_eq_ok.1 hfound)
  rw [canonicalize_of_locate hl] at h
  cases e with
  | file bytes m | link t => cases h
  | directory m =>
    obtain ⟨inside, hinside, h⟩ := bind_eq_ok.1 h
    cases hinside
    obtain ⟨target, htarget, h⟩ := bind_eq_ok.1 h
    refine ⟨l, m, target, hl, he, mapError_eq_ok.1 htarget, ?_⟩
    split at h
    · cases h
    · next hout => exact Bool.eq_false_iff.2 hout

end Retarget

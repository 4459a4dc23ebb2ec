import Retarget.Proofs.PredictedOutput

/-!
# What lookups pass

The trail of a lookup is cut where the lookup is cut, and it is the same on disks that agree along it. A way to a
directory passes no files. The directory that a file is written to is looked up from the root of the disk, and on that
way there is nothing but directories before the way of the output begins.

* `Disk.trail_append`: the trail of names after names,
* `Disk.trail_congr`: the trail on a disk that agrees along it,
* `Disk.trail_ways`: the trail of a way to a directory,
* `Disk.folder_lookup`: the lookup of the directory of a file that is written.
-/

namespace Retarget.Disk

variable {d d' : Disk} {f : Follow}

/-! ## Trails in parts -/

theorem legTrail_append (d : Disk) (f : Follow) (l : Location) (xs ys : List Name) :
    d.legTrail f l (xs ++ ys) = d.legTrail f l xs ++ match d.leg f l xs with
      | .ok (.arrived l') => d.legTrail f l' ys
      | _ => [] := by
  fun_induction leg d f l xs with
  | case1 l => rfl
  | case2 l n rest c hc => simp [legTrail, hc]
  | case3 l n rest u hu hn ih =>
    simp only [List.cons_append, legTrail, hu, hn, if_true, ih]
  | case4 l n rest u hu hn habove ih =>
    simp only [List.cons_append, legTrail, hu, hn, Bool.false_eq_true, if_false, habove, if_true, ih]
  | case5 l n rest u hu hn habove hlong =>
    simp [legTrail, hu, hn, habove, hlong]
  | case6 l n rest u hu hn habove hlong hnone =>
    simp [legTrail, hu, hn, habove, hlong, hnone]
  | case7 l n rest u hu hn habove hlong target hlink =>
    simp [legTrail, hu, hn, habove, hlong, hlink]
  | case8 l n rest u hu hn habove hlong e hother he ih =>
    simp only [List.cons_append, legTrail, hu, hn, Bool.false_eq_true, if_false, habove, hlong, he]
    cases e with
    | link target => exact (hother target rfl).elim
    | file bytes m | directory m => simp only [ih]

/-- The trail goes on where names have led to. -/
theorem trail_append {links : Nat} {l l' : Location} {xs : List Name} (h : d.walk f links l xs = .ok l')
    (ys : List Name) : ∃ k, d.walk f links l (xs ++ ys) = d.walk f k l' ys ∧
      d.trail f links l (xs ++ ys) = d.trail f links l xs ++ d.trail f k l' ys := by
  have harrived : ∀ {links : Nat} {l l' : Location} {xs : List Name}, d.leg f l xs = .ok (.arrived l') →
      d.walk f links l (xs ++ ys) = d.walk f links l' ys ∧
        d.trail f links l (xs ++ ys) = d.trail f links l xs ++ d.trail f links l' ys := by
    intro links l l' xs hleg
    refine ⟨walk_arrived hleg ys, ?_⟩
    rw [trail, trail, trail, legTrail_append, leg_append, hleg]
    simp
  induction links generalizing l xs with
  | zero =>
    unfold walk at h
    split at h
    · cases h
    · next l₁ hleg =>
      cases h
      exact ⟨0, harrived hleg⟩
    · cases h
  | succ links ih =>
    unfold walk at h
    split at h
    · cases h
    · next l₁ hleg =>
      cases h
      exact ⟨links + 1, harrived hleg⟩
    · next l₁ target rest hleg =>
      obtain ⟨k, hk, htrail⟩ := ih h
      rw [List.append_assoc] at hk htrail
      refine ⟨k, ?_, ?_⟩
      · rw [walk, leg_append, hleg, ← hk]
      · rw [trail, trail, legTrail_append, leg_append, hleg]
        simp only [List.append_nil, htrail, List.append_assoc]

/-- Names that stay in a directory pass that directory only. -/
theorem trail_stays {links : Nat} {l : Location} {names : List Name} (hstay : ∀ k ∈ names, k = [] ∨ k = Path.here) :
    ∀ k ∈ d.trail f links l names, k = l := by
  have hleg : ∀ k ∈ d.legTrail f l names, k = l := by
    induction names with
    | nil => simp [legTrail]
    | cons n rest ih =>
      have hn : (n.isEmpty || n == Path.here) = true := by simpa using hstay n List.mem_cons_self
      have hrest := ih fun k hk => hstay k (List.mem_cons_of_mem _ hk)
      rw [legTrail]
      cases d.mayStep f l n with
      | error c => simp
      | ok u => simpa [hn] using hrest
  intro k hk
  rw [trail] at hk
  cases hr : d.leg f l names with
  | error c => exact hleg k (by simpa [hr] using hk)
  | ok r =>
    cases leg_stays hstay hr
    exact hleg k (by simpa [hr] using hk)

/-! ## Trails on other disks -/

theorem legTrail_congr {l : Location} {names : List Name} (h : AgreesAt d d' (d.legTrail f l names))
    (hp : d'.privileged = d.privileged) : d'.legTrail f l names = d.legTrail f l names := by
  have hstep : ∀ l n, d'.get? l = d.get? l → d'.mayStep f l n = d.mayStep f l n := fun l n hl => mayStep_congr hl hp n
  fun_induction leg d f l names with
  | case1 l => rfl
  | case2 l n rest c hc =>
    rw [legTrail, legTrail, hstep l n (h l (by simp [legTrail])), hc]
  | case3 l n rest u hu hn ih =>
    simp only [legTrail, hu, hn, if_true] at h ⊢
    rw [hstep l n (h l List.mem_cons_self), hu, ih fun k hk => h k (List.mem_cons_of_mem _ hk)]
  | case4 l n rest u hu hn habove ih =>
    simp only [legTrail, hu, hn, Bool.false_eq_true, if_false, habove, if_true] at h ⊢
    rw [hstep l n (h l List.mem_cons_self), hu, ih fun k hk => h k (List.mem_cons_of_mem _ hk)]
  | case5 l n rest u hu hn habove hlong =>
    simp only [legTrail, hu, hn, Bool.false_eq_true, if_false, habove, hlong, if_true] at h ⊢
    rw [hstep l n (h l List.mem_cons_self), hu]
  | case6 l n rest u hu hn habove hlong hnone =>
    simp only [legTrail, hu, hn, Bool.false_eq_true, if_false, habove, hlong, hnone] at h ⊢
    rw [hstep l n (h l List.mem_cons_self), hu, h (l ++ [n]) (by simp), hnone]
  | case7 l n rest u hu hn habove hlong target hlink =>
    simp only [legTrail, hu, hn, Bool.false_eq_true, if_false, habove, hlong, hlink] at h ⊢
    rw [hstep l n (h l List.mem_cons_self), hu, h (l ++ [n]) (by simp), hlink]
  | case8 l n rest u hu hn habove hlong e hother he ih =>
    simp only [legTrail, hu, hn, Bool.false_eq_true, if_false, habove, hlong, he] at h ⊢
    rw [hstep l n (h l List.mem_cons_self), hu, h (l ++ [n]) (by simp), he]
    cases e with
    | link target => exact (hother target rfl).elim
    | file bytes m | directory m =>
      rw [ih fun k hk => h k (List.mem_cons_of_mem _ (List.mem_cons_of_mem _ hk))]

/-- A lookup passes the same places on disks that agree on the way. -/
theorem trail_congr {links : Nat} {l : Location} {names : List Name} (h : AgreesAt d d' (d.trail f links l names))
    (hp : d'.privileged = d.privileged) : d'.trail f links l names = d.trail f links l names := by
  induction links generalizing l names with
  | zero =>
    rw [trail] at h
    rw [trail, trail, leg_congr h.left hp, legTrail_congr h.left hp]
  | succ links ih =>
    rw [trail] at h
    rw [trail, trail, leg_congr h.left hp, legTrail_congr h.left hp]
    cases hr : d.leg f l names with
    | error c => rfl
    | ok r =>
      cases r with
      | arrived l' => rfl
      | atLink l' target rest =>
        rw [hr] at h
        simp only [ih h.right]

theorem pathTrail_congr {p : Path} (h : AgreesAt d d' (d.pathTrail p)) (hc : d'.current = d.current)
    (hp : d'.privileged = d.privileged) : d'.pathTrail p = d.pathTrail p := by
  have hstart : d'.start p = d.start p := by rw [start, start, hc]
  rw [pathTrail, pathTrail, hstart, trail_congr h.left hp, locate_congr h hc hp]

/-! ## Ways to directories -/

/-- Names that lead to a directory or a link pass no files. -/
theorem legTrail_ways {l : Location} {names : List Name} {r : Leg} (h : d.leg f l names = .ok r)
    (hr : ∀ l', r = .arrived l' → ∃ m, d.get? l' = some (.directory m)) :
    ∀ k ∈ d.legTrail f l names, ∀ bytes m, d.get? k ≠ some (.file bytes m) := by
  have hnofile : ∀ {k : Location} {e : Entry}, d.get? k = some e → (∀ bytes m, e ≠ .file bytes m) →
      ∀ bytes m, d.get? k ≠ some (.file bytes m) := by
    intro k e hk he bytes m hfile
    exact he bytes m (Option.some.inj (hk.symm.trans hfile))
  have hfirst : ∀ {l : Location} {n : Name} {u : Unit}, d.mayStep f l n = .ok u →
      ∀ bytes m, d.get? l ≠ some (.file bytes m) := by
    intro l n u hu
    obtain ⟨m, hm⟩ := mayStep_directory hu
    exact hnofile hm (by simp)
  fun_induction leg d f l names with
  | case1 l => simp [legTrail]
  | case2 l n rest c hc => cases h
  | case3 l n rest u hu hn ih =>
    simp only [legTrail, hu, hn, if_true]
    exact List.forall_mem_cons.2 ⟨hfirst hu, ih h⟩
  | case4 l n rest u hu hn habove ih =>
    simp only [legTrail, hu, hn, Bool.false_eq_true, if_false, habove, if_true]
    exact List.forall_mem_cons.2 ⟨hfirst hu, ih h⟩
  | case5 l n rest u hu hn habove hlong => cases h
  | case6 l n rest u hu hn habove hlong hnone => cases h
  | case7 l n rest u hu hn habove hlong target hlink =>
    simp only [legTrail, hu, hn, Bool.false_eq_true, if_false, habove, hlong, hlink]
    exact List.forall_mem_cons.2 ⟨hfirst hu, by simp [hlink]⟩
  | case8 l n rest u hu hn habove hlong e hother he ih =>
    simp only [legTrail, hu, hn, Bool.false_eq_true, if_false, habove, hlong, he]
    refine List.forall_mem_cons.2 ⟨hfirst hu, List.forall_mem_cons.2 ⟨?_, ?_⟩⟩
    · -- The place is the end, or it is left for the next name.
      cases rest with
      | nil =>
        obtain ⟨m, hm⟩ := hr _ (Except.ok.inj h).symm
        exact hnofile hm (by simp)
      | cons n' rest =>
        rw [leg] at h
        cases hu' : d.mayStep f (l ++ [n]) n' with
        | error c => rw [hu'] at h; cases h
        | ok u' => exact hfirst hu'
    · cases e with
      | link target => exact (hother target rfl).elim
      | file bytes m | directory m => exact ih h

/-- A way to a directory passes no files. -/
theorem trail_ways {links : Nat} {l l' : Location} {names : List Name} {m : Mode}
    (h : d.walk f links l names = .ok l') (hl' : d.get? l' = some (.directory m)) :
    ∀ k ∈ d.trail f links l names, ∀ bytes m, d.get? k ≠ some (.file bytes m) := by
  induction links generalizing l names with
  | zero =>
    unfold walk at h
    rw [trail]
    split at h
    · cases h
    · next l₁ hleg =>
      cases h
      simpa [hleg] using legTrail_ways hleg fun k hk => ⟨m, by cases hk; exact hl'⟩
    · cases h
  | succ links ih =>
    unfold walk at h
    rw [trail]
    split at h
    · cases h
    · next l₁ hleg =>
      cases h
      simpa [hleg] using legTrail_ways hleg fun k hk => ⟨m, by cases hk; exact hl'⟩
    · next l₁ target rest hleg =>
      intro k hk
      rw [hleg] at hk
      exact (List.mem_append.1 hk).elim (legTrail_ways hleg (by simp) k) (ih h k)

/-- Names that stand for directories pass directories only. -/
theorem legTrail_directories {l : Location} {xs : List Name} (hname : ∀ n ∈ xs, Path.IsName n)
    (hdirs : ∀ k, k <+: xs → ∃ m, d.get? (l ++ k) = some (.directory m)) :
    ∀ k ∈ d.legTrail f l xs, ∃ m, d.get? k = some (.directory m) := by
  induction xs using List.reverseRecOn with
  | nil => simp [legTrail]
  | append_singleton xs n ih =>
    have hname' : ∀ n ∈ xs, Path.IsName n := fun n hn => hname n (List.mem_append_left _ hn)
    have hdirs' : ∀ k, k <+: xs → ∃ m, d.get? (l ++ k) = some (.directory m) :=
      fun k hk => hdirs k (hk.trans (List.prefix_append _ _))
    intro k hk
    rw [legTrail_append] at hk
    rcases leg_directories f hname' hdirs' with hleg | ⟨c, _, hleg⟩
    · rw [hleg] at hk
      rcases List.mem_append.1 hk with hk | hk
      · exact ih hname' hdirs' k hk
      · -- The last name is looked up in a directory, and stands for one.
        obtain ⟨m, hm⟩ := hdirs xs (List.prefix_append _ _)
        obtain ⟨m', hm'⟩ := hdirs (xs ++ [n]) (List.prefix_refl _)
        rw [← List.append_assoc] at hm'
        have hplace : k = l ++ xs ∨ k = l ++ xs ++ [n] := by
          simp only [legTrail, hm'] at hk
          split at hk
          · exact .inl (by simpa using hk)
          · split at hk
            · exact .inl (by simpa using hk)
            · split at hk
              · exact .inl (by simpa using hk)
              · split at hk
                · exact .inl (by simpa using hk)
                · simpa using hk
        rcases hplace with rfl | rfl
        · exact ⟨m, hm⟩
        · exact ⟨m', hm'⟩
    · rw [hleg, List.append_nil] at hk
      exact ih hname' hdirs' k hk

/-! ## The directory of a file that is written -/

/-- The directory of a path that ends in a name has the steps before that name, but for full stops. -/
theorem folderOf_join (output : Path) {n : Name} (hn : Path.IsName n) :
    ∃ xs dots dots', (folderOf (output.join ⟨n⟩)).isAbsolute = output.isAbsolute ∧
      (folderOf (output.join ⟨n⟩)).steps = xs ++ dots ∧ output.steps = xs ++ dots' ∧
      (∀ k ∈ dots, k = Path.here) ∧ ∀ k ∈ dots', k = Path.here := by
  obtain ⟨q, dots, hparent, habs, hdots, hsteps⟩ := output.parent?_join hn
  rw [folderOf, hparent]
  by_cases hempty : q.bytes = []
  · have hq : q.steps = [] := by simp [Path.steps, hempty, Path.parts]
    have hrelative : output.isAbsolute = false := by rw [← habs]; simp [Path.isAbsolute, hempty]
    refine ⟨[], [Path.here], dots, ?_, ?_, by rw [hsteps, hq], by simp, hdots⟩
    · simp only [hempty, List.isEmpty_nil, if_true, hrelative]
      decide
    · simp only [hempty, List.isEmpty_nil, if_true]
      decide
  · have hne : q.bytes.isEmpty = false := by simpa using hempty
    exact ⟨q.steps, [], dots, by simp [hne, habs], by simp [hne], hsteps, by simp, hdots⟩

theorem start_directory {output : Path} {place : Location} {m : Mode} (h : d.Leads output place)
    (hdir : d.get? place = some (.directory m)) : ∃ m, d.get? (d.start output) = some (.directory m) := by
  rw [Leads] at h
  cases hsteps : output.steps with
  | nil =>
    rw [hsteps, walk, leg] at h
    cases h
    exact ⟨m, hdir⟩
  | cons n rest =>
    rw [hsteps, walk, leg] at h
    cases hu : d.mayStep .whole (d.start output) n with
    | error c => simp [hu] at h
    | ok u => exact mayStep_directory hu

/-- The names by which the directory of a file is looked up: the way to where the output starts, the steps of the
output, and what stays there. -/
theorem folder_names {output : Path} {n : Name} {m : Mode} (hd : d.WellFormed) (hn : Path.IsName n)
    (hs : d.get? (d.start output) = some (.directory m)) :
    ∃ xs stays dots, (d.currentPath.join (folderOf (output.join ⟨n⟩))).names = d.start output ++ (xs ++ stays) ∧
      output.steps = xs ++ dots ∧ (∀ k ∈ stays, k = [] ∨ k = Path.here) ∧ ∀ k ∈ dots, k = Path.here := by
  obtain ⟨xs, dots, dots', habs, hfolder, hsteps, hdots, hdots'⟩ := folderOf_join output hn
  generalize folderOf (output.join ⟨n⟩) = folder at habs hfolder ⊢
  have hstart : d.start folder = d.start output := by rw [start, start, habs]
  refine ⟨xs, dots ++ if (Path.parts (d.currentPath.join folder).bytes).getLast? == some [] then [[]] else [], dots',
    ?_, hsteps, fun k hk => ?_, hdots'⟩
  · rw [Path.names_eq, steps_from_root hd (by rw [hstart]; exact hs), hstart, hfolder]
    simp
  · rcases List.mem_append.1 hk with hk | hk
    · exact .inr (hdots k hk)
    · split at hk <;> simp_all

/-- The directory of a file that is written is looked up from the root. The way there passes directories, and what the
way to the output passes. -/
theorem folder_lookup {output : Path} {n : Name} {place k : Location} {m : Mode} (hd : d.WellFormed)
    (hn : Path.IsName n) (hleads : d.Leads output place) (hdir : d.get? place = some (.directory m))
    (hk : k ∈ d.pathTrail (d.currentPath.join (folderOf (output.join ⟨n⟩)))) :
    (∃ m, d.get? k = some (.directory m)) ∨ k ∈ d.trail .whole linkLimit (d.start output) output.steps := by
  obtain ⟨ms, hs⟩ := start_directory hleads hdir
  obtain ⟨xs, stays, dots, hnames, hsteps, hstays, hdots⟩ := folder_names hd hn hs
  have hroot := start_absolute (d := d) (isAbsolute_from_root d (folderOf (output.join ⟨n⟩)))
  generalize d.currentPath.join (folderOf (output.join ⟨n⟩)) = folder at hk hnames hroot
  obtain ⟨l, hway, rfl⟩ : ∃ l, d.walk .whole linkLimit (d.start output) xs = .ok l ∧ place = l := by
    rw [Leads, hsteps] at hleads
    obtain ⟨l, k, hl, hk⟩ := walk_left hleads
    exact ⟨l, hl, walk_stays (fun j hj => .inr (hdots j hj)) hk⟩
  obtain ⟨j, hafter, htrail⟩ := trail_append hway stays
  obtain ⟨i, _, htrail'⟩ := trail_append hway dots
  rcases List.mem_append.1 hk with hk | hk
  · rw [hroot, hnames, trail, legTrail_append, leg_append] at hk
    rcases leg_directories .whole (hd.isName hs) (directories_above hd hs) with hleg | ⟨c, _, hleg⟩
    · rw [hleg, List.nil_append] at hk
      rw [List.append_assoc] at hk
      rcases List.mem_append.1 hk with hk | hk
      · exact .inl (legTrail_directories (hd.isName hs) (directories_above hd hs) k hk)
      · have hmem : k ∈ d.trail .whole linkLimit (d.start output) (xs ++ stays) := by
          rw [trail]
          exact hk
        rw [htrail] at hmem
        rcases List.mem_append.1 hmem with hmem | hmem
        · exact .inr (by rw [hsteps, htrail']; exact List.mem_append_left _ hmem)
        · exact .inl ⟨m, by rw [trail_stays hstays k hmem, hdir]⟩
    · rw [hleg] at hk
      simp only [List.append_nil] at hk
      exact .inl (legTrail_directories (hd.isName hs) (directories_above hd hs) k hk)
  · -- The end of the lookup is the directory that the output leads to.
    cases hl : d.locate folder with
    | error c => simp [hl] at hk
    | ok l =>
      rw [hl, List.mem_singleton] at hk
      obtain ⟨_, hw⟩ := locate_eq_ok.1 hl
      rw [hroot, hnames] at hw
      rw [walk_from_root hd hs hw, hafter] at hw
      exact .inl ⟨m, by rw [hk, walk_stays hstays hw, hdir]⟩

end Retarget.Disk

import Retarget.Proofs.PathNames
import Retarget.Disk.Read

/-!
# What lookups depend on

A lookup follows the names of a path one after another, and looks at some places of the disk only (`Disk.trail`).

* `Disk.walk_append`: names after names,
* `Disk.walk_keeps`: a lookup that leads somewhere still leads there while nothing on its trail goes away,
* `Disk.walk_congr`: a lookup gives the same on disks that agree along its trail,
* `Disk.walk_ways`: a directory is found in the same way while directories and links stay,
* `Disk.Leads`: where the steps of a path lead to, and how names after the path are found (`Disk.approach_join`).
-/

namespace Retarget.Disk

variable {d d' : Disk} {f : Follow}

/-- Two requests after each other succeed if both do. -/
theorem bind_eq_ok {ε α β : Type} {x : Except ε α} {g : α → Except ε β} {b : β} :
    (x >>= g) = .ok b ↔ ∃ a, x = .ok a ∧ g a = .ok b := by
  cases x with
  | error c => simp [bind, Except.bind]
  | ok a => simp [bind, Except.bind]

theorem checkPath_eq_ok {p : Path} (h : checkPath p = .ok ()) :
    p.bytes ≠ [] ∧ p.bytes.length < Path.lengthLimit := by
  unfold checkPath at h
  split at h
  · cases h
  · split at h
    · cases h
    · next hne =>
      split at h
      · cases h
      · next hlen => exact ⟨by simpa using hne, Nat.lt_of_not_le hlen⟩

/-- A path can be looked up if some longer one can that it is part of. -/
theorem checkPath_of_sublist {p q : Path} (h : checkPath q = .ok ()) (hsub : p.bytes.Sublist q.bytes)
    (hp : p.bytes ≠ []) : checkPath p = .ok () := by
  have hlen := Nat.lt_of_le_of_lt hsub.length_le (checkPath_eq_ok h).2
  have hnul : p.bytes.contains 0 = false := by
    rw [Bool.eq_false_iff]
    intro hzero
    rw [checkPath, if_pos] at h
    · cases h
    · exact List.contains_iff_mem.2 (hsub.subset (List.contains_iff_mem.1 hzero))
  unfold checkPath
  rw [hnul, if_neg Bool.false_ne_true, if_neg (by simpa using hp), if_neg (Nat.not_le_of_lt hlen)]

/-! ## Names after names -/

theorem leg_append (d : Disk) (f : Follow) (l : Location) (xs ys : List Name) :
    d.leg f l (xs ++ ys) = match d.leg f l xs with
      | .error c => .error c
      | .ok (.arrived l') => d.leg f l' ys
      | .ok (.atLink l' target rest) => .ok (.atLink l' target (rest ++ ys)) := by
  fun_induction leg d f l xs with
  | case1 l => rfl
  | case2 l n rest c hc => rw [List.cons_append, leg, hc]
  | case3 l n rest u hu hn ih => rw [List.cons_append, leg, hu]; simp only [hn, if_true]; exact ih
  | case4 l n rest u hu hn habove ih =>
    rw [List.cons_append, leg, hu]
    simp only [hn, Bool.false_eq_true, if_false, habove, if_true]
    exact ih
  | case5 l n rest u hu hn habove hlong =>
    rw [List.cons_append, leg, hu]
    simp only [hn, Bool.false_eq_true, if_false, habove, hlong, if_true]
  | case6 l n rest u hu hn habove hlong hnone =>
    rw [List.cons_append, leg, hu]
    simp only [hn, Bool.false_eq_true, if_false, habove, hlong, hnone]
  | case7 l n rest u hu hn habove hlong target hlink =>
    rw [List.cons_append, leg, hu]
    simp only [hn, Bool.false_eq_true, if_false, habove, hlong, hlink]
  | case8 l n rest u hu hn habove hlong e hother he ih =>
    rw [List.cons_append, leg, hu]
    simp only [hn, Bool.false_eq_true, if_false, habove, hlong, he]
    cases e with
    | link target => exact (hother target rfl).elim
    | file bytes m | directory m => exact ih

/-- Names that lead to a place use up some of the links that may be followed, whatever comes after them. -/
theorem walk_spends {links : Nat} {l l' : Location} {xs : List Name} (h : d.walk f links l xs = .ok l') :
    ∃ k ≤ links, ∀ extra ys, d.walk f (links + extra) l (xs ++ ys) = d.walk f (k + extra) l' ys := by
  induction links generalizing l xs with
  | zero =>
    unfold walk at h
    split at h
    · cases h
    · next l₁ hleg =>
      cases h
      refine ⟨0, Nat.le_refl _, fun extra ys => ?_⟩
      rw [walk, leg_append, hleg, walk]
    · cases h
  | succ links ih =>
    unfold walk at h
    split at h
    · cases h
    · next l₁ hleg =>
      cases h
      refine ⟨links + 1, Nat.le_refl _, fun extra ys => ?_⟩
      rw [walk, leg_append, hleg, walk]
    · next l₁ target rest hleg =>
      obtain ⟨k, hk, he⟩ := ih h
      refine ⟨k, Nat.le_succ_of_le hk, fun extra ys => ?_⟩
      rw [Nat.add_right_comm, walk, leg_append, hleg, ← he, List.append_assoc]

/-- Once names have led to a place, more names are followed from there. -/
theorem walk_append {links : Nat} {l l' : Location} {xs : List Name} (h : d.walk f links l xs = .ok l')
    (ys : List Name) : ∃ k ≤ links, d.walk f links l (xs ++ ys) = d.walk f k l' ys := by
  obtain ⟨k, hk, he⟩ := walk_spends h
  exact ⟨k, hk, he 0 ys⟩

/-- More links than needed do no harm. -/
theorem walk_more {links more : Nat} {l l' : Location} {names : List Name} (h : d.walk f links l names = .ok l')
    (hle : links ≤ more) : d.walk f more l names = .ok l' := by
  obtain ⟨k, _, he⟩ := walk_spends h
  have hall := he (more - links) []
  rw [List.append_nil, Nat.add_sub_cancel' hle] at hall
  rw [hall, walk, leg]

/-- Names after names need the links of both. -/
theorem walk_add {links links' : Nat} {l l' l'' : Location} {xs ys : List Name} (h : d.walk f links l xs = .ok l')
    (h' : d.walk f links' l' ys = .ok l'') : d.walk f (links + links') l (xs ++ ys) = .ok l'' := by
  obtain ⟨k, _, he⟩ := walk_spends h
  rw [he links' ys]
  exact walk_more h' (Nat.le_add_left _ _)

theorem walk_append_error {links : Nat} {l : Location} {xs : List Name} {c : Cause}
    (h : d.walk f links l xs = .error c) (ys : List Name) : d.walk f links l (xs ++ ys) = .error c := by
  induction links generalizing l xs with
  | zero =>
    unfold walk at h
    split at h
    · next hleg =>
      cases h
      rw [walk, leg_append, hleg]
    · cases h
    · next l₁ target rest hleg =>
      cases h
      rw [walk, leg_append, hleg]
  | succ links ih =>
    unfold walk at h
    split at h
    · next hleg =>
      cases h
      rw [walk, leg_append, hleg]
    · cases h
    · next l₁ target rest hleg =>
      rw [walk, leg_append, hleg, ← ih h, List.append_assoc]

/-- Names that lead somewhere also lead somewhere halfway. -/
theorem walk_left {links : Nat} {l l'' : Location} {xs ys : List Name} (h : d.walk f links l (xs ++ ys) = .ok l'') :
    ∃ l' k, d.walk f links l xs = .ok l' ∧ d.walk f k l' ys = .ok l'' := by
  cases hx : d.walk f links l xs with
  | error c =>
    rw [walk_append_error hx] at h
    cases h
  | ok l' =>
    obtain ⟨k, _, hk⟩ := walk_append hx ys
    exact ⟨l', k, rfl, hk ▸ h⟩

/-! ## Trails -/

/-- The places that are looked at while names are followed up to the first link. -/
def legTrail (d : Disk) (f : Follow) : Location → List Name → List Location
  | _, [] => []
  | l, n :: rest =>
    l :: match d.mayStep f l n with
      | .error _ => []
      | .ok _ =>
        if n.isEmpty || n == Path.here then legTrail d f l rest
        else if n == Path.above then legTrail d f l.dropLast rest
        else if Path.nameLimit < n.length then []
        else (l ++ [n]) :: match d.get? (l ++ [n]) with
          | none => []
          | some (.link _) => []
          | some _ => legTrail d f (l ++ [n]) rest

/-- The places that are looked at while names are followed through at most so many links. -/
def trail (d : Disk) (f : Follow) (links : Nat) (l : Location) (names : List Name) : List Location :=
  d.legTrail f l names ++ match d.leg f l names with
    | .ok (.atLink l target rest) =>
      match links with
      | 0 => []
      | links + 1 => trail d f links (if target.isAbsolute then [] else l) (target.names ++ rest)
    | _ => []

/-- Two disks have the same at all places of a list. -/
def AgreesAt (d d' : Disk) (trail : List Location) : Prop := ∀ l ∈ trail, d'.get? l = d.get? l

theorem AgreesAt.left {xs ys : List Location} (h : AgreesAt d d' (xs ++ ys)) : AgreesAt d d' xs :=
  fun l hl => h l (List.mem_append_left _ hl)

theorem AgreesAt.right {xs ys : List Location} (h : AgreesAt d d' (xs ++ ys)) : AgreesAt d d' ys :=
  fun l hl => h l (List.mem_append_right _ hl)

theorem directoryMode_congr {l : Location} (h : d'.get? l = d.get? l) : d'.directoryMode l = d.directoryMode l := by
  unfold directoryMode
  rw [h]

theorem enter_congr {l : Location} (h : d'.get? l = d.get? l) (hp : d'.privileged = d.privileged) :
    d'.enter l = d.enter l := by
  have hsearch : d'.maySearch = d.maySearch := by
    funext m
    rw [maySearch, maySearch, hp]
  rw [enter, enter, directoryMode_congr h, hsearch]

theorem mayStep_congr {l : Location} (h : d'.get? l = d.get? l) (hp : d'.privileged = d.privileged) (n : Name) :
    d'.mayStep f l n = d.mayStep f l n := by
  rw [mayStep, mayStep, directoryMode_congr h, enter_congr h hp]

theorem directoryMode_eq_ok {l : Location} {m : Mode} : d.directoryMode l = .ok m ↔ d.get? l = some (.directory m) := by
  unfold directoryMode
  split <;> simp_all

theorem enter_directory {l : Location} {m : Mode} (h : d.enter l = .ok m) : d.get? l = some (.directory m) := by
  obtain ⟨m', hm, h⟩ := bind_eq_ok.1 h
  split at h
  · cases h
    exact directoryMode_eq_ok.1 hm
  · cases h

theorem mayStep_directory {l : Location} {n : Name} {u : Unit} (h : d.mayStep f l n = .ok u) :
    ∃ m, d.get? l = some (.directory m) := by
  unfold mayStep at h
  split at h
  · cases hm : d.directoryMode l with
    | error c => rw [hm] at h; cases h
    | ok m => exact ⟨m, directoryMode_eq_ok.1 hm⟩
  · cases hm : d.enter l with
    | error c => rw [hm] at h; cases h
    | ok m => exact ⟨m, enter_directory hm⟩

/-- Names are followed in the same way on disks that agree on the way. -/
theorem leg_congr {l : Location} {names : List Name} (h : AgreesAt d d' (d.legTrail f l names))
    (hp : d'.privileged = d.privileged) : d'.leg f l names = d.leg f l names := by
  induction names generalizing l with
  | nil => rfl
  | cons n rest ih =>
    have hl : d'.get? l = d.get? l := h l (by simp [legTrail])
    rw [leg, leg, mayStep_congr hl hp]
    simp only [legTrail] at h
    cases hu : d.mayStep f l n with
    | error c => rfl
    | ok u =>
      simp only [hu] at h
      have h' := fun k hk => h k (List.mem_cons_of_mem _ hk)
      simp only
      split
      · next hn =>
        simp only [hn, if_true] at h'
        exact ih h'
      · next hn =>
        simp only [hn, Bool.false_eq_true, if_false] at h'
        split
        · next habove =>
          simp only [habove, if_true] at h'
          exact ih h'
        · next habove =>
          simp only [habove, Bool.false_eq_true, if_false] at h'
          split
          · rfl
          · next hlong =>
            simp only [hlong, if_false] at h'
            rw [h' _ List.mem_cons_self]
            split
            · rfl
            · rfl
            · next e hother he =>
              refine ih fun k hk => h' k (List.mem_cons_of_mem _ ?_)
              rw [he]
              cases e with
              | link target => exact (hother target rfl).elim
              | file bytes m | directory m => exact hk

/-- A place is occupied, unless it is missed on leaving it. -/
theorem mayStep_occupied {l : Location} {n : Name} (h : d.mayStep f l n ≠ .error .notFound) :
    ∃ e, d.get? l = some e := by
  cases he : d.get? l with
  | some e => exact ⟨e, rfl⟩
  | none =>
    have hmode : d.directoryMode l = .error .notFound := by
      unfold directoryMode
      rw [he]
    refine (h ?_).elim
    unfold mayStep
    split
    · rw [hmode]
      rfl
    · rw [enter, hmode]
      rfl

/-- Names that miss no entry pass occupied places only. -/
theorem legTrail_occupied {l : Location} {names : List Name} (h : d.leg f l names ≠ .error .notFound) :
    ∀ k ∈ d.legTrail f l names, ∃ e, d.get? k = some e := by
  fun_induction leg d f l names with
  | case1 l => simp [legTrail]
  | case2 l n rest c hc =>
    have hstep : d.mayStep f l n ≠ .error .notFound := by simpa [hc] using h
    simpa [legTrail, hc] using mayStep_occupied hstep
  | case3 l n rest u hu hn ih =>
    obtain ⟨m, hm⟩ := mayStep_directory hu
    simp only [legTrail, hu, hn, if_true]
    exact List.forall_mem_cons.2 ⟨⟨_, hm⟩, ih h⟩
  | case4 l n rest u hu hn habove ih =>
    obtain ⟨m, hm⟩ := mayStep_directory hu
    simp only [legTrail, hu, hn, Bool.false_eq_true, if_false, habove, if_true]
    exact List.forall_mem_cons.2 ⟨⟨_, hm⟩, ih h⟩
  | case5 l n rest u hu hn habove hlong =>
    obtain ⟨m, hm⟩ := mayStep_directory hu
    simp only [legTrail, hu, hn, Bool.false_eq_true, if_false, habove, hlong, if_true]
    exact List.forall_mem_cons.2 ⟨⟨_, hm⟩, by simp⟩
  | case6 l n rest u hu hn habove hlong hnone => exact (h rfl).elim
  | case7 l n rest u hu hn habove hlong target hlink =>
    obtain ⟨m, hm⟩ := mayStep_directory hu
    simp only [legTrail, hu, hn, Bool.false_eq_true, if_false, habove, hlong, hlink]
    exact List.forall_mem_cons.2 ⟨⟨_, hm⟩, by simp [hlink]⟩
  | case8 l n rest u hu hn habove hlong e hother he ih =>
    obtain ⟨m, hm⟩ := mayStep_directory hu
    simp only [legTrail, hu, hn, Bool.false_eq_true, if_false, habove, hlong, he]
    refine List.forall_mem_cons.2 ⟨⟨_, hm⟩, List.forall_mem_cons.2 ⟨⟨e, he⟩, ?_⟩⟩
    cases e with
    | link target => exact (hother target rfl).elim
    | file bytes m | directory m => exact ih h

/-- A path is looked up in the same way on disks that agree on the way. -/
theorem walk_congr {links : Nat} {l : Location} {names : List Name} (h : AgreesAt d d' (d.trail f links l names))
    (hp : d'.privileged = d.privileged) : d'.walk f links l names = d.walk f links l names := by
  induction links generalizing l names with
  | zero =>
    rw [trail] at h
    rw [walk, walk, leg_congr h.left hp]
  | succ links ih =>
    rw [trail] at h
    rw [walk, walk, leg_congr h.left hp]
    cases hleg : d.leg f l names with
    | error c => rfl
    | ok r =>
      cases r with
      | arrived l' => rfl
      | atLink l' target rest =>
        rw [hleg] at h
        exact ih h.right

theorem walk_of_leg_error {links : Nat} {l : Location} {names : List Name} {c : Cause}
    (h : d.leg f l names = .error c) : d.walk f links l names = .error c := by
  unfold walk
  rw [h]

/-- A lookup that misses no entry passes occupied places only. -/
theorem trail_occupied {links : Nat} {l : Location} {names : List Name}
    (h : d.walk f links l names ≠ .error .notFound) : ∀ k ∈ d.trail f links l names, ∃ e, d.get? k = some e := by
  induction links generalizing l names with
  | zero =>
    have hfirst := legTrail_occupied fun hc => h (walk_of_leg_error hc)
    rw [trail]
    cases hr : d.leg f l names with
    | error c => simpa using hfirst
    | ok r => cases r <;> simpa using hfirst
  | succ links ih =>
    have hfirst := legTrail_occupied fun hc => h (walk_of_leg_error hc)
    unfold walk at h
    rw [trail]
    cases hr : d.leg f l names with
    | error c => simpa using hfirst
    | ok r =>
      cases r with
      | arrived l' => simpa using hfirst
      | atLink l' target rest =>
        rw [hr] at h
        intro k hk
        exact (List.mem_append.1 hk).elim (hfirst k) (ih h k)

/-! ## Disks with more on them -/

/-- All that is on one disk is on the other. -/
structure Extends (d d' : Disk) : Prop where
  get : ∀ l e, d.get? l = some e → d'.get? l = some e
  current : d'.current = d.current
  privileged : d'.privileged = d.privileged
  refuses : d'.refuses = d.refuses

namespace Extends

theorem refl (d : Disk) : Extends d d := ⟨fun _ _ h => h, rfl, rfl, rfl⟩

theorem trans {d₁ d₂ d₃ : Disk} (h : Extends d₁ d₂) (h' : Extends d₂ d₃) : Extends d₁ d₃ where
  get l e he := h'.get l e (h.get l e he)
  current := h'.current.trans h.current
  privileged := h'.privileged.trans h.privileged
  refuses := h'.refuses.trans h.refuses

theorem start (h : Extends d d') (p : Path) : d'.start p = d.start p := by rw [Disk.start, Disk.start, h.current]

end Extends

/-- What a disk has is also on another disk, at all places of a list. -/
def KeepsAt (d d' : Disk) (trail : List Location) : Prop := ∀ l ∈ trail, ∀ e, d.get? l = some e → d'.get? l = some e

/-- A lookup that leads somewhere leads there while nothing on the way goes away. -/
theorem walk_keeps {links : Nat} {l l' : Location} {names : List Name} (h : d.walk f links l names = .ok l')
    (hk : KeepsAt d d' (d.trail f links l names)) (hp : d'.privileged = d.privileged) :
    d'.walk f links l names = .ok l' := by
  rw [walk_congr (fun k hkt => ?_) hp, h]
  obtain ⟨e, he⟩ := trail_occupied (by simp [h]) k hkt
  rw [he, hk k hkt e he]

theorem walk_mono (h : Extends d d') {links : Nat} {l l' : Location} {names : List Name}
    (hw : d.walk f links l names = .ok l') : d'.walk f links l names = .ok l' :=
  walk_keeps hw (fun k _ e he => h.get k e he) h.privileged

/-! ## Ways -/

/-- Directories and links are as before. -/
def KeepsWays (d d' : Disk) : Prop :=
  ∀ k e, d.get? k = some e → (∀ bytes m, e ≠ .file bytes m) → d'.get? k = some e

/-- Names that lead to a directory or a link lead there while directories and links are kept. -/
theorem leg_ways {l : Location} {names : List Name} {r : Leg} (hk : KeepsWays d d')
    (hp : d'.privileged = d.privileged) (h : d.leg f l names = .ok r)
    (hr : ∀ l', r = .arrived l' → ∃ m, d.get? l' = some (.directory m)) : d'.leg f l names = .ok r := by
  have hstep : ∀ l n u, d.mayStep f l n = .ok u → d'.mayStep f l n = .ok u := by
    intro l n u hu
    obtain ⟨m, hm⟩ := mayStep_directory hu
    rw [mayStep_congr ((hk l _ hm (by simp)).trans hm.symm) hp, hu]
  fun_induction leg d f l names with
  | case1 l => exact h
  | case2 l n rest c hc => cases h
  | case3 l n rest u hu hn ih =>
    rw [leg, hstep l n u hu]
    simp only [hn, if_true]
    exact ih h
  | case4 l n rest u hu hn habove ih =>
    rw [leg, hstep l n u hu]
    simp only [hn, Bool.false_eq_true, if_false, habove, if_true]
    exact ih h
  | case5 l n rest u hu hn habove hlong => cases h
  | case6 l n rest u hu hn habove hlong hnone => cases h
  | case7 l n rest u hu hn habove hlong target hlink =>
    rw [leg, hstep l n u hu]
    simp only [hn, Bool.false_eq_true, if_false, habove, hlong, hk _ _ hlink (by simp)]
    exact h
  | case8 l n rest u hu hn habove hlong e hother he ih =>
    have hdir : ∃ m, e = .directory m := by
      cases e with
      | directory m => exact ⟨m, rfl⟩
      | link target => exact (hother target rfl).elim
      | file bytes m =>
        -- A file is neither the end of such a way nor on it.
        cases rest with
        | nil =>
          obtain ⟨m', hm'⟩ := hr _ (Except.ok.inj h).symm
          rw [he] at hm'
          cases hm'
        | cons n' rest =>
          rw [leg] at h
          cases hu' : d.mayStep f (l ++ [n]) n' with
          | error c => rw [hu'] at h; cases h
          | ok u' =>
            obtain ⟨m', hm'⟩ := mayStep_directory hu'
            rw [he] at hm'
            cases hm'
    obtain ⟨m, rfl⟩ := hdir
    rw [leg, hstep l n u hu]
    simp only [hn, Bool.false_eq_true, if_false, habove, hlong, hk _ _ he (by simp)]
    exact ih h

theorem walk_ways {links : Nat} {l l' : Location} {names : List Name} {m : Mode} (hk : KeepsWays d d')
    (hp : d'.privileged = d.privileged) (h : d.walk f links l names = .ok l')
    (hl' : d.get? l' = some (.directory m)) : d'.walk f links l names = .ok l' := by
  induction links generalizing l names with
  | zero =>
    unfold walk at h ⊢
    split at h
    · cases h
    · next l₁ hleg =>
      cases h
      rw [leg_ways hk hp hleg fun k hk => ⟨m, by cases hk; exact hl'⟩]
    · cases h
  | succ links ih =>
    unfold walk at h ⊢
    split at h
    · cases h
    · next l₁ hleg =>
      cases h
      rw [leg_ways hk hp hleg fun k hk => ⟨m, by cases hk; exact hl'⟩]
    · next l₁ target rest hleg =>
      rw [leg_ways hk hp hleg (by simp)]
      exact ih h

/-! ## Names after a path -/

/-- The steps of a path lead to a place. -/
def Leads (d : Disk) (p : Path) (l : Location) : Prop := d.walk .whole linkLimit (d.start p) p.steps = .ok l

theorem Leads.mono (h : Extends d d') {p : Path} {l : Location} (hl : d.Leads p l) : d'.Leads p l := by
  rw [Leads, h.start]
  exact walk_mono h hl

theorem Leads.unique {p : Path} {l l' : Location} (h : d.Leads p l) (h' : d.Leads p l') : l = l' := by
  rw [Leads] at h h'
  rw [h] at h'
  cases h'
  rfl

theorem start_join (d : Disk) (p : Path) {n : Name} (h : Path.IsName n) : d.start (p.join ⟨n⟩) = d.start p := by
  rw [start, start, p.isAbsolute_join h]

theorem locate_join (d : Disk) (p : Path) {n : Name} (h : Path.IsName n) :
    d.locate (p.join ⟨n⟩) =
      (do checkPath (p.join ⟨n⟩); d.walk .whole linkLimit (d.start p) (p.steps ++ [n])) := by
  rw [locate, start_join d p h, p.names_join h]

/-- The end of a path whose last step is a name. -/
theorem approach_steps (d : Disk) {p : Path} {before : List Name} {n : Name} (hsteps : p.steps = before ++ [n])
    (hn : Path.IsName n) :
    d.approach p = (do
      checkPath p
      let l ← d.walk .whole linkLimit (d.start p) before
      let m ← d.enter l
      if Path.nameLimit < n.length then .error .nameTooLong
      else return ⟨l, m, some n, p.names.getLast? == some []⟩) := by
  have hdots : (n == Path.here || n == Path.above) = false := by simp [hn.ne_here, hn.ne_above]
  rw [approach]
  simp only [Path.filter_names, hsteps, List.reverse_append, List.reverse_cons, List.reverse_nil, List.nil_append,
    List.singleton_append, List.reverse_reverse, hdots, Bool.false_eq_true, if_false]

theorem approach_join (d : Disk) (p : Path) {n : Name} (h : Path.IsName n) :
    d.approach (p.join ⟨n⟩) = (do
      checkPath (p.join ⟨n⟩)
      let l ← d.walk .whole linkLimit (d.start p) p.steps
      let m ← d.enter l
      if Path.nameLimit < n.length then .error .nameTooLong else return ⟨l, m, some n, false⟩) := by
  have hslash : ((p.steps ++ [n]).getLast? == some []) = false := by simp [h.ne_nil]
  rw [approach_steps d (p.steps_join h) h, start_join d p h, p.names_join h, hslash]

/-- How a path with a name after it ends. -/
theorem approach_join_eq_ok {p : Path} {n : Name} (hn : Path.IsName n) {a : Approach} :
    d.approach (p.join ⟨n⟩) = .ok a ↔ ∃ l m, checkPath (p.join ⟨n⟩) = .ok () ∧ d.Leads p l ∧ d.enter l = .ok m ∧
      n.length ≤ Path.nameLimit ∧ a = ⟨l, m, some n, false⟩ := by
  rw [approach_join d p hn]
  constructor
  · intro h
    obtain ⟨_, hc, h⟩ := bind_eq_ok.1 h
    obtain ⟨l, hl, h⟩ := bind_eq_ok.1 h
    obtain ⟨m, hm, h⟩ := bind_eq_ok.1 h
    split at h
    · cases h
    · next hlen =>
      cases h
      exact ⟨l, m, hc, hl, hm, Nat.le_of_not_lt hlen, rfl⟩
  · rintro ⟨l, m, hc, hl, hm, hlen, rfl⟩
    refine bind_eq_ok.2 ⟨(), hc, bind_eq_ok.2 ⟨l, hl, bind_eq_ok.2 ⟨m, hm, ?_⟩⟩⟩
    rw [if_neg (Nat.not_lt.2 hlen)]
    rfl

theorem approach_join_spec {p : Path} {l : Location} {m : Mode} {n : Name} (hn : Path.IsName n)
    (h : d.approach (p.join ⟨n⟩) = .ok ⟨l, m, some n, false⟩) :
    checkPath (p.join ⟨n⟩) = .ok () ∧ d.Leads p l ∧ d.enter l = .ok m ∧ n.length ≤ Path.nameLimit := by
  obtain ⟨_, _, hc, hl, hm, hlen, he⟩ := (approach_join_eq_ok hn).1 h
  cases he
  exact ⟨hc, hl, hm, hlen⟩

/-- A path that ends in a name leads to a directory by the names before. -/
theorem approach_name {p : Path} {a : Approach} {n : Name} (h : d.approach p = .ok a) (hn : a.name = some n) :
    ∃ before, p.steps = before ++ [n] ∧ checkPath p = .ok () ∧
      d.walk .whole linkLimit (d.start p) before = .ok a.directory ∧ d.enter a.directory = .ok a.mode ∧
      n.length ≤ Path.nameLimit ∧ (a.slash = false → p.names = p.steps) := by
  obtain ⟨_, hc, h⟩ := bind_eq_ok.1 h
  simp only [Path.filter_names] at h
  split at h
  · obtain ⟨m, _, h⟩ := bind_eq_ok.1 h
    cases h
    cases hn
  · next last before hlast =>
    have hsteps : p.steps = before.reverse ++ [last] := by rw [← List.reverse_reverse p.steps, hlast]; simp
    obtain ⟨l, hl, h⟩ := bind_eq_ok.1 h
    obtain ⟨m, hm, h⟩ := bind_eq_ok.1 h
    split at h
    · cases h
      cases hn
    · split at h
      · cases h
      · next hlen =>
        cases h
        cases hn
        refine ⟨before.reverse, hsteps, hc, hl, hm, Nat.le_of_not_lt hlen, fun hslash => ?_⟩
        -- Without a slash at the end, the last part is a step.
        rw [Path.names_eq] at hslash ⊢
        split
        · next hempty => simp [hempty] at hslash
        · rw [List.append_nil]

/-- A path ends in the same way while directories and links stay. -/
theorem approach_ways {p : Path} {a : Approach} (hk : KeepsWays d d') (hc : d'.current = d.current)
    (hp : d'.privileged = d.privileged) (h : d.approach p = .ok a) : d'.approach p = .ok a := by
  have hstart : d'.start p = d.start p := by rw [start, start, hc]
  have henter : ∀ {l : Location} {m : Mode}, d.enter l = .ok m → d'.enter l = .ok m := by
    intro l m hm
    have hdir := enter_directory hm
    rw [enter_congr ((hk _ _ hdir (by simp)).trans hdir.symm) hp, hm]
  obtain ⟨_, hcheck, h⟩ := bind_eq_ok.1 h
  refine bind_eq_ok.2 ⟨(), hcheck, ?_⟩
  rw [hstart]
  simp only at h ⊢
  split at h
  · obtain ⟨m, hm, h⟩ := bind_eq_ok.1 h
    exact bind_eq_ok.2 ⟨m, henter hm, h⟩
  · obtain ⟨l, hl, h⟩ := bind_eq_ok.1 h
    obtain ⟨m, hm, h⟩ := bind_eq_ok.1 h
    exact bind_eq_ok.2 ⟨l, walk_ways hk hp hl (enter_directory hm), bind_eq_ok.2 ⟨m, henter hm, h⟩⟩

/-- One name. -/
theorem leg_name {l : Location} {n : Name} (h : Path.IsName n) : d.leg f l [n] = match d.enter l with
    | .error c => .error c
    | .ok _ =>
      if Path.nameLimit < n.length then .error .nameTooLong
      else match d.get? (l ++ [n]) with
        | none => .error .notFound
        | some (.link target) => .ok (.atLink l target [])
        | some _ => .ok (.arrived (l ++ [n])) := by
  have hempty : n.isEmpty = false := by simpa using h.ne_nil
  have hhere : (n == Path.here) = false := by simpa using h.ne_here
  have habove : (n == Path.above) = false := by simpa using h.ne_above
  have hstep : d.mayStep f l n = discard (d.enter l) := by
    rw [mayStep, hempty, hhere, habove]
    simp
  rw [leg, hstep]
  cases hm : d.enter l with
  | error c => rfl
  | ok m =>
    simp only [hempty, hhere, habove, Bool.or_false, Bool.false_eq_true, if_false, leg]
    rfl

/-- A name that stands for a file or a directory leads to it. -/
theorem walk_name {links : Nat} {l l' : Location} {xs : List Name} {n : Name} {m : Mode} {e : Entry}
    (h : d.walk f links l xs = .ok l') (hm : d.enter l' = .ok m) (hn : Path.IsName n)
    (hlen : n.length ≤ Path.nameLimit) (he : d.get? (l' ++ [n]) = some e) (hlink : ∀ target, e ≠ .link target) :
    d.walk f links l (xs ++ [n]) = .ok (l' ++ [n]) := by
  obtain ⟨k, _, hk⟩ := walk_append h [n]
  rw [hk, walk, leg_name hn, hm]
  simp only [Nat.not_lt.2 hlen, if_false, he]

theorem Leads.join {p : Path} {l : Location} {n : Name} {m : Mode} {e : Entry} (h : d.Leads p l)
    (hm : d.enter l = .ok m) (hn : Path.IsName n) (hlen : n.length ≤ Path.nameLimit) (he : d.get? (l ++ [n]) = some e)
    (hlink : ∀ target, e ≠ .link target) : d.Leads (p.join ⟨n⟩) (l ++ [n]) := by
  rw [Leads, start_join d p hn, p.steps_join hn]
  exact walk_name h hm hn hlen he hlink

/-- A name that stands for nothing leads nowhere. -/
theorem Leads.locate_vacant {p : Path} {l : Location} {n : Name} (h : d.Leads p l) (hn : Path.IsName n)
    (hvacant : d.get? (l ++ [n]) = none) (l' : Location) : d.locate (p.join ⟨n⟩) ≠ .ok l' := by
  intro hl
  rw [locate_join d p hn] at hl
  obtain ⟨_, _, hl⟩ := bind_eq_ok.1 hl
  obtain ⟨k, _, hk⟩ := walk_append h [n]
  rw [hk, walk, leg_name hn] at hl
  cases hm : d.enter l with
  | error c => simp only [hm] at hl; cases hl
  | ok m => by_cases hlen : Path.nameLimit < n.length <;> simp [hm, hvacant, hlen] at hl

/-! ## Reading -/

/-- A path leads to a place. -/
theorem locate_eq_ok {p : Path} {l : Location} :
    d.locate p = .ok l ↔ checkPath p = .ok () ∧ d.walk .whole linkLimit (d.start p) p.names = .ok l := by
  rw [locate, bind_eq_ok]
  exact ⟨fun ⟨_, hc, hw⟩ => ⟨hc, hw⟩, fun ⟨hc, hw⟩ => ⟨(), hc, hw⟩⟩

/-- A path to a directory leads there while directories and links stay. -/
theorem locate_ways {p : Path} {l : Location} {m : Mode} (hk : KeepsWays d d') (hc : d'.current = d.current)
    (hp : d'.privileged = d.privileged) (hl : d.locate p = .ok l) (hdir : d.get? l = some (.directory m)) :
    d'.locate p = .ok l := by
  obtain ⟨hcheck, hw⟩ := locate_eq_ok.1 hl
  refine locate_eq_ok.2 ⟨hcheck, ?_⟩
  rw [start, hc]
  exact walk_ways hk hp hw hdir

theorem entryAt_eq_ok {l : Location} {e : Entry} : d.entryAt l = .ok e ↔ d.get? l = some e := by
  unfold entryAt
  split <;> simp_all

theorem metadata_eq_ok {p : Path} {m : Metadata} :
    d.metadata p = .ok m ↔ ∃ l e, d.locate p = .ok l ∧ d.get? l = some e ∧ m = .ofEntry e := by
  rw [metadata, bind_eq_ok]
  constructor
  · rintro ⟨l, hl, h⟩
    obtain ⟨e, he, h⟩ := bind_eq_ok.1 h
    cases h
    exact ⟨l, e, hl, entryAt_eq_ok.1 he, rfl⟩
  · rintro ⟨l, e, hl, he, rfl⟩
    exact ⟨l, hl, bind_eq_ok.2 ⟨e, entryAt_eq_ok.2 he, rfl⟩⟩

theorem read_eq_ok {p : Path} {bytes : Bytes} :
    d.read p = .ok bytes ↔ ∃ l m, d.locate p = .ok l ∧ d.get? l = some (.file bytes m) ∧ d.mayRead m = true := by
  simp only [read, bind_eq_ok, entryAt_eq_ok]
  constructor
  · rintro ⟨l, hl, e, he, h⟩
    cases e with
    | file bytes' m =>
      simp only at h
      split at h
      · next hm =>
        cases h
        exact ⟨l, m, hl, he, hm⟩
      · cases h
    | directory m =>
      simp only at h
      split at h <;> cases h
    | link target => cases h
  · rintro ⟨l, m, hl, he, hm⟩
    exact ⟨l, hl, _, he, by simp [hm]⟩

theorem list_eq_ok {p : Path} {names : List Name} : d.list p = .ok names ↔
    ∃ l m, d.locate p = .ok l ∧ d.get? l = some (.directory m) ∧ d.mayRead m = true ∧ names = d.names l := by
  simp only [list, bind_eq_ok, directoryMode_eq_ok]
  constructor
  · rintro ⟨l, hl, m, hm, h⟩
    split at h
    · next hread =>
      cases h
      exact ⟨l, m, hl, hm, hread, rfl⟩
    · cases h
  · rintro ⟨l, m, hl, hm, hread, rfl⟩
    exact ⟨l, hl, m, hm, if_pos hread⟩

theorem locate_mono (h : Extends d d') {p : Path} {l : Location} (hl : d.locate p = .ok l) : d'.locate p = .ok l := by
  obtain ⟨hc, hw⟩ := locate_eq_ok.1 hl
  exact locate_eq_ok.2 ⟨hc, by rw [h.start]; exact walk_mono h hw⟩

theorem mayRead_congr (hp : d'.privileged = d.privileged) : d'.mayRead = d.mayRead := by
  funext m
  rw [mayRead, mayRead, hp]

theorem mayChange_congr (hp : d'.privileged = d.privileged) : d'.mayChange = d.mayChange := by
  funext m
  rw [mayChange, mayChange, hp]

/-- What can be read can still be read when a disk has more on it. -/
theorem read_mono (h : Extends d d') {p : Path} {bytes : Bytes} (hr : d.read p = .ok bytes) :
    d'.read p = .ok bytes := by
  obtain ⟨l, m, hl, he, hm⟩ := read_eq_ok.1 hr
  exact read_eq_ok.2 ⟨l, m, locate_mono h hl, h.get _ _ he, by rwa [mayRead_congr h.privileged]⟩

/-- A walk that fails, for another reason than that an entry is missing, still fails when a disk has more on it. -/
theorem walk_error_mono (h : Extends d d') {links : Nat} {l : Location} {names : List Name} {c : Cause}
    (hw : d.walk f links l names = .error c) (hc : c ≠ .notFound) : d'.walk f links l names = .error c := by
  rw [walk_congr (fun k hk => ?_) h.privileged, hw]
  obtain ⟨e, he⟩ := trail_occupied (by simpa [hw] using hc) k hk
  rw [he, h.get k e he]

/-- So does a lookup. -/
theorem locate_error_mono (h : Extends d d') {p : Path} {c : Cause} (hl : d.locate p = .error c) (hc : c ≠ .notFound) :
    d'.locate p = .error c := by
  unfold locate at hl ⊢
  rw [h.start]
  cases hcheck : checkPath p with
  | error c' => simpa [hcheck, bind, Except.bind] using hl
  | ok u =>
    have hw : d.walk .whole linkLimit (d.start p) p.names = .error c := by
      simpa [hcheck, bind, Except.bind] using hl
    simpa [bind, Except.bind] using walk_error_mono h hw hc

/-- What cannot be read, for another reason than that an entry is missing, can still not be read. -/
theorem read_error_mono (h : Extends d d') {p : Path} {c : Cause} (hr : d.read p = .error c) (hc : c ≠ .notFound) :
    d'.read p = .error c := by
  unfold read at hr ⊢
  cases hl : d.locate p with
  | error c' =>
    obtain rfl : c' = c := by simpa [hl, bind, Except.bind] using hr
    rw [locate_error_mono h hl hc]
    rfl
  | ok l =>
    rw [locate_mono h hl, mayRead_congr h.privileged]
    simp only [hl, bind, Except.bind] at hr ⊢
    cases he : d.get? l with
    | none =>
      rw [entryAt, he] at hr
      exact (hc (Except.error.inj hr).symm).elim
    | some e =>
      rw [entryAt_eq_ok.2 he] at hr
      rw [entryAt_eq_ok.2 (h.get l e he)]
      exact hr

theorem list_mono (h : Extends d d') {p : Path} {names : List Name} (hl : d.list p = .ok names) :
    ∃ names', d'.list p = .ok names' := by
  obtain ⟨l, m, hl, hm, hread, _⟩ := list_eq_ok.1 hl
  exact ⟨_, list_eq_ok.2 ⟨l, m, locate_mono h hl, h.get _ _ hm, by rwa [mayRead_congr h.privileged], rfl⟩⟩

theorem list_error_mono (h : Extends d d') {p : Path} {c : Cause} (hr : d.list p = .error c) (hc : c ≠ .notFound) :
    d'.list p = .error c := by
  unfold list at hr ⊢
  cases hl : d.locate p with
  | error c' =>
    obtain rfl : c' = c := by simpa [hl, bind, Except.bind] using hr
    rw [locate_error_mono h hl hc]
    rfl
  | ok l =>
    rw [locate_mono h hl, mayRead_congr h.privileged]
    simp only [hl, bind, Except.bind] at hr ⊢
    cases he : d.get? l with
    | none =>
      rw [directoryMode, he] at hr
      exact (hc (Except.error.inj hr).symm).elim
    | some e =>
      rw [directoryMode_congr ((h.get l e he).trans he.symm)]
      cases e with
      | file bytes m | link target => simpa [directoryMode, he] using hr
      | directory m =>
        rw [directoryMode_eq_ok.2 he] at hr ⊢
        by_cases hread : d.mayRead m = true
        · simp [hread] at hr
        · simpa [hread] using hr

/-- A path leads to a directory. -/
theorem isDirectory_eq_true {p : Path} :
    d.isDirectory p = true ↔ ∃ l m, d.locate p = .ok l ∧ d.get? l = some (.directory m) := by
  unfold isDirectory
  constructor
  · intro h
    split at h
    · next found hfound =>
      obtain ⟨l, e, hl, he, rfl⟩ := metadata_eq_ok.1 hfound
      cases e with
      | directory m => exact ⟨l, m, hl, he⟩
      | file bytes m | link target => cases h
    · cases h
  · rintro ⟨l, m, hl, he⟩
    rw [metadata_eq_ok.2 ⟨l, _, hl, he, rfl⟩]
    rfl

/-- A directory is still one when a disk has more on it. -/
theorem isDirectory_mono (h : Extends d d') {p : Path} (hdir : d.isDirectory p = true) : d'.isDirectory p = true := by
  obtain ⟨l, m, hl, hm⟩ := isDirectory_eq_true.1 hdir
  exact isDirectory_eq_true.2 ⟨l, m, locate_mono h hl, h.get _ _ hm⟩

/-- Where nothing stands, there is no directory. -/
theorem Leads.isDirectory_vacant {p : Path} {l : Location} {n : Name} (h : d.Leads p l) (hn : Path.IsName n)
    (hvacant : d.get? (l ++ [n]) = none) : d.isDirectory (p.join ⟨n⟩) ≠ true := by
  intro hdir
  obtain ⟨l', _, hl', _⟩ := isDirectory_eq_true.1 hdir
  exact h.locate_vacant hn hvacant l' hl'

/-- The places that reading a path depends on: those on the way and the one in the end. -/
def pathTrail (d : Disk) (p : Path) : List Location :=
  d.trail .whole linkLimit (d.start p) p.names ++ match d.locate p with
    | .ok l => [l]
    | .error _ => []

theorem mem_pathTrail {p : Path} {l : Location} (h : d.locate p = .ok l) : l ∈ d.pathTrail p := by
  rw [pathTrail, h]
  exact List.mem_append_right _ List.mem_cons_self

/-- A path leads to the same on disks that agree along its trail. -/
theorem locate_congr {p : Path} (h : AgreesAt d d' (d.pathTrail p)) (hc : d'.current = d.current)
    (hp : d'.privileged = d.privileged) : d'.locate p = d.locate p := by
  rw [locate, locate, start, start, hc]
  congr 1
  funext _
  exact walk_congr h.left hp

theorem entryAt_congr {p : Path} {l : Location} (h : AgreesAt d d' (d.pathTrail p)) (hl : d.locate p = .ok l) :
    d'.entryAt l = d.entryAt l := by
  rw [entryAt, entryAt, h l (mem_pathTrail hl)]

/-- The same is known of what a path leads to on disks that agree along its trail. -/
theorem metadata_congr {p : Path} (h : AgreesAt d d' (d.pathTrail p)) (hc : d'.current = d.current)
    (hp : d'.privileged = d.privileged) : d'.metadata p = d.metadata p := by
  rw [metadata, metadata, locate_congr h hc hp]
  cases hl : d.locate p with
  | error c => rfl
  | ok l => simp only [bind, Except.bind, entryAt_congr h hl]

/-- A path reads the same on disks that agree along its trail. -/
theorem read_congr {p : Path} (h : AgreesAt d d' (d.pathTrail p)) (hc : d'.current = d.current)
    (hp : d'.privileged = d.privileged) : d'.read p = d.read p := by
  rw [read, read, locate_congr h hc hp]
  cases hl : d.locate p with
  | error c => rfl
  | ok l => simp only [bind, Except.bind, entryAt_congr h hl, mayRead_congr hp]

/-- A file that can be read can still be read while nothing along its trail goes away. -/
theorem read_keeps {p : Path} {bytes : Bytes} (hr : d.read p = .ok bytes) (hk : KeepsAt d d' (d.pathTrail p))
    (hc : d'.current = d.current) (hp : d'.privileged = d.privileged) : d'.read p = .ok bytes := by
  rw [read_congr (fun l hl => ?_) hc hp, hr]
  obtain ⟨l₀, m, hl₀, he, _⟩ := read_eq_ok.1 hr
  obtain ⟨e, he⟩ : ∃ e, d.get? l = some e := by
    rcases List.mem_append.1 hl with hl | hl
    · exact trail_occupied (by simp [(locate_eq_ok.1 hl₀).2]) l hl
    · rw [hl₀, List.mem_singleton] at hl
      exact ⟨_, hl ▸ he⟩
  rw [he, hk l hl e he]

end Retarget.Disk

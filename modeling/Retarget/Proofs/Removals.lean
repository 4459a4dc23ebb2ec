import Retarget.Convert.Converter
import Retarget.Proofs.Writes

/-!
# What removal takes away

Removing something takes away what is at or below its place and nothing else, however far it gets (`Disk.Prunes`). When
it gets to its end, nothing is left there.

* `Disk.removeBelow_prunes`: a whole directory,
* `Disk.clear_spec`: the old output of a tree.
-/

namespace Retarget.Disk

variable {d d' : Disk}

/-! ## Pruned disks -/

/-- Some of what was at or below a place is gone, and nothing else has changed. -/
structure Prunes (top : Location) (d d' : Disk) : Prop where
  less : Extends d' d
  frame : ∀ k, ¬ top <+: k → d'.get? k = d.get? k
  wellFormed : d.WellFormed → d'.WellFormed

namespace Prunes

theorem refl (top : Location) (d : Disk) : Prunes top d d := ⟨.refl d, fun _ _ => rfl, id⟩

theorem trans {top : Location} {d₁ d₂ d₃ : Disk} (h : Prunes top d₁ d₂) (h' : Prunes top d₂ d₃) :
    Prunes top d₁ d₃ where
  less := h'.less.trans h.less
  frame k hk := (h'.frame k hk).trans (h.frame k hk)
  wellFormed hd := h'.wellFormed (h.wellFormed hd)

theorem of_below {top l : Location} (h : Prunes (top ++ l) d d') : Prunes top d d' :=
  ⟨h.less, fun k hk => h.frame k fun hp => hk ((List.prefix_append top l).trans hp), h.wellFormed⟩

theorem vacant {top k : Location} (h : Prunes top d d') (hk : d.get? k = none) : d'.get? k = none := by
  cases he : d'.get? k with
  | none => rfl
  | some e => rw [h.less.get k e he] at hk; cases hk

theorem bare {top l : Location} (h : Prunes top d d') (hl : d.Bare l) : d'.Bare l := fun rest => h.vacant (hl rest)

end Prunes

theorem extends_erase {l : Location} (hl : l ≠ []) : Extends (d.erase l) d where
  get k e hk := by
    rw [get?_erase d hl] at hk
    split at hk
    · cases hk
    · exact hk
  current := rfl
  privileged := rfl
  refuses := rfl

theorem get?_erase_frame {l k : Location} (hl : l ≠ []) (hk : ¬ l <+: k) : (d.erase l).get? k = d.get? k := by
  rw [get?_erase d hl, if_neg]
  rintro rfl
  exact hk (List.prefix_refl _)

/-- A leaf of a tree can be taken away. -/
theorem prunes_erase {l : Location} (hl : l ≠ []) (hbelow : d.WellFormed → ∀ n, d.get? (l ++ [n]) = none) :
    Prunes l d (d.erase l) where
  less := extends_erase hl
  frame _ hk := get?_erase_frame hl hk
  wellFormed hd := hd.erase hl (hbelow hd)

theorem bare_erase {l : Location} (hl : l ≠ []) (hbelow : ∀ rest, rest ≠ [] → d.get? (l ++ rest) = none) :
    (d.erase l).Bare l := by
  intro rest
  rw [get?_erase d hl]
  split
  · rfl
  · next hne => exact hbelow rest fun he => hne (by rw [he, List.append_nil])

/-! ## Files and links -/

theorem unlink_eq_ok {l : Location} {n : Name} {m : Mode} (h : d.unlink l m n = .ok d') :
    d' = d.erase (l ++ [n]) ∧ ∀ m, d.get? (l ++ [n]) ≠ some (.directory m) := by
  unfold unlink at h
  split at h
  · cases h
  · split at h <;> cases h
  · next e hother he =>
    split at h
    · cases h
      exact ⟨rfl, fun m hm => hother m (Option.some.inj (he.symm.trans hm))⟩
    · cases h

theorem unlink_prunes {l : Location} {n : Name} {m : Mode} (h : d.unlink l m n = .ok d') : Prunes (l ++ [n]) d d' := by
  obtain ⟨rfl, hfile⟩ := unlink_eq_ok h
  exact prunes_erase (by simp) fun hd _ => hd.vacant_below hfile (by simp)

theorem unlink_bare {l : Location} {n : Name} {m : Mode} (hd : d.WellFormed) (h : d.unlink l m n = .ok d') :
    d'.Bare (l ++ [n]) := by
  obtain ⟨rfl, hfile⟩ := unlink_eq_ok h
  exact bare_erase (by simp) fun rest hrest => hd.vacant_below hfile hrest

/-! ## Directories -/

/-- Names are removed one after another, each without harm to the rest. -/
theorem removeNames_prunes {removeOne : Disk → Name → Except Cause Unit × Disk} {l : Location} {d : Disk}
    {ns : List Name} (hone : ∀ d', Extends d' d → ∀ n ∈ ns, Prunes (l ++ [n]) d' (removeOne d' n).2) :
    Prunes l d (removeNames removeOne d ns).2 := by
  induction ns generalizing d with
  | nil => exact .refl l d
  | cons n rest ih =>
    have hfirst := hone d (.refl d) n List.mem_cons_self
    unfold removeNames
    split
    · next u d₁ hd₁ =>
      rw [hd₁] at hfirst
      exact hfirst.of_below.trans
        (ih fun d' hd' k hk => hone d' (hd'.trans hfirst.less) k (List.mem_cons_of_mem n hk))
    · next c d₁ hd₁ =>
      rw [hd₁] at hfirst
      exact hfirst.of_below

/-- When all names have been removed, nothing is left of them. -/
theorem removeNames_bare {removeOne : Disk → Name → Except Cause Unit × Disk} {l : Location} {d : Disk}
    {ns : List Name} (hd : d.WellFormed)
    (hone : ∀ d', Extends d' d → ∀ n ∈ ns, Prunes (l ++ [n]) d' (removeOne d' n).2)
    (hdone : ∀ d', Extends d' d → d'.WellFormed → ∀ n ∈ ns, (removeOne d' n).1 = .ok () →
      (removeOne d' n).2.Bare (l ++ [n]))
    (h : (removeNames removeOne d ns).1 = .ok ()) : ∀ n ∈ ns, (removeNames removeOne d ns).2.Bare (l ++ [n]) := by
  induction ns generalizing d with
  | nil => simp
  | cons n rest ih =>
    have hfirst := hone d (.refl d) n List.mem_cons_self
    have hgone := hdone d (.refl d) hd n List.mem_cons_self
    unfold removeNames at h ⊢
    split
    · next u d₁ hd₁ =>
      rw [hd₁] at h hfirst hgone
      have hone' : ∀ d', Extends d' d₁ → ∀ k ∈ rest, Prunes (l ++ [k]) d' (removeOne d' k).2 :=
        fun d' hd' k hk => hone d' (hd'.trans hfirst.less) k (List.mem_cons_of_mem n hk)
      intro k hk
      rcases List.mem_cons.1 hk with rfl | hk
      · exact (removeNames_prunes hone').bare (hgone rfl)
      · refine ih (hfirst.wellFormed hd) hone' (fun d' hd' hwf k hk => ?_) h k hk
        exact hdone d' (hd'.trans hfirst.less) hwf k (List.mem_cons_of_mem n hk)
    · next c d₁ hd₁ =>
      rw [hd₁] at h
      cases h

/-- All that is below a directory is below one of its names. -/
theorem vacant_of_names (hd : d.WellFormed) (hless : Extends d' d) {l : Location}
    (hbare : ∀ n ∈ d.names l, d'.Bare (l ++ [n])) (rest : Location) (hrest : rest ≠ []) :
    d'.get? (l ++ rest) = none := by
  obtain ⟨n, rest, rfl⟩ := List.exists_cons_of_ne_nil hrest
  rw [List.append_cons]
  cases he : d'.get? (l ++ [n] ++ rest) with
  | none => rfl
  | some e =>
    have hold := hless.get _ _ he
    have hn : (d.get? (l ++ [n])).isSome := by
      cases rest with
      | nil => rw [List.append_nil] at hold; rw [hold]; rfl
      | cons k rest =>
        obtain ⟨m, hm⟩ := hd.above hold (by simp)
        rw [hm]
        rfl
    rw [hbare n (mem_names.2 hn) rest] at he
    cases he

theorem removeBelow_prunes (fuel : Nat) (l : Location) (m : Mode) (d : Disk) (n : Name) :
    Prunes (l ++ [n]) d (removeBelow fuel l m d n).2 ∧
      (d.WellFormed → (removeBelow fuel l m d n).1 = .ok () → (removeBelow fuel l m d n).2.Bare (l ++ [n])) := by
  induction fuel generalizing l m d n with
  | zero => exact ⟨.refl _ d, fun _ h => by cases h⟩
  | succ fuel ih =>
    unfold removeBelow
    simp only
    split
    · next inner _ =>
      split
      · exact ⟨.refl _ d, fun _ h => by cases h⟩
      · split
        · exact ⟨.refl _ d, fun _ h => by cases h⟩
        · -- The names of the directory go first, then the directory itself, which is empty by then.
          have hone : ∀ d', Extends d' d → ∀ k ∈ d.names (l ++ [n]),
              Prunes (l ++ [n] ++ [k]) d' (removeBelow fuel (l ++ [n]) inner d' k).2 :=
            fun d' _ k _ => (ih (l ++ [n]) inner d' k).1
          have hnames := removeNames_prunes hone
          have hgone := fun hd =>
            removeNames_bare hd hone fun d' _ hd' k _ => (ih (l ++ [n]) inner d' k).2 hd'
          split
          · next c d₁ hd₁ =>
            rw [hd₁] at hnames
            exact ⟨hnames, fun _ h => by cases h⟩
          · next u d₁ hd₁ =>
            rw [hd₁] at hnames hgone
            have hempty := fun hd => vacant_of_names hd hnames.less (hgone hd rfl)
            split
            · refine ⟨⟨(extends_erase (by simp)).trans hnames.less, fun k hk => ?_, fun hd => ?_⟩, fun hd _ => ?_⟩
              · rw [get?_erase_frame (by simp) hk, hnames.frame k hk]
              · exact (hnames.wellFormed hd).erase (by simp) fun k => hempty hd [k] (by simp)
              · exact bare_erase (by simp) (hempty hd)
            · exact ⟨hnames, fun _ h => by cases h⟩
    · split
      · next d₁ h => exact ⟨unlink_prunes h, fun hd _ => unlink_bare hd h⟩
      · exact ⟨.refl _ d, fun _ h => by cases h⟩

/-! ## The old output -/

theorem linkMetadata_join {q : Path} {n : Name} {found : Metadata} (hn : Path.IsName n)
    (h : d.linkMetadata (q.join ⟨n⟩) = .ok found) :
    ∃ l m e, d.approach (q.join ⟨n⟩) = .ok ⟨l, m, some n, false⟩ ∧ d.Leads q l ∧ d.enter l = .ok m ∧
      n.length ≤ Path.nameLimit ∧ d.get? (l ++ [n]) = some e ∧ found = .ofEntry e := by
  obtain ⟨a, ha, h⟩ := bind_eq_ok.1 h
  obtain ⟨l, m, _, hl, hm, hlen, rfl⟩ := (approach_join_eq_ok hn).1 ha
  simp only [Bool.false_eq_true, if_false] at h
  obtain ⟨e, he, h⟩ := bind_eq_ok.1 h
  cases h
  exact ⟨l, m, e, ha, hl, hm, hlen, entryAt_eq_ok.1 he, rfl⟩

theorem remove_join {q : Path} {l : Location} {n : Name} {m : Mode}
    (ha : d.approach (q.join ⟨n⟩) = .ok ⟨l, m, some n, false⟩) : d.remove (q.join ⟨n⟩) = d.unlink l m n := by
  rw [remove, ha]
  rfl

theorem removeTree_join {q : Path} {l : Location} {n : Name} {m : Mode}
    (ha : d.approach (q.join ⟨n⟩) = .ok ⟨l, m, some n, false⟩) :
    d.removeTree (q.join ⟨n⟩) = removeBelow (d.depth + 1) l m d n := by
  rw [removeTree, ha]

/-- A member of a directory is removed from the place that the directory leads to. -/
theorem removeMember_prunes {p : Path} {l : Location} {n : Name} (hp : ∀ l', d.Leads p l' → l' = l)
    (hn : Path.IsName n) :
    Prunes (l ++ [n]) d (removeMember p d n).2 ∧
      (d.WellFormed → (removeMember p d n).1 = .ok () → (removeMember p d n).2.Bare (l ++ [n])) := by
  unfold removeMember
  simp only
  split
  · exact ⟨.refl _ d, fun _ h => by cases h⟩
  · next found hfound =>
    obtain ⟨l', m, e, ha, hl', _, _, _, _⟩ := linkMetadata_join hn hfound
    obtain rfl := hp l' hl'
    split
    · rw [removeTree_join ha]
      exact removeBelow_prunes _ _ m d n
    · rw [remove_join ha]
      split
      · next d₁ h => exact ⟨unlink_prunes h, fun hd _ => unlink_bare hd h⟩
      · exact ⟨.refl _ d, fun _ h => by cases h⟩

/-- At a place there is an empty directory or nothing at all. -/
structure Vacated (d : Disk) (place : Location) : Prop where
  below : ∀ rest, rest ≠ [] → d.get? (place ++ rest) = none
  directory : ∀ e, d.get? place = some e → ∃ m, e = .directory m

theorem Bare.vacated {l : Location} (h : d.Bare l) : d.Vacated l where
  below rest _ := h rest
  directory e he := by
    have hnone := h []
    rw [List.append_nil, he] at hnone
    cases hnone

/-- Removing the members of a directory one after another empties it. -/
theorem removeMembers_spec {p : Path} {l : Location} {m : Mode} (hd : d.WellFormed) (hl : d.Leads p l)
    (hm : d.get? l = some (.directory m)) :
    Prunes l d (removeNames (removeMember p) d (d.names l)).2 ∧
      ((removeNames (removeMember p) d (d.names l)).1 = .ok () →
        (removeNames (removeMember p) d (d.names l)).2.Vacated l) := by
  -- The path still leads to the directory when some of its members are gone.
  have hone : ∀ d', Extends d' d → ∀ k ∈ d.names l,
      Prunes (l ++ [k]) d' (removeMember p d' k).2 ∧
        (d'.WellFormed → (removeMember p d' k).1 = .ok () → (removeMember p d' k).2.Bare (l ++ [k])) := by
    intro d' hd' k hk
    exact removeMember_prunes (fun l' hl' => (hl'.mono hd').unique hl) (hd.isName_of_mem_names hk)
  have hprunes := removeNames_prunes fun d' hd' k hk => (hone d' hd' k hk).1
  refine ⟨hprunes, fun h => ⟨?below, ?directory⟩⟩
  case below =>
    exact vacant_of_names hd hprunes.less (removeNames_bare hd (fun d' hd' k hk => (hone d' hd' k hk).1)
      (fun d' hd' hwf k hk => (hone d' hd' k hk).2 hwf) h)
  case directory =>
    intro e he
    exact ⟨m, Option.some.inj ((hprunes.less.get _ _ he).symm.trans hm)⟩

/-- Clearing takes away what is below the end of a path. Only a directory is left in the end, without anything in it. -/
theorem clear_spec {q : Path} {n : Name} {found : Metadata} (hd : d.WellFormed) (hn : Path.IsName n)
    (hfound : d.linkMetadata (q.join ⟨n⟩) = .ok found) :
    ∃ l m, d.approach (q.join ⟨n⟩) = .ok ⟨l, m, some n, false⟩ ∧ Prunes (l ++ [n]) d (d.clear (q.join ⟨n⟩)).2 ∧
      ((d.clear (q.join ⟨n⟩)).1 = .ok () → (d.clear (q.join ⟨n⟩)).2.Vacated (l ++ [n])) := by
  obtain ⟨l, m, e, ha, hl, hm, hlen, he, rfl⟩ := linkMetadata_join hn hfound
  refine ⟨l, m, ha, ?_⟩
  unfold clear
  rw [hfound]
  simp only
  split
  · next hdir =>
    obtain ⟨m', rfl⟩ : ∃ m', e = .directory m' := by
      cases e with
      | directory m' => exact ⟨m', rfl⟩
      | file bytes m' | link target => cases hdir
    have hplace : d.Leads (q.join ⟨n⟩) (l ++ [n]) := hl.join hm hn hlen he (by simp)
    split
    · exact ⟨.refl _ d, fun h => by cases h⟩
    · next names hnames =>
      obtain ⟨l', _, hl', _, _, rfl⟩ := list_eq_ok.1 hnames
      have hwalk := (locate_eq_ok.1 hl').2
      rw [q.names_join hn, ← q.steps_join hn] at hwalk
      obtain rfl := hplace.unique hwalk
      exact removeMembers_spec hd hplace he
  · rw [remove_join ha]
    split
    · next d₁ h => exact ⟨unlink_prunes h, fun _ => (unlink_bare hd h).vacated⟩
    · exact ⟨.refl _ d, fun h => by cases h⟩

end Retarget.Disk

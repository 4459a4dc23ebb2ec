import Mathlib.Data.List.Induction
import Mathlib.Data.List.Nodup
import Retarget.Proofs.Lookups

/-!
# Disks as trees

The table of a disk is a tree when every entry stands in a directory under a proper name (`Disk.WellFormed`).

* `Disk.mem_names`: the names in a directory are those with an entry,
* `Disk.WellFormed.above`: all that is above an entry is a directory,
* `Disk.WellFormed.put`, `Disk.WellFormed.erase`: changes that keep a tree a tree.
-/

namespace Retarget

namespace Path

instance (n : Name) : Decidable (IsName n) :=
  decidable_of_iff (n ≠ [] ∧ slash ∉ n ∧ n ≠ here ∧ n ≠ above)
    ⟨fun ⟨h₁, h₂, h₃, h₄⟩ => ⟨h₁, h₂, h₃, h₄⟩, fun ⟨h₁, h₂, h₃, h₄⟩ => ⟨h₁, h₂, h₃, h₄⟩⟩

end Path

namespace Disk

variable {d : Disk}

/-! ## The table and its keys -/

theorem get?_isSome_iff {l : Location} (hl : l ≠ []) : (d.get? l).isSome ↔ l ∈ d.entries.map Prod.fst := by
  cases l with
  | nil => exact (hl rfl).elim
  | cons n l =>
    show (d.entries.lookup (n :: l)).isSome ↔ _
    rw [List.lookup_isSome_iff, List.mem_map]
    exact ⟨fun ⟨x, hx, he⟩ => ⟨x, hx, (beq_iff_eq.1 he).symm⟩, fun ⟨x, hx, he⟩ => ⟨x, hx, beq_iff_eq.2 he.symm⟩⟩

theorem nameIn?_eq_some {l k : Location} {n : Name} : nameIn? l k = some n ↔ k = l ++ [n] := by
  rcases List.eq_nil_or_concat k with rfl | ⟨k, m, rfl⟩
  · simp [nameIn?]
  · simp [nameIn?, and_comm]

/-- The names in a directory are those with an entry. -/
theorem mem_names {l : Location} {n : Name} : n ∈ d.names l ↔ (d.get? (l ++ [n])).isSome := by
  rw [get?_isSome_iff (by simp), names, List.mem_filterMap, List.mem_map]
  exact ⟨fun ⟨x, hx, h⟩ => ⟨x, hx, nameIn?_eq_some.1 h⟩, fun ⟨x, hx, h⟩ => ⟨x, hx, nameIn?_eq_some.2 h⟩⟩

theorem isDirectoryAt_iff {l : Location} : d.isDirectoryAt l = true ↔ ∃ m, d.get? l = some (.directory m) := by
  unfold isDirectoryAt
  split <;> simp_all

theorem keys_put (d : Disk) (l : Location) (e : Entry) : (d.put l e).entries.map Prod.fst =
    if (d.entries.lookup l).isSome then d.entries.map Prod.fst else d.entries.map Prod.fst ++ [l] := by
  unfold put
  split
  · rw [List.map_map]
    refine List.map_congr_left fun x _ => ?_
    by_cases hx : x.1 = l <;> simp [hx]
  · simp

theorem keys_erase (d : Disk) (l : Location) :
    (d.erase l).entries.map Prod.fst = (d.entries.map Prod.fst).filter (· != l) := by
  rw [erase, List.filter_map]
  rfl

theorem lookup_isNone_iff {l : Location} {entries : List (Location × Entry)} :
    (entries.lookup l).isSome = false ↔ ∀ x ∈ entries, x.1 ≠ l := by
  rw [Bool.eq_false_iff, Ne, List.lookup_isSome_iff]
  push Not
  exact ⟨fun h x hx he => h x hx (beq_iff_eq.2 he.symm), fun h x hx he => h x hx (beq_iff_eq.1 he).symm⟩

/-- A second change of a place makes up for the first. -/
theorem put_put (d : Disk) (l : Location) (e e' : Entry) : (d.put l e).put l e' = d.put l e' := by
  have hsome : ((d.put l e).entries.lookup l).isSome = true := by
    by_contra hnone
    have hkeys : l ∈ (d.put l e).entries.map Prod.fst := by
      rw [keys_put]
      split
      · next h =>
        obtain ⟨x, hx, he⟩ := List.lookup_isSome_iff.1 h
        exact List.mem_map.2 ⟨x, hx, (beq_iff_eq.1 he).symm⟩
      · simp
    obtain ⟨x, hx, he⟩ := List.mem_map.1 hkeys
    exact lookup_isNone_iff.1 (Bool.eq_false_iff.2 hnone) x hx he
  have hmap : ∀ x : Location × Entry, ((fun x => if x.1 == l then (l, e') else x) ∘
      fun x => if x.1 == l then (l, e) else x) x = if x.1 == l then (l, e') else x := by
    intro x
    by_cases hx : x.1 = l <;> simp [hx]
  rw [put, if_pos hsome]
  unfold put
  split
  · simp only [List.map_map]
    rw [List.map_congr_left fun x _ => hmap x]
  · next h =>
    have hkeep := lookup_isNone_iff.1 (Bool.eq_false_iff.2 h)
    have hid : d.entries.map (fun x => if x.1 == l then (l, e') else x) = d.entries := by
      refine (List.map_congr_left fun x hx => ?_).trans (List.map_id _)
      simp [hkeep x hx]
    rw [List.map_append, hid]
    simp

/-- What was put at a vacant place can be taken away again without a trace. -/
theorem erase_put {l : Location} (hl : l ≠ []) (h : d.get? l = none) (e : Entry) : (d.put l e).erase l = d := by
  have hnone : (d.entries.lookup l).isSome = false := by
    cases l with
    | nil => exact (hl rfl).elim
    | cons n l => rw [show d.entries.lookup (n :: l) = none from h]; rfl
  have hkeep := lookup_isNone_iff.1 hnone
  have hfilter : d.entries.filter (fun x => x.1 != l) = d.entries :=
    List.filter_eq_self.2 fun x hx => by simpa using hkeep x hx
  rw [put, if_neg (by simp [hnone]), erase]
  simp [hfilter]

@[simp] theorem put_current (d : Disk) (l : Location) (e : Entry) : (d.put l e).current = d.current := by
  unfold put; split <;> rfl

@[simp] theorem put_privileged (d : Disk) (l : Location) (e : Entry) : (d.put l e).privileged = d.privileged := by
  unfold put; split <;> rfl

@[simp] theorem put_refuses (d : Disk) (l : Location) (e : Entry) : (d.put l e).refuses = d.refuses := by
  unfold put; split <;> rfl

/-- Nothing is at a place or below it. -/
def Bare (d : Disk) (top : Location) : Prop := ∀ rest, d.get? (top ++ rest) = none

/-! ## Trees -/

/-- Every entry stands once, in a directory, and under a proper name. -/
structure WellFormed (d : Disk) : Prop where
  nodup : (d.entries.map Prod.fst).Nodup
  proper : ∀ l ∈ d.entries.map Prod.fst, l ≠ [] ∧ ∀ n ∈ l, Path.IsName n
  parents : ∀ l ∈ d.entries.map Prod.fst, d.isDirectoryAt l.dropLast = true

instance (d : Disk) : Decidable d.WellFormed :=
  decidable_of_iff ((d.entries.map Prod.fst).Nodup ∧
      (∀ l ∈ d.entries.map Prod.fst, l ≠ [] ∧ ∀ n ∈ l, Path.IsName n) ∧
      ∀ l ∈ d.entries.map Prod.fst, d.isDirectoryAt l.dropLast = true)
    ⟨fun ⟨h₁, h₂, h₃⟩ => ⟨h₁, h₂, h₃⟩, fun ⟨h₁, h₂, h₃⟩ => ⟨h₁, h₂, h₃⟩⟩

namespace WellFormed

variable (hd : d.WellFormed)
include hd

theorem isName {l : Location} {e : Entry} (h : d.get? l = some e) : ∀ n ∈ l, Path.IsName n := by
  by_cases hl : l = []
  · simp [hl]
  · exact (hd.proper l ((get?_isSome_iff hl).1 (by rw [h]; rfl))).2

theorem parent {l : Location} {n : Name} {e : Entry} (h : d.get? (l ++ [n]) = some e) :
    ∃ m, d.get? l = some (.directory m) := by
  have hp := hd.parents (l ++ [n]) ((get?_isSome_iff (by simp)).1 (by rw [h]; rfl))
  rw [List.dropLast_concat] at hp
  exact isDirectoryAt_iff.1 hp

/-- All that is above an entry is a directory. -/
theorem above {l rest : Location} {e : Entry} (h : d.get? (l ++ rest) = some e) (hrest : rest ≠ []) :
    ∃ m, d.get? l = some (.directory m) := by
  induction rest using List.reverseRecOn generalizing e with
  | nil => exact (hrest rfl).elim
  | append_singleton rest n ih =>
    rw [← List.append_assoc] at h
    obtain ⟨m, hm⟩ := hd.parent h
    by_cases hr : rest = []
    · rw [hr, List.append_nil] at hm
      exact ⟨m, hm⟩
    · exact ih hm hr

theorem vacant_below {l rest : Location} (hl : ∀ m, d.get? l ≠ some (.directory m)) (hrest : rest ≠ []) :
    d.get? (l ++ rest) = none := by
  cases he : d.get? (l ++ rest) with
  | none => rfl
  | some e =>
    obtain ⟨m, hm⟩ := hd.above he hrest
    exact (hl m hm).elim

theorem names_nodup (l : Location) : (d.names l).Nodup := by
  have hnames : d.names l = (d.entries.map Prod.fst).filterMap (nameIn? l) := by
    rw [List.filterMap_map]
    rfl
  rw [hnames]
  refine hd.nodup.filterMap fun k k' n hk hk' => ?_
  rw [nameIn?_eq_some.1 hk, nameIn?_eq_some.1 hk']

theorem isName_of_mem_names {l : Location} {n : Name} (h : n ∈ d.names l) : Path.IsName n := by
  obtain ⟨e, he⟩ := Option.isSome_iff_exists.1 (mem_names.1 h)
  exact hd.isName he n (by simp)

/-- An entry under a proper name in a directory keeps a tree a tree, unless it hides a directory. -/
theorem put {l : Location} {n : Name} {m : Mode} {e : Entry} (hl : d.get? l = some (.directory m))
    (hn : Path.IsName n) (hold : ∀ m, d.get? (l ++ [n]) ≠ some (.directory m)) : (d.put (l ++ [n]) e).WellFormed := by
  have hkeys : ∀ k ∈ (d.put (l ++ [n]) e).entries.map Prod.fst, k ∈ d.entries.map Prod.fst ∨ k = l ++ [n] := by
    intro k hk
    rw [keys_put] at hk
    split at hk
    · exact .inl hk
    · simpa using hk
  refine ⟨?_, ?_, ?_⟩
  · rw [keys_put]
    split
    · exact hd.nodup
    · next h =>
      refine List.nodup_append.2 ⟨hd.nodup, List.nodup_singleton _, ?_⟩
      intro k hk k' hk' he
      obtain ⟨x, hx, rfl⟩ := List.mem_map.1 hk
      exact lookup_isNone_iff.1 (Bool.eq_false_iff.2 h) x hx (he.trans (List.mem_singleton.1 hk'))
  · intro k hk
    rcases hkeys k hk with hk | rfl
    · exact hd.proper k hk
    · refine ⟨by simp, fun k hk => ?_⟩
      rcases List.mem_append.1 hk with hk | hk
      · exact hd.isName hl k hk
      · exact List.mem_singleton.1 hk ▸ hn
  · intro k hk
    rw [isDirectoryAt_iff]
    simp only [get?_put d (l := l ++ [n]) (by simp)]
    rcases hkeys k hk with hk | rfl
    · obtain ⟨m', hm'⟩ := isDirectoryAt_iff.1 (hd.parents k hk)
      refine ⟨m', ?_⟩
      rw [if_neg fun he : k.dropLast = l ++ [n] => hold m' (he ▸ hm')]
      exact hm'
    · rw [List.dropLast_concat, if_neg (by simp)]
      exact ⟨m, hl⟩

/-- A tree without a leaf is a tree. -/
theorem erase {l : Location} (hl : l ≠ []) (hbelow : ∀ n, d.get? (l ++ [n]) = none) : (d.erase l).WellFormed := by
  have hkeys : ∀ k ∈ (d.erase l).entries.map Prod.fst, k ∈ d.entries.map Prod.fst ∧ k ≠ l := by
    intro k hk
    rw [keys_erase, List.mem_filter] at hk
    exact ⟨hk.1, by simpa using hk.2⟩
  refine ⟨?_, fun k hk => hd.proper k (hkeys k hk).1, fun k hk => ?_⟩
  · rw [keys_erase]
    exact hd.nodup.filter _
  · obtain ⟨m, hm⟩ := isDirectoryAt_iff.1 (hd.parents k (hkeys k hk).1)
    refine isDirectoryAt_iff.2 ⟨m, ?_⟩
    rw [get?_erase d hl, if_neg, hm]
    intro he
    have hk' := (hd.proper k (hkeys k hk).1).1
    have hnone := hbelow (k.getLast hk')
    rw [← he, List.dropLast_append_getLast hk'] at hnone
    have hsome := (get?_isSome_iff hk').2 (hkeys k hk).1
    rw [hnone] at hsome
    cases hsome

end WellFormed

end Disk

end Retarget

/-!
# Byte offsets

Places in a text are counted in bytes of UTF-8. A place is a boundary when no character lies across it.

* `byteLength`: the length of a text,
* `splitAt?`: cut a text at a boundary.
-/

namespace Retarget.Text

/-- The length of a text in bytes. -/
def byteLength : List Char → Nat
  | [] => 0
  | c :: cs => c.utf8Size + byteLength cs

/-- The parts of a text before and after a place, if the place is a boundary. -/
def splitAt? : List Char → Nat → Option (List Char × List Char)
  | cs, 0 => some ([], cs)
  | [], _ + 1 => none
  | c :: cs, n + 1 =>
    if c.utf8Size ≤ n + 1 then (splitAt? cs (n + 1 - c.utf8Size)).map fun (pre, post) => (c :: pre, post) else none

/-- Is the place a boundary? -/
def isBoundary (cs : List Char) (n : Nat) : Bool := (splitAt? cs n).isSome

@[simp] theorem byteLength_append (a b : List Char) : byteLength (a ++ b) = byteLength a + byteLength b := by
  induction a with
  | nil => simp [byteLength]
  | cons c a ih => simp [byteLength, ih, Nat.add_assoc]

/-- What is cut apart is the text, and the cut lies where it was asked for. -/
theorem splitAt?_eq_some {cs pre post : List Char} {n : Nat} (h : splitAt? cs n = some (pre, post)) :
    cs = pre ++ post ∧ byteLength pre = n := by
  fun_induction splitAt? cs n generalizing pre post with
  | case1 cs => simp_all [byteLength]
  | case2 => simp at h
  | case3 c cs n hc ih =>
    obtain ⟨⟨a, b⟩, hab, he⟩ := Option.map_eq_some_iff.1 h
    simp only [Prod.mk.injEq] at he
    obtain ⟨rfl, rfl⟩ := he
    have := ih hab
    simp only [this.1, byteLength, List.cons_append, true_and]
    omega
  | case4 => simp at h

/-- A text can be cut after each of its beginnings. -/
theorem splitAt?_append (a b : List Char) : splitAt? (a ++ b) (byteLength a) = some (a, b) := by
  induction a with
  | nil => cases b <;> simp [splitAt?, byteLength]
  | cons c a ih =>
    have hc := c.utf8Size_pos
    obtain ⟨k, hk⟩ : ∃ k, c.utf8Size + byteLength a = k + 1 := ⟨c.utf8Size + byteLength a - 1, by omega⟩
    have hle : c.utf8Size ≤ k + 1 := by omega
    have hsub : k + 1 - c.utf8Size = byteLength a := by omega
    simp [byteLength, hk, splitAt?, hle, hsub, ih]

end Retarget.Text

import Retarget.Text.Offset

/-!
# Slices

A slice is a part of a text between two byte offsets. It can be cut out only where there is one: in the text, with both
ends on boundaries. What is computed with slices keeps a record of them, also of the one at which it broke off.

* `Slice.Valid`: when there is such a part,
* `Slice.chars?`: its characters,
* `offsetOf?`: the first place of a character,
* `Slicing`: a computation that cuts out slices.
-/

namespace Retarget.Text

/-- A text and two byte offsets. -/
structure Slice where
  text : List Char
  start : Nat
  stop : Nat
deriving Repr, BEq, DecidableEq

namespace Slice

/-- The offsets are in order and in bounds, and no character lies across one of them. -/
structure Valid (s : Slice) : Prop where
  ordered : s.start ≤ s.stop
  bounded : s.stop ≤ byteLength s.text
  start : isBoundary s.text s.start = true
  stop : isBoundary s.text s.stop = true

/-- The characters between the offsets, if these are valid. -/
def chars? (s : Slice) : Option (List Char) :=
  if s.stop < s.start then none
  else (splitAt? s.text s.start).bind fun (_, after) => (splitAt? after (s.stop - s.start)).map (·.1)

theorem chars?_eq_some_iff {s : Slice} {chars : List Char} : s.chars? = some chars ↔
    ∃ before after, s.text = before ++ (chars ++ after) ∧ s.start = byteLength before ∧
      s.stop = byteLength before + byteLength chars := by
  constructor
  · intro h
    rw [chars?] at h
    split at h
    · cases h
    · next hle =>
      obtain ⟨⟨before, rest⟩, hbefore, h⟩ := Option.bind_eq_some_iff.1 h
      obtain ⟨⟨_, after⟩, hchars, rfl⟩ := Option.map_eq_some_iff.1 h
      obtain ⟨htext, hstart⟩ := splitAt?_eq_some hbefore
      obtain ⟨rfl, hwidth⟩ := splitAt?_eq_some hchars
      refine ⟨before, after, htext, hstart.symm, ?_⟩
      rw [hwidth, hstart]
      omega
  · rintro ⟨before, after, htext, hstart, hstop⟩
    have hle : ¬ byteLength before + byteLength chars < byteLength before := by omega
    rw [chars?, htext, hstart, hstop, if_neg hle, splitAt?_append, Nat.add_sub_cancel_left]
    show (splitAt? (chars ++ after) (byteLength chars)).map (·.1) = some chars
    rw [splitAt?_append, Option.map_some]

end Slice

/-- The offset of the first place of a character. -/
def offsetOf? (c : Char) : List Char → Option Nat
  | [] => none
  | d :: cs => if d = c then some 0 else (offsetOf? c cs).map (d.utf8Size + ·)

/-- A computation that cuts out slices: those that it asks for, and its result, if it gets all of them. -/
structure Slicing (α : Type) where
  slices : List Slice
  result : Option α
deriving Repr

namespace Slicing

variable {α β : Type}

/-- Go on with a result, if there is one. -/
def andThen (x : Slicing α) (f : α → Slicing β) : Slicing β :=
  match x.result with
  | none => ⟨x.slices, none⟩
  | some a => ⟨x.slices ++ (f a).slices, (f a).result⟩

instance : Monad Slicing where
  pure a := ⟨[], some a⟩
  bind := andThen

/-- Cut out a slice. -/
def cut (text : List Char) (start stop : Nat) : Slicing (List Char) :=
  ⟨[⟨text, start, stop⟩], Slice.chars? ⟨text, start, stop⟩⟩

/-- Cut out all that comes after an offset. -/
def cutFrom (text : List Char) (start : Nat) : Slicing (List Char) := cut text start (byteLength text)

@[simp] theorem slices_pure (a : α) : (pure a : Slicing α).slices = [] := rfl

@[simp] theorem result_pure (a : α) : (pure a : Slicing α).result = some a := rfl

theorem bind_eq (x : Slicing α) (f : α → Slicing β) : x >>= f =
    match x.result with
    | none => ⟨x.slices, none⟩
    | some a => ⟨x.slices ++ (f a).slices, (f a).result⟩ := rfl

theorem result_bind_eq_some {x : Slicing α} {f : α → Slicing β} {b : β} (h : (x >>= f).result = some b) :
    ∃ a, x.result = some a ∧ (f a).result = some b := by
  rw [bind_eq] at h
  cases hx : x.result with
  | none =>
    rw [hx] at h
    cases h
  | some a =>
    rw [hx] at h
    exact ⟨a, rfl, h⟩

end Slicing

end Retarget.Text

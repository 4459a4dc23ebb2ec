import Retarget.Text.Offset

/-!
# Edits

An edit replaces a range of a text by another text. `Edit.applyAll` makes several edits at once: they are checked
and made from the last one to the first, so that no edit moves the place of another.

The checks of an edit are, in this order: its range lies in the text, both ends are boundaries, and it ends at or
before the start of the edit checked before it.
-/

namespace Retarget

/-- Replace the bytes from `start` up to `stop` by `text`. `rule` names who asked for it. -/
structure Edit where
  start : Nat
  stop : Nat
  text : String
  rule : String := ""
deriving Repr, BEq, DecidableEq

/-- Why edits cannot be made. -/
inductive EditError
  | overlapping (start : Nat)
  | outOfBounds (start stop length : Nat)
  | notBoundary (start stop : Nat)
deriving Repr, BEq, DecidableEq

def EditError.message : EditError → String
  | overlapping start => s!"Overlapping edits detected at offset {start}"
  | outOfBounds start stop length => s!"Edit range {start}..{stop} out of bounds for text length {length}"
  | notBoundary start stop => s!"Edit range {start}..{stop} does not fall on character boundaries"

namespace Edit

open Text

/-- The edits from the last start to the first; edits with one start keep their order. -/
def descending (edits : List Edit) : List Edit := edits.mergeSort fun a b => b.start ≤ a.start

/-- Check an edit against the text and the start of the edit checked before it. -/
def check (source : List Char) (limit : Option Nat) (e : Edit) : Except EditError Unit :=
  if byteLength source < e.stop ∨ e.stop < e.start then
    .error (.outOfBounds e.start e.stop (byteLength source))
  else if !isBoundary source e.start || !isBoundary source e.stop then .error (.notBoundary e.start e.stop)
  else if limit.any (· < e.stop) then .error (.overlapping e.start)
  else .ok ()

/-- Check edits one after another. -/
def checkAll (source : List Char) : Option Nat → List Edit → Except EditError Unit
  | _, [] => .ok ()
  | limit, e :: rest => do
    e.check source limit
    checkAll source (some e.start) rest

/-- Make one edit. A range that does not fall on boundaries changes nothing. -/
def replace (text : List Char) (e : Edit) : List Char :=
  match splitAt? text e.start, splitAt? text e.stop with
  | some (pre, _), some (_, post) => pre ++ e.text.toList ++ post
  | _, _ => text

/-- Make several edits at once. -/
def applyAll (source : String) (edits : List Edit) : Except EditError String := do
  let chars := source.toList
  let sorted := descending edits
  checkAll chars none sorted
  return String.ofList (sorted.foldl replace chars)

end Edit

end Retarget

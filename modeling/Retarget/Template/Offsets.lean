import Retarget.Template
import Retarget.Text.Slice
import Retarget.Text.Utf8

/-!
# Templates by byte offsets

A template can be read in its bytes, without a look at each character. A round searches for the next dollar sign, looks
at the bytes after it to see what it stands for and how many bytes that takes, and goes on behind them. All text comes
from slices, so that the reading would break off at an offset inside of a character.

* `numberIn`: a number in braces,
* `pieceAt`: what a dollar sign stands for,
* `round`: from one dollar sign to the next,
* `rest_lt_of_round`: a round that is followed by another one moves on, and so the rounds come to an end,
* `read`: the template.
-/

namespace Retarget.Template

open Text

/-- Is the byte a decimal digit? -/
def isDigitByte (b : UInt8) : Bool := '0'.toNat ≤ b.toNat && b.toNat ≤ '9'.toNat

/-- The number at the beginning of a text, up to the first closing brace, with the bytes of both. The number must be
below 2 ^ 64. -/
def numberIn (text : List Char) : Slicing (Option (Nat × Nat)) :=
  match offsetOf? '\x7d' text with
  | none => return none
  | some close => do
    let digits ← .cut text 0 close
    let bytes := encode (String.ofList digits)
    if bytes.isEmpty || !bytes.all isDigitByte then return none
    else
      let group := Nat.ofDigitChars 10 digits 0
      return if group < Nat.pow 2 64 then some (group, close + 1) else none

/-- The group in the braces after a dollar sign, and the bytes from the dollar sign to the closing brace. -/
def bracedAt (source : String) (count dollar : Nat) : Slicing (Except UnknownGroup (Piece × Nat)) := do
  let after ← .cutFrom source.toList (dollar + 2)
  match ← numberIn after with
  | some (group, width) => return (checked count group).map (·, 2 + width)
  | none => return .ok (.char '$', 1)

/-- The group that a first digit and the byte at an offset refer to, if that is a digit and there is such a group. -/
def secondAt (source : String) (count first offset : Nat) : Option Nat :=
  ((((encode source)[offset]?).filter isDigitByte).map fun b => 10 * first + (b.toNat - '0'.toNat)).filter
    fun group => decide (group ≤ count)

/-- The group of the one or two digits after a dollar sign, and the bytes from the dollar sign to the last of these. -/
def digitsAt (source : String) (count dollar first : Nat) : Except UnknownGroup (Piece × Nat) :=
  match secondAt source count first (dollar + 2) with
  | some group => .ok (.group group, 3)
  | none => (checked count first).map (·, 2)

/-- What the dollar sign at an offset stands for, and the bytes from it on that belong to this. -/
def pieceAt (source : String) (count dollar : Nat) : Slicing (Except UnknownGroup (Piece × Nat)) :=
  match (encode source)[dollar + 1]? with
  | none => return .ok (.char '$', 1)
  | some b =>
    if b.toNat = '$'.toNat then return .ok (.char '$', 2)
    else if b.toNat = '&'.toNat then return .ok (.group 0, 2)
    else if b.toNat = '\x7b'.toNat then bracedAt source count dollar
    else if '1'.toNat ≤ b.toNat ∧ b.toNat ≤ '9'.toNat then
      return digitsAt source count dollar (b.toNat - '0'.toNat)
    else return .ok (.char '$', 1)

/-- How far a template has been read: the offset of what is left, the text since the last group, and the segments before
that text. -/
structure Reading where
  rest : Nat
  literal : List Char
  segments : List Segment
deriving Repr, DecidableEq

/-- Add some text and a piece, and go on at an offset. -/
def Reading.push (r : Reading) (text : List Char) (rest : Nat) : Piece → Reading
  | .char c => ⟨rest, r.literal ++ text ++ [c], r.segments⟩
  | .group g => ⟨rest, [], r.segments ++ literalSegment (r.literal ++ text) ++ [.group g]⟩

@[simp] theorem Reading.rest_push (r : Reading) (text : List Char) (rest : Nat) (p : Piece) :
    (r.push text rest p).rest = rest := by
  cases p <;> rfl

/-- Read up to the next dollar sign and what it stands for. Nothing comes of it if no dollar sign is left. -/
def round (source : String) (count : Nat) (r : Reading) : Slicing (Option (Except UnknownGroup Reading)) := do
  let left ← .cutFrom source.toList r.rest
  match offsetOf? '$' left with
  | none => return none
  | some found =>
    let dollar := r.rest + found
    let text ← .cut source.toList r.rest dollar
    let next ← pieceAt source count dollar
    return some (next.map fun (p, width) => r.push text (dollar + width) p)

/-- Add what is left when there are no more dollar signs. -/
def finish (source : String) (r : Reading) : Slicing (Except UnknownGroup Template) := do
  let left ← .cutFrom source.toList r.rest
  return .ok ⟨source, r.segments ++ literalSegment (r.literal ++ left)⟩

/-! ## Progress -/

variable {source : String} {count : Nat}

theorem offsetOf?_lt {c : Char} {cs : List Char} {n : Nat} (h : offsetOf? c cs = some n) : n < byteLength cs := by
  fun_induction offsetOf? c cs generalizing n with
  | case1 => cases h
  | case2 cs =>
    cases h
    have := c.utf8Size_pos
    rw [byteLength]
    omega
  | case3 d cs _ ih =>
    obtain ⟨m, hm, rfl⟩ := Option.map_eq_some_iff.1 h
    have := ih hm
    rw [byteLength]
    omega

theorem map_checked {g width n : Nat} {p : Piece} (h : (checked count g).map (·, width) = .ok (p, n)) : n = width := by
  rw [checked] at h
  split at h
  · cases h
  · cases h
    rfl

theorem bracedAt_pos {dollar width : Nat} {p : Piece}
    (h : (bracedAt source count dollar).result = some (.ok (p, width))) : 0 < width := by
  obtain ⟨after, _, h⟩ := Slicing.result_bind_eq_some h
  obtain ⟨found, _, h⟩ := Slicing.result_bind_eq_some h
  split at h
  · have := map_checked (Option.some.inj h)
    omega
  · cases h
    exact Nat.one_pos

theorem digitsAt_pos {dollar first width : Nat} {p : Piece} (h : digitsAt source count dollar first = .ok (p, width)) :
    0 < width := by
  rw [digitsAt] at h
  split at h
  · cases h
    exact Nat.succ_pos 2
  · have := map_checked h
    omega

/-- The dollar sign itself is taken at least. -/
theorem pieceAt_pos {dollar width : Nat} {p : Piece}
    (h : (pieceAt source count dollar).result = some (.ok (p, width))) : 0 < width := by
  rw [pieceAt] at h
  split at h
  · cases h
    exact Nat.one_pos
  split at h
  · cases h
    exact Nat.two_pos
  split at h
  · cases h
    exact Nat.two_pos
  split at h
  · exact bracedAt_pos h
  split at h
  · exact digitsAt_pos (Option.some.inj h)
  · cases h
    exact Nat.one_pos

/-- A round that is followed by another one began in the template, and the next one begins behind it. -/
theorem rest_lt_of_round {r r' : Reading} (h : (round source count r).result = some (some (.ok r'))) :
    r.rest < byteLength source.toList ∧ r.rest < r'.rest := by
  obtain ⟨left, hleft, h⟩ := Slicing.result_bind_eq_some h
  obtain ⟨before, after, hsource, hstart, hstop⟩ := Slice.chars?_eq_some_iff.1 hleft
  split at h
  · cases h
  · next found hfound =>
    obtain ⟨text, _, h⟩ := Slicing.result_bind_eq_some h
    obtain ⟨next, hnext, h⟩ := Slicing.result_bind_eq_some h
    cases next with
    | error e => cases h
    | ok next =>
      obtain ⟨p, width⟩ := next
      cases h
      have hlt := offsetOf?_lt hfound
      have hpos := pieceAt_pos hnext
      rw [Reading.rest_push]
      simp only at hstart hstop
      constructor <;> omega

/-- Read from some point on to the end. -/
def run (source : String) (count : Nat) (r : Reading) : Slicing (Except UnknownGroup Template) :=
  match h : round source count r with
  | ⟨slices, none⟩ => ⟨slices, none⟩
  | ⟨slices, some none⟩ => ⟨slices ++ (finish source r).slices, (finish source r).result⟩
  | ⟨slices, some (some (.error e))⟩ => ⟨slices, some (.error e)⟩
  | ⟨slices, some (some (.ok r'))⟩ =>
    have := rest_lt_of_round (congrArg Slicing.result h)
    ⟨slices ++ (run source count r').slices, (run source count r').result⟩
termination_by byteLength source.toList - r.rest
decreasing_by all_goals omega

theorem run_eq (source : String) (count : Nat) (r : Reading) : run source count r =
    round source count r >>= fun
      | none => finish source r
      | some (.error e) => pure (.error e)
      | some (.ok r') => run source count r' := by
  rw [run, Slicing.bind_eq]
  split <;> next h => simp [h]

/-- Read a template for a pattern with `count` groups. -/
def read (source : String) (count : Nat) : Slicing (Except UnknownGroup Template) := run source count ⟨0, [], []⟩

end Retarget.Template

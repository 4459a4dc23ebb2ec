/-!
# Replacement templates

A template is text with references to the groups of a match:

* `$$` stands for a dollar sign,
* `$&` stands for the whole match, which is group 0,
* `$` with a number in braces stands for the group with that number,
* `$` with a digit from 1 to 9 stands for that group; a second digit is taken in if there is such a group.

Any other dollar sign stands for itself. `Template.parse` reads a template for a pattern with a given number of
groups, and `Template.expand` puts in the texts of the groups.
-/

namespace Retarget

/-- A part of a template. -/
inductive Segment
  | literal (text : String)
  | group (index : Nat)
deriving Repr, BEq, DecidableEq

/-- A reference to a group that the pattern does not have. -/
structure UnknownGroup where
  group : Nat
  available : Nat
deriving Repr, BEq, DecidableEq

/-- A template that has been read. -/
structure Template where
  /-- The template as written. -/
  source : String
  segments : List Segment
deriving Repr, BEq, DecidableEq

namespace Template

/-- The smallest of the steps that a template is read in: one character or one reference. -/
inductive Piece
  | char (c : Char)
  | group (index : Nat)
deriving Repr, BEq, DecidableEq

/-- Read a number in braces after the opening brace: decimal digits and the closing brace. The number must be below
2 ^ 64. `n` is the number read so far, if a digit was read. -/
def readBraced : Option Nat → List Char → Option (Nat × List Char)
  | _, [] => none
  | n, c :: rest =>
    if c == '\x7d' then n.bind fun n => if n < Nat.pow 2 64 then some (n, rest) else none
    else if c.isDigit then readBraced (some (10 * n.getD 0 + (c.toNat - 48))) rest
    else none

theorem length_readBraced {n : Option Nat} {cs rest : List Char} {g : Nat} (h : readBraced n cs = some (g, rest)) :
    rest.length < cs.length := by
  induction cs generalizing n with
  | nil => simp [readBraced] at h
  | cons c cs ih =>
    simp only [readBraced] at h
    split at h
    · obtain ⟨m, _, hm⟩ := Option.bind_eq_some_iff.1 h
      split at hm <;> simp_all
    · split at h
      · have := ih h; simp; omega
      · simp at h

/-- A two-digit reference, if a digit follows and there is such a group: the group and what follows it. -/
def readSecond (count first : Nat) : List Char → Option (Nat × List Char)
  | [] => none
  | d :: rest =>
    if d.isDigit && 10 * first + (d.toNat - 48) ≤ count then some (10 * first + (d.toNat - 48), rest) else none

theorem length_readSecond {count first : Nat} {cs rest : List Char} {g : Nat}
    (h : readSecond count first cs = some (g, rest)) : rest.length < cs.length := by
  cases cs with
  | nil => simp [readSecond] at h
  | cons d cs =>
    simp only [readSecond] at h
    split at h <;> simp_all

/-- A reference, if the pattern has the group. -/
def checked (count group : Nat) : Except UnknownGroup Piece :=
  if count < group then .error ⟨group, count⟩ else .ok (.group group)

/-- Read a template into characters and references. -/
def pieces (count : Nat) : List Char → Except UnknownGroup (List Piece)
  | [] => .ok []
  | '$' :: '$' :: rest => do return .char '$' :: (← pieces count rest)
  | '$' :: '&' :: rest => do return .group 0 :: (← pieces count rest)
  | '$' :: c :: rest =>
    if c == '\x7b' then
      match h : readBraced none rest with
      | some (g, after) => do
        have := length_readBraced h
        return (← checked count g) :: (← pieces count after)
      | none => do return .char '$' :: (← pieces count (c :: rest))
    else if '1' ≤ c ∧ c ≤ '9' then
      match h : readSecond count (c.toNat - 48) rest with
      | some (g, after) => do
        have := length_readSecond h
        return .group g :: (← pieces count after)
      | none => do return (← checked count (c.toNat - 48)) :: (← pieces count rest)
    else do return .char '$' :: (← pieces count (c :: rest))
  | c :: rest => do return .char c :: (← pieces count rest)
termination_by cs => cs.length
decreasing_by all_goals simp_all <;> omega

/-- The literal segment of some characters, if there are any. -/
def literalSegment (cs : List Char) : List Segment := if cs.isEmpty then [] else [.literal (String.ofList cs)]

/-- Join neighbouring characters into literals, `run` being the characters just before, in reverse. -/
def join : List Char → List Piece → List Segment
  | run, [] => literalSegment run.reverse
  | run, .char c :: rest => join (c :: run) rest
  | run, .group g :: rest => literalSegment run.reverse ++ .group g :: join [] rest

/-- Read a template for a pattern with `count` groups. -/
def parse (source : String) (count : Nat) : Except UnknownGroup Template := do
  return ⟨source, join [] (← pieces count source.toList)⟩

/-- The text of a template, `groups` giving the text of each group. A group that took no part has none. -/
def expand (t : Template) (groups : Nat → Option String) : String :=
  String.join (t.segments.map fun
    | .literal text => text
    | .group index => (groups index).getD "")

end Template

end Retarget

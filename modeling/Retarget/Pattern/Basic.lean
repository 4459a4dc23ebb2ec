import Retarget.Pattern.Cost
import Retarget.Pattern.Search

/-!
# Patterns

A pattern is compiled once and then finds matches in any number of texts.

* `Pattern.compile?`: read a pattern; nothing if its text is no pattern or it is too large,
* `Pattern.allMatches`: all matches in a text, from left to right.

Matches do not overlap. An empty match directly at the end of the match before it is passed over, and after an
empty match the search moves on by one character.
-/

namespace Retarget

open Pattern

/-- A pattern that is ready to search. -/
structure Pattern where
  /-- The pattern as written. -/
  source : String
  node : Node
  program : Array Inst
  program_eq : program = node.program

namespace Pattern

/-- The number of groups that capture. -/
def groups (p : Pattern) : Nat := p.node.groups

/-- Read a pattern. -/
def compile? (source : String) : Option Pattern := do
  let node ← (← Expr.read? source) |> Node.ofExpr?
  if node.cost ≤ costLimit then some ⟨source, node, node.program, rfl⟩ else none

/-- The first match at or after a position. -/
def find? (p : Pattern) (text : Array Char) (start : Nat) : Option Span := search p.program p.groups text start

/-- The first match from `start` on that is not an empty match at `start`, where `start` is the end of a match. -/
def findNext? (p : Pattern) (text : Array Char) (start : Nat) (afterMatch : Bool) : Option Span :=
  match p.find? text start with
  | none => none
  | some m => if afterMatch && m.stop == start then p.find? text (start + 1) else some m

/-- The matches from a position on, at most `fuel` of them. -/
def matchesFrom (p : Pattern) (text : Array Char) : Nat → Nat → Bool → List Span
  | 0, _, _ => []
  | fuel + 1, start, afterMatch =>
    match p.findNext? text start afterMatch with
    | none => []
    | some m =>
      m :: if m.start == m.stop then matchesFrom p text fuel (m.stop + 1) false
        else matchesFrom p text fuel m.stop true

/-- All matches in a text, from left to right. -/
def allMatches (p : Pattern) (text : Array Char) : List Span := p.matchesFrom text (text.size + 1) 0 false

end Pattern

end Retarget

import Retarget.Rule.Basic

/-!
# Conversion of a text

Rules are applied one after another, each to the result of the one before. `convert` gives the last result and the
rules that matched, with their counts.
-/

namespace Retarget

/-- A rule that matched, and how often. -/
structure Hit where
  rule : String
  count : Nat
deriving Repr, BEq, DecidableEq

/-- A converted text and the rules that matched, in the order of application. -/
structure Conversion where
  text : String
  hits : List Hit
deriving Repr, BEq, DecidableEq

namespace Conversion

/-- The number of replacements made by all rules. -/
def replacements (c : Conversion) : Nat := c.hits.foldr (fun h n => h.count + n) 0

/-- Did any rule match? -/
def isChanged (c : Conversion) : Bool := !c.hits.isEmpty

/-- Apply one more rule. -/
def step (c : Conversion) (r : Rule) : Except EditError Conversion := do
  let applied ← r.apply c.text
  return if applied.replacements == 0 then c else ⟨applied.text, c.hits ++ [⟨r.name, applied.replacements⟩]⟩

end Conversion

/-- Apply rules to a text, one after another. -/
def convert (rules : List Rule) (text : String) : Except EditError Conversion :=
  rules.foldlM Conversion.step ⟨text, []⟩

end Retarget

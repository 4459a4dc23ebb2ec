import Retarget.Rule.Catalogue
import Retarget.Rule.Conversion

/-!
# The active rules

A registry holds the active rules in the order of application. Rules are only ever added at the end; `without`
gives a registry that lacks some. Rules made from a bare pattern are numbered through, and a refused one uses up no
number.
-/

namespace Retarget

/-- The active rules, and how many of them were made from a bare pattern. -/
structure Registry where
  rules : List Rule
  customCount : Nat := 0

namespace Registry

def empty : Registry := ⟨[], 0⟩

/-- The built-in rules. -/
def builtin : Registry := ⟨Rule.builtin, 0⟩

def ofRules (rules : List Rule) : Registry := ⟨rules, 0⟩

/-- Add a rule after all others. -/
def add (reg : Registry) (r : Rule) : Registry := { reg with rules := reg.rules ++ [r] }

/-- The rule made from a bare pattern under a number. -/
def customText (number : Nat) (pattern template : String) : RuleText where
  name := s!"custom_{number}"
  description := s!"Custom rule {pattern}"
  pattern := pattern
  template := template

/-- Add a rule made from a bare pattern. -/
def addPattern (reg : Registry) (pattern template : String) : Except RuleError Registry := do
  let number := reg.customCount + 1
  let r ← (customText number pattern template).compile
  return ⟨reg.rules ++ [r], number⟩

/-- The registry without the rules of the given names. -/
def without (reg : Registry) (names : List String) : Registry :=
  { reg with rules := reg.rules.filter fun r => !names.contains r.name }

def names (reg : Registry) : List String := reg.rules.map Rule.name

/-- The names of the rules on one line, for diagnosis. -/
def describe (reg : Registry) : String :=
  "RuleRegistry \x7b rules: [" ++ String.intercalate ", " (reg.names.map Text.quote) ++ "] \x7d"

end Registry

end Retarget

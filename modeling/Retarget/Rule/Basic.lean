import Retarget.Edit
import Retarget.Template
import Retarget.Pattern.Basic
import Retarget.Text.Quoted

/-!
# Rules

A rule replaces every match of a pattern by its template, filled in with the groups of the match.

* `RuleText.compile`: check a rule as written and make it ready,
* `Rule.edits`: the edits that the matches in a text ask for,
* `Rule.apply`: the text after these edits.
-/

namespace Retarget

/-- Why a rule is refused. -/
inductive RuleError
  | missingPattern
  | missingTemplate
  | badPattern (pattern : String)
  | unknownGroup (e : UnknownGroup)
deriving Repr, BEq, DecidableEq

/-- The wording of a refusal. What is wrong with a pattern is described by `detail`. -/
def RuleError.message (detail : String) : RuleError → String
  | missingPattern => "Invalid rule format: a pattern is required"
  | missingTemplate => "Invalid rule format: a replacement template is required"
  | badPattern pattern => "Invalid pattern `" ++ pattern ++ "`: " ++ detail
  | unknownGroup e =>
    s!"Template references group {e.group} but the pattern only has {e.available} group(s)"

/-- A rule as written. -/
structure RuleText where
  name : String
  description : String
  pattern : String
  template : String
deriving Repr, BEq, DecidableEq

/-- A rule that is ready for use. -/
structure Rule where
  name : String
  description : String
  pattern : Pattern
  template : Template

/-- Check a rule and make it ready: pattern and template must be there, the pattern must be one, and the template
must refer to groups of the pattern only. -/
def RuleText.compile (r : RuleText) : Except RuleError Rule :=
  if r.pattern.isEmpty then .error .missingPattern
  else if r.template.isEmpty then .error .missingTemplate
  else
    match Pattern.compile? r.pattern with
    | none => .error (.badPattern r.pattern)
    | some pattern =>
      match Template.parse r.template pattern.groups with
      | .error e => .error (.unknownGroup e)
      | .ok template => .ok ⟨r.name, r.description, pattern, template⟩

namespace Rule

/-- The characters of a text between two positions. -/
def slice (text : Array Char) (start stop : Nat) : String := String.ofList (text.extract start stop).toList

/-- The text of a group of a match; group 0 is the match itself. -/
def groupText (text : Array Char) (m : Pattern.Span) : Nat → Option String
  | 0 => some (slice text m.start m.stop)
  | index + 1 => (m.groups[index]?.join).map fun (start, stop) => slice text start stop

/-- The edit that a match asks for. -/
def editOf (r : Rule) (text : Array Char) (m : Pattern.Span) : Edit where
  start := Text.byteLength (text.toList.take m.start)
  stop := Text.byteLength (text.toList.take m.stop)
  text := r.template.expand (groupText text m)
  rule := r.name

/-- The edits that a rule asks for, from left to right. -/
def edits (r : Rule) (text : String) : List Edit :=
  let chars := text.toList.toArray
  (r.pattern.allMatches chars).map (r.editOf chars)

/-- What a rule made of a text. -/
structure Applied where
  text : String
  replacements : Nat
deriving Repr, BEq, DecidableEq

/-- Replace every match of a rule. A text without matches is left as it is. -/
def apply (r : Rule) (text : String) : Except EditError Applied :=
  match r.edits text with
  | [] => .ok ⟨text, 0⟩
  | edits => do return ⟨← Edit.applyAll text edits, edits.length⟩

/-- A rule on one line, for diagnosis. -/
def describe (r : Rule) : String :=
  "RuleDefinition \x7b name: " ++ Text.quote r.name ++ ", pattern: " ++ Text.quote r.pattern.source ++
    ", template: " ++ Text.quote r.template.source ++ " \x7d"

end Rule

end Retarget

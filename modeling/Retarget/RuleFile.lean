import Retarget.Rule.Basic
import Retarget.Yaml.Node

/-!
# Rule files

A rule file is a YAML document with one rule or a list of rules. A rule may carry tests of its own: an input and the
text that the rule must make of it, or no text if the rule must leave the input alone.

* `RuleFile.parse`: the rules of a file, each checked and ready,
* `LoadedRule.runTests`: the outcome of each test that is not skipped.
-/

namespace Retarget

/-- A test of a rule. -/
structure TestCase where
  input : String
  output : Option String
  skip : Bool
deriving Repr, BEq, DecidableEq

/-- A rule as it stands in a file. -/
structure RuleEntry where
  name : String
  description : String
  pattern : String
  replace : String
  tests : List TestCase
deriving Repr, BEq, DecidableEq

/-- Why the rules of a file cannot be used. -/
inductive LoadError
  /-- The file cannot be read; `reason` says why. -/
  | unreadable (reason : String)
  /-- The text is no YAML, or not what a rule file holds. -/
  | malformed
  | unnamed
  | invalid (rule : String) (e : RuleError)
deriving Repr, BEq, DecidableEq

namespace LoadError

/-- What is said of a pattern that cannot be used. -/
def patternDetail : String := "regex parse error: the pattern cannot be read"

def message : LoadError → String
  | unreadable reason => "Failed to read file: " ++ reason
  | malformed => "Failed to parse YAML: neither a rule nor a list of rules"
  | unnamed => "Invalid rule: Rule name is required"
  | invalid rule e => "Invalid rule `" ++ rule ++ "`: " ++ e.message patternDetail

/-- The message, and the messages of what is behind it. -/
def chain : LoadError → List String
  | unreadable reason => [(unreadable reason).message, reason]
  | invalid rule e => [(invalid rule e).message, e.message patternDetail]
  | e => [e.message]

end LoadError

/-- A rule of a file, ready for use. -/
structure LoadedRule where
  entry : RuleEntry
  rule : Rule

/-! ## From documents to rules -/

namespace Yaml.Node

/-- Any scalar as text, however it is written. -/
def text? : Node → Option String
  | .scalar _ _ text => some text
  | _ => none

/-- A truth value, which must not be quoted. -/
def bool? : Node → Option Bool
  | .scalar tag style text =>
    if style == .plain || (style == .literal && tag == some "tag:yaml.org,2002:bool") then
      if ["true", "True", "TRUE"].contains text then some true
      else if ["false", "False", "FALSE"].contains text then some false
      else none
    else none
  | _ => none

/-- The words for no value. -/
def isNull (text : String) : Bool := ["null", "Null", "NULL", "~"].contains text

/-- A text that may be missing: an empty plain scalar or a word for no value. -/
def optionalText? : Node → Option (Option String)
  | .scalar none .plain text => if text.isEmpty || isNull text then some none else some (some text)
  | .scalar (some tag) .plain text =>
    if tag == "tag:yaml.org,2002:null" then if isNull text then some none else none else some (some text)
  | .scalar _ _ text => some (some text)
  | _ => none

/-- Is there nothing written? -/
def isVoid : Node → Bool
  | .scalar _ .plain text => text.isEmpty
  | _ => false

/-- The items of a sequence. Nothing written is an empty sequence. -/
def items? : Node → Option (List Node)
  | .sequence _ items => some items
  | n => if n.isVoid then some [] else none

/-- The pairs of a mapping, whose keys must be texts. Nothing written is an empty mapping. -/
def fields? : Node → Option (List (String × Node))
  | .mapping _ pairs => pairs.mapM fun (k, v) => k.text?.map (·, v)
  | n => if n.isVoid then some [] else none

end Yaml.Node

namespace RuleFile

open Yaml (Node)

/-- The value under one of some names, which may stand there once at most. -/
def field? (names : List String) (fields : List (String × Node)) : Option (Option Node) :=
  match fields.filter fun f => names.contains f.1 with
  | [] => some none
  | [f] => some (some f.2)
  | _ => none

/-- The value under a name that must be there. -/
def required? (names : List String) (fields : List (String × Node)) : Option Node := (field? names fields).join

/-- The value under a name, decoded, or a default. -/
def optional? {α : Type} (names : List String) (default : α) (decode : Node → Option α)
    (fields : List (String × Node)) : Option α :=
  (field? names fields).bind fun
    | none => some default
    | some n => decode n

def testCase? (n : Node) : Option TestCase := do
  let fields ← n.fields?
  let input ← (← required? ["input"] fields).text?
  let output ← optional? ["output"] none Node.optionalText? fields
  let skip ← optional? ["skip"] false Node.bool? fields
  some ⟨input, output, skip⟩

def ruleEntry? (n : Node) : Option RuleEntry := do
  let fields ← n.fields?
  let name ← (← required? ["name"] fields).text?
  let description ← optional? ["description"] "" Node.text? fields
  let pattern ← (← required? ["pattern"] fields).text?
  let replace ← (← required? ["replace", "replacement"] fields).text?
  let tests ← optional? ["tests"] [] (fun n => n.items?.bind fun ts => ts.mapM testCase?) fields
  some ⟨name, description, pattern, replace, tests⟩

/-- The rules of a document: one rule, or a list of rules. No document at all is an empty list. -/
def entries? (doc : Option Node) : Option (List RuleEntry) :=
  match doc with
  | none => some []
  | some n =>
    match ruleEntry? n with
    | some e => some [e]
    | none => n.items?.bind fun items => items.mapM ruleEntry?

/-- Check a rule and make it ready. -/
def load (e : RuleEntry) : Except LoadError LoadedRule :=
  if e.name.toList.all Unicode.isBlank then .error .unnamed
  else
    match RuleText.compile ⟨e.name, e.description, e.pattern, e.replace⟩ with
    | .error err => .error (.invalid e.name err)
    | .ok rule => .ok ⟨e, rule⟩

/-- The rules of a file with the given text. -/
def parse (text : String) : Except LoadError (List LoadedRule) :=
  match (Node.read? text).bind entries? with
  | none => .error .malformed
  | some entries => entries.mapM load

end RuleFile

/-! ## Tests -/

/-- The outcome of a test. -/
structure TestResult where
  input : String
  expected : Option String
  actual : String
  passed : Bool
  error : Option String
deriving Repr, BEq, DecidableEq

namespace LoadedRule

/-- What is wrong with the text that a rule made of the input of a test, if anything. -/
def complaint (t : TestCase) (actual : String) : Option String :=
  match t.output with
  | some expected => if actual == expected then none else some "Output mismatch"
  | none => if actual == t.input then none else some "Expected no change but rule matched"

def runTest (r : LoadedRule) (t : TestCase) : TestResult :=
  match r.rule.apply t.input with
  | .error e => ⟨t.input, t.output, t.input, false, some e.message⟩
  | .ok applied =>
    let problem := complaint t applied.text
    ⟨t.input, t.output, applied.text, problem.isNone, problem⟩

/-- Run the tests that are not skipped. -/
def runTests (r : LoadedRule) : List TestResult := (r.entry.tests.filter fun t => !t.skip).map r.runTest

end LoadedRule

end Retarget

import Retarget.Path
import Retarget.Toml.Document

/-!
# Settings

What a settings file says: rules to leave out, further rule files, files to exclude, the output format, and how a tree
is converted. All of it may be missing, and what is unknown does not count.
-/

namespace Retarget

/-- The name of a settings file. -/
def Settings.fileName : String := ".appiumize.toml"

/-- The settings of a project. -/
structure Settings where
  /-- Built-in rules to leave out. -/
  disabled : List String := []
  /-- Further rule files, and directories of such. -/
  files : List Path := []
  exclude : List String := []
  format : Option String := none
  parallel : Bool := false
  backup : Bool := false
deriving Repr, BEq, DecidableEq

namespace Toml.Value

def string? : Value → Option String
  | .string s => some s
  | _ => none

def bool? : Value → Option Bool
  | .bool b => some b
  | _ => none

def strings? : Value → Option (List String)
  | .array items => items.mapM string?
  | _ => none

/-- The fields of a record: those of a table by their names, those of a list by their places. A date is a record
without any field of interest. -/
def fields? : Value → Option (Nat → String → Option Value)
  | .table _ entries => some fun _ name => entries.lookup name
  | .array items => some fun index _ => items[index]?
  | .tables rows => some fun index _ => rows[index]?.map (.table .declared ·)
  | .moment => some fun _ _ => none
  | _ => none

end Toml.Value

namespace Settings

open Toml (Entries Value)

/-- The fields of a section. A section that is missing has none. -/
def section? (entries : Entries) (name : String) : Option (Nat → String → Option Value) :=
  match entries.lookup name with
  | none => some fun _ _ => none
  | some v => v.fields?

/-- A field, decoded, or a default if it is missing. -/
def field? {α : Type} (default : α) (decode : Value → Option α) : Option Value → Option α
  | none => some default
  | some v => decode v

/-- The settings of a table. -/
def ofEntries? (entries : Entries) : Option Settings := do
  let rules ← section? entries "rules"
  let paths ← section? entries "paths"
  let output ← section? entries "output"
  let convert ← section? entries "convert"
  some {
    disabled := ← field? [] Value.strings? (rules 0 "disabled")
    files := (← field? [] Value.strings? (rules 1 "files")).map Path.ofString
    exclude := ← field? [] Value.strings? (paths 0 "exclude")
    format := ← field? none (fun v => v.string?.map some) (output 0 "format")
    parallel := ← field? false Value.bool? (convert 0 "parallel")
    backup := ← field? false Value.bool? (convert 1 "backup") }

/-- The settings that a text holds. -/
def parse? (text : String) : Option Settings := (Toml.parse? text).bind ofEntries?

/-- The rule files, of which relative ones belong to the directory of the settings. -/
def ruleFiles (s : Settings) (base : Option Path) : List Path :=
  s.files.map fun file => match base with
    | some base => base.join file
    | none => file

end Settings

end Retarget

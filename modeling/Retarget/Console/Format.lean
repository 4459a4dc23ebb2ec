/-!
# Output formats

What the command line prints is meant for people or for programs.
-/

namespace Retarget

/-- How results are printed. -/
inductive OutputFormat
  | text
  | json
deriving Repr, BEq, DecidableEq

namespace OutputFormat

/-- The format of a name, whatever the case of its letters. -/
def ofName? (name : String) : Option OutputFormat :=
  match name.toLower with
  | "text" => some text
  | "json" => some json
  | _ => none

end OutputFormat

end Retarget

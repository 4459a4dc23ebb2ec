import Retarget.Console.Format
import Retarget.Console.JsonValue
import Retarget.Console.Style
import Retarget.Diff.Unified
import Retarget.Journal
import Retarget.Report.Summary

/-!
# Printed reports

How the outcomes of a conversion are shown: to people line by line with a summary, to programs as one JSON value.
-/

namespace Retarget

/-- The version of the program. -/
def programVersion : String := "0.1.0"

/-- How to print. -/
structure Reporter where
  format : OutputFormat
  verbose : Bool
  colour : Bool

namespace CopyReason

/-- The reason of a copy, to people. -/
def label : CopyReason → String
  | opaqueData => "not a code file"
  | excluded => "excluded"
  | fallback _ => "fallback"

/-- The reason of a copy, to programs. -/
def members : CopyReason → List (String × JsonValue)
  | opaqueData => [("reason", .string "opaque")]
  | excluded => [("reason", .string "excluded")]
  | fallback detail => [("reason", .string "fallback"), ("detail", .string detail)]

end CopyReason

namespace FileOutcome

/-- An outcome, to programs. -/
def members : FileOutcome → List (String × JsonValue)
  | converted n hits =>
    [("status", .string "converted"), ("replacements", .number n),
      ("hits", .array (hits.map fun h => .object [("rule", .string h.rule), ("count", .number h.count)]))]
  | copied reason => ("status", .string "copied") :: reason.members
  | failed error => [("status", .string "failed"), ("error", .string error)]

end FileOutcome

namespace Summary

/-- A summary, to programs. -/
def toJson (s : Summary) : JsonValue :=
  .object [("files_processed", .number s.filesProcessed), ("files_converted", .number s.filesConverted),
    ("files_copied", .number s.filesCopied), ("fallbacks", .number s.fallbacks),
    ("total_replacements", .number s.totalReplacements), ("errors", .number s.errors)]

end Summary

namespace Reporter

def paint (r : Reporter) (style : Style) (text : String) : String := style.paint r.colour text

def isText (r : Reporter) : Bool := r.format == .text

/-- Print a line to people only. -/
def print (r : Reporter) (line : String) : Job Unit := if r.isText then Job.print line else return

/-- Print a message to people only. -/
def printErr (r : Reporter) (line : String) : Job Unit := if r.isText then Job.printErr line else return

/-- Show what became of a file. -/
def showFile (r : Reporter) (f : FileRecord) : Job Unit :=
  let path := f.path.display
  match f.outcome with
  | .converted n _ =>
    if r.verbose || n > 0 then r.print ("  " ++ r.paint .green "Converted" ++ s!" {path} ({n} replacement(s))") else return
  | .copied (.fallback error) => r.printErr (r.paint .yellow "Warning" ++ s!": {path} - {error} (copied unchanged)")
  | .copied reason =>
    if r.verbose then r.print ("  " ++ r.paint .dimmed "Copied" ++ s!" {path} ({reason.label})") else return
  | .failed error => r.printErr (r.paint .red "Error" ++ s!": {path} - {error}")

/-- Show a directory that failed. -/
def showFolderFailure (r : Reporter) (f : FolderFailure) : Job Unit :=
  r.printErr (r.paint .red "Error" ++ s!": {f.path.display} - {f.error}")

/-- The lines of a summary, to people. -/
def summaryLines (r : Reporter) (s : Summary) (output : Path) : List String :=
  ["", r.paint .heading "Summary", s!"  Files processed: {s.filesProcessed}", s!"  Files converted: {s.filesConverted}",
    s!"  Files copied: {s.filesCopied}", s!"  Total replacements: {s.totalReplacements}"] ++
  (if s.fallbacks > 0 then [s!"  Fallback copies: {s.fallbacks}"] else []) ++
  (if s.errors > 0 then [s!"  Errors: {s.errors}"] else []) ++
  ["", r.paint .bold "Output" ++ s!": {output.display}"]

/-- A report, to programs. There is none if the path of a directory that failed is no text. -/
def document? (report : Report) (s : Summary) (output : Path) : Option JsonValue := do
  let failures ← report.folderFailures.mapM fun f =>
    f.path.toString?.map fun p => JsonValue.object [("path", .string p), ("error", .string f.error)]
  let files := report.files.map fun f => JsonValue.object (("path", .string f.path.display) :: f.outcome.members)
  some (.object ([("version", .string programVersion), ("output", .string output.display), ("summary", s.toJson),
    ("files", .array files)] ++ if failures.isEmpty then [] else [("folder_failures", .array failures)]))

/-- Show a whole report. Has anything failed? -/
def showReport (r : Reporter) (report : Report) (output : Path) : Job Bool := do
  report.files.forM r.showFile
  report.folderFailures.forM r.showFolderFailure
  let s := Summary.ofReport report
  if r.isText then (r.summaryLines s output).forM Job.print
  else
    match document? report s output with
    | some v => Job.print v.pretty
    | none => Job.printErr (r.paint .red "Error" ++ ": path contains invalid UTF-8 characters")
  return s.errors > 0

/-- The style of a line of a diff. -/
def diffStyle? (line : List Char) : Option Style :=
  match line with
  | '+' :: '+' :: '+' :: _ => some .bold
  | '-' :: '-' :: '-' :: _ => some .bold
  | '+' :: _ => some .green
  | '-' :: _ => some .red
  | '@' :: '@' :: _ => some .cyan
  | _ => none

/-- Show the changes of a text. -/
def showDiff (r : Reporter) (path : Path) (old new : String) : Job Unit :=
  (Text.bareLines (unifiedDiff path old new)).forM fun line =>
    Job.print (match diffStyle? line.toList with
      | some style => r.paint style line
      | none => line)

end Reporter

end Retarget

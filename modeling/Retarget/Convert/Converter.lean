import Retarget.Convert.Tree
import Retarget.Rule.Registry

/-!
# Converters

A converter has rules and options, and converts texts, files and trees with them. A tree goes to a directory beside
it, which is emptied before.
-/

namespace Retarget

/-- Rules, and how trees are converted with them. -/
structure Converter where
  registry : Registry := .builtin
  options : TreeOptions := {}

/-- The output of a tree, beside it. A path without a name of its own stands for the directory that it leads to. -/
def treeOutput (d : Disk) (input : Path) : Except ConvertError Path :=
  if input.fileName?.isSome then outputBeside input
  else do
    let resolved ← (d.canonicalize input).mapError (ConvertError.ofInput input)
    outputBeside resolved

/-- Remove a member of a directory, with all that is in it. -/
def Disk.removeMember (directory : Path) (d : Disk) (n : Name) : Except Cause Unit × Disk :=
  let p := directory.join ⟨n⟩
  match d.linkMetadata p with
  | .error c => (.error c, d)
  | .ok m =>
    if m.isDirectory then d.removeTree p
    else
      match d.remove p with
      | .ok d => (.ok (), d)
      | .error c => (.error c, d)

/-- Remove all that is in a directory. Anything else is removed itself. -/
def Disk.clear (d : Disk) (p : Path) : Except Cause Unit × Disk :=
  match d.linkMetadata p with
  | .error c => (.error c, d)
  | .ok m =>
    if m.isDirectory then
      match d.list p with
      | .error c => (.error c, d)
      | .ok names => Disk.removeNames (Disk.removeMember p) d names
    else
      match d.remove p with
      | .ok d => (.ok (), d)
      | .error c => (.error c, d)

namespace Converter

/-- Add a rule made from a bare pattern. It is applied after all others. -/
def addRule (c : Converter) (pattern template : String) : Except RuleError Converter := do
  return { c with registry := ← c.registry.addPattern pattern template }

/-- Convert a text. -/
def convertText (c : Converter) (text : String) : Except EditError String := do
  return (← convert c.registry.rules text).text

/-- Convert a file, whatever its name. -/
def convertFile (c : Converter) (input output : Path) : ExceptT ConvertError Job FileOutcome :=
  Retarget.convertFile c.registry.rules input output

/-- Convert a file. Is the output there, converted or copied? -/
def convertFileOk (c : Converter) (input output : Path) : Job Bool := do
  match ← (c.convertFile input output).run with
  | .ok outcome => return !outcome.isFailed
  | .error e =>
    Job.notice .warn "file conversion failed" [("input", input.display), ("error", e.message)]
    return false

/-- Convert a tree to an output, over what is there. -/
def convertTreeInto (c : Converter) (input output : Path) : ExceptT ConvertError Job Report := do
  let report ← convertTree c.registry.rules c.options input output
  Job.notice .info "conversion completed"
    [("files", toString report.fileCount), ("converted", toString report.convertedCount),
      ("copied", toString report.copiedCount), ("folders", toString report.folders)]
  return report

/-- Empty the output of a tree, if it is there. -/
def clearOutput (output : Path) : ExceptT ConvertError Job Unit := do
  if ← Job.look fun d => (d.linkMetadata output).isOk then
    Job.notice .info "cleaning existing output folder" [("output", output.display)]
    Job.orFail (Job.act fun d => d.clear output) (ConvertError.ofCause output)

/-- Convert a tree to the directory beside it, which is emptied before. -/
def convertTree (c : Converter) (input : Path) : ExceptT ConvertError Job (Path × Report) := do
  let output ← Job.orFail (Job.ask fun d => treeOutput d input) id
  Job.orFail (Job.ask fun d => checkRoots d input output) id
  clearOutput output
  let report ← c.convertTreeInto input output
  return (output, report)

end Converter

end Retarget

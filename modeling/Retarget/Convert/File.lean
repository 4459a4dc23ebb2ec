import Retarget.Convert.Error
import Retarget.Journal
import Retarget.Report.Basic

/-!
# Conversion of single files

A file is read, converted as a text and written in one step. If its bytes are no text, or the converted text cannot be
written, the file is copied.

* `convertFile`: a file on its own,
* `transformFile`, `copyFile`: a file of a tree, for which every failure has an outcome.
-/

namespace Retarget

/-- The conversion of some bytes, or why there is none. -/
def convertBytes (rules : List Rule) (bytes : Bytes) : Except String Conversion :=
  match Text.decode bytes with
  | .error f => .error ("not valid UTF-8: " ++ f.message)
  | .ok text =>
    match convert rules text with
    | .error e => .error e.message
    | .ok c => .ok c

/-- The outcome of a conversion. -/
def Conversion.outcome (c : Conversion) : FileOutcome := .converted c.replacements c.hits

/-- The reason of a copy on one line, for diagnosis. -/
def CopyReason.describe : CopyReason → String
  | opaqueData => "Opaque"
  | excluded => "Excluded"
  | fallback detail => "Fallback(" ++ Text.quote detail ++ ")"

namespace Job

/-- Write a file in one step. -/
def write (dest : Path) (bytes : Bytes) (m : Option Mode) : Job (Except Refusal Unit) :=
  act fun d => d.replaceFile dest bytes m

def noteConverted (input : Path) (c : Conversion) : Job Unit :=
  notice .debug "converted" [("input", input.display), ("replacements", toString c.replacements)]

def noteFallback (input : Path) (reason : String) : Job Unit :=
  notice .warn "conversion failed, copying original" [("input", input.display), ("reason", reason)]

end Job

/-- Convert a file to an output, whatever its name. Bytes that are no text are copied. -/
def convertFile (rules : List Rule) (input output : Path) : ExceptT ConvertError Job FileOutcome := do
  let found ← Job.orFail (Job.ask fun d => d.metadata input) (ConvertError.ofInput input)
  if !found.isFile then throw (.notAFile input)
  let bytes ← Job.orFail (Job.ask fun d => d.read input) (ConvertError.ofCause input)
  match convertBytes rules bytes with
  | .ok c =>
    Job.orFail (Job.write output (Text.encode c.text) (some found.mode)) (ConvertError.io output)
    Job.noteConverted input c
    return c.outcome
  | .error reason =>
    Job.noteFallback input reason
    Job.orFail (Job.write output bytes (some found.mode)) (ConvertError.io output)
    return .copied (.fallback reason)

/-! ## Files of a tree -/

/-- The permission bits of what a path leads to, if they can be found out. -/
def Disk.modeOf? (d : Disk) (p : Path) : Option Mode :=
  match d.metadata p with
  | .ok m => some m.mode
  | .error _ => none

/-- Copy a file in one step. -/
def Disk.copyWhole (d : Disk) (input output : Path) : Except Refusal Unit × Disk :=
  match d.read input with
  | .error c => (.error ⟨c, none⟩, d)
  | .ok bytes => d.replaceFile output bytes (d.modeOf? input)

/-- Copy a file of a tree for a reason. -/
def copyFile (input output : Path) (reason : CopyReason) : Job FileOutcome := do
  match ← Job.act fun d => d.copyWhole input output with
  | .ok _ =>
    Job.notice .debug "copied" [("input", input.display), ("reason", reason.describe)]
    return .copied reason
  | .error r =>
    Job.notice .warn "copy failed" [("input", input.display), ("error", r.message)]
    return .failed r.message

/-- Copy a file because its conversion failed. -/
def fallBack (input output : Path) (reason : String) : Job FileOutcome := do
  Job.noteFallback input reason
  copyFile input output (.fallback reason)

/-- Convert a file of a tree. If anything fails the file is copied. -/
def transformFile (rules : List Rule) (input output : Path) : Job FileOutcome := do
  match ← Job.ask fun d => d.read input with
  | .error c => fallBack input output ("read failed: " ++ c.message)
  | .ok bytes =>
    match convertBytes rules bytes with
    | .error reason => fallBack input output reason
    | .ok c =>
      let mode ← Job.ask fun d => d.modeOf? input
      match ← Job.write output (Text.encode c.text) mode with
      | .ok _ =>
        Job.noteConverted input c
        return c.outcome
      | .error r => fallBack input output ("write failed: " ++ r.message)

end Retarget

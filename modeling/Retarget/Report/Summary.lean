import Retarget.Report.Basic

/-!
# Summaries

Counters that are kept while the outcomes of files and the failures of directories come in.
-/

namespace Retarget

/-- What has come in so far. -/
structure Summary where
  filesProcessed : Nat := 0
  filesConverted : Nat := 0
  filesCopied : Nat := 0
  fallbacks : Nat := 0
  totalReplacements : Nat := 0
  errors : Nat := 0
deriving Repr, BEq, DecidableEq

namespace Summary

/-- Count a file. -/
def addFile (s : Summary) (outcome : FileOutcome) : Summary :=
  let s := { s with filesProcessed := s.filesProcessed + 1 }
  match outcome with
  | .converted n _ =>
    { s with filesConverted := s.filesConverted + 1, totalReplacements := s.totalReplacements + n }
  | .copied (.fallback _) => { s with filesCopied := s.filesCopied + 1, fallbacks := s.fallbacks + 1 }
  | .copied _ => { s with filesCopied := s.filesCopied + 1 }
  | .failed _ => { s with errors := s.errors + 1 }

/-- Count a directory that failed. -/
def addFolderFailure (s : Summary) : Summary := { s with errors := s.errors + 1 }

/-- The summary of a whole report. -/
def ofReport (r : Report) : Summary :=
  r.folderFailures.foldl (fun s _ => s.addFolderFailure) (r.files.foldl (fun s f => s.addFile f.outcome) {})

end Summary

end Retarget

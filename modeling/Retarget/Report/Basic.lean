import Retarget.Path
import Retarget.Rule.Conversion

/-!
# Reports of conversions

What became of each file of a tree, and which directories could not be dealt with. The counts of a report are read off
its records.
-/

namespace Retarget

/-- Why a file was copied and not converted. -/
inductive CopyReason
  /-- The file is not code. -/
  | opaqueData
  /-- An exclusion matches the file. -/
  | excluded
  /-- The conversion failed, as `detail` says. -/
  | fallback (detail : String)
deriving Repr, BEq, DecidableEq

/-- What became of a file. -/
inductive FileOutcome
  | converted (replacements : Nat) (hits : List Hit)
  | copied (reason : CopyReason)
  /-- Nothing was written. -/
  | failed (error : String)
deriving Repr, BEq, DecidableEq

/-- A file, by its path below the root of the tree, and what became of it. -/
structure FileRecord where
  path : Path
  outcome : FileOutcome
deriving Repr, BEq, DecidableEq

/-- A directory that could not be listed, resolved or created. -/
structure FolderFailure where
  path : Path
  error : String
deriving Repr, BEq, DecidableEq

/-- All that happened to a tree. The root is not among the `folders`. -/
structure Report where
  files : List FileRecord := []
  folders : Nat := 0
  folderFailures : List FolderFailure := []
deriving Repr, BEq, DecidableEq

namespace FileOutcome

def isConverted : FileOutcome → Bool
  | converted .. => true
  | _ => false

def isCopied : FileOutcome → Bool
  | copied _ => true
  | _ => false

def isFallback : FileOutcome → Bool
  | copied (.fallback _) => true
  | _ => false

def isFailed : FileOutcome → Bool
  | failed _ => true
  | _ => false

/-- The number of replacements in a file; none unless it was converted. -/
def replacements : FileOutcome → Nat
  | converted n _ => n
  | _ => 0

end FileOutcome

namespace Report

def count (r : Report) (p : FileOutcome → Bool) : Nat := r.files.countP fun f => p f.outcome

def fileCount (r : Report) : Nat := r.files.length

def convertedCount (r : Report) : Nat := r.count FileOutcome.isConverted

def copiedCount (r : Report) : Nat := r.count FileOutcome.isCopied

def fallbackCount (r : Report) : Nat := r.count FileOutcome.isFallback

def failedCount (r : Report) : Nat := r.count FileOutcome.isFailed

def replacements (r : Report) : Nat := r.files.foldr (fun f n => f.outcome.replacements + n) 0

/-- Was a file or a directory lost? -/
def hasFailures (r : Report) : Bool := r.failedCount > 0 || !r.folderFailures.isEmpty

end Report

end Retarget

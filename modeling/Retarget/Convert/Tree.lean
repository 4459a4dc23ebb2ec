import Retarget.Convert.File
import Retarget.Exclusion
import Retarget.FileKind

/-!
# Conversion of trees

Every directory and every file of a tree gets a counterpart at the same relative path of the output. In each directory
the files come first, then the directories, both in the order of their names. Links are followed; a directory that
leads back to one on the way to it is left out. What fails is recorded, and the rest goes on.

* `checkRoots`: may a tree be converted to an output at all?
* `convertTree`: convert a tree.
-/

namespace Retarget

/-- How a tree is converted. -/
structure TreeOptions where
  /-- Work on the files of a directory at the same time. Here they always come in turn, in the order of their names. -/
  parallel : Bool := false
  /-- Files to copy and not to convert. -/
  exclude : ExclusionSet := ⟨[]⟩

instance : Append Report where
  append a b := ⟨a.files ++ b.files, a.folders + b.folders, a.folderFailures ++ b.folderFailures⟩

/-! ## Roots -/

/-- Look for the nearest directory that exists, and put the names that are `missing` after it. -/
def Disk.resolveFrom (d : Disk) : Nat → Path → List Name → Except Cause Path
  | 0, _, _ => .error .notFound
  | fuel + 1, p, missing =>
    match d.canonicalize p with
    | .ok found => .ok (missing.foldl (fun p n => p.join ⟨n⟩) found)
    | .error .notFound =>
      match p.parent?, p.fileName? with
      | some parent, some n => d.resolveFrom fuel parent (n :: missing)
      | _, _ => .error .notFound
    | .error c => .error c

/-- The canonical path that a path will have once it exists. -/
def Disk.resolve (d : Disk) (p : Path) : Except Cause Path :=
  let p := d.currentPath.join p
  d.resolveFrom (p.bytes.length + 1) p []

/-- The input must be a directory, and the output must not lie in it. -/
def checkRoots (d : Disk) (input output : Path) : Except ConvertError Unit := do
  let found ← (d.metadata input).mapError (ConvertError.ofInput input)
  if !found.isDirectory then .error (.notADirectory input)
  let inside ← (d.canonicalize input).mapError (ConvertError.ofCause input)
  let target ← (d.resolve output).mapError (ConvertError.ofCause output)
  if target.startsWith inside then .error (.outputInsideInput input output)

/-! ## The walk -/

/-- Convert or copy a file of a tree. -/
def processFile (rules : List Rule) (options : TreeOptions) (input output relative : Path) : Job FileOutcome :=
  if options.exclude.isMatch relative then copyFile input output .excluded
  else
    match FileKind.ofPath input with
    | .transformable => transformFile rules input output
    | .opaqueData => copyFile input output .opaqueData

/-- A name in a directory, and whether it leads to a directory, as far as that can be found out. -/
structure Member where
  name : Name
  isDirectory : Except Cause Bool

/-- Does a name lead to a directory? -/
def Member.isFolder (m : Member) : Bool :=
  match m.isDirectory with
  | .ok b => b
  | .error _ => false

/-- The members of a directory, in the order of their names. -/
def Disk.members (d : Disk) (p : Path) : Except Cause (List Member) := do
  return (← d.sortedList p).map fun n => ⟨n, (d.metadata (p.join ⟨n⟩)).map Disk.Metadata.isDirectory⟩

/-- Deal with a member of a directory that is no directory. -/
def processMember (rules : List Rule) (options : TreeOptions) (input output relative : Path) (m : Member) :
    Job FileRecord := do
  let path := relative.join ⟨m.name⟩
  match m.isDirectory with
  | .error c => return ⟨path, .failed c.message⟩
  | .ok _ =>
    return ⟨path, ← processFile rules options (input.join ⟨m.name⟩) (output.join ⟨m.name⟩) path⟩

/-- The report of a directory that failed. -/
def Report.ofFailure (path : Path) (error : String) : Report := { folderFailures := [⟨path, error⟩] }

/-- Make the counterpart of a directory of a tree and go down into it with `descend`, unless it leads back to one of
its `ancestors`. -/
def processFolder (descend : Path → Path → Path → List Path → Job Report) (input output relative : Path)
    (ancestors : List Path) : Job Report := do
  match ← Job.ask fun d => d.canonicalize input with
  | .error c =>
    Job.notice .warn "cannot resolve directory" [("dir", input.display), ("error", c.message)]
    return .ofFailure relative c.message
  | .ok canonical =>
    if ancestors.contains canonical then
      Job.notice .warn "directory cycle" [("dir", input.display), ("target", canonical.display)]
      return .ofFailure relative ("directory cycle back to " ++ canonical.display)
    else
      match ← Job.act fun d => d.makeDirectories output with
      | .error c =>
        Job.notice .warn "cannot create output directory" [("dir", output.display), ("error", c.message)]
        return .ofFailure relative c.message
      | .ok _ =>
        let report ← descend input output relative (ancestors ++ [canonical])
        return { folders := 1 : Report } ++ report

/-- Deal with directories one after another. -/
def processFolders (processOne : Name → Job Report) : List Name → Job Report
  | [] => return {}
  | n :: rest => do
    let report ← processOne n
    return report ++ (← processFolders processOne rest)

/-- Convert a directory. `relative` is its path below the root of the tree, and `ancestors` are the canonical paths of
the directories on the way to it, with its own as the last one. Directories deeper than `depth` are left out. -/
def walkTree (rules : List Rule) (options : TreeOptions) : Nat → Path → Path → Path → List Path → Job Report
  | 0, _, _, _, _ => return {}
  | depth + 1, input, output, relative, ancestors => do
    match ← Job.ask fun d => d.members input with
    | .error c =>
      Job.notice .warn "cannot read directory" [("dir", input.display), ("error", c.message)]
      return .ofFailure relative c.message
    | .ok members =>
      let folders := (members.filter Member.isFolder).map Member.name
      let records ← (members.filter fun m => !m.isFolder).mapM (processMember rules options input output relative)
      let processOne (n : Name) : Job Report :=
        processFolder (walkTree rules options depth) (input.join ⟨n⟩) (output.join ⟨n⟩) (relative.join ⟨n⟩) ancestors
      let below ← processFolders processOne folders
      Job.notice .debug "processed directory"
        [("dir", input.display), ("files", toString records.length), ("folders", toString folders.length)]
      return { files := records : Report } ++ below

/-- Convert a tree to an output, over what is there. A directory has a longer path than the one that it is in, and no
path is looked up that reaches the limit, so no directory is too deep. -/
def convertTree (rules : List Rule) (options : TreeOptions) (input output : Path) : ExceptT ConvertError Job Report := do
  Job.orFail (Job.ask fun d => checkRoots d input output) id
  Job.orFail (Job.act fun d => d.makeDirectories output) (ConvertError.ofCause output)
  Job.notice .info "converting tree"
    [("input", input.display), ("output", output.display), ("parallel", toString options.parallel)]
  let root ← Job.orFail (Job.ask fun d => d.canonicalize input) (ConvertError.ofCause input)
  walkTree rules options Path.lengthLimit input output ⟨[]⟩ [root]

end Retarget

import Retarget.Journal

/-!
# Backups

Before an output is emptied it may be copied to a backup directory. Each backup has a directory of its own there, named
for the time; further ones within the same second are numbered. The numbers have no bound here: with a counter of 32
bits the names are the same as long as fewer than 2147483647 of them are taken within one second.

* `Backup.openSession`: a new directory for a backup,
* `Backup.copyTree`: copy a directory to it.
-/

namespace Retarget

/-- Why a backup was not made. -/
inductive BackupError
  | noDirectory (p : Path) (c : Cause)
  /-- There is no name to file the backup under. -/
  | noName (root : Path)
  | unreadable (root p : Path) (c : Cause)
  | noCopy (source dest : Path) (c : Cause)
deriving Repr, BEq, DecidableEq

namespace BackupError

def message : BackupError → String
  | noDirectory p _ => "Failed to create backup directory: " ++ p.display
  | noName root => "Cannot back up " ++ root.display
  | unreadable root _ _ => "Failed to read " ++ root.display
  | noCopy source dest _ => "Failed to backup file: " ++ source.display ++ " -> " ++ dest.display

/-- The message, and the messages of what is behind it. -/
def chain (e : BackupError) : List String :=
  e.message :: match e with
    | noDirectory _ c => [c.message]
    | noName _ => []
    | unreadable _ p c => ["IO error for operation on " ++ p.display ++ ": " ++ c.message, c.message]
    | noCopy _ _ c => [c.message]

end BackupError

namespace Backup

/-- The name of the backup directory beside an output. -/
def folderName : String := ".appiumize-backup"

/-- The name of a backup: its time, and a number if the time is taken. -/
def sessionName (time : String) : Nat → String
  | 0 => time
  | n + 1 => s!"{time}-{n + 1}"

/-- The first path from a number on that is not taken. -/
def freePath (d : Disk) (folder : Path) (time : String) : Nat → Nat → Path
  | 0, n => folder.join (Path.ofString (sessionName time n))
  | tries + 1, n =>
    let p := folder.join (Path.ofString (sessionName time n))
    if d.exists p then freePath d folder time tries (n + 1) else p

/-- Make a directory for a new backup. There are fewer names in use than entries on the disk, so one of the first
numbers is free. -/
def openSession (folder : Path) (time : String) : ExceptT BackupError Job Path := do
  let p ← Job.look fun d => freePath d folder time (d.entries.length + 1) 0
  Job.orFail (Job.act fun d => d.makeDirectories p) (BackupError.noDirectory p)
  return p

/-- The path of a copy below its target. -/
def destOf (target : Path) (relative : List Name) : Path :=
  match relative with
  | [] => target.join ⟨[]⟩
  | n :: rest => rest.foldl (fun p n => p.join ⟨n⟩) (target.join ⟨n⟩)

/-- Copy one file. -/
def copyOne (source dest : Path) : ExceptT BackupError Job Nat := do
  Job.orFail (Job.change fun d => d.copyFile source dest) (BackupError.noCopy source dest)
  return 1

/-- Copy members of a directory, one after another, and count the files. -/
def copyMembers (copyMember : Name × Bool → ExceptT BackupError Job Nat) :
    List (Name × Bool) → ExceptT BackupError Job Nat
  | [] => return 0
  | m :: rest => do
    let files ← copyMember m
    return files + (← copyMembers copyMember rest)

/-- Copy what stands at a path below a root and count the files. Links are not followed. -/
def copyFrom (root target : Path) : Nat → Path → List Name → Bool → ExceptT BackupError Job Nat
  | 0, _, _, _ => return 0
  | depth + 1, source, relative, isDirectory => do
    let dest := destOf target relative
    if isDirectory then
      Job.orFail (Job.act fun d => d.makeDirectories dest) (BackupError.noDirectory dest)
      let members ← Job.orFail (Job.ask fun d => d.listKinds source) (BackupError.unreadable root source)
      copyMembers (fun m => copyFrom root target depth (source.join ⟨m.1⟩) (relative ++ [m.1]) m.2) members
    else copyOne source dest

/-- What stands at the root of a tree that is to be copied. A link there has to lead somewhere. -/
def findRoot (d : Disk) (root : Path) : Except Cause Disk.Metadata := do
  let found ← d.linkMetadata root
  if found.isLink then discard (d.metadata root)
  return found

/-- Copy a directory to a backup under its own name. Gives the copy and the number of files. -/
def copyTree (session root : Path) : ExceptT BackupError Job (Path × Nat) := do
  match root.fileName? with
  | none => throw (.noName root)
  | some n =>
    let target := session.join ⟨n⟩
    let found ← Job.orFail (Job.ask fun d => findRoot d root) (BackupError.unreadable root root)
    return (target, ← copyFrom root target Path.lengthLimit root [] found.isDirectory)

end Backup

end Retarget

import Retarget.Disk.Read

/-!
# Writing to a disk

A refused operation leaves the disk as it is. An operation of several steps gives the disk after the steps that were
taken, with the fault of the one that was not.

* `Disk.makeDirectory`, `Disk.makeDirectories`: new directories,
* `Disk.remove`, `Disk.removeTree`: files and whole directories go,
* `Disk.replaceFile`: a file appears in one step, or not at all,
* `Disk.copyFile`: a file is copied as it is.
-/

namespace Retarget.Disk

/-! ## Directories -/

/-- Make a directory. -/
def makeDirectory (d : Disk) (p : Path) : Except Cause Disk := do
  let a ← d.approach p
  match a.name with
  | none => .error .alreadyExists
  | some n =>
    let l := a.directory ++ [n]
    if (d.get? l).isSome then .error .alreadyExists
    else if !d.mayChange a.mode then .error .denied
    else .ok (d.put l (.directory Mode.newDirectory))

/-- Make a directory, unless it is there already. -/
def ensureDirectory (d : Disk) (p : Path) : Except Cause Disk :=
  match d.makeDirectory p with
  | .ok d => .ok d
  | .error c => if d.isDirectory p then .ok d else .error c

/-- Make a directory and, if need be, those above it. -/
def makeDirectoriesFrom : Nat → Disk → Path → Except Cause Unit × Disk
  | 0, d, _ => (.error .notFound, d)
  | fuel + 1, d, p =>
    if p.components.isEmpty then (.ok (), d)
    else
      match d.makeDirectory p with
      | .ok d => (.ok (), d)
      | .error .notFound =>
        match p.parent? with
        | none => (.error .notFound, d)
        | some parent =>
          match makeDirectoriesFrom fuel d parent with
          | (.error c, d) => (.error c, d)
          | (.ok _, d) =>
            match d.ensureDirectory p with
            | .ok d => (.ok (), d)
            | .error c => (.error c, d)
      | .error c => (if d.isDirectory p then .ok () else .error c, d)

/-- Make a directory and, if need be, those above it. A parent has fewer bytes than its child. -/
def makeDirectories (d : Disk) (p : Path) : Except Cause Unit × Disk :=
  makeDirectoriesFrom (p.bytes.length + 1) d p

/-! ## Removal -/

/-- Take away an entry of a directory that is no directory itself. -/
def unlink (d : Disk) (directory : Location) (m : Mode) (n : Name) : Except Cause Disk :=
  match d.get? (directory ++ [n]) with
  | none => .error .notFound
  | some (.directory _) => if d.mayChange m then .error .isDirectory else .error .denied
  | some _ => if d.mayChange m then .ok (d.erase (directory ++ [n])) else .error .denied

/-- Remove a file or a link. -/
def remove (d : Disk) (p : Path) : Except Cause Disk := do
  let a ← d.approach p
  match a.name with
  | none => .error .isDirectory
  | some n => if a.slash then .error .notDirectory else d.unlink a.directory a.mode n

/-- Remove the entries of some names in a directory one after another. -/
def removeNames (removeOne : Disk → Name → Except Cause Unit × Disk) : Disk → List Name → Except Cause Unit × Disk
  | d, [] => (.ok (), d)
  | d, n :: rest =>
    match removeOne d n with
    | (.ok _, d) => removeNames removeOne d rest
    | (.error c, d) => (.error c, d)

/-- Remove what stands under a name in a directory, with all that is below it. Links are not followed. -/
def removeBelow : Nat → Location → Mode → Disk → Name → Except Cause Unit × Disk
  | 0, _, _, d, _ => (.error .nameTooLong, d)
  | fuel + 1, directory, m, d, n =>
    let l := directory ++ [n]
    match d.get? l with
    | some (.directory inner) =>
      if !d.mayRead inner then (.error .denied, d)
      else if !(d.names l).isEmpty && !d.maySearch inner then (.error .denied, d)
      else
        match removeNames (removeBelow fuel l inner) d (d.names l) with
        | (.error c, d) => (.error c, d)
        | (.ok _, d) => if d.mayChange m then (.ok (), d.erase l) else (.error .denied, d)
    | _ =>
      match d.unlink directory m n with
      | .ok d => (.ok (), d)
      | .error c => (.error c, d)

/-- The longest location on the disk. -/
def depth (d : Disk) : Nat := d.entries.foldl (fun n x => max n x.1.length) 0

/-- Remove a directory with all that is in it. -/
def removeTree (d : Disk) (p : Path) : Except Cause Unit × Disk :=
  match d.approach p with
  | .error c => (.error c, d)
  | .ok a =>
    match a.name with
    | none => (.error .busy, d)
    | some n => removeBelow (d.depth + 1) a.directory a.mode d n

/-! ## Files -/

/-- The name of a temporary file: a mark and the six digits of a number. -/
def temporaryName (number : Nat) : Name :=
  let digits := Nat.toDigits 10 number
  Text.encode (String.ofList (".tmp".toList ++ List.replicate (6 - digits.length) '0' ++ digits))

/-- The first name of a temporary file from a number on that is not in use in a directory. -/
def freshFrom (d : Disk) (directory : Location) : Nat → Nat → Name
  | 0, number => temporaryName number
  | tries + 1, number =>
    if (d.get? (directory ++ [temporaryName number])).isNone then temporaryName number
    else freshFrom d directory tries (number + 1)

/-- A name of a temporary file that is not in use in a directory. -/
def freshName (d : Disk) (directory : Location) : Name := d.freshFrom directory d.entries.length 0

/-- Does the device go along with a step? -/
def allows (d : Disk) (s : WriteStep) : Except Cause Unit :=
  match d.refuses s with
  | none => .ok ()
  | some c => .error c

/-- The directory of a path that a file is written to. -/
def folderOf (dest : Path) : Path :=
  match dest.parent? with
  | some p => if p.bytes.isEmpty then ⟨Path.here⟩ else p
  | none => ⟨Path.here⟩

/-- Make an empty temporary file in a directory and give its location. -/
def createTemporary (d : Disk) (folder : Path) : Except Refusal (Location × Disk) :=
  let folder := d.currentPath.join folder
  let made : Except Cause (Location × Disk) := do
    let l ← match checkPath (folder.join ⟨temporaryName 0⟩) with
      | .error c => .error c
      | .ok _ => d.locate folder
    let m ← d.enter l
    let temp := l ++ [d.freshName l]
    if !d.mayChange m then .error .denied
    d.allows (.create l)
    return (temp, d.put temp (.file [] Mode.temporary))
  match made with
  | .ok r => .ok r
  | .error c => .error ⟨c, some (folder.join ⟨temporaryName 0⟩)⟩

/-- Fill a temporary file. -/
def fill (d : Disk) (temp : Location) (bytes : Bytes) : Except Cause Disk := do
  d.allows (.fill bytes)
  return d.put temp (.file bytes Mode.temporary)

/-- Give a temporary file its permission bits, if they are known. -/
def setMode (d : Disk) (temp : Location) (bytes : Bytes) : Option Mode → Except Cause Disk
  | none => .ok d
  | some m => do
    d.allows (.setMode m)
    return d.put temp (.file bytes m)

/-- Move a file to where a path ends, in the place of a file or link there. -/
def rename (d : Disk) (temp : Location) (dest : Path) : Except Cause Disk := do
  let a ← d.approach dest
  match a.name with
  | none => .error .busy
  | some n =>
    let l := a.directory ++ [n]
    if a.slash then .error .notDirectory
    if !d.mayChange a.mode then .error .denied
    match d.get? l with
    | some (.directory _) => .error .isDirectory
    | _ =>
      d.allows (.rename l)
      let e ← d.entryAt temp
      return (d.erase temp).put l e

/-- Fill a temporary file and move it to its place. Gives the disk after the steps that were taken. -/
def finishFile (d : Disk) (temp : Location) (dest : Path) (bytes : Bytes) (m : Option Mode) :
    Except Cause Unit × Disk :=
  match d.fill temp bytes with
  | .error c => (.error c, d)
  | .ok d =>
    match d.allows .sync with
    | .error c => (.error c, d)
    | .ok _ =>
      match d.setMode temp bytes m with
      | .error c => (.error c, d)
      | .ok d =>
        match d.rename temp dest with
        | .error c => (.error c, d)
        | .ok d => (.ok (), d)

/-- Write a file, in the place of a file or link at its path. The file is written under a temporary name in the same
directory and then moved; if that fails, the temporary file is removed. -/
def replaceFile (d : Disk) (dest : Path) (bytes : Bytes) (m : Option Mode) : Except Refusal Unit × Disk :=
  match d.createTemporary (folderOf dest) with
  | .error f => (.error f, d)
  | .ok (temp, made) =>
    match made.finishFile temp dest bytes m with
    | (.ok _, done) => (.ok (), done)
    | (.error c, left) => (.error ⟨c, none⟩, left.erase temp)

/-- Where a file is opened for writing: the end of a path, through at most so many links there. Gives the permission
bits of the directory as well. -/
def openEnd (d : Disk) (links : Nat) (start : Location) (p : Path) : Except Cause (Location × Mode) := do
  let a ← { d with current := start }.approach p
  match a.name with
  | none => .error .isDirectory
  | some n =>
    if a.slash then .error .isDirectory
    else
      match d.get? (a.directory ++ [n]) with
      | some (.link target) =>
        match links with
        | 0 => .error .tooManyLinks
        | links + 1 => openEnd d links a.directory target
      | _ => return (a.directory ++ [n], a.mode)

/-- Copy the bytes and the permission bits of a file. -/
def copyFile (d : Disk) (source dest : Path) : Except Cause Disk := do
  let bytes ← match ← d.entryAt (← d.locate source) with
    | .file bytes m => if d.mayRead m then .ok (bytes, m) else .error .denied
    | .directory m => if d.mayRead m then .error .notRegular else .error .denied
    | .link _ => .error .tooManyLinks
  let (l, inDirectory) ← d.openEnd linkLimit d.current dest
  match d.get? l with
  | none => if d.mayChange inDirectory then return d.put l (.file bytes.1 bytes.2) else .error .denied
  | some (.file _ m) =>
    if d.privileged || Mode.writable m then return d.put l (.file bytes.1 bytes.2) else .error .denied
  | some _ => .error .isDirectory

end Retarget.Disk

import Retarget.Disk.Basic

/-!
# Looking up paths

A path leads to a location by its names, one after another: `.` stays, `..` goes up, and a link is followed to its
target. At most forty links are followed. A slash at the end asks for a directory.

* `Disk.locate`: the location that a path leads to,
* `Disk.approach`: the directory and the name at which a path ends, whether something stands there or not,
* `Disk.metadata`, `Disk.linkMetadata`, `Disk.canonicalize`: what the rest of the library asks for.
-/

namespace Retarget

namespace Path

/-- The name of the directory itself. -/
def here : Name := [dot]

/-- The name of the directory above. -/
def above : Name := [dot, dot]

/-- The names of a path. A slash at the end counts as an empty name. -/
def names (p : Path) : List Name :=
  let ps := parts p.bytes
  ps.filter (fun n => !n.isEmpty) ++ if ps.getLast? == some [] then [[]] else []

/-- The bytes that a path may not reach. -/
def lengthLimit : Nat := 4096

/-- The bytes that a name may have. -/
def nameLimit : Nat := 255

end Path

namespace Disk

/-- The links that may be followed on the way. -/
def linkLimit : Nat := 40

/-- Check a path before it is looked up. -/
def checkPath (p : Path) : Except Cause Unit :=
  if p.bytes.contains 0 then .error .nulInPath
  else if p.bytes.isEmpty then .error .notFound
  else if Path.lengthLimit ≤ p.bytes.length then .error .nameTooLong
  else .ok ()

/-- Where a path starts. -/
def start (d : Disk) (p : Path) : Location := if p.isAbsolute then [] else d.current

/-- The permission bits of the directory at a location. -/
def directoryMode (d : Disk) (l : Location) : Except Cause Mode :=
  match d.get? l with
  | some (.directory m) => .ok m
  | some _ => .error .notDirectory
  | none => .error .notFound

/-- Enter a directory to look a name up. -/
def enter (d : Disk) (l : Location) : Except Cause Mode := do
  let m ← d.directoryMode l
  if d.maySearch m then .ok m else .error .denied

/-- How names are followed. -/
inductive Follow
  /-- All at once: each name, also `.` and `..`, is looked up in a directory. -/
  | whole
  /-- One after another: `.` and `..` are only dropped, after a directory. -/
  | stepwise
deriving Repr, BEq, DecidableEq

/-- The right to go on from a location by a name. -/
def mayStep (d : Disk) (f : Follow) (l : Location) (n : Name) : Except Cause Unit :=
  if n.isEmpty || (f == .stepwise && (n == Path.here || n == Path.above)) then do discard (d.directoryMode l)
  else do discard (d.enter l)

/-- How far names lead without following a link. -/
inductive Leg
  /-- To the end. -/
  | arrived (l : Location)
  /-- To a link in a directory, with names after it. -/
  | atLink (l : Location) (target : Path) (rest : List Name)
deriving Repr, BEq, DecidableEq

/-- Follow names from a location up to the first link. -/
def leg (d : Disk) (f : Follow) : Location → List Name → Except Cause Leg
  | l, [] => .ok (.arrived l)
  | l, n :: rest =>
    match d.mayStep f l n with
    | .error c => .error c
    | .ok _ =>
      if n.isEmpty || n == Path.here then leg d f l rest
      else if n == Path.above then leg d f l.dropLast rest
      else if Path.nameLimit < n.length then .error .nameTooLong
      else
        match d.get? (l ++ [n]) with
        | none => .error .notFound
        | some (.link target) => .ok (.atLink l target rest)
        | some _ => leg d f (l ++ [n]) rest

/-- Follow names from a location, through at most so many links. -/
def walk (d : Disk) (f : Follow) (links : Nat) (l : Location) (names : List Name) : Except Cause Location :=
  match d.leg f l names with
  | .error c => .error c
  | .ok (.arrived l) => .ok l
  | .ok (.atLink l target rest) =>
    match links with
    | 0 => .error .tooManyLinks
    | links + 1 => walk d f links (if target.isAbsolute then [] else l) (target.names ++ rest)

/-- The location that a path leads to. -/
def locate (d : Disk) (p : Path) : Except Cause Location := do
  checkPath p
  d.walk .whole linkLimit (d.start p) p.names

/-- The end of a path: a directory and a name in it. There is no name if the path ends in `.` or `..` or is the root. -/
structure Approach where
  directory : Location
  mode : Mode
  name : Option Name
  /-- Does the path end in a slash? -/
  slash : Bool

/-- Follow a path up to its last name. -/
def approach (d : Disk) (p : Path) : Except Cause Approach := do
  checkPath p
  let names := p.names
  let slash := names.getLast? == some []
  match (names.filter fun n => !n.isEmpty).reverse with
  | [] => do return ⟨d.start p, ← d.enter (d.start p), none, slash⟩
  | last :: before => do
    let l ← d.walk .whole linkLimit (d.start p) before.reverse
    let m ← d.enter l
    if last == Path.here || last == Path.above then return ⟨l, m, none, slash⟩
    else if Path.nameLimit < last.length then .error .nameTooLong
    else return ⟨l, m, some last, slash⟩

/-- What is known of an entry without reading it. -/
structure Metadata where
  isDirectory : Bool
  isFile : Bool
  mode : Mode
deriving Repr, BEq, DecidableEq

def Metadata.ofEntry : Entry → Metadata
  | .file _ m => ⟨false, true, m⟩
  | .directory m => ⟨true, false, m⟩
  | .link _ => ⟨false, false, 0o777⟩

def Metadata.isLink (m : Metadata) : Bool := !m.isDirectory && !m.isFile

/-- The entry at a location that must be there. -/
def entryAt (d : Disk) (l : Location) : Except Cause Entry :=
  match d.get? l with
  | none => .error .notFound
  | some e => .ok e

/-- What a path leads to. -/
def metadata (d : Disk) (p : Path) : Except Cause Metadata := do
  return Metadata.ofEntry (← d.entryAt (← d.locate p))

/-- What stands at the end of a path, without following a link there. -/
def linkMetadata (d : Disk) (p : Path) : Except Cause Metadata := do
  let a ← d.approach p
  match a.name with
  | some n => if a.slash then d.metadata p else return Metadata.ofEntry (← d.entryAt (a.directory ++ [n]))
  | none => d.metadata p

/-- Does a path lead to anything? -/
def «exists» (d : Disk) (p : Path) : Bool := (d.metadata p).isOk

/-- Does a path lead to a directory? -/
def isDirectory (d : Disk) (p : Path) : Bool :=
  match d.metadata p with
  | .ok m => m.isDirectory
  | .error _ => false

/-- The absolute path of what a path leads to, without links and detours. -/
def canonicalize (d : Disk) (p : Path) : Except Cause Path := do
  checkPath p
  return (← d.walk .stepwise linkLimit (d.start p) p.names).toPath

/-- The path of the directory that relative paths start from. -/
def currentPath (d : Disk) : Path := d.current.toPath

end Disk

end Retarget

import Retarget.Text.Utf8

/-!
# Paths

A path is a sequence of bytes with `/` between its components. Repeated and trailing slashes do not count, and
neither does the component `.` except at the start. What a path names on a disk is another matter: a path is only
text here.

* `Path.components`: the components,
* `Path.fileName?`, `Path.parent?`, `Path.extension?`: parts of a path,
* `Path.join`, `Path.withFileName`: new paths from old ones.
-/

namespace Retarget

/-- A name in a directory. -/
abbrev Name := Bytes

/-- A path as written. -/
structure Path where
  bytes : Bytes
deriving Repr, BEq, DecidableEq, Inhabited

/-- A component of a path. -/
inductive Component
  | root
  | current
  | up
  | name (n : Name)
deriving Repr, BEq, DecidableEq

namespace Path

/-- The separator of components. -/
def slash : UInt8 := 47

/-- The byte of a full stop. -/
def dot : UInt8 := 46

def ofString (s : String) : Path := ⟨Text.encode s⟩

/-- The path as text, with U+FFFD where its bytes are none. -/
def display (p : Path) : String := Text.decodeLossy p.bytes

/-- The path as text, if it is text. -/
def toString? (p : Path) : Option String := (Text.decode p.bytes).toOption

def isAbsolute (p : Path) : Bool := p.bytes.head? == some slash

/-- The parts between slashes, empty ones included. -/
def parts : Bytes → List Bytes
  | [] => [[]]
  | b :: rest =>
    if b == slash then [] :: parts rest
    else match parts rest with
      | [] => [[b]]
      | p :: ps => (b :: p) :: ps

/-- The component of a part; empty parts and `.` are none. -/
def component? (part : Bytes) : Option Component :=
  if part.isEmpty || part == [dot] then none
  else if part == [dot, dot] then some .up
  else some (.name part)

/-- The components of a path. -/
def components (p : Path) : List Component :=
  let ps := parts p.bytes
  let named := ps.filterMap component?
  if p.isAbsolute then .root :: named
  else if ps.head? == some [dot] then .current :: named
  else named

/-- The name that the path ends in, if it ends in a name. -/
def fileName? (p : Path) : Option Name :=
  match p.components.getLast? with
  | some (.name n) => some n
  | _ => none

/-- The least number of bytes that belong to the start of a path: the root, or a leading `.`. -/
def headLength (p : Path) : Nat :=
  if p.isAbsolute then 1 else if (parts p.bytes).head? == some [dot] then 1 else 0

/-- Drop parts from the end of the reversed bytes after the head, until one is a component; `drop` says whether that
one is dropped as well. -/
def trimBack (drop : Bool) : Nat → Bytes → Bytes
  | 0, rev => rev
  | fuel + 1, rev =>
    if rev.isEmpty then []
    else
      let part := (rev.takeWhile (· != slash)).reverse
      let before := (rev.dropWhile (· != slash)).drop 1
      if (component? part).isSome then if drop then trimBack false fuel before else rev
      else trimBack drop fuel before

/-- The path without its last component. The root and the empty path have no parent. -/
def parent? (p : Path) : Option Path :=
  match p.components.getLast? with
  | none => none
  | some .root => none
  | some .current => some ⟨[]⟩
  | some _ =>
    let h := p.headLength
    some ⟨p.bytes.take h ++ (trimBack true (p.bytes.length + 1) (p.bytes.drop h).reverse).reverse⟩

/-- One path after another. An absolute path replaces what stands before it. -/
def join (p q : Path) : Path :=
  if q.isAbsolute then q
  else if p.bytes.getLast?.any (· != slash) then ⟨p.bytes ++ slash :: q.bytes⟩
  else ⟨p.bytes ++ q.bytes⟩

/-- The path with another name in the place of its last one. -/
def withFileName (p : Path) (n : Name) : Path :=
  if p.fileName?.isSome then ((p.parent?).getD p).join ⟨n⟩ else p.join ⟨n⟩

/-- The end of the file name after its last full stop, if something stands before that. -/
def extension? (p : Path) : Option Bytes := do
  let n ← p.fileName?
  let rev := n.reverse
  match rev.dropWhile (· != dot) with
  | [] => none
  | _ :: before => if before.isEmpty then none else some (rev.takeWhile (· != dot)).reverse

/-- Do the components of `p` begin with those of `q`? -/
def startsWith (p q : Path) : Bool := q.components.isPrefixOf p.components

/-- The marker in front of the name of a derived output. -/
def outputMarker : Bytes := Text.encode "converted_"

/-- The place of an output beside its input: the same path with the name marked. -/
def outputBeside? (p : Path) : Option Path := p.fileName?.map fun n => p.withFileName (outputMarker ++ n)

end Path

end Retarget

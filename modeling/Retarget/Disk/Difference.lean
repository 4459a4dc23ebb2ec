import Retarget.Disk.Basic

/-!
# Differences of disks

What has to be done to one disk to get another one.
-/

namespace Retarget

/-- A change of one location. -/
inductive Alteration
  | removeFile (l : Location)
  | removeDirectory (l : Location)
  | makeDirectory (l : Location)
  | writeFile (l : Location) (bytes : Bytes)
deriving Repr, BEq, DecidableEq

namespace Entry

def isDirectory : Entry → Bool
  | directory _ => true
  | _ => false

end Entry

namespace Disk

/-- Does a disk have an entry of the same kind at a location? -/
def hasKind (d : Disk) (l : Location) (e : Entry) : Bool :=
  (d.get? l).any fun found => found.isDirectory == e.isDirectory

/-- What has to go, the deepest entries first. -/
def removals (old new : Disk) : List Alteration :=
  let gone := old.entries.filter fun x => !new.hasKind x.1 x.2
  (gone.mergeSort fun a b => b.1.length ≤ a.1.length).map fun x =>
    if x.2.isDirectory then .removeDirectory x.1 else .removeFile x.1

/-- What has to come, the highest entries first. -/
def additions (old new : Disk) : List Alteration :=
  (new.entries.mergeSort fun a b => a.1.length ≤ b.1.length).filterMap fun x =>
    match x.2 with
    | .directory _ => if old.hasKind x.1 x.2 then none else some (.makeDirectory x.1)
    | .file bytes _ =>
      match old.get? x.1 with
      | some (.file before _) => if before == bytes then none else some (.writeFile x.1 bytes)
      | _ => some (.writeFile x.1 bytes)
    | .link _ => none

/-- The changes that lead from one disk to another. -/
def alterations (old new : Disk) : List Alteration := removals old new ++ additions old new

end Disk

end Retarget

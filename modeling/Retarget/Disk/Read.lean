import Retarget.Disk.Lookup

/-!
# Reading from a disk
-/

namespace Retarget.Disk

/-- The bytes of a file. -/
def read (d : Disk) (p : Path) : Except Cause Bytes := do
  match ← d.entryAt (← d.locate p) with
  | .file bytes m => if d.mayRead m then .ok bytes else .error .denied
  | .directory m => if d.mayRead m then .error .isDirectory else .error .denied
  | .link _ => .error .tooManyLinks

/-- The text of a file. -/
def readText (d : Disk) (p : Path) : Except Cause String := do
  match Text.decode (← d.read p) with
  | .ok s => .ok s
  | .error _ => .error .notText

/-- The order of bytes: `a` is not after `b`. -/
def bytesLe : Bytes → Bytes → Bool
  | [], _ => true
  | _ :: _, [] => false
  | a :: as, b :: bs => a < b || (a == b && bytesLe as bs)

/-- Put a name among sorted ones. -/
def insertName (n : Name) : List Name → List Name
  | [] => [n]
  | m :: rest => if bytesLe n m then n :: m :: rest else m :: insertName n rest

/-- Names in the order of their bytes. -/
def sortNames (names : List Name) : List Name := names.foldr insertName []

/-- Sorting keeps the names. -/
theorem mem_insertName {n m : Name} {names : List Name} : m ∈ insertName n names ↔ m = n ∨ m ∈ names := by
  induction names with
  | nil => simp [insertName]
  | cons k rest ih =>
    unfold insertName
    split
    · simp
    · simp only [List.mem_cons, ih]
      constructor
      · rintro (h | h | h) <;> simp [h]
      · rintro (h | h | h) <;> simp [h]

@[simp] theorem mem_sortNames {m : Name} {names : List Name} : m ∈ sortNames names ↔ m ∈ names := by
  induction names with
  | nil => rfl
  | cons k rest ih =>
    show m ∈ insertName k (sortNames rest) ↔ _
    rw [mem_insertName, ih, List.mem_cons]

/-- The names in a directory. -/
def list (d : Disk) (p : Path) : Except Cause (List Name) := do
  let l ← d.locate p
  let m ← d.directoryMode l
  if d.mayRead m then .ok (d.names l) else .error .denied

/-- Is the entry at a location a directory? -/
def isDirectoryAt (d : Disk) (l : Location) : Bool :=
  match d.get? l with
  | some (.directory _) => true
  | _ => false

/-- The names in a directory, and whether a directory stands under each. Links are not followed. -/
def listKinds (d : Disk) (p : Path) : Except Cause (List (Name × Bool)) := do
  let names ← d.list p
  let l ← d.locate p
  return names.map fun n => (n, d.isDirectoryAt (l ++ [n]))

/-- The names in a directory, in the order of their bytes. -/
def sortedList (d : Disk) (p : Path) : Except Cause (List Name) := do
  return sortNames (← d.list p)

end Retarget.Disk

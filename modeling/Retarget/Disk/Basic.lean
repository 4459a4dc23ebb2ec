import Retarget.Disk.Refusal

/-!
# Disks

A disk is a table of entries: files, directories and links, each at a location. A location is the list of names that
lead from the root of the disk to an entry; it never goes through links. The root is a directory that is always there.

* `Disk.get?`: the entry at a location,
* `Disk.put`, `Disk.erase`: change one location,
* `Disk.names`: the names in a directory.

A change is seen at its own location only (`Disk.get?_put`, `Disk.get?_erase`).

A device may refuse any step of writing a file under a temporary name (`Disk.refuses`). It has no say in anything else:
making a directory, removing an entry and copying a file for a backup fail for what is on the disk, for its permission
bits and for the limits of paths only.
-/

namespace Retarget

/-- The permission bits of an entry. -/
abbrev Mode := Nat

/-- A place on a disk, by the names from its root. -/
abbrev Location := List Name

/-- What may stand at a location. -/
inductive Entry
  | file (bytes : Bytes) (mode : Mode)
  | directory (mode : Mode)
  | link (target : Path)
deriving Repr, BEq, DecidableEq

/-- The steps of writing a file, as far as the device has a say in them. -/
inductive WriteStep
  | create (directory : Location)
  | fill (bytes : Bytes)
  | sync
  | setMode (mode : Mode)
  | rename (dest : Location)
deriving Repr, BEq, DecidableEq

/-- The state of a disk. -/
structure Disk where
  entries : List (Location × Entry) := []
  /-- The directory that relative paths start from. -/
  current : Location := []
  /-- May all files be read and written, whatever their permission bits? -/
  privileged : Bool := true
  /-- Which steps of writing a file the device itself refuses, and why: it may be full, or broken. -/
  refuses : WriteStep → Option Cause := fun _ => none

namespace Location

/-- The absolute path of a location. -/
def toPath (l : Location) : Path :=
  match l with
  | [] => ⟨[Path.slash]⟩
  | l => ⟨(l.map fun n => Path.slash :: n).flatten⟩

/-- Is `l` the location `top` or below it? -/
def isBelow (top l : Location) : Bool := top.isPrefixOf l

end Location

namespace Mode

/-- The permission bits of a new directory. -/
def newDirectory : Mode := 0o755

/-- The permission bits of a temporary file. -/
def temporary : Mode := 0o600

/-- May the owner read? -/
def readable (m : Mode) : Bool := Nat.testBit m 8

/-- May the owner write? -/
def writable (m : Mode) : Bool := Nat.testBit m 7

/-- May the owner look up names in the directory? -/
def searchable (m : Mode) : Bool := Nat.testBit m 6

end Mode

namespace Disk

/-- The entry at a location. -/
def get? (d : Disk) (l : Location) : Option Entry :=
  match l with
  | [] => some (.directory Mode.newDirectory)
  | l => d.entries.lookup l

/-- Put an entry at a location, in the place of what stands there. -/
def put (d : Disk) (l : Location) (e : Entry) : Disk :=
  if (d.entries.lookup l).isSome then
    { d with entries := d.entries.map fun x => if x.1 == l then (l, e) else x }
  else { d with entries := d.entries ++ [(l, e)] }

/-- Take the entry at a location away. -/
def erase (d : Disk) (l : Location) : Disk := { d with entries := d.entries.filter fun x => x.1 != l }

/-- The name of a location in a directory. -/
def nameIn? (directory l : Location) : Option Name :=
  match l.reverse with
  | [] => none
  | n :: above => if above.reverse == directory then some n else none

/-- The names in a directory. -/
def names (d : Disk) (directory : Location) : List Name := d.entries.filterMap fun x => nameIn? directory x.1

/-- May a directory or a file with such permission bits be read? -/
def mayRead (d : Disk) (m : Mode) : Bool := d.privileged || Mode.readable m

/-- May names be looked up in a directory with such permission bits? -/
def maySearch (d : Disk) (m : Mode) : Bool := d.privileged || Mode.searchable m

/-- May entries be made and removed in a directory with such permission bits? -/
def mayChange (d : Disk) (m : Mode) : Bool := d.privileged || (Mode.writable m && Mode.searchable m)

/-! ## One change at a time -/

theorem lookup_cons_eq_ite (k m : Location) (f : Entry) (rest : List (Location × Entry)) :
    ((m, f) :: rest).lookup k = if k = m then some f else rest.lookup k := by
  by_cases h : k = m
  · simp [h]
  · simp [List.lookup_cons, beq_eq_false_iff_ne.2 h, h]

theorem lookup_map_put (l k : Location) (e : Entry) (entries : List (Location × Entry)) :
    (entries.map fun x => if x.1 == l then (l, e) else x).lookup k =
      if k = l then (entries.lookup l).map fun _ => e else entries.lookup k := by
  induction entries with
  | nil => simp
  | cons x rest ih =>
    obtain ⟨m, f⟩ := x
    by_cases hm : m = l
    · subst hm
      rw [List.map_cons, if_pos (by simp), lookup_cons_eq_ite, lookup_cons_eq_ite, lookup_cons_eq_ite, ih]
      split <;> simp_all
    · rw [List.map_cons, if_neg (by simpa using hm), lookup_cons_eq_ite, lookup_cons_eq_ite, lookup_cons_eq_ite, ih]
      by_cases hk : k = l
      · simp [hk, Ne.symm hm]
      · simp [hk]

theorem lookup_append_put (l k : Location) (e : Entry) (entries : List (Location × Entry)) :
    (entries ++ [(l, e)]).lookup k = (entries.lookup k).or (if k = l then some e else none) := by
  induction entries with
  | nil => simp [lookup_cons_eq_ite]
  | cons x rest ih =>
    obtain ⟨m, f⟩ := x
    rw [List.cons_append, lookup_cons_eq_ite, lookup_cons_eq_ite, ih]
    split <;> rfl

theorem lookup_filter_ne (l k : Location) (entries : List (Location × Entry)) :
    (entries.filter fun x => x.1 != l).lookup k = if k = l then none else entries.lookup k := by
  induction entries with
  | nil => simp
  | cons x rest ih =>
    obtain ⟨m, f⟩ := x
    by_cases hm : m = l
    · subst hm
      rw [List.filter_cons_of_neg (by simp), ih, lookup_cons_eq_ite]
      split <;> rfl
    · rw [List.filter_cons_of_pos (by simpa using hm), lookup_cons_eq_ite, lookup_cons_eq_ite, ih]
      by_cases hk : k = l
      · simp [hk, Ne.symm hm]
      · simp [hk]

/-- What is put at a place stands there, and all other places are as before. -/
theorem get?_put (d : Disk) {l : Location} (hl : l ≠ []) (e : Entry) (k : Location) :
    (d.put l e).get? k = if k = l then some e else d.get? k := by
  cases k with
  | nil => simp [get?, hl.symm]
  | cons n k =>
    show (d.put l e).entries.lookup (n :: k) = if n :: k = l then some e else d.entries.lookup (n :: k)
    unfold put
    split
    · next h =>
      obtain ⟨x, hx⟩ := Option.isSome_iff_exists.1 h
      rw [lookup_map_put, hx]
      rfl
    · next h =>
      rw [lookup_append_put]
      split
      · next hk => rw [hk, Option.not_isSome_iff_eq_none.1 h]; rfl
      · rw [Option.or_none]

/-- Nothing stands at an erased place, and all other places are as before. -/
theorem get?_erase (d : Disk) {l : Location} (hl : l ≠ []) (k : Location) :
    (d.erase l).get? k = if k = l then none else d.get? k := by
  cases k with
  | nil => simp [get?, hl.symm]
  | cons n k => exact lookup_filter_ne l (n :: k) d.entries

end Disk

end Retarget

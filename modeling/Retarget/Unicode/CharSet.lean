/-!
# Sets of characters

A set of characters is a list of inclusive ranges of code points. The ranges of a set in normal form are sorted
and neither overlap nor touch. Every set operation returns a set in normal form:

* `CharSet.ofRanges`: any ranges, sorted and merged,
* `CharSet.union`, `CharSet.inter`, `CharSet.diff`: the Boolean operations,
* `CharSet.compl`: the complement among the scalar values, surrogates left out,
* `CharSet.contains`: membership, which stops at the first range above the code point.
-/

namespace Retarget

/-- An inclusive range of code points. -/
abbrev CodeRange := Nat × Nat

/-- A set of code points as sorted ranges that do not touch. -/
structure CharSet where
  ranges : List CodeRange
deriving Repr, BEq, DecidableEq, Inhabited

namespace CharSet

/-- Does one of the sorted ranges hold the code point? -/
def inRanges : List CodeRange → Nat → Bool
  | [], _ => false
  | (lo, hi) :: rest, n => if n < lo then false else n ≤ hi || inRanges rest n

/-- Is the code point in the set? -/
def containsCode (s : CharSet) (n : Nat) : Bool := inRanges s.ranges n

/-- Is the character in the set? -/
def contains (s : CharSet) (c : Char) : Bool := s.containsCode c.toNat

/-- Merge ranges sorted by their lower ends, `cur` being the range that still grows. -/
def mergeFrom (cur : CodeRange) : List CodeRange → List CodeRange
  | [] => [cur]
  | r :: rest =>
    if r.1 ≤ cur.2 + 1 then mergeFrom (cur.1, max cur.2 r.2) rest else cur :: mergeFrom r rest

/-- Merge sorted ranges that overlap or touch. -/
def merge : List CodeRange → List CodeRange
  | [] => []
  | r :: rest => mergeFrom r rest

/-- Put a range among ranges sorted by their ends. -/
def insertRange (r : CodeRange) : List CodeRange → List CodeRange
  | [] => [r]
  | q :: rest => if r.1 < q.1 || (r.1 == q.1 && r.2 ≤ q.2) then r :: q :: rest else q :: insertRange r rest

/-- The set that holds exactly the code points of the ranges. -/
def ofRanges (rs : List CodeRange) : CharSet :=
  ⟨merge ((rs.filter fun r => r.1 ≤ r.2).foldr insertRange [])⟩

def empty : CharSet := ⟨[]⟩

def singleton (c : Char) : CharSet := ⟨[(c.toNat, c.toNat)]⟩

def ofCode (n : Nat) : CharSet := ⟨[(n, n)]⟩

def isEmpty (s : CharSet) : Bool := s.ranges.isEmpty

def union (s t : CharSet) : CharSet := ofRanges (s.ranges ++ t.ranges)

/-- The ranges between sorted ranges, from `lo` up to `top`. -/
def gaps (top : Nat) : Nat → List CodeRange → List CodeRange
  | lo, [] => if lo ≤ top then [(lo, top)] else []
  | lo, (a, b) :: rest => if lo < a then (lo, a - 1) :: gaps top (b + 1) rest else gaps top (b + 1) rest

/-- The last code point. -/
def top : Nat := 0x10FFFF

/-- The code points that are not characters. -/
def surrogates : CodeRange := (0xD800, 0xDFFF)

/-- Every character. -/
def all : CharSet := ⟨[(0, 0xD7FF), (0xE000, 0x10FFFF)]⟩

/-- The characters outside the set. -/
def compl (s : CharSet) : CharSet := ⟨gaps top 0 (ofRanges (surrogates :: s.ranges)).ranges⟩

def inter (s t : CharSet) : CharSet := (s.compl.union t.compl).compl

def diff (s t : CharSet) : CharSet := s.inter t.compl

/-- Does the set hold ASCII characters only? -/
def isAscii (s : CharSet) : Bool := s.ranges.all fun r => r.2 < 128

/-! ## Tables as text -/

/-- The value of a hexadecimal digit. -/
def hexDigit? (c : Char) : Option Nat :=
  if '0' ≤ c ∧ c ≤ '9' then some (c.toNat - 48)
  else if 'A' ≤ c ∧ c ≤ 'F' then some (c.toNat - 55)
  else if 'a' ≤ c ∧ c ≤ 'f' then some (c.toNat - 87)
  else none

/-- Read ranges `lo-hi` and single code points, in hexadecimal and divided by blanks. `lo` is the lower end of a
range whose upper end is being read, and `n` the number read so far. -/
def readRanges : Option Nat → Nat → List Char → List CodeRange
  | lo, n, [] => [(lo.getD n, n)]
  | lo, n, c :: rest =>
    if c == ' ' then (lo.getD n, n) :: readRanges none 0 rest
    else if c == '-' then readRanges (some n) 0 rest
    else readRanges lo (16 * n + (hexDigit? c).getD 0) rest

/-- The set that the lines of a table describe. -/
def ofLines (lines : List String) : CharSet := ofRanges (lines.flatMap fun line => readRanges none 0 line.toList)

end CharSet

namespace Unicode

/-- Sets of characters under names, each as lines of hexadecimal ranges. -/
abbrev Table := List (String × List String)

/-- The set of a row of a table. -/
def lookUp (table : Table) (key : String) : Option CharSet := (table.lookup key).map CharSet.ofLines

/-- The set of the ranges of a line. -/
def codes (line : String) : CharSet := CharSet.ofLines [line]

/-- Sets of characters that are put together from others, each under all of its names. -/
abbrev NamedSets := List (List String × (Unit → CharSet))

/-- The set that goes by a name. -/
def NamedSets.get? (sets : NamedSets) (name : String) : Option CharSet :=
  (sets.find? fun row => row.1.contains name).map fun row => row.2 ()

end Unicode

end Retarget

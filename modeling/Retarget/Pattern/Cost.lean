import Retarget.Pattern.Node

/-!
# How large patterns may be

A pattern is refused when its automaton over the bytes of UTF-8 would take more than ten megabytes. `Node.cost`
estimates that size: a state takes 32 bytes, a way out of a state with several ways 4 or 8 more, and a class of
characters as many states as its byte sequences have distinct beginnings.
-/

namespace Retarget.Pattern

/-! ## Byte sequences -/

/-- A sequence of byte ranges. -/
abbrev ByteRanges := List (Nat × Nat)

/-- The bytes of a code point in UTF-8. -/
def utf8Bytes (n : Nat) : List Nat :=
  if n < 0x80 then [n]
  else if n < 0x800 then [0xC0 + n / 64, 0x80 + n % 64]
  else if n < 0x10000 then [0xE0 + n / 4096, 0x80 + n / 64 % 64, 0x80 + n % 64]
  else [0xF0 + n / 262144, 0x80 + n / 4096 % 64, 0x80 + n / 64 % 64, 0x80 + n % 64]

/-- Where to cut a range of code points so that the lower part is written with one length, if it must be cut. -/
def lengthCut? (lo hi : Nat) : Option Nat := [0x7F, 0x7FF, 0xFFFF].find? fun m => lo ≤ m && m < hi

/-- Where to cut a range of code points so that each byte of the lower part runs through a range of its own: the
last code point of the lower part. -/
def blockCut? (lo hi : Nat) : Option Nat :=
  [64, 4096, 262144].findSome? fun block =>
    if lo / block == hi / block then none
    else if lo % block != 0 then some (lo / block * block + block - 1)
    else if hi % block != block - 1 then some (hi / block * block - 1)
    else none

/-- The byte sequences of a range of code points, in ascending order. -/
def byteSequences : Nat → Nat → Nat → List ByteRanges
  | 0, _, _ => []
  | fuel + 1, lo, hi =>
    match (lengthCut? lo hi).or (if hi < 0x80 then none else blockCut? lo hi) with
    | some cut => byteSequences fuel lo cut ++ byteSequences fuel (cut + 1) hi
    | none => [(utf8Bytes lo).zip (utf8Bytes hi)]

/-- The length of the longest common beginning. -/
def commonLength : ByteRanges → ByteRanges → Nat
  | a :: as, b :: bs => if a == b then commonLength as bs + 1 else 0
  | _, _ => 0

/-- The number of distinct beginnings of sequences in ascending order, `last` being the sequence before them. -/
def beginnings : ByteRanges → List ByteRanges → Nat
  | _, [] => 0
  | last, s :: rest => s.length - commonLength last s + beginnings s rest

/-! ## Sizes -/

/-- The size of a set of characters. -/
def setCost (s : CharSet) : Nat :=
  match s.ranges with
  | [] => 32
  | [(lo, hi)] => if lo == hi then 32 * (utf8Bytes lo).length else rangesCost s
  | _ => rangesCost s
where
  /-- The size of a set of several characters. -/
  rangesCost (s : CharSet) : Nat :=
    if s.isAscii then 64 + 8 * s.ranges.length
    else
      let sequences := s.ranges.flatMap fun r => byteSequences 64 r.1 r.2
      64 + 32 * beginnings [] sequences + 4 * sequences.length

/-- The size of a node. -/
def Node.cost : Node → Nat
  | empty => 32
  | set s => setCost s
  | look _ => 32
  | seq a b => a.cost + b.cost
  | alt a b => a.cost + b.cost + 40
  | repeated min none _ inner => Nat.max min 1 * inner.cost + 72
  | repeated min (some max) _ inner => min * inner.cost + (max - min) * (inner.cost + 40) + 32
  | capture _ inner => inner.cost + 64

/-- The largest size of a pattern. -/
def costLimit : Nat := 10 * Nat.pow 2 20

end Retarget.Pattern

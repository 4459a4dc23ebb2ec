import Std.Data.HashSet
import Retarget.Pattern.Program
import Retarget.Unicode.Word

/-!
# Searching with a program

A search follows the program of a pattern through a text and prefers, at every split, the first way. A pair of
address and position that was met once is never followed again: what could be reached from it has been tried with
higher preference. So a search ends after as many rounds as there are such pairs, for every program.

* `Thread.next`: the threads that one instruction leads to, in order of preference,
* `explore`: follow threads depth first, up to the first one that accepts,
* `search`: the match that starts first and, among those, is preferred.
-/

namespace Retarget.Pattern

/-! ## Assertions -/

/-- Characters that count as word characters where Unicode is off. -/
def isAsciiWord (c : Char) : Bool := AsciiClass.word.toSet.contains c

/-- Is there a word character at the position? -/
def wordAt (unicode : Bool) (c : Option Char) : Bool :=
  c.any (if unicode then Unicode.isWord else isAsciiWord)

/-- Does the assertion hold between the characters `before` and `after`? -/
def Look.holds (before after : Option Char) : Look → Bool
  | textStart => before.isNone
  | textEnd => after.isNone
  | lineStart => before.all (· == '\n')
  | lineEnd => after.all (· == '\n')
  | crlfStart => before.all fun c => c == '\n' || (c == '\r' && after != some '\n')
  | crlfEnd => after.all fun c => c == '\r' || (c == '\n' && before != some '\r')
  | wordEdge u => wordAt u before != wordAt u after
  | notWordEdge u => wordAt u before == wordAt u after
  | wordStart u => !wordAt u before && wordAt u after
  | wordEnd u => wordAt u before && !wordAt u after
  | wordStartHalf u => !wordAt u before
  | wordEndHalf u => !wordAt u after

/-- The character before a position. -/
def before? (text : Array Char) : Nat → Option Char
  | 0 => none
  | pos + 1 => text[pos]?

/-! ## Threads -/

/-- A run in progress: its address, its position in the text and the positions it has noted, the last one first. -/
structure Thread where
  pc : Nat
  pos : Nat
  slots : List (Nat × Nat)
deriving Repr, BEq, DecidableEq

/-- The threads that the instruction of a thread leads to, in order of preference. -/
def Thread.next (program : Array Inst) (text : Array Char) (t : Thread) : List Thread :=
  match program[t.pc]? with
  | none => []
  | some .accept => []
  | some (.set s) => if text[t.pos]?.any s.contains then [{ t with pc := t.pc + 1, pos := t.pos + 1 }] else []
  | some (.look l) =>
    if l.holds (before? text t.pos) text[t.pos]? then [{ t with pc := t.pc + 1 }] else []
  | some (.save slot) => [{ t with pc := t.pc + 1, slots := (slot, t.pos) :: t.slots }]
  | some (.jump target) => [{ t with pc := target }]
  | some (.split first second) => [{ t with pc := first }, { t with pc := second }]

/-- Is the thread at the end of the program? -/
def Thread.accepts (program : Array Inst) (t : Thread) : Bool := program[t.pc]? == some .accept

/-- Pairs of address and position that have been met. -/
abbrev Seen := Std.HashSet (Nat × Nat)

/-- Follow the threads of a stack, the first one first, and leave out those at a place that was met before. -/
def explore (program : Array Inst) (text : Array Char) : Nat → List Thread → Seen → Option Thread × Seen
  | 0, _, seen => (none, seen)
  | _ + 1, [], seen => (none, seen)
  | fuel + 1, t :: stack, seen =>
    if seen.contains (t.pc, t.pos) then explore program text fuel stack seen
    else if t.accepts program then (some t, seen)
    else explore program text fuel (t.next program text ++ stack) (seen.insert (t.pc, t.pos))

/-- Rounds that suffice to empty any stack that starts with one thread: each pair is met once and leads to two
threads at most. -/
def rounds (program : Array Inst) (text : Array Char) : Nat := 2 * (program.size + 1) * (text.size + 1) + 2

/-! ## Matches -/

/-- Where a match and its groups lie, in positions between the characters of the text. `groups` holds the groups
from 1 on; one that took no part has no place. -/
structure Span where
  start : Nat
  stop : Nat
  groups : List (Option (Nat × Nat))
deriving Repr, BEq, DecidableEq

/-- The place of a group in the notes of a thread. -/
def groupAt (slots : List (Nat × Nat)) (index : Nat) : Option (Nat × Nat) := do
  some (← slots.lookup (2 * index), ← slots.lookup (2 * index + 1))

/-- Try the starts from `start` on, one after another. What failed from an earlier start is not tried again. -/
def searchFrom (program : Array Inst) (groups : Nat) (text : Array Char) : Nat → Nat → Seen → Option Span
  | 0, _, _ => none
  | tries + 1, start, seen =>
    match explore program text (rounds program text) [⟨0, start, []⟩] seen with
    | (some t, _) => some ⟨start, t.pos, (List.range groups).map fun i => groupAt t.slots (i + 1)⟩
    | (none, seen) => searchFrom program groups text tries (start + 1) seen

/-- The first match at or after a position. -/
def search (program : Array Inst) (groups : Nat) (text : Array Char) (start : Nat) : Option Span :=
  searchFrom program groups text (text.size + 1 - start) start ∅

end Retarget.Pattern

import Retarget.Pattern.Reader
import Retarget.Unicode.Digit
import Retarget.Unicode.Word
import Retarget.Unicode.Fold

/-!
# What patterns match

A `Node` says what an expression matches once the flags are resolved: which characters a step may consume, which
assertions hold where, how often a part may be repeated. `Node.ofExpr?` resolves the flags; it refuses what could
only match bytes that are no text.

* `Node.matchesEmptyOnly`, `Node.consumes`: whether a match never or always consumes a character,
* `Node.groups`: the number of the last group that captures.
-/

namespace Retarget.Pattern

/-- Where a zero-width assertion holds. -/
inductive Look
  | textStart | textEnd
  | lineStart | lineEnd
  | crlfStart | crlfEnd
  /-- A boundary of words. `unicode` says which characters count as word characters. -/
  | wordEdge (unicode : Bool) | notWordEdge (unicode : Bool)
  | wordStart (unicode : Bool) | wordEnd (unicode : Bool)
  | wordStartHalf (unicode : Bool) | wordEndHalf (unicode : Bool)
deriving Repr, BEq, DecidableEq

/-- A pattern whose flags are resolved. -/
inductive Node
  | empty
  | set (s : CharSet)
  | look (l : Look)
  | seq (a b : Node)
  | alt (a b : Node)
  | repeated (min : Nat) (max : Option Nat) (greedy : Bool) (inner : Node)
  | capture (index : Nat) (inner : Node)
deriving Repr, BEq, DecidableEq

namespace Node

/-! ## Lengths and groups -/

/-- Does the node match the empty text at most? -/
def matchesEmptyOnly : Node → Bool
  | empty => true
  | set _ => false
  | look _ => true
  | seq a b => a.matchesEmptyOnly && b.matchesEmptyOnly
  | alt a b => a.matchesEmptyOnly && b.matchesEmptyOnly
  | repeated _ _ _ inner => inner.matchesEmptyOnly
  | capture _ inner => inner.matchesEmptyOnly

/-- Does the node consume a character in every match? -/
def consumes : Node → Bool
  | empty => false
  | set s => !s.isEmpty
  | look _ => false
  | seq a b => a.consumes || b.consumes
  | alt a b => a.consumes && b.consumes
  | repeated min _ _ inner => min != 0 && inner.consumes
  | capture _ inner => inner.consumes

/-- The number of the last group that captures, 0 if none does. -/
def groups : Node → Nat
  | empty => 0
  | set _ => 0
  | look _ => 0
  | seq a b => max a.groups b.groups
  | alt a b => max a.groups b.groups
  | repeated _ _ _ inner => inner.groups
  | capture index inner => max index inner.groups

/-! ## Building nodes -/

/-- One node after another; the empty node adds nothing. -/
def andThen : Node → Node → Node
  | empty, b => b
  | a, empty => a
  | a, b => seq a b

/-- One node after another. -/
def concat : List Node → Node
  | [] => empty
  | [a] => a
  | a :: rest => a.andThen (concat rest)

/-- A choice, the first nodes being preferred. -/
def choice : List Node → Node
  | [] => set .empty
  | [a] => a
  | a :: rest => alt a (choice rest)

/-- A repetition. What matches the empty text at most is repeated once at most, no repetition at all is the empty
node, and exactly one repetition is the node itself. -/
def repetition (min : Nat) (max : Option Nat) (greedy : Bool) (inner : Node) : Node :=
  let (min, max) := if inner.matchesEmptyOnly then (Nat.min min 1, some (Nat.min (max.getD 1) 1)) else (min, max)
  if min == 0 && max == some 0 then empty
  else if min == 1 && max == some 1 then inner
  else repeated min max greedy inner

end Node

/-! ## Flags -/

/-- The flags in force at a place of a pattern. -/
structure Flags where
  ignoreCase : Bool := false
  multiLine : Bool := false
  dotAll : Bool := false
  swapGreed : Bool := false
  unicode : Bool := true
  crlf : Bool := false
deriving Repr, BEq

/-- The flags in force after a change. -/
def Flags.change (f : Flags) (c : FlagChange) : Flags where
  ignoreCase := (c.state? .ignoreCase).getD f.ignoreCase
  multiLine := (c.state? .multiLine).getD f.multiLine
  dotAll := (c.state? .dotAll).getD f.dotAll
  swapGreed := (c.state? .swapGreed).getD f.swapGreed
  unicode := (c.state? .unicode).getD f.unicode
  crlf := (c.state? .crlf).getD f.crlf

/-! ## Classes -/

/-- Add the other case of the ASCII letters in a set. -/
def foldAscii (s : CharSet) : CharSet :=
  let shift := fun (lo hi : Nat) (by' : Int) =>
    (s.inter ⟨[(lo, hi)]⟩).ranges.map fun r => ((r.1 + by').toNat, (r.2 + by').toNat)
  .ofRanges (s.ranges ++ shift 65 90 32 ++ shift 97 122 (-32))

namespace Flags

variable (f : Flags)

/-- The set with the other case of its members, where case is ignored. -/
def fold (s : CharSet) : CharSet :=
  if f.ignoreCase then if f.unicode then Unicode.foldClose s else foldAscii s else s

/-- The complement of a set: among the characters, or among the bytes where Unicode is off. -/
def compl (s : CharSet) : CharSet :=
  if f.unicode then s.compl else ⟨CharSet.gaps 255 0 s.ranges⟩

def negateIf (negated : Bool) (s : CharSet) : CharSet := if negated then f.compl s else s

/-- The intersection of two sets. -/
def inter (s t : CharSet) : CharSet := f.compl (f.compl s |>.union (f.compl t))

def letterSet (k : LetterClass) : CharSet :=
  match k, f.unicode with
  | .digit, true => Unicode.digit
  | .digit, false => AsciiClass.digit.toSet
  | .space, true => Unicode.blank
  | .space, false => AsciiClass.space.toSet
  | .word, true => Unicode.word
  | .word, false => AsciiClass.word.toSet

/-- The set of a property, which needs Unicode. -/
def propertySet? (p : PropertyName) : Option CharSet :=
  if !f.unicode then none
  else match p with
    | .plain name => Unicode.byName? name
    | .valued name value => Unicode.byValue? name value

/-- The code that a literal stands for inside a class. Where Unicode is off it is a byte. -/
def classCode? (l : Literal) : Option Nat :=
  if f.unicode || l.byte || l.char.toNat < 128 then some l.char.toNat else none

mutual

/-- The set that the inside of a class stands for. -/
def classSet? : ClassExpr → Option CharSet
  | .literal l => (f.classCode? l).map .ofCode
  | .range lo hi => do some (.ofRanges [(← f.classCode? lo, ← f.classCode? hi)])
  | .letter k negated => some (f.negateIf negated (f.letterSet k))
  | .ascii k negated => some (f.negateIf negated (f.fold k.toSet))
  | .property p negated => (f.propertySet? p).map fun s => f.negateIf negated (f.fold s)
  | .union items => classSets? items
  | .bracket negated inner => (classSet? inner).map fun s => f.negateIf negated (f.fold s)
  | .op kind lhs rhs => do
    let l := f.fold (← classSet? lhs)
    let r := f.fold (← classSet? rhs)
    match kind with
    | .inter => some (f.inter l r)
    | .diff => some (f.inter l (f.compl r))
    | .symmDiff => some (f.inter (l.union r) (f.compl (f.inter l r)))

/-- The union of the sets of some members. -/
def classSets? : List ClassExpr → Option CharSet
  | [] => some .empty
  | x :: xs => do some ((← classSet? x).union (← classSets? xs))

end

/-- A class as a node. Where Unicode is off it must hold ASCII only, as any other byte is no text by itself. -/
def classNode? (s : CharSet) : Option Node := if f.unicode || s.isAscii then some (.set s) else none

/-! ## Expressions -/

def literalNode? (l : Literal) : Option Node :=
  if !f.unicode && l.byte && 128 ≤ l.char.toNat then none
  else if f.ignoreCase && (f.unicode || l.char.toNat < 128) then some (.set (f.fold (.singleton l.char)))
  else some (.set (.singleton l.char))

def dotNode? : Option Node :=
  if !f.unicode then none
  else if f.dotAll then some (.set .all)
  else if f.crlf then some (.set (CharSet.compl ⟨[(10, 10), (13, 13)]⟩))
  else some (.set (CharSet.compl ⟨[(10, 10)]⟩))

def look : Assertion → Look
  | .lineStart => if f.multiLine then if f.crlf then .crlfStart else .lineStart else .textStart
  | .lineEnd => if f.multiLine then if f.crlf then .crlfEnd else .lineEnd else .textEnd
  | .textStart => .textStart
  | .textEnd => .textEnd
  | .wordEdge => .wordEdge f.unicode
  | .notWordEdge => .notWordEdge f.unicode
  | .wordStart => .wordStart f.unicode
  | .wordEnd => .wordEnd f.unicode
  | .wordStartHalf => .wordStartHalf f.unicode
  | .wordEndHalf => .wordEndHalf f.unicode

end Flags

mutual

/-- The node of an expression under the flags in force, and the flags in force after it. -/
def Expr.toNode? (f : Flags) : Expr → Option (Node × Flags)
  | .empty => some (.empty, f)
  | .flags c => some (.empty, f.change c)
  | .literal l => (f.literalNode? l).map (·, f)
  | .dot => f.dotNode?.map (·, f)
  | .assertion a => some (.look (f.look a), f)
  | .letter k negated => (f.classNode? (f.negateIf negated (f.letterSet k))).map (·, f)
  | .property p negated => (f.propertySet? p).map fun s => (.set (f.negateIf negated (f.fold s)), f)
  | .bracket negated inner => do
    let s ← f.classSet? inner
    (f.classNode? (f.negateIf negated (f.fold s))).map (·, f)
  | .repeated min max greedy inner => do
    let (n, f') ← inner.toNode? f
    some (.repetition min max (greedy != f'.swapGreed) n, f')
  | .group (.capture index) inner => do
    let (n, _) ← inner.toNode? f
    some (.capture index n, f)
  | .group (.plain c) inner => do
    let (n, _) ← inner.toNode? (f.change c)
    some (n, f)
  | .concat items => do
    let (ns, f) ← Expr.toNodes? f items
    some (.concat ns, f)
  | .alternation items => do
    let (ns, f) ← Expr.toNodes? f items
    some (.choice ns, f)

/-- The nodes of expressions that stand one after another, each under the flags that the one before leaves. -/
def Expr.toNodes? (f : Flags) : List Expr → Option (List Node × Flags)
  | [] => some ([], f)
  | x :: xs => do
    let (n, f) ← x.toNode? f
    let (ns, f) ← Expr.toNodes? f xs
    some (n :: ns, f)

end

/-- The node of a pattern. -/
def Node.ofExpr? (e : Expr) : Option Node := (e.toNode? {}).map Prod.fst

end Retarget.Pattern

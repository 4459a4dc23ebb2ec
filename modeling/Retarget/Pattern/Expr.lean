import Retarget.Unicode.CharSet

/-!
# Pattern expressions

A pattern as it is written: literals, assertions, character classes, repetitions, groups and flags. What an
expression matches depends on the flags in force where it stands, which `Pattern.Node` resolves.

* `ClassExpr`: the inside of a bracketed class,
* `Expr`: a whole pattern,
* `Expr.depth`: how deeply its parts are nested.
-/

namespace Retarget.Pattern

/-- A switch that a group `(?flags)` turns on or off. -/
inductive Flag
  | ignoreCase | multiLine | dotAll | swapGreed | unicode | crlf | verbose
deriving Repr, BEq, DecidableEq

/-- The flags that a group turns on and those that it turns off. -/
structure FlagChange where
  on : List Flag
  off : List Flag
deriving Repr, BEq

/-- What the change says about a flag, if anything. -/
def FlagChange.state? (f : FlagChange) (flag : Flag) : Option Bool :=
  if f.on.contains flag then some true else if f.off.contains flag then some false else none

/-- A zero-width assertion as written. -/
inductive Assertion
  | lineStart | lineEnd | textStart | textEnd
  | wordEdge | notWordEdge | wordStart | wordEnd | wordStartHalf | wordEndHalf
deriving Repr, BEq, DecidableEq

/-- The three classes with a letter of their own. -/
inductive LetterClass
  | digit | space | word
deriving Repr, BEq, DecidableEq

/-- A class of ASCII characters by name, as in `[:alpha:]`. -/
inductive AsciiClass
  | alnum | alpha | ascii | blank | cntrl | digit | graph | lower | print | punct | space | upper | word | xdigit
deriving Repr, BEq, DecidableEq

namespace AsciiClass

def ofName? : String → Option AsciiClass
  | "alnum" => some alnum | "alpha" => some alpha | "ascii" => some ascii | "blank" => some blank
  | "cntrl" => some cntrl | "digit" => some digit | "graph" => some graph | "lower" => some lower
  | "print" => some print | "punct" => some punct | "space" => some space | "upper" => some upper
  | "word" => some word | "xdigit" => some xdigit | _ => none

/-- The characters of the class. -/
def toSet : AsciiClass → CharSet
  | alnum => ⟨[(48, 57), (65, 90), (97, 122)]⟩
  | alpha => ⟨[(65, 90), (97, 122)]⟩
  | ascii => ⟨[(0, 127)]⟩
  | blank => ⟨[(9, 9), (32, 32)]⟩
  | cntrl => ⟨[(0, 31), (127, 127)]⟩
  | digit => ⟨[(48, 57)]⟩
  | graph => ⟨[(33, 126)]⟩
  | lower => ⟨[(97, 122)]⟩
  | print => ⟨[(32, 126)]⟩
  | punct => ⟨[(33, 47), (58, 64), (91, 96), (123, 126)]⟩
  | space => ⟨[(9, 13), (32, 32)]⟩
  | upper => ⟨[(65, 90)]⟩
  | word => ⟨[(48, 57), (65, 90), (95, 95), (97, 122)]⟩
  | xdigit => ⟨[(48, 57), (65, 70), (97, 102)]⟩

end AsciiClass

/-- A character property as written after `\p`. -/
inductive PropertyName
  | plain (name : String)
  | valued (name value : String)
deriving Repr, BEq

/-- A literal character. `byte` marks the form `\xNN`, which stands for a byte where Unicode is off. -/
structure Literal where
  char : Char
  byte : Bool
deriving Repr, BEq

/-- How two classes are combined inside brackets. -/
inductive ClassOp
  | inter | diff | symmDiff
deriving Repr, BEq, DecidableEq

/-- The inside of a bracketed class. -/
inductive ClassExpr
  | literal (l : Literal)
  | range (lo hi : Literal)
  | letter (k : LetterClass) (negated : Bool)
  | ascii (k : AsciiClass) (negated : Bool)
  | property (p : PropertyName) (negated : Bool)
  | union (items : List ClassExpr)
  | bracket (negated : Bool) (inner : ClassExpr)
  | op (kind : ClassOp) (lhs rhs : ClassExpr)
deriving Repr

/-- The union of items, which is the item itself if there is just one. -/
def ClassExpr.ofItems : List ClassExpr → ClassExpr
  | [x] => x
  | xs => .union xs

/-- How a group takes part in a match. -/
inductive GroupKind
  | capture (index : Nat)
  | plain (flags : FlagChange)
deriving Repr, BEq

/-- A pattern as written. -/
inductive Expr
  | empty
  | flags (f : FlagChange)
  | literal (l : Literal)
  | dot
  | assertion (a : Assertion)
  | letter (k : LetterClass) (negated : Bool)
  | property (p : PropertyName) (negated : Bool)
  | bracket (negated : Bool) (inner : ClassExpr)
  | repeated (min : Nat) (max : Option Nat) (greedy : Bool) (inner : Expr)
  | group (kind : GroupKind) (inner : Expr)
  | concat (items : List Expr)
  | alternation (items : List Expr)
deriving Repr

namespace Expr

/-- The concatenation of items, without a wrapper for none or one. -/
def ofConcat : List Expr → Expr
  | [] => .empty
  | [x] => x
  | xs => .concat xs

/-- The choice between items, without a wrapper for one. -/
def ofAlternation : List Expr → Expr
  | [x] => x
  | xs => .alternation xs

end Expr

mutual

/-- How deeply class expressions are nested. -/
def ClassExpr.depth : ClassExpr → Nat
  | .union [] => 0
  | .union items => 1 + ClassExpr.depths items
  | .bracket _ inner => 1 + inner.depth
  | .op _ lhs rhs => 1 + max lhs.depth rhs.depth
  | _ => 0

/-- The greatest depth of some class expressions. -/
def ClassExpr.depths : List ClassExpr → Nat
  | [] => 0
  | x :: xs => max x.depth (ClassExpr.depths xs)

end

mutual

/-- How deeply the parts of a pattern are nested. -/
def Expr.depth : Expr → Nat
  | .bracket _ inner => 1 + inner.depth
  | .repeated _ _ _ inner => 1 + inner.depth
  | .group _ inner => 1 + inner.depth
  | .concat items => 1 + Expr.depths items
  | .alternation items => 1 + Expr.depths items
  | _ => 0

/-- The greatest depth of some patterns. -/
def Expr.depths : List Expr → Nat
  | [] => 0
  | x :: xs => max x.depth (Expr.depths xs)

end

end Retarget.Pattern

import Retarget.Pattern.Expr
import Retarget.Unicode.Blank
import Retarget.Unicode.Property

/-!
# Reading patterns

`Expr.read?` reads the text of a pattern, and gives nothing when the text is not a pattern. Reading goes from left
to right with one stack of open groups; each round consumes at least one character, so the length of the text
bounds the number of rounds.

With the flag `x` in force, white space and comments between the parts of a pattern are skipped (`skipBlank`).
-/

namespace Retarget.Pattern

open Retarget.Unicode (isBlank)

namespace Reader

/-! ## Characters -/

/-- Drop white space and comments; `inComment` says whether the text starts inside a comment. -/
def dropBlank : Bool → List Char → List Char
  | _, [] => []
  | true, c :: rest => dropBlank (c != '\n') rest
  | false, c :: rest =>
    if isBlank c then dropBlank false rest else if c == '#' then dropBlank true rest else c :: rest

/-- Drop white space and comments where the flag `x` is in force. -/
def skipBlank (verbose : Bool) (cs : List Char) : List Char := if verbose then dropBlank false cs else cs

/-- Characters that have a meaning of their own somewhere in a pattern. -/
def isMeta (c : Char) : Bool := "\\.+*?()|[]\x7b\x7d^$#&-~".toList.contains c

/-- May the character be escaped to stand for itself? -/
def isEscapable (c : Char) : Bool :=
  isMeta c || (c.toNat < 128 && !c.isAlphanum && c != '<' && c != '>')

/-- May the character stand in the name of a group? -/
def isNameChar (first : Bool) (c : Char) : Bool :=
  let alphabetic := (Unicode.trait? "alpha").any (·.contains c)
  let numeric := (Unicode.category? "n").any (·.contains c)
  if first then c == '_' || alphabetic
  else c == '_' || c == '.' || c == '[' || c == ']' || alphabetic || numeric

/-! ## Numbers -/

/-- Read decimal digits, with blanks between them where the flag `x` is in force. -/
def takeDigits (verbose : Bool) : Nat → List Char → List Char × List Char
  | fuel + 1, c :: rest =>
    if c.isDigit then
      let (ds, after) := takeDigits verbose fuel (skipBlank verbose rest)
      (c :: ds, after)
    else ([], c :: rest)
  | _, cs => ([], cs)

/-- The number that decimal digits write. -/
def decimalValue (ds : List Char) : Nat := ds.foldl (fun n d => 10 * n + (d.toNat - 48)) 0

/-- A decimal number below 2 ^ 32 with white space around it. `none` in the first place means that there are no
digits. -/
def readDecimal (verbose : Bool) (cs : List Char) : Option (Option Nat × List Char) :=
  let cs := cs.dropWhile isBlank
  let (ds, rest) := takeDigits verbose cs.length cs
  let rest := skipBlank verbose (rest.dropWhile isBlank)
  if ds.isEmpty then some (none, rest)
  else if decimalValue ds < Nat.pow 2 32 then some (some (decimalValue ds), rest)
  else none

/-- The number that hexadecimal digits write, if they are such digits. -/
def hexValue? (ds : List Char) : Option Nat :=
  ds.foldlM (fun n d => (CharSet.hexDigit? d).map (16 * n + ·)) 0

/-- The character with a code point, if there is one. -/
def charOfCode? (n : Nat) : Option Char :=
  if n < 0xD800 ∨ (0xDFFF < n ∧ n < 0x110000) then some (Char.ofNat n) else none

/-- Read exactly `n` characters, with blanks between them where the flag `x` is in force. -/
def takeExactly (verbose : Bool) : Nat → List Char → Option (List Char × List Char)
  | 0, cs => some ([], cs)
  | _ + 1, [] => none
  | n + 1, c :: rest => (takeExactly verbose n (skipBlank verbose rest)).map fun (ds, after) => (c :: ds, after)

/-- Read up to a closing brace, which is dropped. -/
def takeBraced (verbose : Bool) : Nat → List Char → Option (List Char × List Char)
  | fuel + 1, c :: rest =>
    if c == '\x7d' then some ([], rest)
    else (takeBraced verbose fuel (skipBlank verbose rest)).map fun (ds, after) => (c :: ds, after)
  | _, _ => none

/-- Read the digits after `\x`, `\u` or `\U`, `digits` being how many there are without braces. -/
def readHex (verbose : Bool) (digits : Nat) (cs : List Char) : Option (Literal × List Char) :=
  match skipBlank verbose cs with
  | '\x7b' :: rest => do
    let (ds, after) ← takeBraced verbose (rest.length + 1) (skipBlank verbose rest)
    if ds.isEmpty then none
    else
      let c ← (← hexValue? ds) |> charOfCode?
      some (⟨c, false⟩, skipBlank verbose after)
  | rest => do
    let (ds, after) ← takeExactly verbose digits rest
    let c ← (← hexValue? ds) |> charOfCode?
    some (⟨c, digits == 2⟩, after)

/-! ## Escapes -/

/-- What a single element of a pattern or of a class is. -/
inductive Atom
  | literal (l : Literal)
  | dot
  | assertion (a : Assertion)
  | letter (k : LetterClass) (negated : Bool)
  | property (p : PropertyName) (negated : Bool)

/-- The parts before and after the first occurrence of a text. -/
def cutAt (sep : List Char) : List Char → List Char → Option (List Char × List Char)
  | _, [] => none
  | before, c :: rest =>
    if sep.isPrefixOf (c :: rest) then some (before.reverse, (c :: rest).drop sep.length)
    else cutAt sep (c :: before) rest

/-- Read the property after `\p` or `\P`. The operator `!=` negates once more. -/
def readProperty (verbose negated : Bool) (cs : List Char) : Option (Atom × List Char) :=
  match skipBlank verbose cs with
  | [] => none
  | '\x7b' :: rest => do
    let (name, after) ← takeBraced verbose (rest.length + 1) (skipBlank verbose rest)
    let valued := fun (parts : List Char × List Char) =>
      PropertyName.valued (String.ofList parts.1) (String.ofList parts.2)
    match cutAt ['!', '='] [] name with
    | some parts => some (.property (valued parts) (!negated), after)
    | none =>
      match (cutAt [':'] [] name).or (cutAt ['='] [] name) with
      | some parts => some (.property (valued parts) negated, after)
      | none => some (.property (.plain (String.ofList name)) negated, after)
  | c :: rest =>
    if c == '\\' then none
    else some (.property (.plain (String.singleton c)) negated, skipBlank verbose rest)

/-- May the character stand in the name of a word boundary? -/
def isBoundaryChar (c : Char) : Bool := c.isAlpha || c == '-'

/-- Read the name of a word boundary, with blanks between its characters where the flag `x` is in force. -/
def takeBoundary (verbose : Bool) : Nat → List Char → List Char × List Char
  | fuel + 1, c :: rest =>
    if isBoundaryChar c then
      let (ds, after) := takeBoundary verbose fuel (skipBlank verbose rest)
      (c :: ds, after)
    else ([], c :: rest)
  | _, cs => ([], cs)

/-- Read what follows `\b`: a named boundary in braces, or nothing, in which case a brace counts repetitions. -/
def readWordEdge (verbose : Bool) (cs : List Char) : Option (Assertion × List Char) :=
  match cs with
  | '\x7b' :: rest =>
    match skipBlank verbose rest with
    | [] => none
    | c :: inner =>
      if isBoundaryChar c then
        let (name, after) := takeBoundary verbose (inner.length + 1) (c :: inner)
        match after with
        | '\x7d' :: after =>
          match String.ofList name with
          | "start" => some (.wordStart, after)
          | "end" => some (.wordEnd, after)
          | "start-half" => some (.wordStartHalf, after)
          | "end-half" => some (.wordEndHalf, after)
          | _ => none
        | _ => none
      else some (.wordEdge, cs)
  | _ => some (.wordEdge, cs)

/-- Read what follows a backslash. -/
def readEscape (verbose : Bool) : List Char → Option (Atom × List Char)
  | [] => none
  | c :: rest =>
    let special := fun (n : Nat) => some (Atom.literal ⟨Char.ofNat n, false⟩, rest)
    if c.isDigit then none
    else if c == 'x' then (readHex verbose 2 rest).map fun (l, after) => (.literal l, after)
    else if c == 'u' then (readHex verbose 4 rest).map fun (l, after) => (.literal l, after)
    else if c == 'U' then (readHex verbose 8 rest).map fun (l, after) => (.literal l, after)
    else if c == 'p' then readProperty verbose false rest
    else if c == 'P' then readProperty verbose true rest
    else if c == 'd' then some (.letter .digit false, rest)
    else if c == 'D' then some (.letter .digit true, rest)
    else if c == 's' then some (.letter .space false, rest)
    else if c == 'S' then some (.letter .space true, rest)
    else if c == 'w' then some (.letter .word false, rest)
    else if c == 'W' then some (.letter .word true, rest)
    else if isEscapable c then some (.literal ⟨c, false⟩, rest)
    else if c == 'a' then special 7
    else if c == 'f' then special 12
    else if c == 't' then special 9
    else if c == 'n' then special 10
    else if c == 'r' then special 13
    else if c == 'v' then special 11
    else if c == 'A' then some (.assertion .textStart, rest)
    else if c == 'z' then some (.assertion .textEnd, rest)
    else if c == 'b' then (readWordEdge verbose rest).map fun (a, after) => (.assertion a, after)
    else if c == 'B' then some (.assertion .notWordEdge, rest)
    else if c == '<' then some (.assertion .wordStart, rest)
    else if c == '>' then some (.assertion .wordEnd, rest)
    else none

/-! ## Classes -/

/-- Read one element inside brackets. -/
def readClassAtom (verbose : Bool) : List Char → Option (Atom × List Char)
  | [] => none
  | '\\' :: rest => readEscape verbose rest
  | c :: rest => some (.literal ⟨c, false⟩, rest)

/-- An element as a member of a class. Assertions and the dot are no members. -/
def Atom.toClass? : Atom → Option ClassExpr
  | .literal l => some (.literal l)
  | .letter k negated => some (.letter k negated)
  | .property p negated => some (.property p negated)
  | _ => none

/-- Read a single member or a range of members. A dash before the closing bracket or before another dash does not
make a range. -/
def readClassItem (verbose : Bool) (cs : List Char) : Option (ClassExpr × List Char) := do
  let (first, rest) ← readClassAtom verbose cs
  match skipBlank verbose rest with
  | [] => none
  | '-' :: after =>
    match skipBlank verbose after with
    | [] => none
    | ']' :: _ => (first.toClass?).map fun m => (m, '-' :: after)
    | '-' :: _ => (first.toClass?).map fun m => (m, '-' :: after)
    | cs' =>
      let (last, rest) ← readClassAtom verbose cs'
      match first, last with
      | .literal lo, .literal hi => if lo.char ≤ hi.char then some (.range lo hi, rest) else none
      | _, _ => none
  | rest => (first.toClass?).map fun m => (m, rest)

/-- Read an ASCII class after its opening bracket; nothing if the text is no such class. -/
def readAsciiClass : List Char → Option (ClassExpr × List Char)
  | ':' :: rest =>
    let (negated, rest) := match rest with
      | '^' :: after => (true, after)
      | _ => (false, rest)
    match rest.dropWhile (· != ':') with
    | ':' :: ']' :: after =>
      (AsciiClass.ofName? (String.ofList (rest.takeWhile (· != ':')))).map fun k => (.ascii k negated, after)
    | _ => none
  | _ => none

/-- Read the start of a class after its opening bracket: whether it is negated, and the members that come before
the first element proper. Leading dashes stand for themselves, and so does a closing bracket in the first place. -/
def openClass (verbose : Bool) (cs : List Char) : Option (Bool × List ClassExpr × List Char) :=
  let cs := skipBlank verbose cs
  let (negated, cs) := match cs with
    | '^' :: rest => (true, skipBlank verbose rest)
    | _ => (false, cs)
  let rec dashes : Nat → List ClassExpr → List Char → List ClassExpr × List Char
    | fuel + 1, acc, '-' :: rest => dashes fuel (.literal ⟨'-', false⟩ :: acc) (skipBlank verbose rest)
    | _, acc, rest => (acc, rest)
  let (members, cs) := dashes cs.length [] cs
  match members, cs with
  | [], ']' :: rest => some (negated, [.literal ⟨']', false⟩], skipBlank verbose rest)
  | _, [] => none
  | _, _ => some (negated, members, cs)

/-- Combine a pending left side with the right side that is now complete. -/
def closeOp (pending : Option (ClassOp × ClassExpr)) (rhs : ClassExpr) : ClassExpr :=
  match pending with
  | none => rhs
  | some (op, lhs) => .op op lhs rhs

/-- Read the members of a class up to its closing bracket, `members` being those read so far in reverse. -/
def readClass (verbose : Bool) :
    Nat → Option (ClassOp × ClassExpr) → List ClassExpr → List Char → Option (ClassExpr × List Char)
  | 0, _, _, _ => none
  | fuel + 1, pending, members, cs =>
    let continueWith := fun (op : ClassOp) (rest : List Char) =>
      readClass verbose fuel (some (op, closeOp pending (.ofItems members.reverse))) [] rest
    match skipBlank verbose cs with
    | [] => none
    | ']' :: rest => some (closeOp pending (.ofItems members.reverse), rest)
    | '&' :: '&' :: rest => continueWith .inter rest
    | '-' :: '-' :: rest => continueWith .diff rest
    | '~' :: '~' :: rest => continueWith .symmDiff rest
    | '[' :: rest =>
      match readAsciiClass rest with
      | some (m, after) => readClass verbose fuel pending (m :: members) after
      | none => do
        let (negated, first, inner) ← openClass verbose rest
        let (cls, after) ← readClass verbose fuel none first inner
        readClass verbose fuel pending (.bracket negated cls :: members) after
    | cs => do
      let (m, after) ← readClassItem verbose cs
      readClass verbose fuel pending (m :: members) after

/-! ## Groups -/

/-- Read the flags of a group up to the character that ends them. `minus` says whether the sign that turns flags
off has been read, and `last` whether it was the last thing read. -/
def readFlags (minus last : Bool) (f : FlagChange) : List Char → Option (FlagChange × Char × List Char)
  | [] => none
  | c :: rest =>
    if c == ':' || c == ')' then if last then none else some (f, c, rest)
    else if c == '-' then if minus then none else readFlags true true f rest
    else
      let flag? : Option Flag := match c with
        | 'i' => some .ignoreCase | 'm' => some .multiLine | 's' => some .dotAll | 'U' => some .swapGreed
        | 'u' => some .unicode | 'R' => some .crlf | 'x' => some .verbose | _ => none
      match flag? with
      | none => none
      | some flag =>
        if f.on.contains flag || f.off.contains flag then none
        else if minus then readFlags minus false { f with off := flag :: f.off } rest
        else readFlags minus false { f with on := flag :: f.on } rest

/-- Read the name of a group up to its closing angle. -/
def readName : Bool → List Char → Option (List Char × List Char)
  | _, [] => none
  | first, c :: rest =>
    if c == '>' then some ([], rest)
    else if isNameChar first c then (readName false rest).map fun (name, after) => (c :: name, after)
    else none

/-- What stands after an opening parenthesis. -/
inductive Opening
  /-- A change of flags up to the end of the group that it stands in. -/
  | flags (f : FlagChange)
  /-- A group that captures, with its name if it has one. -/
  | capture (name : Option String)
  /-- A group that does not capture. -/
  | plain (f : FlagChange)

/-- Read what stands after an opening parenthesis. -/
def readOpening (verbose : Bool) (cs : List Char) : Option (Opening × List Char) :=
  let named := fun (rest : List Char) => do
    let (name, after) ← readName true rest
    if name.isEmpty then none else some (Opening.capture (some (String.ofList name)), after)
  match skipBlank verbose cs with
  | '?' :: '=' :: _ => none
  | '?' :: '!' :: _ => none
  | '?' :: '<' :: '=' :: _ => none
  | '?' :: '<' :: '!' :: _ => none
  | '?' :: 'P' :: '<' :: rest => named rest
  | '?' :: '<' :: rest => named rest
  | '?' :: rest => do
    let (f, ending, after) ← readFlags false false ⟨[], []⟩ rest
    if ending == ')' then
      if f.on.isEmpty && f.off.isEmpty then none else some (.flags f, after)
    else some (.plain f, after)
  | rest => some (.capture none, rest)

/-! ## Whole patterns -/

/-- A group that is still open: what stands before it in its own group, and how it takes part in a match. -/
structure Frame where
  items : List Expr
  branches : List Expr
  kind : GroupKind
  verbose : Bool

/-- What has been read so far. `items` are the parts of the current branch and `branches` the finished branches of
the current group, both in reverse. -/
structure State where
  verbose : Bool
  groups : Nat
  names : List String
  items : List Expr
  branches : List Expr
  stack : List Frame

/-- The expression of the current group. -/
def State.close (s : State) : Expr := .ofAlternation ((Expr.ofConcat s.items.reverse :: s.branches).reverse)

def State.push (s : State) (e : Expr) : State := { s with items := e :: s.items }

/-- Apply a repetition to the last part read. There must be one, and it must not be a change of flags. -/
def State.repeatLast (s : State) (min : Nat) (max : Option Nat) (greedy : Bool) : Option State :=
  match s.items with
  | [] => none
  | .empty :: _ => none
  | .flags _ :: _ => none
  | e :: rest => some { s with items := .repeated min max greedy e :: rest }

/-- Read the counts of a repetition after its opening brace: least and greatest number, greediness. -/
def readCounts (verbose : Bool) (cs : List Char) : Option ((Nat × Option Nat × Bool) × List Char) := do
  let cs := skipBlank verbose cs
  if cs.isEmpty then none
  else
    let (low, rest) ← readDecimal verbose cs
    let low ← low
    let (high, rest) ← match rest with
      | ',' :: after =>
        match skipBlank verbose after with
        | [] => none
        | '\x7d' :: after => some (none, '\x7d' :: after)
        | after => do
          let (n, after) ← readDecimal verbose after
          some (some (← n), after)
      | _ => some (some low, rest)
    match rest with
    | '\x7d' :: after =>
      let (greedy, after) := match skipBlank verbose after with
        | '?' :: after => (false, after)
        | after => (true, after)
      if high.all (low ≤ ·) then some ((low, high, greedy), after) else none
    | _ => none

/-- Is the repetition sign followed by a question mark? -/
def readGreed : List Char → Bool × List Char
  | '?' :: rest => (false, rest)
  | rest => (true, rest)

def Atom.toExpr : Atom → Expr
  | .literal l => .literal l
  | .dot => .dot
  | .assertion a => .assertion a
  | .letter k negated => .letter k negated
  | .property p negated => .property p negated

/-- Read the next part of a pattern. -/
def step (s : State) : List Char → Option (State × List Char)
  | [] => none
  | '(' :: rest => do
    match ← readOpening s.verbose rest with
    | (.flags f, after) =>
      some ({ s with verbose := (f.state? .verbose).getD s.verbose, items := .flags f :: s.items }, after)
    | (.plain f, after) =>
      some ({ s with
        verbose := (f.state? .verbose).getD s.verbose, items := [], branches := [],
        stack := ⟨s.items, s.branches, .plain f, s.verbose⟩ :: s.stack }, after)
    | (.capture name, after) =>
      if name.any s.names.contains then none
      else
        some ({ s with
          groups := s.groups + 1, names := name.toList ++ s.names, items := [], branches := [],
          stack := ⟨s.items, s.branches, .capture (s.groups + 1), s.verbose⟩ :: s.stack }, after)
  | ')' :: rest =>
    match s.stack with
    | [] => none
    | f :: stack =>
      some ({ s with
        verbose := f.verbose, items := .group f.kind s.close :: f.items, branches := f.branches,
        stack := stack }, rest)
  | '|' :: rest => some ({ s with items := [], branches := .ofConcat s.items.reverse :: s.branches }, rest)
  | '[' :: rest => do
    let (negated, first, inner) ← openClass s.verbose rest
    let (cls, after) ← readClass s.verbose (inner.length + 1) none first inner
    some (s.push (.bracket negated cls), after)
  | '?' :: rest => let (g, after) := readGreed rest; (s.repeatLast 0 (some 1) g).map (·, after)
  | '*' :: rest => let (g, after) := readGreed rest; (s.repeatLast 0 none g).map (·, after)
  | '+' :: rest => let (g, after) := readGreed rest; (s.repeatLast 1 none g).map (·, after)
  | '\x7b' :: rest => do
    let ((low, high, g), after) ← readCounts s.verbose rest
    (s.repeatLast low high g).map (·, after)
  | '\\' :: rest => (readEscape s.verbose rest).map fun (a, after) => (s.push a.toExpr, after)
  | '.' :: rest => some (s.push .dot, rest)
  | '^' :: rest => some (s.push (.assertion .lineStart), rest)
  | '$' :: rest => some (s.push (.assertion .lineEnd), rest)
  | c :: rest => some (s.push (.literal ⟨c, false⟩), rest)

/-- Read parts until the text ends. -/
def loop : Nat → State → List Char → Option State
  | 0, _, _ => none
  | fuel + 1, s, cs =>
    match skipBlank s.verbose cs with
    | [] => some s
    | cs => (step s cs).bind fun (s, rest) => loop fuel s rest

end Reader

/-- How deeply a pattern may be nested. -/
def depthLimit : Nat := 250

/-- Read the text of a pattern. -/
def Expr.read? (text : String) : Option Expr := do
  let cs := text.toList
  let s ← Reader.loop (cs.length + 1) ⟨false, 0, [], [], [], []⟩ cs
  let e := s.close
  if s.stack.isEmpty && e.depth ≤ depthLimit then some e else none

end Retarget.Pattern

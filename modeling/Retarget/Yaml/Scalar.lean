import Retarget.Yaml.Cursor
import Retarget.Unicode.CharSet

/-!
# Scalars of YAML

The four ways of writing a text: plain, in single or double quotes, and as a block. Line breaks inside plain and
quoted scalars are folded: one break is a space, and further ones are kept. Each reader gives the text and the place
after it, or nothing if the scalar is written wrongly.
-/

namespace Retarget.Yaml

/-- How a scalar is written. -/
inductive Style
  | plain | single | double | literal | folded
deriving Repr, BEq, DecidableEq

/-- White space that was read but not yet used: blanks within a line, the first break and the breaks after it. -/
structure Gap where
  spaces : List Char := []
  first : List Char := []
  more : List Char := []
  /-- Has a break been met? -/
  broken : Bool := false

/-- What a gap contributes to a scalar. -/
def Gap.fold (g : Gap) : List Char :=
  if !g.broken then g.spaces
  else if g.first.head? == some '\n' then if g.more.isEmpty then [' '] else g.more
  else g.first ++ g.more

/-- Read blanks and breaks. In a plain scalar, a tab before column `indent` of a new line is refused. -/
def readGap (indent : Option Int) : Nat → Gap → Cursor → Option (Gap × Cursor)
  | 0, g, c => some (g, c)
  | fuel + 1, g, c =>
    match c.peek? with
    | none => some (g, c)
    | some ch =>
      if isSpace ch then
        if g.broken && ch == '\t' && indent.any (fun i => (c.column : Int) < i) then none
        else readGap indent fuel (if g.broken then g else { g with spaces := g.spaces ++ [ch] }) c.skip
      else if isBreak ch then
        let g := if g.broken then { g with more := g.more ++ c.breakText }
          else { g with spaces := [], first := c.breakText, broken := true }
        readGap indent fuel g c.skip
      else some (g, c)

/-! ## Plain scalars -/

/-- Does an indicator end a plain scalar here? -/
def endsPlain (flow : Bool) (c : Cursor) : Bool :=
  (c.at? ':' && c.blankAt 1) || (flow && c.peek?.any fun ch => ",[]\x7b\x7d".toList.contains ch)

/-- Is there a colon before an indicator, which is refused inside brackets? -/
def badColon (flow : Bool) (c : Cursor) : Bool :=
  flow && c.at? ':' && (c.peekAt? 1).any fun ch => ",?[]\x7b\x7d".toList.contains ch

/-- Read the characters of a plain scalar up to a blank or to its end. -/
def readPlainRun (flow : Bool) : Nat → Cursor → Option (List Char × Cursor)
  | 0, c => some ([], c)
  | fuel + 1, c =>
    match c.peek? with
    | none => some ([], c)
    | some ch =>
      if isSpace ch || isBreak ch then some ([], c)
      else if badColon flow c then none
      else if endsPlain flow c then some ([], c)
      else (readPlainRun flow fuel c.skip).map fun (cs, c') => (ch :: cs, c')

/-- Read a plain scalar whose lines must stand at column `indent` or later. The result also says whether breaks
followed the last character. -/
def readPlainFrom (flow : Bool) (indent : Int) : Nat → List Char → Gap → Cursor → Option (List Char × Bool × Cursor)
  | 0, acc, g, c => some (acc, g.broken, c)
  | fuel + 1, acc, g, c =>
    if c.atDocumentMark || c.at? '#' then some (acc, g.broken, c)
    else do
      let (run, c') ← readPlainRun flow c.fuel c
      let (acc, g) := if run.isEmpty then (acc, g) else (acc ++ g.fold ++ run, {})
      if c'.atSpace || c'.atBreak then
        let (g, c'') ← readGap (some indent) c'.fuel g c'
        if !flow && (c''.column : Int) < indent then some (acc, g.broken, c'')
        else readPlainFrom flow indent fuel acc g c''
      else some (acc, g.broken, c')

/-! ## Quoted scalars -/

/-- Read hexadecimal digits. -/
def readHexDigits : Nat → Nat → Cursor → Option (Nat × Cursor)
  | 0, n, c => some (n, c)
  | k + 1, n, c => do
    let d ← c.peek?.bind CharSet.hexDigit?
    readHexDigits k (16 * n + d) c.skip

/-- Read the escape after a backslash. -/
def readEscape (c : Cursor) : Option (Char × Cursor) := do
  let code := fun (digits : Nat) => do
    let (n, c') ← readHexDigits digits 0 c.skip
    if n < 0xD800 || (0xDFFF < n && n < 0x110000) then some (Char.ofNat n, c') else none
  let simple := fun (n : Nat) => some (Char.ofNat n, c.skip)
  match ← c.peek? with
  | '0' => simple 0 | 'a' => simple 7 | 'b' => simple 8 | 't' => simple 9 | '\t' => simple 9 | 'n' => simple 10
  | 'v' => simple 11 | 'f' => simple 12 | 'r' => simple 13 | 'e' => simple 27 | ' ' => simple 32
  | '"' => simple 34 | '/' => simple 47 | '\\' => simple 92 | 'N' => simple 0x85 | '_' => simple 0xA0
  | 'L' => simple 0x2028 | 'P' => simple 0x2029
  | 'x' => code 2 | 'u' => code 4 | 'U' => code 8
  | _ => none

/-- Read the characters of a quoted scalar up to a blank, an escaped break or the closing quote. The result says
whether an escaped break ended them. -/
def readQuotedRun (single : Bool) : Nat → Cursor → Option (List Char × Bool × Cursor)
  | 0, _ => none
  | fuel + 1, c =>
    match c.peek? with
    | none => some ([], false, c)
    | some ch =>
      let keep := fun (k : Char) (c' : Cursor) =>
        (readQuotedRun single fuel c').map fun (cs, b, c'') => (k :: cs, b, c'')
      if isSpace ch || isBreak ch then some ([], false, c)
      else if single then
        if ch == '\'' then if c.peekAt? 1 == some '\'' then keep '\'' (c.skipN 2) else some ([], false, c)
        else keep ch c.skip
      else if ch == '"' then some ([], false, c)
      else if ch == '\\' then
        if c.skip.atBreak then some ([], true, c.skip.skip)
        else (readEscape c.skip).bind fun (k, c') => keep k c'
      else keep ch c.skip

/-- Read a quoted scalar after its opening quote. -/
def readQuotedFrom (single : Bool) : Nat → List Char → Cursor → Option (List Char × Cursor)
  | 0, _, _ => none
  | fuel + 1, acc, c =>
    if c.atDocumentMark || c.atEnd then none
    else do
      let (run, escapedBreak, c') ← readQuotedRun single (c.fuel + 1) c
      if c'.at? (if single then '\'' else '"') then some (acc ++ run, c'.skip)
      else
        let (g, c'') ← readGap none c'.fuel { broken := escapedBreak } c'
        readQuotedFrom single fuel (acc ++ run ++ g.fold) c''

/-! ## Block scalars -/

/-- What to do with the breaks at the end of a block. -/
inductive Chomp
  | strip | clip | keep
deriving BEq

/-- Read the header of a block after its indicator: what to do with the last breaks, and the indentation if given. -/
def readBlockHeader (c : Cursor) : Option (Chomp × Nat × Cursor) :=
  let chomp := fun (c : Cursor) =>
    if c.at? '+' then some (Chomp.keep, c.skip) else if c.at? '-' then some (Chomp.strip, c.skip) else none
  let digit := fun (c : Cursor) => c.peek?.bind fun ch =>
    if ch.isDigit then some (ch.toNat - 48, c.skip) else none
  match chomp c with
  | some (k, c) =>
    match digit c with
    | some (0, _) => none
    | some (n, c) => some (k, n, c)
    | none => some (k, 0, c)
  | none =>
    match digit c with
    | some (0, _) => none
    | some (n, c) =>
      match chomp c with
      | some (k, c) => some (k, n, c)
      | none => some (.clip, n, c)
    | none => some (.clip, 0, c)

/-- Read blank lines and the indentation of the next line. `indent` is 0 while it is not known; the result holds the
breaks and the greatest column reached. -/
def readBlockBreaks (indent : Nat) : Nat → List Char → Nat → Cursor → Option (List Char × Nat × Cursor)
  | 0, breaks, widest, c => some (breaks, widest, c)
  | fuel + 1, breaks, widest, c =>
    let inIndent := indent == 0 || c.column < indent
    if inIndent && c.at? ' ' then readBlockBreaks indent fuel breaks widest c.skip
    else
      let widest := max widest c.column
      if inIndent && c.at? '\t' then none
      else if c.atBreak then readBlockBreaks indent fuel (breaks ++ c.breakText) widest c.skip
      else some (breaks, widest, c)

/-- Read the lines of a block. `first` is the break before the current line, `more` are the blank lines before it,
and `blank` says whether the last line began with a blank. -/
def readBlockLines (literal : Bool) (indent : Nat) :
    Nat → List Char → List Char → List Char → Bool → Cursor → Option (List Char × List Char × List Char × Cursor)
  | 0, acc, first, more, _, c => some (acc, first, more, c)
  | fuel + 1, acc, first, more, blank, c =>
    if c.column != indent || c.atEnd then some (acc, first, more, c)
    else do
      let startsBlank := c.atSpace
      let joint :=
        if !literal && first.head? == some '\n' && !blank && !startsBlank then if more.isEmpty then [' '] else []
        else first
      let (line, c') := c.takeWhile (fun ch => !isBreak ch) c.fuel
      let next := c'.breakText
      let (more', _, c'') ← readBlockBreaks indent c'.fuel [] 0 c'.skip
      readBlockLines literal indent fuel (acc ++ joint ++ more ++ line) next more' startsBlank c''

/-- Read a block after its indicator, inside a structure indented by `parent`. -/
def readBlock (literal : Bool) (parent : Int) (c : Cursor) : Option (List Char × Cursor) := do
  let (chomp, increment, c) ← readBlockHeader c
  let c := c.skipSpaces.skipComment
  if !c.atLineEnd then none
  else
    let c := c.skip
    let given := if increment == 0 then 0 else if 0 ≤ parent then parent.toNat + increment else increment
    let (more, widest, c) ← readBlockBreaks given c.fuel [] 0 c
    let indent := if given == 0 then max (max widest (parent + 1).toNat) 1 else given
    let (acc, first, more, c) ← readBlockLines literal indent c.fuel [] [] more false c
    let tail := match chomp with
      | .strip => []
      | .clip => first
      | .keep => first ++ more
    some (acc ++ tail, c)

end Retarget.Yaml

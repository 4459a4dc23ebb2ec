/-!
# A place in a YAML text

A cursor is the text still to be read together with its place: the number of characters before it, its line and its
column. Going past a line break starts a new line; a carriage return with a line feed is one break.
-/

namespace Retarget.Yaml

/-- A place in a text. -/
structure Cursor where
  rest : List Char
  index : Nat := 0
  line : Nat := 0
  column : Nat := 0
deriving Repr, BEq

/-- Characters that a text may hold. -/
def isAllowed (c : Char) : Bool :=
  let n := c.toNat
  n == 9 || n == 10 || n == 13 || (32 ≤ n && n ≤ 126) || n == 0x85 || (0xA0 ≤ n && n ≤ 0xFFFD) || 0x10000 ≤ n

/-- Line breaks. -/
def isBreak (c : Char) : Bool :=
  c == '\n' || c == '\r' || c == '\u0085' || c == '\u2028' || c == '\u2029'

/-- Space and tab. -/
def isSpace (c : Char) : Bool := c == ' ' || c == '\t'

/-- Characters of names of directives, anchors and tag handles. -/
def isNameChar (c : Char) : Bool := c.isAlphanum || c == '_' || c == '-'

namespace Cursor

/-- The next character. -/
def peek? (c : Cursor) : Option Char := c.rest.head?

/-- The character `n` places ahead. -/
def peekAt? (c : Cursor) (n : Nat) : Option Char := c.rest[n]?

def at? (c : Cursor) (ch : Char) : Bool := c.peek? == some ch

def atEnd (c : Cursor) : Bool := c.rest.isEmpty

def atBreak (c : Cursor) : Bool := c.peek?.any isBreak

def atSpace (c : Cursor) : Bool := c.peek?.any isSpace

/-- Is there a space, a break or the end `n` places ahead? -/
def blankAt (c : Cursor) (n : Nat) : Bool := (c.peekAt? n).all fun ch => isSpace ch || isBreak ch

/-- Is there a break or the end? -/
def atLineEnd (c : Cursor) : Bool := c.peek?.all isBreak

/-- Go past one character, or past one line break. -/
def skip (c : Cursor) : Cursor :=
  match c.rest with
  | [] => c
  | '\r' :: '\n' :: rest => ⟨rest, c.index + 2, c.line + 1, 0⟩
  | ch :: rest => if isBreak ch then ⟨rest, c.index + 1, c.line + 1, 0⟩ else ⟨rest, c.index + 1, c.line, c.column + 1⟩

/-- Go past `n` characters. -/
def skipN : Nat → Cursor → Cursor
  | 0, c => c
  | n + 1, c => skipN n c.skip

/-- Go past characters of a kind. -/
def skipWhile (p : Char → Bool) : Nat → Cursor → Cursor
  | 0, c => c
  | fuel + 1, c => if c.peek?.any p then skipWhile p fuel c.skip else c

/-- Go past characters of a kind and keep them. -/
def takeWhile (p : Char → Bool) : Nat → Cursor → List Char × Cursor
  | 0, c => ([], c)
  | fuel + 1, c =>
    match c.peek? with
    | some ch => if p ch then let (cs, c') := takeWhile p fuel c.skip; (ch :: cs, c') else ([], c)
    | none => ([], c)

/-- Enough rounds to read the rest. -/
def fuel (c : Cursor) : Nat := c.rest.length + 1

def skipSpaces (c : Cursor) : Cursor := c.skipWhile isSpace c.fuel

/-- Go past a comment, up to the end of its line. -/
def skipComment (c : Cursor) : Cursor :=
  if c.at? '#' then c.skipWhile (fun ch => !isBreak ch) c.fuel else c

/-- What a line break counts as: a line feed, except for the two separators of Unicode, which stay as they are. -/
def breakText (c : Cursor) : List Char :=
  match c.peek? with
  | none => []
  | some ch => if ch == '\u2028' || ch == '\u2029' then [ch] else if isBreak ch then ['\n'] else []

/-- Is there a line of three dashes or three dots here? -/
def atDocumentMark (c : Cursor) : Bool :=
  c.column == 0 && c.blankAt 3 &&
    (match c.rest with
      | '-' :: '-' :: '-' :: _ => true
      | '.' :: '.' :: '.' :: _ => true
      | _ => false)

end Cursor

end Retarget.Yaml

/-!
# Characters and strings of TOML

Each reader takes the characters to come and gives what it has read with the characters after it, or nothing if they
are not written as they have to be.
-/

namespace Retarget.Toml

/-- What a reader makes of the characters to come. -/
abbrev Reader (α : Type) := List Char → Option (α × List Char)

/-- Space and tab. -/
def isBlank (c : Char) : Bool := c == ' ' || c == '\t'

/-- Characters that may stand in a comment or a string: all but control characters, and the tab. -/
def isPrinted (c : Char) : Bool := c == '\t' || (32 ≤ c.toNat && c.toNat ≠ 127)

def skipBlanks (cs : List Char) : List Char := cs.dropWhile isBlank

/-- The characters after a line end, if there is one. -/
def afterNewline? : List Char → Option (List Char)
  | '\n' :: rest => some rest
  | '\r' :: '\n' :: rest => some rest
  | _ => none

/-- The characters after a comment, if there is one. -/
def skipComment (cs : List Char) : List Char :=
  match cs with
  | '#' :: rest => rest.dropWhile isPrinted
  | cs => cs

/-- The characters after the rest of a line: blanks, a comment, and a line end or the end of the text. -/
def afterLine? (cs : List Char) : Option (List Char) :=
  match skipComment (skipBlanks cs) with
  | [] => some []
  | cs => afterNewline? cs

/-- Go past blanks, comments and line ends. Each round goes past one line at least. -/
def skipLines : Nat → List Char → List Char
  | 0, cs => cs
  | fuel + 1, cs =>
    let cs := skipComment (skipBlanks cs)
    match afterNewline? cs with
    | some rest => skipLines fuel rest
    | none => cs

/-! ## Strings -/

def hexValue? (c : Char) : Option Nat :=
  if c.isDigit then some (c.toNat - 48)
  else if 'a' ≤ c && c ≤ 'f' then some (c.toNat - 87)
  else if 'A' ≤ c && c ≤ 'F' then some (c.toNat - 55)
  else none

/-- The character with the given hexadecimal digits. Surrogates are no characters. -/
def codePoint? (digits : List Char) : Option Char := do
  let values ← digits.mapM hexValue?
  let n := values.foldl (fun acc d => 16 * acc + d) 0
  if n.isValidChar then some (Char.ofNat n) else none

/-- The character of `count` hexadecimal digits. -/
def readCodePoint (count : Nat) : Reader Char := fun cs => do
  let digits := cs.take count
  if digits.length != count then none
  else some (← codePoint? digits, cs.drop count)

/-- The character that is escaped, after the backslash. -/
def readEscape : Reader Char
  | 'b' :: rest => some ('\x08', rest)
  | 't' :: rest => some ('\t', rest)
  | 'n' :: rest => some ('\n', rest)
  | 'f' :: rest => some ('\x0c', rest)
  | 'r' :: rest => some ('\r', rest)
  | '"' :: rest => some ('"', rest)
  | '\\' :: rest => some ('\\', rest)
  | 'u' :: rest => readCodePoint 4 rest
  | 'U' :: rest => readCodePoint 8 rest
  | _ => none

/-- Read a string in double quotes on one line, after the first quote. -/
def readBasic : Nat → Reader (List Char)
  | 0, _ => none
  | _ + 1, '"' :: rest => some ([], rest)
  | fuel + 1, '\\' :: rest => do
    let (c, rest) ← readEscape rest
    let (cs, rest) ← readBasic fuel rest
    some (c :: cs, rest)
  | fuel + 1, c :: rest =>
    if isPrinted c then do
      let (cs, rest) ← readBasic fuel rest
      some (c :: cs, rest)
    else none
  | _ + 1, [] => none

/-- Read a string in single quotes on one line, after the first quote. -/
def readLiteral : Reader (List Char)
  | [] => none
  | '\'' :: rest => some ([], rest)
  | c :: rest =>
    if isPrinted c then do
      let (cs, rest) ← readLiteral rest
      some (c :: cs, rest)
    else none

/-- The end of a string of several lines: three quotes, of which the last ones count if there are up to five. -/
def closing? (quote : Char) (cs : List Char) : Option (List Char × List Char) :=
  let count := (cs.takeWhile (· == quote)).length
  if count < 3 then none
  else
    let inner := min (count - 3) 2
    some (List.replicate inner quote, cs.drop (inner + 3))

/-- Go past blanks and line ends. -/
def skipWhite : List Char → List Char
  | '\r' :: '\n' :: rest => skipWhite rest
  | c :: rest => if isBlank c || c == '\n' then skipWhite rest else c :: rest
  | [] => []

/-- Go past a line end that is escaped, with all white space after it. -/
def afterEscapedNewline? (cs : List Char) : Option (List Char) := (afterNewline? (skipBlanks cs)).map skipWhite

/-- Read a string in three quotes, after the opening ones. A line end counts as a line feed. With `escapes`, a
backslash escapes the next character, or a line end. -/
def readMultiline (quote : Char) (escapes : Bool) : Nat → Reader (List Char)
  | 0, _ => none
  | _ + 1, [] => none
  | fuel + 1, c :: rest =>
    let cs := c :: rest
    match closing? quote cs with
    | some found => some found
    | none =>
      match afterNewline? cs with
      | some rest => do
        let (text, rest) ← readMultiline quote escapes fuel rest
        some ('\n' :: text, rest)
      | none =>
        if escapes && c == '\\' then
          match afterEscapedNewline? rest with
          | some rest => readMultiline quote escapes fuel rest
          | none => do
            let (c, rest) ← readEscape rest
            let (text, rest) ← readMultiline quote escapes fuel rest
            some (c :: text, rest)
        else if isPrinted c then do
          let (text, rest) ← readMultiline quote escapes fuel rest
          some (c :: text, rest)
        else none

/-- A string of several lines, after the opening quotes; a line end right after them does not count. -/
def readBlock (quote : Char) (escapes : Bool) (cs : List Char) : Option (List Char × List Char) :=
  readMultiline quote escapes (cs.length + 1) ((afterNewline? cs).getD cs)

/-- A string on one line. -/
def readLineString : Reader (List Char)
  | '"' :: rest => readBasic (rest.length + 1) rest
  | '\'' :: rest => readLiteral rest
  | _ => none

/-- A string of any kind. -/
def readString : Reader (List Char)
  | '"' :: '"' :: '"' :: rest => readBlock '"' true rest
  | '\'' :: '\'' :: '\'' :: rest => readBlock '\'' false rest
  | cs => readLineString cs

/-! ## Keys -/

/-- Characters of a key without quotes. -/
def isBare (c : Char) : Bool := c.isAlphanum || c == '_' || c == '-'

/-- One part of a key. -/
def readKeyPart (cs : List Char) : Option (List Char × List Char) :=
  match cs with
  | '"' :: _ => readLineString cs
  | '\'' :: _ => readLineString cs
  | _ =>
    let name := cs.takeWhile isBare
    if name.isEmpty then none else some (name, cs.dropWhile isBare)

/-- Parts of a key, with dots between them and blanks around them. -/
def readKeyParts : Nat → Reader (List String)
  | 0, _ => none
  | fuel + 1, cs => do
    let (part, rest) ← readKeyPart (skipBlanks cs)
    match skipBlanks rest with
    | '.' :: rest => do
      let (parts, rest) ← readKeyParts fuel rest
      some (String.ofList part :: parts, rest)
    | rest => some ([String.ofList part], rest)

/-- The deepest nesting of keys and of values. -/
def depthLimit : Nat := 80

/-- A key. It has fewer parts than the depth limit. -/
def readKey : Reader (List String) := readKeyParts (depthLimit - 1)

end Retarget.Toml

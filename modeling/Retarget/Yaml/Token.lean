import Retarget.Yaml.Scalar

/-!
# Tokens of YAML

The tokens of a text, with the marks that indentation stands for made explicit. Whether a scalar is a key shows only
at the colon after it; the key mark, and the start of the mapping if it is the first key, are then put in before the
scalar.

Main definition: `tokens?`, all tokens of a text, or nothing if the text is not YAML.
-/

namespace Retarget.Yaml

/-- A token. -/
inductive Token
  | version (major minor : Nat)
  | tagHandle (handle tagPrefix : String)
  | documentStart | documentEnd
  | blockSequence | blockMapping | blockEnd
  | sequenceOpen | sequenceClose | mappingOpen | mappingClose
  | entry | comma | key | value
  | alias (name : String) | anchor (name : String)
  /-- A tag with the handle and the rest of its name. -/
  | tag (handle suffix : String)
  | scalar (text : String) (style : Style)
deriving Repr, BEq, DecidableEq

/-- A place where a key may have started: the number of the token there, and whether a key must start there. -/
structure KeyStart where
  number : Nat
  required : Bool
  index : Nat
  line : Nat
  column : Nat

namespace Lexer

/-- How far reading has come. `indent` is the column of the innermost block, `indents` are those around it, and
`keys` holds the possible key of each open bracket, innermost first. -/
structure State where
  cursor : Cursor
  tokens : List Token := []
  count : Nat := 0
  flow : Nat := 0
  indent : Int := -1
  indents : List Int := []
  keyAllowed : Bool := true
  keys : List (Option KeyStart) := [none]

namespace State

def inFlow (s : State) : Bool := s.flow != 0

/-- Add a token. Tokens are kept in reverse. -/
def push (s : State) (t : Token) : State := { s with tokens := t :: s.tokens, count := s.count + 1 }

/-- Add a token before the one with a given number. -/
def insert (s : State) (number : Nat) (t : Token) : State :=
  let later := s.count - number
  { s with tokens := s.tokens.take later ++ t :: s.tokens.drop later, count := s.count + 1 }

/-- Forget the possible key of the innermost bracket. A key that is required must not be forgotten. -/
def dropKey (s : State) : Option State :=
  match s.keys with
  | some k :: rest => if k.required then none else some { s with keys := none :: rest }
  | _ => some s

/-- Note that a key may start here. -/
def saveKey (s : State) : Option State :=
  if s.keyAllowed then do
    let s ← s.dropKey
    let c := s.cursor
    let k : KeyStart := ⟨s.count, !s.inFlow && s.indent == c.column, c.index, c.line, c.column⟩
    some { s with keys := some k :: s.keys.drop 1 }
  else some s

/-- Forget the possible keys that started on an earlier line or too long ago. -/
def dropStaleKeys (s : State) : Option State := do
  let c := s.cursor
  let keys ← s.keys.mapM fun
    | none => some none
    | some k =>
      if k.line < c.line || k.index + 1024 < c.index then if k.required then none else some none
      else some (some k)
  some { s with keys := keys }

/-- Start a block at a column that is further in than the current one. The mark goes before the token with the given
number, if there is one. -/
def startBlock (s : State) (column : Nat) (number : Option Nat) (mark : Token) : State :=
  if s.inFlow then s
  else if s.indent < column then
    let s := { s with indent := column, indents := s.indent :: s.indents }
    match number with
    | none => s.push mark
    | some n => s.insert n mark
  else s

/-- End the blocks that are further in than a column. -/
def endBlocks (column : Int) : Nat → State → State
  | 0, s => s
  | fuel + 1, s =>
    if s.indent ≤ column then s
    else
      match s.indents with
      | [] => s
      | i :: rest => endBlocks column fuel { s.push .blockEnd with indent := i, indents := rest }

/-- End the blocks that are further in than a column, outside brackets. -/
def unroll (s : State) (column : Int) : State := if s.inFlow then s else endBlocks column (s.indents.length + 1) s

/-- Go past `n` characters and add a token. -/
def eat (s : State) (n : Nat) (t : Token) : State := { s with cursor := s.cursor.skipN n }.push t

end State

/-- Skip blanks, comments and breaks before a token. A break outside brackets allows a key to start. -/
def skipToToken : Nat → State → State
  | 0, s => s
  | fuel + 1, s =>
    let c := if s.cursor.column == 0 && s.cursor.at? '\uFEFF' then s.cursor.skip else s.cursor
    let tabs := s.inFlow || !s.keyAllowed
    let c := (c.skipWhile (fun ch => ch == ' ' || (tabs && ch == '\t')) c.fuel).skipComment
    if c.atBreak then
      skipToToken fuel { s with cursor := c.skip, keyAllowed := s.keyAllowed || !s.inFlow }
    else { s with cursor := c }

/-! ## Directives, anchors and tags -/

/-- Read a decimal number of nine digits at most. -/
def readVersionPart (c : Cursor) : Option (Nat × Cursor) :=
  let (ds, c') := c.takeWhile Char.isDigit c.fuel
  if ds.isEmpty || 9 < ds.length then none else some (ds.foldl (fun n d => 10 * n + (d.toNat - 48)) 0, c')

/-- Read the escapes of one character in a tag. -/
def readTagEscape : Nat → ByteArray → Cursor → Option (Char × Cursor)
  | 0, _, _ => none
  | fuel + 1, bytes, c =>
    if c.at? '%' then do
      let (n, c') ← readHexDigits 2 0 c.skip
      let bytes := bytes.push n.toUInt8
      match (String.fromUTF8? bytes).bind fun s => s.toList.head? with
      | some ch => some (ch, c')
      | none => readTagEscape fuel bytes c'
    else none

/-- Read the characters of a tag name. The long form also takes commas and brackets. -/
def readTagName (long : Bool) : Nat → Cursor → Option (List Char × Cursor)
  | 0, c => some ([], c)
  | fuel + 1, c =>
    match c.peek? with
    | none => some ([], c)
    | some ch =>
      if ch == '%' then do
        let (k, c') ← readTagEscape 4 ByteArray.empty c
        let (cs, c'') ← readTagName long fuel c'
        some (k :: cs, c'')
      else if isNameChar ch || ";/?:@&=+$.!~*'()".toList.contains ch || (long && ",[]".toList.contains ch) then
        (readTagName long fuel c.skip).map fun (cs, c') => (ch :: cs, c')
      else some ([], c)

/-- Read a tag handle: an exclamation mark, name characters, and perhaps another mark. -/
def readTagHandle (directive : Bool) (c : Cursor) : Option (List Char × Cursor) :=
  if !c.at? '!' then none
  else
    let (cs, c') := c.skip.takeWhile isNameChar c.fuel
    if c'.at? '!' then some ('!' :: cs ++ ['!'], c'.skip)
    else if directive && !cs.isEmpty then none
    else some ('!' :: cs, c')

/-- Read a tag. -/
def readTag (flow : Bool) (c : Cursor) : Option (Token × Cursor) := do
  let (t, c') ←
    if c.peekAt? 1 == some '<' then do
      let (suffix, c') ← readTagName true c.fuel (c.skipN 2)
      if suffix.isEmpty || !c'.at? '>' then none
      else some (Token.tag "" (String.ofList suffix), c'.skip)
    else do
      let (handle, c') ← readTagHandle false c
      if 1 < handle.length && handle.getLast? == some '!' then
        let (suffix, c'') ← readTagName false c'.fuel c'
        if suffix.isEmpty then none
        else some (Token.tag (String.ofList handle) (String.ofList suffix), c'')
      else
        let (suffix, c'') ← readTagName false c'.fuel c'
        let suffix := handle.drop 1 ++ suffix
        if suffix.isEmpty then some (Token.tag "" "!", c'')
        else some (Token.tag "!" (String.ofList suffix), c'')
  if (flow && c'.at? ',') || c'.blankAt 0 then some (t, c') else none

/-- Read a directive after its percent sign. -/
def readDirective (c : Cursor) : Option (Token × Cursor) := do
  let (name, c) := c.takeWhile isNameChar c.fuel
  let (t, c) ←
    if name == "YAML".toList && c.blankAt 0 then do
      let (major, c) ← readVersionPart c.skipSpaces
      if !c.at? '.' then none
      else
        let (minor, c) ← readVersionPart c.skip
        some (Token.version major minor, c)
    else if name == "TAG".toList && c.blankAt 0 then do
      let (handle, c) ← readTagHandle true c.skipSpaces
      if !c.atSpace then none
      else
        let (pre, c) ← readTagName true c.fuel c.skipSpaces
        if pre.isEmpty || !c.blankAt 0 then none
        else some (Token.tagHandle (String.ofList handle) (String.ofList pre), c)
    else none
  let c := c.skipSpaces.skipComment
  if c.atLineEnd then some (t, c.skip) else none

/-- Read the name of an anchor or alias. -/
def readAnchor (c : Cursor) : Option (String × Cursor) :=
  let (name, c') := c.takeWhile isNameChar c.fuel
  if name.isEmpty then none
  else if c'.blankAt 0 || c'.peek?.any fun ch => "?:,]\x7d%@`".toList.contains ch then
    some (String.ofList name, c')
  else none

/-! ## One token -/

/-- Add a token that may be the start of a key. -/
def keyable (s : State) (read : Cursor → Option (Token × Cursor)) : Option State := do
  let s ← s.saveKey
  let (t, c) ← read s.cursor
  some ({ s with cursor := c, keyAllowed := false }.push t)

/-- Add the mark of a document. -/
def documentMark (s : State) (t : Token) : Option State := do
  let s ← (s.unroll (-1)).dropKey
  some ({ s with keyAllowed := false }.eat 3 t)

/-- Open a bracket. -/
def openFlow (s : State) (t : Token) : Option State := do
  let s ← s.saveKey
  some ({ s with keys := none :: s.keys, flow := s.flow + 1, keyAllowed := true }.eat 1 t)

/-- Close a bracket. -/
def closeFlow (s : State) (t : Token) : Option State := do
  let s ← s.dropKey
  let s := if s.inFlow then { s with keys := s.keys.drop 1, flow := s.flow - 1 } else s
  some ({ s with keyAllowed := false }.eat 1 t)

/-- Add an indicator that starts a block of its own outside brackets. -/
def blockIndicator (s : State) (block t : Token) (keyAllowed : Bool) : Option State := do
  if !s.inFlow && !s.keyAllowed then none
  else
    let s ← (s.startBlock s.cursor.column none block).dropKey
    some ({ s with keyAllowed := keyAllowed }.eat 1 t)

/-- Add a colon. If a key may have started before it, the key mark goes there. -/
def colon (s : State) : Option State :=
  match s.keys with
  | some k :: rest =>
    let s := (s.insert k.number .key).startBlock k.column (some k.number) .blockMapping
    some ({ s with keys := none :: rest, keyAllowed := false }.eat 1 .value)
  | _ =>
    if !s.inFlow && !s.keyAllowed then none
    else
      let s := s.startBlock s.cursor.column none .blockMapping
      some ({ s with keyAllowed := !s.inFlow }.eat 1 .value)

/-- May a plain scalar start here? -/
def startsPlain (flow : Bool) (c : Cursor) : Bool :=
  match c.peek? with
  | none => false
  | some ch =>
    !(c.blankAt 0 || "-?:,[]\x7b\x7d#&*!|>'\"%@`".toList.contains ch) ||
      (ch == '-' && !(c.peekAt? 1).any isSpace) ||
      (!flow && (ch == '?' || ch == ':') && !c.blankAt 1)

/-- Read one token. -/
def step (s : State) : Option State :=
  let c := s.cursor
  let quoted := fun (single : Bool) => keyable s fun c =>
    (readQuotedFrom single (c.fuel + 1) [] c.skip).map fun (cs, c') =>
      (.scalar (String.ofList cs) (if single then .single else .double), c')
  let block := fun (literal : Bool) => do
    let s ← s.dropKey
    let (cs, c') ← readBlock literal s.indent c.skip
    let style := if literal then Style.literal else Style.folded
    some ({ s with cursor := c', keyAllowed := true }.push (.scalar (String.ofList cs) style))
  if c.column == 0 && c.at? '%' then do
    let s ← (s.unroll (-1)).dropKey
    let (t, c') ← readDirective c.skip
    some ({ s with cursor := c', keyAllowed := false }.push t)
  else if c.atDocumentMark then documentMark s (if c.at? '-' then .documentStart else .documentEnd)
  else
    match c.peek? with
    | some '[' => openFlow s .sequenceOpen
    | some '\x7b' => openFlow s .mappingOpen
    | some ']' => closeFlow s .sequenceClose
    | some '\x7d' => closeFlow s .mappingClose
    | some ',' => do
      let s ← s.dropKey
      some ({ s with keyAllowed := true }.eat 1 .comma)
    | some '*' => keyable s fun c => (readAnchor c.skip).map fun (n, c') => (.alias n, c')
    | some '&' => keyable s fun c => (readAnchor c.skip).map fun (n, c') => (.anchor n, c')
    | some '!' => keyable s (readTag s.inFlow)
    | some '\'' => quoted true
    | some '"' => quoted false
    | some ch =>
      if ch == '-' && c.blankAt 1 then blockIndicator s .blockSequence .entry true
      else if ch == '?' && (s.inFlow || c.blankAt 1) then blockIndicator s .blockMapping .key (!s.inFlow)
      else if ch == ':' && (s.inFlow || c.blankAt 1) then colon s
      else if ch == '|' && !s.inFlow then block true
      else if ch == '>' && !s.inFlow then block false
      else if startsPlain s.inFlow c then do
        let s ← s.saveKey
        let (cs, broken, c') ← readPlainFrom s.inFlow (s.indent + 1) (c.fuel + 1) [] {} s.cursor
        some ({ s with cursor := c', keyAllowed := broken }.push (.scalar (String.ofList cs) .plain))
      else none
    | none => none

/-- Read tokens until the text ends. -/
def loop : Nat → State → Option State
  | 0, _ => none
  | fuel + 1, s => do
    let s := skipToToken s.cursor.fuel s
    let s ← s.dropStaleKeys
    let s := s.unroll s.cursor.column
    if s.cursor.atEnd then (s.unroll (-1)).dropKey
    else loop fuel (← step s)

end Lexer

/-- The tokens of a text. -/
def tokens? (text : String) : Option (List Token) :=
  let cs := match text.toList with
    | '\uFEFF' :: rest => rest
    | cs => cs
  if cs.all isAllowed then (Lexer.loop (cs.length + 2) { cursor := { rest := cs } }).map fun s => s.tokens.reverse
  else none

end Retarget.Yaml

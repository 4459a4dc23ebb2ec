import Retarget.Toml.Number

/-!
# TOML documents

A document is a table of tables and values. Keys are written one a line, and headers say which table they belong to.
A table may be written in one place only, so each table remembers how it came about.

* `Document.parse?`: the table of a text,
* `Value.get?`: the value under a key.
-/

namespace Retarget.Toml

/-- How a table came about. -/
inductive Origin
  /-- By a header of its own; so is the table of the whole document. -/
  | declared
  /-- By a longer header. -/
  | implied
  /-- By a key with dots. -/
  | dotted
  /-- In braces. -/
  | inline
deriving Repr, BEq, DecidableEq

/-- A value. Of numbers, dates and times nothing is kept. -/
inductive Value
  | string (s : String)
  | bool (b : Bool)
  | number
  | moment
  | array (items : List Value)
  | table (origin : Origin) (entries : List (String × Value))
  /-- A list of tables, each by a header of its own. -/
  | tables (rows : List (List (String × Value)))
deriving Repr

/-- The entries of a table. -/
abbrev Entries := List (String × Value)

/-- Put a value under a key, in the place of the value there or at the end. -/
def Entries.put (entries : Entries) (key : String) (v : Value) : Entries :=
  if (entries.lookup key).isSome then entries.map fun e => if e.1 == key then (key, v) else e
  else entries ++ [(key, v)]

/-- Change the table at a path below some table. Missing tables are made on the way. With `dots` the path is a key with
dots, which must not go through tables that have a header; otherwise it is a header, and leads through the last row
of a list of tables. -/
def descend (dots : Bool) (f : Origin → Entries → Option Entries) :
    List String → Origin → Entries → Option Entries
  | [], origin, entries => f origin entries
  | key :: path, _, entries =>
    let made := if dots then Origin.dotted else .implied
    match entries.lookup key with
    | none => (descend dots f path made []).map fun sub => entries.put key (.table made sub)
    | some (.table origin sub) =>
      if origin == .inline || (dots && origin == .declared) then none
      else (descend dots f path origin sub).map fun sub => entries.put key (.table origin sub)
    | some (.tables rows) =>
      match rows.reverse with
      | [] => none
      | last :: before =>
        (descend dots f path .declared last).map fun last => entries.put key (.tables (last :: before).reverse)
    | some _ => none

/-- Put a new value under a key. Below a key with dots the table must itself come from such a key. -/
def insertNew (dots : Bool) (key : String) (v : Value) (origin : Origin) (entries : Entries) : Option Entries :=
  if dots != (origin == .dotted) || (entries.lookup key).isSome then none else some (entries.put key v)

/-- Put a value under a key that may have dots. -/
def insertPath (path : List String) (v : Value) (origin : Origin) (entries : Entries) : Option Entries :=
  match path.reverse with
  | [] => none
  | key :: before => descend true (insertNew (!before.isEmpty) key v) before.reverse origin entries

/-! ## Values -/

/-- A value after a key, and how deep it may go. -/
abbrev ValueReader := Reader Value

/-- The items of an array, after the bracket or a comma. -/
def readItems (readValue : ValueReader) : Nat → Reader (List Value)
  | 0, _ => none
  | fuel + 1, cs =>
    match skipLines (cs.length + 1) cs with
    | ']' :: rest => some ([], rest)
    | cs => do
      let (v, rest) ← readValue cs
      match skipLines (rest.length + 1) rest with
      | ',' :: rest => do
        let (vs, rest) ← readItems readValue fuel rest
        some (v :: vs, rest)
      | ']' :: rest => some ([v], rest)
      | _ => none

/-- A key and a value, with a sign between them. -/
def readPairWith (readValue : ValueReader) : Reader (List String × Value) := fun cs => do
  let (path, rest) ← readKey cs
  let rest ← after? '=' rest
  let (v, rest) ← readValue (skipBlanks rest)
  some ((path, v), rest)

/-- The entries of a table in braces, after the brace or a comma. -/
def readMembers (readValue : ValueReader) : Nat → Reader (List (List String × Value))
  | 0, _ => none
  | fuel + 1, cs => do
    let (pair, rest) ← readPairWith readValue cs
    match skipBlanks rest with
    | ',' :: rest => do
      let (pairs, rest) ← readMembers readValue fuel rest
      some (pair :: pairs, rest)
    | '\x7d' :: rest => some ([pair], rest)
    | _ => none

/-- A table in braces, after the first brace. -/
def readInline (readValue : ValueReader) (cs : List Char) : Option (Value × List Char) :=
  match skipBlanks cs with
  | '\x7d' :: rest => some (.table .inline [], rest)
  | cs => do
    let (pairs, rest) ← readMembers readValue (cs.length + 1) cs
    let entries ← pairs.foldlM (fun entries (path, v) => insertPath path v .inline entries) []
    some (.table .inline entries, rest)

/-- A number, a date or a time. -/
def readNumeric (cs : List Char) : Option (Value × List Char) :=
  match afterMoment? cs with
  | some rest => some (.moment, rest)
  | none => ((afterFloat? cs).orElse fun _ => afterInteger? cs).map (.number, ·)

/-- A value that may hold others, down to a depth. -/
def readValue : Nat → List Char → Option (Value × List Char)
  | depth, cs =>
    match cs with
    | '[' :: rest =>
      match depth with
      | 0 => none
      | depth + 1 => (readItems (readValue depth) (rest.length + 1) rest).map fun (vs, rest) => (.array vs, rest)
    | '\x7b' :: rest =>
      match depth with
      | 0 => none
      | depth + 1 => readInline (readValue depth) rest
    | '"' :: _ => (readString cs).map fun (s, rest) => (.string (String.ofList s), rest)
    | '\'' :: _ => (readString cs).map fun (s, rest) => (.string (String.ofList s), rest)
    | 't' :: 'r' :: 'u' :: 'e' :: rest => some (.bool true, rest)
    | 'f' :: 'a' :: 'l' :: 's' :: 'e' :: rest => some (.bool false, rest)
    | cs => readNumeric cs

/-! ## Documents -/

/-- What has been read of a document: its entries, and the header that the next keys belong to. -/
structure Draft where
  entries : Entries := []
  header : List String := []

namespace Draft

/-- A key below the current header. -/
def addPair (d : Draft) (path : List String) (v : Value) : Option Draft := do
  let entries ← descend false (insertPath path v) d.header .declared d.entries
  some { d with entries := entries }

/-- Declare a table: it is new, or only implied so far. -/
def declare (key : String) (_ : Origin) (entries : Entries) : Option Entries :=
  match entries.lookup key with
  | none => some (entries.put key (.table .declared []))
  | some (.table .implied sub) => some (entries.put key (.table .declared sub))
  | some _ => none

/-- Declare one more table of a list of tables. -/
def declareRow (key : String) (_ : Origin) (entries : Entries) : Option Entries :=
  match entries.lookup key with
  | none => some (entries.put key (.tables [[]]))
  | some (.tables rows) => some (entries.put key (.tables (rows ++ [[]])))
  | some _ => none

/-- A header, of a table or of one more row of a list of tables. -/
def addHeader (d : Draft) (row : Bool) (path : List String) : Option Draft :=
  match path.reverse with
  | [] => none
  | key :: before => do
    let entries ← descend false ((if row then declareRow else declare) key) before.reverse .declared d.entries
    some ⟨entries, path⟩

/-- A header after its first bracket or brackets. -/
def readHeader (d : Draft) (row : Bool) (cs : List Char) : Option (Draft × List Char) := do
  let (path, rest) ← readKey cs
  let rest ← after? ']' rest
  let rest ← if row then after? ']' rest else some rest
  some (← d.addHeader row path, ← afterLine? rest)

/-- Read one line, which begins with no blank and is not empty. -/
def readLine (d : Draft) (cs : List Char) : Option (Draft × List Char) :=
  match cs with
  | '#' :: _ => (afterLine? cs).map (d, ·)
  | '[' :: '[' :: rest => d.readHeader true rest
  | '[' :: rest => d.readHeader false rest
  | '\n' :: _ => (afterLine? cs).map (d, ·)
  | '\r' :: _ => (afterLine? cs).map (d, ·)
  | cs => do
    let ((path, v), rest) ← readPairWith (readValue (depthLimit - 1)) cs
    some (← d.addPair path v, ← afterLine? rest)

/-- Read all lines. -/
def readLines : Nat → Draft → List Char → Option Draft
  | 0, d, cs => if cs.isEmpty then some d else none
  | fuel + 1, d, cs =>
    match skipBlanks cs with
    | [] => some d
    | cs => do
      let (d, rest) ← d.readLine cs
      readLines fuel d rest

end Draft

/-- The text without a mark of its byte order. -/
def withoutMark : List Char → List Char
  | '\uFEFF' :: rest => rest
  | cs => cs

/-- The entries of a document. -/
def parse? (text : String) : Option Entries :=
  let cs := withoutMark text.toList
  (Draft.readLines (cs.length + 1) {} cs).map Draft.entries

end Retarget.Toml

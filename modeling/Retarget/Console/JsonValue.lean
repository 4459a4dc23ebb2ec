/-!
# JSON values

The values that reports consist of, and how they are printed: members in the given order, one a line, indented by two
spaces.
-/

namespace Retarget

/-- A JSON value. All numbers are counts. -/
inductive JsonValue
  | null
  | bool (b : Bool)
  | number (n : Nat)
  | string (s : String)
  | array (items : List JsonValue)
  | object (members : List (String × JsonValue))
deriving Repr

namespace JsonValue

/-- The four hexadecimal digits of a control character. -/
def hex4 (n : Nat) : String :=
  let digits := Nat.toDigits 16 n
  String.ofList (List.replicate (4 - digits.length) '0' ++ digits)

/-- A character in a string. Quotes, backslashes and control characters are escaped. -/
def escape (c : Char) : String :=
  if c == '"' then "\\\""
  else if c == '\\' then "\\\\"
  else if c == '\n' then "\\n"
  else if c == '\r' then "\\r"
  else if c == '\t' then "\\t"
  else if c == '\x08' then "\\b"
  else if c == '\x0c' then "\\f"
  else if c.toNat < 32 then "\\u" ++ hex4 c.toNat
  else String.singleton c

def quote (s : String) : String := "\"" ++ String.join (s.toList.map escape) ++ "\""

/-- The start of a line at a depth. -/
def newline (depth : Nat) : String := String.ofList ('\n' :: List.replicate (2 * depth) ' ')

mutual

/-- A value whose lines after the first stand at a depth. -/
def render (depth : Nat) : JsonValue → String
  | null => "null"
  | bool b => if b then "true" else "false"
  | number n => toString n
  | string s => quote s
  | array [] => "[]"
  | array (v :: vs) =>
    "[" ++ newline (depth + 1) ++ render (depth + 1) v ++ renderItems (depth + 1) vs ++ newline depth ++ "]"
  | object [] => "\x7b\x7d"
  | object ((k, v) :: ms) =>
    "\x7b" ++ newline (depth + 1) ++ quote k ++ ": " ++ render (depth + 1) v ++ renderMembers (depth + 1) ms ++
      newline depth ++ "\x7d"

/-- The items of an array after its first one. -/
def renderItems (depth : Nat) : List JsonValue → String
  | [] => ""
  | v :: vs => "," ++ newline depth ++ render depth v ++ renderItems depth vs

/-- The members of an object after its first one. -/
def renderMembers (depth : Nat) : List (String × JsonValue) → String
  | [] => ""
  | (k, v) :: ms => "," ++ newline depth ++ quote k ++ ": " ++ render depth v ++ renderMembers depth ms

end

/-- A value as a text. -/
def pretty (v : JsonValue) : String := render 0 v

end JsonValue

end Retarget

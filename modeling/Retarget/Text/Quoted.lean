import Retarget.Unicode.Property

/-!
# Quoted text

A text in double quotes, on one line: quotes and backslashes are escaped, and so is every character that cannot be
printed or that would combine with the character before it.
-/

namespace Retarget.Text

/-- Characters that print nothing of their own: controls, formats, private and unassigned ones, and separators other
than the space. -/
def unprintable : CharSet :=
  (Unicode.assigned.compl.union (Unicode.ofCategories ["Cc", "Cf", "Co", "Zl", "Zp", "Zs"])).diff (.singleton ' ')

/-- Characters that combine with the character before them. -/
def combining : CharSet := (Unicode.trait? "grext").getD .empty

/-- The hexadecimal digits of a number, in lower case. -/
def hexDigits (n : Nat) : String := String.ofList (Nat.toDigits 16 n)

/-- A character as it stands in a quoted text. -/
def escape (c : Char) : String :=
  if c == '\x00' then "\\0"
  else if c == '\t' then "\\t"
  else if c == '\r' then "\\r"
  else if c == '\n' then "\\n"
  else if c == '\\' then "\\\\"
  else if c == '"' then "\\\""
  else if combining.contains c || unprintable.contains c then "\\u\x7b" ++ hexDigits c.toNat ++ "\x7d"
  else String.singleton c

/-- A text in double quotes. -/
def quote (s : String) : String := "\"" ++ String.join (s.toList.map escape) ++ "\""

end Retarget.Text

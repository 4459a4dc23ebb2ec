import Retarget.Unicode.CharSet

/-!
# White space

The characters with the property White_Space: what `\s` matches and what trimming removes.
-/

namespace Retarget.Unicode

/-- White space as a set. -/
def blank : CharSet := ⟨[
  (0x9, 0xD), (0x20, 0x20), (0x85, 0x85), (0xA0, 0xA0), (0x1680, 0x1680), (0x2000, 0x200A), (0x2028, 0x2029),
  (0x202F, 0x202F), (0x205F, 0x205F), (0x3000, 0x3000)]⟩

/-- Is the character white space? -/
def isBlank (c : Char) : Bool := blank.contains c

end Retarget.Unicode

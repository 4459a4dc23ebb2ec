/-!
# Coloured text

Marks of emphasis for terminals. A style is put on before a text and taken off after it; without colours nothing is
marked.
-/

namespace Retarget

/-- A mark of emphasis. -/
inductive Style
  | bold
  | dimmed
  | red
  | green
  | yellow
  | cyan
  | heading
deriving Repr, BEq, DecidableEq

namespace Style

/-- What a terminal calls a style. -/
def code : Style → String
  | bold => "1"
  | dimmed => "2"
  | red => "31"
  | green => "32"
  | yellow => "33"
  | cyan => "36"
  | heading => "1;4"

/-- The sequence that puts a style on. -/
def on (s : Style) : String := "\x1b[" ++ s.code ++ "m"

/-- The sequence that takes all styles off. -/
def off : String := "\x1b[0m"

/-- A text in a style. Where the text takes all styles off, the style is put on again. -/
def paint (s : Style) (colour : Bool) (text : String) : String :=
  if colour then s.on ++ text.replace off (off ++ s.on) ++ off else text

end Style

end Retarget

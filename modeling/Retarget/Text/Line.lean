/-!
# Lines of a text

A line ends in a line feed, in a carriage return, or in both in this order. It is kept with its end, so the lines of a
text put together are the text.
-/

namespace Retarget.Text

/-- The lines of a text, each with its end; `line` is what has been read of the current one, last character first. -/
def splitFrom (line : List Char) : List Char → List (List Char)
  | [] => if line.isEmpty then [] else [line.reverse]
  | '\r' :: '\n' :: rest => ('\n' :: '\r' :: line).reverse :: splitFrom [] rest
  | c :: rest =>
    if c == '\n' || c == '\r' then (c :: line).reverse :: splitFrom [] rest else splitFrom (c :: line) rest

/-- The lines of a text, each with its end. -/
def lines (text : String) : List String := (splitFrom [] text.toList).map String.ofList

/-- Does a line have an end? -/
def isEnded (line : String) : Bool :=
  match line.toList.getLast? with
  | some c => c == '\n' || c == '\r'
  | none => false

/-- The parts of a text between line feeds, without a carriage return before one; `line` is what has been read of the
current one, last character first. -/
def bareFrom (line : List Char) : List Char → List (List Char)
  | [] => if line.isEmpty then [] else [line.reverse]
  | c :: rest =>
    if c == '\n' then
      (match line with
        | '\r' :: before => before.reverse
        | line => line.reverse) :: bareFrom [] rest
    else bareFrom (c :: line) rest

/-- The lines of a text as a terminal shows them: they end in a line feed, which is dropped with a carriage return
before it. -/
def bareLines (text : String) : List String := (bareFrom [] text.toList).map String.ofList

end Retarget.Text

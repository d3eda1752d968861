/-!
Lines of a text. Besides the line feed and the carriage return, which end one line when they stand
together, the vertical and form feeds, three of the information separators, and the line and
paragraph separators end a line.
-/

namespace Arboretum.Text

set_option autoImplicit false

def isLineEnd (symbol : Char) : Bool :=
  let code := symbol.toNat
  (0x0A ≤ code && code ≤ 0x0D) || (0x1C ≤ code && code ≤ 0x1E) || code == 0x85 || code == 0x2028 ||
    code == 0x2029

/-- The lines of a text that continues a begun line, whose characters are given last one first. What
follows the last line end is a line only if it is not empty. -/
def linesAfter (begun : List Char) : List Char → List (List Char)
  | [] => if begun.isEmpty then [] else [begun.reverse]
  | '\r' :: '\n' :: rest => begun.reverse :: linesAfter [] rest
  | symbol :: rest =>
      if isLineEnd symbol then begun.reverse :: linesAfter [] rest
      else linesAfter (symbol :: begun) rest

def lines (text : String) : List String := (linesAfter [] text.toList).map String.ofList

end Arboretum.Text

/-!
Blanks at the ends of a text. A word is trimmed of every separator character, a number only of the
separators that cannot be information separators of a data stream.
-/

namespace Arboretum.Text

set_option autoImplicit false

/-- The characters that separate words: spaces of every width, line and paragraph ends, and the four
information separators. -/
def isBlank (symbol : Char) : Bool :=
  let code := symbol.toNat
  (0x09 ≤ code && code ≤ 0x0D) || (0x1C ≤ code && code ≤ 0x20) || code == 0x85 || code == 0xA0 ||
    code == 0x1680 || (0x2000 ≤ code && code ≤ 0x200A) || code == 0x2028 || code == 0x2029 ||
    code == 0x202F || code == 0x205F || code == 0x3000

/-- The characters that may surround a number: every blank but the information separators. -/
def isNumberPadding (symbol : Char) : Bool :=
  isBlank symbol && !(0x1C ≤ symbol.toNat && symbol.toNat ≤ 0x1F)

def trimmedOf (drop : Char → Bool) (text : List Char) : List Char :=
  ((text.dropWhile drop).reverse.dropWhile drop).reverse

def trimmed (text : String) : String := String.ofList (trimmedOf isBlank text.toList)

end Arboretum.Text

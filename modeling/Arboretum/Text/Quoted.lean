import Arboretum.Text.Printable

/-!
Texts in quotation marks, as messages show them. Single marks are used unless the text holds a
single mark and no double one; what has no visible form is written by its code point.
-/

namespace Arboretum.Text

set_option autoImplicit false

def hexDigits (width value : Nat) : List Char :=
  let digits := Nat.toDigits 16 value
  List.replicate (width - digits.length) '0' ++ digits

def quotationMark (text : List Char) : Char :=
  if text.contains '\'' && !text.contains '"' then '"' else '\''

def quotedSymbol (mark symbol : Char) : List Char :=
  if symbol = mark ∨ symbol = '\\' then ['\\', symbol]
  else if symbol = '\n' then ['\\', 'n']
  else if symbol = '\r' then ['\\', 'r']
  else if symbol = '\t' then ['\\', 't']
  else if isPrintable symbol then [symbol]
  else if symbol.toNat < 0x100 then '\\' :: 'x' :: hexDigits 2 symbol.toNat
  else if symbol.toNat < 0x10000 then '\\' :: 'u' :: hexDigits 4 symbol.toNat
  else '\\' :: 'U' :: hexDigits 8 symbol.toNat

def quoted (text : String) : String :=
  let symbols := text.toList
  let mark := quotationMark symbols
  String.ofList (mark :: symbols.flatMap (quotedSymbol mark) ++ [mark])

end Arboretum.Text

import Arboretum.Number.Reading

/-!
Numbers given as values of options. Only basic Latin digits count. An integer may be padded, have a
sign, leading zeros and a fraction of zeros, and low lines between its digits; a real number may be
padded or have low lines, but not both. Low lines stand apart from each other and from the ends,
except that those among leading zeros are dropped with the zeros. An integer without a minus in
front may have it after its leading zeros.
-/

namespace Arboretum.OptionValue

open Number

set_option autoImplicit false

def joined? (text : List Char) : Option (List Char) :=
  let endsWell := text.head? != some '_' && text.getLast? != some '_'
  let apart := (text.zip (text.drop 1)).all fun pair => pair != ('_', '_')
  if text.contains '_' && endsWell && apart then some (text.filter (· != '_')) else none

def readDigits? : List Char → Option Nat
  | [] => none
  | ['0'] => some 0
  | first :: rest =>
      if first != '0' && (first :: rest).all Char.isDigit then
        some (valueOfDigits ((first :: rest).map fun symbol => symbol.toNat - '0'.toNat))
      else none

def readStrict? (text : List Char) : Option Int :=
  if integerDigitLimit < text.length then none
  else
    match text with
    | '-' :: digits => (readDigits? digits).map fun size => -(size : Int)
    | digits => (readDigits? digits).map Int.ofNat

/-- What is left of a text that began with a zero, `last` being the character before the rest, when
the zeros and low lines in front are dropped: the text from another digit or a minus on. One
character stays where neither follows. -/
def afterZeros? (last : Char) : List Char → Option (List Char)
  | [] => some [last]
  | symbol :: rest =>
      if symbol = '0' ∨ symbol = '_' then afterZeros? symbol rest
      else if symbol.isDigit ∨ symbol = '-' then some (symbol :: rest)
      else if symbol = '.' then some (last :: symbol :: rest)
      else none

/-- The text without zeros in front; a text that does not begin with a digit is refused. -/
def withoutZeros? : List Char → Option (List Char)
  | '0' :: rest => afterZeros? '0' rest
  | first :: rest => if first.isDigit then some (first :: rest) else none
  | [] => none

def splitSign : List Char → Bool × List Char
  | '-' :: rest => (true, rest)
  | '+' :: rest => (false, rest)
  | text => (false, text)

def withoutFraction (text : List Char) : List Char :=
  let whole := text.takeWhile (· != '.')
  match text.dropWhile (· != '.') with
  | _ :: '0' :: zeros => if zeros.all (· == '0') then whole else text
  | _ => text

def readInteger? (text : String) : Option Int :=
  match readStrict? text.toList with
  | some value => some value
  | none => do
      let (negative, size) := splitSign (Text.trimmedOf Text.isNumberPadding text.toList)
      let whole := withoutFraction (← withoutZeros? size)
      let digits := (joined? whole).getD whole
      readStrict? (if negative then '-' :: digits else digits)

def readPlainReal? (text : List Char) : Option Float :=
  if text.contains '_' then none
  else
    readRealMarks? <| text.map fun symbol =>
      if symbol.isDigit then .digit (symbol.toNat - '0'.toNat) else .other symbol

def readReal? (text : String) : Option Float :=
  match readPlainReal? (Text.trimmedOf Text.isNumberPadding text.toList) with
  | some value => some value
  | none => (joined? text.toList).bind readPlainReal?

end Arboretum.OptionValue

import Arboretum.Number.Binary64
import Arboretum.Text.Blank
import Arboretum.Text.Digit

/-!
Numbers read from text. Padding is trimmed, digits of every script count, and a low line may stand
between two digits. A real number is a decimal with an optional point and exponent, or a name of
infinity or of no number; its value is the nearest binary64 word.
-/

namespace Arboretum.Number

open Text

set_option autoImplicit false

def integerDigitLimit : Nat := 4300

inductive Mark where
  | digit (value : Nat)
  | other (symbol : Char)
  deriving DecidableEq, Repr

def Mark.ofChar (symbol : Char) : Mark :=
  match digitValue? symbol with
  | some value => .digit value
  | none => .other symbol

def marksOf (text : String) : List Mark :=
  (trimmedOf isNumberPadding text.toList).map Mark.ofChar

def takeSign : List Mark → Bool × List Mark
  | .other '-' :: rest => (true, rest)
  | .other '+' :: rest => (false, rest)
  | marks => (false, marks)

def takeDigits : List Mark → List Nat × List Mark
  | .digit value :: .other '_' :: .digit next :: rest =>
      let (digits, after) := takeDigits (.digit next :: rest)
      (value :: digits, after)
  | .digit value :: rest =>
      let (digits, after) := takeDigits rest
      (value :: digits, after)
  | marks => ([], marks)

def valueOfDigits (digits : List Nat) : Nat :=
  digits.foldl (fun value digit => 10 * value + digit) 0

def readInteger? (text : String) : Option Int :=
  let (negative, marks) := takeSign (marksOf text)
  match takeDigits marks with
  | ([], _) => none
  | (digits, []) =>
      if integerDigitLimit < digits.length then none
      else some (Binary64.signed negative (valueOfDigits digits))
  | _ => none

def nameOf? (marks : List Mark) : Option (List Char) :=
  marks.mapM fun
    | .other symbol => some symbol.toLower
    | .digit _ => none

def readExponent? : List Mark → Option Int
  | [] => some 0
  | .other letter :: rest =>
      if letter = 'e' ∨ letter = 'E' then
        let (negative, marks) := takeSign rest
        match takeDigits marks with
        | ([], _) => none
        | (digits, []) => some (Binary64.signed negative (valueOfDigits digits))
        | _ => none
      else none
  | _ => none

/-- The nearest word to `digits * 10 ^ exponent`. Outside the exponents tested below, every number
with that many digits is infinite or zero. -/
def nearestDecimal (negative : Bool) (digits : List Nat) (exponent : Int) : Float :=
  let value := valueOfDigits digits
  let zero := Float.ofBits (UInt64.ofNat (if negative then Nat.pow 2 63 else 0))
  if value = 0 then zero
  else if 400 < exponent then Binary64.infinity negative
  else if exponent + digits.length < -400 then zero
  else
    (Binary64.nearest? negative (Quotient.shift ⟨value, 1⟩ 10 exponent)).getD
      (Binary64.infinity negative)

def readRealMarks? (text : List Mark) : Option Float :=
  let (negative, marks) := takeSign text
  let name := nameOf? marks
  if name = some "inf".toList ∨ name = some "infinity".toList then
    some (Binary64.infinity negative)
  else if name = some "nan".toList then some Binary64.nan
  else
    let (whole, afterWhole) := takeDigits marks
    let (fraction, afterFraction) :=
      match afterWhole with
      | .other '.' :: rest => takeDigits rest
      | marks => ([], marks)
    if whole ++ fraction = [] then none
    else
      (readExponent? afterFraction).map fun exponent =>
        nearestDecimal negative (whole ++ fraction) (exponent - fraction.length)

def readReal? (text : String) : Option Float := readRealMarks? (marksOf text)

end Arboretum.Number

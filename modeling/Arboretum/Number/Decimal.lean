import Arboretum.Number.Binary64

/-!
Decimal texts of binary64 words: the shortest digits that read back as the same word, a fixed number
of places, a fixed number of significant digits, and the general form that drops trailing zeros. All
of them round the exact value, and a half goes to the even digit.
-/

namespace Arboretum.Number

set_option autoImplicit false

/-- The number `digits * 10 ^ exponent`. -/
structure Decimal where
  digits : Nat
  exponent : Int
  deriving DecidableEq, Repr

namespace Decimal

def strippedWithin : Nat → Decimal → Decimal
  | 0, decimal => decimal
  | fuel + 1, decimal =>
      if decimal.digits ≠ 0 ∧ decimal.digits % 10 = 0 then
        strippedWithin fuel ⟨decimal.digits / 10, decimal.exponent + 1⟩
      else decimal

def stripped (decimal : Decimal) : Decimal :=
  if decimal.digits = 0 then ⟨0, 0⟩ else strippedWithin (Nat.log2 decimal.digits) decimal

/-- The least `k` with `quotient < 10 ^ k`, for a positive quotient. The binary logarithm leaves
four candidates, because 0.30103 is just above the decimal logarithm of two. -/
def pointPosition (quotient : Quotient) : Int :=
  let start := (Binary64.logarithmBound quotient - 1) * 30103 / 100000 - 1
  let above (power : Int) : Bool :=
    let scaled := quotient.shift 10 (-power)
    scaled.numerator < scaled.denominator
  (([0, 1, 2, 3].map (start + ·)).find? above).getD (start + 4)

def significant (quotient : Quotient) (count : Nat) : Decimal :=
  let exponent := pointPosition quotient - count
  let rounded := (quotient.shift 10 (-exponent)).round
  if rounded = Nat.pow 10 count then ⟨Nat.pow 10 (count - 1), exponent + 1⟩ else ⟨rounded, exponent⟩

/-- The numbers that round to one positive word, as multiples of a quarter of the word's last place:
the interval's ends, the word itself, and whether the ends belong to it. -/
structure RoundingInterval where
  lower : Nat
  value : Nat
  upper : Nat
  closed : Bool

def roundingInterval (mantissa : Nat) (exponent : Int) : RoundingInterval where
  lower :=
    if mantissa = Nat.pow 2 Binary64.fractionBits ∧ Binary64.leastExponent < exponent then
      4 * mantissa - 1
    else 4 * mantissa - 2
  value := 4 * mantissa
  upper := 4 * mantissa + 2
  closed := mantissa % 2 == 0

/-- The multiple of `10 ^ power` that reads back as the word and lies nearest to it, if one does. Of
the multiples only the two next to the value can be nearest. -/
def onGrid? (interval : RoundingInterval) (exponent power : Int) : Option Nat :=
  let scale := Quotient.shift (Quotient.shift ⟨1, 4⟩ 2 exponent) 10 (-power)
  let value := interval.value * scale.numerator
  let below := value / scale.denominator
  let inside (candidate : Nat) : Bool :=
    let position := candidate * scale.denominator
    let lower := interval.lower * scale.numerator
    let upper := interval.upper * scale.numerator
    if interval.closed then lower ≤ position && position ≤ upper
    else lower < position && position < upper
  let rest := value - below * scale.denominator
  let belowIsNearer := 2 * rest < scale.denominator ∨
    (2 * rest = scale.denominator ∧ below % 2 = 0)
  match inside below, inside (below + 1) with
  | true, true => some (if belowIsNearer then below else below + 1)
  | true, false => some below
  | false, true => some (below + 1)
  | false, false => none

/-- Lowers the digit count while a shorter decimal still reads back. A grid contains every coarser
one, so the first miss ends the search. -/
def shorten (interval : RoundingInterval) (exponent point : Int) : Nat → Decimal → Decimal
  | 0, best => best
  | count + 1, best =>
      match onGrid? interval exponent (point - (count + 1)) with
      | some digits => shorten interval exponent point count ⟨digits, point - (count + 1)⟩
      | none => best

/-- The shortest decimal that reads back as the positive word `mantissa * 2 ^ exponent`, and of
those the nearest to it. Seventeen digits always suffice. -/
def shortest (mantissa : Nat) (exponent : Int) : Decimal :=
  let point := pointPosition (Binary64.magnitude mantissa exponent)
  (shorten (roundingInterval mantissa exponent) exponent point 17 ⟨0, 0⟩).stripped

end Decimal

def digitsOf (value : Nat) : List Char := Nat.toDigits 10 value

def zeroPadded (width : Nat) (text : List Char) : List Char :=
  List.replicate (width - text.length) '0' ++ text

/-- Writes `digits * 10 ^ (-places)` with exactly `places` digits after the point, and no point when
there are none. -/
def pointed (digits places : Nat) : List Char :=
  let text := zeroPadded (places + 1) (digitsOf digits)
  let (whole, fraction) := text.splitAt (text.length - places)
  if places = 0 then whole else whole ++ '.' :: fraction

def exponentText (exponent : Int) : List Char :=
  'e' :: (if exponent < 0 then '-' else '+') :: zeroPadded 2 (digitsOf exponent.natAbs)

def leadingPointed (digits : Nat) : List Char :=
  match digitsOf digits with
  | first :: second :: rest => first :: '.' :: second :: rest
  | short => short

def specialText : Binary64 → Option String
  | .notANumber => some "nan"
  | .infinite false => some "inf"
  | .infinite true => some "-inf"
  | .finite _ _ _ => none

def withSign (negative : Bool) (text : List Char) : String :=
  String.ofList (if negative then '-' :: text else text)

/-- The shortest text that reads back: positional from 0.0001 up to, not including, `10 ^ 16`, with
`.0` after a whole number, and with an exponent otherwise. -/
def shortestText (value : Float) : String :=
  match Binary64.ofFloat value with
  | .finite negative mantissa exponent =>
      if mantissa = 0 then withSign negative ['0', '.', '0']
      else
        let decimal := Decimal.shortest mantissa exponent
        let leading := decimal.exponent + (digitsOf decimal.digits).length - 1
        withSign negative <|
          if leading < -4 ∨ 16 ≤ leading then
            leadingPointed decimal.digits ++ exponentText leading
          else if 0 ≤ decimal.exponent then
            digitsOf (decimal.digits * Nat.pow 10 decimal.exponent.toNat) ++ ['.', '0']
          else pointed decimal.digits (-decimal.exponent).toNat
  | other => (specialText other).getD ""

def fixedText (places : Nat) (value : Float) : String :=
  match Binary64.ofFloat value with
  | .finite negative mantissa exponent =>
      withSign negative
        (pointed ((Binary64.magnitude mantissa exponent).shift 10 places).round places)
  | other => (specialText other).getD ""

/-- The value with one digit before the point and a fixed number after it, and an exponent. -/
def scientificText (places : Nat) (value : Float) : String :=
  match Binary64.ofFloat value with
  | .finite negative mantissa exponent =>
      withSign negative <|
        if mantissa = 0 then pointed 0 places ++ exponentText 0
        else
          let decimal := Decimal.significant (Binary64.magnitude mantissa exponent) (places + 1)
          leadingPointed decimal.digits ++ exponentText (decimal.exponent + places)
  | other => (specialText other).getD ""

/-- Six significant digits without trailing zeros: positional from 0.0001 up to, not including, a
million, and with an exponent otherwise. -/
def generalText (value : Float) : String :=
  match Binary64.ofFloat value with
  | .finite negative mantissa exponent =>
      withSign negative <|
        if mantissa = 0 then ['0']
        else
          let rounded := Decimal.significant (Binary64.magnitude mantissa exponent) 6
          let leading := rounded.exponent + 5
          let decimal := rounded.stripped
          if leading < -4 ∨ 6 ≤ leading then
            leadingPointed decimal.digits ++ exponentText leading
          else if 0 ≤ decimal.exponent then
            digitsOf (decimal.digits * Nat.pow 10 decimal.exponent.toNat)
          else pointed decimal.digits (-decimal.exponent).toNat
  | other => (specialText other).getD ""

def rightAligned (width : Nat) (text : String) : String :=
  String.ofList (List.replicate (width - text.length) ' ') ++ text

end Arboretum.Number

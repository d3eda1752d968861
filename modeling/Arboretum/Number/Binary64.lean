/-!
Binary64 words and the exact numbers they stand for. Every finite word is an integer times a power
of two, so whole parts, remainders and comparisons are integer arithmetic, and a quotient of two
integers has one nearest word, which `nearest?` computes with ties going to the even mantissa.
-/

namespace Arboretum.Number

set_option autoImplicit false

/-- What a binary64 word stands for; a finite one is `± mantissa * 2 ^ exponent`. -/
inductive Binary64 where
  | notANumber
  | infinite (negative : Bool)
  | finite (negative : Bool) (mantissa : Nat) (exponent : Int)
  deriving DecidableEq, Repr

structure Quotient where
  numerator : Nat
  denominator : Nat
  deriving DecidableEq, Repr

def Quotient.round (quotient : Quotient) : Nat :=
  let whole := quotient.numerator / quotient.denominator
  let rest := quotient.numerator % quotient.denominator
  if 2 * rest < quotient.denominator then whole
  else if quotient.denominator < 2 * rest then whole + 1
  else whole + whole % 2

def Quotient.shift (quotient : Quotient) (base : Nat) (power : Int) : Quotient :=
  if 0 ≤ power then
    ⟨quotient.numerator * Nat.pow base power.toNat, quotient.denominator⟩
  else
    ⟨quotient.numerator, quotient.denominator * Nat.pow base (-power).toNat⟩

namespace Binary64

def fractionBits : Nat := 52

def leastExponent : Int := -1074

def ofBits (bits : Nat) : Binary64 :=
  let negative := decide (bits / Nat.pow 2 63 % 2 = 1)
  let exponentField : Nat := bits / Nat.pow 2 fractionBits % Nat.pow 2 11
  let fraction := bits % Nat.pow 2 fractionBits
  if exponentField = 2047 then
    if fraction = 0 then .infinite negative else .notANumber
  else if exponentField = 0 then
    .finite negative fraction leastExponent
  else
    .finite negative (Nat.pow 2 fractionBits + fraction) (leastExponent + (exponentField : Int) - 1)

def ofFloat (value : Float) : Binary64 := ofBits value.toBits.toNat

def magnitude (mantissa : Nat) (exponent : Int) : Quotient :=
  Quotient.shift ⟨mantissa, 1⟩ 2 exponent

def signed (negative : Bool) (size : Nat) : Int :=
  if negative then -(size : Int) else size

/-- The integer next to a number in the direction of zero; zero for a word that is no number. -/
def integerPart : Binary64 → Int
  | .finite negative mantissa exponent =>
      let size := magnitude mantissa exponent
      signed negative (size.numerator / size.denominator)
  | _ => 0

def floor : Binary64 → Int
  | .finite negative mantissa exponent =>
      let size := magnitude mantissa exponent
      (signed negative size.numerator) / (size.denominator : Int)
  | _ => 0

def ceiling : Binary64 → Int
  | .finite negative mantissa exponent => -floor (.finite (!negative) mantissa exponent)
  | _ => 0

def multipleOf (common : Int) : Binary64 → Int
  | .finite negative mantissa exponent =>
      signed negative (mantissa * Nat.pow 2 (exponent - common).toNat)
  | _ => 0

/-- The order of the numbers that two words stand for, infinities at the ends; a word that is no
number is neither less nor greater than any other. -/
def less : Binary64 → Binary64 → Bool
  | .notANumber, _ => false
  | _, .notANumber => false
  | .infinite negative, .infinite otherNegative => negative && !otherNegative
  | .infinite negative, .finite _ _ _ => negative
  | .finite _ _ _, .infinite negative => !negative
  | .finite negative mantissa exponent, .finite otherNegative otherMantissa otherExponent =>
      let common := min exponent otherExponent
      decide (multipleOf common (.finite negative mantissa exponent)
        < multipleOf common (.finite otherNegative otherMantissa otherExponent))

def same : Binary64 → Binary64 → Bool
  | .notANumber, _ => false
  | _, .notANumber => false
  | left, right => !less left right && !less right left

def logarithmBound (quotient : Quotient) : Int :=
  (quotient.numerator.log2 : Int) - (quotient.denominator.log2 : Int)

/-- The exponent of the word nearest to a positive quotient: the one that leaves 53 bits of
mantissa, or the least exponent when there are fewer. -/
def exponentFor (quotient : Quotient) : Int :=
  let upper := logarithmBound quotient - fractionBits
  let exponent :=
    if (quotient.shift 2 (-upper)).numerator / (quotient.shift 2 (-upper)).denominator
        < Nat.pow 2 fractionBits then upper - 1 else upper
  max exponent leastExponent

/-- The bits of the non-negative word nearest to a quotient with positive denominator; `none` when
the quotient rounds beyond every finite word. A mantissa that rounds up to the next power of two
carries into the exponent field by plain addition. -/
def nearestBits? (quotient : Quotient) : Option Nat :=
  if quotient.numerator = 0 then some 0
  else
    let exponent := exponentFor quotient
    let mantissa := (quotient.shift 2 (-exponent)).round
    let bits :=
      if mantissa < Nat.pow 2 fractionBits then mantissa
      else (exponent - leastExponent).toNat * Nat.pow 2 fractionBits + mantissa
    if bits < 2047 * Nat.pow 2 fractionBits then some bits else none

def nearest? (negative : Bool) (quotient : Quotient) : Option Float :=
  (nearestBits? quotient).map fun bits =>
    Float.ofBits (UInt64.ofNat (if negative then Nat.pow 2 63 + bits else bits))

def infinity (negative : Bool) : Float :=
  let sign := if negative then Nat.pow 2 63 else 0
  Float.ofBits (UInt64.ofNat (sign + 2047 * Nat.pow 2 fractionBits))

def nan : Float := Float.ofBits (UInt64.ofNat (2047 * Nat.pow 2 fractionBits + Nat.pow 2 51))

def ofInt? (value : Int) : Option Float :=
  nearest? (decide (value < 0)) ⟨value.natAbs, 1⟩

def ofRatio? (dividend divisor : Int) : Option Float :=
  nearest? (decide (dividend < 0) != decide (divisor < 0))
    ⟨dividend.natAbs, divisor.natAbs⟩

def remainder : Binary64 → Binary64 → Float
  | .finite negative mantissa exponent, .finite _ divisorMantissa divisorExponent =>
      let common := min exponent divisorExponent
      let dividend := mantissa * Nat.pow 2 (exponent - common).toNat
      let divisor := divisorMantissa * Nat.pow 2 (divisorExponent - common).toNat
      (nearest? negative (magnitude (dividend % divisor) common)).getD nan
  | .finite negative mantissa exponent, .infinite _ =>
      (nearest? negative (magnitude mantissa exponent)).getD nan
  | _, _ => nan

/-- The greatest integer whose square is not above a number: twice the root of a quarter
of it, or the next integer. -/
def integerRoot (square : Nat) : Nat :=
  if square < 2 then square
  else
    let root := 2 * integerRoot (square / 4)
    if (root + 1) * (root + 1) ≤ square then root + 1 else root
termination_by square
decreasing_by omega

/-- Doublings of a root that leave it more digits than a word has, the half below its last place
included. -/
def rootDoublings : Nat := 55

/-- The word nearest to the root of `square * 2 ^ (2 * exponent)`, for an exponent that a word can
have. A root that is no integer lies between two, and the half between them rounds alike. -/
def nearestRoot? (square : Nat) (exponent : Int) : Option Float :=
  let scaled := square * Nat.pow 4 rootDoublings
  let root := integerRoot scaled
  let halves := if root * root = scaled then 2 * root else 2 * root + 1
  nearest? false (magnitude halves (exponent - rootDoublings - 1))

/-- The word nearest to the length of the diagonal of a rectangle. An infinite side makes it
infinite whatever the other one is. -/
def diagonal : Binary64 → Binary64 → Float
  | .infinite _, _ => infinity false
  | _, .infinite _ => infinity false
  | .notANumber, _ => nan
  | _, .notANumber => nan
  | .finite _ mantissa exponent, .finite _ otherMantissa otherExponent =>
      let common := min exponent otherExponent
      let width := mantissa * Nat.pow 2 (exponent - common).toNat
      let height := otherMantissa * Nat.pow 2 (otherExponent - common).toNat
      (nearestRoot? (width * width + height * height) common).getD (infinity false)

/-- The integer nearest to a non-negative number from below, except that one lying more than half a
unit above it counts as the next integer: the whole quotient of a division whose remainder has
already been taken off. -/
def wholeQuotient (quotient : Binary64) : Int :=
  match quotient with
  | .finite false mantissa exponent =>
      let size := magnitude mantissa exponent
      let whole := size.numerator / size.denominator
      if size.denominator < 2 * (size.numerator % size.denominator) then whole + 1 else whole
  | other => floor other

end Binary64

end Arboretum.Number

import Arboretum.Fault
import Arboretum.Number.Binary64

/-!
The numbers that geometry and time are computed with. The rules of growth and of animation only need
the operations below, so they are written once for every such number system: binary64 words when the
library runs, exact numbers where a law is about exact arithmetic.
-/

namespace Arboretum

set_option autoImplicit false

/-- A number system for lengths, angles, times and chances. Division is only ever asked for with a
divisor that is not zero; a whole part only of a number that is finite. -/
class Scalar (α : Type) extends Add α, Sub α, Mul α, Div α, Neg α, LT α, LE α, BEq α,
    OfScientific α where
  decideLt : (left right : α) → Decidable (left < right)
  decideLe : (left right : α) → Decidable (left ≤ right)
  isFinite : α → Bool
  isNaN : α → Bool
  squareRoot : α → α
  sine : α → α
  cosine : α → α
  halfTurn : α
  /-- The integer next to a finite number in the direction of zero. -/
  integerPart : α → Int
  ceiling : α → Int
  /-- How often a positive period fits into a non-negative number. -/
  wholeQuotient : α → α → Int
  /-- What is left of a non-negative number after taking off whole periods. -/
  remainder : α → α → α
  /-- The number nearest to an integer, if the system reaches that far. -/
  ofInt? : Int → Option α
  /-- The number nearest to a quotient of integers, if the system reaches that far. -/
  ofRatio? : Int → Int → Option α
  diagonal : α → α → α

namespace Scalar

variable {α : Type} [Scalar α]

instance (left right : α) : Decidable (left < right) := Scalar.decideLt left right

instance (left right : α) : Decidable (left ≤ right) := Scalar.decideLe left right

def larger (first second : α) : α := if first < second then second else first

def smaller (first second : α) : α := if second < first then second else first

def clamp (value lower upper : α) : α := larger lower (smaller upper value)

def isInfinite (value : α) : Bool := !isFinite value && !isNaN value

def ofInt (value : Int) : Except Fault α :=
  match ofInt? value with
  | some number => .ok number
  | none => .error .integerBeyondReals

def ratio (dividend divisor : Int) : Except Fault α :=
  if divisor = 0 then .error .integerDividedByZero
  else
    match ofRatio? dividend divisor with
    | some number => .ok number
    | none => .error .quotientBeyondReals

def quotient (dividend divisor : α) : Except Fault α :=
  if divisor == 0.0 then .error .realDividedByZero else .ok (dividend / divisor)

def requireFinite (value : α) : Except Fault Unit :=
  if isNaN value then .error .integerOfNaN
  else if isFinite value then .ok () else .error .integerOfInfinity

def truncate (value : α) : Except Fault Int := do
  requireFinite value
  return integerPart value

def roundUp (value : α) : Except Fault Int := do
  requireFinite value
  return ceiling value

def radians (degrees : α) : α := degrees * (halfTurn / 180.0)

end Scalar

open Number in
def Number.floatWholeQuotient (value period : Float) : Int :=
  let rest := Binary64.remainder (.ofFloat value) (.ofFloat period)
  Binary64.wholeQuotient (.ofFloat ((value - rest) / period))

open Number in
instance : Scalar Float where
  decideLt _ _ := inferInstance
  decideLe _ _ := inferInstance
  isFinite value := value.isFinite
  isNaN value := value.isNaN
  squareRoot := Float.sqrt
  sine := Float.sin
  cosine := Float.cos
  halfTurn := 3.141592653589793
  integerPart value := (Binary64.ofFloat value).integerPart
  ceiling value := (Binary64.ofFloat value).ceiling
  wholeQuotient := floatWholeQuotient
  remainder value period := Binary64.remainder (.ofFloat value) (.ofFloat period)
  ofInt? := Binary64.ofInt?
  ofRatio? := Binary64.ofRatio?
  diagonal width height := Binary64.diagonal (.ofFloat width) (.ofFloat height)

end Arboretum

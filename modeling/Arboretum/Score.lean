import Arboretum.Number.Reading
import Arboretum.Number.Scalar

/-!
Activity scores. A score may arrive as a number, a text or anything else; growth only ever sees a
finite number that is not negative, and everything that is none counts as zero, a seed. Only an
integer beyond the reals is refused.
-/

namespace Arboretum

set_option autoImplicit false

inductive RawScore where
  | integer (value : Int)
  | real (value : Float)
  | text (value : String)
  | flag (value : Bool)
  | other

namespace Score

def sanitize {α : Type} [Scalar α] (value : α) : α :=
  if !Scalar.isFinite value || decide (value < 0.0) then 0.0 else value

end Score

namespace RawScore

def number? : RawScore → Except Fault (Option Float)
  | .integer value => (Scalar.ofInt value).map some
  | .real value => .ok (some value)
  | .text value => .ok (Number.readReal? value)
  | .flag value => .ok (some (if value then 1.0 else 0.0))
  | .other => .ok none

def sanitized (score : RawScore) : Except Fault Float :=
  score.number?.map fun
    | some value => Score.sanitize value
    | none => 0.0

end RawScore

end Arboretum

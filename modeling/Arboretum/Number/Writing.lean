import Arboretum.Fault
import Arboretum.Number.Reading

/-!
Integers written into texts. A text never holds an integer that is too long to be read back.
-/

namespace Arboretum.Number

set_option autoImplicit false

def isWritable (value : Int) : Bool := value.natAbs < Nat.pow 10 integerDigitLimit

def requireWritable (value : Int) : Except Fault Int :=
  if isWritable value then .ok value else .error .integerTooLong

end Arboretum.Number

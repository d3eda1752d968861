/-!
The phases of an animation. It is idle until a run starts, reveals the tree of the run, and is
settled once everything has been shown for long enough.
-/

namespace Arboretum

set_option autoImplicit false

inductive GrowthPhase where
  | idle
  | revealing
  | settled
  deriving DecidableEq, Repr

def GrowthPhase.text : GrowthPhase → String
  | .idle => "idle"
  | .revealing => "revealing"
  | .settled => "settled"

end Arboretum

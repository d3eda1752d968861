import Arboretum.Tree.Turtle

/-!
Foliage scattered along the side branches. The leaves that the turtle placed come first; each
branch off the trunk may then add one or two near random points of it, until there are as many
leaves as the density target allows.
-/

namespace Arboretum.Scatter

set_option autoImplicit false

variable {σ α : Type} [Scalar α] [ChanceSource σ α]

def probability : α := 0.7

def countBound : α := 3.0

def leafOn (parameters : GrowthParameters α) (jitter : JitterBands α) (branch : Branch α) :
    Drawing σ (LeafSite α) := do
  let anchor := branch.pointAt (← Drawing.unit)
  let position ← Turtle.jittered jitter.scatterOffset anchor
  let size ← Drawing.between 1.5 4.0
  let rotation ← Drawing.between 0.0 Turtle.fullTurn
  return LeafSite.fresh position size rotation (← leafColor parameters.paletteIndex) .leaf

def leavesOn (parameters : GrowthParameters α) (jitter : JitterBands α) (branch : Branch α) :
    Nat → Drawing σ (List (LeafSite α))
  | 0 => pure []
  | count + 1 => do
      let leaf ← leafOn parameters jitter branch
      return leaf :: (← leavesOn parameters jitter branch count)

/-- What one branch adds: nothing on the trunk, nothing if chance passes the branch over, and
at least one leaf otherwise. -/
def added (parameters : GrowthParameters α) (jitter : JitterBands α) (branch : Branch α) :
    Drawing σ (List (LeafSite α)) := do
  if branch.level = 0 then return []
  if probability ≤ (← Drawing.unit) then return []
  let count ← Scalar.truncate ((← Drawing.unit) * countBound)
  leavesOn parameters jitter branch (max 1 count).toNat

/-- The leaves after going through the branches in order, stopping at the first branch that adds
some and brings their number to the target. -/
def along (parameters : GrowthParameters α) (jitter : JitterBands α) (target : Nat) :
    List (Branch α) → Array (LeafSite α) → Drawing σ (Array (LeafSite α))
  | [], leaves => pure leaves
  | branch :: rest, leaves => do
      let more ← added parameters jitter branch
      let leaves := leaves ++ more
      if !more.isEmpty && target ≤ leaves.size then return leaves
      along parameters jitter target rest leaves

end Arboretum.Scatter

namespace Arboretum

def scatterLeaves {σ α : Type} [Scalar α] [ChanceSource σ α] (branches : List (Branch α))
    (leaves : List (LeafSite α)) (parameters : GrowthParameters α) (jitter : JitterBands α) :
    Drawing σ (List (LeafSite α)) := do
  if parameters.leafDensityTarget ≤ 0 then return []
  let target := parameters.leafDensityTarget.toNat
  let scattered ← Scatter.along parameters jitter target branches leaves.toArray
  return scattered.toList.take target

end Arboretum

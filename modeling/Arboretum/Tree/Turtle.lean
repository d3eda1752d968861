import Arboretum.Grammar.Word
import Arboretum.Parameters
import Arboretum.Tree.Branch

/-!
The turtle that draws a word. It walks over the word once: `F` draws a branch, `X` places a leaf, a
sign turns, an opening bracket saves the turtle and a closing one brings the last saved turtle back.
Branches and leaves come in the order of their symbols, which is the order of their reveal.
-/

namespace Arboretum

set_option autoImplicit false

structure JitterBands (α : Type) where
  angleJitterScale : α
  turnScaleLow : α
  turnScaleHigh : α
  leafOffset : α
  scatterOffset : α
  deriving Repr

namespace JitterBands

variable {α : Type} [Scalar α]

def usual : JitterBands α where
  angleJitterScale := 1.0
  turnScaleLow := 0.8
  turnScaleHigh := 1.2
  leafOffset := 5.0
  scatterOffset := 6.0

def none : JitterBands α where
  angleJitterScale := 0.0
  turnScaleLow := 1.0
  turnScaleHigh := 1.0
  leafOffset := 0.0
  scatterOffset := 0.0

end JitterBands

structure Turtle (α : Type) where
  position : Point α
  heading : α
  segmentLength : α
  thickness : α
  level : Int
  deriving Repr

namespace Turtle

variable {σ α : Type} [Scalar α] [ChanceSource σ α]

def upward : α := -Scalar.halfTurn / 2.0

def flowerProbability : α := 0.3

def fullTurn : α := 2.0 * Scalar.halfTurn

def initial (parameters : GrowthParameters α) (surface : Surface α) : Turtle α where
  position := surface.root
  heading := upward
  segmentLength := parameters.baseSegmentLength
  thickness := parameters.baseThickness
  level := 0

def descend (lengthDecay thicknessDecay : α) (turtle : Turtle α) : Turtle α :=
  { turtle with
    segmentLength := turtle.segmentLength * lengthDecay
    thickness := turtle.thickness * thicknessDecay
    level := turtle.level + 1 }

def turned (angle : α) (turtle : Turtle α) : Turtle α :=
  { turtle with heading := turtle.heading + angle }

def ahead (turtle : Turtle α) (direction : α) : Except Fault (Point α) :=
  if Scalar.isInfinite direction then .error .angleWithoutDirection
  else
    .ok
      { x := turtle.position.x + turtle.segmentLength * Scalar.cosine direction
        y := turtle.position.y + turtle.segmentLength * Scalar.sine direction }

def branchTo (turtle : Turtle α) (finish : Point α) : Branch α where
  start := turtle.position
  finish := finish
  thickness := turtle.thickness
  level := turtle.level
  colorKey := branchColor turtle.level

def jittered (spread : α) (point : Point α) : Drawing σ (Point α) := do
  let across ← Drawing.between (-spread) spread
  let along ← Drawing.between (-spread) spread
  return ⟨point.x + across, point.y + along⟩

def leafAt (parameters : GrowthParameters α) (jitter : JitterBands α) (point : Point α) :
    Drawing σ (LeafSite α) := do
  let position ← jittered jitter.leafOffset point
  let size ← Drawing.between 2.0 5.0
  let rotation ← Drawing.between 0.0 fullTurn
  if (← Drawing.unit) < flowerProbability then
    return LeafSite.fresh position size rotation flowerPetalColor .flower
  else
    return LeafSite.fresh position size rotation (← leafColor parameters.paletteIndex) .leaf

end Turtle

/-- A turtle on its way: where it is, the turtles it has saved, the last one first, and what it has
drawn so far. -/
structure Walk (α : Type) where
  turtle : Turtle α
  saved : List (Turtle α)
  branches : Array (Branch α)
  leaves : Array (LeafSite α)

structure Interpretation (α : Type) where
  branches : List (Branch α)
  leaves : List (LeafSite α)

namespace Walk

variable {σ α : Type} [Scalar α] [ChanceSource σ α]

def initial (parameters : GrowthParameters α) (surface : Surface α) : Walk α :=
  ⟨Turtle.initial parameters surface, [], #[], #[]⟩

def drawSegment (parameters : GrowthParameters α) (jitter : JitterBands α) (walk : Walk α) :
    Drawing σ (Walk α) := do
  let largest := parameters.angleJitterDegrees * jitter.angleJitterScale
  let offset := Scalar.radians (← Drawing.between (-largest) largest)
  let finish ← walk.turtle.ahead (walk.turtle.heading + offset)
  return { walk with
    turtle := { walk.turtle with position := finish }
    branches := walk.branches.push (walk.turtle.branchTo finish) }

def placeLeaf (parameters : GrowthParameters α) (jitter : JitterBands α) (walk : Walk α) :
    Drawing σ (Walk α) := do
  let leaf ← Turtle.leafAt parameters jitter walk.turtle.position
  return { walk with leaves := walk.leaves.push leaf }

def turn (parameters : GrowthParameters α) (jitter : JitterBands α) (sign : α) (walk : Walk α) :
    Drawing σ (Walk α) := do
  let scale ← Drawing.between jitter.turnScaleLow jitter.turnScaleHigh
  let angle := sign * Scalar.radians parameters.baseAngleDegrees * scale
  return { walk with turtle := walk.turtle.turned angle }

def openBranch (parameters : GrowthParameters α) (walk : Walk α) : Walk α :=
  { walk with
    turtle := walk.turtle.descend parameters.lengthDecay parameters.thicknessDecay
    saved := walk.turtle :: walk.saved }

def closeBranch (walk : Walk α) : Walk α :=
  match walk.saved with
  | [] => walk
  | turtle :: saved => { walk with turtle, saved }

def step (parameters : GrowthParameters α) (jitter : JitterBands α) (walk : Walk α)
    (symbol : Char) : Drawing σ (Walk α) :=
  match symbol with
  | 'F' => walk.drawSegment parameters jitter
  | 'X' => walk.placeLeaf parameters jitter
  | '+' => walk.turn parameters jitter 1.0
  | '-' => walk.turn parameters jitter (-1.0)
  | '[' => pure (walk.openBranch parameters)
  | ']' => pure walk.closeBranch
  | _ => pure walk

def along (parameters : GrowthParameters α) (jitter : JitterBands α) :
    Word → Walk α → Drawing σ (Walk α)
  | [], walk => pure walk
  | symbol :: rest, walk => do along parameters jitter rest (← walk.step parameters jitter symbol)

def interpretation (walk : Walk α) : Interpretation α :=
  ⟨walk.branches.toList, walk.leaves.toList⟩

end Walk

def interpret {σ α : Type} [Scalar α] [ChanceSource σ α] (word : Word)
    (parameters : GrowthParameters α) (surface : Surface α) (jitter : JitterBands α) :
    Drawing σ (Interpretation α) := do
  let walk ← Walk.along parameters jitter word (Walk.initial parameters surface)
  return walk.interpretation

end Arboretum

import Arboretum.Palette
import Arboretum.Score
import Arboretum.Surface

/-!
What a score means for growth. Every parameter is a step or a slope of the score that is cut at both
ends, so a tree of any score stays within fixed bounds; a score of zero is a seed, for which nothing
is grown.
-/

namespace Arboretum

set_option autoImplicit false

structure GrowthParameters (α : Type) where
  iterationCount : Nat
  baseSegmentLength : α
  lengthDecay : α
  thicknessDecay : α
  baseAngleDegrees : α
  angleJitterDegrees : α
  baseThickness : α
  leafDensityTarget : Int
  paletteIndex : Int
  deriving Repr

namespace GrowthParameters

variable {α : Type} [Scalar α]

def maximalIterations : Nat := 6

def minimalSegmentLength : α := 15.0

def maximalSegmentLength : α := 35.0

def minimalThickness : α := 3.0

def maximalThickness : α := 15.0

def maximalLeafDensity : α := 80.0

def leastBaseAngle : α := 22.5

def usualAngleJitter : α := 4.0

def usualLengthDecay : α := 0.75

def usualThicknessDecay : α := 0.7

def ofSeed : GrowthParameters α where
  iterationCount := 0
  baseSegmentLength := minimalSegmentLength
  lengthDecay := usualLengthDecay
  thicknessDecay := usualThicknessDecay
  baseAngleDegrees := leastBaseAngle
  angleJitterDegrees := usualAngleJitter
  baseThickness := minimalThickness
  leafDensityTarget := 0
  paletteIndex := 0

def iterationBuckets : List (α × Nat) := [(25.0, 2), (75.0, 3), (200.0, 4), (500.0, 5)]

def iterationsFor (score : α) : Nat :=
  let score := Score.sanitize score
  if score == 0.0 then 0
  else
    match iterationBuckets.find? fun bucket => decide (score ≤ bucket.1) with
    | some bucket => bucket.2
    | none => min maximalIterations (5 + (Scalar.wholeQuotient score 1000.0).toNat)

/-- A surface scale that growth can use: a scale that is not positive and finite counts as one. -/
def usableScale (sizeScale : α) : α :=
  if Scalar.isFinite sizeScale && decide (0.0 < sizeScale) then sizeScale else 1.0

/-- The parameters of a score on a surface of the given scale. The segment length is scaled before
it is cut, so small surfaces keep the least length. -/
def ofScore (score sizeScale : α) : GrowthParameters α :=
  let score := Score.sanitize score
  if score == 0.0 then ofSeed
  else
    { iterationCount := iterationsFor score
      baseSegmentLength :=
        Scalar.clamp ((20.0 + Scalar.squareRoot score * 0.5) * usableScale sizeScale)
          minimalSegmentLength maximalSegmentLength
      lengthDecay := usualLengthDecay
      thicknessDecay := usualThicknessDecay
      baseAngleDegrees := leastBaseAngle + Scalar.remainder score 100.0 * 0.1
      angleJitterDegrees := usualAngleJitter
      baseThickness := Scalar.clamp (score / 30.0 + 3.0) minimalThickness maximalThickness
      leafDensityTarget := Scalar.integerPart (Scalar.smaller (score / 10.0) maximalLeafDensity)
      paletteIndex :=
        Scalar.wholeQuotient score seasonPeriod % (seasonalPalettes.length : Int) }

end GrowthParameters

end Arboretum

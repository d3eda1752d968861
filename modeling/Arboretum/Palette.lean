import Arboretum.Chance.Source
import Arboretum.Number.Writing

/-!
Colors. Leaves take one of the three shades of their season, drawn by chance; branches turn from
dark to light brown with their level.
-/

namespace Arboretum

set_option autoImplicit false

def seasonPeriod {α : Type} [Scalar α] : α := 100.0

/-- The shades of each season: the greens of spring and summer, then the yellows,
oranges and reds of autumn. -/
def seasonalPalettes : List (List String) :=
  [
    ["#4CAF50", "#66BB6A", "#81C784"],
    ["#8BC34A", "#9CCC65", "#AED581"],
    ["#FFC107", "#FFD54F", "#FFEE58"],
    ["#FF9800", "#FFB74D", "#FFCC02"],
    ["#F44336", "#EF5350", "#E57373"]
  ]

def flowerPetalColor : String := "#FFB6C1"

def paletteFor (index : Int) : List String :=
  seasonalPalettes.getD (index % (seasonalPalettes.length : Int)).toNat []

def leafColor {σ α : Type} [ChanceSource σ α] (paletteIndex : Int) : Drawing σ String :=
  Drawing.oneOf (paletteFor paletteIndex)

structure Shade where
  hue : Int
  saturation : Int
  lightness : Int
  deriving DecidableEq, Repr

namespace Shade

def ofLevel (level : Int) : Shade where
  hue := 25 + level * 5
  saturation := max 20 (60 - level * 8)
  lightness := max 15 (25 - level * 2)

def text (shade : Shade) : String :=
  "hsl(" ++ toString shade.hue ++ ", " ++ toString shade.saturation ++ "%, " ++
    toString shade.lightness ++ "%)"

def isWritable (shade : Shade) : Bool :=
  [shade.hue, shade.saturation, shade.lightness].all Number.isWritable

end Shade

def branchColor (level : Int) : String := (Shade.ofLevel level).text

def branchColorOf (level : Int) : Except Fault String :=
  if (Shade.ofLevel level).isWritable then .ok (branchColor level) else .error .integerTooLong

end Arboretum

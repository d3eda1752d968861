import Arboretum.Number.Scalar

/-!
The drawing area. Coordinates grow to the right and downward; a tree stands on a point of the middle
line a little above the lower edge.
-/

namespace Arboretum

set_option autoImplicit false

structure Point (α : Type) where
  x : α
  y : α
  deriving Repr

instance {α : Type} [BEq α] : BEq (Point α) where
  beq left right := left.x == right.x && left.y == right.y

def Point.toward {α : Type} [Scalar α] (start finish : Point α) (t : α) : Point α where
  x := start.x + (finish.x - start.x) * t
  y := start.y + (finish.y - start.y) * t

structure Surface (α : Type) where
  width : α
  height : α
  deriving Repr

namespace Surface

variable {α : Type} [Scalar α]

def referenceSize : α := 600.0

def groundMargin : α := 30.0

def reference : Surface α := ⟨referenceSize, referenceSize⟩

def sizeScale (surface : Surface α) : α :=
  Scalar.smaller surface.width surface.height / referenceSize

def root (surface : Surface α) : Point α :=
  ⟨surface.width / 2.0, surface.height - groundMargin⟩

end Surface

end Arboretum

import Arboretum.Surface

/-!
Branches and leaves, the parts that a tree is drawn from. Both carry a mark that tells whether the
animation has revealed them; a tree as grown has revealed nothing.
-/

namespace Arboretum

set_option autoImplicit false

/-- A straight piece of wood. Its level counts the side branches that lie
between it and the trunk. -/
structure Branch (α : Type) where
  start : Point α
  finish : Point α
  thickness : α
  level : Int
  colorKey : String
  revealed : Bool := false
  deriving BEq, Repr

inductive LeafKind where
  | leaf
  | flower
  deriving DecidableEq, Repr

def LeafKind.text : LeafKind → String
  | .leaf => "leaf"
  | .flower => "flower"

structure LeafSite (α : Type) where
  position : Point α
  size : α
  rotation : α
  colorKey : String
  kind : LeafKind
  revealed : Bool
  opacity : α
  deriving BEq, Repr

namespace Branch

variable {α : Type} [Scalar α]

def minimalDisplayThickness : α := 1.0

def length (branch : Branch α) : α :=
  Scalar.diagonal (branch.finish.x - branch.start.x) (branch.finish.y - branch.start.y)

def displayThickness (branch : Branch α) : α :=
  Scalar.larger minimalDisplayThickness branch.thickness

/-- The point at a share of the branch's length; shares outside the unit interval are cut. -/
def pointAt (branch : Branch α) (t : α) : Point α :=
  branch.start.toward branch.finish (Scalar.smaller 1.0 (Scalar.larger 0.0 t))

def concealed (branch : Branch α) : Branch α := { branch with revealed := false }

def shown (branch : Branch α) : Branch α := { branch with revealed := true }

end Branch

namespace LeafSite

variable {α : Type} [Scalar α]

def fresh (position : Point α) (size rotation : α) (colorKey : String) (kind : LeafKind) :
    LeafSite α :=
  { position, size, rotation, colorKey, kind, revealed := false, opacity := 0.0 }

/-- The leaf as it stands before the animation reaches it; one that was never revealed keeps its
opacity. -/
def concealed (leaf : LeafSite α) : LeafSite α :=
  if leaf.revealed then { leaf with revealed := false, opacity := 0.0 } else leaf

def shown (opacity : α) (leaf : LeafSite α) : LeafSite α :=
  { leaf with revealed := true, opacity := opacity }

end LeafSite

end Arboretum

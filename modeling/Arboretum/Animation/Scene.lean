import Arboretum.Animation.Particles
import Arboretum.Animation.Phase
import Arboretum.Tree.Branch

/-!
What a renderer needs to draw one frame: the branches and leaves of the run, how many of each are
revealed, and the motes. Only the revealed ones take part when two scenes are compared.
-/

namespace Arboretum

set_option autoImplicit false

def leading {β : Type} (count : Int) (entries : List β) : List β :=
  if 0 ≤ count then entries.take count.toNat
  else entries.take (entries.length - (-count).toNat)

structure Scene (α : Type) where
  phase : GrowthPhase
  elapsedMs : α
  allBranches : List (Branch α)
  allLeaves : List (LeafSite α)
  branchCursor : Int
  leafCursor : Int
  particles : List (Particle α)

namespace Scene

variable {α : Type} [Scalar α]

def empty : Scene α where
  phase := .idle
  elapsedMs := 0.0
  allBranches := []
  allLeaves := []
  branchCursor := 0
  leafCursor := 0
  particles := []

def branches (scene : Scene α) : List (Branch α) := leading scene.branchCursor scene.allBranches

def leaves (scene : Scene α) : List (LeafSite α) := leading scene.leafCursor scene.allLeaves

/-- The share of branches and leaves that is revealed; a scene without any is complete once it is
settled. -/
def progress (scene : Scene α) : Except Fault α :=
  let total := scene.allBranches.length + scene.allLeaves.length
  if total = 0 then .ok (if scene.phase = .settled then 1.0 else 0.0)
  else Scalar.ratio (scene.branchCursor + scene.leafCursor) total

def segments (scene : Scene α) : List (Point α × Point α) :=
  scene.branches.map fun branch => (branch.start, branch.finish)

def thicknesses (scene : Scene α) : List α := scene.branches.map Branch.displayThickness

def leafPositions (scene : Scene α) : List (Point α) := scene.leaves.map LeafSite.position

/-- Two scenes show the same: the same phase and time, the same revealed parts and motes, out of as
many branches and leaves. -/
def showsSame (left right : Scene α) : Bool :=
  left.phase == right.phase && left.elapsedMs == right.elapsedMs &&
    left.branches == right.branches && left.leaves == right.leaves &&
    left.particles == right.particles &&
    left.allBranches.length == right.allBranches.length &&
    left.allLeaves.length == right.allLeaves.length

end Scene

end Arboretum

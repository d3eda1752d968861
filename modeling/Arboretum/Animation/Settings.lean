import Arboretum.Number.Scalar

/-!
The pace of the animation. The reveal of a tree lasts for a time that grows with its branches; the
leaves begin partway through it, and the run settles a while after its end. From these times follow
the shares that one frame reveals.
-/

namespace Arboretum

set_option autoImplicit false

structure AnimationSettings (α : Type) where
  minRevealMs : α
  revealMsPerBranch : α
  leafRevealFraction : α
  settleTailMs : α
  frameIntervalMs : α
  leafRevealFrames : Int
  opacityLow : α
  opacityHigh : α
  /-- The share of the leaves that must be visible before motes may rise. -/
  mostlyRevealedFraction : α
  deriving Repr

namespace AnimationSettings

variable {α : Type} [Scalar α]

def usual : AnimationSettings α where
  minRevealMs := 1500.0
  revealMsPerBranch := 8.0
  leafRevealFraction := 0.7
  settleTailMs := 1000.0
  frameIntervalMs := 16.0
  leafRevealFrames := 60
  opacityLow := 0.7
  opacityHigh := 1.0
  mostlyRevealedFraction := 0.8

def revealDurationMs (settings : AnimationSettings α) (branchCount : Int) : Except Fault α := do
  let count ← Scalar.ofInt branchCount
  return Scalar.larger settings.minRevealMs (count * settings.revealMsPerBranch)

def leafStartMs (settings : AnimationSettings α) (branchCount : Int) : Except Fault α := do
  return (← settings.revealDurationMs branchCount) * settings.leafRevealFraction

def settleAfterMs (settings : AnimationSettings α) (branchCount : Int) : Except Fault α := do
  return (← settings.revealDurationMs branchCount) + settings.settleTailMs

def branchQuota (settings : AnimationSettings α) (branchCount : Int) : Except Fault Int := do
  let frames ← Scalar.quotient (← settings.revealDurationMs branchCount) settings.frameIntervalMs
  let count : α ← Scalar.ofInt branchCount
  return max 1 (← Scalar.roundUp (← Scalar.quotient count frames))

def leafQuota (settings : AnimationSettings α) (leafCount : Int) : Except Fault Int := do
  let share : α ← Scalar.ratio leafCount settings.leafRevealFrames
  return max 1 (← Scalar.roundUp share)

end AnimationSettings

structure ParticleSettings (α : Type) where
  spawnProbability : α
  scoreThreshold : α
  limit : Int
  lifeDecay : α
  frameIntervalMs : α
  deriving Repr

def ParticleSettings.usual {α : Type} [Scalar α] : ParticleSettings α where
  spawnProbability := 0.03
  scoreThreshold := 100.0
  limit := 200
  lifeDecay := 0.005
  frameIntervalMs := 16.0

end Arboretum

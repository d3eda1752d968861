import Arboretum.Animation.FrameLog
import Arboretum.Animation.Scene
import Arboretum.Journal
import Arboretum.Tree.Growth

/-!
The animator, a machine that reveals a tree frame by frame. It knows nothing of clocks, streams or
renderers: times come with the frames, and each start, stop and reset raises its generation, by
which a frame that was meant for an earlier run is recognised.
-/

namespace Arboretum

set_option autoImplicit false

structure Animator (σ α : Type) where
  settings : AnimationSettings α
  motes : ParticleSystem α
  random : σ
  sampler : FrameSampler
  phase : GrowthPhase
  branches : List (Branch α)
  leaves : List (LeafSite α)
  canvas : Nat
  branchCursor : Nat
  leafCursor : Nat
  startedAtMs : α
  lastTickMs : α
  elapsedMs : α
  receiver : Option Nat
  particlesEnabled : Bool
  generation : Nat
  subscription : Option Nat

/-- A step of the animator that may fail; what it changed before it failed stays changed. -/
abbrev AnimatorStep (σ α β : Type) : Type := ExceptT Fault (StateM (Animator σ α)) β

/-- What a run is started with. -/
structure RunPlan (α : Type) where
  branches : List (Branch α)
  leaves : List (LeafSite α)
  paletteIndex : Int
  particlesEnabled : Bool

namespace Animator

variable {σ α : Type} [Scalar α] [ChanceSource σ α]

def frameKey : String := "growth.frame"

def initial (settings : AnimationSettings α) (particleSettings : ParticleSettings α)
    (surface : Surface α) (random : σ) (sampler : FrameSampler) : Animator σ α where
  settings := settings
  motes := ParticleSystem.initial surface particleSettings 0
  random := random
  sampler := sampler
  phase := .idle
  branches := []
  leaves := []
  canvas := 0
  branchCursor := 0
  leafCursor := 0
  startedAtMs := 0.0
  lastTickMs := 0.0
  elapsedMs := 0.0
  receiver := none
  particlesEnabled := false
  generation := 0
  subscription := none

def isSettled (animator : Animator σ α) : Bool := animator.phase == .settled

def isActive (animator : Animator σ α) : Bool := animator.subscription.isSome

def scene (animator : Animator σ α) : Scene α where
  phase := animator.phase
  elapsedMs := animator.elapsedMs
  allBranches := animator.branches
  allLeaves := animator.leaves
  branchCursor := animator.branchCursor
  leafCursor := animator.leafCursor
  particles := animator.motes.particles

def counts (animator : Animator σ α) : RunCounts where
  branchCursor := animator.branchCursor
  branches := animator.branches.length
  leafCursor := animator.leafCursor
  leaves := animator.leaves.length
  particles := animator.motes.particles.length

def stopped (animator : Animator σ α) : Animator σ α :=
  { animator with generation := animator.generation + 1, subscription := none }

def cleared (animator : Animator σ α) : Animator σ α :=
  { animator with
    phase := .idle
    branches := []
    leaves := []
    canvas := animator.canvas + 1
    branchCursor := 0
    leafCursor := 0
    startedAtMs := 0.0
    lastTickMs := 0.0
    elapsedMs := 0.0
    receiver := none
    particlesEnabled := false
    motes := animator.motes.clear
    sampler := animator.sampler.forget frameKey }

def idle (animator : Animator σ α) : Animator σ α := animator.stopped.cleared

def launched (plan : RunPlan α) (receiver : Nat) (nowMs : α) (animator : Animator σ α) :
    Animator σ α :=
  { animator with
    branches := plan.branches.map Branch.concealed
    leaves := plan.leaves.map LeafSite.concealed
    receiver := some receiver
    particlesEnabled := plan.particlesEnabled
    motes := animator.motes.usePalette plan.paletteIndex
    phase := .revealing
    startedAtMs := nowMs
    lastTickMs := nowMs }

def listening (subscription : Nat) (animator : Animator σ α) : Animator σ α :=
  { animator with subscription := some subscription }

def sinceLastTick (nowMs : α) (animator : Animator σ α) : α :=
  Scalar.larger 0.0 (nowMs - animator.lastTickMs)

def atTime (nowMs : α) (animator : Animator σ α) : Animator σ α :=
  { animator with
    lastTickMs := nowMs
    elapsedMs := Scalar.larger 0.0 (nowMs - animator.startedAtMs) }

def changedFrom {β : Type} (position count : Nat) (change : β → β) (entries : List β) : List β :=
  entries.take position ++ ((entries.drop position).take count).map change ++
    entries.drop (position + count)

def withBranches (quota : Nat) (animator : Animator σ α) : Animator σ α :=
  { animator with
    branches := changedFrom animator.branchCursor quota Branch.shown animator.branches
    branchCursor := min (animator.branchCursor + quota)
      (max animator.branchCursor animator.branches.length) }

def shownLeaves (low high : α) : List (LeafSite α) → Drawing σ (List (LeafSite α))
  | [] => pure []
  | leaf :: rest => do
      let opacity ← Drawing.between low high
      return leaf.shown opacity :: (← shownLeaves low high rest)

def drawing {β : Type} (draw : Drawing σ β) : AnimatorStep σ α β := fun animator =>
  let (outcome, random) := draw.run animator.random
  (outcome, { animator with random })

def revealLeaves (quota : Nat) : AnimatorStep σ α Unit := do
  let animator ← get
  let next := (animator.leaves.drop animator.leafCursor).take quota
  let shown ← drawing
    (shownLeaves animator.settings.opacityLow animator.settings.opacityHigh next)
  modify fun animator =>
    { animator with
      leaves := animator.leaves.take animator.leafCursor ++ shown ++
        animator.leaves.drop (animator.leafCursor + shown.length)
      leafCursor := animator.leafCursor + shown.length }

def leavesMostlyRevealed (animator : Animator σ α) : Except Fault Bool := do
  if animator.leaves.isEmpty then return true
  let share : α ← Scalar.ratio animator.leafCursor animator.leaves.length
  return decide (animator.settings.mostlyRevealedFraction ≤ share)

def maybeSpawn : AnimatorStep σ α Unit := do
  let animator ← get
  let (_, motes) ← drawing animator.motes.maybeSpawn
  modify fun animator => { animator with motes }

def mayShed (animator : Animator σ α) : Except Fault Bool := do
  if !animator.particlesEnabled then return false
  let duration ← animator.settings.revealDurationMs animator.branches.length
  if duration < animator.elapsedMs then animator.leavesMostlyRevealed else return false

def isComplete (animator : Animator σ α) : Except Fault Bool := do
  if animator.branchCursor < animator.branches.length then return false
  if animator.leafCursor < animator.leaves.length then return false
  let settleAfter ← animator.settings.settleAfterMs animator.branches.length
  return decide (settleAfter ≤ animator.elapsedMs)

def advanceBranches : AnimatorStep σ α Unit := do
  let animator ← get
  let quota ← animator.settings.branchQuota animator.branches.length
  modify (withBranches quota.toNat)

def advanceLeaves : AnimatorStep σ α Unit := do
  let animator ← get
  let leafStart ← animator.settings.leafStartMs animator.branches.length
  if leafStart < animator.elapsedMs then
    let quota ← animator.settings.leafQuota animator.leaves.length
    revealLeaves quota.toNat

def shed : AnimatorStep σ α Unit := do
  if ← (← get).mayShed then maybeSpawn

def settle : AnimatorStep σ α Unit := do
  if ← (← get).isComplete then modify fun animator => { animator with phase := .settled }

/-- One frame's share of the reveal: branches, then leaves once their time has come, perhaps a mote,
and the end of the reveal. -/
def advanceReveal : AnimatorStep σ α Unit := do
  advanceBranches
  advanceLeaves
  shed
  settle

def revealTo (nowMs : α) : AnimatorStep σ α Unit := do
  let animator ← get
  set (animator.atTime nowMs)
  if animator.phase = .revealing then advanceReveal

def driftMotes (dtMs : α) : AnimatorStep σ α Unit := do
  let motes ← (← get).motes.tick dtMs
  modify fun animator => { animator with motes }

end Animator

/-- The plan of a run that shows a tree; only a tree with a score above the
threshold sheds motes. -/
def RunPlan.ofTree {α : Type} [Scalar α] (settings : ParticleSettings α) (tree : Tree α) :
    RunPlan α where
  branches := tree.branches
  leaves := tree.leaves
  paletteIndex := tree.parameters.paletteIndex
  particlesEnabled := decide (settings.scoreThreshold < tree.score)

end Arboretum

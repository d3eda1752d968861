import Arboretum.Animation.Settings
import Arboretum.Palette
import Arboretum.Surface
import Arboretum.Tree.Turtle

/-!
Motes that rise from the lower edge and fade. Speeds and the loss of life are given for one nominal
frame, and a step of time counts as many nominal frames as fit into it. When there are more motes
than the limit allows, the oldest go first.
-/

namespace Arboretum

set_option autoImplicit false

structure Particle (α : Type) where
  position : Point α
  velocity : Point α
  size : α
  colorKey : String
  life : α
  rotation : α
  rotationSpeed : α
  deriving BEq, Repr

def Particle.advanced {α : Type} [Scalar α] (steps lifeDecay : α) (particle : Particle α) :
    Particle α :=
  { particle with
    position :=
      { x := particle.position.x + particle.velocity.x * steps
        y := particle.position.y + particle.velocity.y * steps }
    rotation := particle.rotation + particle.rotationSpeed * steps
    life := particle.life - lifeDecay * steps }

def Particle.isAtRest {α : Type} [Scalar α] (before after : Particle α) : Bool :=
  before.position == after.position && before.rotation == after.rotation &&
    before.life == after.life

structure ParticleSystem (α : Type) where
  surface : Surface α
  settings : ParticleSettings α
  paletteIndex : Int
  particles : List (Particle α)
  risen : Nat
  /-- How often the motes have moved since there were none. -/
  moves : Nat

namespace ParticleSystem

variable {σ α : Type} [Scalar α] [ChanceSource σ α]

def initial (surface : Surface α) (settings : ParticleSettings α) (paletteIndex : Int) :
    ParticleSystem α :=
  ⟨surface, settings, paletteIndex, [], 0, 0⟩

def usePalette (paletteIndex : Int) (system : ParticleSystem α) : ParticleSystem α :=
  { system with paletteIndex }

def clear (system : ParticleSystem α) : ParticleSystem α :=
  { system with particles := [], risen := 0, moves := 0 }

def mote (system : ParticleSystem α) : Drawing σ (Particle α) := do
  let across ← Drawing.between 0.0 system.surface.width
  let drift ← Drawing.between (-0.25) 0.25
  let rise ← Drawing.between 0.5 2.5
  let size ← Drawing.between 1.0 3.0
  let colorKey ← leafColor system.paletteIndex
  let rotation ← Drawing.between 0.0 Turtle.fullTurn
  let rotationSpeed ← Drawing.between (-0.05) 0.05
  return {
    position := ⟨across, system.surface.height⟩
    velocity := ⟨drift, -rise⟩
    size, colorKey, life := 1.0, rotation, rotationSpeed }

def add (particle : Particle α) (system : ParticleSystem α) : ParticleSystem α :=
  let particles := system.particles ++ [particle]
  let overflow := (particles.length : Int) - system.settings.limit
  { system with particles := particles.drop overflow.toNat, risen := system.risen + 1 }

def spawn (system : ParticleSystem α) : Drawing σ (Particle α × ParticleSystem α) := do
  let particle ← system.mote
  return (particle, system.add particle)

def maybeSpawn (system : ParticleSystem α) :
    Drawing σ (Option (Particle α) × ParticleSystem α) := do
  if (← Drawing.unit) < system.settings.spawnProbability then
    let (particle, system) ← system.spawn
    return (some particle, system)
  else return (none, system)

/-- Moves every mote on by a time, a negative one counting as none, and drops those without life. -/
def tick (dtMs : α) (system : ParticleSystem α) : Except Fault (ParticleSystem α) := do
  let steps ← Scalar.quotient (Scalar.larger 0.0 dtMs) system.settings.frameIntervalMs
  let moved := system.particles.map (Particle.advanced steps system.settings.lifeDecay)
  return { system with
    particles := moved.filter fun particle => decide (0.0 < particle.life)
    moves := system.moves + 1 }

end ParticleSystem

end Arboretum

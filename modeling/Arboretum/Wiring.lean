import Arboretum.Animation.Session
import Arboretum.Configuration

/-!
How an animator is put together. Whatever is not given is configured by the environment, and an
entry is only read when what it configures is not given.
-/

namespace Arboretum

set_option autoImplicit false

structure GivenParts where
  settings : Option (AnimationSettings Float) := none
  particleSettings : Option (ParticleSettings Float) := none
  surface : Option (Surface Float) := none

namespace GivenParts

def animationSettings (given : GivenParts) (environment : Environment) :
    Except Fault (AnimationSettings Float) :=
  given.settings.elim (Configuration.animationSettings environment) Except.ok

def moteSettings (given : GivenParts) (environment : Environment) :
    Except Fault (ParticleSettings Float) :=
  given.particleSettings.elim (Configuration.particleSettings environment) Except.ok

def area (given : GivenParts) (environment : Environment) : Except Fault (Surface Float) :=
  given.surface.elim (Configuration.surface environment) Except.ok

def animator (given : GivenParts) (environment : Environment) (random : Chance.Source) :
    Except Fault (Animator Chance.Source Float) := do
  let settings ← given.animationSettings environment
  let particleSettings ← given.moteSettings environment
  let surface ← given.area environment
  let sampler ← Configuration.frameSampler environment
  return Animator.initial settings particleSettings surface random sampler

end GivenParts

namespace Session

variable {σ α : Type} [Scalar α] [ChanceSource σ α]

def frameCommands (stepMs : α) (count : Nat) : List (Command α) :=
  (List.replicate count [Command.advanceClock stepMs, Command.tick]).flatten

end Session

end Arboretum

import Arboretum.Animation.FrameLog
import Arboretum.Animation.Settings
import Arboretum.Environment
import Arboretum.Grammar.Catalogue
import Arboretum.Score
import Arboretum.Surface

/-!
The entries of the environment that configure the library, and the settings made from them. A rule
set is chosen by the score, or fixed by name; when only a name is given, the name is meant.
-/

namespace Arboretum.Configuration

set_option autoImplicit false

def atLeast (name : String) (usual minimum : Int) : IntegerEntry :=
  ⟨name, usual, some minimum, none⟩

def share (name : String) (usual : Float) : RealEntry := ⟨name, usual, some 0.0, some 1.0⟩

def surfaceWidth : IntegerEntry := atLeast "CANOPY_SURFACE_WIDTH" 600 1

def surfaceHeight : IntegerEntry := atLeast "CANOPY_SURFACE_HEIGHT" 600 1

def minRevealMs : IntegerEntry := atLeast "CANOPY_MIN_REVEAL_MS" 1500 1

def revealMsPerBranch : IntegerEntry := atLeast "CANOPY_REVEAL_MS_PER_BRANCH" 8 0

def leafRevealFraction : RealEntry := share "CANOPY_LEAF_REVEAL_FRACTION" 0.7

def settleTailMs : IntegerEntry := atLeast "CANOPY_SETTLE_TAIL_MS" 1000 0

def frameIntervalMs : IntegerEntry := atLeast "CANOPY_FRAME_INTERVAL_MS" 16 1

def particleSpawnProbability : RealEntry := share "CANOPY_PARTICLE_SPAWN_PROBABILITY" 0.03

def particleScoreThreshold : RealEntry :=
  ⟨"CANOPY_PARTICLE_SCORE_THRESHOLD", 100.0, some 0.0, none⟩

def particleLimit : IntegerEntry := atLeast "CANOPY_PARTICLE_LIMIT" 200 0

/-- Frames between two sampled lines of the animation; with zero only phases are logged. -/
def logEveryFrames : IntegerEntry := atLeast "CANOPY_LOG_EVERY_FRAMES" 60 0

def integerEntries : List IntegerEntry :=
  [
    surfaceWidth, surfaceHeight, minRevealMs, revealMsPerBranch, settleTailMs, frameIntervalMs,
    particleLimit, logEveryFrames
  ]

def realEntries : List RealEntry :=
  [leafRevealFraction, particleSpawnProbability, particleScoreThreshold]

def animationSettings (environment : Environment) : Except Fault (AnimationSettings Float) := do
  let minReveal ← environment.integerAsReal minRevealMs
  let perBranch ← environment.integerAsReal revealMsPerBranch
  let leafFraction ← environment.real leafRevealFraction
  let settleTail ← environment.integerAsReal settleTailMs
  let frameInterval ← environment.integerAsReal frameIntervalMs
  return { AnimationSettings.usual with
    minRevealMs := minReveal
    revealMsPerBranch := perBranch
    leafRevealFraction := leafFraction
    settleTailMs := settleTail
    frameIntervalMs := frameInterval }

def particleSettings (environment : Environment) : Except Fault (ParticleSettings Float) := do
  let probability ← environment.real particleSpawnProbability
  let threshold ← environment.real particleScoreThreshold
  let limit ← environment.integer particleLimit
  let frameInterval ← environment.integerAsReal frameIntervalMs
  return { ParticleSettings.usual with
    spawnProbability := probability
    scoreThreshold := threshold
    limit := limit
    frameIntervalMs := frameInterval }

def surface (environment : Environment) : Except Fault (Surface Float) := do
  let width ← environment.integerAsReal surfaceWidth
  let height ← environment.integerAsReal surfaceHeight
  return ⟨width, height⟩

def frameSampler (environment : Environment) : Except Fault FrameSampler := do
  FrameSampler.ofInterval (← environment.integer logEveryFrames)

inductive Strategy where
  | byScore
  | fixed
  deriving DecidableEq, Repr

def Strategy.text : Strategy → String
  | .byScore => "score"
  | .fixed => "fixed"

def plain (text : String) : String := Text.lowerCase (Text.trimmed text)

def ruleSetName (environment : Environment) : Option String :=
  let name := plain ((environment.text? "CANOPY_RULE_SET").getD "")
  if name.isEmpty then none else some name

def strategy (environment : Environment) : Except Fault Strategy :=
  let usual : Strategy := if (ruleSetName environment).isSome then .fixed else .byScore
  let text := plain ((environment.text? "CANOPY_RULE_SET_STRATEGY").getD usual.text)
  if text = Strategy.byScore.text then .ok .byScore
  else if text = Strategy.fixed.text then
    if (ruleSetName environment).isNone then .error .strategyWithoutRuleSet else .ok .fixed
  else .error .unknownStrategy

end Arboretum.Configuration

namespace Arboretum

inductive RuleSetChoice where
  | given (ruleSet : RuleSet)
  | named (name : String)
  | configured

/-- The rule set of a choice. A given or named one depends neither on the environment nor on the
score, which is only read where it decides. -/
def RuleSetChoice.resolve (environment : Environment) (score : RawScore) :
    RuleSetChoice → Except Fault RuleSet
  | .given ruleSet => .ok ruleSet
  | .named name => ruleSetNamed name
  | .configured => do
      match ← Configuration.strategy environment with
      | .fixed => ruleSetNamed ((Configuration.ruleSetName environment).getD "")
      | .byScore => return ruleSetForScore (← score.sanitized)

end Arboretum

import Arboretum.Animation.Settings
import Arboretum.Document
import Arboretum.Tree.Turtle

/-!
Settings of growth and of the animation as documents. A document need not name every setting: one
that it leaves out has its usual value.
-/

namespace Arboretum

set_option autoImplicit false

namespace Document

def realField (document : Document) (key : String) (usual : Float) : Except Fault Float :=
  (document.field? key).elim (.ok usual) asReal

def wholeField (document : Document) (key : String) (usual : Int) : Int :=
  (document.field? key).elim usual asWhole

end Document

namespace JitterBands

def ofDocument (document : Document) : Except Fault (JitterBands Float) := do
  let usual : JitterBands Float := JitterBands.usual
  return {
    angleJitterScale := ← document.realField "angle_jitter_scale" usual.angleJitterScale
    turnScaleLow := ← document.realField "turn_scale_low" usual.turnScaleLow
    turnScaleHigh := ← document.realField "turn_scale_high" usual.turnScaleHigh
    leafOffset := ← document.realField "leaf_offset" usual.leafOffset
    scatterOffset := ← document.realField "scatter_offset" usual.scatterOffset }

end JitterBands

namespace AnimationSettings

def ofDocument (document : Document) : Except Fault (AnimationSettings Float) := do
  let usual : AnimationSettings Float := AnimationSettings.usual
  return {
    minRevealMs := ← document.realField "min_reveal_ms" usual.minRevealMs
    revealMsPerBranch := ← document.realField "reveal_ms_per_branch" usual.revealMsPerBranch
    leafRevealFraction := ← document.realField "leaf_reveal_fraction" usual.leafRevealFraction
    settleTailMs := ← document.realField "settle_tail_ms" usual.settleTailMs
    frameIntervalMs := ← document.realField "frame_interval_ms" usual.frameIntervalMs
    leafRevealFrames := document.wholeField "leaf_reveal_frames" usual.leafRevealFrames
    opacityLow := ← document.realField "opacity_low" usual.opacityLow
    opacityHigh := ← document.realField "opacity_high" usual.opacityHigh
    mostlyRevealedFraction :=
      ← document.realField "mostly_revealed_fraction" usual.mostlyRevealedFraction }

def toDocument (settings : AnimationSettings Float) : Document :=
  .record
    [
      ("min_reveal_ms", .real settings.minRevealMs),
      ("reveal_ms_per_branch", .real settings.revealMsPerBranch),
      ("leaf_reveal_fraction", .real settings.leafRevealFraction),
      ("settle_tail_ms", .real settings.settleTailMs),
      ("frame_interval_ms", .real settings.frameIntervalMs),
      ("leaf_reveal_frames", .whole settings.leafRevealFrames),
      ("opacity_low", .real settings.opacityLow),
      ("opacity_high", .real settings.opacityHigh),
      ("mostly_revealed_fraction", .real settings.mostlyRevealedFraction)
    ]

end AnimationSettings

namespace ParticleSettings

def ofDocument (document : Document) : Except Fault (ParticleSettings Float) := do
  let usual : ParticleSettings Float := ParticleSettings.usual
  return {
    spawnProbability := ← document.realField "spawn_probability" usual.spawnProbability
    scoreThreshold := ← document.realField "score_threshold" usual.scoreThreshold
    limit := document.wholeField "limit" usual.limit
    lifeDecay := ← document.realField "life_decay" usual.lifeDecay
    frameIntervalMs := ← document.realField "frame_interval_ms" usual.frameIntervalMs }

def toDocument (settings : ParticleSettings Float) : Document :=
  .record
    [
      ("spawn_probability", .real settings.spawnProbability),
      ("score_threshold", .real settings.scoreThreshold),
      ("limit", .whole settings.limit),
      ("life_decay", .real settings.lifeDecay),
      ("frame_interval_ms", .real settings.frameIntervalMs)
    ]

end ParticleSettings

end Arboretum

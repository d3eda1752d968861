import Arboretum.Animation.Phase
import Arboretum.Number.Decimal

/-!
Remarks that the library makes while it works, and the notes they become. A remark is what happened;
a note is its text under the name of a logger with a severity. Whether and where a note is written
is decided by whoever reads it.
-/

namespace Arboretum

set_option autoImplicit false

inductive Severity where
  | debug
  | info
  | error
  deriving DecidableEq, Repr

namespace Severity

def rank : Severity → Int
  | .debug => 10
  | .info => 20
  | .error => 40

def text : Severity → String
  | .debug => "DEBUG"
  | .info => "INFO"
  | .error => "ERROR"

end Severity

structure Note where
  logger : String
  severity : Severity
  message : String
  deriving DecidableEq, Repr

/-- How far a run has got: revealed and all branches, revealed and all leaves, and motes. -/
structure RunCounts where
  branchCursor : Nat
  branches : Nat
  leafCursor : Nat
  leaves : Nat
  particles : Nat
  deriving DecidableEq, Repr

inductive CommandName where
  | generate
  | simulate
  deriving DecidableEq, Repr

/-- What happened. -/
inductive Remark (α : Type) where
  | growing (score : α) (ruleSet : String) (iterations symbols : Nat)
  | generated (branches leaves : Nat)
  | started (branches leaves : Nat) (durationMs : α)
  | settled (elapsedMs : α) (branches leaves : Nat)
  | returnedToIdle
  | frame (index : Nat) (phase : GrowthPhase) (counts : RunCounts)
  | refused (command : CommandName) (message : String)
  deriving Repr

namespace Remark

open Number

variable {α : Type}

def logger : Remark α → String
  | .growing _ _ _ _ => "canopy.generation.pipeline"
  | .generated _ _ => "canopy.generation.pipeline"
  | .started _ _ _ => "canopy.animation.animator"
  | .settled _ _ _ => "canopy.animation.animator"
  | .returnedToIdle => "canopy.animation.animator"
  | .frame _ _ _ => "canopy.animation.animator"
  | .refused .generate _ => "canopy.cli.commands.generate"
  | .refused .simulate _ => "canopy.cli.commands.simulate"

def loggers : List String :=
  [
    "canopy.animation.animator", "canopy.cli.commands.generate", "canopy.cli.commands.simulate",
    "canopy.generation.pipeline"
  ]

def severity : Remark α → Severity
  | .growing _ _ _ _ => .debug
  | .generated _ _ => .debug
  | .started _ _ _ => .info
  | .settled _ _ _ => .info
  | .returnedToIdle => .info
  | .frame _ _ _ => .debug
  | .refused _ _ => .error

def message : Remark Float → String
  | .growing score ruleSet iterations symbols =>
      "Growing score=" ++ shortestText score ++ " with rule set " ++ ruleSet ++ " for " ++
        toString iterations ++ " iterations (" ++ toString symbols ++ " symbols)."
  | .generated branches leaves =>
      "Generated " ++ toString branches ++ " branches and " ++ toString leaves ++ " leaves."
  | .started branches leaves durationMs =>
      "Growth started: " ++ toString branches ++ " branches, " ++ toString leaves ++
        " leaves over " ++ fixedText 0 durationMs ++ " ms."
  | .settled elapsedMs branches leaves =>
      "Growth settled after " ++ fixedText 0 elapsedMs ++ " ms (" ++ toString branches ++
        " branches, " ++ toString leaves ++ " leaves)."
  | .returnedToIdle => "Growth reset to idle."
  | .frame index phase counts =>
      "growth.frame " ++ toString index ++ " phase=" ++ phase.text ++ " branches=" ++
        toString counts.branchCursor ++ "/" ++ toString counts.branches ++ " leaves=" ++
        toString counts.leafCursor ++ "/" ++ toString counts.leaves ++ " particles=" ++
        toString counts.particles
  | .refused _ message => message

def note (remark : Remark Float) : Note := ⟨remark.logger, remark.severity, remark.message⟩

end Remark

end Arboretum

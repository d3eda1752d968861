import Arboretum.Command.Report
import Arboretum.Wiring

/-!
The command that grows one tree and drives its animation with a clock of its own. It prints a line
whenever the phase changes, and what has been revealed in the end.
-/

namespace Arboretum

set_option autoImplicit false

structure SimulateOptions where
  score : RawScore
  /-- The source for the tree, and once more from its start for the animation. -/
  source : Chance.Source
  ruleSet : Option String
  frames : Int
  frameMs : Float

namespace SimulateOptions

def request (options : SimulateOptions) : TreeRequest where
  score := options.score
  source := options.source
  surface := none
  ruleSet := options.ruleSet.elim .configured .named
  jitter := .usual

def phaseLine (elapsedMs : Float) (phase : GrowthPhase) : String :=
  Number.rightAligned 8 (Number.fixedText 0 elapsedMs) ++ " ms  " ++ phase.text

def phaseLines : GrowthPhase → List (Scene Float) → List String
  | _, [] => []
  | last, scene :: rest =>
      if scene.phase = last then phaseLines last rest
      else phaseLine scene.elapsedMs scene.phase :: phaseLines scene.phase rest

def finalLine (counts : RunCounts) : String :=
  "branches " ++ toString counts.branchCursor ++ "/" ++ toString counts.branches ++ ", leaves " ++
    toString counts.leafCursor ++ "/" ++ toString counts.leaves ++ ", particles " ++
    toString counts.particles

def scenesOf (events : List (Event Float)) : List (Scene Float) :=
  events.filterMap fun
    | .scene _ scene => some scene
    | .frame _ _ => none

def animation (options : SimulateOptions) (tree : Tree Float)
    (animator : Animator Chance.Source Float) : CommandRun :=
  let session := Session.initial 0.0 animator
  let plan := RunPlan.ofTree animator.motes.settings tree
  match session.run [.start plan (some [])] with
  | (.error fault, started) => ⟨started.remarks.toList, .error fault⟩
  | (.ok (), started) =>
      let (outcome, ended) :=
        started.run (Session.frameCommands options.frameMs options.frames.toNat)
      let lines :=
        phaseLine 0.0 started.animator.phase ::
          phaseLines started.animator.phase (scenesOf ended.events.toList) ++
            [finalLine ended.animator.counts]
      ⟨ended.remarks.toList, outcome.map fun () => .done (.lines lines)⟩

def run (environment : Environment) (options : SimulateOptions) : CommandRun :=
  let growth := options.request.growth environment
  CommandRun.ofGrowth .simulate growth.remarks growth.outcome fun tree =>
    match ({} : GivenParts).animator environment options.source with
    | .error fault => ⟨[], .error fault⟩
    | .ok animator => options.animation tree animator

end SimulateOptions

end Arboretum

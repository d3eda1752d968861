import Arboretum.Configuration
import Arboretum.Grammar.Expansion
import Arboretum.Journal
import Arboretum.Tree.Scatter

/-!
Growth of a whole tree. The score sets the parameters, the rules make the word, the turtle draws it,
and foliage is scattered along what it drew; all chance comes from one source, in this order.
-/

namespace Arboretum

set_option autoImplicit false

structure Tree (α : Type) where
  score : α
  parameters : GrowthParameters α
  ruleSet : RuleSet
  branches : List (Branch α)
  leaves : List (LeafSite α)
  deriving Repr

deriving instance BEq for GrowthParameters

deriving instance BEq for Tree

namespace Tree

variable {σ α : Type} [Scalar α] [ChanceSource σ α]

def maxLevel (tree : Tree α) : Int :=
  match tree.branches with
  | [] => 0
  | first :: rest => rest.foldl (fun level branch => max level branch.level) first.level

def levelCounts (tree : Tree α) : List (Int × Nat) :=
  let counts : Entries Int Nat :=
    tree.branches.foldl
      (fun counts branch => counts.put branch.level ((counts.find? branch.level).getD 0 + 1)) []
  counts.mergeSort fun left right => decide (left.1 ≤ right.1)

def grow (score : α) (surface : Surface α) (ruleSet : RuleSet) (jitter : JitterBands α) :
    Drawing σ (Tree α) := do
  let parameters := GrowthParameters.ofScore score surface.sizeScale
  let word := ruleSet.derive parameters.iterationCount Word.bud
  let drawn ← interpret word parameters surface jitter
  let leaves ← scatterLeaves drawn.branches drawn.leaves parameters jitter
  return { score, parameters, ruleSet, branches := drawn.branches, leaves }

end Tree

structure TreeRequest where
  score : RawScore
  source : Chance.Source
  surface : Option (Surface Float)
  ruleSet : RuleSetChoice
  jitter : JitterBands Float

structure Growth (α : Type) where
  remarks : List (Remark α)
  outcome : Except Fault (Tree α)

structure GrowthPlan where
  score : Float
  surface : Surface Float
  ruleSet : RuleSet

namespace TreeRequest

/-- Resolves what was asked for; the score is read first, then the surface, then the rules. -/
def plan (environment : Environment) (request : TreeRequest) : Except Fault GrowthPlan := do
  let score ← request.score.sanitized
  let surface ←
    match request.surface with
    | some surface => pure surface
    | none => Configuration.surface environment
  let ruleSet ← request.ruleSet.resolve environment (.real score)
  return ⟨score, surface, ruleSet⟩

def announcement (plan : GrowthPlan) : Remark Float :=
  let passes := (GrowthParameters.ofScore plan.score plan.surface.sizeScale).iterationCount
  let symbols := (Tally.derive plan.ruleSet passes (Tally.ofWord Word.bud)).total
  .growing plan.score plan.ruleSet.name passes symbols

def report (tree : Tree Float) : Remark Float :=
  .generated tree.branches.length tree.leaves.length

def growthFrom {σ : Type} [ChanceSource σ Float] (environment : Environment) (source : σ)
    (request : TreeRequest) : Growth Float :=
  match request.plan environment with
  | .error fault => ⟨[], .error fault⟩
  | .ok plan =>
      let growing : Drawing σ (Tree Float) :=
        Tree.grow plan.score plan.surface plan.ruleSet request.jitter
      match (growing.run source).1 with
      | .error fault => ⟨[announcement plan], .error fault⟩
      | .ok tree => ⟨[announcement plan, report tree], .ok tree⟩

def growth (environment : Environment) (request : TreeRequest) : Growth Float :=
  request.growthFrom environment request.source

end TreeRequest

end Arboretum

import Arboretum.Proofs.Grammar.Deepening
import Arboretum.Proofs.Tree.Draws
import Arboretum.Proofs.Tree.Stature

/-!
How many levels a tree has. The level of a branch is the depth of its `F`, and a pass of the rules
makes a word at most as much deeper as the deepest of the rules is, so a tree has at most as many
levels as passes for each bracket that the rules open in one another.
-/

namespace Arboretum

open Fallible

set_option autoImplicit false

section Interpretation

variable {σ α : Type} [Scalar α] [ChanceSource σ α] {word : Word} {parameters : GrowthParameters α}
  {surface : Surface α} {jitter : JitterBands α} {source later : σ} {drawn : Interpretation α}

theorem levels_stay_within {limit : Nat} (within : word.StaysWithin 0 limit)
    (returned : (interpret word parameters surface jitter).run source = (.ok drawn, later))
    (branch : Branch α) (drew : branch ∈ drawn.branches) : branch.level ≤ (limit : Int) := by
  obtain ⟨index, bound, rfl⟩ := List.mem_iff_getElem.mp drew
  obtain ⟨front, back, split, rfl⟩ := Walk.branch_has_segment bound returned
  obtain ⟨walk, direction, finish, strides, _, _, there⟩ := Walk.segment_drawn split returned
  have same := List.getElem_of_getElem? there
  have level : walk.turtle.level = front.depth := (Walk.strides_lowered strides).level
  rw [(List.getElem?_eq_some_iff.mp there).2]
  change walk.turtle.level ≤ _
  rw [level]
  apply Int.ofNat_le.mpr
  apply within
  rw [split]
  exact List.prefix_append ..

end Interpretation

namespace Tree

theorem greatest_level_le {α : Type} {branches : List (Branch α)} {level limit : Int}
    (below : level ≤ limit) (within : ∀ branch ∈ branches, branch.level ≤ limit) :
    branches.foldl (fun level branch => max level branch.level) level ≤ limit := by
  induction branches generalizing level with
  | nil => exact below
  | cons branch branches induction =>
      obtain ⟨first, rest⟩ := List.forall_mem_cons.mp within
      exact induction (max_le below first) rest

theorem max_level_le {α : Type} [Scalar α] {tree : Tree α} {limit : Nat}
    (within : ∀ branch ∈ tree.branches, branch.level ≤ (limit : Int)) :
    tree.maxLevel ≤ (limit : Int) := by
  unfold maxLevel
  cases drew : tree.branches with
  | nil => exact Int.natCast_nonneg limit
  | cons branch branches =>
      rw [drew] at within
      obtain ⟨first, rest⟩ := List.forall_mem_cons.mp within
      exact greatest_level_le first rest

/-- A tree has the rules and the parameters that it was grown with, its branches are what the turtle
drew by them, and its leaves were scattered along these. -/
theorem grow_returned {τ : Type} [ChanceSource τ Float] {score : Float} {surface : Surface Float}
    {ruleSet : RuleSet} {jitter : JitterBands Float} {source later : τ} {tree : Tree Float}
    (returned : (grow score surface ruleSet jitter).run source = (.ok tree, later)) :
    tree.ruleSet = ruleSet ∧ tree.parameters = .ofScore score surface.sizeScale ∧
      ∃ drawn middle,
        (interpret (ruleSet.derive tree.parameters.iterationCount Word.bud) tree.parameters surface
          jitter).run source = (.ok drawn, middle) ∧
        tree.branches = drawn.branches ∧ tree.score = score ∧
          ∃ last, (scatterLeaves drawn.branches drawn.leaves tree.parameters jitter).run middle =
            (.ok tree.leaves, last) := by
  unfold grow at returned
  simp only [run_bind_eq_ok] at returned
  obtain ⟨drawn, middle, drew, leaves, _, scattered, made⟩ := returned
  cases made
  exact ⟨rfl, rfl, drawn, middle, drew, rfl, rfl, _, scattered⟩

theorem growth_returned {τ : Type} [ChanceSource τ Float] {environment : Environment} {source : τ}
    {request : TreeRequest} {tree : Tree Float}
    (grew : (request.growthFrom environment source).outcome = .ok tree) :
    ∃ plan, request.plan environment = .ok plan ∧ tree.ruleSet = plan.ruleSet ∧
      tree.parameters = .ofScore plan.score plan.surface.sizeScale ∧
      ∃ drawn middle,
        (interpret (plan.ruleSet.derive tree.parameters.iterationCount Word.bud) tree.parameters
          plan.surface request.jitter).run source = (.ok drawn, middle) ∧
        tree.branches = drawn.branches ∧ tree.score = plan.score ∧
          ∃ last, (scatterLeaves drawn.branches drawn.leaves tree.parameters
            request.jitter).run middle = (.ok tree.leaves, last) := by
  cases planned : request.plan environment with
  | error fault =>
      rw [TreeRequest.growthFrom, planned] at grew
      cases grew
  | ok plan =>
      rw [TreeRequest.growth_from_outcome environment source request plan planned] at grew
      obtain ⟨later, returned⟩ := returned_of_outcome grew
      exact ⟨plan, rfl, grow_returned returned⟩

/-- A tree whose rules leave the brackets alone and are balanced has no more levels than its passes
allow. -/
theorem max_level_within {τ : Type} [ChanceSource τ Float] {environment : Environment} {source : τ}
    {request : TreeRequest} {tree : Tree Float}
    (grew : (request.growthFrom environment source).outcome = .ok tree)
    (leaves : tree.ruleSet.LeavesBrackets) (balanced : tree.ruleSet.isBracketBalanced = true) :
    tree.maxLevel ≤
      ((tree.parameters.iterationCount * tree.ruleSet.greatestDepth : Nat) : Int) := by
  obtain ⟨plan, _, sameRules, _, drawn, middle, drew, branches, _⟩ := growth_returned grew
  rw [← sameRules] at drew
  apply max_level_le
  rw [branches]
  exact levels_stay_within (RuleSet.bud_stays_within leaves balanced _) drew

end Tree

theorem built_in_rules_nest : ∀ ruleSet ∈ builtInRuleSets,
    ruleSet.LeavesBrackets ∧ ruleSet.isBracketBalanced = true ∧
      ruleSet.greatestDepth = if ruleSet.name = "fern" then 2 else 1 := by
  unfold RuleSet.LeavesBrackets
  decide

/-- Balanced rules that leave the brackets alone draw no branch at a level above the passes times
the greatest depth of a rule; so a tree has at most as many levels as passes, or twice as many if it
is grown by the fern rules. -/
theorem levels_within_passes :
    (∀ ruleSet : RuleSet, ruleSet.isBracketBalanced = true → ruleSet.LeavesBrackets →
      ∀ passes : Int, 0 ≤ passes →
        ∃ word, expand Word.bud (.checked ruleSet) passes = .ok word ∧
          ∀ {σ α : Type} [Scalar α] [ChanceSource σ α] (parameters : GrowthParameters α)
            (surface : Surface α) (jitter : JitterBands α) (source later : σ)
            (drawn : Interpretation α),
            (interpret word parameters surface jitter).run source = (.ok drawn, later) →
            ∀ branch ∈ drawn.branches, branch.level ≤ passes * ruleSet.greatestDepth) ∧
    (∀ {τ : Type} [ChanceSource τ Float] (environment : Environment) (source : τ)
      (request : TreeRequest) (tree : Tree Float),
      (request.growthFrom environment source).outcome = .ok tree → tree.ruleSet ∈ builtInRuleSets →
      (tree.ruleSet.name ∈ ["bushy", "lattice", "spiral"] →
        tree.maxLevel ≤ tree.parameters.iterationCount) ∧
      (tree.ruleSet.name = "fern" → tree.maxLevel ≤ 2 * tree.parameters.iterationCount)) := by
  constructor
  · intro ruleSet balanced leaves passes nonnegative
    obtain ⟨count, rfl⟩ := Int.eq_ofNat_of_zero_le nonnegative
    refine ⟨ruleSet.derive count Word.bud, expand_checked ruleSet Word.bud count, ?_⟩
    intro σ α _ _ parameters surface jitter source later drawn returned branch drew
    have within := levels_stay_within (RuleSet.bud_stays_within leaves balanced count) returned
      branch drew
    rw [Int.natCast_mul] at within
    exact within
  · intro τ _ environment source request tree grew builtIn
    obtain ⟨leaves, balanced, deepest⟩ := built_in_rules_nest tree.ruleSet builtIn
    have within := Tree.max_level_within grew leaves balanced
    rw [deepest] at within
    constructor
    · intro named
      have notFern : tree.ruleSet.name ≠ "fern" := by
        intro fern
        rw [fern] at named
        simp at named
      rw [if_neg notFern, Nat.mul_one] at within
      exact within
    · intro fern
      rw [if_pos fern, Nat.mul_comm, Int.natCast_mul] at within
      exact within

/-! The fern rules, after one pass and in a whole tree. -/

def smallFern : TreeRequest :=
  ⟨.real 20.0, .ofValues [0.25, 0.5], some ⟨300.0, 600.0⟩, .given fernRules, .none⟩

theorem small_fern_levels_within_passes :
    (∃ word drawn later, expand Word.bud (.checked fernRules) 1 = .ok word ∧
      (interpret word (GrowthParameters.ofScore 20.0 0.5) ⟨300.0, 600.0⟩ .none).run
        (Chance.Source.ofValues [0.25, 0.5]) = (.ok drawn, later) ∧
      ∀ branch ∈ drawn.branches, branch.level ≤ 1 * 2) ∧
    ∃ tree, (smallFern.growth ⟨[]⟩).outcome = .ok tree ∧
      tree.maxLevel ≤ 2 * tree.parameters.iterationCount := by
  have builtIn : fernRules ∈ builtInRuleSets := by simp [fernRules, builtInRuleSets]
  obtain ⟨forRules, forTrees⟩ := levels_within_passes
  constructor
  · obtain ⟨word, expands, levels⟩ := forRules fernRules (by decide) ⟨rfl, rfl⟩ 1 (by decide)
    have replaced : word = "F-[[X]+X]+F[+FX]-X".toList := by
      cases expands
      rfl
    obtain ⟨drawn, later, returned⟩ : ∃ drawn later,
        (interpret word (GrowthParameters.ofScore 20.0 0.5) ⟨300.0, 600.0⟩ .none).run
          (Chance.Source.ofValues [0.25, 0.5]) = (.ok drawn, later) := by
      rw [replaced]
      apply returned_of_is_ok
      decide +kernel
    exact ⟨word, drawn, later, expands, returned, levels _ _ _ _ _ _ returned⟩
  · obtain ⟨tree, grew⟩ := ok_of_is_ok
      (show (smallFern.growth ⟨[]⟩).outcome.isOk = true by decide +kernel)
    obtain ⟨plan, planned, sameRules, _⟩ := Tree.growth_returned grew
    have resolved := (smallFern.plan_returned ⟨[]⟩ plan planned).2
    have fern : tree.ruleSet = fernRules := sameRules.trans (Except.ok.inj resolved).symm
    refine ⟨tree, grew, (forTrees ⟨[]⟩ smallFern.source smallFern tree grew ?_).2 ?_⟩
    · rw [fern]
      exact builtIn
    · rw [fern]
      rfl

end Arboretum

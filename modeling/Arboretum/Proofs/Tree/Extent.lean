import Arboretum.Proofs.Score
import Arboretum.Proofs.Tree.Levels
import Mathlib.Data.List.GetD

/-!
How much of a tree there is. A score of zero has no passes and every other score has some; the
built-in rules put a segment first in every word that a pass makes, so the turtle draws its first
branch from the root of the surface, and it draws as many branches as the word has segments whatever
it draws at random. Foliage is cut at the density that the score allows.
-/

namespace Arboretum

open Fallible

set_option autoImplicit false

/-! From the score to the passes. -/

theorem passes_zero_iff (score : Float) :
    GrowthParameters.iterationsFor score = 0 ↔ (Score.sanitize score == 0.0) = true := by
  have several : ∀ bucket ∈ (GrowthParameters.iterationBuckets : List (Float × Nat)),
      0 < bucket.2 := by
    simp [GrowthParameters.iterationBuckets]
  unfold GrowthParameters.iterationsFor
  dsimp only
  by_cases seed : (Score.sanitize score == 0.0) = true
  · rw [if_pos seed]
    exact iff_of_true rfl seed
  · rw [if_neg seed]
    refine iff_of_false ?_ seed
    split
    · rename_i bucket found
      exact Nat.ne_of_gt (several bucket (List.mem_of_find?_eq_some found))
    · rw [GrowthParameters.maximalIterations]
      omega

theorem parameters_passes_zero_iff (score sizeScale : Float) :
    (GrowthParameters.ofScore score sizeScale).iterationCount = 0 ↔
      (Score.sanitize score == 0.0) = true := by
  unfold GrowthParameters.ofScore
  dsimp only
  by_cases seed : (Score.sanitize score == 0.0) = true
  · rw [if_pos seed]
    exact iff_of_true rfl seed
  · rw [if_neg seed]
    change GrowthParameters.iterationsFor (Score.sanitize score) = 0 ↔ _
    rw [passes_zero_iff, Score.sanitize_again]

theorem seed_has_no_foliage {score : Float} (seed : (Score.sanitize score == 0.0) = true)
    (sizeScale : Float) : (GrowthParameters.ofScore score sizeScale).leafDensityTarget = 0 := by
  unfold GrowthParameters.ofScore
  dsimp only
  rw [if_pos seed]
  rfl

theorem stage_seed_iff (score : Float) :
    TreeStage.ofScore score = .seed ↔ (Score.sanitize score == 0.0) = true := by
  unfold TreeStage.ofScore
  dsimp only
  by_cases seed : (Score.sanitize score == 0.0) = true
  · rw [if_pos seed]
    exact iff_of_true rfl seed
  · rw [if_neg seed]
    refine iff_of_false ?_ seed
    split
    · exact nofun
    split
    · exact nofun
    split <;> exact nofun

/-! From the rules to the word. -/

namespace RuleSet

/-- A pass puts a segment where a word begins, if it begins with a bud or a segment. -/
def PutsSegmentFirst (ruleSet : RuleSet) : Prop :=
  ∀ symbol ∈ ['X', 'F'], (ruleSet.replacement symbol).head? = some 'F'

theorem substitute_puts_segment_first {ruleSet : RuleSet} (puts : ruleSet.PutsSegmentFirst)
    {symbol : Char} (member : symbol ∈ ['X', 'F']) (rest : Word) :
    ∃ back, ruleSet.substitute (symbol :: rest) = 'F' :: back := by
  obtain ⟨back, replaced⟩ := List.head?_eq_some_iff.mp (puts symbol member)
  refine ⟨back ++ ruleSet.substitute rest, ?_⟩
  rw [substitute_cons, replaced]
  rfl

theorem derive_puts_segment_first {ruleSet : RuleSet} (puts : ruleSet.PutsSegmentFirst)
    (passes : Nat) (rest : Word) : ∃ back, ruleSet.derive passes ('F' :: rest) = 'F' :: back := by
  induction passes generalizing rest with
  | zero => exact ⟨rest, rfl⟩
  | succ passes induction =>
      obtain ⟨back, replaced⟩ :=
        substitute_puts_segment_first puts (by simp : 'F' ∈ ['X', 'F']) rest
      rw [derive, replaced]
      exact induction back

theorem bud_grows_segment {ruleSet : RuleSet} (puts : ruleSet.PutsSegmentFirst) {passes : Nat}
    (several : passes ≠ 0) : ∃ back, ruleSet.derive passes Word.bud = 'F' :: back := by
  cases passes with
  | zero => exact absurd rfl several
  | succ passes =>
      obtain ⟨back, replaced⟩ := substitute_puts_segment_first puts (by simp : 'X' ∈ ['X', 'F']) []
      rw [derive, Word.bud, replaced]
      exact derive_puts_segment_first puts passes back

theorem of_texts_puts_segment_first (name : String) {bud segment : String}
    (budFirst : bud.toList.head? = some 'F') (segmentFirst : segment.toList.head? = some 'F') :
    (ofBudAndSegment name bud segment).PutsSegmentFirst := by
  intro symbol member
  simp only [List.mem_cons, List.not_mem_nil, or_false] at member
  rcases member with rfl | rfl
  · exact budFirst
  · exact segmentFirst

theorem built_in_puts_segment_first {ruleSet : RuleSet} (builtIn : ruleSet ∈ builtInRuleSets) :
    ruleSet.PutsSegmentFirst := by
  simp only [builtInRuleSets, List.mem_cons, List.not_mem_nil, or_false] at builtIn
  rcases builtIn with rfl | rfl | rfl | rfl <;> exact of_texts_puts_segment_first _ rfl rfl

theorem named_is_built_in {name : String} {ruleSet : RuleSet}
    (found : ruleSetNamed name = .ok ruleSet) :
    ruleSet ∈ builtInRuleSets := by
  unfold ruleSetNamed at found
  dsimp only at found
  split at found
  · rename_i other there
    cases found
    exact List.mem_of_find?_eq_some there
  · cases found

theorem of_score_is_built_in (score : Float) : ruleSetForScore score ∈ builtInRuleSets := by
  unfold ruleSetForScore
  dsimp only
  generalize (Scalar.wholeQuotient score 150.0 % (builtInRuleSets.length : Int)).toNat = turn
  rcases Nat.lt_or_ge turn builtInRuleSets.length with within | beyond
  · rw [List.getD_eq_getElem _ _ within]
    exact List.getElem_mem within
  · rw [List.getD_eq_default _ _ beyond]
    exact List.mem_cons_self

/-- Rules that are named, configured or chosen by the score are built in. -/
theorem resolved_is_built_in {choice : RuleSetChoice} {environment : Environment} {score : RawScore}
    {value : Float} {ruleSet : RuleSet} (sanitized : score.sanitized = .ok value)
    (given : ∀ ruleSet, choice = .given ruleSet → ruleSet ∈ builtInRuleSets)
    (resolved : choice.resolve environment score = .ok ruleSet) : ruleSet ∈ builtInRuleSets := by
  cases choice with
  | given other =>
      cases resolved
      exact given _ rfl
  | named name =>
      change ruleSetNamed name = .ok ruleSet at resolved
      exact named_is_built_in resolved
  | configured =>
      rw [RuleSetChoice.resolve_configured environment sanitized, bind_eq_ok] at resolved
      obtain ⟨strategy, _, found⟩ := resolved
      cases strategy with
      | fixed =>
          change ruleSetNamed ((Configuration.ruleSetName environment).getD "") =
            .ok ruleSet at found
          exact named_is_built_in found
      | byScore => exact Except.ok.inj found ▸ of_score_is_built_in value

end RuleSet

/-! From the word to the branches, and from these to the leaves. -/

section Drawn

variable {σ α : Type} [Scalar α] [ChanceSource σ α] {parameters : GrowthParameters α}
  {surface : Surface α} {jitter : JitterBands α} {source later : σ}

/-- The branch of a segment that nothing comes before starts at the root of the surface. -/
theorem first_branch {back : Word} {drawn : Interpretation α}
    (returned : (interpret ('F' :: back) parameters surface jitter).run source =
      (.ok drawn, later)) :
    ∃ first rest, drawn.branches = first :: rest ∧ first.level = 0 ∧
      first.start = surface.root := by
  obtain ⟨walk, direction, finish, strides, _, _, there⟩ :=
    Walk.segment_drawn (show 'F' :: back = [] ++ 'F' :: back from rfl) returned
  cases strides
  change drawn.branches[0]? = some _ at there
  cases drew : drawn.branches with
  | nil =>
      rw [drew] at there
      cases there
  | cons first rest =>
      rw [drew] at there
      cases there
      exact ⟨_, rest, rfl, rfl, rfl⟩

theorem foliage_is_cut {branches : List (Branch α)} {leaves scattered : List (LeafSite α)}
    (returned : (scatterLeaves branches leaves parameters jitter).run source =
      (.ok scattered, later)) :
    scattered.length ≤ parameters.leafDensityTarget.toNat := by
  unfold scatterLeaves at returned
  split at returned
  · cases returned
    exact Nat.zero_le _
  · obtain ⟨all, _, _, taken⟩ := (run_bind_eq_ok _ _ _ _ _).mp returned
    cases taken
    exact List.length_take_le _ _

end Drawn

/-- A tree of built-in rules, whatever the chance, has a branch for every segment of its word. It
has none exactly if its score is zero, that is if its rules were not applied, that is if it is a
seed, and then it has no leaves; otherwise its first branch is of the trunk and starts at the root
of the surface. It has no more leaves than its target, which is eighty at most. -/
theorem trees_are_bare_as_seeds_only {σ : Type} [ChanceSource σ Float] (environment : Environment)
    (source : σ) (request : TreeRequest) (tree : Tree Float)
    (given : ∀ ruleSet, request.ruleSet = .given ruleSet → ruleSet ∈ builtInRuleSets)
    (grew : (request.growthFrom environment source).outcome = .ok tree) :
    ∃ plan word, request.plan environment = .ok plan ∧ request.score.sanitized = .ok tree.score ∧
      tree.ruleSet = plan.ruleSet ∧
      expand Word.bud (.checked tree.ruleSet) tree.parameters.iterationCount = .ok word ∧
      tree.branches.length = word.count 'F' ∧
      (tree.branches = [] ↔ (tree.score == 0.0) = true) ∧
      (tree.branches = [] ↔ tree.parameters.iterationCount = 0) ∧
      (tree.branches = [] ↔ TreeStage.ofScore tree.score = .seed) ∧
      (tree.branches = [] → tree.leaves = []) ∧
      (tree.branches ≠ [] → ∃ first rest, tree.branches = first :: rest ∧ first.level = 0 ∧
        first.start = plan.surface.root) ∧
      (tree.leaves.length : Int) ≤ tree.parameters.leafDensityTarget ∧
      tree.parameters.leafDensityTarget ≤ 80 := by
  obtain ⟨plan, planned, rules, parameters, drawn, middle, drew, branches, scored, last,
    scattered⟩ :=
    Tree.growth_returned grew
  obtain ⟨sanitized, resolved⟩ := request.plan_returned environment plan planned
  have fit := RawScore.fit_of_sanitized sanitized
  have same := Score.sanitize_sanitized fit
  have puts := RuleSet.built_in_puts_segment_first
    (RuleSet.resolved_is_built_in (RawScore.real_sanitized fit) given resolved)
  have counted : tree.branches.length =
      (plan.ruleSet.derive tree.parameters.iterationCount Word.bud).count 'F' :=
    (congrArg List.length branches).trans (Walk.drawn_counts drew).1
  have trunk (several : tree.parameters.iterationCount ≠ 0) : ∃ first rest,
      tree.branches = first :: rest ∧ first.level = 0 ∧ first.start = plan.surface.root := by
    obtain ⟨back, begins⟩ := RuleSet.bud_grows_segment puts several
    rw [begins] at drew
    rw [branches]
    exact first_branch drew
  have bareIff : tree.branches = [] ↔ tree.parameters.iterationCount = 0 := by
    constructor
    · intro bare
      by_contra several
      obtain ⟨first, rest, grown, _⟩ := trunk several
      rw [bare] at grown
      cases grown
    · intro nothing
      rw [nothing] at counted
      exact List.length_eq_zero_iff.mp counted
  have passesIff : tree.parameters.iterationCount = 0 ↔ (tree.score == 0.0) = true := by
    rw [parameters, parameters_passes_zero_iff, scored, same]
  have stageIff : TreeStage.ofScore tree.score = .seed ↔ (tree.score == 0.0) = true := by
    rw [stage_seed_iff, scored, same]
  have cut := foliage_is_cut scattered
  obtain ⟨low, high⟩ := Score.leaf_density_bounds plan.score plan.surface.sizeScale
  rw [← parameters] at low high
  refine ⟨plan, _, planned, scored ▸ sanitized, rules, rules ▸ expand_checked _ _ _, counted,
    bareIff.trans passesIff, bareIff, (bareIff.trans passesIff).trans stageIff.symm, ?_,
    fun grown => trunk (mt bareIff.mpr grown), by omega, high⟩
  intro bare
  have seed : (Score.sanitize plan.score == 0.0) = true := by
    rw [same, ← scored]
    exact passesIff.mp (bareIff.mp bare)
  rw [parameters, seed_has_no_foliage seed] at cut
  exact List.length_eq_zero_iff.mp (Nat.le_zero.mp cut)

/-- The small fern stands on the root of its surface. -/
theorem small_fern_is_not_bare :
    ∃ tree first rest, (smallFern.growth ⟨[]⟩).outcome = .ok tree ∧ fernRules ∈ builtInRuleSets ∧
      tree.branches = first :: rest ∧ first.level = 0 ∧
      first.start = (⟨300.0, 600.0⟩ : Surface Float).root ∧ tree.leaves.length ≤ 80 := by
  have builtIn : fernRules ∈ builtInRuleSets := by simp [fernRules, builtInRuleSets]
  obtain ⟨tree, grew⟩ := ok_of_is_ok
    (show (smallFern.growth ⟨[]⟩).outcome.isOk = true by decide +kernel)
  obtain ⟨plan, word, planned, sanitized, _, _, _, bareIff, _, _, _, trunk, within, most⟩ :=
    trees_are_bare_as_seeds_only ⟨[]⟩ smallFern.source smallFern tree
      (fun ruleSet same => by cases same; exact builtIn) grew
  have planIs : smallFern.plan ⟨[]⟩ = .ok ⟨20.0, ⟨300.0, 600.0⟩, fernRules⟩ := rfl
  have scoreIs : smallFern.score.sanitized = .ok 20.0 := rfl
  cases planIs.symm.trans planned
  have score : (20.0 : Float) = tree.score := Except.ok.inj (scoreIs.symm.trans sanitized)
  have grown : tree.branches ≠ [] := by
    rw [Ne, bareIff, ← score]
    decide +kernel
  obtain ⟨first, rest, branches, level, start⟩ := trunk grown
  exact ⟨tree, first, rest, grew, builtIn, branches, level, start, by omega⟩

end Arboretum

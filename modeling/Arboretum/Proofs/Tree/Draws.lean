import Arboretum.Proofs.Chance.Recording
import Arboretum.Proofs.Tree.Layout

/-!
The draws of a growth. Every step of a growth does the same with a recording as with the source
itself, so the draws of a growth can be read off its recording; and they are the same on every
surface and under every jitter on which the growth comes to an end.
-/

namespace Arboretum

open Drawing Fallible

set_option autoImplicit false

variable {σ α : Type} [Scalar α] [ChanceSource σ α]

section Steps

variable (parameters : GrowthParameters α) (jitter : JitterBands α)

theorem jittered_mirrored (spread : α) (point : Point α) :
    Mirrored (σ := σ) (α := α) (Turtle.jittered spread point) (Turtle.jittered spread point) :=
  mirrored_bind (mirrored_between _ _) (fun _ =>
    mirrored_bind (mirrored_between _ _) (fun _ => mirrored_pure _))

theorem leaf_at_mirrored (point : Point α) :
    Mirrored (σ := σ) (α := α) (Turtle.leafAt parameters jitter point)
      (Turtle.leafAt parameters jitter point) := by
  apply mirrored_bind (jittered_mirrored _ _)
  intro position
  apply mirrored_bind (mirrored_between _ _)
  intro size
  apply mirrored_bind (mirrored_between _ _)
  intro rotation
  apply mirrored_bind mirrored_unit
  intro share
  by_cases flower : share < Turtle.flowerProbability
  · rw [if_pos flower, if_pos flower]
    exact mirrored_pure _
  · rw [if_neg flower, if_neg flower]
    exact mirrored_bind (mirrored_one_of _) (fun _ => mirrored_pure _)

theorem step_mirrored (walk : Walk α) (symbol : Char) :
    Mirrored (σ := σ) (α := α) (walk.step parameters jitter symbol)
      (walk.step parameters jitter symbol) := by
  unfold Walk.step
  split
  · apply mirrored_bind (mirrored_between _ _)
    intro _
    exact mirrored_bind (mirrored_lift _) (fun _ => mirrored_pure _)
  · exact mirrored_bind (leaf_at_mirrored parameters jitter _) (fun _ => mirrored_pure _)
  · exact mirrored_bind (mirrored_between _ _) (fun _ => mirrored_pure _)
  · exact mirrored_bind (mirrored_between _ _) (fun _ => mirrored_pure _)
  · exact mirrored_pure _
  · exact mirrored_pure _
  · exact mirrored_pure _

theorem walk_mirrored (word : Word) (walk : Walk α) :
    Mirrored (σ := σ) (α := α) (Walk.along parameters jitter word walk)
      (Walk.along parameters jitter word walk) := by
  induction word generalizing walk with
  | nil => exact mirrored_pure _
  | cons symbol word induction =>
      exact mirrored_bind (step_mirrored parameters jitter walk symbol) induction

theorem leaf_on_mirrored (branch : Branch α) :
    Mirrored (σ := σ) (α := α) (Scatter.leafOn parameters jitter branch)
      (Scatter.leafOn parameters jitter branch) := by
  apply mirrored_bind mirrored_unit
  intro _
  apply mirrored_bind (jittered_mirrored _ _)
  intro _
  apply mirrored_bind (mirrored_between _ _)
  intro _
  apply mirrored_bind (mirrored_between _ _)
  intro _
  exact mirrored_bind (mirrored_one_of _) (fun _ => mirrored_pure _)

theorem leaves_on_mirrored (branch : Branch α) (count : Nat) :
    Mirrored (σ := σ) (α := α) (Scatter.leavesOn parameters jitter branch count)
      (Scatter.leavesOn parameters jitter branch count) := by
  induction count with
  | zero => exact mirrored_pure _
  | succ count induction =>
      apply mirrored_bind (leaf_on_mirrored parameters jitter branch)
      intro _
      exact mirrored_bind induction (fun _ => mirrored_pure _)

theorem added_mirrored (branch : Branch α) :
    Mirrored (σ := σ) (α := α) (Scatter.added parameters jitter branch)
      (Scatter.added parameters jitter branch) := by
  unfold Scatter.added
  by_cases trunk : branch.level = 0
  · rw [if_pos trunk, if_pos trunk]
    exact mirrored_pure _
  rw [if_neg trunk, if_neg trunk]
  apply mirrored_bind mirrored_unit
  intro share
  by_cases passed : Scatter.probability ≤ share
  · rw [if_pos passed, if_pos passed]
    exact mirrored_pure _
  rw [if_neg passed, if_neg passed]
  apply mirrored_bind mirrored_unit
  intro _
  apply mirrored_bind (mirrored_lift _)
  intro _
  exact leaves_on_mirrored parameters jitter branch _

theorem scatter_mirrored (target : Nat) (branches : List (Branch α))
    (leaves : Array (LeafSite α)) :
    Mirrored (σ := σ) (α := α) (Scatter.along parameters jitter target branches leaves)
      (Scatter.along parameters jitter target branches leaves) := by
  induction branches generalizing leaves with
  | nil => exact mirrored_pure _
  | cons branch branches induction =>
      apply mirrored_bind (added_mirrored parameters jitter branch)
      intro more
      dsimp only
      by_cases full : (!more.isEmpty && decide (target ≤ (leaves ++ more).size)) = true
      · rw [if_pos full, if_pos full]
        exact mirrored_pure _
      · rw [if_neg full, if_neg full]
        exact induction _

theorem scatter_leaves_mirrored (branches : List (Branch α)) (leaves : List (LeafSite α)) :
    Mirrored (σ := σ) (α := α) (scatterLeaves branches leaves parameters jitter)
      (scatterLeaves branches leaves parameters jitter) := by
  unfold scatterLeaves
  by_cases bare : parameters.leafDensityTarget ≤ 0
  · rw [if_pos bare, if_pos bare]
    exact mirrored_pure _
  rw [if_neg bare, if_neg bare]
  exact mirrored_bind (scatter_mirrored parameters jitter _ _ _) (fun _ => mirrored_pure _)

end Steps

/-- A growth from a recording is the growth itself. -/
theorem grow_mirrored (score : α) (surface : Surface α) (ruleSet : RuleSet)
    (jitter : JitterBands α) :
    Mirrored (σ := σ) (α := α) (Tree.grow score surface ruleSet jitter)
      (Tree.grow score surface ruleSet jitter) := by
  refine mirrored_bind (mirrored_bind (walk_mirrored _ jitter _ _) (fun _ => mirrored_pure _))
    (fun drawn => ?_)
  exact mirrored_bind (scatter_leaves_mirrored _ jitter _ _) (fun _ => mirrored_pure _)

namespace TreeRequest

/-- The draws of a growth from a source, in order. -/
def draws {τ : Type} [ChanceSource τ Float] (environment : Environment) (source : τ)
    (request : TreeRequest) : List (Draw Float) :=
  match request.plan environment with
  | .error _ => []
  | .ok plan =>
      let growing : Drawing (Recorded τ Float) (Tree Float) :=
        Tree.grow plan.score plan.surface plan.ruleSet request.jitter
      (growing.run ⟨source, []⟩).2.draws

theorem growth_from_outcome {τ : Type} [ChanceSource τ Float] (environment : Environment)
    (source : τ) (request : TreeRequest) (plan : GrowthPlan)
    (planned : request.plan environment = .ok plan) :
    (request.growthFrom environment source).outcome =
      ((Tree.grow plan.score plan.surface plan.ruleSet request.jitter :
        Drawing τ (Tree Float)).run source).1 := by
  rw [growthFrom, planned]
  dsimp only
  cases ((Tree.grow plan.score plan.surface plan.ruleSet request.jitter :
    Drawing τ (Tree Float)).run source).1 with
  | error fault => rfl
  | ok tree => rfl

theorem growth_from_recorded {τ : Type} [ChanceSource τ Float] (environment : Environment)
    (source : τ) (request : TreeRequest) (tree : Tree Float)
    (grew : (request.growthFrom environment source).outcome = .ok tree) :
    ∃ plan recorded, request.plan environment = .ok plan ∧
      (Tree.grow plan.score plan.surface plan.ruleSet request.jitter).run
        (⟨source, []⟩ : Recorded τ Float) = (.ok tree, recorded) ∧
      recorded.draws = request.draws environment source := by
  cases planned : request.plan environment with
  | error fault =>
      rw [growthFrom, planned] at grew
      cases grew
  | ok plan =>
      rw [growth_from_outcome environment source request plan planned] at grew
      obtain ⟨more, recording⟩ := grow_mirrored (σ := τ) plan.score plan.surface plan.ruleSet
        request.jitter source []
      rw [grew] at recording
      refine ⟨plan, _, rfl, recording, ?_⟩
      rw [draws, planned]
      dsimp only
      rw [recording]

theorem plan_returned (environment : Environment) (request : TreeRequest) (plan : GrowthPlan)
    (planned : request.plan environment = .ok plan) :
    request.score.sanitized = .ok plan.score ∧
      request.ruleSet.resolve environment (.real plan.score) = .ok plan.ruleSet := by
  simp only [TreeRequest.plan, bind_eq_ok] at planned
  obtain ⟨score, scored, rest⟩ := planned
  cases given : request.surface with
  | some surface =>
      simp only [given, bind_eq_ok] at rest
      obtain ⟨_, _, ruleSet, resolved, made⟩ := rest
      cases made
      exact ⟨scored, resolved⟩
  | none =>
      simp only [given, bind_eq_ok] at rest
      obtain ⟨_, _, ruleSet, resolved, made⟩ := rest
      cases made
      exact ⟨scored, resolved⟩

end TreeRequest

/-- Two growths of one score with one choice of rules from one source, on whatever surfaces and
under whatever jitter: if both come to an end, the trees are alike but for coordinates and the
length of segments, and the draws were the same. -/
theorem growths_differ_in_layout_only {τ : Type} [ChanceSource τ Float] (environment : Environment)
    (source : τ) (request other : TreeRequest) (sameScore : other.score = request.score)
    (sameRules : other.ruleSet = request.ruleSet) (one two : Tree Float)
    (grewOne : (request.growthFrom environment source).outcome = .ok one)
    (grewTwo : (other.growthFrom environment source).outcome = .ok two) :
    one.Alike two ∧ other.draws environment source = request.draws environment source := by
  obtain ⟨plan, recorded, planned, ran, drew⟩ :=
    request.growth_from_recorded environment source one grewOne
  obtain ⟨plan', recorded', planned', ran', drew'⟩ :=
    other.growth_from_recorded environment source two grewTwo
  obtain ⟨scored, resolved⟩ := request.plan_returned environment plan planned
  obtain ⟨scored', resolved'⟩ := other.plan_returned environment plan' planned'
  rw [sameScore, scored] at scored'
  have score := Except.ok.inj scored'
  rw [sameRules, ← score, resolved] at resolved'
  have ruleSet := Except.ok.inj resolved'
  rw [← score, ← ruleSet] at ran'
  obtain ⟨alike, sameRecorded⟩ := grow_coupled plan.score plan.surface plan'.surface plan.ruleSet
    request.jitter other.jitter _ _ rfl one recorded two recorded' ran ran'
  refine ⟨alike, ?_⟩
  rw [← drew, ← drew', sameRecorded]

/-! A twig on two surfaces, without jitter and with it. -/

def twigRules : RuleSet := ⟨"twig", [('X', "F[+FX]X".toList)]⟩

def narrowTwig : TreeRequest :=
  ⟨.real 20.0, .ofValues [0.25, 0.5], some ⟨300.0, 600.0⟩, .given twigRules, .none⟩

def wideTwig : TreeRequest :=
  ⟨.real 20.0, .ofValues [0.25, 0.5], some ⟨1200.0, 900.0⟩, .given twigRules, .usual⟩

theorem twigs_differ_in_layout_only :
    ∃ one two, (narrowTwig.growth ⟨[]⟩).outcome = .ok one ∧
      (wideTwig.growth ⟨[]⟩).outcome = .ok two ∧ one.Alike two ∧
      wideTwig.draws ⟨[]⟩ wideTwig.source = narrowTwig.draws ⟨[]⟩ narrowTwig.source ∧
      (narrowTwig.draws ⟨[]⟩ narrowTwig.source).length = 39 := by
  have grows : ∀ growth : Growth Float, growth.outcome.isOk = true →
      ∃ tree, growth.outcome = .ok tree := by
    rintro ⟨_, fault | tree⟩ returned
    · cases returned
    · exact ⟨tree, rfl⟩
  obtain ⟨one, grewOne⟩ := grows (narrowTwig.growth ⟨[]⟩) (by decide +kernel)
  obtain ⟨two, grewTwo⟩ := grows (wideTwig.growth ⟨[]⟩) (by decide +kernel)
  obtain ⟨alike, sameDraws⟩ := growths_differ_in_layout_only ⟨[]⟩ narrowTwig.source narrowTwig
    wideTwig rfl rfl one two grewOne grewTwo
  exact ⟨one, two, grewOne, grewTwo, alike, sameDraws, by decide +kernel⟩

end Arboretum

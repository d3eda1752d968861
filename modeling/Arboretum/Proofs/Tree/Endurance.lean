import Arboretum.Proofs.Chance.Refusal
import Arboretum.Proofs.Score
import Arboretum.Proofs.Tree.Levels

/-!
What growth endures. A plan is made of every score that is not beyond the reals, unless the
environment or the name of the rules stands in the way, which they do whatever the score; and a
plan once made ends in a tree unless the jitter leaves the turtle without a direction or the
source of chance is of no use.
-/

namespace Arboretum

open Number Fallible

set_option autoImplicit false

/-- The faults that the growth of a plan can end with. -/
inductive Interrupts (σ : Type) {α : Type} [Scalar α] [ChanceSource σ α] : Fault → Prop
  | chance {fault : Fault} (refuses : ChanceFault σ fault) : Interrupts σ fault
  | count {source : σ} {fault : Fault}
      (uncountable : Scalar.truncate ((ChanceSource.draw source).1 * Scatter.countBound) =
        .error fault) :
      Interrupts σ fault
  | direction : Interrupts σ .angleWithoutDirection

section Growth

variable {σ α : Type} [Scalar α] [ChanceSource σ α]

def Grows {β : Type} (drawing : Drawing σ β) : Prop :=
  Endures (fun _ : σ => True) (Interrupts σ) drawing

theorem grows_of_chance {β : Type} {drawing : Drawing σ β}
    (endures : Endures (fun _ : σ => True) (ChanceFault σ) drawing) : Grows drawing :=
  endures_mono (fun _ => .chance) endures

theorem unit_grows : Grows (Drawing.unit : Drawing σ α) := grows_of_chance Drawing.unit_endures

theorem between_grows (low high : α) : Grows (Drawing.between low high : Drawing σ α) :=
  grows_of_chance (Drawing.between_endures low high)

theorem leaf_color_grows (paletteIndex : Int) : Grows (leafColor paletteIndex : Drawing σ String) :=
  grows_of_chance
    (endures_mono (fun _ => chance_fault_of_refuses) (Drawing.leaf_color_endures paletteIndex))

theorem jittered_grows (spread : α) (point : Point α) :
    Grows (Turtle.jittered spread point : Drawing σ (Point α)) :=
  endures_bind (between_grows _ _) fun _ => endures_bind (between_grows _ _) fun _ => endures_pure _

/-! The turtle. -/

section Turtle

variable (parameters : GrowthParameters α) (jitter : JitterBands α)

theorem leaf_at_grows (point : Point α) :
    Grows (Turtle.leafAt parameters jitter point : Drawing σ (LeafSite α)) := by
  refine endures_bind (jittered_grows _ _) fun position => ?_
  refine endures_bind (between_grows _ _) fun size => ?_
  refine endures_bind (between_grows _ _) fun rotation => ?_
  refine endures_bind unit_grows fun share => ?_
  by_cases flower : share < Turtle.flowerProbability
  · simp only [flower, if_true]
    exact endures_pure _
  · simp only [flower, if_false]
    exact endures_bind (leaf_color_grows _) fun _ => endures_pure _

theorem step_grows (walk : Walk α) (symbol : Char) :
    Grows (walk.step parameters jitter symbol : Drawing σ (Walk α)) := by
  unfold Walk.step
  split
  · refine endures_bind (between_grows _ _) fun offset => ?_
    refine endures_bind (endures_lift fun fault failed => ?_) fun _ => endures_pure _
    unfold Turtle.ahead at failed
    split at failed
    · cases failed
      exact .direction
    · cases failed
  · exact endures_bind (leaf_at_grows _ _ _) fun _ => endures_pure _
  · exact endures_bind (between_grows _ _) fun _ => endures_pure _
  · exact endures_bind (between_grows _ _) fun _ => endures_pure _
  · exact endures_pure _
  · exact endures_pure _
  · exact endures_pure _

theorem walk_grows (word : Word) (walk : Walk α) :
    Grows (Walk.along parameters jitter word walk : Drawing σ (Walk α)) := by
  induction word generalizing walk with
  | nil => exact endures_pure _
  | cons symbol word induction =>
      exact endures_bind (step_grows parameters jitter walk symbol) fun later => induction later

theorem interpret_grows (word : Word) (surface : Surface α) :
    Grows (interpret word parameters surface jitter : Drawing σ (Interpretation α)) :=
  endures_bind (walk_grows parameters jitter word _) fun _ => endures_pure _

end Turtle

/-! The foliage. -/

section Foliage

variable (parameters : GrowthParameters α) (jitter : JitterBands α)

theorem leaf_on_grows (branch : Branch α) :
    Grows (Scatter.leafOn parameters jitter branch : Drawing σ (LeafSite α)) := by
  refine endures_bind unit_grows fun share => ?_
  refine endures_bind (jittered_grows _ _) fun position => ?_
  refine endures_bind (between_grows _ _) fun size => ?_
  refine endures_bind (between_grows _ _) fun rotation => ?_
  exact endures_bind (leaf_color_grows _) fun _ => endures_pure _

theorem leaves_on_grows (branch : Branch α) (count : Nat) :
    Grows (Scatter.leavesOn parameters jitter branch count : Drawing σ (List (LeafSite α))) := by
  induction count with
  | zero => exact endures_pure _
  | succ count induction =>
      refine endures_bind (leaf_on_grows parameters jitter branch) fun leaf => ?_
      exact endures_bind induction fun _ => endures_pure _

/-- How many leaves a branch adds is counted from the number that was drawn just before. -/
theorem added_grows (branch : Branch α) :
    Grows (Scatter.added parameters jitter branch : Drawing σ (List (LeafSite α))) := by
  unfold Scatter.added
  by_cases trunk : branch.level = 0
  · simp only [trunk, if_true]
    exact endures_pure _
  simp only [trunk, if_false]
  refine endures_bind unit_grows fun share => ?_
  by_cases passed : Scatter.probability ≤ share
  · simp only [passed, if_true]
    exact endures_pure _
  simp only [passed, if_false]
  intro source _
  rw [run_bind]
  refine endures_bind (endures_lift fun fault failed => ?_)
    (fun count => leaves_on_grows parameters jitter branch _) (ChanceSource.draw source).2 trivial
  exact .count failed

theorem scatter_along_grows (target : Nat) (branches : List (Branch α))
    (leaves : Array (LeafSite α)) :
    Grows (Scatter.along parameters jitter target branches leaves :
      Drawing σ (Array (LeafSite α))) := by
  induction branches generalizing leaves with
  | nil => exact endures_pure _
  | cons branch branches induction =>
      refine endures_bind (added_grows parameters jitter branch) fun more => ?_
      dsimp only
      split
      · exact endures_pure _
      · exact induction _

theorem scatter_leaves_grows (branches : List (Branch α)) (leaves : List (LeafSite α)) :
    Grows (scatterLeaves branches leaves parameters jitter : Drawing σ (List (LeafSite α))) := by
  unfold scatterLeaves
  split
  · exact endures_pure _
  · exact endures_bind (scatter_along_grows parameters jitter _ _ _) fun _ => endures_pure _

end Foliage

theorem grow_grows (score : α) (surface : Surface α) (ruleSet : RuleSet) (jitter : JitterBands α) :
    Grows (Tree.grow score surface ruleSet jitter : Drawing σ (Tree α)) := by
  refine endures_bind (interpret_grows _ _ _ _) fun drawn => ?_
  exact endures_bind (scatter_leaves_grows _ _ _ _) fun _ => endures_pure _

end Growth

/-! Plans. -/

section Plans

variable {score : RawScore} {value : Float}

variable (environment : Environment) (request : TreeRequest)

theorem plan_of_sanitized (sanitized : score.sanitized = .ok value) :
    ({ request with score := score } : TreeRequest).plan environment =
      (match request.surface with
        | some surface => pure surface
        | none => Configuration.surface environment) >>= fun surface =>
        request.ruleSet.resolve environment (.real value) >>= fun ruleSet =>
          .ok ⟨value, surface, ruleSet⟩ := by
  rw [TreeRequest.plan, sanitized]
  cases request.surface <;> rfl

theorem plan_fault {fault : Fault} (sanitized : score.sanitized = .ok value)
    (fit : Score.IsSanitized value)
    (failed : ({ request with score := score } : TreeRequest).plan environment = .error fault) :
    ({ request with score := .real 0.0 } : TreeRequest).plan environment = .error fault := by
  rw [plan_of_sanitized environment request sanitized] at failed
  rw [plan_of_sanitized environment request (RawScore.real_sanitized Score.zero_is_sanitized)]
  refine bind_fault (fun surface => ?_) failed
  intro failed
  cases resolved : request.ruleSet.resolve environment (.real value) with
  | error other =>
      rw [resolved] at failed
      rw [RuleSetChoice.resolve_fault (RawScore.real_sanitized fit) resolved]
      exact congrArg Except.error (Except.error.inj failed)
  | ok ruleSet =>
      rw [resolved] at failed
      cases failed

theorem growth_of_sanitized {σ : Type} [ChanceSource σ Float] (source : σ)
    (sanitized : score.sanitized = .ok value) (fit : Score.IsSanitized value) :
    ({ request with score := score } : TreeRequest).growthFrom environment source =
      ({ request with score := .real value } : TreeRequest).growthFrom environment source := by
  rw [TreeRequest.growthFrom, TreeRequest.growthFrom,
    plan_of_sanitized environment request sanitized,
    plan_of_sanitized environment request (RawScore.real_sanitized fit)]

theorem growth_fault {σ : Type} [ChanceSource σ Float] {environment : Environment} {source : σ}
    {request : TreeRequest} {fault : Fault}
    (failed : (request.growthFrom environment source).outcome = .error fault) :
    request.plan environment = .error fault ∨ Interrupts σ fault := by
  cases planned : request.plan environment with
  | error other =>
      rw [TreeRequest.growthFrom, planned] at failed
      exact .inl (congrArg Except.error (Except.error.inj failed))
  | ok plan =>
      rw [TreeRequest.growth_from_outcome environment source request plan planned] at failed
      have ends :=
        grow_grows (σ := σ) plan.score plan.surface plan.ruleSet request.jitter source trivial
      rcases ran : (Tree.grow plan.score plan.surface plan.ruleSet request.jitter).run source with
        ⟨other | tree, later⟩
      · rw [ran] at failed ends
        cases failed
        exact .inr ends
      · rw [ran] at failed
        cases failed

end Plans

/-- A score serves as a number: it is sanitized to it, and nothing that is made of the score fails
because of it or takes it for another number. -/
structure RawScore.ServesAs (score : RawScore) (value : Float) : Prop where
  sanitized : score.sanitized = .ok value
  fit : Score.IsSanitized value
  again : Score.sanitize value = value ∧ (RawScore.real value).sanitized = .ok value
  made : ∀ reading, score.number? = .ok reading → Score.SameFor (reading.getD 0.0) value
  counted : ∀ number ∈ Score.wholes value, number.isFinite = true
  summed : ∀ displayName shares, (TreeSummary.ofScore value displayName shares).score = value
  ruled : ∀ environment choice,
    RuleSetChoice.resolve environment score choice = choice.resolve environment (.real value) ∧
      ∀ fault, RuleSetChoice.resolve environment score choice = .error fault →
        choice.resolve environment (.real 0.0) = .error fault
  grown : ∀ {σ : Type} [ChanceSource σ Float] (environment : Environment) (source : σ)
    (request : TreeRequest),
    let growth := ({ request with score := score } : TreeRequest).growthFrom environment source
    growth = ({ request with score := .real value } : TreeRequest).growthFrom environment source ∧
      (∀ tree, growth.outcome = .ok tree → tree.score = value ∧
        ∃ plan, ({ request with score := score } : TreeRequest).plan environment = .ok plan ∧
          tree.parameters = .ofScore value plan.surface.sizeScale) ∧
      ∀ fault, growth.outcome = .error fault →
        ({ request with score := .real 0.0 } : TreeRequest).plan environment = .error fault ∨
          Interrupts σ fault

/-- Every score is sanitized to a finite number that is not negative, and serves as it in all that
is made of a score, except for the integers beyond the reals, which are refused. -/
theorem scores_serve_unless_beyond_reals (score : RawScore) :
    (∃ value, score.ServesAs value) ∧ ¬ score.IsBeyondReals ∨
      score.IsBeyondReals ∧ score.sanitized = .error .integerBeyondReals := by
  rcases score.sanitized_outcome with refused | ⟨within, value, sanitized, fit, made⟩
  · exact .inr refused
  · refine .inl ⟨⟨value, ?_⟩, within⟩
    have again := Score.sanitize_sanitized fit
    refine ⟨sanitized, fit, ⟨again, RawScore.real_sanitized fit⟩, fun reading reads => ?_,
      Score.wholes_are_finite fit, fun _ _ => again, fun environment choice => ?_, ?_⟩
    · exact made reading reads ▸ Score.same_for_sanitized (reading.getD 0.0)
    · exact ⟨choice.resolve_eq environment sanitized fit,
        fun _ => RuleSetChoice.resolve_fault sanitized⟩
    · intro σ _ environment source request growth
      refine ⟨growth_of_sanitized environment request source sanitized fit, ?_, ?_⟩
      · intro tree grew
        obtain ⟨plan, planned, _, parameters, _, _, _, _, scored, _⟩ := Tree.growth_returned grew
        have same : plan.score = value :=
          Except.ok.inj ((TreeRequest.plan_returned _ _ plan planned).1.symm.trans sanitized)
        rw [same] at parameters scored
        exact ⟨scored, plan, planned, parameters⟩
      · intro fault failed
        exact (growth_fault failed).imp_left (plan_fault environment request sanitized fit)

/-- An integer of three hundred and ten digits is refused, and so is the growth of a tree for it. -/
theorem long_score_is_refused :
    let score := RawScore.integer (10 ^ 309)
    (¬ ∃ value, score.sanitized = .ok value) ∧ score.sanitized = .error .integerBeyondReals ∧
      ({ smallFern with score := score } : TreeRequest).growth ⟨[]⟩ =
        ⟨[], .error .integerBeyondReals⟩ := by
  intro score
  have beyond : score.IsBeyondReals := by
    change leastBeyondWords ≤ (10 ^ 309 : Int).natAbs
    decide +kernel
  have refused : score.sanitized = .error .integerBeyondReals := by
    rcases score.sanitized_outcome with ⟨_, refused⟩ | ⟨within, _⟩
    · exact refused
    · exact absurd beyond within
  refine ⟨?_, refused, ?_⟩
  · rintro ⟨value, sanitized⟩
    rw [refused] at sanitized
    cases sanitized
  · rw [TreeRequest.growth, TreeRequest.growthFrom, TreeRequest.plan, refused]
    rfl

end Arboretum

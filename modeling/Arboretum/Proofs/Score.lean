import Arboretum.Parameters
import Arboretum.Proofs.Configuration
import Arboretum.Proofs.Fallible
import Arboretum.Proofs.Number.WholeParts
import Arboretum.Summary

/-!
What is made of a score. Whatever it arrives as, a score is a finite number that is not negative
once it is sanitized, unless it is an integer beyond the reals; sanitizing it again changes
nothing, so all that is made of a score is made of one number. That number is small enough for
every whole part that is taken of it.
-/

namespace Arboretum

open Number Fallible

set_option autoImplicit false

/-- An integer that is not near any word. -/
def RawScore.IsBeyondReals : RawScore → Prop
  | .integer value => leastBeyondWords ≤ value.natAbs
  | _ => False

namespace Score

structure IsSanitized (value : Float) : Prop where
  finite : value.isFinite = true
  notNegative : 0.0 ≤ value

theorem zero_is_sanitized : IsSanitized 0.0 := ⟨by decide +kernel, by decide +kernel⟩

theorem sanitize_eq (value : Float) :
    sanitize value = if !value.isFinite || decide (value < 0.0) then 0.0 else value := rfl

theorem sanitize_is_sanitized (value : Float) : IsSanitized (sanitize value) := by
  rw [sanitize_eq]
  by_cases unfit : (!value.isFinite || decide (value < 0.0)) = true
  · rw [if_pos unfit]
    exact zero_is_sanitized
  · rw [if_neg unfit]
    simp only [Bool.or_eq_true, Bool.not_eq_true', not_or, Bool.not_eq_false] at unfit
    obtain ⟨finite, notLess⟩ := unfit
    obtain ⟨place, placed, _⟩ := (is_finite_iff value).mp finite
    have number : value.isNaN = false := by
      refine Bool.eq_false_iff.mpr fun absurdly => ?_
      rw [(is_nan_iff value).mp absurdly] at placed
      cases placed
    exact ⟨finite, le_of_not_less number (by decide +kernel) (Bool.eq_false_iff.mpr notLess)⟩

theorem place_of_sanitized {value : Float} (sanitized : IsSanitized value) :
    ∃ place, place? value = some place ∧ 0 ≤ place ∧ place < outermost := by
  obtain ⟨place, placed, _, within⟩ := (is_finite_iff value).mp sanitized.finite
  obtain ⟨zero, other, zeroPlaced, otherPlaced, ordered⟩ :=
    (le_iff_places _ _).mp sanitized.notNegative
  rw [place_of_zero] at zeroPlaced
  rw [placed] at otherPlaced
  cases zeroPlaced
  cases otherPlaced
  exact ⟨place, placed, ordered, within⟩

theorem sanitize_sanitized {value : Float} (sanitized : IsSanitized value) :
    sanitize value = value := by
  obtain ⟨place, placed, low, _⟩ := place_of_sanitized sanitized
  have notLess : ¬ value < 0.0 := by
    intro less
    obtain ⟨_, _, there, zeroPlaced, below⟩ := (lt_iff_places _ _).mp less
    rw [placed] at there
    rw [place_of_zero] at zeroPlaced
    cases there
    cases zeroPlaced
    omega
  rw [sanitize_eq, sanitized.finite, decide_eq_false notLess]
  rfl

theorem sanitize_again (value : Float) : sanitize (sanitize value) = sanitize value :=
  sanitize_sanitized (sanitize_is_sanitized value)

end Score

namespace RawScore

open Score

theorem number_outcome (score : RawScore) :
    (score.IsBeyondReals ∧ score.number? = .error .integerBeyondReals) ∨
      ¬ score.IsBeyondReals ∧ ∃ reading, score.number? = .ok reading := by
  cases score with
  | integer value =>
      have reads : (RawScore.integer value).number? = (Scalar.ofInt value).map some := rfl
      have missing := of_int_none_iff value
      rw [reads]
      unfold Scalar.ofInt
      change (leastBeyondWords ≤ value.natAbs ∧ _) ∨ ¬ leastBeyondWords ≤ value.natAbs ∧ _
      cases found : (Scalar.ofInt? value : Option Float) with
      | none => exact .inl ⟨missing.mp found, rfl⟩
      | some number =>
          refine .inr ⟨fun large => ?_, some number, rfl⟩
          cases found.symm.trans (missing.mpr large)
  | real value => exact .inr ⟨id, _, rfl⟩
  | text value => exact .inr ⟨id, _, rfl⟩
  | flag value => exact .inr ⟨id, _, rfl⟩
  | other => exact .inr ⟨id, _, rfl⟩

/-- A score is sanitized unless it is beyond the reals, as the number that it is
read as or else as zero. -/
theorem sanitized_outcome (score : RawScore) :
    (score.IsBeyondReals ∧ score.sanitized = .error .integerBeyondReals) ∨
      ¬ score.IsBeyondReals ∧
        ∃ value, score.sanitized = .ok value ∧ IsSanitized value ∧
          ∀ reading, score.number? = .ok reading → sanitize (reading.getD 0.0) = value := by
  unfold sanitized
  rcases score.number_outcome with ⟨beyond, refused⟩ | ⟨within, reading, reads⟩
  · rw [refused]
    exact .inl ⟨beyond, rfl⟩
  · rw [reads]
    refine .inr ⟨within, ?_⟩
    cases reading with
    | none =>
        refine ⟨0.0, rfl, zero_is_sanitized, fun other same => ?_⟩
        cases same
        exact sanitize_sanitized zero_is_sanitized
    | some number =>
        refine ⟨sanitize number, rfl, sanitize_is_sanitized number, fun other same => ?_⟩
        cases same
        rfl

theorem fit_of_sanitized {score : RawScore} {value : Float}
    (sanitized : score.sanitized = .ok value) :
    IsSanitized value := by
  rcases score.sanitized_outcome with ⟨_, refused⟩ | ⟨_, other, same, fit, _⟩
  · cases refused.symm.trans sanitized
  · cases same.symm.trans sanitized
    exact fit

theorem real_sanitized {value : Float} (fit : IsSanitized value) :
    (RawScore.real value).sanitized = .ok value :=
  congrArg Except.ok (sanitize_sanitized fit)

end RawScore

namespace Score

/-! All that is made of a score. -/

/-- The same is made of two numbers that come as scores. -/
structure SameFor (number other : Float) : Prop where
  iterations : GrowthParameters.iterationsFor number = GrowthParameters.iterationsFor other
  parameters : ∀ sizeScale, GrowthParameters.ofScore number sizeScale = .ofScore other sizeScale
  stage : TreeStage.ofScore number = TreeStage.ofScore other
  summary : ∀ displayName shares,
    TreeSummary.ofScore number displayName shares = .ofScore other displayName shares

theorem same_for_sanitized (number : Float) : SameFor number (sanitize number) := by
  have again := sanitize_again number
  have iterations :
      GrowthParameters.iterationsFor number = GrowthParameters.iterationsFor (sanitize number) := by
    rw [GrowthParameters.iterationsFor, GrowthParameters.iterationsFor, again]
  have stage : TreeStage.ofScore number = TreeStage.ofScore (sanitize number) := by
    rw [TreeStage.ofScore, TreeStage.ofScore, again]
  refine ⟨iterations, fun sizeScale => ?_, stage, fun displayName shares => ?_⟩
  · rw [GrowthParameters.ofScore, GrowthParameters.ofScore, again]
  · rw [TreeSummary.ofScore, TreeSummary.ofScore, again]

end Score

namespace RuleSetChoice

variable {score : RawScore} {value : Float}

theorem resolve_configured (environment : Environment) (sanitized : score.sanitized = .ok value) :
    configured.resolve environment score =
      Configuration.strategy environment >>= fun
        | .fixed => ruleSetNamed ((Configuration.ruleSetName environment).getD "")
        | .byScore => .ok (ruleSetForScore value) := by
  rw [RuleSetChoice.resolve, sanitized]
  congr 1

theorem resolve_eq (choice : RuleSetChoice) (environment : Environment)
    (sanitized : score.sanitized = .ok value) (fit : Score.IsSanitized value) :
    choice.resolve environment score = choice.resolve environment (.real value) := by
  cases choice with
  | given ruleSet => rfl
  | named name => rfl
  | configured =>
      rw [resolve_configured environment sanitized,
        resolve_configured environment (RawScore.real_sanitized fit)]

/-- Where the score decides there are rules for every score. -/
theorem resolve_fault {environment : Environment} {choice : RuleSetChoice} {fault : Fault}
    (sanitized : score.sanitized = .ok value)
    (failed : choice.resolve environment score = .error fault) :
    choice.resolve environment (.real 0.0) = .error fault := by
  cases choice with
  | given ruleSet => cases failed
  | named name => exact failed
  | configured =>
      rw [resolve_configured environment sanitized] at failed
      rw [resolve_configured environment (RawScore.real_sanitized Score.zero_is_sanitized)]
      refine bind_fault (fun strategy => ?_) failed
      cases strategy with
      | fixed => exact id
      | byScore => exact fun found => nomatch found

end RuleSetChoice

namespace Score

/-! Whole parts. -/

/-- A word that is neither small nor among the largest leads within the bounds of whole parts. -/
theorem leads_between {value : Float} {place : Int} (placed : place? value = some place)
    (low : 1024 * 2 ^ 52 ≤ place) (high : place < 2044 * 2 ^ 52) :
    ∃ position, LeadsAt value position ∧ 2 ≤ position ∧ position ≤ 1022 := by
  have outer : outermost = 2047 * 2 ^ 52 := rfl
  obtain ⟨position, leads, bounds⟩ := leads_of_place placed (by omega) (by omega)
  obtain ⟨atLeast, atMost⟩ := bounds (by omega)
  exact ⟨position, leads, by omega, by omega⟩

theorem ten_leads : ∃ position, LeadsAt 10.0 position ∧ 2 ≤ position ∧ position ≤ 1022 :=
  leads_between rfl (by decide +kernel) (by decide +kernel)

/-- The periods that a score is counted in: those of iterations, of seasons and of rule sets. -/
def periods : List Float := [1000.0, seasonPeriod, 150.0]

theorem periods_lead : ∀ period ∈ periods, ∃ position, LeadsAt period position ∧ 2 ≤ position ∧
    position ≤ 1022 := by
  intro period member
  simp only [periods, List.mem_cons, List.not_mem_nil, or_false] at member
  rcases member with rfl | rfl | rfl <;>
    exact leads_between rfl (by decide +kernel) (by decide +kernel)

/-- The numbers of which whole parts are taken when a tree is grown for a score. -/
def wholes (value : Float) : List Float :=
  Scalar.smaller (value / 10.0) GrowthParameters.maximalLeafDensity ::
    periods.map fun period => (value - Scalar.remainder value period) / period

theorem place_of_densest :
    place? GrowthParameters.maximalLeafDensity = some (1029 * 2 ^ 52 + 2 ^ 50) := by decide +kernel

theorem place_of_density {value : Float} (sanitized : IsSanitized value) :
    ∃ place, place? (Scalar.smaller (value / 10.0) GrowthParameters.maximalLeafDensity) =
      some place ∧
      0 ≤ place ∧ place ≤ 1029 * 2 ^ 52 + 2 ^ 50 := by
  obtain ⟨place, placed, low, high⟩ := place_of_sanitized sanitized
  obtain ⟨position, leads, two, _⟩ := ten_leads
  obtain ⟨share, sharePlaced, shareLow, shareHigh⟩ := quotient_place leads two placed low high
  unfold Scalar.smaller
  split
  · exact ⟨_, place_of_densest, by decide, Int.le_refl _⟩
  · rename_i notLess
    refine ⟨share, sharePlaced, shareLow, Int.not_lt.mp fun beyond => notLess ?_⟩
    exact (lt_iff_places _ _).mpr ⟨_, _, place_of_densest, sharePlaced, beyond⟩

theorem wholes_are_finite {value : Float} (sanitized : IsSanitized value) :
    ∀ number ∈ wholes value, number.isFinite = true := by
  have outer : outermost = 2047 * 2 ^ 52 := rfl
  refine List.forall_mem_cons.mpr ⟨?_, List.forall_mem_map.mpr fun period member => ?_⟩
  · obtain ⟨place, placed, low, high⟩ := place_of_density sanitized
    exact (is_finite_iff _).mpr ⟨place, placed, by omega, by omega⟩
  · obtain ⟨place, placed, low, high⟩ := place_of_sanitized sanitized
    obtain ⟨position, leads, two, small⟩ := periods_lead period member
    exact whole_periods_are_finite placed low high leads small two

/-- However large the score, there are at most eighty leaves. -/
theorem leaf_density_bounds (score sizeScale : Float) :
    0 ≤ (GrowthParameters.ofScore score sizeScale).leafDensityTarget ∧
      (GrowthParameters.ofScore score sizeScale).leafDensityTarget ≤ 80 := by
  unfold GrowthParameters.ofScore
  dsimp only
  split
  · exact ⟨Int.le_refl 0, by decide⟩
  · obtain ⟨place, placed, low, high⟩ := place_of_density (sanitize_is_sanitized score)
    exact integer_part_mono placed place_of_densest low high (by decide)

end Score

end Arboretum

import Arboretum.Proofs.Number.Exact
import Arboretum.Proofs.Number.Order
import Arboretum.Proofs.Score

/-!
What a score means for growth. In exact numbers nothing that grows with the score ever falls:
every step and slope rises, and so does the way from the table of steps to the formula beyond it
and from the seed to the first tree. In words, whatever the score and the scale are, every
parameter stays within its bounds.
-/

namespace Arboretum

open Number

set_option autoImplicit false

/-- The exact numbers with a root of another kind. -/
@[reducible] noncomputable def Exact.withRoot (root : ℝ → ℝ) : Scalar ℝ :=
  { (inferInstance : Scalar ℝ) with squareRoot := root }

namespace GrowthParameters

theorem iterations_in_steps {α : Type} [Scalar α] (score : α) :
    iterationsFor score =
      if Score.sanitize score == 0.0 then 0
      else if Score.sanitize score ≤ 25.0 then 2
      else if Score.sanitize score ≤ 75.0 then 3
      else if Score.sanitize score ≤ 200.0 then 4
      else if Score.sanitize score ≤ 500.0 then 5
      else min maximalIterations
        (5 + (Scalar.wholeQuotient (Score.sanitize score) 1000.0).toNat) := by
  unfold iterationsFor iterationBuckets
  dsimp only
  split_ifs <;> simp [*]

/-! Exact numbers. -/

/-- Growth for a score with nothing rounded. -/
noncomputable def exactly (root : ℝ → ℝ) (score sizeScale : ℝ) : GrowthParameters ℝ :=
  @ofScore ℝ (Exact.withRoot root) score sizeScale

/-- What grows with the score has not fallen. -/
structure HasRisen (before after : GrowthParameters ℝ) : Prop where
  iterations : before.iterationCount ≤ after.iterationCount
  segment_length : before.baseSegmentLength ≤ after.baseSegmentLength
  thickness : before.baseThickness ≤ after.baseThickness
  leaf_density : before.leafDensityTarget ≤ after.leafDensityTarget

/-- The steps of the iterations, and the formula beyond them. -/
noncomputable def steps (score : ℝ) : Nat :=
  if score ≤ 25.0 then 2
  else if score ≤ 75.0 then 3
  else if score ≤ 200.0 then 4
  else if score ≤ 500.0 then 5
  else min 6 (5 + ⌊score / 1000.0⌋.toNat)

theorem steps_mono {score higher : ℝ} (rises : score ≤ higher) : steps score ≤ steps higher := by
  have floors : ⌊score / 1000.0⌋ ≤ ⌊higher / 1000.0⌋ := Int.floor_mono (by gcongr)
  unfold steps
  split_ifs
  all_goals first | omega | (exfalso; linarith)

section Exactly

variable (root : ℝ → ℝ)

theorem sanitize_exactly (score : ℝ) :
    @Score.sanitize ℝ (Exact.withRoot root) score = max score 0 := by
  change (if (!true || decide (score < 0.0)) = true then (0.0 : ℝ) else score) = _
  rw [Exact.zero_eq]
  by_cases negative : score < 0
  · rw [if_pos (by simpa using negative), max_eq_right negative.le]
  · rw [if_neg (by simpa using negative), max_eq_left (not_lt.mp negative)]

/-- The scale that is used is positive, so it keeps the order of lengths. -/
theorem usable_scale_positive (sizeScale : ℝ) :
    0 < @usableScale ℝ (Exact.withRoot root) sizeScale := by
  change 0 < if (true && decide (0.0 < sizeScale)) = true then sizeScale else (1.0 : ℝ)
  rw [Exact.zero_eq, Exact.one_eq]
  split
  · rename_i positive
    simpa using positive
  · exact one_pos

theorem clamp_exactly (value lower upper : ℝ) :
    @Scalar.clamp ℝ (Exact.withRoot root) value lower upper = max lower (min upper value) := by
  rw [← Exact.smaller_eq, ← Exact.larger_eq]
  rfl

theorem whole_exactly {value : ℝ} (low : 0 ≤ value) :
    @Scalar.integerPart ℝ (Exact.withRoot root) value = ⌊value⌋ :=
  if_pos low

theorem exactly_of_zero {score : ℝ} (nothing : score ≤ 0) (sizeScale : ℝ) :
    exactly root score sizeScale = @ofSeed ℝ (Exact.withRoot root) := by
  unfold exactly ofScore
  dsimp only
  rw [sanitize_exactly, max_eq_right nothing, if_pos]
  exact beq_iff_eq.mpr Exact.zero_eq.symm

variable {score : ℝ} (positive : 0 < score)

include positive

theorem iterations_exactly : @iterationsFor ℝ (Exact.withRoot root) score = steps score := by
  rw [@iterations_in_steps ℝ (Exact.withRoot root), sanitize_exactly,
    max_eq_left positive.le, if_neg]
  · unfold steps
    congr
  · exact fun same => positive.ne' ((eq_of_beq same).trans Exact.zero_eq)

theorem exactly_of_positive (sizeScale : ℝ) :
    exactly root score sizeScale =
      { @ofSeed ℝ (Exact.withRoot root) with
        iterationCount := steps score
        baseSegmentLength :=
          max 15.0
            (min 35.0 ((20.0 + root score * 0.5) * @usableScale ℝ (Exact.withRoot root) sizeScale))
        baseAngleDegrees := 22.5 + (score - 100.0 * ⌊score / 100.0⌋) * 0.1
        baseThickness := max 3.0 (min 15.0 (score / 30.0 + 3.0))
        leafDensityTarget := ⌊min (score / 10.0) 80.0⌋
        paletteIndex := ⌊score / 100.0⌋ % 5 } := by
  have dense : (0 : ℝ) ≤ min (score / 10.0) 80.0 := by
    refine le_min ?_ ?_ <;> positivity
  unfold exactly ofScore
  dsimp only
  rw [sanitize_exactly, max_eq_left positive.le, iterations_exactly root positive, if_neg]
  · have density : @Scalar.smaller ℝ (Exact.withRoot root) (score / 10.0) 80.0 =
        min (score / 10.0) 80.0 :=
      Exact.smaller_eq _ _
    rw [← whole_exactly root dense, ← density, clamp_exactly, clamp_exactly]
    rfl
  · exact fun same => positive.ne' ((eq_of_beq same).trans Exact.zero_eq)

end Exactly

/-- A seed has the least length and thickness, to which every tree is cut. Of two trees the greater
score has no smaller share of anything. -/
theorem exactly_rises {root : ℝ → ℝ} (monotone : MonotoneOn root (Set.Ici 0)) {score higher : ℝ}
    (rises : score ≤ higher) (sizeScale : ℝ) :
    (exactly root score sizeScale).HasRisen (exactly root higher sizeScale) := by
  rcases le_or_gt higher 0 with nothing | positive
  · rw [exactly_of_zero root nothing, exactly_of_zero root (rises.trans nothing)]
    exact ⟨le_refl _, le_refl _, le_refl _, le_refl _⟩
  rw [exactly_of_positive root positive]
  rcases le_or_gt score 0 with seed | grown
  · rw [exactly_of_zero root seed]
    refine ⟨Nat.zero_le _, le_max_left _ _, le_max_left _ _, Int.floor_nonneg.mpr ?_⟩
    exact le_min (by positivity) (by norm_num)
  · rw [exactly_of_positive root grown]
    have roots : root score ≤ root higher := monotone grown.le positive.le rises
    have scale := usable_scale_positive root sizeScale
    refine ⟨steps_mono rises, ?_, ?_, Int.floor_mono ?_⟩
    · change max _ _ ≤ max _ _
      gcongr
    · change max _ _ ≤ max _ _
      gcongr
    · gcongr

/-! Words. -/

/-- Every parameter is within its bounds. -/
structure IsBounded (parameters : GrowthParameters Float) : Prop where
  iterations : parameters.iterationCount ≤ 6 ∧ parameters.iterationCount ≠ 1
  segment_length : 15.0 ≤ parameters.baseSegmentLength ∧ parameters.baseSegmentLength ≤ 35.0
  thickness : 3.0 ≤ parameters.baseThickness ∧ parameters.baseThickness ≤ 15.0
  leaf_density : 0 ≤ parameters.leafDensityTarget ∧ parameters.leafDensityTarget ≤ 80
  base_angle : 22.5 ≤ parameters.baseAngleDegrees ∧ parameters.baseAngleDegrees ≤ 32.5
  palette_index : 0 ≤ parameters.paletteIndex ∧ parameters.paletteIndex ≤ 4
  length_decay : 0.0 < parameters.lengthDecay ∧ parameters.lengthDecay < 1.0
  thickness_decay : 0.0 < parameters.thicknessDecay ∧ parameters.thicknessDecay < 1.0

theorem iterations_bounds {α : Type} [Scalar α] (score : α) :
    iterationsFor score ≤ 6 ∧ iterationsFor score ≠ 1 := by
  rw [iterations_in_steps, maximalIterations]
  split_ifs <;> omega

/-- Whatever is cut at both ends stays between them, even what is no number. -/
theorem clamp_bounds (value : Float) {lower upper : Float} (ordered : lower ≤ upper) :
    lower ≤ Scalar.clamp value lower upper ∧ Scalar.clamp value lower upper ≤ upper := by
  have le_of_less {left right : Float} (less : left < right) : left ≤ right := by
    obtain ⟨place, other, placed, otherPlaced, below⟩ := (lt_iff_places _ _).mp less
    exact (le_iff_places _ _).mpr ⟨place, other, placed, otherPlaced, below.le⟩
  obtain ⟨least, most, leastPlaced, mostPlaced, low⟩ := (le_iff_places _ _).mp ordered
  have below : Scalar.smaller upper value ≤ upper := by
    unfold Scalar.smaller
    split
    · exact le_of_less ‹_›
    · exact (le_iff_places _ _).mpr ⟨most, most, mostPlaced, mostPlaced, le_refl _⟩
  unfold Scalar.clamp Scalar.larger
  split
  · exact ⟨le_of_less ‹_›, below⟩
  · exact ⟨(le_iff_places _ _).mpr ⟨least, least, leastPlaced, leastPlaced, le_refl _⟩, ordered⟩

/-- The remainder of a score turns the base angle by a tenth of it: by nothing at least, and by what
a whole hundred would turn it at most. -/
theorem base_angle_bounds {score : Float} (sanitized : Score.IsSanitized score) :
    22.5 ≤ leastBaseAngle + Scalar.remainder score 100.0 * 0.1 ∧
      leastBaseAngle + Scalar.remainder score 100.0 * 0.1 ≤ 32.5 := by
  obtain ⟨place, placed, low, high⟩ := Score.place_of_sanitized sanitized
  have outer : outermost = 2047 * 2 ^ 52 := rfl
  have least : place? leastBaseAngle = some 4627026404658118656 := by decide +kernel
  have tenth : place? 0.1 = some 4591870180066957722 := by decide +kernel
  have hundred : place? 100.0 = some 4636737291354636288 := by decide +kernel
  have ten : place? (100.0 * 0.1) = some 4621819117588971520 := by decide +kernel
  obtain ⟨rest, restPlaced, restLow, restHigh⟩ :=
    remainder_within_period placed hundred low high (by decide) (by decide)
  obtain ⟨turn, whole, turnPlaced, wholePlaced, turnLow, turnHigh⟩ :=
    products_in_order restPlaced hundred tenth restLow restHigh (by decide) (by decide) (by decide)
  cases ten.symm.trans wholePlaced
  have atLeast :=
    sums_in_order place_of_zero turnPlaced least (le_refl _) turnLow (by omega) (by decide)
    (by decide)
  have atMost := sums_in_order turnPlaced wholePlaced least turnLow turnHigh (by decide) (by decide)
    (by decide)
  rw [show (leastBaseAngle + 0.0 : Float) = 22.5 by decide +kernel] at atLeast
  rw [show (leastBaseAngle + 100.0 * 0.1 : Float) = 32.5 by decide +kernel] at atMost
  exact ⟨atLeast, atMost⟩

/-- Seasons come round to one of the five palettes. -/
theorem palette_bounds (season : Int) :
    0 ≤ season % (seasonalPalettes.length : Int) ∧
      season % (seasonalPalettes.length : Int) ≤ 4 := by
  rw [show (seasonalPalettes.length : Int) = 5 from rfl]
  omega

theorem seed_is_bounded : (ofSeed : GrowthParameters Float).IsBounded where
  iterations := by decide
  segment_length := by decide +kernel
  thickness := by decide +kernel
  leaf_density := by decide
  base_angle := by decide +kernel
  palette_index := by decide
  length_decay := by decide +kernel
  thickness_decay := by decide +kernel

theorem is_bounded (score sizeScale : Float) : (ofScore score sizeScale).IsBounded := by
  have density := Score.leaf_density_bounds score sizeScale
  unfold ofScore at *
  dsimp only at *
  split
  · exact seed_is_bounded
  · rename_i grown
    rw [if_neg grown] at density
    exact {
      iterations := iterations_bounds _
      segment_length := clamp_bounds _ (by decide +kernel)
      thickness := clamp_bounds _ (by decide +kernel)
      leaf_density := density
      base_angle := base_angle_bounds (Score.sanitize_is_sanitized score)
      palette_index := palette_bounds _
      length_decay := seed_is_bounded.length_decay
      thickness_decay := seed_is_bounded.thickness_decay }

theorem unusable_scale_is_one (score : Float) {sizeScale : Float}
    (unusable : (sizeScale.isFinite && decide (0.0 < sizeScale)) = false) :
    ofScore score sizeScale = ofScore score 1.0 := by
  have one : usableScale (1.0 : Float) = 1.0 := if_pos (by decide +kernel)
  have same : usableScale sizeScale = 1.0 := if_neg (ne_true_of_eq_false unusable)
  unfold ofScore
  rw [one, same]

/-- In exact numbers, with whatever root that never falls, what grows with the score never falls, on
a surface of any scale and from the seed on. In words every parameter is within its bounds, whatever
score and scale are given; the whole parts among them are taken of finite numbers only, and a scale
that is not positive and finite counts as one. -/
theorem growth_rises_within_bounds :
    (∀ root : ℝ → ℝ, MonotoneOn root (Set.Ici 0) → ∀ score higher sizeScale : ℝ, score ≤ higher →
      (exactly root score sizeScale).HasRisen (exactly root higher sizeScale)) ∧
    ∀ score sizeScale : Float,
      (ofScore score sizeScale).IsBounded ∧
      (∀ number ∈ Score.wholes (Score.sanitize score), number.isFinite = true) ∧
      ((sizeScale.isFinite && decide (0.0 < sizeScale)) = false →
        ofScore score sizeScale = ofScore score 1.0) :=
  ⟨fun _ monotone _ _ sizeScale rises => exactly_rises monotone rises sizeScale,
    fun score sizeScale =>
      ⟨is_bounded score sizeScale, Score.wholes_are_finite (Score.sanitize_is_sanitized score),
        unusable_scale_is_one score⟩⟩

/-- A seed and a score of thirty at twice the usual scale, and a scale that is no number. -/
theorem seed_grows_to_thirty :
    (exactly Real.sqrt 0.0 2.0).HasRisen (exactly Real.sqrt 30.0 2.0) ∧
      ofScore 250.0 (0.0 / 0.0 : Float) = ofScore 250.0 1.0 := by
  obtain ⟨rises, bounds⟩ := growth_rises_within_bounds
  have monotone : MonotoneOn Real.sqrt (Set.Ici 0) := Real.sqrt_monotone.monotoneOn _
  refine ⟨rises Real.sqrt monotone 0.0 30.0 2.0 (by norm_num), ?_⟩
  exact (bounds 250.0 (0.0 / 0.0)).2.2 (by decide +kernel)

end GrowthParameters

end Arboretum

import Arboretum.Proofs.Number.Words
import Mathlib.Algebra.Order.Field.Basic
import Mathlib.Algebra.Order.Field.Power
import Mathlib.Data.Rat.Cast.Order
import Mathlib.Tactic.FieldSimp
import Mathlib.Tactic.Linarith
import Mathlib.Tactic.NormNum
import Mathlib.Tactic.Positivity
import Mathlib.Tactic.Ring

/-!
Where the word nearest to a quotient lies. Scaled by a power of two, the quotient leaves a
mantissa of at most fifty-three bits, so its word is placed by its binary logarithm, to within one
power of two. An integer has a nearest word unless it is at least halfway from the greatest word
to the power of two that follows it.
-/

namespace Arboretum.Number

set_option autoImplicit false

/-! Whole parts of a quotient that is scaled by a power of two. -/

theorem shift_by_two (quotient : Quotient) (power : Int) :
    quotient.shift 2 power =
      ⟨quotient.numerator * 2 ^ power.toNat, quotient.denominator * 2 ^ (-power).toNat⟩ := by
  unfold Quotient.shift
  by_cases upward : 0 ≤ power
  · rw [if_pos upward, show (-power).toNat = 0 by omega, pow_zero, Nat.mul_one]
    rfl
  · rw [if_neg upward, show power.toNat = 0 by omega, pow_zero, Nat.mul_one]
    rfl

theorem zpow_eq_parts (power : Int) :
    (2 : ℚ) ^ power * 2 ^ (-power).toNat = 2 ^ power.toNat := by
  rw [← zpow_natCast, ← zpow_natCast, ← zpow_add₀ (by norm_num)]
  congr 1
  omega

/-- The whole part of a scaled quotient is below a power of two when the quotient is
below that power, scaled back. -/
theorem whole_lt_iff (quotient : Quotient) (positive : 0 < quotient.denominator) (exponent : Int)
    (bits : Nat) :
    (quotient.shift 2 (-exponent)).numerator / (quotient.shift 2 (-exponent)).denominator <
      2 ^ bits ↔
      (quotient.numerator : ℚ) < 2 ^ (bits + exponent) * quotient.denominator := by
  have scaledPositive : 0 < quotient.denominator * 2 ^ exponent.toNat := by positivity
  rw [shift_by_two, neg_neg, Nat.div_lt_iff_lt_mul scaledPositive, ← Nat.cast_lt (α := ℚ)]
  push_cast
  have back : (0 : ℚ) < 2 ^ (-exponent).toNat := by positivity
  have regrouped : (2 : ℚ) ^ bits * (quotient.denominator * 2 ^ exponent.toNat) =
      2 ^ (bits + exponent) * quotient.denominator * 2 ^ (-exponent).toNat := by
    rw [zpow_add₀ (by norm_num), zpow_natCast, ← zpow_eq_parts exponent]
    ring
  rw [regrouped]
  exact mul_lt_mul_iff_left₀ back

theorem logarithm_bounds {value : Nat} (positive : 0 < value) :
    (2 : ℚ) ^ (value.log2 : Int) ≤ value ∧ (value : ℚ) < 2 ^ ((value.log2 : Int) + 1) := by
  constructor
  · rw [zpow_natCast]
    exact_mod_cast Nat.log2_self_le (Nat.ne_of_gt positive)
  · have above := Nat.lt_log2_self (n := value)
    have cast : ((value.log2 : Int) + 1) = ((value.log2 + 1 : Nat) : Int) := by push_cast; rfl
    rw [cast, zpow_natCast]
    exact_mod_cast above

/-- A positive quotient lies within a factor of two of the power of two of its logarithm bound. -/
theorem quotient_bounds {quotient : Quotient} (top : 0 < quotient.numerator)
    (positive : 0 < quotient.denominator) :
    2 ^ (Binary64.logarithmBound quotient - 1) * (quotient.denominator : ℚ) < quotient.numerator ∧
      (quotient.numerator : ℚ) <
        2 ^ (Binary64.logarithmBound quotient + 1) * quotient.denominator := by
  obtain ⟨topLow, topHigh⟩ := logarithm_bounds top
  obtain ⟨low, high⟩ := logarithm_bounds positive
  unfold Binary64.logarithmBound
  constructor
  · calc (2 : ℚ) ^ ((quotient.numerator.log2 : Int) - quotient.denominator.log2 - 1) *
          quotient.denominator
        < 2 ^ ((quotient.numerator.log2 : Int) - quotient.denominator.log2 - 1) *
          2 ^ ((quotient.denominator.log2 : Int) + 1) :=
          mul_lt_mul_of_pos_left high (by positivity)
      _ = 2 ^ (quotient.numerator.log2 : Int) := by
          rw [← zpow_add₀ (by norm_num)]
          congr 1
          omega
      _ ≤ quotient.numerator := topLow
  · calc (quotient.numerator : ℚ) < 2 ^ ((quotient.numerator.log2 : Int) + 1) := topHigh
      _ = 2 ^ ((quotient.numerator.log2 : Int) - quotient.denominator.log2 + 1) *
          2 ^ (quotient.denominator.log2 : Int) := by
          rw [← zpow_add₀ (by norm_num)]
          congr 1
          omega
      _ ≤ 2 ^ ((quotient.numerator.log2 : Int) - quotient.denominator.log2 + 1) *
          quotient.denominator := mul_le_mul_of_nonneg_left low (by positivity)

/-! The exponent and the mantissa of the nearest word. -/

theorem exponent_eq (quotient : Quotient) :
    let upper := Binary64.logarithmBound quotient - 52
    Binary64.exponentFor quotient =
      max
        (if (quotient.shift 2 (-upper)).numerator / (quotient.shift 2 (-upper)).denominator < 2 ^ 52
          then upper - 1 else upper)
        (-1074) := rfl

theorem exponent_le (quotient : Quotient) :
    Binary64.exponentFor quotient ≤ max (Binary64.logarithmBound quotient - 52) (-1074) := by
  rw [exponent_eq]
  split
  · omega
  · exact Int.le_refl _

section Nearest

variable {quotient : Quotient} (top : 0 < quotient.numerator) (positive : 0 < quotient.denominator)

include top positive

/-- The exponent leaves at most fifty-three bits of mantissa before the point. -/
theorem whole_fits :
    (quotient.shift 2 (-Binary64.exponentFor quotient)).numerator /
      (quotient.shift 2 (-Binary64.exponentFor quotient)).denominator < 2 ^ 53 := by
  rw [whole_lt_iff quotient positive]
  obtain ⟨_, above⟩ := quotient_bounds top positive
  have scale : (0 : ℚ) ≤ quotient.denominator := by positivity
  rw [exponent_eq]
  split
  · rename_i short
    have below := (whole_lt_iff quotient positive _ 52).mp short
    refine lt_of_lt_of_le below (mul_le_mul_of_nonneg_right ?_ scale)
    exact zpow_le_zpow_right₀ (by norm_num) (by omega)
  · refine lt_of_lt_of_le above (mul_le_mul_of_nonneg_right ?_ scale)
    exact zpow_le_zpow_right₀ (by norm_num) (by omega)

end Nearest

theorem round_bounds (quotient : Quotient) :
    quotient.numerator / quotient.denominator ≤ quotient.round ∧
      quotient.round ≤ quotient.numerator / quotient.denominator + 1 := by
  unfold Quotient.round
  dsimp only
  split
  · omega
  split
  · omega
  · omega

/-- A quotient rounds to an even number or beyond if it is at least halfway to it from below. -/
theorem le_round_iff {quotient : Quotient} (positive : 0 < quotient.denominator) {target : Nat}
    (even : target % 2 = 0) (above : 0 < target) :
    target ≤ quotient.round ↔ (2 * target - 1) * quotient.denominator ≤ 2 * quotient.numerator := by
  have parts := Nat.div_add_mod quotient.numerator quotient.denominator
  have remaining := Nat.mod_lt quotient.numerator positive
  obtain ⟨atLeast, atMost⟩ := round_bounds quotient
  unfold Quotient.round at *
  dsimp only at *
  generalize quotient.numerator / quotient.denominator = whole at *
  generalize quotient.numerator % quotient.denominator = rest at *
  rw [← parts]
  rcases Nat.lt_trichotomy target (whole + 1) with reached | rfl | beyond
  · obtain ⟨missing, rfl⟩ := Nat.exists_eq_add_of_le (Nat.le_of_lt_succ reached)
    refine iff_of_true (Nat.le_trans (Nat.le_add_right _ _) atLeast) ?_
    have scaled : (2 * target - 1) * quotient.denominator ≤
        2 * (target + missing) * quotient.denominator := Nat.mul_le_mul_right _ (by omega)
    nlinarith
  · have scaled : (2 * (whole + 1) - 1) * quotient.denominator =
        2 * (quotient.denominator * whole) + quotient.denominator := by
      rw [show 2 * (whole + 1) - 1 = 2 * whole + 1 by omega]
      ring
    rw [scaled]
    split
    · omega
    split
    · omega
    · omega
  · refine iff_of_false (Nat.not_le.mpr (Nat.lt_of_le_of_lt atMost beyond)) ?_
    have scaled : (2 * whole + 3) * quotient.denominator ≤
        (2 * target - 1) * quotient.denominator :=
      Nat.mul_le_mul_right _ (by omega)
    nlinarith

/-! The bits of the nearest word. -/

/-- The bits of the word nearest to a quotient, were there no greatest word. -/
def wordBits (quotient : Quotient) : Nat :=
  let exponent := Binary64.exponentFor quotient
  let mantissa := (quotient.shift 2 (-exponent)).round
  if mantissa < 2 ^ 52 then mantissa else (exponent + 1074).toNat * 2 ^ 52 + mantissa

theorem nearest_bits_eq {quotient : Quotient} (top : 0 < quotient.numerator) :
    Binary64.nearestBits? quotient =
      if wordBits quotient < 2047 * 2 ^ 52 then some (wordBits quotient) else none := by
  unfold Binary64.nearestBits?
  rw [if_neg (by omega)]
  rfl

theorem word_bits_le {quotient : Quotient} (top : 0 < quotient.numerator)
    (positive : 0 < quotient.denominator) :
    (wordBits quotient : Int) ≤
      (max (Binary64.logarithmBound quotient - 52) (-1074) + 1076) * 2 ^ 52 := by
  have fits := whole_fits top positive
  have least : -1074 ≤ Binary64.exponentFor quotient := le_max_right _ _
  have most := exponent_le quotient
  have rounded := (round_bounds (quotient.shift 2 (-Binary64.exponentFor quotient))).2
  unfold wordBits
  dsimp only
  split
  · omega
  · omega

/-- Quotients below the greatest power of two have a nearest word, placed by their logarithm. -/
theorem nearest_bits_of_small {quotient : Quotient} (top : 0 < quotient.numerator)
    (positive : 0 < quotient.denominator) (small : Binary64.logarithmBound quotient ≤ 1022) :
    Binary64.nearestBits? quotient = some (wordBits quotient) := by
  have bound := word_bits_le top positive
  rw [nearest_bits_eq top, if_pos (by omega)]

theorem nearest_place {negative : Bool} {quotient : Quotient} {value : Float}
    (found : Binary64.nearest? negative quotient = some value) :
    ∃ bits, Binary64.nearestBits? quotient = some bits ∧ bits < 2047 * 2 ^ 52 ∧
      place? value = some (if negative then -(bits : Int) else bits) := by
  unfold Binary64.nearest? at found
  obtain ⟨bits, nearest, rfl⟩ := Option.map_eq_some_iff.mp found
  have within : bits < 2047 * 2 ^ 52 := by
    by_cases nothing : quotient.numerator = 0
    · rw [Binary64.nearestBits?, if_pos nothing] at nearest
      cases nearest
      decide
    · rw [nearest_bits_eq (by omega)] at nearest
      split at nearest
      · cases nearest
        assumption
      · cases nearest
  exact ⟨bits, nearest, within, place_of_bits negative (by omega)⟩

theorem nearest_is_finite {negative : Bool} {quotient : Quotient} {value : Float}
    (found : Binary64.nearest? negative quotient = some value) : value.isFinite = true := by
  obtain ⟨bits, _, within, placed⟩ := nearest_place found
  refine (is_finite_iff value).mpr ⟨_, placed, ?_⟩
  unfold outermost
  cases negative
  · simp only [Bool.false_eq_true, if_false]
    omega
  · simp only [if_true]
    omega

/-! Integers. -/

/-- The least integer that is too large for a word, halfway from the greatest word to the power of
two that follows it: `2 ^ 1024 - 2 ^ 970`. -/
def leastBeyondWords : Nat := (2 ^ 54 - 1) * 2 ^ 970

theorem twice_least_beyond : 2 * leastBeyondWords = (2 * 2 ^ 53 - 1) * 2 ^ 971 := by
  rw [leastBeyondWords, show (971 : Nat) = 970 + 1 from rfl, pow_succ 2 970]
  generalize 2 ^ 970 = half
  omega

theorem pow_le_least_beyond : 2 ^ 1023 ≤ leastBeyondWords := by
  rw [leastBeyondWords, show (1023 : Nat) = 53 + 970 from rfl, pow_add]
  exact Nat.mul_le_mul_right _ (by decide)

theorem least_beyond_le_pow : leastBeyondWords ≤ 2 ^ 1024 := by
  rw [leastBeyondWords, show (1024 : Nat) = 54 + 970 from rfl, pow_add]
  exact Nat.mul_le_mul_right _ (by decide)

section Integers

variable {value : Nat} (positive : 0 < value)

include positive

theorem integer_exponent : Binary64.exponentFor ⟨value, 1⟩ = value.log2 - 52 := by
  have full : ¬ (Quotient.shift ⟨value, 1⟩ 2 (-((value.log2 : Int) - 52))).numerator /
      (Quotient.shift ⟨value, 1⟩ 2 (-((value.log2 : Int) - 52))).denominator < 2 ^ 52 := by
    rw [whole_lt_iff ⟨value, 1⟩ Nat.one_pos]
    have low := (logarithm_bounds positive).1
    simp only [Nat.cast_one, mul_one, not_lt]
    refine le_trans (le_of_eq ?_) low
    congr 1
    omega
  have logarithm : Binary64.logarithmBound ⟨value, 1⟩ = value.log2 := Int.sub_zero _
  rw [exponent_eq, logarithm, if_neg full]
  omega

/-- The mantissa of an integer takes up all fifty-three bits. -/
theorem integer_mantissa_bounds :
    2 ^ 52 ≤ (Quotient.shift ⟨value, 1⟩ 2 (-((value.log2 : Int) - 52))).round ∧
      (Quotient.shift ⟨value, 1⟩ 2 (-((value.log2 : Int) - 52))).round ≤ 2 ^ 53 := by
  have fits := @whole_fits ⟨value, 1⟩ positive Nat.one_pos
  have full := whole_lt_iff ⟨value, 1⟩ Nat.one_pos ((value.log2 : Int) - 52) 52
  have bounds := round_bounds (Quotient.shift ⟨value, 1⟩ 2 (-((value.log2 : Int) - 52)))
  rw [integer_exponent positive] at fits
  have low := (logarithm_bounds positive).1
  have notBelow : ¬ (value : ℚ) <
      2 ^ (((52 : Nat) : Int) + (value.log2 - 52)) * ((1 : Nat) : ℚ) := by
    simp only [Nat.cast_one, mul_one, not_lt]
    refine le_trans (le_of_eq ?_) low
    congr 1
    omega
  have whole := mt full.mp notBelow
  omega

theorem integer_bits_eq :
    wordBits ⟨value, 1⟩ = (value.log2 + 1022) * 2 ^ 52 +
      (Quotient.shift ⟨value, 1⟩ 2 (-((value.log2 : Int) - 52))).round := by
  obtain ⟨full, _⟩ := integer_mantissa_bounds positive
  unfold wordBits
  dsimp only
  rw [integer_exponent positive, if_neg (by omega)]
  congr 2
  omega

/-- The word nearest to an integer has its place between the powers of two next to the integer. -/
theorem integer_bits_bounds :
    (value.log2 + 1023) * 2 ^ 52 ≤ wordBits ⟨value, 1⟩ ∧
      wordBits ⟨value, 1⟩ ≤ (value.log2 + 1024) * 2 ^ 52 := by
  obtain ⟨full, fits⟩ := integer_mantissa_bounds positive
  rw [integer_bits_eq positive]
  omega

theorem integer_has_no_word_iff :
    2047 * 2 ^ 52 ≤ wordBits ⟨value, 1⟩ ↔ leastBeyondWords ≤ value := by
  have atLeast : 2 ^ value.log2 ≤ value := Nat.log2_self_le (Nat.ne_of_gt positive)
  have below : value < 2 ^ (value.log2 + 1) := Nat.lt_log2_self
  obtain ⟨full, fits⟩ := integer_mantissa_bounds positive
  rcases Nat.lt_trichotomy value.log2 1023 with less | same | more
  · have small : value < leastBeyondWords :=
      calc value < 2 ^ (value.log2 + 1) := below
        _ ≤ 2 ^ 1023 := pow_le_pow_right₀ (by decide) (by omega)
        _ ≤ leastBeyondWords := pow_le_least_beyond
    have bits := (integer_bits_bounds positive).2
    exact iff_of_false (by omega) (Nat.not_le.mpr small)
  · have scaled : Quotient.shift ⟨value, 1⟩ 2 (-((value.log2 : Int) - 52)) = ⟨value, 2 ^ 971⟩ := by
      have up : (-(((1023 : Nat) : Int) - 52)).toNat = 0 := by decide
      have down : (-(-(((1023 : Nat) : Int) - 52))).toNat = 971 := by decide
      rw [same, shift_by_two, up, down, pow_zero, Nat.mul_one, Nat.one_mul]
    have edge := @le_round_iff ⟨value, 2 ^ 971⟩ (pow_pos (by decide) 971) (2 ^ 53) (by decide)
      (by decide)
    rw [← twice_least_beyond] at edge
    dsimp only at edge
    rw [scaled] at fits
    rw [integer_bits_eq positive, scaled, same]
    generalize Quotient.round _ = mantissa at *
    constructor
    · intro beyond
      have halfway := edge.mp (by omega)
      omega
    · intro beyond
      have rounded := edge.mpr (by omega)
      omega
  · have field : 2047 ≤ value.log2 + 1023 := Nat.add_le_add_right more 1023
    refine iff_of_true ?_ ?_
    · exact le_trans (Nat.mul_le_mul_right _ field) (integer_bits_bounds positive).1
    · calc leastBeyondWords ≤ 2 ^ 1024 := least_beyond_le_pow
        _ ≤ 2 ^ value.log2 := pow_le_pow_right₀ (by decide) more
        _ ≤ value := atLeast

end Integers

/-- An integer has a nearest word unless it is too large. -/
theorem of_int_none_iff (value : Int) :
    Binary64.ofInt? value = none ↔ leastBeyondWords ≤ value.natAbs := by
  unfold Binary64.ofInt? Binary64.nearest?
  rw [Option.map_eq_none_iff]
  by_cases zero : value.natAbs = 0
  · have large : 0 < leastBeyondWords :=
      lt_of_lt_of_le (pow_pos (by decide) 1023) pow_le_least_beyond
    rw [zero]
    refine iff_of_false ?_ (Nat.not_le.mpr large)
    rw [Binary64.nearestBits?, if_pos rfl]
    exact Option.some_ne_none 0
  · have positive : 0 < value.natAbs := by omega
    rw [nearest_bits_eq positive, ← integer_has_no_word_iff positive]
    constructor
    · intro missing
      by_contra below
      rw [if_pos (by omega)] at missing
      cases missing
    · intro beyond
      rw [if_neg (by omega)]

/-- The place of the word nearest to a positive integer, by the logarithm of the integer. -/
theorem of_int_place {value : Int} {number : Float} (positive : 0 < value)
    (found : Binary64.ofInt? value = some number) :
    ∃ place, place? number = some place ∧ place < outermost ∧
      (value.natAbs.log2 + 1023) * 2 ^ 52 ≤ place ∧
      place ≤ (value.natAbs.log2 + 1024) * 2 ^ 52 := by
  obtain ⟨bits, nearest, within, placed⟩ := nearest_place found
  have top : 0 < value.natAbs := by omega
  rw [nearest_bits_eq top] at nearest
  split at nearest
  · cases nearest
    rw [decide_eq_false (by omega)] at placed
    obtain ⟨low, high⟩ := integer_bits_bounds top
    refine ⟨_, placed, ?_⟩
    simp only [Bool.false_eq_true, if_false]
    unfold outermost
    omega
  · cases nearest

end Arboretum.Number

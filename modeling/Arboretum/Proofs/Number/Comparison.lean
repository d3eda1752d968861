import Arboretum.Proofs.Number.WholeParts
import Mathlib.Order.WithBot

/-!
Comparisons of exact numbers. A word stands for a rational number or for one of the two infinities,
and two words compare as these do: with the smaller of the two exponents as the common one, the
mantissas are integers that are in the order of what they are multiples of.
-/

namespace Arboretum.Number.Binary64

set_option autoImplicit false

/-- The number that a word stands for, infinities at the ends. What is no number
is counted as zero. -/
def value : Binary64 → WithBot (WithTop ℚ)
  | .notANumber => ((0 : ℚ) : WithTop ℚ)
  | .infinite true => ⊥
  | .infinite false => (⊤ : WithTop ℚ)
  | .finite negative mantissa exponent =>
      (((signed negative mantissa : ℚ) * 2 ^ exponent : ℚ) : WithTop ℚ)

/-- Only a word that is no number is read as one that is none. -/
theorem of_number_ne_not_a_number {number : Float.Model.UnpackedFloat}
    (proper : number.isNaN = false) :
    ofNumber number ≠ .notANumber := by
  cases number with
  | notANumber => cases proper
  | infinity sign => exact Binary64.noConfusion
  | zero sign => exact Binary64.noConfusion
  | finite sign mantissa exponent positive => exact Binary64.noConfusion

theorem signed_nat_abs (value : Int) : signed (decide (value < 0)) value.natAbs = value := by
  unfold signed
  by_cases negative : value < 0
  · rw [decide_eq_true negative, if_pos rfl]
    omega
  · rw [decide_eq_false negative, if_neg Bool.false_ne_true]
    omega

theorem signed_mul (negative : Bool) (size scale : Nat) :
    signed negative (size * scale) = signed negative size * scale := by
  cases negative with
  | false => simp [signed]
  | true => simp [signed]

/-- Scaled down to the common exponent a word is the integer that stands for it there. -/
theorem multiple_of_common {common exponent : Int} (below : common ≤ exponent) (negative : Bool)
    (mantissa : Nat) :
    (multipleOf common (.finite negative mantissa exponent) : ℚ) * 2 ^ common =
      (signed negative mantissa : ℚ) * 2 ^ exponent := by
  have scale : ((2 ^ (exponent - common).toNat : Nat) : ℚ) = 2 ^ (exponent - common) := by
    rw [Nat.cast_pow, Nat.cast_ofNat, ← zpow_natCast]
    congr 1
    omega
  change ((signed negative (mantissa * 2 ^ (exponent - common).toNat) : Int) : ℚ) * 2 ^ common = _
  rw [signed_mul, Int.cast_mul, Int.cast_natCast, scale, mul_assoc, ← zpow_add₀ (by norm_num),
    Int.sub_add_cancel]

section Order

variable {left right : Binary64} (leftNumber : left ≠ .notANumber)
  (rightNumber : right ≠ .notANumber)

include leftNumber rightNumber

theorem less_iff : less left right = true ↔ left.value < right.value := by
  cases left with
  | notANumber => exact absurd rfl leftNumber
  | infinite negative =>
      cases right with
      | notANumber => exact absurd rfl rightNumber
      | infinite otherNegative => cases negative <;> cases otherNegative <;> decide
      | finite otherNegative mantissa exponent =>
          cases negative with
          | false => exact iff_of_false Bool.false_ne_true not_top_lt
          | true => exact iff_of_true rfl (WithBot.bot_lt_coe _)
  | finite negative mantissa exponent =>
      cases right with
      | notANumber => exact absurd rfl rightNumber
      | infinite otherNegative =>
          cases otherNegative with
          | false => exact iff_of_true rfl (WithBot.coe_lt_coe.mpr (WithTop.coe_lt_top _))
          | true => exact iff_of_false Bool.false_ne_true not_lt_bot
      | finite otherNegative otherMantissa otherExponent =>
          have positive : (0 : ℚ) < 2 ^ min exponent otherExponent := by positivity
          simp only [less, value, decide_eq_true_iff, WithBot.coe_lt_coe, WithTop.coe_lt_coe]
          rw [← multiple_of_common (min_le_left exponent otherExponent) negative mantissa,
            ← multiple_of_common (min_le_right exponent otherExponent) otherNegative otherMantissa,
            mul_lt_mul_iff_left₀ positive, Int.cast_lt]

theorem same_iff : same left right = true ↔ left.value = right.value := by
  have neither : same left right = (!less left right && !less right left) := by
    cases left with
    | notANumber => exact absurd rfl leftNumber
    | infinite negative =>
        cases right with
        | notANumber => exact absurd rfl rightNumber
        | infinite otherNegative => rfl
        | finite otherNegative mantissa exponent => rfl
    | finite negative mantissa exponent =>
        cases right with
        | notANumber => exact absurd rfl rightNumber
        | infinite otherNegative => rfl
        | finite otherNegative otherMantissa otherExponent => rfl
  rw [neither, Bool.and_eq_true, Bool.not_eq_true', Bool.not_eq_true', ← Bool.not_eq_true,
    ← Bool.not_eq_true, less_iff leftNumber rightNumber, less_iff rightNumber leftNumber, not_lt,
    not_lt, and_comm]
  exact (le_antisymm_iff).symm

end Order

end Arboretum.Number.Binary64

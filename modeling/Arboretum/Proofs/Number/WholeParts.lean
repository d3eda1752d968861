import Arboretum.Proofs.Number.Bounded
import Mathlib.Algebra.Order.Floor.Semifield
import Mathlib.Data.Rat.Floor

/-!
Whole parts and remainders of words. Both are taken of the exact number that a word stands
for. A whole part grows with the place of its word, and a remainder is below the period,
so it has a word of its own; what is left after taking it off, counted in periods, is a
finite number that has a whole part.
-/

namespace Arboretum.Number

open Float.Model Float.Model.UnpackedFloat

set_option autoImplicit false

def isNegative : Sign → Bool
  | .positive => false
  | .negative => true

def Binary64.ofNumber : UnpackedFloat → Binary64
  | .notANumber => .notANumber
  | .infinity sign => .infinite (isNegative sign)
  | .zero sign => .finite (isNegative sign) 0 (-1074)
  | .finite sign mantissa exponent _ => .finite (isNegative sign) mantissa exponent

theorem of_bits_eq (bits : BitVec 64) :
    Binary64.ofBits bits.toNat = Binary64.ofNumber (UnpackedFloat.unpack Format.binary64 bits) := by
  have negative : decide (bits.toNat / 2 ^ 63 % 2 = 1) =
      isNegative (if bits.toNat / 2 ^ 63 % 2 = 0 then .positive else .negative) := by
    by_cases positive : bits.toNat / 2 ^ 63 % 2 = 0
    · rw [if_pos positive, positive]
      rfl
    · rw [if_neg positive, show bits.toNat / 2 ^ 63 % 2 = 1 by omega]
      rfl
  rw [fields_of_bits]
  generalize (if bits.toNat / 2 ^ 63 % 2 = 0 then Sign.positive else .negative) = sign at negative ⊢
  change (if bits.toNat / 2 ^ 52 % 2 ^ 11 = 2047 then
      if bits.toNat % 2 ^ 52 = 0 then Binary64.infinite (decide (bits.toNat / 2 ^ 63 % 2 = 1))
      else .notANumber
    else if bits.toNat / 2 ^ 52 % 2 ^ 11 = 0 then
      .finite (decide (bits.toNat / 2 ^ 63 % 2 = 1)) (bits.toNat % 2 ^ 52) (-1074)
    else .finite (decide (bits.toNat / 2 ^ 63 % 2 = 1)) (2 ^ 52 + bits.toNat % 2 ^ 52)
      (-1074 + ((bits.toNat / 2 ^ 52 % 2 ^ 11 : Nat) : Int) - 1)) = _
  rw [negative]
  generalize bits.toNat / 2 ^ 52 % 2 ^ 11 = exponent
  generalize bits.toNat % 2 ^ 52 = fraction
  unfold ofFields
  by_cases greatest : exponent = 2047
  · rw [if_pos greatest, if_pos greatest]
    by_cases nothing : fraction = 0
    · rw [if_pos nothing, if_pos nothing]
      rfl
    · rw [if_neg nothing, if_neg nothing]
      rfl
  rw [if_neg greatest, if_neg greatest]
  by_cases least : exponent = 0
  · rw [if_pos least, if_pos least]
    by_cases nothing : fraction = 0
    · rw [dif_pos nothing, nothing]
      rfl
    · rw [dif_neg nothing]
      rfl
  · rw [if_neg least, if_neg least]
    change _ = Binary64.finite _ _ _
    congr 1
    omega

/-- A word is read bit by bit as the number that it stands for. -/
theorem of_float_eq (value : Float) :
    Binary64.ofFloat value = Binary64.ofNumber value.toModel.unpack :=
  of_bits_eq value.toModel.toBits.toBitVec

/-! Sizes as rational numbers. -/

theorem magnitude_eq (mantissa : Nat) (exponent : Int) :
    Binary64.magnitude mantissa exponent =
      ⟨mantissa * 2 ^ exponent.toNat, 2 ^ (-exponent).toNat⟩ := by
  rw [Binary64.magnitude, shift_by_two, Nat.one_mul]

theorem magnitude_ratio (mantissa : Nat) (exponent : Int) :
    (((Binary64.magnitude mantissa exponent).numerator : Nat) : ℚ) =
      mantissa * 2 ^ exponent * ((Binary64.magnitude mantissa exponent).denominator : Nat) := by
  rw [magnitude_eq]
  push_cast
  rw [mul_assoc, zpow_eq_parts]

theorem magnitude_denominator (mantissa : Nat) (exponent : Int) :
    0 < (Binary64.magnitude mantissa exponent).denominator := by
  rw [magnitude_eq]
  exact Nat.two_pow_pos _

theorem whole_of_magnitude (mantissa : Nat) (exponent : Int) :
    (Binary64.magnitude mantissa exponent).numerator /
        (Binary64.magnitude mantissa exponent).denominator =
      ⌊(mantissa : ℚ) * 2 ^ exponent⌋₊ := by
  have positive : (0 : ℚ) < ((Binary64.magnitude mantissa exponent).denominator : Nat) :=
    Nat.cast_pos.mpr (magnitude_denominator mantissa exponent)
  rw [← Nat.floor_div_eq_div (K := ℚ), magnitude_ratio, mul_div_assoc, div_self positive.ne',
    mul_one]

/-- The size of what a word stands for, where it is finite. -/
def sizeOf : UnpackedFloat → ℚ
  | .finite _ mantissa exponent _ => mantissa * 2 ^ exponent
  | _ => 0

def size (value : Float) : ℚ := sizeOf value.toModel.unpack

theorem size_lt_of_leads {value : Float} {position : Int} (leads : LeadsAt value position) :
    size value < 2 ^ position := by
  obtain ⟨mantissa, exponent, above, unpacked, rfl⟩ := leads
  rw [size, unpacked, total_exponent_eq, zpow_add₀ (by norm_num)]
  exact mul_lt_mul_of_pos_right (logarithm_bounds above).2 (by positivity)

/-! Whole parts. -/

/-- A word that has a place outward of another one stands for no smaller number. -/
theorem size_mono {mantissa other : Nat} {exponent otherExponent : Int} {above : 0 < mantissa}
    {otherAbove : 0 < other} {sign otherSign : Sign}
    (canonical : Canonical (.finite sign mantissa exponent above))
    (otherCanonical : Canonical (.finite otherSign other otherExponent otherAbove))
    (places : (exponent + 1074) * 2 ^ 52 + mantissa ≤ (otherExponent + 1074) * 2 ^ 52 + other) :
    (mantissa : ℚ) * 2 ^ exponent ≤ other * 2 ^ otherExponent := by
  obtain ⟨small, least, full⟩ := canonical
  obtain ⟨otherSmall, otherLeast, otherFull⟩ := otherCanonical
  rcases lt_trichotomy exponent otherExponent with less | rfl | more
  · have fits : mantissa ≤ other * 2 := by omega
    calc (mantissa : ℚ) * 2 ^ exponent ≤ (other * 2) * 2 ^ exponent := by
          gcongr
          exact_mod_cast fits
      _ = other * 2 ^ (exponent + 1) := by rw [zpow_add_one₀ (by norm_num)]; ring
      _ ≤ other * 2 ^ otherExponent := by
          gcongr
          · norm_num
          · exact less
  · gcongr
    omega
  · omega

/-- What the whole part is taken of, for a word that is not below zero. -/
theorem integer_part_of_place {value : Float} {place : Int} (placed : place? value = some place)
    (low : 0 ≤ place) (high : place < outermost) :
    (place = 0 ∧ Scalar.integerPart value = 0) ∨
      ∃ mantissa exponent above,
        Canonical (.finite .positive mantissa exponent above) ∧
        (exponent + 1074) * 2 ^ 52 + mantissa = place ∧
        Scalar.integerPart value = (⌊(mantissa : ℚ) * 2 ^ exponent⌋₊ : Int) := by
  have word := is_word_of_unpack value.toModel
  change (_ ∧ (Binary64.ofFloat value).integerPart = 0) ∨ ∃ mantissa exponent above, _ ∧ _ ∧
    (Binary64.ofFloat value).integerPart = _
  rw [of_float_eq]
  obtain ⟨nothing, sign, unpacked⟩ | ⟨mantissa, exponent, above, unpacked, same, _⟩ |
      ⟨infinite, _⟩ := word_of_place placed low
  · refine .inl ⟨nothing, ?_⟩
    rw [unpacked]
    change Binary64.signed _ ((Binary64.magnitude 0 (-1074)).numerator /
      (Binary64.magnitude 0 (-1074)).denominator) = 0
    rw [magnitude_eq, Nat.zero_mul, Nat.zero_div]
    cases sign <;> rfl
  · rw [unpacked] at word ⊢
    refine .inr ⟨mantissa, exponent, above, word.canonical, same, ?_⟩
    rw [← whole_of_magnitude]
    rfl
  · omega

theorem integer_part_mono {value other : Float} {place otherPlace : Int}
    (placed : place? value = some place) (otherPlaced : place? other = some otherPlace)
    (low : 0 ≤ place) (ordered : place ≤ otherPlace) (high : otherPlace < outermost) :
    0 ≤ Scalar.integerPart value ∧ Scalar.integerPart value ≤ Scalar.integerPart other := by
  obtain ⟨nothing, whole⟩ | ⟨mantissa, exponent, above, canonical, same, whole⟩ :=
    integer_part_of_place placed low (by omega)
  · rw [whole]
    refine ⟨Int.le_refl 0, ?_⟩
    obtain ⟨_, otherWhole⟩ | ⟨_, _, _, _, _, otherWhole⟩ :=
      integer_part_of_place otherPlaced (by omega) high
    · rw [otherWhole]
    · rw [otherWhole]
      exact Int.natCast_nonneg _
  · obtain ⟨otherNothing, _⟩ |
        ⟨other, otherExponent, otherAbove, otherCanonical, otherSame, otherWhole⟩ :=
      integer_part_of_place otherPlaced (by omega) high
    · obtain ⟨_, least, _⟩ := canonical
      omega
    · rw [whole, otherWhole]
      refine ⟨Int.natCast_nonneg _, Int.ofNat_le.mpr (Nat.floor_mono ?_)⟩
      exact size_mono canonical otherCanonical (by omega)

/-! Remainders. -/

theorem log_bound_of_less {quotient : Quotient} (positive : 0 < quotient.denominator) {power : Int}
    (top : 0 < quotient.numerator)
    (less : (quotient.numerator : ℚ) < 2 ^ power * quotient.denominator) :
    Binary64.logarithmBound quotient ≤ power := by
  have scale : (0 : ℚ) < quotient.denominator := Nat.cast_pos.mpr positive
  have between := (mul_lt_mul_iff_left₀ scale).mp ((quotient_bounds top positive).1.trans less)
  have exponents := (zpow_lt_zpow_iff_right₀ (by norm_num : (1 : ℚ) < 2)).mp between
  omega

/-- What is left of a number after taking off whole periods is below the period. -/
theorem remainder_less {dividend period left : Nat} {periodExponent common : Int}
    (above : 0 < period) (coarser : common ≤ periodExponent)
    (remains : dividend % (period * 2 ^ (periodExponent - common).toNat) = left) :
    (left : ℚ) * 2 ^ common < period * 2 ^ periodExponent := by
  have least : 0 < period * 2 ^ (periodExponent - common).toNat :=
    Nat.mul_pos above (Nat.two_pow_pos _)
  have fits : left < period * 2 ^ (periodExponent - common).toNat :=
    remains ▸ Nat.mod_lt dividend least
  calc (left : ℚ) * 2 ^ common
      < ((period * 2 ^ (periodExponent - common).toNat : Nat) : ℚ) * 2 ^ common := by
        gcongr
    _ = period * 2 ^ periodExponent := by
        have parts : (2 : ℚ) ^ (periodExponent - common).toNat * 2 ^ common =
            2 ^ periodExponent := by
          rw [← zpow_natCast, ← zpow_add₀ (by norm_num)]
          congr 1
          omega
        push_cast
        rw [mul_assoc, parts]

theorem nearest_of_small {size : Nat} {exponent power : Int} (negative : Bool)
    (within : power ≤ 1022) (less : (size : ℚ) * 2 ^ exponent < 2 ^ power) :
    ∃ value, Binary64.nearest? negative (Binary64.magnitude size exponent) = some value := by
  obtain ⟨bits, found⟩ : ∃ bits,
      Binary64.nearestBits? (Binary64.magnitude size exponent) = some bits := by
    by_cases nothing : (Binary64.magnitude size exponent).numerator = 0
    · rw [Binary64.nearestBits?, if_pos nothing]
      exact ⟨0, rfl⟩
    · have top := Nat.pos_of_ne_zero nothing
      have positive := magnitude_denominator size exponent
      have bound : Binary64.logarithmBound (Binary64.magnitude size exponent) ≤ power := by
        refine log_bound_of_less positive top ?_
        rw [magnitude_ratio]
        gcongr
      exact ⟨_, nearest_bits_of_small top positive (by omega)⟩
  rw [Binary64.nearest?, found]
  exact ⟨_, rfl⟩

section Periods

variable {value period : Float} {place position : Int} (placed : place? value = some place)
  (low : 0 ≤ place) (high : place < outermost) (leads : LeadsAt period position)

include placed low high leads

/-- A remainder is the word nearest to what is left of the exact number. -/
theorem remainder_is_nearest :
    ∃ negative, ∃ left : Nat, ∃ common : Int, (negative = true → left = 0) ∧
      (left : ℚ) * 2 ^ common < size period ∧ Scalar.remainder value period =
        (Binary64.nearest? negative (Binary64.magnitude left common)).getD Binary64.nan := by
  obtain ⟨divisor, divisorExponent, divisorAbove, divisorUnpacked, _⟩ := leads
  obtain ⟨negative, mantissa, exponent, reads, sound⟩ : ∃ negative mantissa exponent,
      Binary64.ofFloat value = .finite negative mantissa exponent ∧
        (negative = true → mantissa = 0) := by
    rw [of_float_eq]
    obtain ⟨_, sign, unpacked⟩ | ⟨mantissa, exponent, above, unpacked, _⟩ | ⟨infinite, _⟩ :=
      word_of_place placed low
    · rw [unpacked]
      exact ⟨_, _, _, rfl, fun _ => rfl⟩
    · rw [unpacked]
      exact ⟨_, _, _, rfl, fun absurdly => nomatch absurdly⟩
    · omega
  have periodReads : Binary64.ofFloat period = .finite false divisor divisorExponent := by
    rw [of_float_eq, divisorUnpacked]
    rfl
  refine ⟨negative, mantissa * 2 ^ (exponent - min exponent divisorExponent).toNat %
    (divisor * 2 ^ (divisorExponent - min exponent divisorExponent).toNat),
    min exponent divisorExponent, fun below => ?_, ?_, ?_⟩
  · rw [sound below, Nat.zero_mul, Nat.zero_mod]
  · rw [size, divisorUnpacked]
    exact remainder_less divisorAbove (by omega) rfl
  · change Binary64.remainder (.ofFloat value) (.ofFloat period) = _
    rw [reads, periodReads]
    rfl

variable (small : position ≤ 1022)

include small

/-- The remainder by a period that is not too large is a finite word that is not negative. -/
theorem remainder_place :
    ∃ rest, place? (Scalar.remainder value period) = some rest ∧ 0 ≤ rest ∧ rest < outermost := by
  obtain ⟨negative, left, common, sound, less, remains⟩ :=
    remainder_is_nearest placed low high leads
  obtain ⟨rest, found⟩ := nearest_of_small negative small (less.trans (size_lt_of_leads leads))
  rw [found, Option.getD_some] at remains
  obtain ⟨bits, nearest, within, placedRest⟩ := nearest_place found
  rw [remains]
  cases negative with
  | false => exact ⟨bits, placedRest, Int.natCast_nonneg _, Int.ofNat_lt.mpr within⟩
  | true =>
      rw [sound rfl, magnitude_eq, Nat.zero_mul] at nearest
      cases nearest
      exact ⟨0, placedRest, Int.le_refl 0, by decide⟩

/-- What is left in whole periods, counted in periods, is finite, so that it has a whole part. -/
theorem whole_periods_are_finite (two : 2 ≤ position) :
    ((value - Scalar.remainder value period) / period).isFinite = true := by
  obtain ⟨rest, placedRest, restLow, restHigh⟩ := remainder_place placed low high leads small
  exact quotient_is_finite leads two
    (difference_is_finite placed placedRest low high restLow restHigh)

end Periods

end Arboretum.Number

import Arboretum.Proofs.Number.Words

/-!
How far rounding moves a number. A number's size is told by the position of its leading bit.
Rounding leaves that bit where it is or carries into the next position, and a quotient has its
leading bit where those of dividend and divisor say, or one position higher; so a quotient of words
only vanishes or overflows when the leading bits of its parts are far apart.
-/

namespace Arboretum.Number

open Float.Model Float.Model.UnpackedFloat

set_option autoImplicit false

/-! Shifts to the exponent that a word would have. -/

theorem shift_right_mantissa (extended : ExtendedMantissa) (places : Nat) :
    (extended >>> places).mantissa = extended.mantissa / 2 ^ places := by
  induction places with
  | zero => exact (Nat.div_one _).symm
  | succ places induction =>
      change (extended >>> places).mantissa / 2 = _
      rw [induction, Nat.div_div_eq_div_mul, ← Nat.pow_succ]

theorem extended_mantissa (mantissa : Nat) (accuracy : Accuracy) :
    (ExtendedMantissa.ofMantissaAndAccuracy mantissa accuracy).mantissa = mantissa := by
  cases accuracy with
  | exact => rfl
  | inexact side => cases side <;> rfl

theorem rounded_mantissa_bounds (extended : ExtendedMantissa) :
    extended.mantissa ≤ extended.roundedMantissa ∧
      extended.roundedMantissa ≤ extended.mantissa + 1 := by
  obtain ⟨mantissa, half, rest⟩ := extended
  have even : mantissa % 2 ≤ 1 := by omega
  cases half <;> cases rest <;>
    simp only [ExtendedMantissa.roundedMantissa, ExtendedMantissa.accuracy,
      Accuracy.roundToNearestEven] <;> omega

theorem shift_to_target (mantissa : Nat) (exponent : Int) (accuracy : Accuracy) {places : Nat}
    (shifts : (max (totalExponent mantissa exponent - 53) (-1074) - exponent).toNat = places) :
    (shiftToTargetExponent Format.binary64 mantissa exponent accuracy).1.mantissa =
        mantissa / 2 ^ places ∧
      (shiftToTargetExponent Format.binary64 mantissa exponent accuracy).2 = exponent + places := by
  subst shifts
  refine ⟨?_, rfl⟩
  refine
    (shift_right_mantissa (ExtendedMantissa.ofMantissaAndAccuracy mantissa accuracy) _).trans ?_
  rw [extended_mantissa]
  rfl

/-! The leading bit. -/

theorem total_exponent_eq (mantissa : Nat) (exponent : Int) :
    totalExponent mantissa exponent = (mantissa.log2 : Int) + 1 + exponent := rfl

theorem log_bounds {value low : Nat} (high : Nat) (atLeast : 2 ^ low ≤ value)
    (atMost : value < 2 ^ (high + 1)) : 0 < value ∧ low ≤ value.log2 ∧ value.log2 ≤ high := by
  have positive : 0 < value := Nat.lt_of_lt_of_le (Nat.two_pow_pos low) atLeast
  have nonzero : value ≠ 0 := Nat.ne_of_gt positive
  exact ⟨positive, (Nat.le_log2 nonzero).mpr atLeast,
    Nat.le_of_lt_succ ((Nat.log2_lt nonzero).mpr atMost)⟩

theorem div_pow_bounds {value places : Nat} (positive : 0 < value) (within : places ≤ value.log2) :
    2 ^ (value.log2 - places) ≤ value / 2 ^ places ∧
      value / 2 ^ places < 2 ^ (value.log2 - places + 1) := by
  have low := Nat.log2_self_le (Nat.ne_of_gt positive)
  have high := Nat.lt_log2_self (n := value)
  constructor
  · rw [Nat.le_div_iff_mul_le (Nat.two_pow_pos _), ← Nat.pow_add, Nat.sub_add_cancel within]
    exact low
  · rw [Nat.div_lt_iff_lt_mul (Nat.two_pow_pos _), ← Nat.pow_add]
    rw [show value.log2 - places + 1 + places = value.log2 + 1 by omega]
    exact high

/-! Rounding. -/

/-- Rounding shifts twice: to fifty-three bits, and once more if rounding up has carried. -/
theorem round_eq (sign : Sign) (mantissa : Nat) (exponent : Int) (accuracy : Accuracy) :
    let first := shiftToTargetExponent Format.binary64 mantissa exponent accuracy
    let last := shiftToTargetExponent Format.binary64 first.1.roundedMantissa first.2 .exact
    roundWithAccuracy Format.binary64 sign mantissa exponent accuracy =
      if nothing : last.1.mantissa = 0 then .zero sign
      else .finite sign last.1.mantissa last.2 (Nat.pos_of_ne_zero nothing) := rfl

/-- The second shift undoes a carry out of the fifty-three bits and leaves everything else. -/
theorem last_shift {rounded : Nat} {exponent : Int} (positive : 0 < rounded)
    (fits : rounded ≤ 2 ^ 53)
    (least : -1074 ≤ exponent) (full : 2 ^ 52 ≤ rounded ∨ exponent = -1074) :
    ∃ mantissa target, ∃ above : 0 < mantissa,
      (shiftToTargetExponent Format.binary64 rounded exponent .exact).1.mantissa = mantissa ∧
      (shiftToTargetExponent Format.binary64 rounded exponent .exact).2 = target ∧
      (∀ sign, Canonical (.finite sign mantissa target above)) ∧
      totalExponent mantissa target = totalExponent rounded exponent ∧
      (target + 1074) * 2 ^ 52 + mantissa = (exponent + 1074) * 2 ^ 52 + rounded := by
  have total := total_exponent_eq rounded exponent
  rcases Nat.lt_or_eq_of_le fits with small | rfl
  · have bits := (Nat.log2_lt (Nat.ne_of_gt positive)).mpr small
    obtain ⟨same, stays⟩ := shift_to_target rounded exponent .exact
      (show _ = 0 by omega)
    refine ⟨rounded, exponent, positive, ?_, ?_, fun _ => ⟨small, least, full⟩, rfl, rfl⟩
    · rw [same, Nat.pow_zero, Nat.div_one]
    · rw [stays]
      exact Int.add_zero _
  · have bits : (2 ^ 53 : Nat).log2 = 53 := by decide
    rw [bits] at total
    obtain ⟨halved, raised⟩ := shift_to_target (2 ^ 53) exponent .exact
      (show _ = 1 by omega)
    refine ⟨2 ^ 52, exponent + 1, by decide, halved, raised,
      fun _ => ⟨by decide, by omega, .inl (Nat.le_refl _)⟩, ?_, by omega⟩
    have halfBits : (2 ^ 52 : Nat).log2 = 52 := by decide
    rw [total, total_exponent_eq, halfBits]
    omega

/-- The exponent that a word for a number would have. -/
def goalExponent (mantissa : Nat) (exponent : Int) : Int :=
  max (totalExponent mantissa exponent - 53) (-1074)

/-- The first shift of a rounding leaves fifty-three bits, or has come to the least exponent. -/
theorem first_shift_bounds {mantissa : Nat} {exponent : Int}
    (fine : exponent ≤ goalExponent mantissa exponent) (accuracy : Accuracy) :
    let first := shiftToTargetExponent Format.binary64 mantissa exponent accuracy
    first.2 = goalExponent mantissa exponent ∧ first.1.roundedMantissa ≤ 2 ^ 53 ∧
      (2 ^ 52 ≤ first.1.roundedMantissa ∨ goalExponent mantissa exponent = -1074) := by
  intro first
  obtain ⟨places, shifts⟩ : ∃ places, (goalExponent mantissa exponent - exponent).toNat = places :=
    ⟨_, rfl⟩
  obtain ⟨firstMantissa, firstExponent⟩ := shift_to_target mantissa exponent accuracy shifts
  obtain ⟨atLeast, atMost⟩ := rounded_mantissa_bounds first.1
  rw [firstMantissa] at atLeast atMost
  have total := total_exponent_eq mantissa exponent
  have goal : goalExponent mantissa exponent =
      max (totalExponent mantissa exponent - 53) (-1074) := rfl
  refine ⟨firstExponent.trans (by omega), ?_⟩
  have below : mantissa / 2 ^ places < 2 ^ 53 := by
    rw [Nat.div_lt_iff_lt_mul (Nat.two_pow_pos _), ← Nat.pow_add]
    exact Nat.lt_of_lt_of_le Nat.lt_log2_self (Nat.pow_le_pow_right (by decide) (by omega))
  refine ⟨by omega, ?_⟩
  by_cases normal : goalExponent mantissa exponent = -1074
  · exact .inr normal
  · left
    have positive : 0 < mantissa := by
      rcases Nat.eq_zero_or_pos mantissa with rfl | positive
      · rw [Nat.log2_zero] at total
        omega
      · exact positive
    have within : places + 52 = mantissa.log2 := by omega
    obtain ⟨low, _⟩ := div_pow_bounds positive (show places ≤ mantissa.log2 by omega)
    rw [show mantissa.log2 - places = 52 by omega] at low
    omega

/-- A number that is not below all words rounds to one with its leading bit in
the same position or the next. -/
theorem round_keeps_size (sign : Sign) {mantissa : Nat} (exponent : Int) (accuracy : Accuracy)
    (positive : 0 < mantissa) (fine : exponent ≤ goalExponent mantissa exponent)
    (far : -1073 ≤ totalExponent mantissa exponent) :
    ∃ rounded target above,
      roundWithAccuracy Format.binary64 sign mantissa exponent accuracy =
          .finite sign rounded target above ∧
        Canonical (.finite sign rounded target above) ∧
        totalExponent mantissa exponent ≤ totalExponent rounded target ∧
        totalExponent rounded target ≤ totalExponent mantissa exponent + 1 := by
  have total := total_exponent_eq mantissa exponent
  have goal : goalExponent mantissa exponent =
      max (totalExponent mantissa exponent - 53) (-1074) := rfl
  obtain ⟨reached, fits, full⟩ := first_shift_bounds fine accuracy
  obtain ⟨places, shifts⟩ : ∃ places, (goalExponent mantissa exponent - exponent).toNat = places :=
    ⟨_, rfl⟩
  obtain ⟨firstMantissa, _⟩ := shift_to_target mantissa exponent accuracy shifts
  obtain ⟨low, high⟩ := div_pow_bounds positive (show places ≤ mantissa.log2 by omega)
  obtain ⟨atLeast, atMost⟩ := rounded_mantissa_bounds
    (shiftToTargetExponent Format.binary64 mantissa exponent accuracy).1
  rw [firstMantissa] at atLeast atMost
  rw [round_eq, reached]
  generalize (shiftToTargetExponent Format.binary64 mantissa exponent accuracy).1.roundedMantissa =
    rounded at *
  obtain ⟨bits, bitsEq⟩ : ∃ bits, mantissa.log2 - places = bits := ⟨_, rfl⟩
  rw [bitsEq] at low high
  have ceiling : rounded < 2 ^ (bits + 1 + 1) :=
    Nat.lt_of_le_of_lt (Nat.le_trans atMost high)
      (Nat.pow_lt_pow_right (by decide) (Nat.lt_succ_self _))
  obtain ⟨nonzero, leading⟩ := log_bounds (bits + 1) (Nat.le_trans low atLeast) ceiling
  obtain ⟨last, target, above, lastMantissa, lastExponent, canonical, sameTotal, _⟩ :=
    last_shift nonzero fits (by omega) full
  refine ⟨last, target, above, ?_, canonical sign, ?_⟩
  · rw [dif_neg (by omega)]
    exact finite_congr lastMantissa lastExponent
  · rw [sameTotal, total_exponent_eq rounded]
    omega

/-! Quotients. -/

theorem quotient_log_bounds (dividend : Nat) {divisor : Nat} (positive : 0 < divisor)
    (longer : divisor.log2 < dividend.log2) :
    0 < dividend / divisor ∧ dividend.log2 - divisor.log2 - 1 ≤ (dividend / divisor).log2 ∧
      (dividend / divisor).log2 ≤ dividend.log2 - divisor.log2 := by
  have dividendPositive : dividend ≠ 0 := by
    intro nothing
    rw [nothing, Nat.log2_zero] at longer
    omega
  refine log_bounds _ ?_ ?_
  · rw [Nat.le_div_iff_mul_le positive]
    calc 2 ^ (dividend.log2 - divisor.log2 - 1) * divisor
        ≤ 2 ^ (dividend.log2 - divisor.log2 - 1) * 2 ^ (divisor.log2 + 1) :=
          Nat.mul_le_mul_left _ (Nat.le_of_lt Nat.lt_log2_self)
      _ = 2 ^ dividend.log2 := by
          rw [← Nat.pow_add]
          congr 1
          omega
      _ ≤ dividend := Nat.log2_self_le dividendPositive
  · rw [Nat.div_lt_iff_lt_mul positive]
    calc dividend < 2 ^ (dividend.log2 + 1) := Nat.lt_log2_self
      _ = 2 ^ (dividend.log2 - divisor.log2 + 1) * 2 ^ divisor.log2 := by
          rw [← Nat.pow_add]
          congr 1
          omega
      _ ≤ 2 ^ (dividend.log2 - divisor.log2 + 1) * divisor :=
          Nat.mul_le_mul_left _ (Nat.log2_self_le (Nat.ne_of_gt positive))

theorem shift_left_log {value : Nat} (positive : 0 < value) (places : Nat) :
    (value <<< places).log2 = value.log2 + places := by
  rw [Nat.shiftLeft_eq]
  have scaled : value * 2 ^ places ≠ 0 :=
    Nat.ne_of_gt (Nat.mul_pos positive (Nat.two_pow_pos places))
  refine (Nat.log2_eq_iff scaled).mpr ⟨?_, ?_⟩
  · rw [Nat.pow_add]
    exact Nat.mul_le_mul_right _ (Nat.log2_self_le (Nat.ne_of_gt positive))
  · rw [show value.log2 + places + 1 = value.log2 + 1 + places by omega, Nat.pow_add]
    exact Nat.mul_lt_mul_of_pos_right Nat.lt_log2_self (Nat.two_pow_pos places)

/-- A division is one of integers, far enough to the left that the whole part of the quotient has as
many bits as a word, and its rounding. -/
theorem div_eq (sign otherSign : Sign) {mantissa other : Nat} (exponent otherExponent : Int)
    (above : 0 < mantissa) (otherAbove : 0 < other) :
    ∃ target places accuracy,
      min (exponent - otherExponent)
          (max (totalExponent mantissa exponent - totalExponent other otherExponent - 53) (-1074)) =
        target ∧
      (exponent - otherExponent - target).toNat = places ∧
      div Format.binary64 (.finite sign mantissa exponent above)
          (.finite otherSign other otherExponent otherAbove) =
        roundWithAccuracy Format.binary64 (sign / otherSign) ((mantissa <<< places) / other) target
          accuracy :=
  ⟨_, _, _, rfl, rfl, rfl⟩

/-- The leading bit of a quotient is where those of its parts say, or up to two positions higher:
one for the division and one for a carry. -/
theorem div_keeps_size (sign otherSign : Sign) {mantissa other : Nat} {exponent otherExponent : Int}
    (above : 0 < mantissa) (otherAbove : 0 < other)
    (far : -1073 ≤ totalExponent mantissa exponent - totalExponent other otherExponent) :
    ∃ result target resultAbove,
      div Format.binary64 (.finite sign mantissa exponent above)
          (.finite otherSign other otherExponent otherAbove) =
        .finite (sign / otherSign) result target resultAbove ∧
      Canonical (.finite (sign / otherSign) result target resultAbove) ∧
      totalExponent mantissa exponent - totalExponent other otherExponent ≤
        totalExponent result target ∧
      totalExponent result target ≤
        totalExponent mantissa exponent - totalExponent other otherExponent + 2 := by
  obtain ⟨target, places, accuracy, targetEq, placesEq, quotient⟩ :=
    div_eq sign otherSign exponent otherExponent above otherAbove
  have shifted := shift_left_log above places
  have total := total_exponent_eq mantissa exponent
  have otherTotal := total_exponent_eq other otherExponent
  have wholeTotal := total_exponent_eq ((mantissa <<< places) / other) target
  obtain ⟨nonzero, low, high⟩ := quotient_log_bounds (mantissa <<< places) otherAbove (by omega)
  obtain ⟨result, resultExponent, resultAbove, rounded, canonical, atLeast, atMost⟩ :=
    round_keeps_size (sign / otherSign) target accuracy nonzero (by unfold goalExponent; omega)
      (by omega)
  exact ⟨result, resultExponent, resultAbove, quotient.trans rounded, canonical, by omega, by omega⟩

/-! Quotients of words. -/

/-- A word for a positive number with its leading bit in a given position, one
for the number one. -/
def LeadsAt (value : Float) (position : Int) : Prop :=
  ∃ mantissa exponent above,
    value.toModel.unpack = .finite .positive mantissa exponent above ∧
      totalExponent mantissa exponent = position

theorem unpack_quotient (dividend divisor : Float)
    (canonical : Canonical (div Format.binary64 dividend.toModel.unpack divisor.toModel.unpack)) :
    (dividend / divisor).toModel.unpack =
      limited (div Format.binary64 dividend.toModel.unpack divisor.toModel.unpack) :=
  unpack_pack canonical

section Positions

variable {value : Float} {place : Int} (placed : place? value = some place)

include placed

/-- The words from zero outward: zero, the positive numbers, infinity. -/
theorem word_of_place (notNegative : 0 ≤ place) :
    (place = 0 ∧ ∃ sign, value.toModel.unpack = .zero sign) ∨
      (∃ mantissa exponent nonzero,
        value.toModel.unpack = .finite .positive mantissa exponent nonzero ∧
        (exponent + 1074) * 2 ^ 52 + mantissa = place ∧ 0 < place ∧ place < outermost) ∨
      place = outermost ∧ value.toModel.unpack = .infinity .positive := by
  have word := is_word_of_unpack value.toModel
  have outer : 0 < outermost := by decide
  unfold place? at placed
  cases unpacked : value.toModel.unpack with
  | notANumber =>
      rw [unpacked] at placed
      cases placed
  | infinity sign =>
      rw [unpacked] at placed
      have same : sign.apply outermost = place := Option.some.inj placed
      cases sign with
      | positive => exact .inr (.inr ⟨same.symm, rfl⟩)
      | negative =>
          simp only [Sign.apply] at same
          omega
  | zero sign =>
      rw [unpacked] at placed
      exact .inl ⟨(Option.some.inj placed).symm, sign, rfl⟩
  | finite sign mantissa exponent nonzero =>
      rw [unpacked] at placed word
      obtain ⟨above, below⟩ := place_of_finite_bounds word
      have same : sign.apply ((exponent + 1074) * 2 ^ 52 + mantissa) = place :=
        Option.some.inj placed
      cases sign with
      | positive =>
          cases same
          exact .inr (.inl ⟨mantissa, exponent, nonzero, rfl, rfl, above, below⟩)
      | negative =>
          simp only [Sign.apply] at same
          omega

theorem finite_of_place (above : 0 < place) (within : place < outermost) :
    ∃ mantissa exponent nonzero,
      value.toModel.unpack = .finite .positive mantissa exponent nonzero ∧
      (exponent + 1074) * 2 ^ 52 + mantissa = place := by
  obtain ⟨nothing, _⟩ | ⟨mantissa, exponent, nonzero, unpacked, same, _⟩ | ⟨infinite, _⟩ :=
    word_of_place placed (Int.le_of_lt above)
  · omega
  · exact ⟨mantissa, exponent, nonzero, unpacked, same⟩
  · omega

theorem leads_of_place (above : 0 < place) (within : place < outermost) :
    ∃ position, LeadsAt value position ∧
      (2 ^ 52 ≤ place →
        (position + 1022) * 2 ^ 52 ≤ place ∧ place < (position + 1023) * 2 ^ 52) := by
  obtain ⟨mantissa, exponent, nonzero, unpacked, placeEq⟩ := finite_of_place placed above within
  have word := unpacked ▸ is_word_of_unpack value.toModel
  obtain ⟨small, least, full⟩ := word.canonical
  have position := total_exponent_eq mantissa exponent
  have short := (Nat.log2_lt (Nat.ne_of_gt nonzero)).mpr small
  refine ⟨_, ⟨mantissa, exponent, nonzero, unpacked, rfl⟩, fun normal => ?_⟩
  have all : 52 ≤ mantissa.log2 := (Nat.le_log2 (Nat.ne_of_gt nonzero)).mpr (by omega)
  omega

end Positions

theorem place_of_leads {value : Float} {position : Int} (leads : LeadsAt value position) :
    ∃ place, place? value = some place ∧ 0 < place ∧ place < outermost := by
  obtain ⟨mantissa, exponent, above, unpacked, _⟩ := leads
  have word := unpacked ▸ is_word_of_unpack value.toModel
  refine ⟨(exponent + 1074) * 2 ^ 52 + mantissa, ?_, place_of_finite_bounds word⟩
  rw [place?, unpacked]
  rfl

theorem position_bounds {value : Float} {position : Int} (leads : LeadsAt value position) :
    -1073 ≤ position ∧ position ≤ 1024 := by
  obtain ⟨mantissa, exponent, above, unpacked, rfl⟩ := leads
  have word := unpacked ▸ is_word_of_unpack value.toModel
  have highest := exponent_le_of_is_word word
  obtain ⟨small, least, _⟩ := word.canonical
  have short := (Nat.log2_lt (Nat.ne_of_gt above)).mpr small
  rw [total_exponent_eq]
  omega

theorem infinite_of_place {value : Float} (placed : place? value = some outermost) :
    value.toModel.unpack = .infinity .positive := by
  obtain ⟨nothing, _⟩ | ⟨_, _, _, _, _, _, below⟩ | ⟨_, infinite⟩ :=
    word_of_place placed (by decide)
  · exact absurd nothing (by decide)
  · exact absurd below (Int.lt_irrefl _)
  · exact infinite

section Quotients

variable {dividend divisor : Float}

/-- A quotient that does not vanish leads where its parts say, or overflows. -/
theorem quotient_leads {position other : Int} (leads : LeadsAt dividend position)
    (otherLeads : LeadsAt divisor other) (far : -1073 ≤ position - other) :
    (∃ result, LeadsAt (dividend / divisor) result ∧ position - other ≤ result ∧
        result ≤ position - other + 2) ∨
      place? (dividend / divisor) = some outermost ∧ 1023 ≤ position - other := by
  obtain ⟨mantissa, exponent, above, unpacked, rfl⟩ := leads
  obtain ⟨otherMantissa, otherExponent, otherAbove, otherUnpacked, rfl⟩ := otherLeads
  obtain ⟨result, target, resultAbove, divided, canonical, atLeast, atMost⟩ :=
    div_keeps_size .positive .positive above otherAbove far
  have quotient := unpack_quotient dividend divisor
  rw [unpacked, otherUnpacked, divided] at quotient
  have same := quotient canonical
  rw [limited_finite] at same
  by_cases beyond : 971 < target
  · rw [if_pos beyond] at same
    refine .inr ⟨?_, ?_⟩
    · rw [place?, same]
      rfl
    · obtain ⟨_, _, full⟩ := canonical
      have total := total_exponent_eq result target
      have all : 52 ≤ result.log2 := (Nat.le_log2 (Nat.ne_of_gt resultAbove)).mpr (by omega)
      omega
  · rw [if_neg beyond] at same
    exact .inl ⟨_, ⟨result, target, resultAbove, same, rfl⟩, atLeast, atMost⟩

theorem quotient_of_zero {place : Int} (nothing : place? dividend = some 0)
    (placed : place? divisor = some place) (above : 0 < place) :
    place? (dividend / divisor) = some 0 := by
  obtain ⟨_, sign, unpacked⟩ | ⟨_, _, _, _, _, absurdly, _⟩ | ⟨absurdly, _⟩ :=
    word_of_place nothing (Int.le_refl 0)
  · have quotient := unpack_quotient dividend divisor
    rw [unpacked] at quotient
    obtain ⟨_, _⟩ | ⟨_, _, _, finite, _⟩ | ⟨_, infinite⟩ :=
      word_of_place placed (Int.le_of_lt above)
    · omega
    · rw [finite] at quotient
      rw [place?, quotient trivial]
      rfl
    · rw [infinite] at quotient
      rw [place?, quotient trivial]
      rfl
  · exact absurd absurdly (Int.lt_irrefl 0)
  · exact absurd absurdly (by decide)

theorem quotient_by_infinity {position : Int} (leads : LeadsAt dividend position)
    (infinite : place? divisor = some outermost) : place? (dividend / divisor) = some 0 := by
  obtain ⟨mantissa, exponent, above, unpacked, _⟩ := leads
  have quotient := unpack_quotient dividend divisor
  rw [unpacked, infinite_of_place infinite] at quotient
  rw [place?, quotient trivial]
  rfl

theorem quotient_of_infinity {position : Int} (infinite : place? dividend = some outermost)
    (leads : LeadsAt divisor position) : place? (dividend / divisor) = some outermost := by
  obtain ⟨mantissa, exponent, above, unpacked, _⟩ := leads
  have quotient := unpack_quotient dividend divisor
  rw [unpacked, infinite_of_place infinite] at quotient
  rw [place?, quotient trivial]
  rfl

end Quotients

end Arboretum.Number

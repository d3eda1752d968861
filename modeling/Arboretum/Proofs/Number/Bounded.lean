import Arboretum.Proofs.Number.Nearest
import Arboretum.Proofs.Number.Rounding

/-!
Which results of words stay finite. What is rounded does not go beyond a word that it is not above,
however close to the greatest one that is; so a difference of words of one sign does not go beyond
the larger of them. A quotient by two or more stays as far below the greatest word as its dividend,
and one that is too small for a word rounds to zero or a word next to it.
-/

namespace Arboretum.Number

open Float.Model Float.Model.UnpackedFloat

set_option autoImplicit false

/-- A zero of the sign, or a number of the sign that a word stands for unless its
exponent is above the given one. -/
def Reaches (sign : Sign) (greatest : Int) : UnpackedFloat → Prop
  | .zero other => other = sign
  | .finite other mantissa exponent positive =>
      other = sign ∧ Canonical (.finite other mantissa exponent positive) ∧ exponent ≤ greatest
  | _ => False

section Reaches

variable {sign : Sign} {number : UnpackedFloat}

theorem reaches_further {lower upper : Int} (further : lower ≤ upper)
    (reaches : Reaches sign lower number) : Reaches sign upper number := by
  cases number with
  | notANumber => exact reaches
  | infinity other => exact reaches
  | zero other => exact reaches
  | finite other mantissa exponent positive =>
      exact ⟨reaches.1, reaches.2.1, Int.le_trans reaches.2.2 further⟩

theorem is_word_of_reaches (reaches : Reaches sign 971 number) : IsWord number := by
  cases number with
  | notANumber => exact reaches.elim
  | infinity other => exact reaches.elim
  | zero other => exact ⟨trivial, rfl⟩
  | finite other mantissa exponent positive =>
      obtain ⟨_, canonical, within⟩ := reaches
      exact ⟨canonical, if_neg (by omega)⟩

theorem finite_of_reaches {greatest : Int} (reaches : Reaches sign greatest number) :
    number.isFinite = true := by
  cases number with
  | notANumber => exact reaches.elim
  | infinity other => exact reaches.elim
  | zero other => rfl
  | finite other mantissa exponent positive => rfl

/-- A word that is packed from a number within the exponents of words stands for it. -/
theorem unpack_of_reaches {value : Float} (packed : value.toModel = Float.Model.pack number)
    (reaches : Reaches sign 971 number) : value.toModel.unpack = number := by
  have word := is_word_of_reaches reaches
  rw [packed, unpack_pack word.canonical, word.limited]

theorem is_finite_of_reaches {value : Float} (packed : value.toModel = Float.Model.pack number)
    (reaches : Reaches sign 971 number) : value.isFinite = true := by
  change value.toModel.unpack.isFinite = true
  rw [unpack_of_reaches packed reaches]
  exact finite_of_reaches reaches

theorem place_of_reaches {value : Float} (packed : value.toModel = Float.Model.pack number)
    (reaches : Reaches .positive 971 number) :
    ∃ place, place? value = some place ∧ 0 ≤ place ∧ place < outermost := by
  have word := is_word_of_reaches reaches
  rw [place?, unpack_of_reaches packed reaches]
  cases number with
  | notANumber => exact reaches.elim
  | infinity other => exact reaches.elim
  | zero other => exact ⟨0, rfl, Int.le_refl 0, by decide⟩
  | finite other mantissa exponent positive =>
      obtain ⟨rfl, _⟩ := reaches
      obtain ⟨above, below⟩ := place_of_finite_bounds word
      exact ⟨_, rfl, Int.le_of_lt above, below⟩

end Reaches

/-! Rounding. -/

/-- Shifting an exact number leaves it exact, or leaves less of it. -/
theorem shift_right_exact (mantissa places : Nat) :
    let shifted := ExtendedMantissa.ofMantissaAndAccuracy mantissa .exact >>> places
    (shifted.roundBit = false ∧ shifted.stickyBit = false ∧
        shifted.mantissa * 2 ^ places = mantissa) ∨
      shifted.mantissa * 2 ^ places < mantissa := by
  induction places with
  | zero => exact .inl ⟨rfl, rfl, by rw [Nat.pow_zero, Nat.mul_one]; rfl⟩
  | succ places induction =>
      dsimp only at induction ⊢
      change let shifted :=
          (ExtendedMantissa.ofMantissaAndAccuracy mantissa .exact >>> places).shiftRightOne
        (shifted.roundBit = false ∧ shifted.stickyBit = false ∧
          shifted.mantissa * 2 ^ (places + 1) = mantissa) ∨
            shifted.mantissa * 2 ^ (places + 1) < mantissa
      generalize ExtendedMantissa.ofMantissaAndAccuracy mantissa .exact >>> places = before at *
      have regrouped : before.mantissa / 2 * 2 ^ (places + 1) =
          (before.mantissa / 2 * 2) * 2 ^ places := by
        rw [Nat.pow_succ, Nat.mul_assoc, Nat.mul_comm 2]
      dsimp only [ExtendedMantissa.shiftRightOne]
      rw [regrouped]
      have halves := Nat.div_mul_le_self before.mantissa 2
      rcases induction with ⟨half, rest, exact_⟩ | less
      · by_cases even : before.mantissa % 2 = 0
        · refine .inl ⟨by simp [even], by simp [half, rest], ?_⟩
          rw [Nat.div_mul_cancel (Nat.dvd_of_mod_eq_zero even)]
          exact exact_
        · right
          rw [← exact_]
          exact Nat.mul_lt_mul_of_pos_right (by omega) (Nat.two_pow_pos places)
      · exact .inr (Nat.lt_of_le_of_lt (Nat.mul_le_mul_right _ halves) less)

/-- An exact number that is not above a multiple of a power of two does not round beyond it. -/
theorem rounded_le_of_exact {mantissa places most : Nat} (within : mantissa ≤ most * 2 ^ places) :
    (ExtendedMantissa.ofMantissaAndAccuracy mantissa .exact >>> places).roundedMantissa ≤ most := by
  have power := Nat.two_pow_pos places
  obtain ⟨_, atMost⟩ :=
    rounded_mantissa_bounds (ExtendedMantissa.ofMantissaAndAccuracy mantissa .exact >>> places)
  rcases shift_right_exact mantissa places with ⟨half, rest, whole⟩ | less
  · generalize ExtendedMantissa.ofMantissaAndAccuracy mantissa .exact >>> places = shifted at *
    obtain ⟨kept, roundBit, stickyBit⟩ := shifted
    dsimp only at half rest whole
    rw [half, rest]
    change kept ≤ most
    rw [← whole] at within
    exact Nat.le_of_mul_le_mul_right within power
  · have below := Nat.lt_of_mul_lt_mul_right (Nat.lt_of_lt_of_le less within)
    omega

/-- How the second shift of a rounding ends, whatever the first one was. -/
theorem last_shift_reaches (sign : Sign) {rounded : Nat} {goal : Int} (fits : rounded ≤ 2 ^ 53)
    (least : -1074 ≤ goal) (full : 2 ^ 52 ≤ rounded ∨ goal = -1074) :
    let last := shiftToTargetExponent Format.binary64 rounded goal .exact
    Reaches sign (if rounded < 2 ^ 53 then goal else goal + 1)
      (if nothing : last.1.mantissa = 0 then .zero sign
        else .finite sign last.1.mantissa last.2 (Nat.pos_of_ne_zero nothing)) := by
  intro last
  rcases Nat.eq_zero_or_pos rounded with rfl | positive
  · obtain ⟨nothing, _⟩ := shift_to_target 0 goal .exact rfl
    rw [Nat.zero_div] at nothing
    rw [dif_pos nothing]
    rfl
  · obtain ⟨mantissa, target, above, lastMantissa, lastExponent, canonical, total, _⟩ :=
      last_shift positive fits least full
    change last.1.mantissa = mantissa at lastMantissa
    change last.2 = target at lastExponent
    have nonzero : last.1.mantissa ≠ 0 := by omega
    have same : UnpackedFloat.finite sign last.1.mantissa last.2 (Nat.pos_of_ne_zero nonzero) =
        .finite sign mantissa target above := finite_congr lastMantissa lastExponent
    rw [dif_neg nonzero, same]
    refine ⟨rfl, canonical sign, ?_⟩
    obtain ⟨small, _, filled⟩ := canonical sign
    have roundedTotal := total_exponent_eq rounded goal
    have lastTotal := total_exponent_eq mantissa target
    have log : 2 ^ 52 ≤ mantissa → 52 ≤ mantissa.log2 := (Nat.le_log2 (by omega)).mpr
    by_cases less : rounded < 2 ^ 53
    · have bits := (Nat.log2_lt (Nat.ne_of_gt positive)).mpr less
      rw [if_pos less]
      omega
    · have bits : (2 ^ 53 : Nat).log2 = 53 := by decide
      have edge : rounded = 2 ^ 53 := by omega
      rw [edge, bits] at roundedTotal
      rw [edge] at total
      rw [if_neg less]
      omega

section Rounding

variable {mantissa : Nat} {exponent : Int} (fine : exponent ≤ goalExponent mantissa exponent)

include fine

/-- Rounding moves a number to the exponent that a word for it has, or to the next one. -/
theorem round_reaches_next (sign : Sign) (accuracy : Accuracy) :
    Reaches sign (goalExponent mantissa exponent + 1)
      (roundWithAccuracy Format.binary64 sign mantissa exponent accuracy) := by
  obtain ⟨reached, fits, full⟩ := first_shift_bounds fine accuracy
  have last := last_shift_reaches sign fits (show -1074 ≤ goalExponent mantissa exponent from
    le_max_right _ _) full
  have rounded := round_eq sign mantissa exponent accuracy
  rw [rounded, reached]
  refine reaches_further ?_ last
  split <;> omega

/-- An exact number that a word is not below does not round beyond the exponent of the word. -/
theorem round_reaches_word (sign wordSign : Sign) {most : Nat} {greatest : Int} {above : 0 < most}
    (word : Canonical (.finite wordSign most greatest above)) (finer : exponent ≤ greatest)
    (within : mantissa ≤ most * 2 ^ (greatest - exponent).toNat) :
    Reaches sign greatest (roundWithAccuracy Format.binary64 sign mantissa exponent .exact) := by
  obtain ⟨small, least, full⟩ := word
  obtain ⟨reached, fits, filled⟩ := first_shift_bounds fine .exact
  have total := total_exponent_eq mantissa exponent
  have goal : goalExponent mantissa exponent ≤ greatest := by
    have below : mantissa.log2 < most.log2 + 1 + (greatest - exponent).toNat := by
      rcases Nat.eq_zero_or_pos mantissa with rfl | positive
      · rw [Nat.log2_zero]
        omega
      · rw [Nat.log2_lt (Nat.ne_of_gt positive), Nat.pow_add]
        exact Nat.lt_of_le_of_lt within
          (Nat.mul_lt_mul_of_pos_right Nat.lt_log2_self (Nat.two_pow_pos _))
    have short := (Nat.log2_lt (Nat.ne_of_gt above)).mpr small
    unfold goalExponent
    omega
  have last := last_shift_reaches sign fits (show -1074 ≤ goalExponent mantissa exponent from
    le_max_right _ _) filled
  rw [round_eq, reached]
  refine reaches_further ?_ last
  split
  · exact goal
  · rename_i carried
    -- Where the number has the exponent of the word there is no carry, as it is not above the word.
    refine Int.add_one_le_of_lt (lt_of_le_of_ne goal fun same => carried ?_)
    have first : (shiftToTargetExponent Format.binary64 mantissa exponent .exact).1 =
        ExtendedMantissa.ofMantissaAndAccuracy mantissa .exact >>>
          (goalExponent mantissa exponent - exponent).toNat := rfl
    rw [first, same]
    exact Nat.lt_of_le_of_lt (rounded_le_of_exact within) small

end Rounding

/-- A number is first given as many bits as a word has, and is none the larger for it. -/
theorem round_fine (sign : Sign) {mantissa : Nat} (exponent : Int) (positive : 0 < mantissa) :
    ∃ places : Nat, round Format.binary64 sign mantissa exponent =
        roundWithAccuracy Format.binary64 sign (mantissa <<< places) (exponent - places) .exact ∧
      exponent - places ≤ goalExponent (mantissa <<< places) (exponent - places) := by
  refine ⟨(exponent - goalExponent mantissa exponent).toNat, rfl, ?_⟩
  generalize placesEq : (exponent - goalExponent mantissa exponent).toNat = places
  have total := total_exponent_eq mantissa exponent
  have shiftedTotal := total_exponent_eq (mantissa <<< places) (exponent - places)
  rw [shift_left_log positive] at shiftedTotal
  unfold goalExponent at *
  omega

/-- The same for a number that is first given as many bits as a word has. -/
theorem round_exact_reaches (sign wordSign : Sign) {mantissa most : Nat} {exponent greatest : Int}
    {above : 0 < most} (positive : 0 < mantissa)
    (word : Canonical (.finite wordSign most greatest above)) (finer : exponent ≤ greatest)
    (within : mantissa ≤ most * 2 ^ (greatest - exponent).toNat) :
    Reaches sign greatest (round Format.binary64 sign mantissa exponent) := by
  obtain ⟨places, rounds, fine⟩ := round_fine sign exponent positive
  rw [rounds]
  refine round_reaches_word fine sign wordSign word (by omega) ?_
  rw [Nat.shiftLeft_eq, show (greatest - (exponent - places)).toNat =
    (greatest - exponent).toNat + places by omega, Nat.pow_add, ← Nat.mul_assoc]
  exact Nat.mul_le_mul_right _ within

/-! Differences. -/

theorem sub_of_finite (mantissa other : Nat) (exponent otherExponent : Int) (above : 0 < mantissa)
    (otherAbove : 0 < other) :
    let common := min exponent otherExponent
    sub Format.binary64 (.finite .positive mantissa exponent above)
        (.finite .positive other otherExponent otherAbove) =
      UnpackedFloat.normalize Format.binary64
        ((mantissa * 2 ^ (exponent - common).toNat : Nat) -
          (other * 2 ^ (otherExponent - common).toNat : Nat)) common .positive := by
  intro common
  rw [← Nat.shiftLeft_eq, ← Nat.shiftLeft_eq]
  rfl

/-- The difference of two positive numbers reaches no further than they do. -/
theorem sub_reaches {mantissa other : Nat} {exponent otherExponent : Int} {above : 0 < mantissa}
    {otherAbove : 0 < other}
    (canonical : Canonical (.finite .positive mantissa exponent above))
    (otherCanonical : Canonical (.finite .positive other otherExponent otherAbove)) :
    ∃ sign, Reaches sign (max exponent otherExponent)
      (sub Format.binary64 (.finite .positive mantissa exponent above)
        (.finite .positive other otherExponent otherAbove)) := by
  obtain ⟨common, commonEq⟩ : ∃ common, min exponent otherExponent = common := ⟨_, rfl⟩
  rw [sub_of_finite, commonEq]
  generalize large : mantissa * 2 ^ (exponent - common).toNat = left
  generalize otherLarge : other * 2 ^ (otherExponent - common).toNat = right
  unfold UnpackedFloat.normalize
  rcases Nat.lt_trichotomy left right with less | same | more
  · rw [Int.compare_eq_lt.mpr (by omega)]
    refine ⟨.negative, reaches_further (le_max_right _ _) ?_⟩
    exact round_exact_reaches .negative .positive (by omega) otherCanonical (by omega)
      (by rw [otherLarge]; omega)
  · rw [Int.compare_eq_eq.mpr (by omega)]
    exact ⟨.positive, rfl⟩
  · rw [Int.compare_eq_gt.mpr (by omega)]
    refine ⟨.positive, reaches_further (le_max_left _ _) ?_⟩
    exact round_exact_reaches .positive .positive (by omega) canonical (by omega)
      (by rw [large]; omega)

/-- The difference of two finite words that are not negative is finite. -/
theorem difference_is_finite {left right : Float} {place other : Int}
    (placed : place? left = some place) (otherPlaced : place? right = some other)
    (low : 0 ≤ place) (high : place < outermost) (otherLow : 0 ≤ other)
    (otherHigh : other < outermost) :
    (left - right).isFinite = true := by
  have word := is_word_of_unpack left.toModel
  have otherWord := is_word_of_unpack right.toModel
  have packed : (left - right).toModel =
      Float.Model.pack (sub Format.binary64 left.toModel.unpack right.toModel.unpack) := rfl
  obtain ⟨sign, reaches⟩ : ∃ sign, Reaches sign 971
      (sub Format.binary64 left.toModel.unpack right.toModel.unpack) := by
    obtain ⟨_, sign, unpacked⟩ | ⟨mantissa, exponent, above, unpacked, _⟩ | ⟨infinite, _⟩ :=
      word_of_place placed low
    · obtain ⟨_, otherSign, otherUnpacked⟩ | ⟨other, otherExponent, otherAbove, otherUnpacked, _⟩ |
        ⟨infinite, _⟩ := word_of_place otherPlaced otherLow
      · rw [unpacked, otherUnpacked]
        cases sign <;> cases otherSign <;> exact ⟨_, rfl⟩
      · rw [otherUnpacked] at otherWord
        rw [unpacked, otherUnpacked]
        exact ⟨.negative, rfl, otherWord.canonical, exponent_le_of_is_word otherWord⟩
      · omega
    · rw [unpacked] at word
      obtain ⟨_, otherSign, otherUnpacked⟩ | ⟨other, otherExponent, otherAbove, otherUnpacked, _⟩ |
        ⟨infinite, _⟩ := word_of_place otherPlaced otherLow
      · rw [unpacked, otherUnpacked]
        exact ⟨.positive, rfl, word.canonical, exponent_le_of_is_word word⟩
      · rw [otherUnpacked] at otherWord
        rw [unpacked, otherUnpacked]
        obtain ⟨sign, reaches⟩ := sub_reaches word.canonical otherWord.canonical
        have most := exponent_le_of_is_word word
        have otherMost := exponent_le_of_is_word otherWord
        exact ⟨sign, reaches_further (by omega) reaches⟩
      · omega
    · omega
  exact is_finite_of_reaches packed reaches

/-! Quotients. -/

/-- A quotient reaches as far as its parts say, or to a word next to zero. -/
theorem div_reaches (sign otherSign : Sign) {mantissa other : Nat} {exponent otherExponent : Int}
    (above : 0 < mantissa) (otherAbove : 0 < other) :
    Reaches (sign / otherSign)
      (max (totalExponent mantissa exponent - totalExponent other otherExponent - 52) (-1074) + 1)
      (div Format.binary64 (.finite sign mantissa exponent above)
        (.finite otherSign other otherExponent otherAbove)) := by
  obtain ⟨target, places, accuracy, targetEq, placesEq, quotient⟩ :=
    div_eq sign otherSign exponent otherExponent above otherAbove
  have shifted := shift_left_log above places
  have total := total_exponent_eq mantissa exponent
  have otherTotal := total_exponent_eq other otherExponent
  have wholeTotal := total_exponent_eq ((mantissa <<< places) / other) target
  have goal : goalExponent ((mantissa <<< places) / other) target =
      max (totalExponent ((mantissa <<< places) / other) target - 53) (-1074) := rfl
  have most : ((mantissa <<< places) / other).log2 + other.log2 ≤ (mantissa <<< places).log2 ∨
      ((mantissa <<< places) / other).log2 = 0 := by
    rcases Nat.eq_zero_or_pos ((mantissa <<< places) / other) with nothing | nonzero
    · exact .inr (nothing ▸ Nat.log2_zero)
    · have lifted : mantissa <<< places ≠ 0 := by
        rw [Nat.shiftLeft_eq]
        exact Nat.ne_of_gt (Nat.mul_pos above (Nat.two_pow_pos places))
      refine .inl ((Nat.le_log2 lifted).mpr ?_)
      rw [Nat.pow_add]
      calc 2 ^ ((mantissa <<< places) / other).log2 * 2 ^ other.log2
          ≤ (mantissa <<< places) / other * other :=
            Nat.mul_le_mul (Nat.log2_self_le (Nat.ne_of_gt nonzero))
              (Nat.log2_self_le (Nat.ne_of_gt otherAbove))
        _ ≤ mantissa <<< places := Nat.div_mul_le_self _ _
  have fine : target ≤ goalExponent ((mantissa <<< places) / other) target := by
    by_cases tiny : totalExponent mantissa exponent - totalExponent other otherExponent - 53 ≤ -1074
    · omega
    · obtain ⟨_, low, _⟩ := quotient_log_bounds (mantissa <<< places) otherAbove (by omega)
      omega
  rw [quotient]
  refine reaches_further ?_ (round_reaches_next fine (sign / otherSign) accuracy)
  omega

section Quotients

variable {dividend divisor : Float} {position : Int} (leads : LeadsAt divisor position)
  (two : 2 ≤ position)

include leads two

theorem quotient_of_finite (finite : dividend.isFinite = true) :
    ∃ sign, Reaches sign 971 (div Format.binary64 dividend.toModel.unpack divisor.toModel.unpack) ∧
      ∀ place, place? dividend = some place → 0 < place → sign = .positive := by
  obtain ⟨other, otherExponent, otherAbove, otherUnpacked, otherTotal⟩ := leads
  have word := is_word_of_unpack dividend.toModel
  change dividend.toModel.unpack.isFinite = true at finite
  rw [otherUnpacked]
  unfold place?
  cases unpacked : dividend.toModel.unpack with
  | notANumber =>
      rw [unpacked] at finite
      cases finite
  | infinity sign =>
      rw [unpacked] at finite
      cases finite
  | zero sign =>
      refine ⟨sign / Sign.positive, ?_, fun place placed above => ?_⟩
      · exact (rfl : sign / Sign.positive = sign / Sign.positive)
      · cases placed
        omega
  | finite sign mantissa exponent above =>
      rw [unpacked] at word
      have most := exponent_le_of_is_word word
      have short := (Nat.log2_lt (Nat.ne_of_gt above)).mpr word.canonical.1
      have total := total_exponent_eq mantissa exponent
      refine ⟨sign / Sign.positive,
        reaches_further (by omega) (div_reaches sign .positive above otherAbove),
        fun place placed outward => ?_⟩
      have same : sign.apply ((exponent + 1074) * 2 ^ 52 + mantissa) = place :=
        Option.some.inj placed
      have inward := (place_of_finite_bounds word).1
      cases sign with
      | positive => rfl
      | negative =>
          simp only [Sign.apply] at same
          omega

theorem quotient_is_finite (finite : dividend.isFinite = true) :
    (dividend / divisor).isFinite = true := by
  obtain ⟨sign, reaches, _⟩ := quotient_of_finite leads two finite
  exact is_finite_of_reaches rfl reaches

/-- A quotient of a word that is not negative is not negative either. -/
theorem quotient_place {place : Int} (placed : place? dividend = some place) (low : 0 ≤ place)
    (high : place < outermost) :
    ∃ result, place? (dividend / divisor) = some result ∧ 0 ≤ result ∧ result < outermost := by
  rcases Int.lt_or_eq_of_le low with above | nothing
  · obtain ⟨sign, reaches, positive⟩ := quotient_of_finite leads two
      ((is_finite_iff dividend).mpr ⟨place, placed, by omega, high⟩)
    rw [positive place placed above] at reaches
    exact place_of_reaches rfl reaches
  · obtain ⟨other, otherPlaced, otherAbove, _⟩ := place_of_leads leads
    rw [← nothing] at placed
    exact ⟨0, quotient_of_zero placed otherPlaced otherAbove, Int.le_refl 0, by decide⟩

end Quotients

end Arboretum.Number

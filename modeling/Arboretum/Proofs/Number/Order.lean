import Arboretum.Proofs.Number.WholeParts
import Mathlib.Data.Int.Log

/-!
Rounding keeps order. Every positive number has a place among the words, that of the word nearest to
it, and greater numbers have places no further inward. Exact results are rounded to their places,
whether bit by bit or as quotients; so products by one factor and sums with one summand are in the
order of what they are made of, and a remainder is not beyond the period.
-/

namespace Arboretum.Number

open Float.Model Float.Model.UnpackedFloat

set_option autoImplicit false

/-! The whole number nearest to a number, and the place of the nearest word. -/

/-- The whole number nearest to a number that is not negative, the even one of two. -/
def nearestEven (value : ℚ) : Nat :=
  if 2 * (value - ⌊value⌋₊) < 1 then ⌊value⌋₊
  else if 1 < 2 * (value - ⌊value⌋₊) then ⌊value⌋₊ + 1
  else ⌊value⌋₊ + ⌊value⌋₊ % 2

theorem nearest_even_bounds (value : ℚ) :
    ⌊value⌋₊ ≤ nearestEven value ∧ nearestEven value ≤ ⌊value⌋₊ + 1 := by
  unfold nearestEven
  split
  · omega
  split
  · omega
  · omega

theorem nearest_even_mono {value other : ℚ} (ordered : value ≤ other) :
    nearestEven value ≤ nearestEven other := by
  have floors : ⌊value⌋₊ ≤ ⌊other⌋₊ := Nat.floor_mono ordered
  rcases Nat.lt_or_eq_of_le floors with less | same
  · have most := (nearest_even_bounds value).2
    have least := (nearest_even_bounds other).1
    omega
  · unfold nearestEven
    rw [same]
    split_ifs
    all_goals first | omega | linarith

theorem nearest_even_of_whole (whole : Nat) : nearestEven whole = whole := by
  simp [nearestEven]

/-- The exponent of the word nearest to a positive number. -/
def wordExponent (value : ℚ) : Int := max (Int.log 2 value - 52) (-1074)

/-- The place of the word nearest to a number that is not negative, were there no greatest word. -/
def nearestPlace (value : ℚ) : Int :=
  if 0 < value then
    (wordExponent value + 1074) * 2 ^ 52 + nearestEven (value * 2 ^ (-wordExponent value))
  else 0

theorem nearest_place_of_zero : nearestPlace 0 = 0 := if_neg (lt_irrefl 0)

theorem least_word_exponent (value : ℚ) : -1074 ≤ wordExponent value := le_max_right _ _

theorem nearest_place_nonneg (value : ℚ) : 0 ≤ nearestPlace value := by
  have least := least_word_exponent value
  unfold nearestPlace
  split
  · omega
  · exact Int.le_refl 0

theorem nearest_even_le_full (value : ℚ) :
    nearestEven (value * 2 ^ (-wordExponent value)) ≤ 2 ^ 53 := by
  have within : value * 2 ^ (-wordExponent value) ≤ ((2 ^ 53 : Nat) : ℚ) := by
    have above := Int.lt_zpow_succ_log_self (b := 2) (by decide) value
    have exponent : Int.log 2 value + 1 ≤ 53 + wordExponent value := by
      unfold wordExponent
      omega
    have scale : (0 : ℚ) < 2 ^ (-wordExponent value) := by positivity
    calc value * 2 ^ (-wordExponent value)
        ≤ 2 ^ (Int.log 2 value + 1) * 2 ^ (-wordExponent value) :=
          mul_le_mul_of_nonneg_right (by exact_mod_cast le_of_lt above) scale.le
      _ = 2 ^ (Int.log 2 value + 1 + -wordExponent value) := (zpow_add₀ (by norm_num) _ _).symm
      _ ≤ 2 ^ (53 : Int) := zpow_le_zpow_right₀ (by norm_num) (by omega)
      _ = ((2 ^ 53 : Nat) : ℚ) := by norm_num
  have rounded := nearest_even_mono within
  rwa [nearest_even_of_whole] at rounded

/-- Above the least exponent all fifty-three bits are taken up. -/
theorem full_le_nearest_even {value : ℚ} (positive : 0 < value)
    (normal : -1074 < wordExponent value) :
    2 ^ 52 ≤ nearestEven (value * 2 ^ (-wordExponent value)) := by
  have within : ((2 ^ 52 : Nat) : ℚ) ≤ value * 2 ^ (-wordExponent value) := by
    have below := Int.zpow_log_le_self (b := 2) (by decide) positive
    have exponent : Int.log 2 value = 52 + wordExponent value := by
      unfold wordExponent at *
      omega
    have scale : (0 : ℚ) < 2 ^ (-wordExponent value) := by positivity
    calc ((2 ^ 52 : Nat) : ℚ) = 2 ^ (Int.log 2 value + -wordExponent value) := by
          rw [exponent, show 52 + wordExponent value + -wordExponent value = 52 by omega]
          norm_num
      _ = 2 ^ Int.log 2 value * 2 ^ (-wordExponent value) := zpow_add₀ (by norm_num) _ _
      _ ≤ value * 2 ^ (-wordExponent value) :=
          mul_le_mul_of_nonneg_right (by exact_mod_cast below) scale.le
  have rounded := nearest_even_mono within
  rwa [nearest_even_of_whole] at rounded

/-- Rounding keeps the order of numbers: with one exponent the mantissas are in order, and the next
exponent begins where the mantissas of the one before it end. -/
theorem nearest_place_mono {value other : ℚ} (ordered : value ≤ other) :
    nearestPlace value ≤ nearestPlace other := by
  by_cases positive : 0 < value
  · have exponents : wordExponent value ≤ wordExponent other := by
      have logs := Int.log_mono_right (b := 2) positive ordered
      unfold wordExponent
      omega
    have full := nearest_even_le_full value
    have otherPositive := lt_of_lt_of_le positive ordered
    rw [nearestPlace, nearestPlace, if_pos positive, if_pos otherPositive]
    rcases lt_or_eq_of_le exponents with less | same
    · have least := least_word_exponent value
      have filled := full_le_nearest_even otherPositive (by omega)
      omega
    · have rounded := nearest_even_mono
        (mul_le_mul_of_nonneg_right ordered (by positivity : (0 : ℚ) ≤ 2 ^ (-wordExponent value)))
      rw [← same]
      omega
  · rw [nearestPlace, if_neg positive]
    exact nearest_place_nonneg other

/-! Rounding bit by bit. -/

/-- A mantissa with the two bits that are kept of what comes after it stands for a number. -/
def StandsFor : ExtendedMantissa → ℚ → Prop
  | ⟨mantissa, false, false⟩, value => value = mantissa
  | ⟨mantissa, false, true⟩, value => mantissa < value ∧ 2 * (value - mantissa) < 1
  | ⟨mantissa, true, false⟩, value => 2 * (value - mantissa) = 1
  | ⟨mantissa, true, true⟩, value => 1 < 2 * (value - mantissa) ∧ value < mantissa + 1

theorem floor_of_stands_for {extended : ExtendedMantissa} {value : ℚ}
    (stands : StandsFor extended value) : ⌊value⌋₊ = extended.mantissa := by
  obtain ⟨mantissa, half, rest⟩ := extended
  have least : (0 : ℚ) ≤ mantissa := Nat.cast_nonneg mantissa
  cases half <;> cases rest <;> simp only [StandsFor] at stands <;>
    refine (Nat.floor_eq_iff (by linarith)).mpr ⟨?_, ?_⟩ <;> dsimp only <;> linarith

theorem rounded_of_stands_for {extended : ExtendedMantissa} {value : ℚ}
    (stands : StandsFor extended value) : extended.roundedMantissa = nearestEven value := by
  unfold nearestEven
  rw [floor_of_stands_for stands]
  obtain ⟨mantissa, half, rest⟩ := extended
  cases half <;> cases rest <;> simp only [StandsFor] at stands <;> dsimp only
  · rw [if_pos (by linarith)]
    rfl
  · rw [if_pos (by linarith)]
    rfl
  · rw [if_neg (by linarith), if_neg (by linarith)]
    rfl
  · rw [if_neg (by linarith), if_pos (by linarith)]
    rfl

theorem stands_for_shift_one {extended : ExtendedMantissa} {value : ℚ}
    (stands : StandsFor extended value) : StandsFor extended.shiftRightOne (value / 2) := by
  obtain ⟨mantissa, half, rest⟩ := extended
  have parts : (mantissa : ℚ) = 2 * ((mantissa / 2 : Nat) : ℚ) + ((mantissa % 2 : Nat) : ℚ) := by
    exact_mod_cast (Nat.div_add_mod mantissa 2).symm
  rcases Nat.mod_two_eq_zero_or_one mantissa with even | odd
  · have last : (mantissa % 2 != 0) = false := by rw [even]; rfl
    rw [even, Nat.cast_zero, add_zero] at parts
    cases half <;> cases rest <;>
      simp only [StandsFor, ExtendedMantissa.shiftRightOne, last, Bool.or_true,
        Bool.or_false] at stands ⊢ <;>
      first | linarith | (constructor <;> linarith)
  · have last : (mantissa % 2 != 0) = true := by rw [odd]; rfl
    rw [odd, Nat.cast_one] at parts
    cases half <;> cases rest <;>
      simp only [StandsFor, ExtendedMantissa.shiftRightOne, last, Bool.or_true,
        Bool.or_false] at stands ⊢ <;>
      first | linarith | (constructor <;> linarith)

theorem stands_for_shift (mantissa places : Nat) :
    StandsFor (ExtendedMantissa.ofMantissaAndAccuracy mantissa .exact >>> places)
      (mantissa / 2 ^ places) := by
  induction places with
  | zero =>
      change (mantissa : ℚ) / 2 ^ 0 = mantissa
      simp
  | succ places induction =>
      rw [pow_succ, ← div_div]
      exact stands_for_shift_one induction

theorem logarithm_eq {value : ℚ} {power : Int} (low : 2 ^ power ≤ value)
    (high : value < 2 ^ (power + 1)) :
    Int.log 2 value = power := by
  have positive : 0 < value := lt_of_lt_of_le (by positivity) low
  have atLeast := (Int.zpow_le_iff_le_log (b := 2) (by decide) positive).mp (by exact_mod_cast low)
  have atMost := (Int.lt_zpow_iff_log_lt (b := 2) (by decide) positive).mp (by exact_mod_cast high)
  omega

theorem goal_exponent_eq {mantissa : Nat} (positive : 0 < mantissa) (exponent : Int) :
    goalExponent mantissa exponent = wordExponent (mantissa * 2 ^ exponent) := by
  obtain ⟨low, high⟩ := logarithm_bounds positive
  have scale : (0 : ℚ) < 2 ^ exponent := by positivity
  have logarithm : Int.log 2 ((mantissa : ℚ) * 2 ^ exponent) = mantissa.log2 + exponent := by
    refine logarithm_eq ?_ ?_
    · rw [zpow_add₀ (by norm_num)]
      exact mul_le_mul_of_nonneg_right low scale.le
    · rw [show (mantissa.log2 : Int) + exponent + 1 = mantissa.log2 + 1 + exponent by omega,
        zpow_add₀ (by norm_num)]
      exact mul_lt_mul_of_pos_right high scale
  unfold wordExponent goalExponent
  rw [logarithm, total_exponent_eq]
  omega

/-- An exact number is rounded to its place. -/
theorem place_of_round {mantissa : Nat} {exponent : Int} (positive : 0 < mantissa)
    (fine : exponent ≤ goalExponent mantissa exponent) :
    let number := roundWithAccuracy Format.binary64 .positive mantissa exponent .exact
    Canonical number ∧ placeOf? number = some (nearestPlace (mantissa * 2 ^ exponent)) := by
  intro number
  obtain ⟨reached, fits, full⟩ := first_shift_bounds fine .exact
  have rounded :
      (shiftToTargetExponent Format.binary64 mantissa exponent .exact).1.roundedMantissa =
      nearestEven (mantissa * 2 ^ exponent * 2 ^ (-goalExponent mantissa exponent)) := by
    have stands := stands_for_shift mantissa (goalExponent mantissa exponent - exponent).toNat
    have scaled : (mantissa : ℚ) / 2 ^ (goalExponent mantissa exponent - exponent).toNat =
        mantissa * 2 ^ exponent * 2 ^ (-goalExponent mantissa exponent) := by
      rw [mul_assoc, ← zpow_add₀ (by norm_num), div_eq_mul_inv, ← zpow_natCast, ← zpow_neg]
      congr 2
      omega
    rw [scaled] at stands
    exact rounded_of_stands_for stands
  have least : -1074 ≤ goalExponent mantissa exponent := le_max_right _ _
  have result := round_eq .positive mantissa exponent .exact
  dsimp only at result
  rw [reached, rounded] at result
  rw [rounded] at fits full
  have above : (0 : ℚ) < mantissa * 2 ^ exponent := by positivity
  rw [nearestPlace, if_pos above, ← goal_exponent_eq positive]
  generalize nearestEven _ = kept at *
  change number = _ at result
  rcases Nat.eq_zero_or_pos kept with rfl | nonzero
  · obtain ⟨nothing, _⟩ := shift_to_target 0 (goalExponent mantissa exponent) .exact rfl
    rw [Nat.zero_div] at nothing
    rw [dif_pos nothing] at result
    rw [result]
    refine ⟨trivial, congrArg some ?_⟩
    omega
  · obtain ⟨last, target, lastAbove, lastMantissa, lastExponent, canonical, _, place⟩ :=
      last_shift nonzero fits least full
    rw [dif_neg (by omega)] at result
    have same : number = .finite .positive last target lastAbove :=
      result.trans (finite_congr lastMantissa lastExponent)
    rw [same]
    exact ⟨canonical .positive, congrArg some place⟩

/-! Words. -/

theorem place_of_packed {value : Float} {number : UnpackedFloat} {place : Int}
    (packed : value.toModel = Float.Model.pack number) (canonical : Canonical number)
    (there : placeOf? number = some place) (low : 0 ≤ place) :
    place? value = some (min place outermost) := by
  have outer : outermost = 2047 * 2 ^ 52 := rfl
  rw [place?, packed, unpack_pack canonical]
  cases number with
  | notANumber => cases there
  | infinity sign =>
      have same : sign.apply outermost = place := Option.some.inj there
      cases sign with
      | positive =>
          refine congrArg some ?_
          simp only [Sign.apply] at same ⊢
          omega
      | negative =>
          simp only [Sign.apply] at same
          omega
  | zero sign =>
      have same : 0 = place := Option.some.inj there
      refine congrArg some ?_
      omega
  | finite sign mantissa exponent above =>
      obtain ⟨small, least, full⟩ := canonical
      have same : sign.apply ((exponent + 1074) * 2 ^ 52 + mantissa) = place :=
        Option.some.inj there
      cases sign with
      | negative =>
          simp only [Sign.apply] at same
          omega
      | positive =>
          simp only [Sign.apply] at same
          rw [limited_finite]
          by_cases beyond : 971 < exponent
          · rw [if_pos beyond]
            refine congrArg some ?_
            simp only [Sign.apply]
            omega
          · rw [if_neg beyond, place_of_finite]
            refine congrArg some ?_
            simp only [Sign.apply]
            omega

theorem nearest_place_of_word {sign : Sign} {mantissa : Nat} {exponent : Int} {above : 0 < mantissa}
    (canonical : Canonical (.finite sign mantissa exponent above)) :
    nearestPlace (mantissa * 2 ^ exponent) = (exponent + 1074) * 2 ^ 52 + mantissa := by
  obtain ⟨small, least, full⟩ := canonical
  have short := (Nat.log2_lt (Nat.ne_of_gt above)).mpr small
  have long : 2 ^ 52 ≤ mantissa → 52 ≤ mantissa.log2 := (Nat.le_log2 (Nat.ne_of_gt above)).mpr
  have goal : wordExponent (mantissa * 2 ^ exponent) = exponent := by
    rw [← goal_exponent_eq above, goalExponent, total_exponent_eq]
    omega
  have back : (mantissa : ℚ) * 2 ^ exponent * 2 ^ (-exponent) = mantissa := by
    rw [mul_assoc, ← zpow_add₀ (by norm_num), Int.add_right_neg, zpow_zero, mul_one]
  rw [nearestPlace, if_pos (by positivity), goal, back, nearest_even_of_whole]

theorem shift_keeps_size (mantissa : Nat) {places : Nat} {exponent lower : Int}
    (lowered : lower + places = exponent) :
    ((mantissa <<< places : Nat) : ℚ) * 2 ^ lower = mantissa * 2 ^ exponent := by
  rw [Nat.shiftLeft_eq, ← lowered, zpow_add₀ (by norm_num), zpow_natCast]
  push_cast
  ring

/-- A sum of two positive numbers is their exact sum, rounded. -/
theorem add_of_finite (mantissa other : Nat) (exponent otherExponent : Int) (above : 0 < mantissa)
    (otherAbove : 0 < other) :
    ∃ common total, 0 < total ∧
      add Format.binary64 (.finite .positive mantissa exponent above)
          (.finite .positive other otherExponent otherAbove) =
        round Format.binary64 .positive total common ∧
      (total : ℚ) * 2 ^ common = mantissa * 2 ^ exponent + other * 2 ^ otherExponent := by
  obtain ⟨common, commonEq⟩ : ∃ common, min exponent otherExponent = common := ⟨_, rfl⟩
  obtain ⟨total, totalEq⟩ : ∃ total, mantissa <<< (exponent - common).toNat +
    other <<< (otherExponent - common).toNat = total := ⟨_, rfl⟩
  have positive : 0 < total := by
    rw [← totalEq, Nat.shiftLeft_eq]
    positivity
  refine ⟨common, total, positive, ?_, ?_⟩
  · have sum : add Format.binary64 (.finite .positive mantissa exponent above)
        (.finite .positive other otherExponent otherAbove) =
        UnpackedFloat.normalize Format.binary64 (total : Int) common .positive := by
      rw [← totalEq, ← commonEq]
      rfl
    rw [sum, UnpackedFloat.normalize, Int.compare_eq_gt.mpr (by omega)]
    rfl
  · rw [← totalEq]
    push_cast
    rw [add_mul,
      shift_keeps_size mantissa (show common + (exponent - common).toNat = exponent by omega),
      shift_keeps_size other
        (show common + (otherExponent - common).toNat = otherExponent by omega)]

/-! Rounding quotients. -/

theorem quotient_round_eq {quotient : Quotient} (positive : 0 < quotient.denominator) :
    quotient.round = nearestEven (quotient.numerator / quotient.denominator) := by
  have scale : (0 : ℚ) < quotient.denominator := Nat.cast_pos.mpr positive
  have whole : ⌊(quotient.numerator : ℚ) / quotient.denominator⌋₊ =
      quotient.numerator / quotient.denominator := Nat.floor_div_eq_div ..
  have parts : (quotient.numerator : ℚ) / quotient.denominator -
      ((quotient.numerator / quotient.denominator : Nat) : ℚ) =
        ((quotient.numerator % quotient.denominator : Nat) : ℚ) / quotient.denominator := by
    have together :
        (quotient.denominator : ℚ) * ((quotient.numerator / quotient.denominator : Nat) : ℚ) +
          ((quotient.numerator % quotient.denominator : Nat) : ℚ) = quotient.numerator := by
      exact_mod_cast Nat.div_add_mod quotient.numerator quotient.denominator
    rw [← together]
    field_simp
    ring
  have less :
      2 * (((quotient.numerator % quotient.denominator : Nat) : ℚ) / quotient.denominator) < 1 ↔
        2 * (quotient.numerator % quotient.denominator) < quotient.denominator := by
    rw [← mul_div_assoc, div_lt_one scale]
    exact_mod_cast Iff.rfl
  have more :
      1 < 2 * (((quotient.numerator % quotient.denominator : Nat) : ℚ) / quotient.denominator) ↔
        quotient.denominator < 2 * (quotient.numerator % quotient.denominator) := by
    rw [← mul_div_assoc, one_lt_div scale]
    exact_mod_cast Iff.rfl
  rw [Quotient.round, nearestEven, whole, parts]
  simp only [less, more]

theorem shifted_ratio {quotient : Quotient} (positive : 0 < quotient.denominator) (power : Int) :
    ((quotient.shift 2 power).numerator : ℚ) / (quotient.shift 2 power).denominator =
      quotient.numerator / quotient.denominator * 2 ^ power := by
  have scale : (0 : ℚ) < quotient.denominator := Nat.cast_pos.mpr positive
  rw [shift_by_two]
  push_cast
  rw [← zpow_eq_parts power]
  field_simp

theorem exponent_for_eq {quotient : Quotient} (top : 0 < quotient.numerator)
    (positive : 0 < quotient.denominator) :
    Binary64.exponentFor quotient = wordExponent (quotient.numerator / quotient.denominator) := by
  have scale : (0 : ℚ) < quotient.denominator := Nat.cast_pos.mpr positive
  obtain ⟨low, high⟩ := quotient_bounds top positive
  have below (power : Int) : (quotient.numerator : ℚ) < 2 ^ power * quotient.denominator ↔
      (quotient.numerator : ℚ) / quotient.denominator < 2 ^ power := (div_lt_iff₀ scale).symm
  rw [below] at high
  rw [← lt_div_iff₀ scale] at low
  have short := whole_lt_iff quotient positive (Binary64.logarithmBound quotient - 52) 52
  rw [below, show ((52 : Nat) : Int) + (Binary64.logarithmBound quotient - 52) =
    Binary64.logarithmBound quotient by omega] at short
  rw [exponent_eq]
  unfold wordExponent
  simp only [short]
  split
  · rename_i less
    rw [logarithm_eq low.le (by rwa [Int.sub_add_cancel])]
    omega
  · rename_i atLeast
    rw [logarithm_eq (not_lt.mp atLeast) high]

/-- The word nearest to a quotient is that of its place. -/
theorem nearest_bits_place {quotient : Quotient} (positive : 0 < quotient.denominator) {bits : Nat}
    (found : Binary64.nearestBits? quotient = some bits) :
    (bits : Int) = nearestPlace (quotient.numerator / quotient.denominator) := by
  have scale : (0 : ℚ) < quotient.denominator := Nat.cast_pos.mpr positive
  by_cases nothing : quotient.numerator = 0
  · rw [Binary64.nearestBits?, if_pos nothing] at found
    cases found
    simp [nothing, nearest_place_of_zero]
  · have top := Nat.pos_of_ne_zero nothing
    have above : (0 : ℚ) < quotient.numerator / quotient.denominator := by positivity
    have shifted : 0 < (quotient.shift 2 (-Binary64.exponentFor quotient)).denominator := by
      rw [shift_by_two]
      positivity
    have least := least_word_exponent (quotient.numerator / quotient.denominator : ℚ)
    have full := full_le_nearest_even above
    rw [nearest_bits_eq top] at found
    split at found
    · cases found
      unfold wordBits
      dsimp only
      rw [nearestPlace, if_pos above, quotient_round_eq shifted, shifted_ratio positive,
        exponent_for_eq top positive]
      split
      · omega
      · push_cast
        omega
    · cases found

section Words

variable {value other : Float} {place otherPlace : Int} (placed : place? value = some place)
  (otherPlaced : place? other = some otherPlace) (low : 0 ≤ place) (high : place < outermost)

include placed low high

/-- A word is the one nearest to what it stands for. -/
theorem nearest_place_of_size : nearestPlace (size value) = place ∧ 0 ≤ size value := by
  have word := is_word_of_unpack value.toModel
  unfold size
  obtain ⟨nothing, sign, unpacked⟩ | ⟨mantissa, exponent, above, unpacked, same, _⟩ |
      ⟨infinite, _⟩ := word_of_place placed low
  · rw [unpacked, nothing]
    exact ⟨nearest_place_of_zero, le_refl 0⟩
  · rw [unpacked] at word ⊢
    refine ⟨(nearest_place_of_word word.canonical).trans same, ?_⟩
    change (0 : ℚ) ≤ mantissa * 2 ^ exponent
    positivity
  · omega

include otherPlaced

theorem sizes_in_order (ordered : place ≤ otherPlace) (otherHigh : otherPlace < outermost) :
    size value ≤ size other := by
  have word := is_word_of_unpack value.toModel
  have otherWord := is_word_of_unpack other.toModel
  obtain ⟨_, least⟩ := nearest_place_of_size otherPlaced (by omega) otherHigh
  unfold size at *
  obtain ⟨_, sign, unpacked⟩ | ⟨mantissa, exponent, above, unpacked, same, _⟩ | ⟨infinite, _⟩ :=
    word_of_place placed low
  · rw [unpacked]
    exact least
  · obtain ⟨_, _⟩ | ⟨otherMantissa, otherExponent, otherAbove, otherUnpacked, otherSame, _⟩ |
      ⟨infinite, _⟩ := word_of_place otherPlaced (by omega)
    · omega
    · rw [unpacked] at word ⊢
      rw [otherUnpacked] at otherWord ⊢
      exact size_mono word.canonical otherWord.canonical (by omega)
    · omega
  · omega

/-- A product is rounded to its place. One of the factors has all the bits of a word. -/
theorem place_of_product (normal : 2 ^ 52 ≤ otherPlace) (otherHigh : otherPlace < outermost) :
    place? (value * other) = some (min (nearestPlace (size value * size other)) outermost) := by
  have word := is_word_of_unpack value.toModel
  have otherWord := is_word_of_unpack other.toModel
  have packed : (value * other).toModel =
      Float.Model.pack (mul Format.binary64 value.toModel.unpack other.toModel.unpack) := rfl
  obtain ⟨otherMantissa, otherExponent, otherAbove, otherUnpacked, otherSame⟩ :=
    finite_of_place otherPlaced (by omega) otherHigh
  unfold size
  rw [otherUnpacked] at packed otherWord ⊢
  obtain ⟨_, sign, unpacked⟩ | ⟨mantissa, exponent, above, unpacked, _⟩ | ⟨infinite, _⟩ :=
    word_of_place placed low
  · rw [unpacked] at packed ⊢
    change _ = some (min (nearestPlace (0 * _)) outermost)
    rw [zero_mul, nearest_place_of_zero]
    exact place_of_packed packed trivial rfl (Int.le_refl 0)
  · rw [unpacked] at packed ⊢
    have product : sizeOf (.finite .positive mantissa exponent above) *
        sizeOf (.finite .positive otherMantissa otherExponent otherAbove) =
          ((mantissa * otherMantissa : Nat) : ℚ) * 2 ^ (exponent + otherExponent) := by
      change (mantissa * 2 ^ exponent : ℚ) * (otherMantissa * 2 ^ otherExponent) = _
      rw [zpow_add₀ (by norm_num)]
      push_cast
      ring
    have bits : 2 ^ 52 ≤ mantissa * otherMantissa := by
      obtain ⟨otherSmall, otherLeast, otherFull⟩ := otherWord.canonical
      have all : 2 ^ 52 ≤ otherMantissa := by omega
      exact Nat.le_trans all (Nat.le_mul_of_pos_left _ above)
    have positive : 0 < mantissa * otherMantissa := Nat.mul_pos above otherAbove
    have long := (Nat.le_log2 (Nat.ne_of_gt positive)).mpr bits
    have fine : exponent + otherExponent ≤
        goalExponent (mantissa * otherMantissa) (exponent + otherExponent) := by
      rw [goalExponent, total_exponent_eq]
      omega
    obtain ⟨canonical, there⟩ := place_of_round positive fine
    rw [product]
    exact place_of_packed packed canonical there (nearest_place_nonneg _)
  · omega

/-- A sum is rounded to its place. -/
theorem place_of_sum (otherLow : 0 ≤ otherPlace) (otherHigh : otherPlace < outermost) :
    place? (value + other) = some (min (nearestPlace (size value + size other)) outermost) := by
  have word := is_word_of_unpack value.toModel
  have otherWord := is_word_of_unpack other.toModel
  have packed : (value + other).toModel =
      Float.Model.pack (add Format.binary64 value.toModel.unpack other.toModel.unpack) := rfl
  unfold size
  obtain ⟨_, sign, unpacked⟩ | ⟨mantissa, exponent, above, unpacked, _⟩ | ⟨infinite, _⟩ :=
    word_of_place placed low
  · obtain ⟨_, otherSign, otherUnpacked⟩ |
        ⟨otherMantissa, otherExponent, otherAbove, otherUnpacked, _⟩ | ⟨infinite, _⟩ :=
      word_of_place otherPlaced otherLow
    · rw [unpacked, otherUnpacked] at packed ⊢
      change _ = some (min (nearestPlace (0 + 0)) outermost)
      rw [add_zero, nearest_place_of_zero]
      cases sign <;> cases otherSign <;> exact place_of_packed packed trivial rfl (Int.le_refl 0)
    · rw [unpacked, otherUnpacked] at packed ⊢
      rw [otherUnpacked] at otherWord
      change _ = some (min (nearestPlace (0 + otherMantissa * 2 ^ otherExponent)) outermost)
      rw [zero_add, nearest_place_of_word otherWord.canonical]
      exact place_of_packed packed otherWord.canonical rfl
        (Int.le_of_lt (place_of_finite_bounds otherWord).1)
    · omega
  · rw [unpacked] at word
    obtain ⟨_, otherSign, otherUnpacked⟩ |
        ⟨otherMantissa, otherExponent, otherAbove, otherUnpacked, _⟩ | ⟨infinite, _⟩ :=
      word_of_place otherPlaced otherLow
    · rw [unpacked, otherUnpacked] at packed ⊢
      change _ = some (min (nearestPlace (mantissa * 2 ^ exponent + 0)) outermost)
      rw [add_zero, nearest_place_of_word word.canonical]
      exact place_of_packed packed word.canonical rfl
        (Int.le_of_lt (place_of_finite_bounds word).1)
    · rw [unpacked, otherUnpacked] at packed ⊢
      obtain ⟨common, total, positive, rounds, sameSize⟩ :=
        add_of_finite mantissa otherMantissa exponent otherExponent above otherAbove
      obtain ⟨places, fitted, fine⟩ := round_fine .positive common positive
      rw [rounds, fitted] at packed
      have lifted : 0 < total <<< places := by
        rw [Nat.shiftLeft_eq]
        positivity
      obtain ⟨canonical, there⟩ := place_of_round lifted fine
      rw [shift_keeps_size total (Int.sub_add_cancel common places)] at there
      change _ =
        some (min (nearestPlace (mantissa * 2 ^ exponent + otherMantissa * 2 ^ otherExponent))
        outermost)
      rw [← sameSize]
      exact place_of_packed packed canonical there (nearest_place_nonneg _)
    · omega
  · omega

end Words

section Order

variable {value other common : Float} {place otherPlace commonPlace : Int}
  (placed : place? value = some place) (otherPlaced : place? other = some otherPlace)
  (commonPlaced : place? common = some commonPlace) (low : 0 ≤ place) (ordered : place ≤ otherPlace)
  (high : otherPlace < outermost) (commonHigh : commonPlace < outermost)

include placed otherPlaced commonPlaced low ordered high commonHigh

/-- Products by a common factor are in the order of the other factors. -/
theorem products_in_order (normal : 2 ^ 52 ≤ commonPlace) :
    ∃ product otherProduct, place? (value * common) = some product ∧
      place? (other * common) = some otherProduct ∧ 0 ≤ product ∧ product ≤ otherProduct := by
  have outer : 0 < outermost := by decide
  have sizes := sizes_in_order placed otherPlaced low (by omega) ordered high
  have least := (nearest_place_of_size commonPlaced (by omega) commonHigh).2
  refine ⟨_, _, place_of_product placed commonPlaced low (by omega) normal commonHigh,
    place_of_product otherPlaced commonPlaced (by omega) high normal commonHigh, ?_, ?_⟩
  · have inward := nearest_place_nonneg (size value * size common)
    omega
  · have rounded := nearest_place_mono (mul_le_mul_of_nonneg_right sizes least)
    omega

/-- Sums with a common summand are in the order of the other summands. -/
theorem sums_in_order (commonLow : 0 ≤ commonPlace) : common + value ≤ common + other := by
  have sizes := sizes_in_order placed otherPlaced low (by omega) ordered high
  have rounded := nearest_place_mono (add_le_add_right sizes (size common))
  refine (le_iff_places _ _).mpr
    ⟨_, _, place_of_sum commonPlaced placed commonLow commonHigh low (by omega),
      place_of_sum commonPlaced otherPlaced commonLow commonHigh (by omega) high, ?_⟩
  omega

end Order

/-- A remainder is not beyond the period. -/
theorem remainder_within_period {value period : Float} {place periodPlace : Int}
    (placed : place? value = some place) (periodPlaced : place? period = some periodPlace)
    (low : 0 ≤ place) (high : place < outermost) (above : 2 ^ 52 ≤ periodPlace)
    (within : periodPlace < 2044 * 2 ^ 52) :
    ∃ rest, place? (Scalar.remainder value period) = some rest ∧ 0 ≤ rest ∧ rest ≤ periodPlace := by
  have outer : outermost = 2047 * 2 ^ 52 := rfl
  obtain ⟨position, leads, bounds⟩ := leads_of_place periodPlaced (by omega) (by omega)
  obtain ⟨atLeast, atMost⟩ := bounds above
  obtain ⟨negative, left, common, sound, less, remains⟩ :=
    remainder_is_nearest placed low high leads
  obtain ⟨rest, found⟩ := nearest_of_small negative (by omega) (less.trans (size_lt_of_leads leads))
  obtain ⟨bits, nearest, _, placedRest⟩ := nearest_place found
  have bitsPlace := nearest_bits_place (magnitude_denominator left common) nearest
  have scale : (0 : ℚ) < ((Binary64.magnitude left common).denominator : Nat) :=
    Nat.cast_pos.mpr (magnitude_denominator left common)
  rw [magnitude_ratio, mul_div_assoc, div_self scale.ne', mul_one] at bitsPlace
  have ordered := nearest_place_mono less.le
  rw [(nearest_place_of_size periodPlaced (by omega) (by omega)).1] at ordered
  rw [remains, found]
  cases negative with
  | false => exact ⟨bits, placedRest, Int.natCast_nonneg _, by omega⟩
  | true =>
      rw [sound rfl, Nat.cast_zero, zero_mul, nearest_place_of_zero] at bitsPlace
      refine ⟨_, placedRest, ?_, ?_⟩ <;> simp only [if_true] <;> omega

end Arboretum.Number

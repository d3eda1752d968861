import Arboretum.Number.Scalar
import Mathlib.Algebra.Ring.Int.Defs
import Mathlib.Algebra.Ring.Nat

/-!
Binary64 words in order. A word consists of a sign, eleven bits of exponent and fifty-two bits of
fraction, and without the sign its bits are a number that grows with what the word stands for. So
every word that stands for a number has a place among all words, comparisons compare places, and the
infinite words have the outermost ones.
-/

namespace Arboretum.Number

open Float.Model Float.Model.UnpackedFloat

set_option autoImplicit false

/-! What the fields of a word make of it. -/

def ofFields (sign : Sign) (exponent fraction : Nat) : UnpackedFloat :=
  if exponent = 2047 then if fraction = 0 then .infinity sign else .notANumber
  else if exponent = 0 then
    if nothing : fraction = 0 then .zero sign
    else .finite sign fraction (-1074) (Nat.pos_of_ne_zero nothing)
  else .finite sign (2 ^ 52 + fraction) (exponent - 1075) (Nat.add_pos_left (by decide) _)

theorem finite_congr {sign : Sign} {mantissa other : Nat} {exponent otherExponent : Int}
    {positive : 0 < mantissa} {otherPositive : 0 < other} (mantissas : mantissa = other)
    (exponents : exponent = otherExponent) :
    UnpackedFloat.finite sign mantissa exponent positive =
      .finite sign other otherExponent otherPositive := by
  subst mantissas exponents
  rfl

theorem unpack_eq_fields (bits : BitVec 64) :
    UnpackedFloat.unpack Format.binary64 bits =
      ofFields (Sign.ofBitVec (@unpackSign Format.binary64 bits))
        (@unpackExponent Format.binary64 bits).toNat
        (@unpackMantissa Format.binary64 bits).toNat := by
  let exponent : BitVec 11 := @unpackExponent Format.binary64 bits
  let fraction : BitVec 52 := @unpackMantissa Format.binary64 bits
  have greatest : exponent = -1#11 ↔ exponent.toNat = 2047 := by
    rw [← BitVec.toNat_inj]
    rfl
  have least : exponent = 0#11 ↔ exponent.toNat = 0 := by
    rw [← BitVec.toNat_inj]
    rfl
  have nothing : fraction = 0#52 ↔ fraction.toNat = 0 := by
    rw [← BitVec.toNat_inj]
    rfl
  change _ = ofFields _ exponent.toNat fraction.toNat
  unfold UnpackedFloat.unpack ofFields
  by_cases infinite : exponent = -1#11
  · rw [if_pos infinite, if_pos (greatest.mp infinite)]
    by_cases empty : fraction = 0#52
    · rw [if_pos empty, if_pos (nothing.mp empty)]
    · rw [if_neg empty, if_neg (mt nothing.mpr empty)]
  rw [if_neg infinite, if_neg (mt greatest.mpr infinite)]
  by_cases subnormal : exponent = 0#11
  · rw [if_pos subnormal, if_pos (least.mp subnormal)]
    by_cases empty : fraction = 0#52
    · rw [dif_pos empty, dif_pos (nothing.mp empty)]
    · rw [dif_neg empty, dif_neg (mt nothing.mpr empty)]
      refine finite_congr rfl ?_
      change (exponent.toNat : Int) - 1075 + 1 = -1074
      rw [least.mp subnormal]
      rfl
  · rw [if_neg subnormal, if_neg (mt least.mpr subnormal)]
    refine finite_congr ?_ rfl
    change (1#1 ++ fraction).toNat = _
    rw [BitVec.toNat_append, ← Nat.shiftLeft_add_eq_or_of_lt fraction.isLt, Nat.shiftLeft_eq]
    rfl

theorem fields_of_bits (bits : BitVec 64) :
    UnpackedFloat.unpack Format.binary64 bits =
      ofFields (if bits.toNat / 2 ^ 63 % 2 = 0 then .positive else .negative)
        (bits.toNat / 2 ^ 52 % 2 ^ 11) (bits.toNat % 2 ^ 52) := by
  rw [unpack_eq_fields]
  have fraction : (@unpackMantissa Format.binary64 bits).toNat = bits.toNat % 2 ^ 52 := by
    simp [unpackMantissa]
  have exponent : (@unpackExponent Format.binary64 bits).toNat =
      bits.toNat / 2 ^ 52 % 2 ^ 11 := by
    simp [unpackExponent, Nat.shiftRight_eq_div_pow]
  have sign : Sign.ofBitVec (@unpackSign Format.binary64 bits) =
      if bits.toNat / 2 ^ 63 % 2 = 0 then .positive else .negative := by
    change Sign.ofBitVec (BitVec.cast _ (BitVec.extractLsb 63 63 bits)) = _
    simp [Sign.ofBitVec, Nat.shiftRight_eq_div_pow, ← BitVec.toNat_inj]
  rw [fraction, exponent, sign]

theorem fields_of_components (sign : Sign) (exponent : BitVec 11) (fraction : BitVec 52) :
    UnpackedFloat.unpack Format.binary64 (packComponents Format.binary64 sign exponent fraction) =
      ofFields sign exponent.toNat fraction.toNat := by
  have sameSign :
      Sign.ofBitVec (unpackSign (packComponents Format.binary64 sign exponent fraction)) =
        sign := by
    have bit : unpackSign (packComponents Format.binary64 sign exponent fraction) =
        sign.toBitVec := by
      apply BitVec.eq_of_getLsbD_eq
      intro index within
      have first : index = 0 := by omega
      subst first
      change (BitVec.cast _ (BitVec.extractLsb 63 63
        (sign.toBitVec ++ exponent ++ fraction))).getLsbD 0 = _
      rw [BitVec.getLsbD_cast, BitVec.getLsbD_extractLsb]
      change (true && (sign.toBitVec ++ exponent ++ fraction).getLsbD 63) = _
      rw [BitVec.getLsbD_append, BitVec.getLsbD_append]
      rfl
    rw [bit]
    cases sign <;> rfl
  rw [unpack_eq_fields, unpackExponent_packComponents, unpackMantissa_packComponents, sameSign]

/-! What words there are, and what becomes of a number that is packed into one. -/

/-- A number is written with fifty-three bits, or with the least exponent. -/
def Canonical : UnpackedFloat → Prop
  | .finite _ mantissa exponent _ =>
      mantissa < 2 ^ 53 ∧ -1074 ≤ exponent ∧ (2 ^ 52 ≤ mantissa ∨ exponent = -1074)
  | _ => True

/-- A number whose exponent no word can have is infinite. -/
def limited : UnpackedFloat → UnpackedFloat
  | .finite sign mantissa exponent positive =>
      if 971 < exponent then .infinity sign else .finite sign mantissa exponent positive
  | other => other

theorem limited_finite (sign : Sign) {mantissa : Nat} {exponent : Int} (positive : 0 < mantissa) :
    limited (.finite sign mantissa exponent positive) =
      if 971 < exponent then .infinity sign else .finite sign mantissa exponent positive := rfl

theorem unpack_pack {number : UnpackedFloat} (canonical : Canonical number) :
    (Float.Model.pack number).unpack = limited number := by
  change UnpackedFloat.unpack Format.binary64 (UnpackedFloat.pack Format.binary64 number) = _
  cases number with
  | notANumber => exact fields_of_components .positive (-1#11) _
  | infinity sign => exact fields_of_components sign (-1#11) 0
  | zero sign => exact fields_of_components sign 0 0
  | finite sign mantissa exponent positive =>
      obtain ⟨small, least, full⟩ := canonical
      have field : (exponent + (Format.binary64.exponentBias : Int) +
          (Format.binary64.mantissaBitsWithoutImplicit : Int)).toNat = (exponent + 1075).toNat := by
        congr 1
        rw [Int.add_assoc]
        rfl
      have packed : UnpackedFloat.pack Format.binary64 (.finite sign mantissa exponent positive) =
          if 2048 ≤ (exponent + 1075).toNat + 1 then packedInfinity Format.binary64 sign
          else if mantissa.log2 + 1 = 53 then
            packComponents Format.binary64 sign (BitVec.ofNat 11 (exponent + 1075).toNat)
              (BitVec.ofNat 52 mantissa)
          else packComponents Format.binary64 sign 0#11 (BitVec.ofNat 52 mantissa) := by
        rw [← field]
        rfl
      rw [packed, limited_finite]
      by_cases beyond : 971 < exponent
      · rw [if_pos beyond, if_pos (by omega)]
        exact fields_of_components sign (-1#11) 0
      rw [if_neg beyond, if_neg (by omega)]
      by_cases normal : 2 ^ 52 ≤ mantissa
      · have log : mantissa.log2 = 52 := (Nat.log2_eq_iff (by omega)).mpr ⟨normal, small⟩
        rw [if_pos (by omega), fields_of_components, BitVec.toNat_ofNat, BitVec.toNat_ofNat]
        have exponentField : (exponent + 1075).toNat % 2 ^ 11 = (exponent + 1075).toNat := by
          apply Nat.mod_eq_of_lt
          omega
        rw [exponentField, ofFields, if_neg (by omega), if_neg (by omega)]
        exact finite_congr (by omega) (by omega)
      · have subnormal : exponent = -1074 := by omega
        have log : mantissa.log2 < 52 := (Nat.log2_lt (by omega)).mpr (by omega)
        rw [if_neg (by omega), fields_of_components, BitVec.toNat_ofNat, BitVec.toNat_ofNat,
          Nat.mod_eq_of_lt (show mantissa < 2 ^ 52 by omega), ofFields, if_neg (by decide),
          if_pos (by decide), dif_neg (by omega)]
        exact finite_congr rfl subnormal.symm

/-- A number that a word stands for. -/
structure IsWord (number : UnpackedFloat) : Prop where
  canonical : Canonical number
  limited : limited number = number

theorem is_word_of_fields (sign : Sign) {exponent fraction : Nat} (exponentFits : exponent ≤ 2047)
    (fractionFits : fraction < 2 ^ 52) : IsWord (ofFields sign exponent fraction) := by
  unfold ofFields
  by_cases greatest : exponent = 2047
  · rw [if_pos greatest]
    by_cases nothing : fraction = 0
    · rw [if_pos nothing]
      exact ⟨trivial, rfl⟩
    · rw [if_neg nothing]
      exact ⟨trivial, rfl⟩
  rw [if_neg greatest]
  by_cases least : exponent = 0
  · rw [if_pos least]
    by_cases nothing : fraction = 0
    · rw [dif_pos nothing]
      exact ⟨trivial, rfl⟩
    · rw [dif_neg nothing]
      exact ⟨⟨by omega, by omega, .inr rfl⟩, rfl⟩
  · rw [if_neg least]
    exact ⟨⟨by omega, by omega, .inl (by omega)⟩, if_neg (by omega)⟩

theorem is_word_of_unpack (word : Float.Model) : IsWord word.unpack := by
  change IsWord (UnpackedFloat.unpack Format.binary64 word.toBits.toBitVec)
  rw [fields_of_bits]
  exact is_word_of_fields _ (by omega) (by omega)

theorem exponent_le_of_is_word {sign : Sign} {mantissa : Nat} {exponent : Int}
    {positive : 0 < mantissa}
    (word : IsWord (.finite sign mantissa exponent positive)) : exponent ≤ 971 := by
  refine Int.not_lt.mp fun beyond => ?_
  have same := word.limited
  rw [limited_finite, if_pos (by omega)] at same
  cases same

theorem unpack_of_model_bits (bits : UInt64) :
    (Float.Model.ofBits bits).unpack = UnpackedFloat.unpack Format.binary64 bits.toBitVec := by
  have word : IsWord (UnpackedFloat.unpack Format.binary64 bits.toBitVec) := by
    rw [fields_of_bits]
    exact is_word_of_fields _ (by omega) (by omega)
  change (Float.Model.pack (UnpackedFloat.unpack Format.binary64 bits.toBitVec)).unpack = _
  rw [unpack_pack word.canonical, word.limited]

/-! Places. -/

/-- The place of infinity. -/
def outermost : Int := 2047 * 2 ^ 52

def placeOf? : UnpackedFloat → Option Int
  | .notANumber => none
  | .infinity sign => some (sign.apply outermost)
  | .zero _ => some 0
  | .finite sign mantissa exponent _ => some (sign.apply ((exponent + 1074) * 2 ^ 52 + mantissa))

theorem place_of_finite (sign : Sign) {mantissa : Nat} {exponent : Int} (positive : 0 < mantissa) :
    placeOf? (.finite sign mantissa exponent positive) =
      some (sign.apply ((exponent + 1074) * 2 ^ 52 + mantissa)) := rfl

/-- The place of a word among all words, if it stands for a number: zero for both zeros, and one
more or one less for the next words. -/
def place? (value : Float) : Option Int := placeOf? value.toModel.unpack

theorem place_of_fields (sign : Sign) {exponent fraction : Nat}
    (number : exponent < 2047 ∨ exponent = 2047 ∧ fraction = 0) :
    placeOf? (ofFields sign exponent fraction) =
      some (sign.apply ((exponent * 2 ^ 52 + fraction : Nat) : Int)) := by
  unfold ofFields
  by_cases greatest : exponent = 2047
  · have nothing : fraction = 0 := by omega
    rw [if_pos greatest, if_pos nothing, greatest, nothing]
    rfl
  rw [if_neg greatest]
  by_cases least : exponent = 0
  · rw [if_pos least]
    by_cases nothing : fraction = 0
    · rw [dif_pos nothing, least, nothing]
      cases sign <;> rfl
    · rw [dif_neg nothing, least, place_of_finite]
      congr 2
  · rw [if_neg least, place_of_finite]
    congr 2
    omega

theorem place_of_bits (negative : Bool) {bits : Nat} (within : bits ≤ 2047 * 2 ^ 52) :
    place? (Float.ofBits (UInt64.ofNat (if negative then Nat.pow 2 63 + bits else bits))) =
      some (if negative then -(bits : Int) else bits) := by
  change placeOf? (Float.Model.ofBits _).unpack = _
  rw [unpack_of_model_bits, fields_of_bits]
  have power : Nat.pow 2 63 = 2 ^ 63 := rfl
  rw [power]
  cases negative with
  | false =>
      have same : (UInt64.ofNat bits).toBitVec.toNat = bits := by
        change bits % 2 ^ 64 = bits
        omega
      simp only [Bool.false_eq_true, if_false, same]
      rw [if_pos (by omega), place_of_fields _ (by omega)]
      change some ((bits / 2 ^ 52 % 2 ^ 11 * 2 ^ 52 + bits % 2 ^ 52 : Nat) : Int) = _
      congr 2
      omega
  | true =>
      have same : (UInt64.ofNat (2 ^ 63 + bits)).toBitVec.toNat = 2 ^ 63 + bits := by
        change (2 ^ 63 + bits) % 2 ^ 64 = 2 ^ 63 + bits
        omega
      simp only [if_true, same]
      rw [if_neg (by omega), place_of_fields _ (by omega)]
      change some (-(((2 ^ 63 + bits) / 2 ^ 52 % 2 ^ 11 * 2 ^ 52 +
        (2 ^ 63 + bits) % 2 ^ 52 : Nat) : Int)) = _
      congr 2
      omega

theorem place_of_finite_bounds {sign : Sign} {mantissa : Nat} {exponent : Int}
    {positive : 0 < mantissa} (word : IsWord (.finite sign mantissa exponent positive)) :
    0 < (exponent + 1074) * 2 ^ 52 + mantissa ∧
      (exponent + 1074) * 2 ^ 52 + mantissa < outermost := by
  have highest := exponent_le_of_is_word word
  obtain ⟨small, least, full⟩ := word.canonical
  unfold outermost
  omega

/-- The places of finite words lie between those of the infinite ones. -/
theorem place_of_finite_within {sign : Sign} {mantissa : Nat} {exponent : Int}
    {positive : 0 < mantissa} (word : IsWord (.finite sign mantissa exponent positive)) :
    -outermost < sign.apply ((exponent + 1074) * 2 ^ 52 + mantissa) ∧
      sign.apply ((exponent + 1074) * 2 ^ 52 + mantissa) < outermost := by
  obtain ⟨above, below⟩ := place_of_finite_bounds word
  cases sign <;> simp only [Sign.apply] <;> omega

/-- Of two positive numbers the one with the greater exponent has the greater place, and of two with
one exponent the one with the greater mantissa. -/
theorem compare_places {mantissa other : Nat} {exponent otherExponent : Int}
    {positive : 0 < mantissa} {otherPositive : 0 < other} {sign otherSign : Sign}
    (canonical : Canonical (.finite sign mantissa exponent positive))
    (otherCanonical : Canonical (.finite otherSign other otherExponent otherPositive)) :
    (compare exponent otherExponent).then (compare mantissa other) =
      compare ((exponent + 1074) * 2 ^ 52 + mantissa)
        ((otherExponent + 1074) * 2 ^ 52 + other) := by
  obtain ⟨small, least, full⟩ := canonical
  obtain ⟨otherSmall, otherLeast, otherFull⟩ := otherCanonical
  rcases Int.lt_trichotomy exponent otherExponent with less | rfl | greater
  · rw [Int.compare_eq_lt.mpr less, Ordering.lt_then]
    refine (Int.compare_eq_lt.mpr ?_).symm
    omega
  · rw [Int.compare_eq_eq.mpr rfl, Ordering.eq_then]
    rcases Nat.lt_trichotomy mantissa other with less | rfl | greater
    · rw [Nat.compare_eq_lt.mpr less]
      refine (Int.compare_eq_lt.mpr ?_).symm
      omega
    · rw [Nat.compare_eq_eq.mpr rfl]
      exact (Int.compare_eq_eq.mpr rfl).symm
    · rw [Nat.compare_eq_gt.mpr greater]
      refine (Int.compare_eq_gt.mpr ?_).symm
      omega
  · rw [Int.compare_eq_gt.mpr greater, Ordering.gt_then]
    refine (Int.compare_eq_gt.mpr ?_).symm
    omega

theorem compare_neg (left right : Int) : compare (-left) (-right) = (compare left right).swap := by
  rcases Int.lt_trichotomy left right with less | rfl | greater
  · rw [Int.compare_eq_lt.mpr less]
    exact Int.compare_eq_gt.mpr (by omega)
  · rw [Int.compare_eq_eq.mpr rfl, Int.compare_eq_eq.mpr rfl]
    rfl
  · rw [Int.compare_eq_gt.mpr greater]
    exact Int.compare_eq_lt.mpr (by omega)

/-- Words compare as their places do; one that stands for no number compares with none. -/
theorem compare_eq_places {left right : UnpackedFloat} (leftWord : IsWord left)
    (rightWord : IsWord right) :
    left.compare right =
      (placeOf? left).bind fun place => (placeOf? right).map (compare place) := by
  cases left with
  | notANumber => cases right <;> rfl
  | infinity sign =>
      cases right with
      | notANumber => cases sign <;> rfl
      | infinity otherSign => cases sign <;> cases otherSign <;> rfl
      | zero otherSign => cases sign <;> rfl
      | finite otherSign other otherExponent otherPositive =>
          obtain ⟨above, below⟩ := place_of_finite_within rightWord
          cases sign with
          | positive => exact congrArg some (Int.compare_eq_gt.mpr below).symm
          | negative => exact congrArg some (Int.compare_eq_lt.mpr above).symm
  | zero sign =>
      cases right with
      | notANumber => rfl
      | infinity otherSign => cases otherSign <;> rfl
      | zero otherSign => rfl
      | finite otherSign other otherExponent otherPositive =>
          obtain ⟨above, below⟩ := place_of_finite_bounds rightWord
          cases otherSign with
          | positive => exact congrArg some (Int.compare_eq_lt.mpr above).symm
          | negative =>
              refine congrArg some (Int.compare_eq_gt.mpr ?_).symm
              simp only [Sign.apply]
              omega
  | finite sign mantissa exponent positive =>
      obtain ⟨above, below⟩ := place_of_finite_bounds leftWord
      cases right with
      | notANumber => cases sign <;> rfl
      | infinity otherSign =>
          obtain ⟨above, below⟩ := place_of_finite_within leftWord
          cases otherSign with
          | positive =>
              exact Eq.trans (by cases sign <;> rfl)
                (congrArg some (Int.compare_eq_lt.mpr below).symm)
          | negative =>
              exact Eq.trans (by cases sign <;> rfl)
                (congrArg some (Int.compare_eq_gt.mpr above).symm)
      | zero otherSign =>
          cases sign with
          | positive => exact congrArg some (Int.compare_eq_gt.mpr above).symm
          | negative =>
              refine congrArg some (Int.compare_eq_lt.mpr ?_).symm
              simp only [Sign.apply]
              omega
      | finite otherSign other otherExponent otherPositive =>
          obtain ⟨otherAbove, otherBelow⟩ := place_of_finite_bounds rightWord
          have same := compare_places leftWord.canonical rightWord.canonical
          cases sign with
          | positive =>
              cases otherSign with
              | positive => exact congrArg some same
              | negative =>
                  refine congrArg some (Int.compare_eq_gt.mpr ?_).symm
                  simp only [Sign.apply]
                  omega
          | negative =>
              cases otherSign with
              | positive =>
                  refine congrArg some (Int.compare_eq_lt.mpr ?_).symm
                  simp only [Sign.apply]
                  omega
              | negative =>
                  refine congrArg some ?_
                  rw [same]
                  exact (compare_neg _ _).symm

section Order

variable (left right : Float)

theorem compare_floats :
    left.toModel.unpack.compare right.toModel.unpack =
      (place? left).bind fun place => (place? right).map (compare place) :=
  compare_eq_places (is_word_of_unpack _) (is_word_of_unpack _)

theorem lt_iff_places :
    left < right ↔ ∃ place other, place? left = some place ∧ place? right = some other ∧
      place < other := by
  change decide (left.toModel < right.toModel) = true ↔ _
  rw [decide_eq_true_iff]
  change (left.toModel.unpack.compare right.toModel.unpack == some .lt) = true ↔ _
  rw [compare_floats]
  cases place? left with
  | none => simp
  | some place =>
      cases place? right with
      | none => simp
      | some other => simp [Int.compare_eq_lt]

theorem le_iff_places :
    left ≤ right ↔ ∃ place other, place? left = some place ∧ place? right = some other ∧
      place ≤ other := by
  change decide (left.toModel ≤ right.toModel) = true ↔ _
  rw [decide_eq_true_iff]
  change ((left.toModel.unpack.compare right.toModel.unpack).any (·.isLE)) = true ↔ _
  rw [compare_floats]
  cases place? left with
  | none => simp
  | some place =>
      cases place? right with
      | none => simp
      | some other => simp [Int.isLE_compare]

theorem beq_iff_places :
    (left == right) = true ↔ ∃ place, place? left = some place ∧ place? right = some place := by
  change (left.toModel.unpack.compare right.toModel.unpack == some .eq) = true ↔ _
  rw [compare_floats]
  cases place? left with
  | none => simp
  | some place =>
      cases place? right with
      | none => simp
      | some other =>
          simp only [Option.bind_some, Option.map_some, beq_iff_eq, Option.some.injEq,
            Int.compare_eq_eq, exists_eq_left']
          exact eq_comm

end Order

theorem is_nan_iff (value : Float) : value.isNaN = true ↔ place? value = none := by
  change value.toModel.unpack.isNaN = true ↔ placeOf? value.toModel.unpack = none
  cases value.toModel.unpack with
  | notANumber => exact iff_of_true rfl rfl
  | infinity sign => exact iff_of_false Bool.false_ne_true (Option.some_ne_none _)
  | zero sign => exact iff_of_false Bool.false_ne_true (Option.some_ne_none _)
  | finite sign mantissa exponent positive =>
      exact iff_of_false Bool.false_ne_true (Option.some_ne_none _)

theorem is_finite_iff (value : Float) :
    value.isFinite = true ↔
      ∃ place, place? value = some place ∧ -outermost < place ∧ place < outermost := by
  change value.toModel.unpack.isFinite = true ↔
    ∃ place, placeOf? value.toModel.unpack = some place ∧ _
  have word := is_word_of_unpack value.toModel
  have outer : 0 < outermost := by decide
  cases unpacked : value.toModel.unpack with
  | notANumber =>
      refine iff_of_false Bool.false_ne_true ?_
      rintro ⟨place, absurdly, _⟩
      cases absurdly
  | infinity sign =>
      refine iff_of_false Bool.false_ne_true ?_
      rintro ⟨place, same, low, high⟩
      have outward : sign.apply outermost = place := Option.some.inj same
      cases sign <;> simp only [Sign.apply] at outward <;> omega
  | zero sign => exact iff_of_true rfl ⟨0, rfl, by omega, outer⟩
  | finite sign mantissa exponent positive =>
      rw [unpacked] at word
      exact ⟨fun _ => ⟨_, rfl, place_of_finite_within word⟩, fun _ => rfl⟩

end Arboretum.Number

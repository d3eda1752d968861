import Arboretum.Proofs.Animation.Pace
import Arboretum.Proofs.Configuration
import Arboretum.Proofs.Number.Rounding

/-!
The shares of a frame under settings that were read from an environment. A reveal lasts at least
a millisecond and a frame at least as long, so a reveal never has no frames at all, and the
share of the leaves can always be told. The share of the branches is a count divided by a number
of frames, and that number may be so small that the quotient is infinite; but not for frames of
less than `1e291` milliseconds.
-/

namespace Arboretum

open Number Fallible

set_option autoImplicit false

/-! Words from one outward. -/

theorem le_outermost {value : Float} {place : Int} (placed : place? value = some place) :
    place ≤ outermost := by
  rcases lt_or_ge place 0 with negative | notNegative
  · exact Int.le_trans (Int.le_of_lt negative) (by decide)
  obtain ⟨rfl, _⟩ | ⟨_, _, _, _, _, _, within⟩ | ⟨rfl, _⟩ := word_of_place placed notNegative
  · decide
  · exact Int.le_of_lt within
  · exact Int.le_refl _

theorem place_of_length {value : Float} (length : value.isFinite = true ∧ 1.0 ≤ value) :
    ∃ place, place? value = some place ∧ 1023 * 2 ^ 52 ≤ place ∧ place < outermost := by
  obtain ⟨finite, atLeast⟩ := length
  obtain ⟨place, placed, _, within⟩ := (is_finite_iff value).mp finite
  obtain ⟨one, other, oneEq, otherEq, ordered⟩ := (le_iff_places _ _).mp atLeast
  rw [place_of_one] at oneEq
  rw [placed] at otherEq
  cases oneEq
  cases otherEq
  exact ⟨place, placed, ordered, within⟩

theorem leads_of_length {value : Float} {place : Int} (placed : place? value = some place)
    (atLeast : 1023 * 2 ^ 52 ≤ place) (within : place < outermost) :
    ∃ position, LeadsAt value position ∧ 1 ≤ position ∧ (position + 1022) * 2 ^ 52 ≤ place := by
  obtain ⟨position, leads, bounds⟩ := leads_of_place placed (by omega) within
  obtain ⟨low, high⟩ := bounds (by omega)
  exact ⟨position, leads, by omega, low⟩

theorem leads_of_count {count : Nat} {number : Float} (positive : 0 < count) (real : count < 2 ^ 53)
    (found : Binary64.ofInt? (count : Int) = some number) :
    ∃ position, LeadsAt number position ∧ 1 ≤ position ∧ position ≤ 54 := by
  obtain ⟨place, placed, within, atLeast, atMost⟩ := of_int_place (by omega) found
  have short : count.log2 < 53 := (Nat.log2_lt (by omega)).mpr real
  rw [Int.natAbs_natCast] at atLeast atMost
  obtain ⟨position, leads, low, high⟩ := leads_of_length placed (by omega) within
  exact ⟨position, leads, low, by omega⟩

theorem number_of_count {count : Nat} (real : count < 2 ^ 53) :
    ∃ number : Float, Binary64.ofInt? (count : Int) = some number ∧
      (Scalar.ofInt (count : Int) : Except Fault Float) = .ok number := by
  have large : leastBeyondWords ≤ count → False := by
    have power : 2 ^ 53 ≤ leastBeyondWords :=
      le_trans (pow_le_pow_right₀ (by decide) (by decide)) pow_le_least_beyond
    omega
  obtain ⟨number, found⟩ :=
    Option.ne_none_iff_exists'.mp (mt (of_int_none_iff (count : Int)).mp large)
  refine ⟨number, found, ?_⟩
  have given : (Scalar.ofInt? (count : Int) : Option Float) = some number := found
  unfold Scalar.ofInt
  rw [given]

/-- A quotient of counts can be told, unless there is nothing to divide by. -/
theorem ratio_of_counts {dividend divisor : Nat} (real : dividend < 2 ^ 53)
    (positive : 0 < divisor) :
    ∃ share : Float, Scalar.ratio (dividend : Int) (divisor : Int) = .ok share ∧
      share.isFinite = true := by
  have found : ∃ share, Binary64.ofRatio? (dividend : Int) (divisor : Int) = some share := by
    unfold Binary64.ofRatio? Binary64.nearest?
    rw [Int.natAbs_natCast, Int.natAbs_natCast]
    rcases Nat.eq_zero_or_pos dividend with rfl | top
    · exact ⟨_, rfl⟩
    · have short : dividend.log2 < 53 := (Nat.log2_lt (by omega)).mpr real
      have small : Binary64.logarithmBound ⟨dividend, divisor⟩ ≤ 1022 := by
        unfold Binary64.logarithmBound
        dsimp only
        omega
      rw [@nearest_bits_of_small ⟨dividend, divisor⟩ top positive small]
      exact ⟨_, rfl⟩
  obtain ⟨share, found⟩ := found
  refine ⟨share, ?_, nearest_is_finite found⟩
  have given : (Scalar.ofRatio? (dividend : Int) (divisor : Int) : Option Float) =
      some share := found
  unfold Scalar.ratio
  rw [if_neg (by omega), given]

theorem quotient_of_positive {dividend divisor : Float} {place : Int}
    (placed : place? divisor = some place) (positive : 0 < place) :
    Scalar.quotient dividend divisor = .ok (dividend / divisor) := by
  have nonzero : ¬ (divisor == 0.0) = true := by
    intro nothing
    obtain ⟨other, same, zero⟩ := (beq_iff_places _ _).mp nothing
    rw [place_of_zero] at zero
    rw [placed] at same
    cases zero
    cases same
    exact Int.lt_irrefl 0 positive
  exact if_neg nonzero

theorem round_up_of_finite {value : Float} (finite : value.isFinite = true) :
    ∃ whole, Scalar.roundUp value = .ok whole := by
  obtain ⟨place, placed, _⟩ := (is_finite_iff value).mp finite
  have number : ¬ value.isNaN = true := by
    intro notNumber
    rw [(is_nan_iff value).mp notNumber] at placed
    cases placed
  have checked : Scalar.requireFinite value =
      if value.isFinite then .ok () else .error .integerOfInfinity := if_neg number
  unfold Scalar.roundUp
  rw [checked, if_pos finite]
  exact ⟨_, rfl⟩

theorem round_up_of_place {value : Float} {place : Int} (placed : place? value = some place)
    (notNegative : 0 ≤ place) :
    (∃ whole, Scalar.roundUp value = .ok whole) ∨
      Scalar.roundUp value = .error .integerOfInfinity ∧ place = outermost := by
  have outer : 0 < outermost := by decide
  rcases Int.lt_or_eq_of_le (le_outermost placed) with within | rfl
  · exact .inl (round_up_of_finite ((is_finite_iff value).mpr ⟨place, placed, by omega, within⟩))
  · have infinite := infinite_of_place placed
    have notNumber : Scalar.isNaN value = false := by
      change value.toModel.unpack.isNaN = false
      rw [infinite]
      rfl
    have notFinite : Scalar.isFinite value = false := by
      change value.toModel.unpack.isFinite = false
      rw [infinite]
      rfl
    refine .inr ⟨?_, rfl⟩
    unfold Scalar.roundUp Scalar.requireFinite
    rw [notNumber, notFinite]
    rfl

theorem long_frame_place {place : Int} (placed : place? 1e291 = some place) :
    place < 1992 * 2 ^ 52 := by
  have checked : (place? 1e291).all (fun place => decide (place < 1992 * 2 ^ 52)) = true := by
    decide +kernel
  rw [placed] at checked
  exact of_decide_eq_true checked

/-! Frames and shares. -/

section Share

variable {duration interval number : Float} {position : Int}

/-- The number of frames of a reveal is positive, and only a long frame makes it small. -/
theorem frames_lead {place : Int} (placed : place? duration = some place)
    (atLeast : 1023 * 2 ^ 52 ≤ place) (leads : LeadsAt interval position)
    (positive : 1 ≤ position) :
    ∃ frames, place? (duration / interval) = some frames ∧ 0 < frames ∧
      (frames = outermost ∨
        ∃ other, LeadsAt (duration / interval) other ∧ 1 - position ≤ other) := by
  obtain ⟨_, highest⟩ := position_bounds leads
  rcases Int.lt_or_eq_of_le (le_outermost placed) with within | rfl
  · obtain ⟨first, firstLeads, firstPositive, _⟩ := leads_of_length placed atLeast within
    rcases quotient_leads firstLeads leads (by omega) with
      ⟨frames, framesLead, low, _⟩ | ⟨infinite, _⟩
    · obtain ⟨framesPlace, framesPlaced, above, _⟩ := place_of_leads framesLead
      exact ⟨framesPlace, framesPlaced, above, .inr ⟨frames, framesLead, by omega⟩⟩
    · exact ⟨outermost, infinite, by decide, .inl rfl⟩
  · exact ⟨outermost, quotient_of_infinity placed leads, by decide, .inl rfl⟩

/-- A share of so many frames is a number or infinite, and only a long frame makes it infinite. -/
theorem share_place {frames : Float} {framesPlace : Int} {count : Nat} (real : count < 2 ^ 53)
    (found : Binary64.ofInt? (count : Int) = some number)
    (placed : place? frames = some framesPlace) (above : 0 < framesPlace)
    (many : framesPlace = outermost ∨ ∃ other, LeadsAt frames other ∧ 1 - position ≤ other) :
    ∃ place, place? (number / frames) = some place ∧ 0 ≤ place ∧
      (place = outermost → 970 ≤ position) := by
  have small {share : Float} (nothing : place? share = some 0) :
      ∃ place, place? share = some place ∧ 0 ≤ place ∧ (place = outermost → 970 ≤ position) :=
    ⟨0, nothing, Int.le_refl 0, fun absurdly => absurd absurdly (by decide)⟩
  rcases Nat.eq_zero_or_pos count with rfl | positive
  · have nothing : place? number = some 0 := by
      cases found
      rfl
    exact small (quotient_of_zero nothing placed above)
  obtain ⟨first, firstLeads, low, high⟩ := leads_of_count positive real found
  obtain rfl | ⟨other, leads, least⟩ := many
  · exact small (quotient_by_infinity firstLeads placed)
  obtain ⟨_, highest⟩ := position_bounds leads
  rcases quotient_leads firstLeads leads (by omega) with
    ⟨share, shareLeads, _, most⟩ | ⟨infinite, long⟩
  · obtain ⟨place, sharePlaced, positive, within⟩ := place_of_leads shareLeads
    exact ⟨place, sharePlaced, Int.le_of_lt positive, fun same => absurd within (by omega)⟩
  · exact ⟨outermost, infinite, by decide, fun _ => by omega⟩

end Share

namespace AnimationSettings

variable {settings : AnimationSettings Float}

theorem accepted_in_range {environment : Environment}
    (accepted : Configuration.animationSettings environment = .ok settings) :
    settings.InRange ∧ settings.leafRevealFrames = 60 := by
  constructor
  · exact Environment.good_of_yields (animation_settings_yield environment) accepted
  · simp only [Configuration.animationSettings, bind_eq_ok] at accepted
    obtain ⟨_, _, _, _, _, _, _, _, _, _, made⟩ := accepted
    cases made
    rfl

section InRange

variable (fit : settings.InRange) {count : Nat} (real : count < 2 ^ 53)

include fit real

theorem reveal_lasts :
    ∃ duration place, settings.revealDurationMs count = .ok duration ∧
      place? duration = some place ∧ 1023 * 2 ^ 52 ≤ place := by
  obtain ⟨number, _, given⟩ := number_of_count real
  obtain ⟨least, leastPlaced, atLeast, _⟩ := place_of_length fit.minReveal
  have lasts : settings.revealDurationMs count =
      .ok (Scalar.larger settings.minRevealMs (number * settings.revealMsPerBranch)) := by
    unfold revealDurationMs
    rw [given]
    rfl
  have long : ∃ place,
      place? (Scalar.larger settings.minRevealMs (number * settings.revealMsPerBranch)) =
        some place ∧
        1023 * 2 ^ 52 ≤ place := by
    unfold Scalar.larger
    by_cases longer : settings.minRevealMs < number * settings.revealMsPerBranch
    · obtain ⟨place, other, placed, otherPlaced, ordered⟩ := (lt_iff_places _ _).mp longer
      rw [leastPlaced] at placed
      cases placed
      rw [if_pos longer]
      exact ⟨other, otherPlaced, by omega⟩
    · rw [if_neg longer]
      exact ⟨least, leastPlaced, atLeast⟩
  obtain ⟨place, placed, atLeast⟩ := long
  exact ⟨_, place, lasts, placed, atLeast⟩

theorem branch_quota_outcome :
    (∃ quota, settings.branchQuota count = .ok quota ∧ 1 ≤ quota) ∨
      settings.branchQuota count = .error .integerOfInfinity ∧
        ¬ settings.frameIntervalMs ≤ 1e291 := by
  obtain ⟨number, found, given⟩ := number_of_count real
  obtain ⟨duration, place, lasts, placed, atLeast⟩ := reveal_lasts fit real
  obtain ⟨interval, intervalPlaced, intervalLeast, intervalWithin⟩ :=
    place_of_length fit.frameInterval
  obtain ⟨position, leads, positive, low⟩ :=
    leads_of_length intervalPlaced intervalLeast intervalWithin
  obtain ⟨framesPlace, framesPlaced, above, many⟩ := frames_lead placed atLeast leads positive
  obtain ⟨share, sharePlaced, notNegative, long⟩ := share_place real found framesPlaced above many
  have quota : settings.branchQuota count = (do
      return max 1 (← Scalar.roundUp (number / (duration / settings.frameIntervalMs)))) := by
    unfold branchQuota
    rw [lasts, given]
    change (do
      let frames ← Scalar.quotient duration settings.frameIntervalMs
      return max 1 (← Scalar.roundUp (← Scalar.quotient number frames))) = _
    rw [quotient_of_positive intervalPlaced (by omega)]
    change (do return max 1 (← Scalar.roundUp (← Scalar.quotient number _))) = _
    rw [quotient_of_positive framesPlaced above]
    rfl
  rw [quota]
  rcases round_up_of_place sharePlaced notNegative with ⟨whole, rounded⟩ | ⟨overflows, infinite⟩
  · rw [rounded]
    exact .inl ⟨max 1 whole, rfl, le_max_left 1 whole⟩
  · rw [overflows]
    refine .inr ⟨rfl, fun short => ?_⟩
    obtain ⟨other, bound, same, boundPlaced, ordered⟩ := (le_iff_places _ _).mp short
    have far := long infinite
    have boundBelow := long_frame_place boundPlaced
    rw [intervalPlaced] at same
    cases same
    omega

end InRange

theorem leaf_quota_returns (frames : settings.leafRevealFrames = 60) {count : Nat}
    (real : count < 2 ^ 53) : ∃ quota, settings.leafQuota count = .ok quota ∧ 1 ≤ quota := by
  obtain ⟨share, given, finite⟩ := ratio_of_counts real (show 0 < 60 by decide)
  obtain ⟨whole, rounded⟩ := round_up_of_finite finite
  have returned : settings.leafQuota count = .ok (max 1 whole) := by
    unfold leafQuota
    rw [frames]
    change ((Scalar.ratio (count : Int) ((60 : Nat) : Int) : Except Fault Float) >>= _) = _
    rw [given]
    change (Scalar.roundUp share >>= _) = _
    rw [rounded]
    rfl
  exact ⟨_, returned, le_max_left 1 whole⟩

end AnimationSettings

end Arboretum

import Arboretum.Configuration
import Arboretum.Proofs.Fallible
import Arboretum.Proofs.Number.Nearest

/-!
Configurations and the environment they are read from. A reading is in range, or an entry is
to blame that is set to a text it does not accept, and then the fault rejects that entry by
name. There is one gap: an integer may be accepted and still have no word near it, and the
fault that follows names no entry.
-/

namespace Arboretum

open Number

set_option autoImplicit false

/-! What an entry accepts, told apart from how its text is read. -/

def Within {β : Type} (less : β → β → Bool) (minimum maximum : Option β) (value : β) : Prop :=
  (∀ bound ∈ minimum, less value bound = false) ∧ ∀ bound ∈ maximum, less bound value = false

def IntegerEntry.Admits (entry : IntegerEntry) (value : Int) : Prop :=
  Within (fun left right => decide (left < right)) entry.minimum entry.maximum value

def IntegerEntry.Accepts (entry : IntegerEntry) (text : String) : Prop :=
  ∃ value, readInteger? text = some value ∧ entry.Admits value

def RealEntry.Admits (entry : RealEntry) (value : Float) : Prop :=
  value.isNaN = false ∧
    Within (fun left right => decide (left < right)) entry.minimum entry.maximum value

def RealEntry.Accepts (entry : RealEntry) (text : String) : Prop :=
  ∃ value, readReal? text = some value ∧ entry.Admits value

section Acceptance

variable {β : Type} {read : String → Option β} {text : String} {admits : β → Prop}

theorem not_accepted_of_unread (unread : read text = none) :
    ¬ ∃ value, read text = some value ∧ admits value := by
  rintro ⟨value, found, _⟩
  rw [unread] at found
  cases found

theorem not_accepted_of_read {value : β} (reads : read text = some value)
    (outside : ¬ admits value) :
    ¬ ∃ value, read text = some value ∧ admits value := by
  rintro ⟨other, found, admitted⟩
  rw [reads] at found
  cases found
  exact outside admitted

end Acceptance

/-- The faults that refuse the text of an entry. -/
inductive Fault.Rejects (name : String) : Fault → Prop
  | notAnInteger : Rejects name (.notAnInteger name)
  | notAReal : Rejects name (.notAReal name)
  | notANumber : Rejects name (.notANumber name)
  | belowMinimum (bound : String) : Rejects name (.belowMinimum name bound)
  | aboveMaximum (bound : String) : Rejects name (.aboveMaximum name bound)

theorem Fault.Rejects.message {name : String} {fault : Fault} (rejects : fault.Rejects name) :
    ∃ rest, fault.message = name ++ " must be " ++ rest := by
  have split : ∀ tail rest, tail = " must be " ++ rest →
      name ++ tail = name ++ " must be " ++ rest := by
    rintro _ rest rfl
    exact String.append_assoc.symm
  cases rejects with
  | notAnInteger => exact ⟨"an integer", split _ _ (by decide)⟩
  | notAReal => exact ⟨"a float", split _ _ (by decide)⟩
  | notANumber => exact ⟨"a number", split _ _ (by decide)⟩
  | belowMinimum bound =>
      exact ⟨"at least " ++ bound, String.append_assoc.trans (split _ _ (by rfl))⟩
  | aboveMaximum bound =>
      exact ⟨"at most " ++ bound, String.append_assoc.trans (split _ _ (by rfl))⟩

namespace Configuration

/-- The integer entries that settings keep as reals. -/
def convertedEntries : List IntegerEntry :=
  [surfaceWidth, surfaceHeight, minRevealMs, revealMsPerBranch, settleTailMs, frameIntervalMs]

end Configuration

namespace Environment

variable (environment : Environment)

/-- An entry of this name is set to a text that it does not accept. -/
inductive Misset : String → Prop
  | integer {entry : IntegerEntry} {text : String} (known : entry ∈ Configuration.integerEntries)
      (set : environment.text? entry.name = some text) (unfit : ¬ entry.Accepts text) :
      Misset entry.name
  | real {entry : RealEntry} {text : String} (known : entry ∈ Configuration.realEntries)
      (set : environment.text? entry.name = some text) (unfit : ¬ entry.Accepts text) :
      Misset entry.name

/-- Why a configuration is not read. -/
inductive Explains : Fault → Prop
  | refused {name : String} {fault : Fault} (misset : environment.Misset name)
      (rejects : fault.Rejects name) (named : ∃ rest, fault.message = name ++ " must be " ++ rest) :
      Explains fault
  | beyondReals {entry : IntegerEntry} {text : String} {value : Int}
      (known : entry ∈ Configuration.convertedEntries)
      (set : environment.text? entry.name = some text) (reads : readInteger? text = some value)
      (admitted : entry.Admits value) (large : leastBeyondWords ≤ value.natAbs) :
      Explains .integerBeyondReals

def Yields {β : Type} (outcome : Except Fault β) (good : β → Prop) : Prop :=
  match outcome with
  | .ok value => good value
  | .error fault => environment.Explains fault

variable {environment}

theorem yields_bind {β γ : Type} {first : Except Fault β} {next : β → Except Fault γ}
    {good : β → Prop} {better : γ → Prop} (before : environment.Yields first good)
    (after : ∀ value, good value → environment.Yields (next value) better) :
    environment.Yields (first >>= next) better := by
  cases first with
  | error fault => exact before
  | ok value => exact after value before

theorem yields_mono {β : Type} {outcome : Except Fault β} {good better : β → Prop}
    (yields : environment.Yields outcome good) (implies : ∀ value, good value → better value) :
    environment.Yields outcome better := by
  cases outcome with
  | error fault => exact yields
  | ok value => exact implies value yields

theorem good_of_yields {β : Type} {outcome : Except Fault β} {good : β → Prop} {value : β}
    (yields : environment.Yields outcome good) (returned : outcome = .ok value) : good value := by
  rw [returned] at yields
  exact yields

section Bounds

variable {β : Type} (name : String) (less : β → β → Bool) (write : β → String)
  (minimum maximum : Option β)
  (value : β)

theorem require_bounds_eq :
    requireBounds name less write minimum maximum value =
      match minimum.filter (less value), maximum.filter (less · value) with
      | some bound, _ => .error (.belowMinimum name (write bound))
      | none, some bound => .error (.aboveMaximum name (write bound))
      | none, none => .ok value := by
  rcases minimum with _ | least
  · rcases maximum with _ | most
    · rfl
    · rw [Option.filter_none, Option.filter_some]
      cases above : less most value <;> simp only [requireBounds, above] <;> rfl
  · rw [Option.filter_some]
    cases below : less value least
    · rcases maximum with _ | most
      · simp only [requireBounds, below]
        rfl
      · rw [Option.filter_some]
        cases above : less most value <;> simp only [requireBounds, below, above] <;> rfl
    · simp only [requireBounds, below]
      rfl

theorem require_bounds_outcome :
    requireBounds name less write minimum maximum value = .ok value ∧
        Within less minimum maximum value ∨
      ∃ fault, requireBounds name less write minimum maximum value = .error fault ∧
        fault.Rejects name ∧ ¬ Within less minimum maximum value := by
  rw [require_bounds_eq]
  cases below : minimum.filter (less value) with
  | some bound =>
      obtain ⟨there, less⟩ := Option.filter_eq_some_iff.mp below
      refine .inr ⟨_, rfl, .belowMinimum _, fun within => ?_⟩
      rw [within.1 bound there] at less
      cases less
  | none =>
      have fits := Option.filter_eq_none_iff.mp below
      cases above : maximum.filter (less · value) with
      | some bound =>
          obtain ⟨there, less⟩ := Option.filter_eq_some_iff.mp above
          refine .inr ⟨_, rfl, .aboveMaximum _, fun within => ?_⟩
          rw [within.2 bound there] at less
          cases less
      | none =>
          have fits' := Option.filter_eq_none_iff.mp above
          exact .inl ⟨rfl, fun bound there => Bool.eq_false_iff.mpr (fits bound there),
            fun bound there => Bool.eq_false_iff.mpr (fits' bound there)⟩

end Bounds

theorem usual_integers_admitted :
    ∀ entry ∈ Configuration.integerEntries, entry.Admits entry.usual := by
  unfold IntegerEntry.Admits Within
  decide

theorem usual_reals_admitted : ∀ entry ∈ Configuration.realEntries, entry.Admits entry.usual := by
  unfold RealEntry.Admits Within
  decide +kernel

theorem usual_integers_small :
    ∀ entry ∈ Configuration.integerEntries, entry.usual.natAbs < 2 ^ 53 := by
  decide

theorem converted_entry_known {entry : IntegerEntry}
    (converted : entry ∈ Configuration.convertedEntries) :
    entry ∈ Configuration.integerEntries :=
  List.mem_of_mem_take (i := 6) converted

/-! How readings end. -/

/-- An integer entry yields its usual value or the number it is set to. -/
theorem integer_yields {entry : IntegerEntry} (known : entry ∈ Configuration.integerEntries) :
    environment.Yields (environment.integer entry) fun value => entry.Admits value ∧
      (value = entry.usual ∨ ∃ text, environment.text? entry.name = some text ∧
        readInteger? text = some value) := by
  unfold integer
  cases set : environment.text? entry.name with
  | none => exact ⟨usual_integers_admitted entry known, .inl rfl⟩
  | some text =>
      dsimp only
      have misset (unfit : ¬ entry.Accepts text) {fault : Fault}
          (rejects : fault.Rejects entry.name) :
          environment.Explains fault :=
        .refused (.integer known set unfit) rejects rejects.message
      cases read : readInteger? text with
      | none =>
          exact misset (not_accepted_of_unread read) .notAnInteger
      | some value =>
          obtain ⟨passes, within⟩ | ⟨fault, fails, rejects, outside⟩ :=
            require_bounds_outcome entry.name (fun left right : Int => decide (left < right))
              toString
              entry.minimum entry.maximum value
          · dsimp only
            rw [passes]
            exact ⟨within, .inr ⟨text, rfl, read⟩⟩
          · dsimp only
            rw [fails]
            exact misset (not_accepted_of_read read outside) rejects

theorem integer_as_real_yields {entry : IntegerEntry}
    (converted : entry ∈ Configuration.convertedEntries) :
    environment.Yields (environment.integerAsReal entry) fun number =>
      ∃ value, entry.Admits value ∧ Binary64.ofInt? value = some number := by
  have known := converted_entry_known converted
  refine yields_bind (integer_yields known) fun value ⟨admitted, source⟩ => ?_
  unfold Scalar.ofInt
  cases found : (Scalar.ofInt? value : Option Float) with
  | some number => exact ⟨value, admitted, found⟩
  | none =>
      have large := (of_int_none_iff value).mp found
      obtain rfl | ⟨text, set, reads⟩ := source
      · have small := usual_integers_small entry known
        have power : 2 ^ 53 ≤ leastBeyondWords :=
          le_trans (pow_le_pow_right₀ (by decide) (by decide)) pow_le_least_beyond
        exact absurd (le_trans power large) (Nat.not_le.mpr small)
      · exact .beyondReals converted set reads admitted large

theorem real_yields {entry : RealEntry} (known : entry ∈ Configuration.realEntries) :
    environment.Yields (environment.real entry) entry.Admits := by
  unfold real
  cases set : environment.text? entry.name with
  | none => exact usual_reals_admitted entry known
  | some text =>
      dsimp only
      have misset (unfit : ¬ entry.Accepts text) {fault : Fault}
          (rejects : fault.Rejects entry.name) :
          environment.Explains fault :=
        .refused (.real known set unfit) rejects rejects.message
      cases read : readReal? text with
      | none =>
          exact misset (not_accepted_of_unread read) .notAReal
      | some value =>
          have unfit (notAdmitted : ¬ entry.Admits value) : ¬ entry.Accepts text :=
            not_accepted_of_read read notAdmitted
          dsimp only
          cases number : value.isNaN with
          | true =>
              refine misset (unfit fun admitted => ?_) .notANumber
              rw [admitted.1] at number
              cases number
          | false =>
              obtain ⟨passes, within⟩ | ⟨fault, fails, rejects, outside⟩ :=
                require_bounds_outcome entry.name (fun left right : Float => decide (left < right))
                  shortestText entry.minimum entry.maximum value
              · rw [if_neg Bool.false_ne_true, passes]
                exact ⟨number, within⟩
              · rw [if_neg Bool.false_ne_true, fails]
                exact misset (unfit fun admitted => outside admitted.2) rejects

end Environment

/-! Ranges. -/

theorem place_of_one : place? 1.0 = some (1023 * 2 ^ 52) := by decide +kernel

theorem place_of_zero : place? 0.0 = some 0 := by decide +kernel

theorem nearest_to_positive {value : Int} {number : Float} (positive : 1 ≤ value)
    (found : Binary64.ofInt? value = some number) : number.isFinite = true ∧ 1.0 ≤ number := by
  obtain ⟨place, placed, within, atLeast, _⟩ := of_int_place (by omega) found
  refine ⟨nearest_is_finite found, (le_iff_places _ _).mpr ⟨_, _, place_of_one, placed, ?_⟩⟩
  omega

theorem nearest_to_natural {value : Int} {number : Float} (natural : 0 ≤ value)
    (found : Binary64.ofInt? value = some number) : number.isFinite = true ∧ 0.0 ≤ number := by
  refine ⟨nearest_is_finite found, (le_iff_places _ _).mpr ?_⟩
  rcases Int.lt_or_eq_of_le natural with positive | rfl
  · obtain ⟨place, placed, _, atLeast, _⟩ := of_int_place positive found
    exact ⟨_, _, place_of_zero, placed, by omega⟩
  · cases found
    exact ⟨_, _, place_of_zero, rfl, Int.le_refl 0⟩

/-- Numbers are compared, so one that is not less than a bound is at least the bound. -/
theorem le_of_not_less {value bound : Float} (number : value.isNaN = false)
    (known : bound.isNaN = false) (notLess : decide (value < bound) = false) : bound ≤ value := by
  have isPlaced (word : Float) (isNumber : word.isNaN = false) :
      ∃ place, place? word = some place :=
    Option.ne_none_iff_exists'.mp (mt (is_nan_iff word).mpr (Bool.eq_false_iff.mp isNumber))
  obtain ⟨place, placed⟩ := isPlaced value number
  obtain ⟨other, otherPlaced⟩ := isPlaced bound known
  refine (le_iff_places _ _).mpr ⟨other, place, otherPlaced, placed, Int.not_lt.mp fun less => ?_⟩
  exact of_decide_eq_false notLess
    ((lt_iff_places _ _).mpr ⟨place, other, placed, otherPlaced, less⟩)

theorem at_least_admits {name : String} {usual minimum value : Int}
    (admitted : (Configuration.atLeast name usual minimum).Admits value) : minimum ≤ value :=
  Int.not_lt.mp (of_decide_eq_false (admitted.1 minimum rfl))

theorem share_admits {name : String} {usual value : Float}
    (admitted : (Configuration.share name usual).Admits value) : 0.0 ≤ value ∧ value ≤ 1.0 := by
  obtain ⟨number, atLeast, atMost⟩ := admitted
  exact ⟨le_of_not_less number (by decide +kernel) (atLeast 0.0 rfl),
    le_of_not_less (by decide +kernel) number (atMost 1.0 rfl)⟩

structure AnimationSettings.InRange (settings : AnimationSettings Float) : Prop where
  minReveal : settings.minRevealMs.isFinite = true ∧ 1.0 ≤ settings.minRevealMs
  perBranch : settings.revealMsPerBranch.isFinite = true ∧ 0.0 ≤ settings.revealMsPerBranch
  leafFraction : 0.0 ≤ settings.leafRevealFraction ∧ settings.leafRevealFraction ≤ 1.0
  settleTail : settings.settleTailMs.isFinite = true ∧ 0.0 ≤ settings.settleTailMs
  frameInterval : settings.frameIntervalMs.isFinite = true ∧ 1.0 ≤ settings.frameIntervalMs

structure ParticleSettings.InRange (settings : ParticleSettings Float) : Prop where
  probability : 0.0 ≤ settings.spawnProbability ∧ settings.spawnProbability ≤ 1.0
  threshold : 0.0 ≤ settings.scoreThreshold
  limit : 0 ≤ settings.limit
  frameInterval : settings.frameIntervalMs.isFinite = true ∧ 1.0 ≤ settings.frameIntervalMs

structure Surface.InRange (surface : Surface Float) : Prop where
  width : surface.width.isFinite = true ∧ 1.0 ≤ surface.width
  height : surface.height.isFinite = true ∧ 1.0 ≤ surface.height

section Readings

open Arboretum.Configuration Arboretum.Environment

variable (environment : Environment)

theorem positive_length_yields {name : String} {usual : Int}
    (converted : atLeast name usual 1 ∈ convertedEntries) :
    environment.Yields (environment.integerAsReal (atLeast name usual 1)) fun number =>
      number.isFinite = true ∧ 1.0 ≤ number := by
  refine yields_mono (integer_as_real_yields converted) ?_
  rintro number ⟨value, admitted, found⟩
  exact nearest_to_positive (at_least_admits admitted) found

theorem length_yields {name : String} {usual : Int}
    (converted : atLeast name usual 0 ∈ convertedEntries) :
    environment.Yields (environment.integerAsReal (atLeast name usual 0)) fun number =>
      number.isFinite = true ∧ 0.0 ≤ number := by
  refine yields_mono (integer_as_real_yields converted) ?_
  rintro number ⟨value, admitted, found⟩
  exact nearest_to_natural (at_least_admits admitted) found

theorem share_yields {name : String} {usual : Float} (known : share name usual ∈ realEntries) :
    environment.Yields (environment.real (share name usual)) fun number =>
      0.0 ≤ number ∧ number ≤ 1.0 :=
  yields_mono (real_yields known) fun _ admitted => share_admits admitted

theorem animation_settings_yield :
    environment.Yields (animationSettings environment) AnimationSettings.InRange := by
  refine yields_bind (positive_length_yields environment (by simp [convertedEntries, minRevealMs]))
    fun minReveal minRevealFits => ?_
  refine yields_bind (length_yields environment (by simp [convertedEntries, revealMsPerBranch]))
    fun perBranch perBranchFits => ?_
  refine yields_bind (share_yields environment (by simp [realEntries, leafRevealFraction]))
    fun fraction fractionFits => ?_
  refine yields_bind (length_yields environment (by simp [convertedEntries, settleTailMs]))
    fun settleTail settleTailFits => ?_
  refine yields_bind
    (positive_length_yields environment (by simp [convertedEntries, frameIntervalMs]))
    fun interval intervalFits => ?_
  exact ⟨minRevealFits, perBranchFits, fractionFits, settleTailFits, intervalFits⟩

theorem particle_settings_yield :
    environment.Yields (particleSettings environment) ParticleSettings.InRange := by
  refine yields_bind (share_yields environment (by simp [realEntries, particleSpawnProbability]))
    fun probability probabilityFits => ?_
  refine yields_bind (real_yields (by simp [realEntries]))
    fun threshold ⟨thresholdNumber, thresholdFits, _⟩ => ?_
  refine yields_bind (integer_yields (by simp [integerEntries])) fun limit ⟨limitFits, _⟩ => ?_
  refine yields_bind
    (positive_length_yields environment (by simp [convertedEntries, frameIntervalMs]))
    fun interval intervalFits => ?_
  exact ⟨probabilityFits,
    le_of_not_less thresholdNumber (by decide +kernel) (thresholdFits 0.0 rfl),
    at_least_admits limitFits, intervalFits⟩

theorem surface_yields : environment.Yields (surface environment) Surface.InRange := by
  refine yields_bind (positive_length_yields environment (by simp [convertedEntries, surfaceWidth]))
    fun width widthFits => ?_
  refine yields_bind
    (positive_length_yields environment (by simp [convertedEntries, surfaceHeight]))
    fun height heightFits => ?_
  exact ⟨widthFits, heightFits⟩

end Readings

/-- Whatever texts the environment holds, each configuration is in range or names an entry that is
set to a text it does not accept, unless an integer that is accepted has no word near it. -/
theorem configurations_are_in_range_or_explained (environment : Environment) :
    environment.Yields (Configuration.animationSettings environment) AnimationSettings.InRange ∧
      environment.Yields (Configuration.particleSettings environment) ParticleSettings.InRange ∧
      environment.Yields (Configuration.surface environment) Surface.InRange :=
  ⟨animation_settings_yield environment, particle_settings_yield environment,
    surface_yields environment⟩

/-- What marks say of an integer, apart from the text they come from. -/
def integerOfMarks? (marks : List Mark) : Option Int :=
  match takeDigits (takeSign marks).2 with
  | ([], _) => none
  | (digits, []) =>
      if integerDigitLimit < digits.length then none
      else some (Binary64.signed (takeSign marks).1 (valueOfDigits digits))
  | _ => none

theorem read_integer_eq (text : String) : readInteger? text = integerOfMarks? (marksOf text) := rfl

theorem marks_of_list (symbols : List Char) :
    marksOf (String.ofList symbols) =
      (Text.trimmedOf Text.isNumberPadding symbols).map Mark.ofChar := by
  rw [marksOf, String.toList_ofList]

/-- An entry that is set to a text it accepts is read as that text. -/
theorem integer_of_text {environment : Environment} {entry : IntegerEntry} {text : String}
    {value : Int}
    (set : environment.text? entry.name = some text) (reads : readInteger? text = some value)
    (admitted : entry.Admits value) : environment.integer entry = .ok value := by
  unfold Environment.integer
  rw [set]
  dsimp only
  rw [reads]
  obtain ⟨passes, _⟩ | ⟨_, _, _, outside⟩ :=
    Environment.require_bounds_outcome entry.name (fun left right : Int => decide (left < right))
      toString
      entry.minimum entry.maximum value
  · exact passes
  · exact absurd admitted outside

theorem integer_beyond_reals {environment : Environment} {entry : IntegerEntry} {value : Int}
    (given : environment.integer entry = .ok value) (large : leastBeyondWords ≤ value.natAbs) :
    environment.integerAsReal entry = .error .integerBeyondReals := by
  have missing : (Scalar.ofInt? value : Option Float) = none := (of_int_none_iff value).mpr large
  unfold Environment.integerAsReal
  rw [given]
  change Scalar.ofInt value = _
  unfold Scalar.ofInt
  rw [missing]

/-- A duration of three hundred and ten digits is accepted, but no word is near it, and
the fault rejects no entry. -/
theorem long_duration_is_accepted_and_fails :
    let text := String.ofList ('1' :: List.replicate 309 '0')
    let environment : Environment := ⟨[("CANOPY_MIN_REVEAL_MS", text)]⟩
    Configuration.minRevealMs.Accepts text ∧
      Configuration.animationSettings environment = .error .integerBeyondReals ∧
      ∀ name, ¬ Fault.Rejects name .integerBeyondReals := by
  intro text environment
  have reads : readInteger? text = some (10 ^ 309) := by
    rw [read_integer_eq, marks_of_list]
    decide +kernel
  have admitted : Configuration.minRevealMs.Admits (10 ^ 309) := by
    unfold IntegerEntry.Admits Within
    decide +kernel
  have set : ∀ text, Environment.text? ⟨[("CANOPY_MIN_REVEAL_MS", text)]⟩ "CANOPY_MIN_REVEAL_MS" =
      some text := fun _ => rfl
  have given : environment.integer Configuration.minRevealMs = .ok (10 ^ 309) :=
    integer_of_text (set text) reads admitted
  have fails := integer_beyond_reals given (by decide +kernel)
  refine ⟨⟨_, reads, admitted⟩, ?_, ?_⟩
  · unfold Configuration.animationSettings
    rw [fails]
    rfl
  · rintro name ⟨⟩

end Arboretum

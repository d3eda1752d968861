import Arboretum.Proofs.Animation.Canvas
import Arboretum.Proofs.Animation.Motes
import Arboretum.Proofs.Animation.Renewal

/-!
When motes rise. A frame looks for it after its leaves and before it looks for the end of the
reveal, so what decides is how much of the run stands revealed after the frame, at the time of the
frame. In a history, the motes of an animator grow by one with such a frame, are all taken away by
starts and resets, and only fade otherwise. A run therefore has no motes unless it was started with
them and some frame came later than its reveal lasts, even if the clock has gone back since then.
-/

namespace Arboretum

open Fallible

set_option autoImplicit false

variable {σ α : Type}

namespace Animator

variable [Scalar α]

/-- The motes of the animator have only faded, and motes may be shed as before. -/
structure Subsides (before after : Animator σ α) : Prop where
  motes : before.motes.FadesTo after.motes
  may_shed : after.mayShed = before.mayShed

theorem subsides_refl (animator : Animator σ α) : animator.Subsides animator :=
  ⟨ParticleSystem.fades_refl _, rfl⟩

theorem subsides_trans (first second third : Animator σ α) (before : first.Subsides second)
    (after : second.Subsides third) : first.Subsides third :=
  ⟨ParticleSystem.fades_trans before.motes after.motes, after.may_shed.trans before.may_shed⟩

/-- Motes are shed in a run that was started with them, once its whole time is over and most
of its leaves are revealed. -/
theorem may_shed_iff (animator : Animator σ α) :
    animator.mayShed = .ok true ↔
      animator.particlesEnabled = true ∧
        (∃ duration, animator.settings.revealDurationMs animator.branches.length = .ok duration ∧
          duration < animator.elapsedMs) ∧
        (animator.leaves = [] ∨
          ∃ share : α, Scalar.ratio animator.leafCursor animator.leaves.length = .ok share ∧
            animator.settings.mostlyRevealedFraction ≤ share) := by
  have mostly : animator.leavesMostlyRevealed = .ok true ↔
      animator.leaves = [] ∨
        ∃ share : α, Scalar.ratio animator.leafCursor animator.leaves.length = .ok share ∧
          animator.settings.mostlyRevealedFraction ≤ share := by
    unfold leavesMostlyRevealed
    cases leaves : animator.leaves with
    | nil => exact ⟨fun _ => .inl rfl, fun _ => rfl⟩
    | cons leaf rest =>
        simp only [List.isEmpty_cons, Bool.false_eq_true, if_false, reduceCtorEq, false_or]
        rw [bind_eq_ok]
        refine exists_congr fun share => and_congr_right fun _ => ?_
        constructor
        · intro reached
          exact of_decide_eq_true (Except.ok.inj reached)
        · intro reached
          exact congrArg Except.ok (decide_eq_true reached)
  rw [← mostly, mayShed]
  cases enabled : animator.particlesEnabled with
  | false =>
      constructor
      · intro may
        cases may
      · rintro ⟨on, _⟩
        cases on
  | true =>
      simp only [Bool.not_true, Bool.false_eq_true, if_false, true_and]
      rw [bind_eq_ok]
      constructor
      · rintro ⟨duration, lasts, may⟩
        split at may
        · rename_i late
          exact ⟨⟨duration, lasts, late⟩, may⟩
        · cases may
      · rintro ⟨⟨duration, lasts, late⟩, may⟩
        exact ⟨duration, lasts, by rw [if_pos late]; exact may⟩

theorem advance_branches_fades :
    Leads (fun before after => before.motes.FadesTo after.motes)
      (advanceBranches : AnimatorStep σ α Unit) := by
  intro animator
  rw [run_advance_branches]
  cases animator.settings.branchQuota animator.branches.length with
  | error fault => exact ParticleSystem.fades_refl _
  | ok quota => exact ParticleSystem.fades_refl _

theorem settle_subsides : Leads Subsides (settle : AnimatorStep σ α Unit) := by
  intro animator
  rcases settle_changes_phase animator with unchanged | ⟨settled, _, _⟩
  · rw [unchanged]
    exact subsides_refl animator
  · rw [settled]
    exact ⟨ParticleSystem.fades_refl _, rfl⟩

theorem drift_motes_subsides (dtMs : α) :
    Leads Subsides (driftMotes dtMs : AnimatorStep σ α Unit) := by
  intro animator
  simp only [driftMotes, run_bind, run_get, run_lift]
  cases drifted : animator.motes.tick dtMs with
  | error fault => exact subsides_refl animator
  | ok motes => exact ⟨ParticleSystem.tick_fades drifted, rfl⟩

/-- The motes fade, or one rises as it may when all this is over. -/
def ShedsAtMostOne (before after : Animator σ α) : Prop :=
  before.motes.FadesTo after.motes ∨
    before.motes.GainsOne after.motes ∧ after.mayShed = .ok true

theorem fades_then_sheds (first second third : Animator σ α)
    (fades : first.motes.FadesTo second.motes) (sheds : second.ShedsAtMostOne third) :
    first.ShedsAtMostOne third := by
  rcases sheds with fadesOn | ⟨gains, may⟩
  · exact .inl (ParticleSystem.fades_trans fades fadesOn)
  · exact .inr ⟨ParticleSystem.fades_then_gains_one fades gains, may⟩

theorem sheds_then_subsides (first second third : Animator σ α)
    (sheds : first.ShedsAtMostOne second) (subsides : second.Subsides third) :
    first.ShedsAtMostOne third := by
  rcases sheds with fades | ⟨gains, may⟩
  · exact .inl (ParticleSystem.fades_trans fades subsides.motes)
  · exact .inr ⟨ParticleSystem.gains_one_then_fades gains subsides.motes,
      subsides.may_shed.trans may⟩

variable [ChanceSource σ α]

theorem advance_leaves_fades :
    Leads (fun before after => before.motes.FadesTo after.motes)
      (advanceLeaves : AnimatorStep σ α Unit) := by
  intro animator
  obtain ⟨count, fresh, random, advanced, _⟩ := advance_leaves_replaces animator
  rw [advanced]
  exact ParticleSystem.fades_refl _

theorem shed_sheds_at_most_one : Leads ShedsAtMostOne (shed : AnimatorStep σ α Unit) := by
  intro animator
  rcases shed_cases animator with ⟨random, unchanged⟩ | ⟨may, particle, random, risen⟩
  · rw [unchanged]
    exact .inl (ParticleSystem.fades_refl _)
  · rw [risen]
    exact .inr ⟨ParticleSystem.add_gains_one particle animator.motes, may⟩

theorem advance_shares_sheds_at_most_one :
    Leads ShedsAtMostOne (advanceShares : AnimatorStep σ α Unit) := by
  apply leads_bind_through (fun _ _ => .inl) fades_then_sheds advance_branches_fades
  intro _
  exact leads_bind_through (fun _ _ => .inl) fades_then_sheds advance_leaves_fades
    (fun _ => shed_sheds_at_most_one)

theorem reveal_to_sheds_at_most_one (nowMs : α) (animator : Animator σ α) :
    animator.ShedsAtMostOne ((revealTo nowMs).run animator).2 ∧
      (animator.phase ≠ .revealing → animator.motes = ((revealTo nowMs).run animator).2.motes) := by
  rw [run_reveal_to]
  by_cases revealing : animator.phase = .revealing
  · rw [if_pos revealing, run_advance_reveal]
    refine ⟨?_, fun unrevealing => absurd revealing unrevealing⟩
    exact leads_bind_through (fun _ _ => id) sheds_then_subsides advance_shares_sheds_at_most_one
      (fun _ => settle_subsides) (animator.atTime nowMs)
  · rw [if_neg revealing]
    exact ⟨.inl (ParticleSystem.fades_refl _), fun _ => rfl⟩

/-- After the reveal of a frame its motes only fade. -/
theorem heed_subsides (frame : Frame α) (animator : Animator σ α) :
    ((revealTo frame.timestampMs).run animator).2.Subsides ((heed frame).run animator).2 := by
  rw [heed, run_bind, run_get]
  dsimp only
  rw [run_bind]
  rcases (revealTo frame.timestampMs).run animator with ⟨fault | _, revealed⟩
  · exact subsides_refl revealed
  · refine leads_bind subsides_trans (drift_motes_subsides _) (fun _ => ?_) revealed
    exact leads_modify (fun _ => ⟨ParticleSystem.fades_refl _, rfl⟩)

/-- A frame sheds one mote at the most, and only in a reveal. -/
theorem heed_sheds_at_most_one (frame : Frame α) (animator : Animator σ α) :
    let after := ((heed frame).run animator).2
    animator.motes.FadesTo after.motes ∨
      animator.phase = .revealing ∧ animator.motes.GainsOne after.motes ∧
        after.mayShed = .ok true := by
  intro after
  obtain ⟨sheds, rests⟩ := reveal_to_sheds_at_most_one frame.timestampMs animator
  have subsides := heed_subsides frame animator
  by_cases revealing : animator.phase = .revealing
  · exact (sheds_then_subsides _ _ _ sheds subsides).imp_right fun gains => ⟨revealing, gains⟩
  · refine .inl ?_
    rw [rests revealing]
    exact subsides.motes

/-- No part of a frame changes whether the run was started with motes. -/
theorem enabled_kept :
    KeptByFrames (fun before after : Animator σ α =>
      after.particlesEnabled = before.particlesEnabled) where
  refl _ := rfl
  trans _ _ _ early late := late.trans early
  at_time _ _ := rfl
  branches := by
    intro animator
    rw [run_advance_branches]
    cases animator.settings.branchQuota animator.branches.length with
    | error fault => rfl
    | ok quota => rfl
  leaves := by
    intro animator
    obtain ⟨_, _, _, advanced, _⟩ := advance_leaves_replaces animator
    rw [advanced]
  shed := by
    intro animator
    obtain ⟨_, _, shedding⟩ := shed_changes_motes animator
    rw [shedding]
  settle := by
    intro animator
    rcases settle_changes_phase animator with unchanged | ⟨settled, _, _⟩
    · rw [unchanged]
    · rw [settled]
  drift := by
    intro dtMs animator
    obtain ⟨_, drifted⟩ := drift_changes_motes dtMs animator
    rw [drifted]
  sampled _ _ := rfl

end Animator

/-- A scene has the motes of the moment when it was taken. -/
theorem Session.scene_particles (session : Session σ α) (still : Still α) :
    (session.scene still).particles = still.scene.particles := by
  rw [Session.scene]
  split
  · rfl
  · split
    · rfl
    · rfl

theorem keeps_run_of_goes_on {happening : Happening α} (goesOn : happening.endsRun = false) :
    happening.clearsRun = false := by
  cases happening with
  | began plan receiver subscription nowMs => cases goesOn
  | reset => cases goesOn
  | _ => rfl

/-! Motes in the course of a run. -/

variable [Scalar α]

/-- A frame, and what it leaves behind, allow a mote to rise in a run. -/
structure Course.ShedsAt (settings : AnimationSettings α) (frame : Frame α) (after : Animator σ α)
    (course : Course α) : Prop where
  enabled : course.plan.particlesEnabled = true
  late : ∃ duration, settings.revealDurationMs course.plan.branches.length = .ok duration ∧
    duration < elapsedAt course.startedAtMs frame
  mostly : course.plan.leaves = [] ∨
    ∃ share : α, Scalar.ratio after.leafCursor course.plan.leaves.length = .ok share ∧
      settings.mostlyRevealedFraction ≤ share

/-- A run that may have motes was started with them, and some frame came later
than its reveal lasts. -/
structure Course.MayHaveMotes (settings : AnimationSettings α) (course : Course α) : Prop where
  enabled : course.plan.particlesEnabled = true
  late : ∃ duration, settings.revealDurationMs course.plan.branches.length = .ok duration ∧
    course.framesAfter duration ≠ []

theorem may_have_motes_after_shedding {settings : AnimationSettings α} {frame : Frame α}
    {after : Animator σ α} {course : Course α} (sheds : course.ShedsAt settings frame after) :
    (course.heeding frame).MayHaveMotes settings := by
  obtain ⟨duration, lasts, late⟩ := sheds.late
  refine ⟨sheds.enabled, duration, lasts, ?_⟩
  rw [Course.frames_after_heeding, if_pos late]
  simp

theorem may_have_motes_heeding {settings : AnimationSettings α} {course : Course α}
    (motes : course.MayHaveMotes settings) (frame : Frame α) :
    (course.heeding frame).MayHaveMotes settings := by
  obtain ⟨duration, lasts, late⟩ := motes.late
  refine ⟨motes.enabled, duration, lasts, ?_⟩
  rw [Course.frames_after_heeding]
  simp [late]

/-- A run that goes on keeps its motes accounted for. -/
theorem may_have_motes_later {settings : AnimationSettings α} {course : Course α}
    (motes : course.MayHaveMotes settings) {since : List (Happening α)}
    (keeps : ∀ happening ∈ since, happening.clearsRun = false) :
    ∃ further, since.foldl Happening.courseAfter (some course) = some further ∧
      further.MayHaveMotes settings := by
  induction since generalizing course with
  | nil => exact ⟨course, rfl, motes⟩
  | cons happening since induction =>
      have here := keeps happening (List.mem_cons_self ..)
      have later : ∀ other ∈ since, other.clearsRun = false :=
        fun other member => keeps other (List.mem_cons_of_mem _ member)
      cases happening with
      | began plan receiver subscription nowMs => cases here
      | reset => cases here
      | heeded frame => exact induction (may_have_motes_heeding motes frame) later
      | stopped => exact induction motes later
      | emitted frame => exact induction motes later
      | published frame scene => exact induction motes later
      | handed receiver frame scene => exact induction motes later

namespace Animator

/-- The animator carries the run of a course, if it has one, and only such motes
as the run may have. -/
def Accounts (settings : AnimationSettings α) (animator : Animator σ α) :
    Option (Course α) → Prop
  | none => animator.AtRest
  | some course => animator.Carries settings course.plan course.startedAtMs ∧
      animator.particlesEnabled = course.plan.particlesEnabled ∧
      (animator.motes.particles ≠ [] → course.MayHaveMotes settings)

theorem motes_accounted {settings : AnimationSettings α} {animator : Animator σ α}
    {course? : Option (Course α)} (accounts : animator.Accounts settings course?)
    (motes : animator.motes.particles ≠ []) :
    ∃ course, course? = some course ∧ course.MayHaveMotes settings := by
  cases course? with
  | none => exact absurd accounts.motes motes
  | some course => exact ⟨course, rfl, accounts.2.2 motes⟩

/-- What decides whether motes may be shed, told by the course of the run. -/
theorem sheds_at_of_may_shed {settings : AnimationSettings α} {course : Course α} {frame : Frame α}
    {after : Animator σ α} (carries : after.Carries settings course.plan course.startedAtMs)
    (enabled : after.particlesEnabled = course.plan.particlesEnabled)
    (elapsed : after.elapsedMs = elapsedAt course.startedAtMs frame)
    (may : after.mayShed = .ok true) : course.ShedsAt settings frame after := by
  obtain ⟨performs, _, rfl⟩ := carries
  obtain ⟨on, late, mostly⟩ := after.may_shed_iff.mp may
  have leavesLength := performs.leaves.as_many
  rw [performs.branches.as_many, elapsed] at late
  refine ⟨enabled ▸ on, late, ?_⟩
  rw [← List.length_eq_zero_iff, ← leavesLength, List.length_eq_zero_iff]
  exact mostly

variable [ChanceSource σ α]

/-- Motes are taken away, or fade, or one rises with a frame that sheds it. -/
theorem change_motes {settings : AnimationSettings α} (happening : Happening α)
    (course? : Option (Course α)) (animator : Animator σ α)
    (accounts : animator.Accounts settings course?) :
    let after := happening.change animator
    happening.clearsRun = true ∧ after.motes.particles = [] ∨
      animator.motes.FadesTo after.motes ∨
      ∃ frame course, happening = .heeded frame ∧ course? = some course ∧
        animator.phase = .revealing ∧ animator.motes.GainsOne after.motes ∧
        course.ShedsAt settings frame after := by
  intro after
  cases happening with
  | began plan receiver subscription nowMs => exact .inl ⟨rfl, rfl⟩
  | reset => exact .inl ⟨rfl, rfl⟩
  | stopped => exact .inr (.inl (ParticleSystem.fades_refl _))
  | emitted frame => exact .inr (.inl (ParticleSystem.fades_refl _))
  | published frame scene => exact .inr (.inl (ParticleSystem.fades_refl _))
  | handed receiver frame scene => exact .inr (.inl (ParticleSystem.fades_refl _))
  | heeded frame =>
      cases course? with
      | none =>
          have unchanged : after = animator := if_pos accounts.idle
          rw [unchanged]
          exact .inr (.inl (ParticleSystem.fades_refl _))
      | some course =>
          obtain ⟨carries, enabled, _⟩ := accounts
          have heeded : after = ((heed frame).run animator).2 := if_neg carries.performs.awake
          have carriesStill : after.Carries settings course.plan course.startedAtMs :=
            change_carries rfl carries
          have enabledStill : after.particlesEnabled = course.plan.particlesEnabled := by
            rw [heeded]
            exact (heed_leads enabled_kept frame animator).trans enabled
          have elapsed : after.elapsedMs = elapsedAt course.startedAtMs frame := by
            rw [heeded, heed_elapsed, carries.started]
          rcases heed_sheds_at_most_one frame animator with fades | ⟨revealing, gains, may⟩
          · rw [← heeded] at fades
            exact .inr (.inl fades)
          · rw [← heeded] at gains may
            exact .inr (.inr ⟨frame, course, rfl, rfl, revealing, gains,
              sheds_at_of_may_shed carriesStill enabledStill elapsed may⟩)

theorem change_accounts {settings : AnimationSettings α} (happening : Happening α)
    (course? : Option (Course α)) (animator : Animator σ α) (same : animator.settings = settings)
    (accounts : animator.Accounts settings course?) :
    (happening.change animator).Accounts settings (happening.courseAfter course?) := by
  have changed := change_motes happening course? animator accounts
  cases happening with
  | began plan receiver subscription nowMs =>
      have launched := launched_carries plan receiver subscription nowMs animator
      rw [same] at launched
      exact ⟨launched, rfl, fun motes => absurd rfl motes⟩
  | reset => exact idle_at_rest animator
  | stopped =>
      cases course? with
      | none => exact change_faithful .stopped none animator accounts
      | some course => exact ⟨change_carries rfl accounts.1, accounts.2⟩
  | emitted frame => exact accounts
  | published frame scene => exact accounts
  | handed receiver frame scene => exact accounts
  | heeded frame =>
      cases course? with
      | none => exact change_faithful (.heeded frame) none animator accounts
      | some course =>
          obtain ⟨carries, enabled, motes⟩ := accounts
          refine ⟨change_carries rfl carries, ?_, ?_⟩
          · rw [Happening.change, if_neg carries.performs.awake]
            exact (heed_leads enabled_kept frame animator).trans enabled
          · intro remain
            rcases changed with ⟨clears, _⟩ | fades | ⟨_, _, here, there, _, _, sheds⟩
            · cases clears
            · exact may_have_motes_heeding
                (motes fun empty => remain (ParticleSystem.empty_of_fades fades empty)) frame
            · cases here
              cases there
              exact may_have_motes_after_shedding sheds

theorem replay_accounts {settings : AnimationSettings α} (history : List (Happening α))
    (course? : Option (Course α)) (animator : Animator σ α) (same : animator.settings = settings)
    (accounts : animator.Accounts settings course?) :
    (replay history animator).Accounts settings (history.foldl Happening.courseAfter course?) := by
  induction history generalizing course? animator with
  | nil => exact accounts
  | cons happening history induction =>
      exact induction _ _ ((change_keeps_settings happening animator).trans same)
        (change_accounts happening course? animator same accounts)

/-- Once a run has settled its motes only fade. -/
theorem replay_settled_fades {history : List (Happening α)}
    (keeps : ∀ happening ∈ history, happening.clearsRun = false) {animator : Animator σ α}
    (settled : animator.phase = .settled) :
    animator.motes.FadesTo (replay history animator).motes := by
  induction history generalizing animator with
  | nil => exact ParticleSystem.fades_refl _
  | cons happening history induction =>
      have here := keeps happening (List.mem_cons_self ..)
      have display := Happening.change_settled_display here animator settled
      have later := induction (fun other member => keeps other (List.mem_cons_of_mem _ member))
        (display.phase.trans settled)
      refine ParticleSystem.fades_trans ?_ later
      cases happening with
      | began plan receiver subscription nowMs => cases here
      | reset => cases here
      | heeded frame =>
          rw [Happening.change]
          split
          · exact ParticleSystem.fades_refl _
          · rcases heed_sheds_at_most_one frame animator with fades | ⟨revealing, _⟩
            · exact fades
            · rw [settled] at revealing
              cases revealing
      | stopped => exact ParticleSystem.fades_refl _
      | emitted frame => exact ParticleSystem.fades_refl _
      | published frame scene => exact ParticleSystem.fades_refl _
      | handed receiver frame scene => exact ParticleSystem.fades_refl _

end Animator

/-- The scene that a happening shows to somebody. -/
def Happening.shown? : Happening α → Option (Scene α)
  | .published _ scene | .handed _ _ scene => some scene
  | _ => none

section History

variable [ChanceSource σ α] {first : Animator σ α} (atRest : first.AtRest)

include atRest

/-- At every moment of a history, motes are accounted for by the course of the run. -/
theorem motes_of_moment_accounted (history : List (Happening α))
    (motes : (Animator.replay history first).motes.particles ≠ []) :
    ∃ course, courseOf history = some course ∧ course.MayHaveMotes first.settings :=
  Animator.motes_accounted (Animator.replay_accounts history none first rfl atRest) motes

/-- The motes of a scene are accounted for when it is shown, also when that is only after
the viewers have looked at it. -/
theorem motes_of_shown_accounted {history earlier later : List (Happening α)}
    (lawful : Lawful first history) {happening : Happening α} {scene : Scene α}
    (split : history = earlier ++ happening :: later) (shown : happening.shown? = some scene)
    (motes : scene.particles ≠ []) :
    ∃ course, courseOf earlier = some course ∧ course.MayHaveMotes first.settings := by
  have allowed := lawful earlier happening later split
  cases happening with
  | published frame other =>
      cases shown
      obtain ⟨_, taken, _⟩ := allowed
      rw [taken] at motes
      exact motes_of_moment_accounted atRest earlier motes
  | handed receiver frame other =>
      cases shown
      obtain ⟨⟨plan, since, underway, _, published⟩, _⟩ := allowed
      obtain ⟨⟨before, subscription, nowMs, begun⟩, goesOn⟩ := underway
      obtain ⟨early, late, rfl⟩ := List.append_of_mem published
      -- What was handed over was published since the run began, and it has gone on from there.
      let moment := before ++ .began plan receiver subscription nowMs :: early
      have whole : earlier = moment ++ .published frame scene :: late := by
        rw [begun, List.append_assoc, List.cons_append]
      obtain ⟨_, taken, _⟩ := lawful moment (.published frame scene)
        (late ++ .handed receiver frame scene :: later)
        (by rw [split, whole, List.append_assoc, List.cons_append])
      rw [taken] at motes
      obtain ⟨course, there, may⟩ := motes_of_moment_accounted atRest moment motes
      have keeps : ∀ other ∈ .published frame scene :: late, other.clearsRun = false :=
        fun other member => keeps_run_of_goes_on (goesOn other (List.mem_append_right _ member))
      rw [whole, courseOf, List.foldl_append, ← courseOf, there]
      exact may_have_motes_later may keeps
  | _ => cases shown

end History

/-- In any session, whatever the host commands, however receivers react and whatever the times of
the frames are: a mote only rises with a frame that finds the run revealing and comes later than the
reveal of the run lasts, in a run that was started with motes, and with most of its leaves revealed
after the frame; no frame brings more than one. Starts and resets take all motes away, and whatever
else happens lets them fade. So a moment, a scene that is shown or one that was kept has no motes
unless its run was started with them and some frame of it was late enough; and once a run has
settled its motes only fade. A tree is shown with motes when its score is above the threshold. -/
theorem motes_only_rise_late_in_reveals [ChanceSource σ α] (clockMs : α)
    (settings : AnimationSettings α) (particleSettings : ParticleSettings α) (surface : Surface α)
    (random : σ) (sampler : FrameSampler) (batches : List (List (Command α))) :
    let first : Animator σ α := .initial settings particleSettings surface random sampler
    let driven := Session.drive batches (.initial clockMs first)
    driven.2.animator = Animator.replay driven.1 first ∧
      (∀ earlier happening later, driven.1 = earlier ++ happening :: later →
        let before := Animator.replay earlier first
        let after := Animator.replay (earlier ++ [happening]) first
        happening.clearsRun = true ∧ after.motes.particles = [] ∨
          before.motes.FadesTo after.motes ∨
          ∃ frame course, happening = .heeded frame ∧ courseOf earlier = some course ∧
            before.phase = .revealing ∧ before.motes.GainsOne after.motes ∧
            course.ShedsAt settings frame after) ∧
      (∀ earlier later, driven.1 = earlier ++ later →
        (Animator.replay earlier first).motes.particles ≠ [] →
          ∃ course, courseOf earlier = some course ∧ course.MayHaveMotes settings) ∧
      (∀ earlier happening later scene, driven.1 = earlier ++ happening :: later →
        happening.shown? = some scene → scene.particles ≠ [] →
          ∃ course, courseOf earlier = some course ∧ course.MayHaveMotes settings) ∧
      (∀ label scene, driven.2.kept? label = some scene →
        ∃ earlier later, driven.1 = earlier ++ later ∧
          scene = driven.2.scene (Animator.replay earlier first).still ∧
          (scene.particles ≠ [] →
            ∃ course, courseOf earlier = some course ∧ course.MayHaveMotes settings)) ∧
      (∀ earlier since later, driven.1 = earlier ++ (since ++ later) →
        (Animator.replay earlier first).phase = .settled →
          (∀ happening ∈ since, happening.clearsRun = false) →
            (Animator.replay earlier first).motes.FadesTo
              (Animator.replay (earlier ++ since) first).motes) ∧
      (∀ earlier later, driven.1 = earlier ++ later →
        (Animator.replay earlier first).motes.settings = particleSettings) ∧
      ∀ (session : Session σ α) (growth : Growth α) (tree : Tree α) (reactions : Reactions α),
        growth.outcome = .ok tree →
          let plan := RunPlan.ofTree session.animator.motes.settings tree
          (plan.particlesEnabled = true ↔
              session.animator.motes.settings.scoreThreshold < tree.score) ∧
            ∃ subscription,
              ((Session.startTree growth (some reactions)).run session).2.chronicle =
                session.chronicle.push
                  (.began plan session.receivers.size subscription session.clockMs) := by
  intro first driven
  have atRest : first.AtRest := ⟨rfl, rfl, rfl, rfl, rfl, rfl, rfl, rfl⟩
  have orderly := Session.drive_initial_orderly clockMs first rfl batches
  have lawful : Lawful first driven.1 := by
    have whole := orderly.lawful
    rw [Session.story, Session.rested, List.append_nil] at whole
    exact whole
  have archived := Session.drive_archived batches (.initial clockMs first)
  refine ⟨archived.animator, ?_, ?_, ?_, ?_, ?_, ?_, ?_⟩
  · intro earlier happening later _
    rw [replay_append]
    exact Animator.change_motes happening (courseOf earlier) _
      (Animator.replay_accounts earlier none first rfl atRest)
  · intro earlier later _ motes
    exact motes_of_moment_accounted atRest earlier motes
  · intro earlier happening later scene split shown motes
    exact motes_of_shown_accounted atRest lawful split shown motes
  · intro label scene kept
    obtain ⟨still, found, rfl⟩ := Option.map_eq_some_iff.mp kept
    rcases archived.album label still found with before | ⟨earlier, later, split, rfl⟩
    · cases before
    · refine ⟨earlier, later, split, rfl, fun motes => ?_⟩
      rw [Session.scene_particles] at motes
      exact motes_of_moment_accounted atRest earlier motes
  · intro earlier since later _ settled keeps
    rw [replay_append]
    exact Animator.replay_settled_fades keeps settled
  · intro earlier later _
    exact (Animator.replay_same_make earlier first).motes.settings
  · intro session growth tree reactions grown plan
    refine ⟨decide_eq_true_iff, ?_⟩
    rw [Session.run_start_tree, grown]
    obtain ⟨remarks, started⟩ := Session.run_start plan reactions
      { session with remarks := session.remarks ++ growth.remarks }
    dsimp only
    rw [started]
    exact ⟨_, rfl⟩

/-! A run with motes whose first frame is late, so that a mote rises; then the clock goes
back, which takes nothing away, and goes on to the end of the run, when the mote has
faded and another one has risen. -/

def motePlan : RunPlan Float := { emptyPlan with particlesEnabled := true }

def moteHost : List (List (Command Float)) :=
  [[.start motePlan (some []), .setClock 1600.0, .tick, .setClock 8.0, .tick, .keep "back"],
    [.setClock 2600.0, .tick, .setClock 9000.0, .tick]]

def moteAnimator : Animator Chance.Source Float :=
  .initial .usual .usual ⟨600.0, 600.0⟩ (.ofValues [0.01]) ⟨1, []⟩

def moteSession : List (Happening Float) × Session Chance.Source Float :=
  Session.drive moteHost (.initial 0.0 moteAnimator)

def moteMoment (count : Nat) : Animator Chance.Source Float :=
  Animator.replay (moteSession.1.take count) moteAnimator

theorem late_frame_sheds_mote :
    (∃ frame course, courseOf (moteSession.1.take 2) = some course ∧
        (moteMoment 2).motes.GainsOne (moteMoment 3).motes ∧
        course.ShedsAt .usual frame (moteMoment 3)) ∧
      (∃ scene earlier later course, moteSession.2.kept? "back" = some scene ∧
        scene.elapsedMs = 8.0 ∧ scene.particles.length = 1 ∧ moteSession.1 = earlier ++ later ∧
        courseOf earlier = some course ∧ course.MayHaveMotes .usual) ∧
      (moteMoment 11).motes.FadesTo (moteMoment 17).motes := by
  have whole := motes_only_rise_late_in_reveals (0.0 : Float) .usual .usual ⟨600.0, 600.0⟩
    (Chance.Source.ofValues [0.01]) ⟨1, []⟩ moteHost
  dsimp only at whole
  rw [← moteAnimator, ← moteSession] at whole
  obtain ⟨_, rise, _, _, kept, settled, _⟩ := whole
  refine ⟨?_, ?_, ?_⟩
  · have uncleared : moteSession.1[2]?.map Happening.clearsRun = some false := by decide +kernel
    have risen : (moteMoment 3).motes.risen ≠ (moteMoment 2).motes.risen := by decide +kernel
    cases there : moteSession.1[2]? with
    | none =>
        rw [there] at uncleared
        cases uncleared
    | some happening =>
        obtain ⟨bound, same⟩ := List.getElem?_eq_some_iff.mp there
        have split : moteSession.1 =
            moteSession.1.take 2 ++ happening :: moteSession.1.drop 3 := by
          rw [← same, List.getElem_cons_drop, List.take_append_drop]
        have upTo : moteSession.1.take 2 ++ [happening] = moteSession.1.take 3 := by
          rw [← Option.toList_some, ← there]
          exact List.take_add_one.symm
        rw [there] at uncleared
        rcases rise _ happening _ split with
          ⟨clears, _⟩ | fades | ⟨frame, course, _, on, _, gains, sheds⟩
        · rw [Option.some.inj uncleared] at clears
          cases clears
        · rw [upTo, ← moteMoment, ← moteMoment] at fades
          exact absurd fades.risen risen
        · rw [upTo] at gains sheds
          exact ⟨frame, course, on, gains, sheds⟩
  · have found : (moteSession.2.kept? "back").map
        (fun scene => (scene.elapsedMs, scene.particles.length)) = some (8.0, 1) := by
      decide +kernel
    obtain ⟨scene, there, shows⟩ := Option.map_eq_some_iff.mp found
    obtain ⟨elapsed, one⟩ := Prod.mk.inj shows
    obtain ⟨earlier, later, split, _, accounted⟩ := kept "back" scene there
    obtain ⟨course, on, may⟩ := accounted (List.length_pos_iff.mp (by omega))
    exact ⟨scene, earlier, later, course, there, elapsed, one, split, on, may⟩
  · have phase : (moteMoment 11).phase = .settled := by decide +kernel
    have uncleared : ((moteSession.1.drop 11).take 6).all
        (fun happening => !happening.clearsRun) = true := by decide +kernel
    have faded := settled (moteSession.1.take 11) ((moteSession.1.drop 11).take 6)
      (moteSession.1.drop 17)
      (by rw [← List.drop_drop (i := 6) (j := 11), List.take_append_drop, List.take_append_drop])
      phase (fun happening member => by simpa using List.all_eq_true.mp uncleared happening member)
    rw [← List.take_add] at faded
    exact faded

end Arboretum

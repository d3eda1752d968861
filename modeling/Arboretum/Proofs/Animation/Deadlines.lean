import Arboretum.Proofs.Number.Exact
import Arboretum.Proofs.Animation.Faults
import Arboretum.Proofs.Animation.MoteLine
import Mathlib.Algebra.Order.Floor.Ring
import Mathlib.Tactic.Linarith

/-!
How soon everything is shown, over exact numbers. The share of a frame is a count divided by a
number of frames, rounded up; so that many frames, rounded up in turn, show all that was counted,
and the last of them still has something to show unless one entry a frame is enough. When the
frames of a run come at equal steps, those up to the end of the reveal are as many as the branches
need, and so with the leaves from their beginning on; the first frame that finds both shown and
comes late enough settles the run.
-/

namespace Arboretum

set_option autoImplicit false

namespace Exact

variable {count : Int} {frames : ℝ}

/-- As many shares as there are frames, rounded up, are all that was counted. -/
theorem count_le_shares (positive : 0 < frames) :
    count ≤ max 1 ⌈(count : ℝ) / frames⌉ * ⌈frames⌉ := by
  have share : (count : ℝ) / frames ≤ (max 1 ⌈(count : ℝ) / frames⌉ : Int) :=
    (Int.le_ceil _).trans (by exact_mod_cast le_max_right ..)
  have one : (0 : ℝ) ≤ (max 1 ⌈(count : ℝ) / frames⌉ : Int) := by
    exact_mod_cast (zero_le_one' Int).trans (le_max_left ..)
  have all : (count : ℝ) ≤ (max 1 ⌈(count : ℝ) / frames⌉ : Int) * (⌈frames⌉ : ℝ) :=
    calc (count : ℝ) = (count : ℝ) / frames * frames := (div_mul_cancel₀ _ positive.ne').symm
      _ ≤ (max 1 ⌈(count : ℝ) / frames⌉ : Int) * frames :=
        mul_le_mul_of_nonneg_right share positive.le
      _ ≤ (max 1 ⌈(count : ℝ) / frames⌉ : Int) * (⌈frames⌉ : ℝ) :=
          mul_le_mul_of_nonneg_left (Int.le_ceil frames) one
  exact_mod_cast all

/-- With one entry less in each share, something would be left. -/
theorem smaller_shares_lt_count (positive : 0 < frames) {share : Int}
    (shared : share = max 1 ⌈(count : ℝ) / frames⌉) :
    ((share : ℝ) - 1) * frames < count ∨ share = 1 := by
  rcases le_total ⌈(count : ℝ) / frames⌉ 1 with few | many
  · exact .inr (shared.trans (max_eq_left few))
  · rw [max_eq_right many] at shared
    have below : (share : ℝ) - 1 < (count : ℝ) / frames := by
      rw [shared]
      linarith [Int.ceil_lt_add_one ((count : ℝ) / frames)]
    exact .inl ((lt_div_iff₀ positive).mp below)

end Exact

namespace AnimationSettings

variable {settings : AnimationSettings ℝ}

theorem reveal_duration_exact (settings : AnimationSettings ℝ) (count : Int) :
    settings.revealDurationMs count =
      .ok (max settings.minRevealMs (count * settings.revealMsPerBranch)) := by
  rw [← Exact.larger_eq]
  rfl

theorem times_told (settings : AnimationSettings ℝ) (count : Int) :
    ∃ duration, settings.revealDurationMs count = .ok duration ∧
      settings.leafStartMs count = .ok (duration * settings.leafRevealFraction) ∧
      settings.settleAfterMs count = .ok (duration + settings.settleTailMs) :=
  ⟨_, rfl, rfl, rfl⟩

theorem branch_quota_exact {count : Int} {duration : ℝ}
    (lasts : settings.revealDurationMs count = .ok duration) (long : 0 < duration)
    (steps : 0 < settings.frameIntervalMs) :
    settings.branchQuota count =
      .ok (max 1 ⌈(count : ℝ) / (duration / settings.frameIntervalMs)⌉) := by
  have frames : duration / settings.frameIntervalMs ≠ 0 := (div_pos long steps).ne'
  unfold branchQuota
  rw [lasts]
  change (do
    let frames ← Scalar.quotient duration settings.frameIntervalMs
    return max 1 (← Scalar.roundUp (← Scalar.quotient (count : ℝ) frames))) = _
  rw [Exact.quotient_eq steps.ne']
  change (do return max 1 (← Scalar.roundUp (← Scalar.quotient (count : ℝ) _))) = _
  rw [Exact.quotient_eq frames]
  rfl

theorem leaf_quota_exact (count : Int) (frames : 1 ≤ settings.leafRevealFrames) :
    settings.leafQuota count = .ok (max 1 ⌈(count : ℝ) / settings.leafRevealFrames⌉) := by
  unfold leafQuota Scalar.ratio
  rw [if_neg (by omega)]
  rfl

/-- As many shares as there are frames for the leaves are all leaves. -/
theorem count_le_leaf_shares (count : Int) (frames : 1 ≤ settings.leafRevealFrames) :
    count ≤ max 1 ⌈(count : ℝ) / settings.leafRevealFrames⌉ * settings.leafRevealFrames := by
  have positive : (0 : ℝ) < settings.leafRevealFrames := by exact_mod_cast frames
  have enough : count ≤ _ := Exact.count_le_shares positive
  rwa [Int.ceil_intCast] at enough

end AnimationSettings

namespace Course

variable {course : Course ℝ} {intervalMs timeMs : ℝ}

/-- The frames of the course came one interval after its start, two intervals
after it, and so on. -/
def EvenlyTimed (intervalMs : ℝ) (course : Course ℝ) : Prop :=
  ∀ (index : Nat) (frame : Frame ℝ), course.frames[index]? = some frame →
    frame.timestampMs = course.startedAtMs + (index + 1) * intervalMs

/-- A frame of the course has come when it had lasted for a time, or later. -/
def Reached (timeMs : ℝ) (course : Course ℝ) : Prop :=
  ∃ frame ∈ course.frames, timeMs ≤ elapsedAt course.startedAtMs frame

theorem elapsed_of_evenly_timed (timed : course.EvenlyTimed intervalMs) (steps : 0 < intervalMs)
    {index : Nat} {frame : Frame ℝ} (there : course.frames[index]? = some frame) :
    elapsedAt course.startedAtMs frame = (index + 1) * intervalMs := by
  have positive : (0 : ℝ) ≤ (index + 1) * intervalMs := by positivity
  rw [elapsedAt, timed index frame there, add_sub_cancel_left, Exact.larger_eq, Exact.zero_eq,
    max_eq_right positive]

/-- A time is reached with as many frames as there are intervals in it, rounded up. -/
theorem frames_of_reached (timed : course.EvenlyTimed intervalMs) (steps : 0 < intervalMs)
    (reached : course.Reached timeMs) : ⌈timeMs / intervalMs⌉ ≤ course.frames.length := by
  obtain ⟨frame, member, late⟩ := reached
  obtain ⟨index, there⟩ := List.getElem?_of_mem member
  have within := (List.getElem?_eq_some_iff.mp there).1
  rw [elapsed_of_evenly_timed timed steps there] at late
  have enough : timeMs / intervalMs ≤ index + 1 := (div_le_iff₀ steps).mpr late
  have ceiling : ⌈timeMs / intervalMs⌉ ≤ (index : Int) + 1 :=
    Int.ceil_le.mpr (by exact_mod_cast enough)
  omega

/-- What was reached was reached by the last frame. -/
theorem last_reaches {frame : Frame ℝ} (timed : (course.heeding frame).EvenlyTimed intervalMs)
    (steps : 0 < intervalMs) (reached : (course.heeding frame).Reached timeMs) :
    timeMs ≤ elapsedAt course.startedAtMs frame := by
  obtain ⟨other, member, late⟩ := reached
  obtain ⟨index, there⟩ := List.getElem?_of_mem member
  have last : (course.heeding frame).frames[course.frames.length]? = some frame :=
    List.getElem?_concat_length ..
  have within := (List.getElem?_eq_some_iff.mp there).1
  have length : (course.heeding frame).frames.length = course.frames.length + 1 :=
    List.length_append
  have earlier : (index : ℝ) ≤ course.frames.length := by
    exact_mod_cast (by omega : index ≤ course.frames.length)
  have lasted := elapsed_of_evenly_timed timed steps last
  rw [elapsed_of_evenly_timed timed steps there] at late
  change elapsedAt course.startedAtMs frame = _ at lasted
  rw [lasted]
  exact late.trans (mul_le_mul_of_nonneg_right (by linarith) steps.le)

end Course

/-- Where every entry is revealed, each stands to a given one as a revealed entry does. -/
theorem stands_of_all_revealed {β : Type} {stands : Bool → β → β → Prop} {given shown : List β}
    {cursor : Nat} (revealed : RevealedUpTo stands given shown cursor)
    (all : cursor = given.length) :
    ∀ new ∈ shown, ∃ old, stands true old new := by
  intro new member
  obtain ⟨index, there⟩ := List.getElem?_of_mem member
  have within : index < given.length :=
    revealed.as_many ▸ (List.getElem?_eq_some_iff.mp there).1
  have stood := revealed.stands_at index given[index] new (List.getElem?_eq_getElem within) there
  rw [decide_eq_true (all ▸ within)] at stood
  exact ⟨given[index], stood⟩

/-- As many shares as the entries take show all of them. -/
theorem shares_show_all {count come : Nat} {share needed : Int} (one : 1 ≤ share)
    (enough : (count : Int) ≤ share * needed) (have_come : needed ≤ come) :
    min count (come * share.toNat) = count := by
  have more : share * needed ≤ share * come := Int.mul_le_mul_of_nonneg_left have_come (by omega)
  have shares : ((come * share.toNat : Nat) : Int) = share * come := by
    rw [Nat.cast_mul, Int.toNat_of_nonneg (by omega), Int.mul_comm]
  omega

variable {σ : Type}

/-- A course whose frames have come at equal steps up to the time when everything is due: a
frame at the end of the reveal or later, as many late frames as the leaves take, and a
frame at the end of the rest. -/
structure Course.Due (settings : AnimationSettings ℝ) (course : Course ℝ) : Prop where
  timed : course.EvenlyTimed settings.frameIntervalMs
  branches : ∃ duration, settings.revealDurationMs course.plan.branches.length = .ok duration ∧
    0 < duration ∧ course.Reached duration
  leaves : ∃ leafStart, settings.leafStartMs course.plan.branches.length = .ok leafStart ∧
    settings.leafRevealFrames ≤ (course.framesAfter leafStart).length
  settling : ∃ settleAfter, settings.settleAfterMs course.plan.branches.length = .ok settleAfter ∧
    course.Reached settleAfter

namespace Animator

variable {settings : AnimationSettings ℝ} {course : Course ℝ} {animator : Animator σ ℝ}
  {leafStart : ℝ} {branchQuota leafQuota : Int}

section Paced

variable (paced : animator.Paced leafStart branchQuota leafQuota course)

include paced

theorem branches_all_shown {duration : ℝ} (steps : 0 < settings.frameIntervalMs)
    (lasts : settings.revealDurationMs course.plan.branches.length = .ok duration)
    (long : 0 < duration)
    (told : settings.branchQuota course.plan.branches.length = .ok branchQuota)
    (timed : course.EvenlyTimed settings.frameIntervalMs) (reached : course.Reached duration) :
    animator.branchCursor = course.plan.branches.length ∧
      ∀ branch ∈ animator.branches, branch.revealed = true := by
  have share := (AnimationSettings.branch_quota_exact lasts long steps).symm.trans told
  cases share
  have all : animator.branchCursor = course.plan.branches.length := by
    rw [paced.branch_cursor]
    exact shares_show_all (le_max_left ..) (Exact.count_le_shares (div_pos long steps))
      (Course.frames_of_reached timed steps reached)
  refine ⟨all, fun branch member => ?_⟩
  obtain ⟨_, rfl⟩ := stands_of_all_revealed paced.performs.branches all branch member
  rfl

theorem leaves_all_shown (frames : 1 ≤ settings.leafRevealFrames)
    (told : settings.leafQuota course.plan.leaves.length = .ok leafQuota)
    (late : settings.leafRevealFrames ≤ (course.framesAfter leafStart).length) :
    animator.leafCursor = course.plan.leaves.length ∧
      ∀ leaf ∈ animator.leaves, leaf.revealed = true := by
  have share := (AnimationSettings.leaf_quota_exact _ frames).symm.trans told
  cases share
  have all : animator.leafCursor = course.plan.leaves.length := by
    rw [paced.leaf_cursor]
    exact shares_show_all (le_max_left ..) (AnimationSettings.count_le_leaf_shares _ frames) late
  refine ⟨all, fun leaf member => ?_⟩
  obtain ⟨_, _, rfl⟩ := stands_of_all_revealed paced.performs.leaves all leaf member
  rfl

end Paced

end Animator

variable [ChanceSource σ ℝ]

/-- Over exact numbers every number of a frame is told, so only the source of
chance is left to fail. -/
theorem refuses_of_stumbles {settings : AnimationSettings ℝ} {plan : RunPlan ℝ} {duration : ℝ}
    {fault : Fault} (steps : 0 < settings.frameIntervalMs) (frames : 1 ≤ settings.leafRevealFrames)
    (lasts : settings.revealDurationMs plan.branches.length = .ok duration) (long : 0 < duration)
    (stumbles : Stumbles σ settings plan fault) : Refuses σ fault := by
  cases stumbles with
  | duration untold =>
      rw [lasts] at untold
      cases untold
  | branchShare untold =>
      rw [AnimationSettings.branch_quota_exact lasts long steps] at untold
      cases untold
  | leafShare untold =>
      rw [AnimationSettings.leaf_quota_exact _ frames] at untold
      cases untold
  | shownLeaves within leafy untold =>
      rw [Scalar.ratio, if_neg (by omega)] at untold
      cases untold
  | chance refuses => exact refuses

namespace Animator

variable {course : Course ℝ} {animator : Animator σ ℝ}

theorem reveal_to_returns {plan : RunPlan ℝ} {startedAtMs duration : ℝ}
    (carries : animator.Carries animator.settings plan startedAtMs)
    (steps : 0 < animator.settings.frameIntervalMs)
    (frames : 1 ≤ animator.settings.leafRevealFrames)
    (lasts : animator.settings.revealDurationMs plan.branches.length = .ok duration)
    (long : 0 < duration) (willing : ∀ fault, ¬ Refuses σ fault) (nowMs : ℝ) :
    ((revealTo nowMs).run animator).1 = .ok ⟨⟩ := by
  have stumbles := reveal_to_stumbles nowMs animator carries
  rcases ran : (revealTo nowMs).run animator with ⟨fault | _, revealed⟩
  · rw [ran] at stumbles
    exact absurd (refuses_of_stumbles steps frames lasts long stumbles) (willing fault)
  · rfl

/-- The frame with which everything is due finds everything shown, and settles its run. -/
theorem heeded_settles_when_due {frame : Frame ℝ} (steps : 0 < animator.settings.frameIntervalMs)
    (frames : 1 ≤ animator.settings.leafRevealFrames) (willing : ∀ fault, ¬ Refuses σ fault)
    (onPace : animator.OnPace (some course)) (due : (course.heeding frame).Due animator.settings) :
    ((Happening.heeded frame).change animator).phase = .settled := by
  obtain ⟨duration, lasts, long, reached⟩ := due.branches
  obtain ⟨leafStart, starts, late⟩ := due.leaves
  obtain ⟨settleAfter, settles, rested⟩ := due.settling
  have branchesTold := AnimationSettings.branch_quota_exact lasts long steps
  have leavesTold := AnimationSettings.leaf_quota_exact course.plan.leaves.length frames
  have before := onPace _ _ _ starts branchesTold leavesTold
  rw [Happening.change, if_neg before.performs.awake]
  cases phase : animator.phase with
  | idle => exact absurd phase before.performs.awake
  | settled => exact (heed_settled_display frame animator phase).phase.trans phase
  | revealing =>
      have carries : animator.Carries animator.settings course.plan course.startedAtMs :=
        ⟨before.performs, before.started, rfl⟩
      have unfailing := reveal_to_returns carries steps frames lasts long willing frame.timestampMs
      have after := heed_paced course _ _ _ frame animator starts branchesTold leavesTold before
      have elapsed := heed_elapsed frame animator
      rw [before.started] at elapsed
      have kept := (heed_same_run frame animator).settings
      have branches := branches_all_shown after steps lasts long branchesTold due.timed reached
      have leaves := leaves_all_shown after frames leavesTold late
      have shown : ((heed frame).run animator).2.ShownInTime animator.settings course.plan
          course.startedAtMs frame :=
        ⟨branches.1, leaves.1, settleAfter, settles, Course.last_reaches due.timed steps rested⟩
      exact (heed_settles_iff frame animator phase).mpr ⟨unfailing,
        (complete_iff_shown_in_time ⟨after.performs, after.started, kept⟩ elapsed).mpr shown⟩

/-- The run of the animator, if there is one, has settled once everything was due. -/
def SettledWhenDue (animator : Animator σ ℝ) : Option (Course ℝ) → Prop
  | none => True
  | some course => course.Due animator.settings → animator.phase = .settled

theorem change_settled_when_due (happening : Happening ℝ) {course? : Option (Course ℝ)}
    (steps : 0 < animator.settings.frameIntervalMs)
    (frames : 1 ≤ animator.settings.leafRevealFrames) (willing : ∀ fault, ¬ Refuses σ fault)
    (onPace : animator.OnPace course?) (settled : animator.SettledWhenDue course?) :
    (happening.change animator).SettledWhenDue (happening.courseAfter course?) := by
  cases happening with
  | began plan receiver subscription nowMs =>
      intro due
      obtain ⟨_, _, _, frame, member, _⟩ := due.branches
      cases member
  | reset => trivial
  | heeded frame =>
      cases course? with
      | none => trivial
      | some course =>
          intro due
          rw [change_keeps_settings] at due
          exact heeded_settles_when_due steps frames willing onPace due
  | stopped => exact settled
  | emitted frame => exact settled
  | published frame scene => exact settled
  | handed receiver frame scene => exact settled

theorem replay_settled_when_due (history : List (Happening ℝ)) {course? : Option (Course ℝ)}
    (steps : 0 < animator.settings.frameIntervalMs)
    (frames : 1 ≤ animator.settings.leafRevealFrames) (willing : ∀ fault, ¬ Refuses σ fault)
    (onPace : animator.OnPace course?) (settled : animator.SettledWhenDue course?) :
    (replay history animator).SettledWhenDue (history.foldl Happening.courseAfter course?) := by
  induction history generalizing course? animator with
  | nil => exact settled
  | cons happening history induction =>
      have kept := change_keeps_settings happening animator
      exact induction (kept ▸ steps) (kept ▸ frames)
        (change_on_pace happening course? animator onPace)
        (change_settled_when_due happening steps frames willing onPace settled)

end Animator

/-- Over exact numbers, where the frames of a run come at equal steps: the shares of as many frames
as the reveal takes, rounded up, show all branches, and no smaller share would do unless it is one
branch a frame; as many shares as there are frames for the leaves show all leaves. So the first
frame at the end of the reveal, or later, finds every branch revealed, the last of the frames for
the leaves finds every leaf revealed, and once both have come and the run has lasted for its rest,
it is settled, if the source of chance does not refuse. -/
theorem runs_meet_their_deadlines (settings : AnimationSettings ℝ)
    (particleSettings : ParticleSettings ℝ) (surface : Surface ℝ) (random : σ)
    (sampler : FrameSampler) (steps : 0 < settings.frameIntervalMs)
    (frames : 1 ≤ settings.leafRevealFrames) :
    let first : Animator σ ℝ := .initial settings particleSettings surface random sampler
    (∀ count : Int, ∃ duration, settings.revealDurationMs count = .ok duration ∧
      (0 < duration → ∃ quota, settings.branchQuota count = .ok quota ∧
        count ≤ quota * ⌈duration / settings.frameIntervalMs⌉ ∧
        ((quota - 1 : ℝ) * (duration / settings.frameIntervalMs) < count ∨ quota = 1))) ∧
      (∀ count : Int, ∃ quota, settings.leafQuota count = .ok quota ∧
        count ≤ quota * settings.leafRevealFrames) ∧
      (∀ (history : List (Happening ℝ)) (course : Course ℝ), courseOf history = some course →
        course.EvenlyTimed settings.frameIntervalMs →
          ∃ duration leafStart settleAfter,
            settings.revealDurationMs course.plan.branches.length = .ok duration ∧
            settings.leafStartMs course.plan.branches.length = .ok leafStart ∧
            settings.settleAfterMs course.plan.branches.length = .ok settleAfter ∧
            (0 < duration →
              let animator := Animator.replay history first
              (course.Reached duration →
                animator.branchCursor = course.plan.branches.length ∧
                  ∀ branch ∈ animator.branches, branch.revealed = true) ∧
              (settings.leafRevealFrames ≤ (course.framesAfter leafStart).length →
                animator.leafCursor = course.plan.leaves.length ∧
                  ∀ leaf ∈ animator.leaves, leaf.revealed = true) ∧
              ((∀ fault, ¬ Refuses σ fault) → course.Reached duration →
                settings.leafRevealFrames ≤ (course.framesAfter leafStart).length →
                course.Reached settleAfter → animator.phase = .settled))) ∧
      ∀ (clockMs : ℝ) (batches : List (List (Command ℝ))),
        let driven := Session.drive batches (.initial clockMs first)
        driven.2.animator = Animator.replay driven.1 first := by
  intro first
  have atRest : first.AtRest := ⟨rfl, rfl, rfl, rfl, rfl, rfl, rfl, rfl⟩
  refine ⟨?_, ?_, ?_, ?_⟩
  · intro count
    refine ⟨_, settings.reveal_duration_exact count, fun long => ?_⟩
    have positive := div_pos long steps
    exact ⟨_,
      AnimationSettings.branch_quota_exact (settings.reveal_duration_exact count) long steps,
      Exact.count_le_shares positive, Exact.smaller_shares_lt_count positive rfl⟩
  · intro count
    exact ⟨_, AnimationSettings.leaf_quota_exact count frames,
      AnimationSettings.count_le_leaf_shares count frames⟩
  · intro history course begun timed
    obtain ⟨duration, lasts, starts, settles⟩ := settings.times_told course.plan.branches.length
    refine ⟨duration, _, _, lasts, starts, settles, fun long => ?_⟩
    intro animator
    have branchesTold := AnimationSettings.branch_quota_exact lasts long steps
    have leavesTold := AnimationSettings.leaf_quota_exact course.plan.leaves.length frames
    obtain ⟨kept, onPace⟩ := Animator.replay_on_pace history none first atRest
    rw [← courseOf, begun] at onPace
    change animator.settings = settings at kept
    have paced : animator.Paced _ _ _ course :=
      onPace _ _ _ (by rw [kept]; exact starts) (by rw [kept]; exact branchesTold)
        (by rw [kept]; exact leavesTold)
    refine ⟨fun reached => ?_, fun late => ?_, fun willing reached late rested => ?_⟩
    · exact Animator.branches_all_shown paced steps lasts long branchesTold timed reached
    · exact Animator.leaves_all_shown paced frames leavesTold late
    · have settled : animator.SettledWhenDue (courseOf history) :=
        Animator.replay_settled_when_due history steps frames willing atRest trivial
      rw [begun] at settled
      apply settled
      rw [kept]
      exact ⟨timed, ⟨_, lasts, long, reached⟩, ⟨_, starts, late⟩, ⟨_, settles, rested⟩⟩
  · exact fun clockMs batches => Session.drive_replays batches (.initial clockMs first)

/-! Three branches and two leaves that two frames show, two branches and one leaf in a share. -/

noncomputable def briskSettings : AnimationSettings ℝ :=
  { AnimationSettings.usual with
    minRevealMs := 20.0
    revealMsPerBranch := 5.0
    leafRevealFraction := 0
    settleTailMs := 0
    frameIntervalMs := 10.0
    leafRevealFrames := 2 }

def briskPlan : RunPlan ℝ where
  branches := List.replicate 3 ⟨⟨0, 0⟩, ⟨0, 1⟩, 1, 0, "", false⟩
  leaves := List.replicate 2 ⟨⟨0, 1⟩, 1, 0, "", .leaf, false, 0⟩
  paletteIndex := 0
  particlesEnabled := true

noncomputable def briskAnimator : Animator SteadySource ℝ :=
  .initial briskSettings .usual ⟨600.0, 600.0⟩ ⟨0⟩ ⟨1, []⟩

noncomputable def briskCourse : Course ℝ := ⟨briskPlan, 0, [⟨0, 10.0⟩, ⟨1, 20.0⟩]⟩

noncomputable def briskHistory : List (Happening ℝ) :=
  [.began briskPlan 0 0 0, .emitted ⟨0, 10.0⟩, .heeded ⟨0, 10.0⟩, .emitted ⟨1, 20.0⟩,
    .heeded ⟨1, 20.0⟩]

theorem brisk_course_evenly_timed : briskCourse.EvenlyTimed briskSettings.frameIntervalMs := by
  intro index frame there
  match index with
  | 0 =>
      cases there
      change (10.0 : ℝ) = 0 + ((0 : Nat) + 1) * 10.0
      norm_num
  | 1 =>
      cases there
      change (20.0 : ℝ) = 0 + ((1 : Nat) + 1) * 10.0
      norm_num
  | _ + 2 => cases there

theorem brisk_frames_elapsed :
    elapsedAt (0 : ℝ) ⟨0, 10.0⟩ = 10 ∧ elapsedAt (0 : ℝ) ⟨1, 20.0⟩ = 20 := by
  constructor <;> norm_num [elapsedAt, Exact.larger_eq]

theorem brisk_run_is_settled_by_two_frames :
    0 < briskSettings.frameIntervalMs ∧ 1 ≤ briskSettings.leafRevealFrames ∧
      let animator := Animator.replay briskHistory briskAnimator
      animator.branchCursor = 3 ∧ animator.leafCursor = 2 ∧ animator.phase = .settled := by
  have steps : 0 < briskSettings.frameIntervalMs := by
    change (0 : ℝ) < 10.0
    norm_num
  have frames : 1 ≤ briskSettings.leafRevealFrames := by decide
  obtain ⟨_, _, meets, _⟩ := runs_meet_their_deadlines briskSettings .usual ⟨600.0, 600.0⟩
    (⟨0⟩ : SteadySource) ⟨1, []⟩ steps frames
  obtain ⟨duration, leafStart, settleAfter, lasts, starts, settles, shown⟩ :=
    meets briskHistory briskCourse rfl brisk_course_evenly_timed
  obtain ⟨_, told, start, rest⟩ := briskSettings.times_told briskCourse.plan.branches.length
  cases lasts.symm.trans told
  cases starts.symm.trans start
  cases settles.symm.trans rest
  have twenty : duration = 20 := by
    rw [briskSettings.reveal_duration_exact] at lasts
    cases lasts
    change max (20.0 : ℝ) (((3 : Nat) : Int) * 5.0) = 20
    norm_num
  obtain ⟨early, late⟩ := brisk_frames_elapsed
  have reached : briskCourse.Reached duration :=
    ⟨⟨1, 20.0⟩, List.mem_cons_of_mem _ (List.mem_singleton_self _), by rw [twenty]; exact late.ge⟩
  have rested : briskCourse.Reached (duration + briskSettings.settleTailMs) := by
    have noTail : briskSettings.settleTailMs = 0 := rfl
    rw [noTail, add_zero]
    exact reached
  have both : briskSettings.leafRevealFrames ≤
      (briskCourse.framesAfter (duration * briskSettings.leafRevealFraction)).length := by
    have atOnce : briskSettings.leafRevealFraction = 0 := rfl
    rw [atOnce, mul_zero, Course.framesAfter, List.filter_eq_self.mpr]
    · exact le_rfl
    · intro frame member
      rcases List.mem_pair.mp member with rfl | rfl
      · exact decide_eq_true (lt_of_lt_of_eq (by norm_num) early.symm)
      · exact decide_eq_true (lt_of_lt_of_eq (by norm_num) late.symm)
  have willing : ∀ fault, ¬ Refuses SteadySource fault := by
    rintro fault ⟨_, _, _, refused⟩
    cases refused
  obtain ⟨branches, leaves, settled⟩ := shown (twenty ▸ by norm_num)
  exact ⟨steps, frames, (branches reached).1, (leaves both).1, settled willing reached both rested⟩

end Arboretum

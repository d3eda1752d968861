import Arboretum.Proofs.Animation.Settling

/-!
Runs under a clock of their own. The clock stands at zero when the run begins and goes on
by one step before each frame, so everything about a run that does not depend on chance
follows from the number of frames: how many branches and leaves are shown, how long the run
has lasted, and with which frame it settles. What the motes do is left to chance, but never
are there more than their limit.
-/

namespace Arboretum

open Fallible

set_option autoImplicit false

variable {σ α : Type}

section Clock

variable [Scalar α]

/-- What the clock shows after a number of steps, each added to what it showed before. -/
def clockAfter (stepMs : α) : Nat → α
  | 0 => 0.0
  | count + 1 => clockAfter stepMs count + stepMs

def clockFrame (stepMs : α) (index : Nat) : Frame α := ⟨index, clockAfter stepMs (index + 1)⟩

def clockFrames (stepMs : α) (count : Nat) : List (Frame α) :=
  (List.range count).map (clockFrame stepMs)

theorem clock_frames_succ (stepMs : α) (count : Nat) :
    clockFrames stepMs (count + 1) = clockFrames stepMs count ++ [clockFrame stepMs count] := by
  rw [clockFrames, List.range_succ, List.map_append, List.map_singleton]
  rfl

/-- How long a run has lasted at the last of a number of frames. -/
def lastedAfter (stepMs : α) (count : Nat) : α := Scalar.larger 0.0 (clockAfter stepMs count - 0.0)

end Clock

/-- What a run is timed by: how much it has to show, what a frame adds to it, when the leaves begin
and from when on it may settle. -/
structure Timetable (α : Type) where
  branches : Nat
  leaves : Nat
  branchShare : Nat
  leafShare : Nat
  leafStartMs : α
  settleAfterMs : α

namespace Timetable

variable [Scalar α] (timetable : Timetable α) (stepMs : α)

/-- The timetable is the one that the settings give for so many branches and leaves. -/
structure Follows (settings : AnimationSettings α) (timetable : Timetable α) : Prop where
  branchShare : settings.branchQuota timetable.branches = .ok (timetable.branchShare : Int)
  leafShare : settings.leafQuota timetable.leaves = .ok (timetable.leafShare : Int)
  leafStart : settings.leafStartMs timetable.branches = .ok timetable.leafStartMs
  settleAfter : settings.settleAfterMs timetable.branches = .ok timetable.settleAfterMs

/-- How many of the first frames come later than the start of the leaves. -/
def lateFrames (count : Nat) : Nat :=
  (List.range count).countP fun index =>
    decide (timetable.leafStartMs < lastedAfter stepMs (index + 1))

def branchesAfter (count : Nat) : Nat := min timetable.branches (count * timetable.branchShare)

def leavesAfter (count : Nat) : Nat :=
  min timetable.leaves (timetable.lateFrames stepMs count * timetable.leafShare)

/-- After so many frames everything is shown, and the run has lasted long enough to settle. -/
structure FinishedAfter (count : Nat) : Prop where
  branches : timetable.branchesAfter count = timetable.branches
  leaves : timetable.leavesAfter stepMs count = timetable.leaves
  late : timetable.settleAfterMs ≤ lastedAfter stepMs count

/-- The run is finished after so many frames and has not been after fewer of them. -/
structure FirstFinishedAfter (count : Nat) : Prop where
  positive : 1 ≤ count
  finished : timetable.FinishedAfter stepMs count
  first : ∀ earlier, 1 ≤ earlier → earlier < count → ¬ timetable.FinishedAfter stepMs earlier

end Timetable

namespace Animator

variable [Scalar α]

theorem late_frames_counted (timetable : Timetable α) (stepMs : α) (plan : RunPlan α)
    (count : Nat) :
    ((⟨plan, 0.0, clockFrames stepMs count⟩ : Course α).framesAfter timetable.leafStartMs).length =
      timetable.lateFrames stepMs count := by
  rw [Course.framesAfter, Timetable.lateFrames, List.countP_eq_length_filter, clockFrames,
    List.filter_map, List.length_map]
  rfl

variable [ChanceSource σ α]

/-- From the first animator, the frames of the clock are heeded in turn without a failure,
and their scenes are shown. -/
inductive Ticks (stepMs : α) (first : Animator σ α) :
    Nat → List (Scene α) → Animator σ α → Prop where
  | start : Ticks stepMs first 0 [] first
  | tick {count : Nat} {scenes : List (Scene α)} {before after : Animator σ α} :
      Ticks stepMs first count scenes before →
      (heed (clockFrame stepMs count)).run before = (.ok ⟨⟩, after) →
      Ticks stepMs first (count + 1) (scenes ++ [after.scene]) after

/-- The run of a plan is as far as its timetable says after a number of frames. -/
structure OnTime (settings : AnimationSettings α) (timetable : Timetable α) (plan : RunPlan α)
    (stepMs : α) (count : Nat) (animator : Animator σ α) : Prop where
  settings_kept : animator.settings = settings
  paced : animator.Paced timetable.leafStartMs timetable.branchShare timetable.leafShare
    ⟨plan, 0.0, clockFrames stepMs count⟩

section Run

variable {settings : AnimationSettings α} {timetable : Timetable α} {plan : RunPlan α} {stepMs : α}
  {count : Nat} {animator : Animator σ α}

omit [ChanceSource σ α] in
theorem on_time_cursors (branches : timetable.branches = plan.branches.length)
    (leaves : timetable.leaves = plan.leaves.length)
    (onTime : animator.OnTime settings timetable plan stepMs count) :
    animator.branchCursor = timetable.branchesAfter count ∧
      animator.leafCursor = timetable.leavesAfter stepMs count := by
  have branchCursor := onTime.paced.branch_cursor
  have leafCursor := onTime.paced.leaf_cursor
  rw [late_frames_counted, Int.toNat_natCast] at leafCursor
  rw [clockFrames, List.length_map, List.length_range, Int.toNat_natCast] at branchCursor
  rw [Timetable.branchesAfter, Timetable.leavesAfter, branches, leaves]
  exact ⟨branchCursor, leafCursor⟩

theorem heed_on_time (branches : timetable.branches = plan.branches.length)
    (leaves : timetable.leaves = plan.leaves.length) (follows : timetable.Follows settings)
    (onTime : animator.OnTime settings timetable plan stepMs count) :
    ((heed (clockFrame stepMs count)).run animator).2.OnTime settings timetable plan stepMs
      (count + 1) := by
  obtain ⟨rfl, paced⟩ := onTime
  refine ⟨(heed_same_run _ animator).settings, ?_⟩
  have further := heed_paced _ _ _ _ (clockFrame stepMs count) animator
    (branches ▸ follows.leafStart) (branches ▸ follows.branchShare)
    (leaves ▸ follows.leafShare) paced
  rw [Course.heeding, ← clock_frames_succ] at further
  exact further

theorem reveal_of_heed {frame : Frame α} {after : Animator σ α}
    (heeded : (heed frame).run animator = (.ok ⟨⟩, after)) :
    ((revealTo frame.timestampMs).run animator).1 = .ok ⟨⟩ := by
  rw [heed, run_bind, run_get] at heeded
  obtain ⟨_, revealed, ran, _⟩ := (run_bind_eq_ok _ _ _ _ _).mp heeded
  rw [ran]

/-- The frame after which the timetable has the run finished is the one that settles it. -/
theorem heed_settles_iff_finished (branches : timetable.branches = plan.branches.length)
    (leaves : timetable.leaves = plan.leaves.length) (follows : timetable.Follows settings)
    (onTime : animator.OnTime settings timetable plan stepMs count)
    (revealing : animator.phase = .revealing) {after : Animator σ α}
    (heeded : (heed (clockFrame stepMs count)).run animator = (.ok ⟨⟩, after)) :
    after.phase = .settled ↔ timetable.FinishedAfter stepMs (count + 1) := by
  have settles := heed_settles_iff (clockFrame stepMs count) animator revealing
  have further := heed_on_time branches leaves follows onTime
  have lasted := heed_elapsed (clockFrame stepMs count) animator
  rw [heeded] at settles further lasted
  rw [onTime.paced.started] at lasted
  have carries : after.Carries settings plan 0.0 :=
    ⟨further.paced.performs, further.paced.started, further.settings_kept⟩
  obtain ⟨branchCursor, leafCursor⟩ := on_time_cursors branches leaves further
  -- The frame returned, so of what settles a run only that it is shown in time is left.
  rw [settles, complete_iff_shown_in_time carries lasted]
  constructor
  · rintro ⟨_, shown⟩
    obtain ⟨settleAfter, settles, late⟩ := shown.late
    refine ⟨?_, ?_, ?_⟩
    · rw [← branchCursor, shown.branches, branches]
    · rw [← leafCursor, shown.leaves, leaves]
    · rw [← branches, follows.settleAfter] at settles
      cases settles
      exact late
  · intro finished
    refine ⟨reveal_of_heed heeded, ?_, ?_, timetable.settleAfterMs, ?_, finished.late⟩
    · rw [branchCursor, finished.branches, branches]
    · rw [leafCursor, finished.leaves, leaves]
    · rw [← branches]
      exact follows.settleAfter

end Run

end Animator

namespace Timetable

variable [Scalar α]

/-- What the scenes of a run show of its phase, which is the last one's: it reveals up to the frame
that the timetable has it finish with, and has settled from then on. -/
inductive Shows (timetable : Timetable α) (stepMs : α) : GrowthPhase → List (Scene α) → Prop where
  | revealing {scenes : List (Scene α)} :
      (∀ scene ∈ scenes, scene.phase = .revealing) →
      (∀ count, 1 ≤ count → count ≤ scenes.length → ¬ timetable.FinishedAfter stepMs count) →
      Shows timetable stepMs .revealing scenes
  | settled {early late : List (Scene α)} {turning : Scene α} :
      (∀ scene ∈ early, scene.phase = .revealing) →
      turning.phase = .settled →
      turning.elapsedMs = lastedAfter stepMs (early.length + 1) →
      (∀ scene ∈ late, scene.phase = .settled) →
      timetable.FirstFinishedAfter stepMs (early.length + 1) →
      Shows timetable stepMs .settled (early ++ turning :: late)

theorem shows_still_revealing {timetable : Timetable α} {stepMs : α} {scenes : List (Scene α)}
    {scene : Scene α} (shows : timetable.Shows stepMs .revealing scenes)
    (revealing : scene.phase = .revealing)
    (unfinished : ¬ timetable.FinishedAfter stepMs (scenes.length + 1)) :
    timetable.Shows stepMs .revealing (scenes ++ [scene]) := by
  cases shows with
  | revealing all before =>
      refine .revealing ?_ fun count positive within => ?_
      · exact List.forall_mem_append.mpr ⟨all, List.forall_mem_singleton.mpr revealing⟩
      · rw [List.length_append, List.length_singleton] at within
        rcases Nat.lt_or_eq_of_le within with earlier | rfl
        · exact before count positive (Nat.le_of_lt_succ earlier)
        · exact unfinished

theorem shows_settling {timetable : Timetable α} {stepMs : α} {scenes : List (Scene α)}
    {scene : Scene α} (shows : timetable.Shows stepMs .revealing scenes)
    (settled : scene.phase = .settled)
    (lasted : scene.elapsedMs = lastedAfter stepMs (scenes.length + 1))
    (finished : timetable.FinishedAfter stepMs (scenes.length + 1)) :
    timetable.Shows stepMs .settled (scenes ++ [scene]) := by
  cases shows with
  | revealing all before =>
      refine .settled all settled lasted (List.forall_mem_nil _) ⟨Nat.le_add_left _ _, finished, ?_⟩
      exact fun earlier positive within => before earlier positive (Nat.le_of_lt_succ within)

theorem shows_settled_still {timetable : Timetable α} {stepMs : α} {scenes : List (Scene α)}
    {scene : Scene α} (shows : timetable.Shows stepMs .settled scenes)
    (settled : scene.phase = .settled) : timetable.Shows stepMs .settled (scenes ++ [scene]) := by
  cases shows with
  | settled all turned lasted after first =>
      rw [List.append_assoc, List.cons_append]
      refine .settled all turned lasted ?_ first
      exact List.forall_mem_append.mpr ⟨after, List.forall_mem_singleton.mpr settled⟩

end Timetable

namespace Animator

variable [Scalar α] [ChanceSource σ α]

theorem ticks_length {stepMs : α} {first last : Animator σ α} {count : Nat}
    {scenes : List (Scene α)} (ticks : Ticks stepMs first count scenes last) :
    scenes.length = count := by
  induction ticks with
  | start => rfl
  | tick ticks heeded induction => rw [List.length_append, induction, List.length_singleton]

theorem first_of_ticks {stepMs : α} {first last : Animator σ α} {count : Nat}
    {scenes : List (Scene α)} (ticks : Ticks stepMs first count scenes last)
    (positive : 1 ≤ count) :
    ∃ after, (heed (clockFrame stepMs 0)).run first = (.ok ⟨⟩, after) := by
  induction ticks with
  | start => exact absurd positive (by decide)
  | @tick count scenes before after ticks heeded induction =>
      cases count with
      | zero =>
          cases ticks
          exact ⟨after, heeded⟩
      | succ count => exact induction (Nat.le_add_left 1 count)

/-- A frame does not return while the run reveals, unless the share of the branches can be told. -/
theorem branch_quota_of_heed {frame : Frame α} {animator after : Animator σ α}
    (revealing : animator.phase = .revealing)
    (heeded : (heed frame).run animator = (.ok ⟨⟩, after)) :
    ∃ quota, animator.settings.branchQuota animator.branches.length = .ok quota := by
  have revealed := reveal_of_heed heeded
  rw [run_reveal_to, if_pos revealing, advanceReveal, run_bind, run_advance_branches] at revealed
  cases told : animator.settings.branchQuota animator.branches.length with
  | ok quota => exact ⟨quota, rfl⟩
  | error fault =>
      have untold : (animator.atTime frame.timestampMs).settings.branchQuota
          (animator.atTime frame.timestampMs).branches.length = .error fault := told
      rw [untold] at revealed
      cases revealed

/-- A run that begins when the clock stands at zero keeps to its timetable, with every frame. -/
theorem ticks_on_time {settings : AnimationSettings α} {timetable : Timetable α} {plan : RunPlan α}
    {stepMs : α} (branches : timetable.branches = plan.branches.length)
    (leaves : timetable.leaves = plan.leaves.length) (follows : timetable.Follows settings)
    {first last : Animator σ α} (begun : first.OnTime settings timetable plan stepMs 0)
    (revealing : first.phase = .revealing) {count : Nat} {scenes : List (Scene α)}
    (ticks : Ticks stepMs first count scenes last) :
    last.OnTime settings timetable plan stepMs count ∧
      timetable.Shows stepMs last.phase scenes := by
  induction ticks with
  | start =>
      refine ⟨begun, ?_⟩
      rw [revealing]
      exact .revealing (List.forall_mem_nil _) fun count positive within =>
        absurd positive (by simpa using within)
  | @tick count scenes before after ticks heeded induction =>
      obtain ⟨onTime, shows⟩ := induction
      have further := heed_on_time branches leaves follows onTime
      have lasted := heed_elapsed (clockFrame stepMs count) before
      have turns := heed_phase_cases (clockFrame stepMs count) before
      rw [heeded] at further lasted turns
      rw [onTime.paced.started] at lasted
      have length := ticks_length ticks
      refine ⟨further, ?_⟩
      cases phase : before.phase with
      | idle => exact absurd phase onTime.paced.performs.awake
      | settled =>
          rw [phase] at shows turns
          have still : after.phase = .settled := turns.elim id (·.2)
          rw [still]
          exact Timetable.shows_settled_still shows still
      | revealing =>
          have settles := heed_settles_iff_finished branches leaves follows onTime phase heeded
          rw [phase] at shows turns
          rw [← length] at settles lasted
          rcases turns with still | ⟨_, settled⟩
          · rw [still]
            refine Timetable.shows_still_revealing shows still fun finished => ?_
            rw [settles.mpr finished] at still
            cases still
          · rw [settled]
            exact Timetable.shows_settling shows settled lasted (settles.mp settled)

end Animator

/-! The motes of a run. -/

namespace ParticleSystem

/-- There are no more motes than the limit allows. -/
def WithinLimit (system : ParticleSystem α) : Prop :=
  (system.particles.length : Int) ≤ system.settings.limit

theorem add_within_limit (particle : Particle α) {system : ParticleSystem α}
    (natural : 0 ≤ system.settings.limit) : (system.add particle).WithinLimit := by
  change (((system.particles ++ [particle]).drop _).length : Int) ≤ system.settings.limit
  rw [List.length_drop]
  omega

theorem tick_within_limit [Scalar α] {dtMs : α} {system later : ParticleSystem α}
    (ticked : system.tick dtMs = .ok later) (within : system.WithinLimit) : later.WithinLimit := by
  obtain ⟨steps, _, rfl⟩ := (tick_eq_ok dtMs system later).mp ticked
  have fewer : ((system.particles.map (Particle.advanced steps system.settings.lifeDecay)).filter
      fun particle => decide (0.0 < particle.life)).length ≤ system.particles.length :=
    Nat.le_trans (List.length_filter_le _ _) (Nat.le_of_eq (List.length_map _))
  exact Int.le_trans (Int.ofNat_le.mpr fewer) within

end ParticleSystem

namespace Animator

/-- The motes keep their settings, and to their limit if they kept to it before. -/
structure KeepsLimit (before after : Animator σ α) : Prop where
  settings : after.motes.settings = before.motes.settings
  within : 0 ≤ before.motes.settings.limit → before.motes.WithinLimit → after.motes.WithinLimit

theorem keeps_limit_of_same {before after : Animator σ α} (same : after.motes = before.motes) :
    before.KeepsLimit after :=
  ⟨by rw [same], fun _ within => by rwa [same]⟩

theorem keeps_limit_trans (first second third : Animator σ α) (before : first.KeepsLimit second)
    (after : second.KeepsLimit third) : first.KeepsLimit third := by
  refine ⟨after.settings.trans before.settings, fun natural within => ?_⟩
  exact after.within (before.settings ▸ natural) (before.within natural within)

variable [Scalar α]

theorem drift_motes_keeps_limit (dtMs : α) :
    Leads KeepsLimit (driftMotes dtMs : AnimatorStep σ α Unit) := by
  intro animator
  simp only [driftMotes, run_bind, run_get, run_lift]
  cases drifted : animator.motes.tick dtMs with
  | error fault => exact keeps_limit_of_same rfl
  | ok motes =>
      refine ⟨?_, fun _ within => ParticleSystem.tick_within_limit drifted within⟩
      obtain ⟨steps, _, rfl⟩ := (ParticleSystem.tick_eq_ok _ _ _).mp drifted
      rfl

theorem advance_branches_keeps_limit :
    Leads KeepsLimit (advanceBranches : AnimatorStep σ α Unit) := by
  intro animator
  rw [run_advance_branches]
  cases animator.settings.branchQuota animator.branches.length with
  | error fault => exact keeps_limit_of_same rfl
  | ok quota => exact keeps_limit_of_same rfl

theorem settle_keeps_limit : Leads KeepsLimit (settle : AnimatorStep σ α Unit) := by
  intro animator
  rcases settle_changes_phase animator with unchanged | ⟨settled, _, _⟩
  · rw [unchanged]
    exact keeps_limit_of_same rfl
  · rw [settled]
    exact keeps_limit_of_same rfl

variable [ChanceSource σ α]

theorem advance_leaves_keeps_limit : Leads KeepsLimit (advanceLeaves : AnimatorStep σ α Unit) := by
  intro animator
  obtain ⟨count, fresh, random, advanced, _⟩ := advance_leaves_replaces animator
  rw [advanced]
  exact keeps_limit_of_same rfl

theorem shed_keeps_limit : Leads KeepsLimit (shed : AnimatorStep σ α Unit) := by
  intro animator
  rcases shed_cases animator with ⟨random, unchanged⟩ | ⟨_, particle, random, risen⟩
  · rw [unchanged]
    exact keeps_limit_of_same rfl
  · rw [risen]
    exact ⟨rfl, fun natural _ => ParticleSystem.add_within_limit particle natural⟩

theorem keeps_limit_kept : KeptByFrames (KeepsLimit : Animator σ α → Animator σ α → Prop) where
  refl _ := keeps_limit_of_same rfl
  trans := keeps_limit_trans
  at_time _ _ := keeps_limit_of_same rfl
  branches := advance_branches_keeps_limit
  leaves := advance_leaves_keeps_limit
  shed := shed_keeps_limit
  settle := settle_keeps_limit
  drift := drift_motes_keeps_limit
  sampled _ _ := keeps_limit_of_same rfl

theorem ticks_keep_limit {stepMs : α} {first last : Animator σ α} {count : Nat}
    {scenes : List (Scene α)} (ticks : Ticks stepMs first count scenes last) :
    first.KeepsLimit last := by
  induction ticks with
  | start => exact keeps_limit_of_same rfl
  | @tick count scenes before after ticks heeded induction =>
      have here := heed_leads keeps_limit_kept (clockFrame stepMs count) before
      rw [heeded] at here
      exact keeps_limit_trans _ _ _ induction here

end Animator

end Arboretum

import Arboretum.Proofs.Animation.Faithfulness

/-!
How far a run has got. Each frame that a run heeds adds one share of branches to those
revealed, and each one that comes late enough adds one share of leaves, until the lists are
at their end. So the cursors only depend on how many frames were heeded and how many of them
were late, not on when they came.
-/

namespace Arboretum

open Fallible

set_option autoImplicit false

variable {σ α : Type}

/-- The course of a run so far: what it shows, when it began, and the frames that it has heeded. -/
structure Course (α : Type) where
  plan : RunPlan α
  startedAtMs : α
  frames : List (Frame α)

def Course.heeding (frame : Frame α) (course : Course α) : Course α :=
  { course with frames := course.frames ++ [frame] }

/-- The course of the run after a happening, if there is a run. -/
def Happening.courseAfter (course? : Option (Course α)) : Happening α → Option (Course α)
  | .began plan _ _ nowMs => some ⟨plan, nowMs, []⟩
  | .reset => none
  | .heeded frame => course?.map (Course.heeding frame)
  | _ => course?

/-- The course of the run of the last start that no reset has followed. -/
def courseOf (history : List (Happening α)) : Option (Course α) :=
  history.foldl Happening.courseAfter none

namespace Animator

structure SameReveal (before after : Animator σ α) : Prop where
  branch_cursor : after.branchCursor = before.branchCursor
  leaf_cursor : after.leafCursor = before.leafCursor

theorem same_reveal_refl (animator : Animator σ α) : animator.SameReveal animator := ⟨rfl, rfl⟩

theorem same_reveal_trans (first second third : Animator σ α) (before : first.SameReveal second)
    (after : second.SameReveal third) : first.SameReveal third :=
  ⟨after.branch_cursor.trans before.branch_cursor, after.leaf_cursor.trans before.leaf_cursor⟩

theorem unrevealed_leaves {plan : RunPlan α} {animator : Animator σ α}
    (performs : animator.Performs plan) (atStart : animator.leafCursor = 0) :
    ∀ leaf ∈ animator.leaves, leaf.revealed = false := by
  intro leaf member
  obtain ⟨index, bound, there⟩ := List.getElem_of_mem member
  have given : index < plan.leaves.length := performs.leaves.as_many ▸ bound
  obtain ⟨opacity, stands⟩ := performs.leaves.stands_at index plan.leaves[index] leaf
    (List.getElem?_eq_getElem given) (there ▸ List.getElem?_eq_getElem bound)
  rw [stands, atStart]
  rfl

end Animator

variable [Scalar α]

/-- How long a run that began at a time has lasted at a frame, never negative. -/
def elapsedAt (startedAtMs : α) (frame : Frame α) : α :=
  Scalar.larger 0.0 (frame.timestampMs - startedAtMs)

/-- The frames of a run that came more than a time after its start. -/
def Course.framesAfter (delayMs : α) (course : Course α) : List (Frame α) :=
  course.frames.filter fun frame => decide (delayMs < elapsedAt course.startedAtMs frame)

theorem Course.frames_after_heeding (delayMs : α) (frame : Frame α) (course : Course α) :
    (course.heeding frame).framesAfter delayMs =
      course.framesAfter delayMs ++
        if delayMs < elapsedAt course.startedAtMs frame then [frame] else [] := by
  change (course.frames ++ [frame]).filter
    (fun frame => decide (delayMs < elapsedAt course.startedAtMs frame)) = _
  rw [List.filter_append]
  by_cases late : delayMs < elapsedAt course.startedAtMs frame
  · rw [if_pos late, List.filter_cons_of_pos (by simpa using late), List.filter_nil]
    rfl
  · rw [if_neg late, List.filter_cons_of_neg (by simpa using late), List.filter_nil]
    rfl

namespace AnimationSettings

theorem branch_quota_positive (settings : AnimationSettings α) (count quota : Int)
    (returned : settings.branchQuota count = .ok quota) : 1 ≤ quota := by
  simp only [branchQuota, bind_eq_ok] at returned
  obtain ⟨_, _, _, _, _, _, _, _, rounded, _, most⟩ := returned
  have quotaEq : max 1 rounded = quota := Except.ok.inj most
  omega

theorem leaf_quota_positive (settings : AnimationSettings α) (count quota : Int)
    (returned : settings.leafQuota count = .ok quota) : 1 ≤ quota := by
  simp only [leafQuota, bind_eq_ok] at returned
  obtain ⟨_, _, rounded, _, most⟩ := returned
  have quotaEq : max 1 rounded = quota := Except.ok.inj most
  omega

theorem leaf_start_returned (settings : AnimationSettings α) (count quota : Int)
    (returned : settings.branchQuota count = .ok quota) :
    ∃ leafStart, settings.leafStartMs count = .ok leafStart := by
  simp only [branchQuota, bind_eq_ok] at returned
  obtain ⟨duration, lasts, _⟩ := returned
  refine ⟨duration * settings.leafRevealFraction, ?_⟩
  rw [leafStartMs, lasts]
  rfl

theorem settle_after_returned (settings : AnimationSettings α) (count quota : Int)
    (returned : settings.branchQuota count = .ok quota) :
    ∃ settleAfter, settings.settleAfterMs count = .ok settleAfter := by
  simp only [branchQuota, bind_eq_ok] at returned
  obtain ⟨duration, lasts, _⟩ := returned
  refine ⟨duration + settings.settleTailMs, ?_⟩
  rw [settleAfterMs, lasts]
  rfl

end AnimationSettings

namespace Animator

theorem drift_motes_same_reveal (dtMs : α) :
    Leads SameReveal (driftMotes dtMs : AnimatorStep σ α Unit) := by
  intro animator
  obtain ⟨motes, drifted⟩ := drift_changes_motes dtMs animator
  rw [drifted]
  exact ⟨rfl, rfl⟩

theorem settle_same_reveal : Leads SameReveal (settle : AnimatorStep σ α Unit) := by
  intro animator
  rcases settle_changes_phase animator with unchanged | ⟨settled, _, _⟩
  · rw [unchanged]
    exact same_reveal_refl animator
  · rw [settled]
    exact ⟨rfl, rfl⟩

/-- The cursors of the animator are told by the frames of its course. -/
structure Paced (leafStart : α) (branchQuota leafQuota : Int) (course : Course α)
    (animator : Animator σ α) : Prop where
  performs : animator.Performs course.plan
  started : animator.startedAtMs = course.startedAtMs
  branch_cursor : animator.branchCursor =
    min course.plan.branches.length (course.frames.length * branchQuota.toNat)
  leaf_cursor : animator.leafCursor =
    min course.plan.leaves.length ((course.framesAfter leafStart).length * leafQuota.toNat)

/-- The animator is idle, or keeps the pace of its course wherever its shares can be told. -/
def OnPace (animator : Animator σ α) : Option (Course α) → Prop
  | none => animator.AtRest
  | some course => ∀ (leafStart : α) (branchQuota leafQuota : Int),
      animator.settings.leafStartMs course.plan.branches.length = .ok leafStart →
      animator.settings.branchQuota course.plan.branches.length = .ok branchQuota →
      animator.settings.leafQuota course.plan.leaves.length = .ok leafQuota →
      animator.Paced leafStart branchQuota leafQuota course

theorem launched_paced (plan : RunPlan α) (receiver subscription : Nat) (nowMs leafStart : α)
    (branchQuota leafQuota : Int) (animator : Animator σ α) :
    ((animator.idle.launched plan receiver nowMs).listening subscription).Paced leafStart
      branchQuota leafQuota ⟨plan, nowMs, []⟩ where
  performs := launched_performs plan receiver subscription nowMs animator
  started := rfl
  branch_cursor := by
    rw [List.length_nil, Nat.zero_mul, Nat.min_zero]
    rfl
  leaf_cursor := by
    rw [Course.framesAfter, List.filter_nil, List.length_nil, Nat.zero_mul, Nat.min_zero]
    rfl

variable [ChanceSource σ α]

theorem shed_same_reveal : Leads SameReveal (shed : AnimatorStep σ α Unit) := by
  intro animator
  obtain ⟨motes, random, shedding⟩ := shed_changes_motes animator
  rw [shedding]
  exact ⟨rfl, rfl⟩

/-- After the reveal of a frame, whatever else the frame brings shows no more of the run. -/
theorem heed_same_reveal (frame : Frame α) (animator : Animator σ α) :
    ((revealTo frame.timestampMs).run animator).2.SameReveal ((heed frame).run animator).2 := by
  rw [heed, run_bind, run_get]
  dsimp only
  rw [run_bind]
  rcases (revealTo frame.timestampMs).run animator with ⟨fault | _, revealed⟩
  · exact same_reveal_refl revealed
  · refine leads_bind same_reveal_trans (drift_motes_same_reveal _) (fun _ => ?_) revealed
    exact leads_modify (fun _ => ⟨rfl, rfl⟩)

theorem change_keeps_settings (happening : Happening α) (animator : Animator σ α) :
    (happening.change animator).settings = animator.settings := by
  cases happening with
  | began plan receiver subscription nowMs => rfl
  | stopped => rfl
  | reset => rfl
  | heeded frame => exact (change_same_run rfl animator).settings
  | emitted frame => rfl
  | published frame scene => rfl
  | handed receiver frame scene => rfl

/-- A frame's share of the leaves, where it can be told. -/
theorem advance_leaves_reaches (animator : Animator σ α) (leafStart : α) (quota : Int)
    (cursorLe : animator.leafCursor ≤ animator.leaves.length)
    (starts : animator.settings.leafStartMs animator.branches.length = .ok leafStart)
    (returned : animator.settings.leafQuota animator.leaves.length = .ok quota) :
    ∃ later, advanceLeaves.run animator = (.ok ⟨⟩, later) ∧
      later.branchCursor = animator.branchCursor ∧
      later.leafCursor =
        if leafStart < animator.elapsedMs then
          min (animator.leafCursor + quota.toNat) animator.leaves.length
        else animator.leafCursor := by
  rw [run_advance_leaves, starts]
  by_cases due : leafStart < animator.elapsedMs
  · simp only [due, if_true, returned]
    obtain ⟨fresh, random, ran, shown⟩ := run_reveal_leaves quota.toNat animator
    refine ⟨_, ran, rfl, ?_⟩
    have freshLength := shown.length_eq
    simp only [List.length_take, List.length_drop] at freshLength
    dsimp only
    omega
  · simp only [due, if_false]
    exact ⟨animator, rfl, rfl, rfl⟩

theorem advance_reveal_reaches (plan : RunPlan α) (animator : Animator σ α) (leafStart : α)
    (branchQuota leafQuota : Int) (performs : animator.Performs plan)
    (branchesReturned : animator.settings.branchQuota plan.branches.length = .ok branchQuota)
    (starts : animator.settings.leafStartMs plan.branches.length = .ok leafStart)
    (leavesReturned : animator.settings.leafQuota plan.leaves.length = .ok leafQuota) :
    let later := (advanceReveal.run animator).2
    later.branchCursor =
        min (animator.branchCursor + branchQuota.toNat) plan.branches.length ∧
      later.leafCursor =
        if leafStart < animator.elapsedMs then
          min (animator.leafCursor + leafQuota.toNat) plan.leaves.length
        else animator.leafCursor := by
  have branchesLength := performs.branches.as_many
  have leavesLength := performs.leaves.as_many
  have grown := with_branches_revealed plan.branches branchQuota.toNat animator performs.branches
  obtain ⟨shown, ran, branchCursor, leafCursor⟩ :=
    advance_leaves_reaches (animator.withBranches branchQuota.toNat) leafStart leafQuota
      (leavesLength ▸ performs.leaves.cursor_le) (by rw [grown.as_many]; exact starts)
      (by change animator.settings.leafQuota animator.leaves.length = _
          rw [leavesLength]; exact leavesReturned)
  have rest : Leads SameReveal (do shed; settle : AnimatorStep σ α Unit) :=
    leads_bind same_reveal_trans shed_same_reveal (fun _ => settle_same_reveal)
  have same := rest shown
  rw [advanceReveal, run_bind, run_advance_branches, branchesLength, branchesReturned]
  dsimp only
  rw [run_bind, ran]
  refine ⟨?_, ?_⟩
  · rw [same.branch_cursor, branchCursor, with_branches_cursor _ _
      (branchesLength ▸ performs.branches.cursor_le), branchesLength]
  · rw [same.leaf_cursor, leafCursor]
    change (if leafStart < animator.elapsedMs then
      min (animator.leafCursor + leafQuota.toNat) animator.leaves.length
      else animator.leafCursor) = _
    rw [leavesLength]

/-- The shares of a frame, while the run reveals and when it has settled alike. -/
theorem reveal_to_reaches (plan : RunPlan α) (nowMs : α) (animator : Animator σ α) (leafStart : α)
    (branchQuota leafQuota : Int) (performs : animator.Performs plan)
    (branchesReturned : animator.settings.branchQuota plan.branches.length = .ok branchQuota)
    (starts : animator.settings.leafStartMs plan.branches.length = .ok leafStart)
    (leavesReturned : animator.settings.leafQuota plan.leaves.length = .ok leafQuota) :
    let later := ((revealTo nowMs).run animator).2
    later.branchCursor =
        min (animator.branchCursor + branchQuota.toNat) plan.branches.length ∧
      later.leafCursor =
        if leafStart < (animator.atTime nowMs).elapsedMs then
          min (animator.leafCursor + leafQuota.toNat) plan.leaves.length
        else animator.leafCursor := by
  rw [revealTo, run_bind, run_get]
  simp only [run_bind, run_set]
  by_cases revealing : animator.phase = .revealing
  · rw [if_pos revealing]
    exact advance_reveal_reaches plan (animator.atTime nowMs) leafStart branchQuota leafQuota
      (at_time_continues plan nowMs animator performs) branchesReturned starts leavesReturned
  · rw [if_neg revealing, run_pure]
    have settled : animator.phase = .settled := by
      cases phase : animator.phase with
      | idle => exact absurd phase performs.awake
      | revealing => exact absurd phase revealing
      | settled => rfl
    obtain ⟨branchesDone, leavesDone⟩ := performs.settled settled
    rw [performs.branches.as_many] at branchesDone
    rw [performs.leaves.as_many] at leavesDone
    constructor
    · change animator.branchCursor = _
      omega
    · change animator.leafCursor = _
      split
      · omega
      · rfl

theorem heed_paced (course : Course α) (leafStart : α) (branchQuota leafQuota : Int)
    (frame : Frame α) (animator : Animator σ α)
    (starts : animator.settings.leafStartMs course.plan.branches.length = .ok leafStart)
    (branchesReturned :
      animator.settings.branchQuota course.plan.branches.length = .ok branchQuota)
    (leavesReturned : animator.settings.leafQuota course.plan.leaves.length = .ok leafQuota)
    (paced : animator.Paced leafStart branchQuota leafQuota course) :
    ((heed frame).run animator).2.Paced leafStart branchQuota leafQuota
      (course.heeding frame) := by
  have performs := heed_leads (continues_kept course.plan) frame animator paced.performs
  have started := (heed_same_run frame animator).started.trans paced.started
  have same := heed_same_reveal frame animator
  obtain ⟨branchCursor, leafCursor⟩ := reveal_to_reaches course.plan frame.timestampMs animator
    leafStart branchQuota leafQuota paced.performs branchesReturned starts leavesReturned
  have branchesBefore := paced.branch_cursor
  have leavesBefore := paced.leaf_cursor
  have elapsed : (animator.atTime frame.timestampMs).elapsedMs =
      elapsedAt course.startedAtMs frame := by
    rw [← paced.started]
    rfl
  refine ⟨performs, started, ?_, ?_⟩
  · rw [same.branch_cursor, branchCursor, branchesBefore, Course.heeding, List.length_append,
      List.length_singleton, Nat.add_mul, Nat.one_mul]
    dsimp only
    omega
  · rw [same.leaf_cursor, leafCursor, elapsed, leavesBefore, course.frames_after_heeding]
    change _ = min course.plan.leaves.length _
    by_cases late : leafStart < elapsedAt course.startedAtMs frame
    · rw [if_pos late, if_pos late, List.length_append, List.length_singleton, Nat.add_mul,
        Nat.one_mul]
      omega
    · rw [if_neg late, if_neg late, List.append_nil]

theorem change_on_pace (happening : Happening α) (course? : Option (Course α))
    (animator : Animator σ α) (onPace : animator.OnPace course?) :
    (happening.change animator).OnPace (happening.courseAfter course?) := by
  cases happening with
  | began plan receiver subscription nowMs =>
      intro leafStart branchQuota leafQuota _ _ _
      exact launched_paced plan receiver subscription nowMs leafStart branchQuota leafQuota animator
  | reset => exact idle_at_rest animator
  | stopped =>
      cases course? with
      | none => exact change_faithful .stopped none animator onPace
      | some course =>
          intro leafStart branchQuota leafQuota starts branchesReturned leavesReturned
          have paced :=
            onPace leafStart branchQuota leafQuota starts branchesReturned leavesReturned
          exact ⟨change_faithful .stopped (some course.plan) animator paced.performs, paced.started,
            paced.branch_cursor, paced.leaf_cursor⟩
  | heeded frame =>
      have kept := change_keeps_settings (.heeded frame) animator
      cases course? with
      | none => exact change_faithful (.heeded frame) none animator onPace
      | some course =>
          intro leafStart branchQuota leafQuota starts branchesReturned leavesReturned
          rw [kept] at starts branchesReturned leavesReturned
          have paced :=
            onPace leafStart branchQuota leafQuota starts branchesReturned leavesReturned
          rw [Happening.change, if_neg paced.performs.awake]
          exact heed_paced course leafStart branchQuota leafQuota frame animator starts
            branchesReturned leavesReturned paced
  | emitted frame => exact onPace
  | published frame scene => exact onPace
  | handed receiver frame scene => exact onPace

theorem replay_on_pace (history : List (Happening α)) (course? : Option (Course α))
    (animator : Animator σ α) (onPace : animator.OnPace course?) :
    (replay history animator).settings = animator.settings ∧
      (replay history animator).OnPace (history.foldl Happening.courseAfter course?) := by
  induction history generalizing course? animator with
  | nil => exact ⟨rfl, onPace⟩
  | cons happening history induction =>
      obtain ⟨kept, later⟩ := induction (happening.courseAfter course?) (happening.change animator)
        (change_on_pace happening course? animator onPace)
      exact ⟨kept.trans (change_keeps_settings happening animator), later⟩

end Animator

/-- The run that a session has come to keeps the pace of the frames that it has heeded. -/
theorem drive_paced [ChanceSource σ α] (clockMs : α) (first : Animator σ α)
    (atRest : first.AtRest) (batches : List (List (Command α))) (course : Course α)
    (leafStart : α) (branchQuota leafQuota : Int)
    (begun : courseOf (Session.drive batches (.initial clockMs first)).1 = some course)
    (starts : first.settings.leafStartMs course.plan.branches.length = .ok leafStart)
    (branchesReturned : first.settings.branchQuota course.plan.branches.length = .ok branchQuota)
    (leavesReturned : first.settings.leafQuota course.plan.leaves.length = .ok leafQuota) :
    (Session.drive batches (.initial clockMs first)).2.animator.Paced leafStart branchQuota
      leafQuota course := by
  have replayed := Session.drive_replays batches (.initial clockMs first)
  obtain ⟨settingsKept, onPace⟩ := Animator.replay_on_pace
    (Session.drive batches (.initial clockMs first)).1 none first atRest
  rw [← courseOf, begun] at onPace
  rw [replayed]
  apply onPace leafStart branchQuota leafQuota
  · rw [settingsKept]
    exact starts
  · rw [settingsKept]
    exact branchesReturned
  · rw [settingsKept]
    exact leavesReturned

/-- How far the run of a session has got, whatever the times of its frames: the cursors count the
frames that it heeded, and those of them that came late enough for leaves. -/
theorem cursors_count_the_frames_heeded [ChanceSource σ α] (clockMs : α)
    (settings : AnimationSettings α) (particleSettings : ParticleSettings α) (surface : Surface α)
    (random : σ) (sampler : FrameSampler) (batches : List (List (Command α)))
    (history : List (Happening α)) (session : Session σ α) (course : Course α)
    (branchQuota leafQuota : Int)
    (driven : Session.drive batches
        (.initial clockMs (.initial settings particleSettings surface random sampler)) =
      (history, session))
    (begun : courseOf history = some course)
    (branchesReturned : settings.branchQuota course.plan.branches.length = .ok branchQuota)
    (leavesReturned : settings.leafQuota course.plan.leaves.length = .ok leafQuota) :
    ∃ leafStart, settings.leafStartMs course.plan.branches.length = .ok leafStart ∧
      (session.animator.branchCursor : Int) =
        min (course.plan.branches.length : Int) (course.frames.length * branchQuota) ∧
      (session.animator.leafCursor : Int) =
        min (course.plan.leaves.length : Int) ((course.framesAfter leafStart).length * leafQuota) ∧
      (course.framesAfter leafStart = [] →
        ∀ leaf ∈ session.animator.leaves, leaf.revealed = false) := by
  obtain ⟨leafStart, starts⟩ := settings.leaf_start_returned _ _ branchesReturned
  have branchQuotaPositive := settings.branch_quota_positive _ _ branchesReturned
  have leafQuotaPositive := settings.leaf_quota_positive _ _ leavesReturned
  have paced : session.animator.Paced leafStart branchQuota leafQuota course := by
    have whole := drive_paced clockMs
      (.initial settings particleSettings surface random sampler)
      ⟨rfl, rfl, rfl, rfl, rfl, rfl, rfl, rfl⟩ batches course leafStart branchQuota leafQuota
    rw [driven] at whole
    exact whole begun starts branchesReturned leavesReturned
  have branchCursor := paced.branch_cursor
  have leafCursor := paced.leaf_cursor
  refine ⟨leafStart, starts, ?_, ?_, ?_⟩
  · have shares : (course.frames.length * branchQuota.toNat : Int) =
        course.frames.length * branchQuota := by
      rw [Int.toNat_of_nonneg (by omega)]
    rw [branchCursor, ← shares]
    omega
  · have shares : ((course.framesAfter leafStart).length * leafQuota.toNat : Int) =
        (course.framesAfter leafStart).length * leafQuota := by
      rw [Int.toNat_of_nonneg (by omega)]
    rw [leafCursor, ← shares]
    omega
  · intro noFrames
    rw [noFrames, List.length_nil, Nat.zero_mul, Nat.min_zero] at leafCursor
    exact Animator.unrevealed_leaves paced.performs leafCursor

/-! A run of one branch and two leaves, under a host whose clock jumps ahead and goes back. -/

def unsteadyPlan : RunPlan Float where
  branches :=
    [{ start := ⟨0.0, 0.0⟩, finish := ⟨0.0, 1.0⟩, thickness := 1.0, level := 0, colorKey := "" }]
  leaves := [.fresh ⟨0.0, 1.0⟩ 1.0 0.0 "" .leaf, .fresh ⟨0.0, 1.0⟩ 1.0 0.0 "" .flower]
  paletteIndex := 0
  particlesEnabled := false

def unsteadyHost : List (List (Command Float)) :=
  [[.start unsteadyPlan (some []), .setClock 16.0, .tick], [.setClock 5000.0, .tick],
    [.setClock 8.0, .tick, .stop, .tick]]

def unsteadySession : List (Happening Float) × Session Chance.Source Float :=
  Session.drive unsteadyHost
    (.initial 0.0 (.initial .usual .usual ⟨600.0, 600.0⟩ (.ofValues [0.5]) ⟨1, []⟩))

/-- Of the frames that were heeded the middle one was late, and the one after
the stop came to nothing. -/
theorem unsteady_session_cursors :
    ∃ course, courseOf unsteadySession.1 = some course ∧
      course.frames.map Frame.index = [0, 1, 2] ∧
      (unsteadySession.2.animator.branchCursor : Int) = min 1 (3 * 1) ∧
      (unsteadySession.2.animator.leafCursor : Int) = min 2 (1 * 1) := by
  obtain ⟨course, begun⟩ : ∃ course, courseOf unsteadySession.1 = some course :=
    Option.isSome_iff_exists.mp (by decide +kernel)
  have frames : (courseOf unsteadySession.1).map (fun course => course.frames.map Frame.index) =
      some [0, 1, 2] := by decide +kernel
  have branches : (courseOf unsteadySession.1).map (fun course => course.plan.branches.length) =
      some 1 := by decide +kernel
  have leaves : (courseOf unsteadySession.1).map (fun course => course.plan.leaves.length) =
      some 2 := by decide +kernel
  have late : (courseOf unsteadySession.1).map (fun course => (course.framesAfter 1050.0).length) =
      some 1 := by decide +kernel
  rw [begun] at frames branches leaves late
  simp only [Option.map_some, Option.some.injEq] at frames branches leaves late
  have many : course.frames.length = 3 := by
    rw [← List.length_map (f := Frame.index), frames]
    rfl
  obtain ⟨leafStart, starts, branchCursor, leafCursor, _⟩ :=
    cursors_count_the_frames_heeded 0.0 .usual .usual ⟨600.0, 600.0⟩ (.ofValues [0.5]) ⟨1, []⟩
      unsteadyHost unsteadySession.1 unsteadySession.2 course 1 1
      (by unfold unsteadySession; exact (Prod.eta _).symm) begun
      (by rw [branches]; rfl) (by rw [leaves]; rfl)
  rw [branches] at starts branchCursor
  rw [leaves] at leafCursor
  rw [many] at branchCursor
  have early : AnimationSettings.usual.leafStartMs (α := Float) 1 = .ok 1050.0 := rfl
  have same : leafStart = 1050.0 := Except.ok.inj (starts.symm.trans early)
  rw [same, late] at leafCursor
  exact ⟨course, begun, frames, branchCursor, leafCursor⟩

end Arboretum

import Arboretum.Proofs.Animation.Pace

/-!
When a run settles. The end of a reveal is looked for after everything else that a frame shows, so a
frame settles its run exactly when its reveal does not fail and leaves both cursors at their ends,
late enough. From then on frames only move the time and the motes. Hence a run has settled when some
frame was such a frame, and the phase changes with starts, resets and such frames only.
-/

namespace Arboretum

open Fallible

set_option autoImplicit false

variable {σ α : Type}

namespace Animator

structure SamePhase (before after : Animator σ α) : Prop where
  phase : after.phase = before.phase
  elapsed : after.elapsedMs = before.elapsedMs

theorem same_phase_refl (animator : Animator σ α) : animator.SamePhase animator := ⟨rfl, rfl⟩

theorem same_phase_trans (first second third : Animator σ α) (before : first.SamePhase second)
    (after : second.SamePhase third) : first.SamePhase third :=
  ⟨after.phase.trans before.phase, after.elapsed.trans before.elapsed⟩

/-- What the animator shows of its run, and in which phase. -/
structure SameDisplay (before after : Animator σ α) : Prop where
  phase : after.phase = before.phase
  branches : after.branches = before.branches
  leaves : after.leaves = before.leaves
  branch_cursor : after.branchCursor = before.branchCursor
  leaf_cursor : after.leafCursor = before.leafCursor

theorem same_display_refl (animator : Animator σ α) : animator.SameDisplay animator :=
  ⟨rfl, rfl, rfl, rfl, rfl⟩

theorem same_display_trans {first second third : Animator σ α} (before : first.SameDisplay second)
    (after : second.SameDisplay third) : first.SameDisplay third :=
  ⟨after.phase.trans before.phase, after.branches.trans before.branches,
    after.leaves.trans before.leaves, after.branch_cursor.trans before.branch_cursor,
    after.leaf_cursor.trans before.leaf_cursor⟩

/-- Nothing has changed but the motes and what the log remembers. -/
def OnlyMotesMoved (before after : Animator σ α) : Prop :=
  ∃ motes sampler, after = { before with motes, sampler }

theorem only_motes_moved_refl (animator : Animator σ α) : animator.OnlyMotesMoved animator :=
  ⟨animator.motes, animator.sampler, rfl⟩

theorem only_motes_moved_trans (first second third : Animator σ α)
    (before : first.OnlyMotesMoved second) (after : second.OnlyMotesMoved third) :
    first.OnlyMotesMoved third := by
  obtain ⟨_, _, rfl⟩ := before
  obtain ⟨motes, sampler, rfl⟩ := after
  exact ⟨motes, sampler, rfl⟩

variable [Scalar α]

/-- Everything is shown, and the time for it is over. -/
structure Complete (animator : Animator σ α) : Prop where
  branches : animator.branches.length ≤ animator.branchCursor
  leaves : animator.leaves.length ≤ animator.leafCursor
  late : ∃ settleAfterMs,
    animator.settings.settleAfterMs animator.branches.length = .ok settleAfterMs ∧
      settleAfterMs ≤ animator.elapsedMs

theorem is_complete_iff (animator : Animator σ α) :
    animator.isComplete = .ok true ↔ animator.Complete := by
  unfold isComplete
  by_cases branchesLeft : animator.branchCursor < animator.branches.length
  · simp only [branchesLeft, if_true]
    constructor
    · intro complete
      cases complete
    · intro complete
      have done := complete.branches
      omega
  by_cases leavesLeft : animator.leafCursor < animator.leaves.length
  · simp only [branchesLeft, leavesLeft, if_true, if_false]
    constructor
    · intro complete
      cases complete
    · intro complete
      have done := complete.leaves
      omega
  simp only [branchesLeft, leavesLeft, if_false]
  constructor
  · intro complete
    obtain ⟨settleAfterMs, settles, late⟩ := (bind_eq_ok _ _ _).mp complete
    have reached : decide (settleAfterMs ≤ animator.elapsedMs) = true := Except.ok.inj late
    exact ⟨by omega, by omega, settleAfterMs, settles, of_decide_eq_true reached⟩
  · intro complete
    obtain ⟨settleAfterMs, settles, late⟩ := complete.late
    apply (bind_eq_ok _ _ _).mpr
    refine ⟨settleAfterMs, settles, ?_⟩
    simp only [late, decide_true]
    rfl

theorem complete_of_only_motes_moved {before after : Animator σ α}
    (moved : before.OnlyMotesMoved after) : after.Complete ↔ before.Complete := by
  obtain ⟨motes, sampler, rfl⟩ := moved
  constructor
  · intro complete
    exact ⟨complete.branches, complete.leaves, complete.late⟩
  · intro complete
    exact ⟨complete.branches, complete.leaves, complete.late⟩

theorem run_settle (animator : Animator σ α) :
    settle.run animator =
      match animator.isComplete with
      | .ok true => (.ok ⟨⟩, { animator with phase := .settled })
      | .ok false => (.ok ⟨⟩, animator)
      | .error fault => (.error fault, animator) := by
  unfold settle
  simp only [run_bind, run_get, run_lift]
  rcases animator.isComplete with fault | complete
  · rfl
  · cases complete <;> rfl

/-- The look for the end settles a run that reveals exactly when it is complete. -/
theorem settle_settles_iff (animator : Animator σ α) (revealing : animator.phase = .revealing) :
    (settle.run animator).2.phase = .settled ↔
      (settle.run animator).1 = .ok ⟨⟩ ∧ (settle.run animator).2.Complete := by
  have complete := animator.is_complete_iff
  rw [run_settle]
  cases checked : animator.isComplete with
  | error fault => simp [revealing]
  | ok done =>
      rw [checked] at complete
      cases done with
      | false =>
          have incomplete : ¬ animator.Complete := by
            intro isComplete
            cases complete.mpr isComplete
          simp [revealing, incomplete]
      | true =>
          obtain ⟨branches, leaves, late⟩ := complete.mp rfl
          have completeStill : Complete { animator with phase := .settled } :=
            ⟨branches, leaves, late⟩
          simp [completeStill]

/-! The parts of a frame before the look for the end, and after it, leave the phase alone. -/

theorem advance_branches_same_phase :
    Leads SamePhase (advanceBranches : AnimatorStep σ α Unit) := by
  intro animator
  rw [run_advance_branches]
  cases animator.settings.branchQuota animator.branches.length with
  | error fault => exact same_phase_refl animator
  | ok quota => exact ⟨rfl, rfl⟩

variable [ChanceSource σ α]

theorem advance_leaves_same_phase : Leads SamePhase (advanceLeaves : AnimatorStep σ α Unit) := by
  intro animator
  obtain ⟨count, fresh, random, advanced, _⟩ := advance_leaves_replaces animator
  rw [advanced]
  exact ⟨rfl, rfl⟩

theorem shed_same_phase : Leads SamePhase (shed : AnimatorStep σ α Unit) := by
  intro animator
  obtain ⟨motes, random, shedding⟩ := shed_changes_motes animator
  rw [shedding]
  exact ⟨rfl, rfl⟩

/-- All that a frame reveals, before the look for the end. -/
def advanceShares : AnimatorStep σ α Unit := do
  advanceBranches
  advanceLeaves
  shed

theorem advance_shares_same_phase : Leads SamePhase (advanceShares : AnimatorStep σ α Unit) := by
  apply leads_bind same_phase_trans advance_branches_same_phase
  intro _
  exact leads_bind same_phase_trans advance_leaves_same_phase (fun _ => shed_same_phase)

theorem run_advance_reveal (animator : Animator σ α) :
    advanceReveal.run animator = (advanceShares >>= fun _ => settle).run animator := by
  unfold advanceReveal advanceShares
  simp only [bind_assoc]

/-- A frame's share of the reveal settles a run exactly when it does not fail and leaves the run
complete. -/
theorem advance_reveal_settles_iff (animator : Animator σ α)
    (revealing : animator.phase = .revealing) :
    (advanceReveal.run animator).2.phase = .settled ↔
      (advanceReveal.run animator).1 = .ok ⟨⟩ ∧ (advanceReveal.run animator).2.Complete := by
  have same := advance_shares_same_phase animator
  rw [run_advance_reveal, run_bind]
  rcases ran : advanceShares.run animator with ⟨fault | _, shown⟩
  · rw [ran] at same
    have stillRevealing : shown.phase = .revealing := same.phase.trans revealing
    simp [stillRevealing]
  · rw [ran] at same
    exact settle_settles_iff shown (same.phase.trans revealing)

theorem advance_reveal_phase (animator : Animator σ α) (revealing : animator.phase = .revealing) :
    (advanceReveal.run animator).2.phase = .revealing ∨
      (advanceReveal.run animator).2.phase = .settled := by
  have same := advance_shares_same_phase animator
  rw [run_advance_reveal, run_bind]
  rcases ran : advanceShares.run animator with ⟨fault | _, shown⟩
  · rw [ran] at same
    exact .inl (same.phase.trans revealing)
  · rw [ran] at same
    dsimp only
    rcases settle_changes_phase shown with unchanged | ⟨settled, _, _⟩
    · rw [unchanged]
      exact .inl (same.phase.trans revealing)
    · rw [settled]
      exact .inr rfl

theorem run_reveal_to (nowMs : α) (animator : Animator σ α) :
    (revealTo nowMs).run animator =
      if animator.phase = .revealing then advanceReveal.run (animator.atTime nowMs)
      else (.ok ⟨⟩, animator.atTime nowMs) := by
  unfold revealTo
  simp only [run_bind, run_get, run_set]
  by_cases revealing : animator.phase = .revealing
  · simp only [revealing, if_true]
  · simp only [revealing, if_false]
    rfl

theorem heed_after_reveal (frame : Frame α) (animator : Animator σ α) :
    ((revealTo frame.timestampMs).run animator).2.OnlyMotesMoved
      ((heed frame).run animator).2 := by
  unfold heed
  rw [run_bind, run_get]
  dsimp only
  rw [run_bind]
  rcases (revealTo frame.timestampMs).run animator with ⟨fault | _, revealed⟩
  · exact only_motes_moved_refl revealed
  · refine leads_bind only_motes_moved_trans (fun later => ?_) (fun _ => ?_) revealed
    · obtain ⟨motes, drifted⟩ :=
        drift_changes_motes (animator.sinceLastTick frame.timestampMs) later
      exact ⟨motes, later.sampler, drifted⟩
    · exact leads_modify (fun later => ⟨later.motes, _, rfl⟩)

theorem heed_phase (frame : Frame α) (animator : Animator σ α) :
    ((heed frame).run animator).2.phase =
      ((revealTo frame.timestampMs).run animator).2.phase := by
  obtain ⟨_, _, moved⟩ := heed_after_reveal frame animator
  rw [moved]

/-- A frame settles a run that reveals exactly when its reveal does not fail and leaves the run
complete. -/
theorem heed_settles_iff (frame : Frame α) (animator : Animator σ α)
    (revealing : animator.phase = .revealing) :
    ((heed frame).run animator).2.phase = .settled ↔
      ((revealTo frame.timestampMs).run animator).1 = .ok ⟨⟩ ∧
        ((heed frame).run animator).2.Complete := by
  have settles := advance_reveal_settles_iff (animator.atTime frame.timestampMs) revealing
  have complete := complete_of_only_motes_moved (heed_after_reveal frame animator)
  have reveals := run_reveal_to frame.timestampMs animator
  rw [if_pos revealing] at reveals
  rw [heed_phase, complete, reveals]
  exact settles

theorem reveal_to_elapsed (nowMs : α) (animator : Animator σ α) :
    ((revealTo nowMs).run animator).2.elapsedMs = (animator.atTime nowMs).elapsedMs := by
  rw [run_reveal_to]
  by_cases revealing : animator.phase = .revealing
  · have same := advance_shares_same_phase (animator.atTime nowMs)
    rw [if_pos revealing, run_advance_reveal, run_bind]
    rcases ran : advanceShares.run (animator.atTime nowMs) with ⟨fault | _, shown⟩
    · rw [ran] at same
      exact same.elapsed
    · rw [ran] at same
      dsimp only
      rcases settle_changes_phase shown with unchanged | ⟨settled, _, _⟩
      · rw [unchanged]
        exact same.elapsed
      · rw [settled]
        exact same.elapsed
  · rw [if_neg revealing]

/-- The frame that was heeded last tells how long the run has lasted. -/
theorem heed_elapsed (frame : Frame α) (animator : Animator σ α) :
    ((heed frame).run animator).2.elapsedMs = elapsedAt animator.startedAtMs frame := by
  obtain ⟨_, _, moved⟩ := heed_after_reveal frame animator
  rw [moved]
  exact reveal_to_elapsed frame.timestampMs animator

theorem heed_phase_cases (frame : Frame α) (animator : Animator σ α) :
    ((heed frame).run animator).2.phase = animator.phase ∨
      (animator.phase = .revealing ∧ ((heed frame).run animator).2.phase = .settled) := by
  rw [heed_phase, run_reveal_to]
  by_cases revealing : animator.phase = .revealing
  · rw [if_pos revealing]
    rcases advance_reveal_phase (animator.atTime frame.timestampMs) revealing with still | settled
    · exact .inl (still.trans revealing.symm)
    · exact .inr ⟨revealing, settled⟩
  · rw [if_neg revealing]
    exact .inl rfl

theorem heed_settled_display (frame : Frame α) (animator : Animator σ α)
    (settled : animator.phase = .settled) :
    animator.SameDisplay ((heed frame).run animator).2 := by
  obtain ⟨_, _, moved⟩ := heed_after_reveal frame animator
  have unrevealing : animator.phase ≠ .revealing := by simp [settled]
  rw [run_reveal_to, if_neg unrevealing] at moved
  rw [moved]
  exact ⟨rfl, rfl, rfl, rfl, rfl⟩

end Animator

namespace Happening

/-- Starts and resets take the run before them off the animator; a stop leaves it there. -/
def clearsRun : Happening α → Bool
  | .began _ _ _ _ | .reset => true
  | _ => false

/-- The phases that a happening may lead from and to. -/
def Turns (before after : GrowthPhase) : Happening α → Prop
  | .began _ _ _ _ => after = .revealing
  | .reset => after = .idle
  | .heeded _ => after = before ∨ (before = .revealing ∧ after = .settled)
  | _ => after = before

variable [Scalar α] [ChanceSource σ α]

theorem change_turns (happening : Happening α) (animator : Animator σ α) :
    happening.Turns animator.phase (happening.change animator).phase := by
  cases happening with
  | began plan receiver subscription nowMs => rfl
  | reset => rfl
  | heeded frame =>
      by_cases idle : animator.phase = .idle
      · simp only [change, idle, if_true]
        exact .inl rfl
      · simp only [change, idle, if_false]
        exact Animator.heed_phase_cases frame animator
  | stopped => rfl
  | emitted frame => rfl
  | published frame scene => rfl
  | handed receiver frame scene => rfl

/-- What has settled stays as it is until the next start or reset. -/
theorem change_settled_display {happening : Happening α} (keeps : happening.clearsRun = false)
    (animator : Animator σ α) (settled : animator.phase = .settled) :
    animator.SameDisplay (happening.change animator) := by
  cases happening with
  | began plan receiver subscription nowMs => cases keeps
  | reset => cases keeps
  | heeded frame =>
      have awake : animator.phase ≠ .idle := by simp [settled]
      simp only [change, awake, if_false]
      exact Animator.heed_settled_display frame animator settled
  | stopped => exact ⟨rfl, rfl, rfl, rfl, rfl⟩
  | emitted frame => exact Animator.same_display_refl animator
  | published frame scene => exact Animator.same_display_refl animator
  | handed receiver frame scene => exact Animator.same_display_refl animator

end Happening

namespace Animator

variable [Scalar α]

/-- The animator carries the run of a plan that began at a time, under given settings. -/
structure Carries (settings : AnimationSettings α) (plan : RunPlan α) (startedAtMs : α)
    (animator : Animator σ α) : Prop where
  performs : animator.Performs plan
  started : animator.startedAtMs = startedAtMs
  settings_kept : animator.settings = settings

/-- Both cursors of the run of a plan are at their ends, and the frame that led there came late
enough to settle it. -/
structure ShownInTime (settings : AnimationSettings α) (plan : RunPlan α) (startedAtMs : α)
    (frame : Frame α) (animator : Animator σ α) : Prop where
  branches : animator.branchCursor = plan.branches.length
  leaves : animator.leafCursor = plan.leaves.length
  late : ∃ settleAfterMs, settings.settleAfterMs plan.branches.length = .ok settleAfterMs ∧
    settleAfterMs ≤ elapsedAt startedAtMs frame

theorem launched_carries (plan : RunPlan α) (receiver subscription : Nat) (nowMs : α)
    (animator : Animator σ α) :
    Carries animator.settings plan nowMs
      ((animator.idle.launched plan receiver nowMs).listening subscription) :=
  ⟨launched_performs plan receiver subscription nowMs animator, rfl, rfl⟩

theorem complete_iff_shown_in_time {settings : AnimationSettings α} {plan : RunPlan α}
    {startedAtMs : α} {frame : Frame α} {animator : Animator σ α}
    (carries : animator.Carries settings plan startedAtMs)
    (elapsed : animator.elapsedMs = elapsedAt startedAtMs frame) :
    animator.Complete ↔ animator.ShownInTime settings plan startedAtMs frame := by
  obtain ⟨performs, _, rfl⟩ := carries
  have branchesLength := performs.branches.as_many
  have leavesLength := performs.leaves.as_many
  have branchesWithin := performs.branches.cursor_le
  have leavesWithin := performs.leaves.cursor_le
  constructor
  · rintro ⟨branches, leaves, late⟩
    rw [branchesLength, elapsed] at late
    exact ⟨by omega, by omega, late⟩
  · rintro ⟨branches, leaves, late⟩
    rw [← branchesLength, ← elapsed] at late
    exact ⟨by omega, by omega, late⟩

variable [ChanceSource σ α]

theorem change_carries {happening : Happening α} (keeps : happening.clearsRun = false)
    {settings : AnimationSettings α} {plan : RunPlan α} {startedAtMs : α} {animator : Animator σ α}
    (carries : animator.Carries settings plan startedAtMs) :
    (happening.change animator).Carries settings plan startedAtMs := by
  obtain ⟨performs, started, settingsKept⟩ := carries
  have faithful := change_faithful happening (some plan) animator performs
  have kept := (change_keeps_settings happening animator).trans settingsKept
  cases happening with
  | began other receiver subscription nowMs => cases keeps
  | reset => cases keeps
  | stopped => exact ⟨faithful, started, kept⟩
  | heeded frame =>
      have goesOn : (Happening.heeded frame).endsRun = false := rfl
      have same := change_same_run goesOn animator
      exact ⟨faithful, same.started.trans started, kept⟩
  | emitted frame => exact ⟨faithful, started, kept⟩
  | published frame scene => exact ⟨faithful, started, kept⟩
  | handed receiver frame scene => exact ⟨faithful, started, kept⟩

/-- The reveal of a frame does not fail, and after the frame the run is shown in time. -/
structure FinishedBy (settings : AnimationSettings α) (plan : RunPlan α) (startedAtMs : α)
    (frame : Frame α) (animator : Animator σ α) : Prop where
  unfailing : ((revealTo frame.timestampMs).run animator).1 = .ok ⟨⟩
  shown : ((heed frame).run animator).2.ShownInTime settings plan startedAtMs frame

section Run

variable {settings : AnimationSettings α} {plan : RunPlan α} {startedAtMs : α}

/-- A run has settled after a happening when it had before, or the happening is
a frame that finishes it. -/
theorem change_settled_iff {happening : Happening α} (keeps : happening.clearsRun = false)
    {animator : Animator σ α} (carries : animator.Carries settings plan startedAtMs) :
    (happening.change animator).phase = .settled ↔ animator.phase = .settled ∨
      ∃ frame, happening = .heeded frame ∧
        animator.FinishedBy settings plan startedAtMs frame := by
  cases settled : decide (animator.phase = .settled) with
  | true =>
      have settledBefore := of_decide_eq_true settled
      have same := Happening.change_settled_display keeps animator settledBefore
      simp [same.phase, settledBefore]
  | false =>
      have unsettled := of_decide_eq_false settled
      have revealing : animator.phase = .revealing := by
        have awake := carries.performs.awake
        cases phase : animator.phase <;> simp_all
      cases happening with
      | began other receiver subscription nowMs => cases keeps
      | reset => cases keeps
      | heeded frame =>
          have awake := carries.performs.awake
          have elapsed : ((heed frame).run animator).2.elapsedMs = elapsedAt startedAtMs frame := by
            rw [heed_elapsed, carries.started]
          have carriesStill : ((heed frame).run animator).2.Carries settings plan startedAtMs := by
            have changed :=
              change_carries (rfl : (Happening.heeded frame).clearsRun = false) carries
            simpa only [Happening.change, awake, if_false] using changed
          have complete := complete_iff_shown_in_time carriesStill elapsed
          simp only [Happening.change, awake, if_false, unsettled, false_or,
            Happening.heeded.injEq, exists_eq_left']
          rw [heed_settles_iff frame animator revealing, complete]
          constructor
          · rintro ⟨unfailing, shown⟩
            exact ⟨unfailing, shown⟩
          · rintro ⟨unfailing, shown⟩
            exact ⟨unfailing, shown⟩
      | stopped => simp [Happening.change, stopped, revealing]
      | emitted frame => simp [Happening.change, revealing]
      | published frame scene => simp [Happening.change, revealing]
      | handed receiver frame scene => simp [Happening.change, revealing]

/-- A run has settled when some frame since has finished it, whichever others
came before and after. -/
theorem replay_settled_iff {since : List (Happening α)}
    (keeps : ∀ happening ∈ since, happening.clearsRun = false) {animator : Animator σ α}
    (carries : animator.Carries settings plan startedAtMs) :
    (replay since animator).phase = .settled ↔ animator.phase = .settled ∨
      ∃ earlier frame later, since = earlier ++ .heeded frame :: later ∧
        (replay earlier animator).FinishedBy settings plan startedAtMs frame := by
  induction since generalizing animator with
  | nil => simp [replay]
  | cons happening since induction =>
      have here := keeps happening (List.mem_cons_self ..)
      have later := induction (fun other member => keeps other (List.mem_cons_of_mem _ member))
        (change_carries here carries)
      change (replay since (happening.change animator)).phase = .settled ↔ _
      rw [later, change_settled_iff here carries]
      constructor
      · rintro ((settled | ⟨frame, rfl, finished⟩) | ⟨earlier, frame, rest, rfl, finished⟩)
        · exact .inl settled
        · exact .inr ⟨[], frame, since, rfl, finished⟩
        · exact .inr ⟨happening :: earlier, frame, rest, rfl, finished⟩
      · rintro (settled | ⟨earlier, frame, rest, split, finished⟩)
        · exact .inl (.inl settled)
        · cases earlier with
          | nil =>
              obtain ⟨rfl, _⟩ := List.cons.inj split
              exact .inl (.inr ⟨frame, rfl, finished⟩)
          | cons first earlier =>
              obtain ⟨rfl, rest⟩ := List.cons.inj split
              exact .inr ⟨earlier, frame, _, rest, finished⟩

theorem replay_carries {since : List (Happening α)}
    (keeps : ∀ happening ∈ since, happening.clearsRun = false) {animator : Animator σ α}
    (carries : animator.Carries settings plan startedAtMs) :
    (replay since animator).Carries settings plan startedAtMs := by
  let goesOn : Animator σ α → Animator σ α → Prop := fun before after =>
    before.Carries settings plan startedAtMs → after.Carries settings plan startedAtMs
  have leads : goesOn animator (replay since animator) :=
    replay_leads goesOn (fun _ carried => carried)
      (fun _ _ _ early late carried => late (early carried))
      (fun happening member _ carried => change_carries (keeps happening member) carried) animator
  exact leads carries

end Run

theorem replay_settled_display {history : List (Happening α)}
    (keeps : ∀ happening ∈ history, happening.clearsRun = false) {animator : Animator σ α}
    (settled : animator.phase = .settled) : animator.SameDisplay (replay history animator) := by
  let staysSettled : Animator σ α → Animator σ α → Prop := fun before after =>
    before.phase = .settled → before.SameDisplay after
  have trans : ∀ a b c, staysSettled a b → staysSettled b c → staysSettled a c := by
    intro first second third early late settledFirst
    have here := early settledFirst
    exact same_display_trans here (late (here.phase.trans settledFirst))
  have leads : staysSettled animator (replay history animator) :=
    replay_leads staysSettled (fun later _ => same_display_refl later) trans
      (fun happening member => Happening.change_settled_display (keeps happening member)) animator
  exact leads settled

theorem replay_keeps_settings (history : List (Happening α)) (animator : Animator σ α) :
    (replay history animator).settings = animator.settings :=
  replay_leads (fun before after => after.settings = before.settings) (fun _ => rfl)
    (fun _ _ _ early late => late.trans early) (fun happening _ => change_keeps_settings happening)
    animator

end Animator

namespace Session

/-! The phases that starts, stops and resets lead to, whatever session they find. -/

theorem stop_phase (session : Session σ α) :
    (stop.run session).2.animator.phase = session.animator.phase := rfl

variable [Scalar α]

theorem reset_phase (session : Session σ α) : (reset.run session).2.animator.phase = .idle := by
  obtain ⟨remarks, cleared⟩ := run_reset session
  rw [cleared]
  rfl

theorem start_phase (plan : RunPlan α) (reactions : Reactions α) (session : Session σ α) :
    ((start plan (some reactions)).run session).2.animator.phase = .revealing := by
  obtain ⟨remarks, started⟩ := run_start plan reactions session
  rw [started]
  rfl

theorem start_refused_phase (plan : RunPlan α) (session : Session σ α) :
    ((start plan none).run session).2.animator.phase = session.animator.phase := by
  rw [run_start_refused]

end Session

/-- In any session, whatever the host commands and however receivers react: a run has settled when
some frame since its start finished it, without its reveal failing, and reveals otherwise; once
settled, what it shows stays as it is until the next start or reset; starts lead to revealing,
resets to idle, frames from revealing to settled, and no other phase ever follows another. -/
theorem settled_iff_a_frame_finished_the_run [Scalar α] [ChanceSource σ α] (clockMs : α)
    (settings : AnimationSettings α) (particleSettings : ParticleSettings α) (surface : Surface α)
    (random : σ) (sampler : FrameSampler) (batches : List (List (Command α))) :
    let first : Animator σ α := .initial settings particleSettings surface random sampler
    let driven := Session.drive batches (.initial clockMs first)
    (∀ before plan receiver subscription nowMs since,
      driven.1 = before ++ .began plan receiver subscription nowMs :: since →
        (∀ happening ∈ since, happening.clearsRun = false) →
          let started := Animator.replay (before ++ [.began plan receiver subscription nowMs]) first
          (driven.2.animator.phase = .settled ↔
              ∃ earlier frame later, since = earlier ++ .heeded frame :: later ∧
                (Animator.replay earlier started).FinishedBy settings plan nowMs frame) ∧
            (driven.2.animator.phase = .settled ∨ driven.2.animator.phase = .revealing)) ∧
      (∀ more, driven.2.animator.phase = .settled →
        (∀ happening ∈ (Session.drive more driven.2).1, happening.clearsRun = false) →
          driven.2.animator.SameDisplay (Session.drive more driven.2).2.animator) ∧
      driven.2.animator = Animator.replay driven.1 first ∧
      (∀ earlier happening later, driven.1 = earlier ++ happening :: later →
        happening.Turns (Animator.replay earlier first).phase
          (Animator.replay (earlier ++ [happening]) first).phase) ∧
      ∀ (session : Session σ α) (plan : RunPlan α),
        (Session.stop.run session).2.animator.phase = session.animator.phase ∧
          (Session.reset.run session).2.animator.phase = .idle ∧
          ((Session.start plan none).run session).2.animator.phase = session.animator.phase ∧
          ∀ reactions,
            ((Session.start plan (some reactions)).run session).2.animator.phase = .revealing := by
  intro first driven
  have replayed : driven.2.animator = Animator.replay driven.1 first :=
    Session.drive_replays batches (.initial clockMs first)
  refine ⟨?_, ?_, replayed, ?_, ?_⟩
  · intro before plan receiver subscription nowMs since split keeps started
    have settingsKept : (Animator.replay before first).settings = settings :=
      Animator.replay_keeps_settings before first
    have carries : started.Carries settings plan nowMs := by
      have launched := Animator.launched_carries plan receiver subscription nowMs
        (Animator.replay before first)
      rw [settingsKept] at launched
      simp only [started, replay_append]
      exact launched
    have ended : driven.2.animator = Animator.replay since started := by
      rw [replayed, split, ← List.singleton_append, ← List.append_assoc, replay_append]
    have revealing : started.phase = .revealing := by
      simp only [started, replay_append]
      rfl
    rw [ended]
    constructor
    · rw [Animator.replay_settled_iff keeps carries]
      simp [revealing]
    · have awake := (Animator.replay_carries keeps carries).performs.awake
      cases phase : (Animator.replay since started).phase <;> simp_all
  · intro more settled keeps
    have goesOn := Session.drive_replays more driven.2
    rw [goesOn]
    exact Animator.replay_settled_display keeps settled
  · intro earlier happening later _
    rw [replay_append]
    exact Happening.change_turns happening (Animator.replay earlier first)
  · intro session plan
    exact ⟨session.stop_phase, session.reset_phase, session.start_refused_phase plan,
      session.start_phase plan⟩

/-! Under settings that give a reveal no time at all, the share of the branches
cannot be told. A plan without branches and leaves is shown at once then, and the
frame that comes late enough fails. -/

def emptyPlan : RunPlan Float where
  branches := []
  leaves := []
  paletteIndex := 0
  particlesEnabled := false

def hastySettings : AnimationSettings Float := { AnimationSettings.usual with minRevealMs := 0.0 }

def hastyAnimator : Animator Chance.Source Float :=
  .initial hastySettings .usual ⟨600.0, 600.0⟩ (.ofValues [0.5]) ⟨1, []⟩

def hastySession : List (Happening Float) × Session Chance.Source Float :=
  Session.drive [[.start emptyPlan (some []), .setClock 5000.0, .tick]] (.initial 0.0 hastyAnimator)

set_option maxRecDepth 20000 in
theorem hasty_history : hastySession.1 =
    [.began emptyPlan 0 0 0.0, .emitted ⟨0, 5000.0⟩, .heeded ⟨0, 5000.0⟩] := rfl

/-- To be shown in time is not enough to settle: the reveal of the frame must not fail either. -/
theorem shown_in_time_without_settling :
    ¬ ∀ before plan receiver subscription nowMs since,
      hastySession.1 = before ++ .began plan receiver subscription nowMs :: since →
        (∀ happening ∈ since, happening.clearsRun = false) →
          let started :=
            Animator.replay (before ++ [.began plan receiver subscription nowMs]) hastyAnimator
          (hastySession.2.animator.phase = .settled ↔
            ∃ earlier frame later, since = earlier ++ .heeded frame :: later ∧
              ((Animator.heed frame).run (Animator.replay earlier started)).2.ShownInTime
                hastySettings plan nowMs frame) := by
  intro settles
  have onTime : ((Animator.heed ⟨0, 5000.0⟩).run (Animator.replay [.emitted ⟨0, 5000.0⟩]
      (Animator.replay [.began emptyPlan 0 0 0.0] hastyAnimator))).2.ShownInTime
        hastySettings emptyPlan 0.0 ⟨0, 5000.0⟩ :=
    ⟨by decide +kernel, by decide +kernel, 1000.0, rfl, by decide +kernel⟩
  have settled := (settles [] emptyPlan 0 0 0.0 _ hasty_history (by simp [Happening.clearsRun])).mpr
    ⟨[.emitted ⟨0, 5000.0⟩], ⟨0, 5000.0⟩, [], rfl, onTime⟩
  have revealing : hastySession.2.animator.phase = .revealing := by decide +kernel
  rw [revealing] at settled
  cases settled

/-! A run of one branch and two leaves that settles on the last of four frames, the
one that comes just in time. -/

def patientHost : List (List (Command Float)) :=
  [[.start unsteadyPlan (some []), .setClock 16.0, .tick, .setClock 5000.0, .tick],
    [.setClock 8.0, .tick, .setClock 2500.0, .tick]]

def patientAnimator : Animator Chance.Source Float :=
  .initial .usual .usual ⟨600.0, 600.0⟩ (.ofValues [0.5]) ⟨1, []⟩

def patientSession : List (Happening Float) × Session Chance.Source Float :=
  Session.drive patientHost (.initial 0.0 patientAnimator)

theorem patient_session_settles :
    (∃ plan receiver subscription nowMs since,
      patientSession.1 = .began plan receiver subscription nowMs :: since ∧
        plan.branches.length = 1 ∧ plan.leaves.length = 2 ∧
        ∃ earlier frame later, since = earlier ++ .heeded frame :: later ∧
          (Animator.replay earlier (Animator.replay
            [.began plan receiver subscription nowMs] patientAnimator)).FinishedBy
              .usual plan nowMs frame) ∧
      patientSession.2.animator.SameDisplay
        (Session.drive [[.setClock 9000.0, .tick, .stop]] patientSession.2).2.animator := by
  have settled : patientSession.2.animator.phase = .settled := by decide +kernel
  have begun : (patientSession.1.head?.bind (Happening.planAfter none)).map
      (fun plan => (plan.branches.length, plan.leaves.length)) = some (1, 2) := by decide +kernel
  have uncleared : patientSession.1.tail.all (fun happening => !happening.clearsRun) = true := by
    decide +kernel
  have unclearedLater : (Session.drive [[.setClock 9000.0, .tick, .stop]] patientSession.2).1.all
      (fun happening => !happening.clearsRun) = true := by decide +kernel
  have whole := settled_iff_a_frame_finished_the_run (0.0 : Float) .usual .usual ⟨600.0, 600.0⟩
    (Chance.Source.ofValues [0.5]) ⟨1, []⟩ patientHost
  dsimp only at whole
  rw [← patientAnimator, ← patientSession] at whole
  obtain ⟨settles, stays, _⟩ := whole
  constructor
  · cases history : patientSession.1 with
    | nil =>
        rw [history] at begun
        cases begun
    | cons happening since =>
        rw [history] at begun uncleared
        cases happening with
        | began plan receiver subscription nowMs =>
            have sizes := Prod.mk.inj (Option.some.inj begun)
            have keeps : ∀ other ∈ since, other.clearsRun = false := by
              simpa using uncleared
            obtain ⟨finished, _⟩ := settles [] plan receiver subscription nowMs since history keeps
            exact ⟨plan, receiver, subscription, nowMs, since, rfl, sizes.1, sizes.2,
              finished.mp settled⟩
        | _ => cases begun
  · apply stays [[.setClock 9000.0, .tick, .stop]] settled
    have kept := List.all_eq_true.mp unclearedLater
    intro happening member
    simpa using kept happening member

end Arboretum

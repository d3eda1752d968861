import Arboretum.Proofs.Animation.Replay

/-!
What an animator shows of the plan that its run was started with. While a run lasts, its lists
hold the planned branches and leaves, revealed exactly up to the cursors, and it is only settled
when both cursors have reached the end; without a run there is nothing at all. Every happening
keeps this, so it holds of the animator of any session, and the plan is the one of the last
start that no reset has followed.
-/

namespace Arboretum

open Fallible

set_option autoImplicit false

variable {σ α : Type}

/-- The plan of the run after a happening, if there is a run. -/
def Happening.planAfter (plan? : Option (RunPlan α)) : Happening α → Option (RunPlan α)
  | .began plan _ _ _ => some plan
  | .reset => none
  | _ => plan?

/-- The plan of the last start that no reset has followed. -/
def planOf (history : List (Happening α)) : Option (RunPlan α) :=
  history.foldl Happening.planAfter none

namespace Animator

/-- The animator shows the plan of a run, revealed up to its cursors. -/
structure Performs (plan : RunPlan α) (animator : Animator σ α) : Prop where
  branches : RevealedUpTo Branch.Stands plan.branches animator.branches animator.branchCursor
  leaves : RevealedUpTo LeafSite.Stands plan.leaves animator.leaves animator.leafCursor
  awake : animator.phase ≠ .idle
  settled : animator.phase = .settled →
    animator.branchCursor = animator.branches.length ∧ animator.leafCursor = animator.leaves.length

def Continues (plan : RunPlan α) (before after : Animator σ α) : Prop :=
  before.Performs plan → after.Performs plan

theorem continues_refl (plan : RunPlan α) (animator : Animator σ α) :
    animator.Continues plan animator := id

theorem continues_trans (plan : RunPlan α) (first second third : Animator σ α)
    (before : first.Continues plan second) (after : second.Continues plan third) :
    first.Continues plan third := fun performs => after (before performs)

theorem sampled_continues (plan : RunPlan α) (index : Nat) (animator : Animator σ α) :
    animator.Continues plan (animator.sampled index) := fun performs =>
  ⟨performs.branches, performs.leaves, performs.awake, performs.settled⟩

variable [Scalar α]

/-- The animator has nothing to show and nobody to show it to. -/
structure AtRest (animator : Animator σ α) : Prop where
  idle : animator.phase = .idle
  branches : animator.branches = []
  leaves : animator.leaves = []
  branch_cursor : animator.branchCursor = 0
  leaf_cursor : animator.leafCursor = 0
  elapsed : animator.elapsedMs = 0.0
  motes : animator.motes.particles = []
  receiver : animator.receiver = none

/-- The animator shows the plan of its run, if it has a run. -/
def Faithful (plan? : Option (RunPlan α)) (animator : Animator σ α) : Prop :=
  match plan? with
  | some plan => animator.Performs plan
  | none => animator.AtRest

theorem idle_at_rest (animator : Animator σ α) : animator.idle.AtRest :=
  ⟨rfl, rfl, rfl, rfl, rfl, rfl, rfl, rfl⟩

theorem launched_performs (plan : RunPlan α) (receiver subscription : Nat) (nowMs : α)
    (animator : Animator σ α) :
    ((animator.idle.launched plan receiver nowMs).listening subscription).Performs plan where
  branches := by
    refine revealed_up_to_concealed ?_ plan.branches
    intro branch
    rfl
  leaves := by
    refine revealed_up_to_concealed ?_ plan.leaves
    intro leaf
    cases marked : leaf.revealed with
    | true => exact ⟨0.0, by simp only [LeafSite.concealed, marked, if_true]⟩
    | false =>
        refine ⟨leaf.opacity, ?_⟩
        simp only [LeafSite.concealed, marked, Bool.false_eq_true, if_false]
        rw [← marked]
  awake := by
    intro idle
    cases idle
  settled := by
    intro settled
    cases settled

/-! Each part of a frame keeps the plan that is shown. -/

theorem at_time_continues (plan : RunPlan α) (nowMs : α) (animator : Animator σ α) :
    animator.Continues plan (animator.atTime nowMs) := fun performs =>
  ⟨performs.branches, performs.leaves, performs.awake, performs.settled⟩

theorem advance_branches_continues (plan : RunPlan α) :
    Leads (Continues plan) (advanceBranches : AnimatorStep σ α Unit) := by
  intro animator performs
  rw [run_advance_branches]
  cases animator.settings.branchQuota animator.branches.length with
  | error fault => exact performs
  | ok quota =>
      have cursorLe : animator.branchCursor ≤ animator.branches.length := by
        rw [performs.branches.as_many]
        exact performs.branches.cursor_le
      have revealed := with_branches_revealed plan.branches quota.toNat animator performs.branches
      refine ⟨revealed, performs.leaves, performs.awake, ?_⟩
      intro settled
      obtain ⟨branchesDone, leavesDone⟩ := performs.settled settled
      refine ⟨?_, leavesDone⟩
      rw [with_branches_cursor _ _ cursorLe, revealed.as_many, performs.branches.as_many.symm]
      omega

theorem drift_motes_continues (plan : RunPlan α) (dtMs : α) :
    Leads (Continues plan) (driftMotes dtMs : AnimatorStep σ α Unit) := by
  intro animator performs
  obtain ⟨motes, drifted⟩ := drift_changes_motes dtMs animator
  rw [drifted]
  exact ⟨performs.branches, performs.leaves, performs.awake, performs.settled⟩

theorem settle_continues (plan : RunPlan α) :
    Leads (Continues plan) (settle : AnimatorStep σ α Unit) := by
  intro animator performs
  rcases settle_changes_phase animator with unchanged | ⟨settled, branchesDone, leavesDone⟩
  · rw [unchanged]
    exact performs
  · rw [settled]
    refine ⟨performs.branches, performs.leaves, by simp, fun _ => ⟨?_, ?_⟩⟩
    · exact Nat.le_antisymm (performs.branches.as_many ▸ performs.branches.cursor_le) branchesDone
    · exact Nat.le_antisymm (performs.leaves.as_many ▸ performs.leaves.cursor_le) leavesDone

variable [ChanceSource σ α]

theorem advance_leaves_continues (plan : RunPlan α) :
    Leads (Continues plan) (advanceLeaves : AnimatorStep σ α Unit) := by
  intro animator performs
  have revealed := advance_leaves_revealed plan.leaves animator performs.leaves
  obtain ⟨count, fresh, random, advanced, shown⟩ := advance_leaves_replaces animator
  rw [advanced] at revealed ⊢
  refine ⟨performs.branches, revealed, performs.awake, ?_⟩
  intro settled
  obtain ⟨branchesDone, leavesDone⟩ := performs.settled settled
  refine ⟨branchesDone, ?_⟩
  -- No leaf is left to be shown, so no fresh one can have come.
  have freshLength := shown.length_eq
  have sameLength := revealed.as_many
  have leavesLength := performs.leaves.as_many
  simp only [List.length_take, List.length_drop] at freshLength
  dsimp only at sameLength ⊢
  omega

theorem shed_continues (plan : RunPlan α) :
    Leads (Continues plan) (shed : AnimatorStep σ α Unit) := by
  intro animator performs
  obtain ⟨motes, random, shedding⟩ := shed_changes_motes animator
  rw [shedding]
  exact ⟨performs.branches, performs.leaves, performs.awake, performs.settled⟩

theorem continues_kept (plan : RunPlan α) :
    KeptByFrames (Continues plan : Animator σ α → Animator σ α → Prop) where
  refl := continues_refl plan
  trans := continues_trans plan
  at_time := at_time_continues plan
  branches := advance_branches_continues plan
  leaves := advance_leaves_continues plan
  shed := shed_continues plan
  settle := settle_continues plan
  drift := drift_motes_continues plan
  sampled := sampled_continues plan

end Animator

/-- Every happening keeps an animator faithful. -/
theorem change_faithful [Scalar α] [ChanceSource σ α] (happening : Happening α)
    (plan? : Option (RunPlan α)) (animator : Animator σ α) (faithful : animator.Faithful plan?) :
    (happening.change animator).Faithful (happening.planAfter plan?) := by
  cases happening with
  | began plan receiver subscription nowMs =>
      exact Animator.launched_performs plan receiver subscription nowMs animator
  | reset => exact Animator.idle_at_rest animator
  | stopped =>
      cases plan? with
      | none =>
          exact ⟨faithful.idle, faithful.branches, faithful.leaves, faithful.branch_cursor,
            faithful.leaf_cursor, faithful.elapsed, faithful.motes, faithful.receiver⟩
      | some plan =>
          exact ⟨faithful.branches, faithful.leaves, faithful.awake, faithful.settled⟩
  | heeded frame =>
      cases plan? with
      | none =>
          simp only [Happening.change, faithful.idle, if_true]
          exact faithful
      | some plan =>
          simp only [Happening.change, faithful.awake, if_false]
          exact Animator.heed_leads (Animator.continues_kept plan) frame animator faithful
  | emitted frame => exact faithful
  | published frame scene => exact faithful
  | handed receiver frame scene => exact faithful

theorem replay_faithful [Scalar α] [ChanceSource σ α] (history : List (Happening α))
    (plan? : Option (RunPlan α)) (animator : Animator σ α) (faithful : animator.Faithful plan?) :
    (Animator.replay history animator).Faithful (history.foldl Happening.planAfter plan?) := by
  induction history generalizing plan? animator with
  | nil => exact faithful
  | cons happening history induction =>
      exact induction _ _ (change_faithful happening plan? animator faithful)

/-- In any session, whatever the host commands and however receivers react, the animator shows the
plan of its present run with exactly the entries behind its cursors revealed; it is settled only
with everything revealed, and without a run it is idle and empty. -/
theorem driven_animator_is_faithful [Scalar α] [ChanceSource σ α] (clockMs : α)
    (settings : AnimationSettings α) (particleSettings : ParticleSettings α) (surface : Surface α)
    (random : σ) (sampler : FrameSampler) (batches : List (List (Command α))) :
    let driven := Session.drive batches
      (.initial clockMs (.initial settings particleSettings surface random sampler))
    driven.2.animator.Faithful (planOf driven.1) := by
  intro driven
  have replayed := Session.drive_replays batches
    (.initial clockMs (.initial settings particleSettings surface random sampler))
  rw [replayed]
  exact replay_faithful _ none _ ⟨rfl, rfl, rfl, rfl, rfl, rfl, rfl, rfl⟩

end Arboretum

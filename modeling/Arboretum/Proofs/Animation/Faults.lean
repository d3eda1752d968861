import Arboretum.Proofs.Animation.Settling

/-!
What the reveal of a frame can fail with. A frame works with a few numbers: how long the reveal
lasts, the shares of branches and leaves, and how much of the leaves is shown. It fails where one of
them cannot be told, or where the source of chance refuses a mote its color, and nowhere else. Which
of the numbers can be told depends on the number system and is not asked here.
-/

namespace Arboretum

open Fallible

set_option autoImplicit false

variable {σ α : Type}

/-- The faults that the reveal of a frame can end with. -/
inductive Stumbles (σ : Type) {α : Type} [Scalar α] [ChanceSource σ α]
    (settings : AnimationSettings α) (plan : RunPlan α) : Fault → Prop where
  | duration {fault : Fault}
      (untold : settings.revealDurationMs plan.branches.length = .error fault) :
      Stumbles σ settings plan fault
  | branchShare {fault : Fault}
      (untold : settings.branchQuota plan.branches.length = .error fault) :
      Stumbles σ settings plan fault
  | leafShare {fault : Fault} (untold : settings.leafQuota plan.leaves.length = .error fault) :
      Stumbles σ settings plan fault
  | shownLeaves {shown : Nat} {fault : Fault} (within : shown ≤ plan.leaves.length)
      (leafy : 0 < plan.leaves.length)
      (untold : (Scalar.ratio shown plan.leaves.length : Except Fault α) = .error fault) :
      Stumbles σ settings plan fault
  | chance {fault : Fault} (refuses : Refuses σ fault) : Stumbles σ settings plan fault

namespace Animator

variable {settings : AnimationSettings α} {plan : RunPlan α} {startedAtMs : α}

theorem carries_of_parts {β : Type} {step : AnimatorStep σ α β} (same : Leads SameRun step)
    (continues : Leads (Continues plan) step) :
    Leads (fun before after => before.Carries settings plan startedAtMs →
      after.Carries settings plan startedAtMs) step := by
  intro animator carries
  exact ⟨continues animator carries.performs, (same animator).started.trans carries.started,
    (same animator).settings.trans carries.settings_kept⟩

variable [Scalar α] [ChanceSource σ α]

theorem advance_branches_stumbles :
    Endures (Carries settings plan startedAtMs) (Stumbles σ settings plan)
      (advanceBranches : AnimatorStep σ α Unit) := by
  refine endures_of_leads
    (carries_of_parts advance_branches_same_run (advance_branches_continues plan)) ?_
  intro animator carries fault failed
  rw [run_advance_branches, carries.settings_kept, carries.performs.branches.as_many] at failed
  cases told : settings.branchQuota plan.branches.length with
  | error other =>
      rw [told] at failed
      cases failed
      exact .branchShare told
  | ok quota =>
      rw [told] at failed
      cases failed

theorem advance_leaves_stumbles :
    Endures (Carries settings plan startedAtMs) (Stumbles σ settings plan)
      (advanceLeaves : AnimatorStep σ α Unit) := by
  refine endures_of_leads
    (carries_of_parts advance_leaves_same_run (advance_leaves_continues plan)) ?_
  intro animator carries fault failed
  rw [run_advance_leaves, carries.settings_kept, carries.performs.branches.as_many,
    carries.performs.leaves.as_many] at failed
  cases starts : settings.leafStartMs plan.branches.length with
  | error other =>
      rw [starts] at failed
      cases failed
      exact .duration (fault_of_made starts)
  | ok leafStart =>
      rw [starts] at failed
      dsimp only at failed
      split at failed
      · cases told : settings.leafQuota plan.leaves.length with
        | error other =>
            rw [told] at failed
            cases failed
            exact .leafShare told
        | ok quota =>
            obtain ⟨_, _, revealed, _⟩ := run_reveal_leaves quota.toNat animator
            rw [told] at failed
            dsimp only at failed
            rw [revealed] at failed
            cases failed
      · cases failed

theorem leaves_mostly_revealed_stumbles {animator : Animator σ α} {fault : Fault}
    (carries : animator.Carries settings plan startedAtMs)
    (failed : animator.leavesMostlyRevealed = .error fault) : Stumbles σ settings plan fault := by
  have leaves := carries.performs.leaves
  unfold leavesMostlyRevealed at failed
  by_cases empty : animator.leaves.isEmpty = true
  · rw [empty] at failed
    cases failed
  · have leafy : 0 < plan.leaves.length := by
      rw [← leaves.as_many, List.length_pos_iff]
      exact mt List.isEmpty_iff.mpr empty
    rw [if_neg empty, leaves.as_many] at failed
    cases told : (Scalar.ratio animator.leafCursor plan.leaves.length : Except Fault α) with
    | error other =>
        rw [told] at failed
        cases failed
        exact .shownLeaves leaves.cursor_le leafy told
    | ok share =>
        rw [told] at failed
        cases failed

theorem may_shed_stumbles {animator : Animator σ α} {fault : Fault}
    (carries : animator.Carries settings plan startedAtMs)
    (failed : animator.mayShed = .error fault) : Stumbles σ settings plan fault := by
  unfold mayShed at failed
  split at failed
  · cases failed
  rw [carries.settings_kept, carries.performs.branches.as_many] at failed
  cases lasts : settings.revealDurationMs plan.branches.length with
  | error other =>
      rw [lasts] at failed
      cases failed
      exact .duration lasts
  | ok duration =>
      rw [lasts] at failed
      change (if duration < animator.elapsedMs then animator.leavesMostlyRevealed
        else .ok false) = _ at failed
      split at failed
      · exact leaves_mostly_revealed_stumbles carries failed
      · cases failed

theorem shed_stumbles :
    Endures (Carries settings plan startedAtMs) (Stumbles σ settings plan)
      (shed : AnimatorStep σ α Unit) := by
  refine endures_of_leads (carries_of_parts shed_same_run (shed_continues plan)) ?_
  intro animator carries fault failed
  rw [run_shed] at failed
  cases told : animator.mayShed with
  | error other =>
      rw [told] at failed
      cases failed
      exact may_shed_stumbles carries told
  | ok may =>
      rw [told] at failed
      cases may with
      | false => cases failed
      | true =>
          have rises := ParticleSystem.maybe_spawn_endures animator.motes animator.random trivial
          dsimp only at failed
          rw [run_maybe_spawn] at failed
          rcases ran : animator.motes.maybeSpawn.run animator.random with ⟨refused | result, random⟩
          · rw [ran] at rises failed
            cases failed
            exact .chance rises
          · rw [ran] at failed
            cases failed

theorem settle_stumbles :
    Endures (Carries settings plan startedAtMs) (Stumbles σ settings plan)
      (settle : AnimatorStep σ α Unit) := by
  refine endures_of_leads (carries_of_parts settle_same_run (settle_continues plan)) ?_
  intro animator carries fault failed
  have untold : animator.isComplete = .error fault := by
    rw [run_settle] at failed
    cases checked : animator.isComplete with
    | error other =>
        rw [checked] at failed
        exact congrArg Except.error (Except.error.inj failed)
    | ok complete =>
        rw [checked] at failed
        cases complete <;> cases failed
  unfold isComplete at untold
  split at untold
  · cases untold
  split at untold
  · cases untold
  rw [carries.settings_kept, carries.performs.branches.as_many] at untold
  cases settles : settings.settleAfterMs plan.branches.length with
  | error other =>
      rw [settles] at untold
      cases untold
      exact .duration (fault_of_made settles)
  | ok settleAfter =>
      rw [settles] at untold
      cases untold

theorem advance_reveal_stumbles :
    Endures (Carries settings plan startedAtMs) (Stumbles σ settings plan)
      (advanceReveal : AnimatorStep σ α Unit) := by
  apply endures_bind advance_branches_stumbles
  intro _
  apply endures_bind advance_leaves_stumbles
  intro _
  exact endures_bind shed_stumbles fun _ => settle_stumbles

/-- Moving on to a frame fails where one of its numbers cannot be told or a color is refused. -/
theorem reveal_to_stumbles (nowMs : α) :
    Endures (Carries settings plan startedAtMs) (Stumbles σ settings plan)
      (revealTo nowMs : AnimatorStep σ α Unit) := by
  intro animator carries
  have onTime : (animator.atTime nowMs).Carries settings plan startedAtMs :=
    ⟨at_time_continues plan nowMs animator carries.performs, carries.started, carries.settings_kept⟩
  rw [run_reveal_to]
  split
  · exact advance_reveal_stumbles _ onTime
  · exact onTime

end Animator

end Arboretum

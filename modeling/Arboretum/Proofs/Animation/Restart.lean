import Arboretum.Proofs.Animation.Canvas
import Arboretum.Proofs.Animation.Renewal

/-!
Starting over. The frames of a run mark entries as revealed and give leaves an opacity; concealing
the entries takes back just that. So a run that was begun with nothing revealed is begun again by a
start with the lists of any of its scenes, whatever the run has come to. The start discards the
present lists first; a scene of them then reads them where they were laid aside.
-/

namespace Arboretum

open Fallible

set_option autoImplicit false

variable {σ α : Type}

theorem concealed_shown_branch (branch : Branch α) :
    branch.shown.concealed = branch.concealed := rfl

/-- The plan reveals nothing by itself, and none of its leaves can be seen. -/
structure RunPlan.IsFresh [Scalar α] (plan : RunPlan α) : Prop where
  branches : ∀ branch ∈ plan.branches, branch.revealed = false
  leaves : ∀ leaf ∈ plan.leaves, leaf.revealed = false ∧ leaf.opacity = 0.0

namespace RunPlan

variable [Scalar α] {plan : RunPlan α}

theorem fresh_branches_concealed (fresh : plan.IsFresh) :
    plan.branches.map Branch.concealed = plan.branches := by
  refine (List.map_congr_left fun branch member => ?_).trans (List.map_id _)
  rw [Branch.concealed, ← fresh.branches branch member]
  rfl

theorem fresh_leaves_concealed (fresh : plan.IsFresh) :
    plan.leaves.map LeafSite.concealed = plan.leaves := by
  refine (List.map_congr_left fun leaf member => ?_).trans (List.map_id _)
  rw [LeafSite.concealed, (fresh.leaves leaf member).1]
  rfl

end RunPlan

/-- Entries replaced from the cursor on are told alike before and after, if the fresh ones are. -/
theorem map_replaced {β γ : Type} (tell : β → γ) (cursor count : Nat) (entries fresh : List β)
    (same : fresh.map tell = ((entries.drop cursor).take count).map tell) :
    (entries.take cursor ++ fresh ++ entries.drop (cursor + fresh.length)).map tell =
      entries.map tell := by
  have counted := congrArg List.length same
  simp only [List.length_map, List.length_take, List.length_drop] at counted
  have rest : (entries.drop cursor).drop fresh.length = (entries.drop cursor).drop count := by
    rw [counted]
    by_cases enough : count ≤ entries.length - cursor
    · rw [Nat.min_eq_left enough]
    · rw [List.drop_of_length_le (by simp; omega), List.drop_of_length_le (by simp; omega)]
  rw [← List.drop_drop, rest, List.map_append, List.map_append, same, ← List.map_append,
    ← List.map_append, List.append_assoc, List.take_append_drop, List.take_append_drop]

namespace Animator

variable [Scalar α]

/-- Concealed, the lists are those of the plan; a leaf that is not revealed cannot be seen. -/
structure Recalls (plan : RunPlan α) (animator : Animator σ α) : Prop where
  branches : animator.branches.map Branch.concealed = plan.branches
  leaves : animator.leaves.map LeafSite.concealed = plan.leaves
  unseen : ∀ leaf ∈ animator.leaves, leaf.revealed = false → leaf.opacity = 0.0

def KeepsRecalling (plan : RunPlan α) (before after : Animator σ α) : Prop :=
  before.Recalls plan → after.Recalls plan

theorem recalls_of_same {plan : RunPlan α} {before after : Animator σ α}
    (branches : after.branches = before.branches) (leaves : after.leaves = before.leaves) :
    before.KeepsRecalling plan after := by
  intro recalls
  refine ⟨?_, ?_, ?_⟩
  · rw [branches]
    exact recalls.branches
  · rw [leaves]
    exact recalls.leaves
  · rw [leaves]
    exact recalls.unseen

theorem concealed_shown_leaf (leaf : LeafSite α) (opacity : α)
    (unseen : leaf.revealed = false → leaf.opacity = 0.0) :
    (leaf.shown opacity).concealed = leaf.concealed := by
  cases revealed : leaf.revealed with
  | true => simp [LeafSite.concealed, LeafSite.shown, revealed]
  | false =>
      have dark := unseen revealed
      rcases leaf with ⟨⟩
      simp_all [LeafSite.concealed, LeafSite.shown]

/-- Leaves that were shown are revealed, and concealed again they are as they would have been. -/
theorem shown_leaves_concealed {old new : List (LeafSite α)}
    (shown : List.Forall₂ (fun old new => ∃ opacity, new = LeafSite.shown opacity old) old new)
    (unseen : ∀ leaf ∈ old, leaf.revealed = false → leaf.opacity = 0.0) :
    new.map LeafSite.concealed = old.map LeafSite.concealed ∧
      ∀ leaf ∈ new, leaf.revealed = true := by
  induction shown with
  | nil => simp
  | @cons leaf _ _ _ here _ induction =>
      obtain ⟨opacity, rfl⟩ := here
      obtain ⟨dark, others⟩ := List.forall_mem_cons.mp unseen
      obtain ⟨concealed, revealed⟩ := induction others
      refine ⟨?_, List.forall_mem_cons.mpr ⟨rfl, revealed⟩⟩
      rw [List.map_cons, List.map_cons, concealed_shown_leaf leaf opacity dark, concealed]

theorem launched_recalls {plan : RunPlan α} (fresh : plan.IsFresh) (receiver subscription : Nat)
    (nowMs : α) (animator : Animator σ α) :
    ((animator.launched plan receiver nowMs).listening subscription).Recalls plan := by
  refine ⟨?_, ?_, ?_⟩
  · change (plan.branches.map Branch.concealed).map Branch.concealed = _
    rw [RunPlan.fresh_branches_concealed fresh, RunPlan.fresh_branches_concealed fresh]
  · change (plan.leaves.map LeafSite.concealed).map LeafSite.concealed = _
    rw [RunPlan.fresh_leaves_concealed fresh, RunPlan.fresh_leaves_concealed fresh]
  · change ∀ leaf ∈ plan.leaves.map LeafSite.concealed, _
    rw [RunPlan.fresh_leaves_concealed fresh]
    exact fun leaf member _ => (fresh.leaves leaf member).2

theorem advance_branches_recalls (plan : RunPlan α) :
    Leads (KeepsRecalling plan) (advanceBranches : AnimatorStep σ α Unit) := by
  intro animator
  rw [run_advance_branches]
  cases animator.settings.branchQuota animator.branches.length with
  | error fault => exact id
  | ok quota =>
      intro recalls
      refine ⟨?_, recalls.leaves, recalls.unseen⟩
      change (changedFrom animator.branchCursor quota.toNat Branch.shown animator.branches).map
        Branch.concealed = _
      rw [changed_from_replaces, map_replaced Branch.concealed animator.branchCursor quota.toNat]
      · exact recalls.branches
      · rw [List.map_map]
        exact List.map_congr_left fun branch _ => concealed_shown_branch branch

theorem settle_recalls (plan : RunPlan α) :
    Leads (KeepsRecalling plan) (settle : AnimatorStep σ α Unit) := by
  intro animator
  rcases settle_changes_phase animator with unchanged | ⟨settled, _, _⟩
  · rw [unchanged]
    exact id
  · rw [settled]
    exact recalls_of_same rfl rfl

theorem drift_motes_recalls (plan : RunPlan α) (dtMs : α) :
    Leads (KeepsRecalling plan) (driftMotes dtMs : AnimatorStep σ α Unit) := by
  intro animator
  obtain ⟨motes, drifted⟩ := drift_changes_motes dtMs animator
  rw [drifted]
  exact recalls_of_same rfl rfl

variable [ChanceSource σ α]

theorem advance_leaves_recalls (plan : RunPlan α) :
    Leads (KeepsRecalling plan) (advanceLeaves : AnimatorStep σ α Unit) := by
  intro animator recalls
  obtain ⟨count, fresh, random, advanced, shown⟩ := advance_leaves_replaces animator
  obtain ⟨concealed, revealed⟩ := shown_leaves_concealed shown fun leaf member =>
    recalls.unseen leaf (List.mem_of_mem_drop (List.mem_of_mem_take member))
  rw [advanced]
  refine ⟨recalls.branches, ?_, ?_⟩
  · exact (map_replaced LeafSite.concealed _ count _ fresh concealed).trans recalls.leaves
  · intro leaf member unrevealed
    rcases List.mem_append.mp member with early | behind
    · rcases List.mem_append.mp early with before | there
      · exact recalls.unseen leaf (List.mem_of_mem_take before) unrevealed
      · rw [revealed leaf there] at unrevealed
        cases unrevealed
    · exact recalls.unseen leaf (List.mem_of_mem_drop behind) unrevealed

theorem shed_recalls (plan : RunPlan α) :
    Leads (KeepsRecalling plan) (shed : AnimatorStep σ α Unit) := by
  intro animator
  obtain ⟨motes, random, shedding⟩ := shed_changes_motes animator
  rw [shedding]
  exact recalls_of_same rfl rfl

theorem recalling_kept (plan : RunPlan α) :
    KeptByFrames (KeepsRecalling plan : Animator σ α → Animator σ α → Prop) where
  refl _ := id
  trans _ _ _ before after := after ∘ before
  at_time _ _ := recalls_of_same rfl rfl
  branches := advance_branches_recalls plan
  leaves := advance_leaves_recalls plan
  shed := shed_recalls plan
  settle := settle_recalls plan
  drift := drift_motes_recalls plan
  sampled _ _ := recalls_of_same rfl rfl

/-- Whatever happens to the run of a fresh plan, its lists recall the plan. -/
theorem run_recalls {plan : RunPlan α} (fresh : plan.IsFresh) {since : List (Happening α)}
    (keeps : ∀ happening ∈ since, happening.clearsRun = false) (receiver subscription : Nat)
    (nowMs : α) (animator : Animator σ α) :
    (replay (.began plan receiver subscription nowMs :: since) animator).Recalls plan := by
  have each : ∀ happening ∈ since, ∀ animator : Animator σ α,
      animator.KeepsRecalling plan (happening.change animator) := by
    intro happening member animator
    cases happening with
    | began plan receiver subscription nowMs => cases keeps _ member
    | reset => cases keeps _ member
    | stopped => exact recalls_of_same rfl rfl
    | heeded frame =>
        rw [Happening.change]
        split
        · exact id
        · exact heed_leads (recalling_kept plan) frame animator
    | emitted frame => exact id
    | published frame scene => exact id
    | handed receiver frame scene => exact id
  exact replay_leads (KeepsRecalling plan) (fun _ => id) (fun _ _ _ before after => after ∘ before)
    each _ (launched_recalls fresh receiver subscription nowMs animator.idle)

end Animator

namespace Session

variable [Scalar α]

/-- A scene of the present run or of an earlier one reads the same once the
present lists are discarded. -/
theorem scene_after_cancel (session : Session σ α) (still : Still α)
    (taken : still.canvas ≤ session.animator.canvas) :
    (cancel.run session).2.scene still = session.scene still := by
  obtain ⟨remarks, cancelled⟩ := run_cancel session
  have further : still.canvas ≠ session.animator.idle.canvas := by
    change still.canvas ≠ session.animator.canvas + 1
    omega
  rw [cancelled, scene, scene, if_neg further, Entries.find?_put]
  by_cases present : still.canvas = session.animator.canvas
  · rw [if_pos present, if_pos present.symm]
  · rw [if_neg present, if_neg (Ne.symm present)]

/-- Plans that differ in nothing but what a start conceals begin the same run. -/
theorem start_alike (plan plan' : RunPlan α) (reactions : Reactions α) (session : Session σ α)
    (branches : plan.branches.map Branch.concealed = plan'.branches.map Branch.concealed)
    (leaves : plan.leaves.map LeafSite.concealed = plan'.leaves.map LeafSite.concealed)
    (palette : plan.paletteIndex = plan'.paletteIndex)
    (particles : plan.particlesEnabled = plan'.particlesEnabled) :
    let begun := (start plan (some reactions)).run session
    let begun' := (start plan' (some reactions)).run session
    begun.1 = begun'.1 ∧ ∃ chronicle, begun.2 = { begun'.2 with chronicle } := by
  obtain ⟨remarks, cancelled⟩ := run_cancel { session with runs := session.runs + 1 }
  have launched (receiver : Nat) (nowMs : α) (animator : Animator σ α) :
      animator.launched plan receiver nowMs = animator.launched plan' receiver nowMs := by
    rw [Animator.launched, Animator.launched, branches, leaves, palette, particles]
  simp only [start, run_bind, run_modify, cancelled, run_get, run_add_receiver, run_launch,
    run_lift, launched]
  generalize AnimationSettings.revealDurationMs (α := α) _ _ = duration
  cases duration with
  | error fault => exact ⟨rfl, _, rfl⟩
  | ok duration => exact ⟨rfl, _, rfl⟩

variable [ChanceSource σ α]

/-- The lists that a scene of a fresh run is read from give back the plan of the run. -/
theorem scene_recalls {earlier since later : List (Happening α)} {plan : RunPlan α}
    {receiver subscription : Nat} {nowMs : α} {outset now : Session σ α}
    (archived : Archived
      (earlier ++ .began plan receiver subscription nowMs :: (since ++ later)) outset now)
    (keeps : ∀ happening ∈ since, happening.clearsRun = false) (fresh : plan.IsFresh) :
    let moment :=
      Animator.replay (earlier ++ .began plan receiver subscription nowMs :: since) outset.animator
    moment.canvas ≤ now.animator.canvas ∧
      (now.scene moment.still).allBranches.map Branch.concealed = plan.branches ∧
      (now.scene moment.still).allLeaves.map LeafSite.concealed = plan.leaves := by
  intro moment
  rw [← List.cons_append, ← List.append_assoc] at archived
  obtain ⟨further, goesOn, read⟩ := archived_finds archived
  have keepsOn : ∀ happening ∈ since ++ further, happening.clearsRun = false := by
    intro happening member
    rcases List.mem_append.mp member with early | late
    · exact keeps happening early
    · exact goesOn happening late
  have recalls := Animator.run_recalls fresh keepsOn receiver subscription nowMs
    (Animator.replay earlier outset.animator)
  rw [← List.cons_append, ← replay_append, ← List.append_assoc, replay_append] at recalls
  refine ⟨?_, ?_, ?_⟩
  · rw [archived.animator, replay_append]
    exact replay_canvas_le later moment
  · rw [read]
    exact recalls.branches
  · rw [read]
    exact recalls.leaves

end Session

/-- In any session, at any time after a scene of a run was taken: if the run was begun with
nothing revealed, a start with the lists of the scene does the same as a start with the
lists of its plan. The lists are read after the start has discarded those of the present
run, and read as they were before. -/
theorem a_run_starts_over_from_its_scenes [Scalar α] [ChanceSource σ α] (clockMs : α)
    (settings : AnimationSettings α) (particleSettings : ParticleSettings α) (surface : Surface α)
    (random : σ) (sampler : FrameSampler) :
    let outset : Session σ α :=
      .initial clockMs (.initial settings particleSettings surface random sampler)
    (∀ batches, Session.Archived (Session.drive batches outset).1 outset
      (Session.drive batches outset).2) ∧
      ∀ earlier plan receiver subscription nowMs since later (now : Session σ α),
        Session.Archived (earlier ++ .began plan receiver subscription nowMs :: (since ++ later))
          outset now →
        (∀ happening ∈ since, happening.clearsRun = false) → plan.IsFresh →
          let taken := (Animator.replay
            (earlier ++ .began plan receiver subscription nowMs :: since) outset.animator).still
          let discarded := (Session.cancel.run now).2
          discarded.scene taken = now.scene taken ∧
            ∀ paletteIndex particlesEnabled reactions,
              let anew : RunPlan α := { plan with paletteIndex, particlesEnabled }
              let again : RunPlan α :=
                { anew with
                  branches := (discarded.scene taken).allBranches
                  leaves := (discarded.scene taken).allLeaves }
              let restarted := (Session.start again (some reactions)).run now
              let started := (Session.start anew (some reactions)).run now
              restarted.1 = started.1 ∧
                (∃ chronicle, restarted.2 = { started.2 with chronicle }) ∧
                restarted.2.animator.branches = plan.branches ∧
                restarted.2.animator.leaves = plan.leaves ∧
                restarted.2.animator.branchCursor = 0 ∧ restarted.2.animator.leafCursor = 0 ∧
                restarted.2.animator.phase = .revealing := by
  intro outset
  refine ⟨fun batches => Session.drive_archived batches outset, ?_⟩
  intro earlier plan receiver subscription nowMs since later now archived keeps fresh taken
    discarded
  obtain ⟨present, branches, leaves⟩ := Session.scene_recalls archived keeps fresh
  have same : discarded.scene taken = now.scene taken :=
    Session.scene_after_cancel now taken present
  refine ⟨same, fun paletteIndex particlesEnabled reactions => ?_⟩
  intro anew again restarted started
  have freshBranches := RunPlan.fresh_branches_concealed fresh
  have freshLeaves := RunPlan.fresh_leaves_concealed fresh
  have againBranches : again.branches.map Branch.concealed = plan.branches := by
    change (discarded.scene taken).allBranches.map _ = _
    rw [same]
    exact branches
  have againLeaves : again.leaves.map LeafSite.concealed = plan.leaves := by
    change (discarded.scene taken).allLeaves.map _ = _
    rw [same]
    exact leaves
  obtain ⟨outcome, alike⟩ := Session.start_alike again anew reactions now
    (againBranches.trans freshBranches.symm) (againLeaves.trans freshLeaves.symm) rfl rfl
  refine ⟨outcome, alike, ?_⟩
  obtain ⟨remarks, begun⟩ := Session.run_start again reactions now
  change restarted.2 = _ at begun
  rw [begun]
  exact ⟨againBranches, againLeaves, rfl, rfl, rfl⟩

/-! A run that is stopped when one of its leaves is revealed, and started over
from what it shows then. -/

def haltedHost : List (List (Command Float)) :=
  [[.start unsteadyPlan (some [])], [.setClock 5000.0, .tick, .stop]]

def haltedSession : List (Happening Float) × Session Chance.Source Float :=
  Session.drive haltedHost (.initial 0.0 patientAnimator)

theorem unsteady_plan_is_fresh : unsteadyPlan.IsFresh := by
  constructor
  · intro branch member
    cases List.mem_singleton.mp member
    rfl
  · intro leaf member
    simp only [unsteadyPlan, List.mem_cons, List.not_mem_nil, or_false] at member
    rcases member with rfl | rfl <;> exact ⟨rfl, rfl⟩

theorem halted_history : ∃ since, haltedSession.1 = .began unsteadyPlan 0 0 0.0 :: since := by
  have begun : ((Session.initial 0.0 patientAnimator).run
      [.start unsteadyPlan (some [])]).2.chronicle.toList = [.began unsteadyPlan 0 0 0.0] := rfl
  rw [haltedSession, haltedHost, Session.drive, begun]
  exact ⟨_, rfl⟩

theorem halted_run_starts_over :
    let shown := (Session.cancel.run haltedSession.2).2.scene haltedSession.2.still
    let restarted := (Session.start ⟨shown.allBranches, shown.allLeaves, 0, false⟩ (some [])).run
      haltedSession.2
    haltedSession.2.animator.leafCursor = 1 ∧
      shown.allLeaves.map LeafSite.revealed = [true, false] ∧
      restarted.2.animator.leafCursor = 0 ∧ restarted.2.animator.leaves = unsteadyPlan.leaves := by
  dsimp only
  obtain ⟨driven, startsOver⟩ := a_run_starts_over_from_its_scenes (0.0 : Float) .usual .usual
    ⟨600.0, 600.0⟩ (Chance.Source.ofValues [0.5]) ⟨1, []⟩
  rw [← patientAnimator] at driven startsOver
  have archived : Session.Archived haltedSession.1 (.initial 0.0 patientAnimator) haltedSession.2 :=
    driven haltedHost
  obtain ⟨since, history⟩ := halted_history
  have keeps : haltedSession.1.tail.all (fun happening => !happening.clearsRun) = true := by
    decide +kernel
  rw [history] at keeps archived
  have goesOn : ∀ happening ∈ since, happening.clearsRun = false := by
    intro happening member
    simpa using List.all_eq_true.mp keeps happening member
  have taken : haltedSession.2.still = (Animator.replay ([] ++ .began unsteadyPlan 0 0 0.0 :: since)
      (Session.initial 0.0 patientAnimator).animator).still := by
    change haltedSession.2.animator.still = _
    rw [archived.animator]
    rfl
  obtain ⟨_, again⟩ := startsOver [] unsteadyPlan 0 0 0.0 since [] haltedSession.2
    (by rwa [List.append_nil]) goesOn unsteady_plan_is_fresh
  rw [← taken] at again
  obtain ⟨_, _, _, leaves, _, cursor, _⟩ := again 0 false []
  dsimp only at cursor leaves
  refine ⟨by decide +kernel, by decide +kernel, cursor, leaves⟩

end Arboretum

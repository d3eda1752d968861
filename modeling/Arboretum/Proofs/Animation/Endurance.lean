import Arboretum.Proofs.Animation.Faults
import Arboretum.Proofs.Animation.Quota
import Arboretum.Proofs.Animation.Renewal

/-!
What a run endures. Under settings that were read from an environment, and with lists that are not
too long to be counted in words, a frame only fails where the share of the branches is infinite or
where the source of chance gives up; every other part of a frame returns.
-/

namespace Arboretum

open Number Fallible

set_option autoImplicit false

variable {σ : Type} [ChanceSource σ Float]

/-- The faults that a frame can end with. -/
inductive Hinders (σ : Type) [ChanceSource σ Float] (settings : AnimationSettings Float)
    (branchCount : Nat) : Fault → Prop
  | overflow (infinite : settings.branchQuota branchCount = .error .integerOfInfinity) :
      Hinders σ settings branchCount .integerOfInfinity
  | chance {fault : Fault} (refuses : ChanceFault σ fault) : Hinders σ settings branchCount fault

namespace ParticleSystem

theorem tick_told (system : ParticleSystem Float) (fit : system.settings.InRange) (dtMs : Float) :
    ∃ moved, system.tick dtMs = .ok moved := by
  obtain ⟨place, placed, atLeast, _⟩ := place_of_length fit.frameInterval
  unfold tick
  rw [quotient_of_positive placed (by omega)]
  exact ⟨_, rfl⟩

end ParticleSystem

namespace Animator

variable {settings : AnimationSettings Float} {particleSettings : ParticleSettings Float}
  {plan : RunPlan Float}

/-- The animator performs a plan, and it and its motes follow the settings. -/
structure Ready (settings : AnimationSettings Float) (particleSettings : ParticleSettings Float)
    (plan : RunPlan Float) (animator : Animator σ Float) : Prop where
  settings : animator.settings = settings
  motes : animator.motes.settings = particleSettings
  performs : animator.Performs plan

/-- Settings as an environment gives them, and lists whose lengths are words. -/
structure Feasible (settings : AnimationSettings Float) (particleSettings : ParticleSettings Float)
    (plan : RunPlan Float) : Prop where
  range : settings.InRange
  leafFrames : settings.leafRevealFrames = 60
  motes : particleSettings.InRange
  branches : plan.branches.length < 2 ^ 53
  leaves : plan.leaves.length < 2 ^ 53

omit [ChanceSource σ Float] in
theorem ready_of_parts {β : Type} {step : AnimatorStep σ Float β} (same : Leads SameMake step)
    (continues : Leads (Continues plan) step) :
    Leads (fun before after => Ready settings particleSettings plan before →
      Ready settings particleSettings plan after) step := fun animator ready =>
  ⟨(same animator).settings.trans ready.settings, (same animator).motes.settings.trans ready.motes,
    continues animator ready.performs⟩

section Frame

variable (feasible : Feasible settings particleSettings plan)

include feasible

/-- Of all that a reveal can fail with, only an infinite share and refused colors are left. -/
theorem hinders_of_stumbles {fault : Fault} (stumbles : Stumbles σ settings plan fault) :
    Hinders σ settings plan.branches.length fault := by
  cases stumbles with
  | duration untold =>
      obtain ⟨duration, _, lasts, _⟩ :=
        AnimationSettings.reveal_lasts feasible.range feasible.branches
      cases lasts.symm.trans untold
  | branchShare untold =>
      rcases AnimationSettings.branch_quota_outcome feasible.range feasible.branches with
        ⟨quota, returned, _⟩ | ⟨infinite, _⟩
      · cases returned.symm.trans untold
      · cases infinite.symm.trans untold
        exact .overflow infinite
  | leafShare untold =>
      obtain ⟨quota, returned, _⟩ :=
        AnimationSettings.leaf_quota_returns feasible.leafFrames feasible.leaves
      cases returned.symm.trans untold
  | shownLeaves within leafy untold =>
      obtain ⟨share, told, _⟩ :=
        ratio_of_counts (Nat.lt_of_le_of_lt within feasible.leaves) leafy
      cases told.symm.trans untold
  | chance refuses => exact .chance (chance_fault_of_refuses refuses)

theorem drift_motes_endures (dtMs : Float) :
    Endures (Ready settings particleSettings plan) (Hinders σ settings plan.branches.length)
      (driftMotes dtMs : AnimatorStep σ Float Unit) := by
  refine endures_of_leads
    (ready_of_parts (drift_motes_same_make dtMs) (drift_motes_continues plan dtMs)) ?_
  intro animator ready fault failed
  obtain ⟨motes, moved⟩ := animator.motes.tick_told (ready.motes ▸ feasible.motes) dtMs
  simp only [driftMotes, run_bind, run_get, run_lift, moved] at failed
  cases failed

theorem reveal_to_endures (nowMs : Float) :
    Endures (Ready settings particleSettings plan) (Hinders σ settings plan.branches.length)
      (revealTo nowMs : AnimatorStep σ Float Unit) := by
  refine endures_of_leads (ready_of_parts (reveal_to_leads same_make_kept nowMs)
    (reveal_to_leads (continues_kept plan) nowMs)) ?_
  intro animator ready fault failed
  have carries : animator.Carries settings plan animator.startedAtMs :=
    ⟨ready.performs, rfl, ready.settings⟩
  have stumbles := reveal_to_stumbles nowMs animator carries
  rcases ran : (revealTo nowMs).run animator with ⟨other | _, later⟩
  · rw [ran] at failed stumbles
    cases failed
    exact hinders_of_stumbles feasible stumbles
  · rw [ran] at failed
    cases failed

theorem heed_endures (frame : Frame Float) :
    Endures (Ready settings particleSettings plan) (Hinders σ settings plan.branches.length)
      (heed frame : AnimatorStep σ Float Unit) := by
  refine endures_get_bind fun before => ?_
  refine endures_bind (reveal_to_endures feasible frame.timestampMs) fun _ => ?_
  refine endures_bind (drift_motes_endures feasible _) fun _ animator ready => ?_
  exact ⟨ready.settings, ready.motes, sampled_continues plan frame.index animator ready.performs⟩

end Frame

/-- An animator without a run only moves its motes. -/
theorem heed_idle_returns (frame : Frame Float) {animator : Animator σ Float}
    (idle : animator.phase = .idle) (fit : animator.motes.settings.InRange) :
    ((heed frame).run animator).1 = .ok ⟨⟩ := by
  obtain ⟨moved, told⟩ := animator.motes.tick_told fit (animator.sinceLastTick frame.timestampMs)
  have resting : ¬ animator.phase = .revealing := by
    rw [idle]
    decide
  have still : (animator.atTime frame.timestampMs).motes.tick
      (animator.sinceLastTick frame.timestampMs) = .ok moved := told
  unfold heed
  simp only [run_bind, run_get, run_reveal_to, resting, if_false, driftMotes, run_lift, still,
    run_modify]

end Animator

theorem plan_of_began {history : List (Happening Float)} {plan : RunPlan Float}
    (performs : planOf history = some plan) :
    ∃ receiver subscription nowMs, .began plan receiver subscription nowMs ∈ history := by
  have onward : ∀ (history : List (Happening Float)) (plan? : Option (RunPlan Float)),
      history.foldl Happening.planAfter plan? = some plan → plan? = some plan ∨
        ∃ receiver subscription nowMs, .began plan receiver subscription nowMs ∈ history := by
    intro history
    induction history with
    | nil => exact fun plan? same => .inl same
    | cons happening history induction =>
        intro plan? performs
        rcases induction _ performs with begun | ⟨receiver, subscription, nowMs, member⟩
        · cases happening with
          | began other receiver subscription nowMs =>
              cases begun
              exact .inr ⟨receiver, subscription, nowMs, List.mem_cons_self ..⟩
          | reset => cases begun
          | stopped => exact .inl begun
          | heeded frame => exact .inl begun
          | emitted frame => exact .inl begun
          | published frame scene => exact .inl begun
          | handed receiver frame scene => exact .inl begun
        · exact .inr ⟨receiver, subscription, nowMs, List.mem_cons_of_mem _ member⟩
  rcases onward history none performs with absurdly | begun
  · cases absurdly
  · exact begun

/-- Under settings that are read from an environment, the shares of a frame can be told for
every count of branches or leaves that a list can have, but for a share of the branches that
is infinite, which takes frames of more than `1e291` milliseconds; and in any session on such
settings and on mote settings of the same environment, whatever the host commands and however
receivers react, a frame that a run heeds only fails where that share is infinite or where
the source of chance gives up. -/
theorem frames_fail_by_overflow_only {environment : Environment}
    {settings : AnimationSettings Float}
    (accepted : Configuration.animationSettings environment = .ok settings) :
    (∀ count : Nat, count < 2 ^ 53 →
      (∃ quota, settings.leafQuota count = .ok quota ∧ 1 ≤ quota) ∧
        ((∃ quota, settings.branchQuota count = .ok quota ∧ 1 ≤ quota) ∨
          settings.branchQuota count = .error .integerOfInfinity ∧
            ¬ settings.frameIntervalMs ≤ 1e291)) ∧
      ∀ particleSettings : ParticleSettings Float,
        Configuration.particleSettings environment = .ok particleSettings →
        ∀ (clockMs : Float) (surface : Surface Float) (random : σ) (sampler : FrameSampler)
          (batches : List (List (Command Float))),
          let first : Animator σ Float := .initial settings particleSettings surface random sampler
          let driven := Session.drive batches (.initial clockMs first)
          (∀ plan receiver subscription nowMs, .began plan receiver subscription nowMs ∈ driven.1 →
            plan.branches.length < 2 ^ 53 ∧ plan.leaves.length < 2 ^ 53) →
            ∀ earlier frame later, driven.1 = earlier ++ .heeded frame :: later →
              ∀ fault,
                ((Animator.heed frame).run (Animator.replay earlier first)).1 = .error fault →
                  Hinders σ settings (Animator.replay earlier first).branches.length fault := by
  obtain ⟨fit, leafFrames⟩ := AnimationSettings.accepted_in_range accepted
  refine ⟨fun count real => ?_, ?_⟩
  · exact ⟨AnimationSettings.leaf_quota_returns leafFrames real,
      AnimationSettings.branch_quota_outcome fit real⟩
  intro particleSettings motesAccepted clockMs surface random sampler batches first driven
    real earlier frame later split fault failed
  have moteFit : particleSettings.InRange :=
    Environment.good_of_yields (particle_settings_yield environment) motesAccepted
  have same := Animator.replay_same_make earlier first
  have faithful := replay_faithful earlier none first ⟨rfl, rfl, rfl, rfl, rfl, rfl, rfl, rfl⟩
  change (Animator.replay earlier first).Faithful (planOf earlier) at faithful
  cases performing : planOf earlier with
  | none =>
      rw [performing] at faithful
      have returns := Animator.heed_idle_returns frame faithful.idle
        (same.motes.settings.symm ▸ moteFit)
      rw [returns] at failed
      cases failed
  | some plan =>
      rw [performing] at faithful
      obtain ⟨receiver, subscription, nowMs, member⟩ := plan_of_began performing
      obtain ⟨branchesReal, leavesReal⟩ := real plan receiver subscription nowMs
        (split ▸ List.mem_append_left _ member)
      have ends := Animator.heed_endures ⟨fit, leafFrames, moteFit, branchesReal, leavesReal⟩ frame
        (Animator.replay earlier first) ⟨same.settings, same.motes.settings, faithful⟩
      rw [faithful.branches.as_many]
      rcases ran : (Animator.heed frame).run (Animator.replay earlier first) with ⟨other | _, after⟩
      · rw [ran] at ends failed
        cases failed
        exact ends
      · rw [ran] at failed
        cases failed

theorem usual_frames_endure :
    Configuration.animationSettings ⟨[]⟩ = .ok .usual ∧
      Configuration.particleSettings ⟨[]⟩ = .ok .usual ∧
      (∃ quota,
        (AnimationSettings.usual : AnimationSettings Float).branchQuota (3 : Nat) = .ok quota ∧
          1 ≤ quota) ∧
      ∃ earlier frame later, patientSession.1 = earlier ++ .heeded frame :: later ∧
        ∀ fault,
          ((Animator.heed frame).run (Animator.replay earlier patientAnimator)).1 = .error fault →
            Hinders Chance.Source .usual (Animator.replay earlier patientAnimator).branches.length
              fault := by
  have accepted : Configuration.animationSettings ⟨[]⟩ = .ok .usual := rfl
  have motesAccepted : Configuration.particleSettings ⟨[]⟩ = .ok .usual := rfl
  obtain ⟨shares, sessions⟩ :=
    frames_fail_by_overflow_only (σ := Chance.Source) accepted
  have endures := sessions .usual motesAccepted (0.0 : Float) ⟨600.0, 600.0⟩
    (Chance.Source.ofValues [0.5]) ⟨1, []⟩ patientHost
  dsimp only at endures
  rw [← patientAnimator, ← patientSession] at endures
  have short : patientSession.1.all (fun happening => (happening.planAfter none).all fun plan =>
      decide (plan.branches.length < 2 ^ 53 ∧ plan.leaves.length < 2 ^ 53)) = true := by
    decide +kernel
  have heeds : patientSession.1.any (fun happening => happening.heededAt?.isSome) = true := by
    decide +kernel
  refine ⟨accepted, motesAccepted, ?_, ?_⟩
  · rcases (shares 3 (by decide)).2 with returned | ⟨_, long⟩
    · exact returned
    · exact absurd (by decide +kernel) long
  · obtain ⟨happening, member, heeded⟩ := List.any_eq_true.mp heeds
    cases happening with
    | heeded frame =>
        obtain ⟨earlier, later, split⟩ := List.append_of_mem member
        refine ⟨earlier, frame, later, split, endures ?_ earlier frame later split⟩
        intro plan receiver subscription nowMs begun
        exact of_decide_eq_true (List.all_eq_true.mp short _ begun)
    | _ => cases heeded

/-- Frames of the greatest length that is a power of ten leave a share of the
branches that is infinite. -/
theorem long_frames_are_accepted_and_fail :
    let text := String.ofList ('1' :: List.replicate 308 '0')
    let environment : Environment := ⟨[("CANOPY_MIN_REVEAL_MS", "1"),
      ("CANOPY_REVEAL_MS_PER_BRANCH", "0"), ("CANOPY_FRAME_INTERVAL_MS", text)]⟩
    ∃ settings, Configuration.animationSettings environment = .ok settings ∧
      settings.branchQuota (3 : Nat) = .error .integerOfInfinity := by
  intro text environment
  have set : ∀ text, Environment.text? ⟨[("CANOPY_MIN_REVEAL_MS", "1"),
      ("CANOPY_REVEAL_MS_PER_BRANCH", "0"), ("CANOPY_FRAME_INTERVAL_MS", text)]⟩
        "CANOPY_FRAME_INTERVAL_MS" = some text := fun _ => rfl
  have reads : readInteger? text = some (10 ^ 308) := by
    rw [read_integer_eq, marks_of_list]
    decide +kernel
  have admitted : Configuration.frameIntervalMs.Admits (10 ^ 308) := by
    unfold IntegerEntry.Admits Within
    decide +kernel
  have given : environment.integer Configuration.frameIntervalMs = .ok (10 ^ 308) :=
    integer_of_text (set text) reads admitted
  have interval : environment.integerAsReal Configuration.frameIntervalMs = .ok 1e308 := by
    unfold Environment.integerAsReal
    rw [given]
    decide +kernel
  refine ⟨{ AnimationSettings.usual with
    minRevealMs := 1.0
    revealMsPerBranch := 0.0
    frameIntervalMs := 1e308 }, ?_, by decide +kernel⟩
  unfold Configuration.animationSettings
  rw [interval]
  rfl

end Arboretum

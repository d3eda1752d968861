import Arboretum.Command.Simulate
import Arboretum.Proofs.Animation.Clockwork
import Arboretum.Proofs.Animation.Quota
import Arboretum.Proofs.Tree.Extent

/-!
What a simulation prints. Its session holds one run, which no viewer watches and whose receiver
never reacts; so each frame of its clock is heeded by that run and comes back as one scene. The
lines follow from the timetable of the run: one for its beginning, one for the frame that settles it
if there is one, and the counts in the end.
-/

namespace Arboretum

open Fallible

set_option autoImplicit false

variable {σ α : Type}

namespace Session

/-- A run is under way, nobody else listens, and its receiver never reacts. -/
structure Undisturbed (session : Session σ α) : Prop where
  awake : session.animator.phase ≠ .idle
  alone : ∃ number, session.frames.live = [(number, .run session.animator.generation)]
  unwatched : session.scenes.live = []
  received : ∃ number receiver, session.animator.receiver = some number ∧
    session.receivers[number]? = some receiver ∧ receiver.reactions = []

theorem run_deliver_to_one (hand : FrameObserver → Act σ α Unit) {session : Session σ α}
    {number : Nat} {observer : FrameObserver} (live : session.frames.isLive number = true) :
    (Subject.deliver (do return (← get).frames) hand [(number, observer)]).run session =
      (hand observer).run session := by
  have looked : ((do return (← get).frames : Act σ α (Subject FrameObserver))).run session =
      (.ok session.frames, session) := rfl
  rw [Subject.deliver, run_bind, looked]
  dsimp only
  rw [live, if_pos rfl, run_bind]
  rcases (hand observer).run session with ⟨fault | _, later⟩
  · rfl
  · rfl

variable [Scalar α] [ChanceSource σ α]

theorem perform_nothing (depth : Nat) : (perform depth [] : Act σ α Unit) = pure () := by
  cases depth with
  | zero => rfl
  | succ depth => rfl

theorem perform_cons (depth : Nat) (command : Command α) (commands : List (Command α)) :
    (perform (depth + 1) (command :: commands) : Act σ α Unit) =
      execute (perform depth) command >>= fun _ => perform (depth + 1) commands := rfl

theorem perform_append (depth : Nat) (early late : List (Command α)) :
    (perform (depth + 1) (early ++ late) : Act σ α Unit) =
      perform (depth + 1) early >>= fun _ => perform (depth + 1) late := by
  rw [perform, List.forM_eq_forM, List.forM_append]
  rfl

theorem reacts_not (depth calls : Nat) {reactions : Reactions α} (quiet : reactions = [])
    (session : Session σ α) :
    (perform depth (reactions.getD calls [])).run session = (.ok ⟨⟩, session) := by
  rw [quiet, List.getD_nil, perform_nothing]
  rfl

omit [Scalar α] [ChanceSource σ α] in
theorem received_after_call {session : Session σ α} {number : Nat} {receiver : Receiver α}
    (there : session.receivers[number]? = some receiver) (called : Receiver α) :
    (session.receivers.setIfInBounds number called)[number]? = some called := by
  obtain ⟨within, _⟩ := Array.getElem?_eq_some_iff.mp there
  exact Array.getElem?_setIfInBounds_self_of_lt within

/-- The scene of a run that nobody else listens to comes to its receiver and
leads to nothing else. -/
theorem run_present_undisturbed (depth : Nat) (frame : Frame α) {session : Session σ α}
    (undisturbed : session.Undisturbed) :
    ∃ later number, (present (perform depth) session.animator.generation frame).run session =
        (.ok ⟨⟩, later) ∧
      later.Undisturbed ∧ later.animator = session.animator ∧ later.nextFrame = session.nextFrame ∧
      later.clockMs = session.clockMs ∧
      later.events = session.events.push (.scene (.run number) session.animator.scene) := by
  obtain ⟨awake, alone, unwatched, place, receiver, receives, there, quiet⟩ := undisturbed
  rw [present, run_bind, run_get]
  dsimp only
  rw [run_bind, run_publish, unwatched]
  change ∃ later number, (handOver _ _ _ _).run { session with
    chronicle := session.chronicle.push (.published frame session.animator.scene) } = _ ∧ _
  rw [run_hand_over (perform depth) frame session.animator.scene { session with
      chronicle := session.chronicle.push (.published frame session.animator.scene) }
    rfl receives there, reacts_not _ _ quiet]
  refine ⟨_, receiver.name.number, rfl, ⟨awake, alone, unwatched, ?_⟩, rfl, rfl, rfl, rfl⟩
  exact ⟨place, { receiver with calls := receiver.calls + 1 }, receives,
    received_after_call there _, quiet⟩

theorem undisturbed_heeding {frame : Frame α} {session : Session σ α} {after : Animator σ α}
    (undisturbed : session.Undisturbed)
    (heeded : (Animator.heed frame).run session.animator = (.ok ⟨⟩, after))
    (chronicle : Array (Happening α)) (remarks : Array (Remark α)) :
    Undisturbed { session with animator := after, chronicle, remarks } := by
  obtain ⟨awake, ⟨subscription, alone⟩, unwatched, place, receiver, receives, there, quiet⟩ :=
    undisturbed
  have same := Animator.heed_same_run frame session.animator
  have phase := Animator.heed_phase_cases frame session.animator
  rw [heeded] at same phase
  refine ⟨fun idle => ?_, ⟨subscription, ?_⟩, unwatched, place, receiver, ?_, there, quiet⟩
  · rcases phase with kept | ⟨_, settled⟩
    · exact awake (kept.symm.trans idle)
    · cases settled.symm.trans idle
  · exact same.generation ▸ alone
  · exact same.receiver.trans receives

/-- When a run that nobody else listens to is handed a frame and does not fail on it, it has heeded
it, and its scene has come to the receiver. -/
theorem frame_for_run_undisturbed {depth : Nat} {frame : Frame α} {session later : Session σ α}
    (undisturbed : session.Undisturbed)
    (returned : (frameForRun (perform depth) session.animator.generation frame).run session =
      (.ok ⟨⟩, later)) :
    later.Undisturbed ∧
      (Animator.heed frame).run session.animator = (.ok ⟨⟩, later.animator) ∧
      later.nextFrame = session.nextFrame ∧ later.clockMs = session.clockMs ∧
      ∃ number, later.events =
        session.events.push (.scene (.run number) later.animator.scene) := by
  have awake := undisturbed.awake
  obtain ⟨remarks, advanced⟩ := run_advance frame
    { session with chronicle := session.chronicle.push (.heeded frame) }
  rw [frameForRun, run_bind, run_get] at returned
  dsimp only at returned
  rw [if_neg (by simp [awake]), run_bind, run_note] at returned
  dsimp only at returned
  rw [run_bind, advanced] at returned
  rcases heeded : (Animator.heed frame).run session.animator with ⟨fault | _, after⟩
  · rw [heeded] at returned
    cases returned
  · rw [heeded] at returned
    have same := Animator.heed_same_run frame session.animator
    rw [heeded] at same
    have stays := undisturbed_heeding undisturbed heeded
      (session.chronicle.push (.heeded frame)) remarks
    obtain ⟨shown, number, presented, undisturbedLater, animator, nextFrame, clock, events⟩ :=
      run_present_undisturbed depth frame stays
    rw [same.generation] at presented
    cases presented.symm.trans returned
    rw [animator]
    exact ⟨undisturbedLater, rfl, nextFrame, clock, number, events⟩

theorem tick_undisturbed {depth : Nat} {stepMs : α} {session later : Session σ α}
    (undisturbed : session.Undisturbed)
    (returned : (perform (depth + 1) [.advanceClock stepMs, .tick]).run session = (.ok ⟨⟩, later)) :
    later.Undisturbed ∧
      (Animator.heed ⟨session.nextFrame, session.clockMs + stepMs⟩).run session.animator =
        (.ok ⟨⟩, later.animator) ∧
      later.nextFrame = session.nextFrame + 1 ∧ later.clockMs = session.clockMs + stepMs ∧
      ∃ number, later.events =
        session.events.push (.scene (.run number) later.animator.scene) := by
  obtain ⟨awake, ⟨subscription, alone⟩, unwatched, received⟩ := undisturbed
  let frame : Frame α := ⟨session.nextFrame, session.clockMs + stepMs⟩
  let ticking : Session σ α := { session with
    clockMs := session.clockMs + stepMs
    nextFrame := session.nextFrame + 1
    chronicle := session.chronicle.push (.emitted frame) }
  have live : ticking.frames.isLive subscription = true := by
    change session.frames.live.any _ = true
    rw [alone]
    simp
  have handed : (frameForRun (perform depth) session.animator.generation frame).run ticking =
      (.ok ⟨⟩, later) := by
    rw [perform_cons, perform_cons, perform_nothing, execute, execute, run_bind, run_modify]
      at returned
    obtain ⟨_, ticked, ran, done⟩ := (run_bind_eq_ok _ _ _ _ _).mp returned
    cases done
    rw [run_tick] at ran
    dsimp only at ran
    rw [alone] at ran
    exact (run_deliver_to_one (observe (perform depth) frame) live).symm.trans ran
  have undisturbedStill : ticking.Undisturbed := ⟨awake, ⟨subscription, alone⟩, unwatched, received⟩
  exact frame_for_run_undisturbed undisturbedStill handed

omit [Scalar α] [ChanceSource σ α] in
theorem frame_commands_succ (stepMs : α) (count : Nat) :
    frameCommands stepMs (count + 1) =
      frameCommands stepMs count ++ [.advanceClock stepMs, .tick] := by
  rw [frameCommands, List.replicate_succ', List.flatten_append, List.flatten_singleton]
  rfl

/-- Ticks after equal steps of the clock, when they return, are the ticks of the run. -/
theorem frames_undisturbed {depth count : Nat} {stepMs : Float} {session later : Session σ Float}
    [ChanceSource σ Float] (undisturbed : session.Undisturbed) (clock : session.clockMs = 0.0)
    (nextFrame : session.nextFrame = 0) (silent : session.events = #[])
    (returned : (perform (depth + 1) (frameCommands stepMs count)).run session = (.ok ⟨⟩, later)) :
    later.Undisturbed ∧ later.nextFrame = count ∧ later.clockMs = clockAfter stepMs count ∧
      Animator.Ticks stepMs session.animator count (SimulateOptions.scenesOf later.events.toList)
        later.animator := by
  induction count generalizing later with
  | zero =>
      cases returned
      rw [silent]
      exact ⟨undisturbed, nextFrame, clock, .start⟩
  | succ count induction =>
      -- The last tick comes behind the others, so its frame is the next one of the clock.
      rw [frame_commands_succ, perform_append] at returned
      obtain ⟨_, before, early, last⟩ := (run_bind_eq_ok _ _ _ _ _).mp returned
      obtain ⟨undisturbedBefore, frames, time, ticks⟩ := induction early
      obtain ⟨undisturbedLater, heeded, frameLater, timeLater, number, events⟩ :=
        tick_undisturbed undisturbedBefore last
      rw [frames, time] at heeded
      refine ⟨undisturbedLater, by rw [frameLater, frames], by rw [timeLater, time]; rfl, ?_⟩
      have scenes : SimulateOptions.scenesOf later.events.toList =
          SimulateOptions.scenesOf before.events.toList ++ [later.animator.scene] := by
        rw [events, Array.toList_push, SimulateOptions.scenesOf, List.filterMap_append]
        rfl
      rw [scenes]
      exact .tick ticks heeded

theorem run_performs {commands : List (Command α)} {session later : Session σ α}
    (returned : session.run commands = (.ok ⟨⟩, later)) :
    ∃ depth, (perform (depth + 1) commands).run { session with events := #[], chronicle := #[] } =
      (.ok ⟨⟩, later) := ⟨_, returned⟩

/-- A session that has just begun with a run whose receiver does not react. -/
theorem started_undisturbed [ChanceSource σ Float] {plan : RunPlan Float}
    {animator : Animator σ Float} {started : Session σ Float} (deaf : animator.subscription = none)
    (returned : (Session.initial 0.0 animator).run [.start plan (some [])] = (.ok ⟨⟩, started)) :
    started.Undisturbed ∧ started.clockMs = 0.0 ∧ started.nextFrame = 0 ∧
      started.animator = (animator.idle.launched plan 0 0.0).listening 0 := by
  obtain ⟨depth, performed⟩ := run_performs returned
  rw [perform_cons, perform_nothing] at performed
  obtain ⟨_, later, ran, done⟩ := (run_bind_eq_ok _ _ _ _ _).mp performed
  cases done
  obtain ⟨remarks, startedIs⟩ := run_start plan [] (Session.initial 0.0 animator)
  have same : started = ((Session.start plan (some [])).run (Session.initial 0.0 animator)).2 :=
    (congrArg Prod.snd ran).symm
  have frames : (Session.initial 0.0 animator).frames.release
      (Session.initial 0.0 animator).animator.subscription = .empty := by
    change Subject.release animator.subscription _ = _
    rw [deaf]
    rfl
  rw [same, startedIs, frames]
  refine ⟨⟨?_, ⟨0, rfl⟩, rfl, ?_⟩, rfl, rfl, rfl⟩
  · intro idle
    cases idle
  · exact ⟨0, ⟨.run 1, [], 0⟩, rfl, rfl, rfl⟩

end Session

theorem Tree.leaves_few {environment : Environment} {request : TreeRequest} {tree : Tree Float}
    (grew : (request.growth environment).outcome = .ok tree) : tree.leaves.length ≤ 80 := by
  obtain ⟨plan, _, _, parameters, _, _, _, _, _, _, scattered⟩ := Tree.growth_returned grew
  have cut := foliage_is_cut scattered
  have most := (Score.leaf_density_bounds plan.score plan.surface.sizeScale).2
  rw [← parameters] at most
  omega

/-- Where the share of the branches can be told, there is a timetable. -/
theorem timetable_of_branch_quota {settings : AnimationSettings Float} {branches leaves : Nat}
    {branchQuota : Int} (leafFrames : settings.leafRevealFrames = 60) (few : leaves ≤ 80)
    (told : settings.branchQuota branches = .ok branchQuota) :
    ∃ timetable : Timetable Float, timetable.branches = branches ∧ timetable.leaves = leaves ∧
      timetable.Follows settings := by
  obtain ⟨leafQuota, leavesTold, leavesPositive⟩ :=
    AnimationSettings.leaf_quota_returns leafFrames (few.trans_lt (by decide : 80 < 2 ^ 53))
  obtain ⟨leafStart, starts⟩ := settings.leaf_start_returned _ _ told
  obtain ⟨settleAfter, settles⟩ := settings.settle_after_returned _ _ told
  have branchesPositive := settings.branch_quota_positive _ _ told
  refine ⟨⟨branches, leaves, branchQuota.toNat, leafQuota.toNat, leafStart, settleAfter⟩, rfl, rfl,
    ?_, ?_, starts, settles⟩
  · rw [Int.toNat_of_nonneg (by omega)]
    exact told
  · rw [Int.toNat_of_nonneg (by omega)]
    exact leavesTold

namespace SimulateOptions

/-! The lines. -/

theorem phase_lines_of_same {last : GrowthPhase} {scenes : List (Scene Float)}
    (same : ∀ scene ∈ scenes, scene.phase = last) (rest : List (Scene Float)) :
    phaseLines last (scenes ++ rest) = phaseLines last rest := by
  induction scenes with
  | nil => rfl
  | cons scene scenes induction =>
      obtain ⟨here, others⟩ := List.forall_mem_cons.mp same
      rw [List.cons_append, phaseLines, if_pos here]
      exact induction others

/-- The scenes of a run lead to a line for the frame that finished it, and to no other one. -/
theorem phase_lines_of_shows {timetable : Timetable Float} {stepMs : Float} {phase : GrowthPhase}
    {scenes : List (Scene Float)} (shows : timetable.Shows stepMs phase scenes) :
    (∃ count, count ≤ scenes.length ∧ timetable.FirstFinishedAfter stepMs count ∧
        phaseLines .revealing scenes = [phaseLine (lastedAfter stepMs count) .settled]) ∨
      (∀ count, 1 ≤ count → count ≤ scenes.length → ¬ timetable.FinishedAfter stepMs count) ∧
        phaseLines .revealing scenes = [] := by
  cases shows with
  | revealing all unfinished =>
      have lines := phase_lines_of_same all []
      rw [List.append_nil] at lines
      exact .inr ⟨unfinished, lines⟩
  | @settled early late turning all turned lasted after first =>
      refine .inl ⟨early.length + 1, ?_, first, ?_⟩
      · rw [List.length_append, List.length_cons]
        omega
      · have lines := phase_lines_of_same after []
        rw [List.append_nil] at lines
        have changed : ¬ turning.phase = .revealing := by
          rw [turned]
          decide
        rw [phase_lines_of_same all, phaseLines, if_neg changed, lasted, turned, lines]
        rfl

/-- What a simulation has printed follows the timetable of its run: the beginning, the settling with
the first frame after which the run is finished, if one is, and how far the run has got. -/
structure Reports (options : SimulateOptions) (settings : AnimationSettings Float)
    (particleSettings : ParticleSettings Float) (tree : Tree Float) (timetable : Timetable Float)
    (report : CommandReport) : Prop where
  branches : timetable.branches = tree.branches.length
  leaves : timetable.leaves = tree.leaves.length
  follows : timetable.Follows settings
  printed : ∃ (changes : List String) (motes : Nat),
    report = .done (.lines (phaseLine 0.0 .revealing :: changes ++
      [finalLine ⟨timetable.branchesAfter options.frames.toNat, tree.branches.length,
        timetable.leavesAfter options.frameMs options.frames.toNat, tree.leaves.length, motes⟩])) ∧
    (motes : Int) ≤ particleSettings.limit ∧
    ((∃ count, count ≤ options.frames.toNat ∧
        timetable.FirstFinishedAfter options.frameMs count ∧
        changes = [phaseLine (lastedAfter options.frameMs count) .settled]) ∨
      (∀ count, 1 ≤ count → count ≤ options.frames.toNat →
        ¬ timetable.FinishedAfter options.frameMs count) ∧ changes = [])

/-- A simulation has ticked as often as it was asked to, from the start of the
run, when it returns. -/
theorem animation_returned {options : SimulateOptions} {tree : Tree Float}
    {animator : Animator Chance.Source Float} {report : CommandReport}
    (deaf : animator.subscription = none)
    (ran : (options.animation tree animator).outcome = .ok report) :
    let plan := RunPlan.ofTree animator.motes.settings tree
    ∃ scenes last,
      Animator.Ticks options.frameMs ((animator.idle.launched plan 0 0.0).listening 0)
        options.frames.toNat scenes last ∧
      report = .done (.lines (phaseLine 0.0 .revealing :: phaseLines .revealing scenes ++
        [finalLine last.counts])) := by
  intro plan
  unfold animation at ran
  dsimp only at ran
  rcases began : (Session.initial 0.0 animator).run [.start plan (some [])] with
    ⟨fault | _, started⟩
  · rw [began] at ran
    cases ran
  rw [began] at ran
  dsimp only at ran
  obtain ⟨undisturbed, clock, nextFrame, launched⟩ := Session.started_undisturbed deaf began
  rcases drove : started.run (Session.frameCommands options.frameMs options.frames.toNat) with
    ⟨fault | _, ended⟩
  · rw [drove] at ran
    cases ran
  rw [drove, launched] at ran
  obtain ⟨depth, performed⟩ := Session.run_performs drove
  have silent : Session.Undisturbed { started with events := #[], chronicle := #[] } :=
    ⟨undisturbed.awake, undisturbed.alone, undisturbed.unwatched, undisturbed.received⟩
  obtain ⟨_, _, _, ticks⟩ := Session.frames_undisturbed silent clock nextFrame rfl performed
  dsimp only at ticks
  rw [launched] at ticks
  exact ⟨_, _, ticks, (Except.ok.inj ran).symm⟩

theorem animation_reports {options : SimulateOptions} {tree : Tree Float}
    {settings : AnimationSettings Float} {particleSettings : ParticleSettings Float}
    {surface : Surface Float} {random : Chance.Source} {sampler : FrameSampler}
    {report : CommandReport} (positive : 1 ≤ options.frames) (few : tree.leaves.length ≤ 80)
    (leafFrames : settings.leafRevealFrames = 60) (natural : 0 ≤ particleSettings.limit)
    (ran : (options.animation tree
      (.initial settings particleSettings surface random sampler)).outcome = .ok report) :
    ∃ timetable, options.Reports settings particleSettings tree timetable report := by
  obtain ⟨scenes, last, ticks, reported⟩ := animation_returned rfl ran
  let animator : Animator Chance.Source Float :=
    .initial settings particleSettings surface random sampler
  let plan := RunPlan.ofTree particleSettings tree
  let first := (animator.idle.launched plan 0 0.0).listening 0
  have performs : first.Performs plan := Animator.launched_performs plan 0 0 0.0 animator
  obtain ⟨after, heeded⟩ := Animator.first_of_ticks ticks (by omega)
  obtain ⟨branchQuota, branchesTold⟩ := Animator.branch_quota_of_heed rfl heeded
  change settings.branchQuota first.branches.length = _ at branchesTold
  rw [performs.branches.as_many] at branchesTold
  obtain ⟨timetable, branches, leaves, follows⟩ :=
    timetable_of_branch_quota leafFrames few branchesTold
  have begun : first.OnTime settings timetable plan options.frameMs 0 :=
    ⟨rfl, Animator.launched_paced plan 0 0 0.0 _ _ _ animator⟩
  obtain ⟨onTime, shows⟩ := Animator.ticks_on_time branches leaves follows begun rfl ticks
  obtain ⟨branchCursor, leafCursor⟩ := Animator.on_time_cursors branches leaves onTime
  obtain ⟨kept, within⟩ := Animator.ticks_keep_limit ticks
  have counts : last.counts = ⟨timetable.branchesAfter options.frames.toNat, tree.branches.length,
      timetable.leavesAfter options.frameMs options.frames.toNat, tree.leaves.length,
      last.motes.particles.length⟩ := by
    rw [Animator.counts, branchCursor, leafCursor, onTime.paced.performs.branches.as_many,
      onTime.paced.performs.leaves.as_many]
    rfl
  refine ⟨timetable, branches, leaves, follows, phaseLines .revealing scenes,
    last.motes.particles.length, ?_, ?_, ?_⟩
  · rw [reported, counts]
  · have fits := within natural natural
    rw [ParticleSystem.WithinLimit, kept] at fits
    exact fits
  · have lines := phase_lines_of_shows shows
    rwa [Animator.ticks_length ticks] at lines

/-- The animation of a tree, with a source of chance of its own. -/
def animationFrom (environment : Environment) (random : Chance.Source) (options : SimulateOptions)
    (tree : Tree Float) : Except Fault CommandReport := do
  let animator ← ({} : GivenParts).animator environment random
  (options.animation tree animator).outcome

theorem run_grown {environment : Environment} {options : SimulateOptions} {tree : Tree Float}
    (grew : (options.request.growth environment).outcome = .ok tree) :
    (options.run environment).outcome = options.animationFrom environment options.source tree := by
  unfold run animationFrom
  dsimp only
  rw [grew]
  cases ({} : GivenParts).animator environment options.source with
  | error fault => rfl
  | ok animator => rfl

theorem configured_animator {environment : Environment} {random : Chance.Source}
    {animator : Animator Chance.Source Float}
    (configured : ({} : GivenParts).animator environment random = .ok animator) :
    ∃ settings particleSettings surface sampler,
      Configuration.animationSettings environment = .ok settings ∧
      Configuration.particleSettings environment = .ok particleSettings ∧
      animator = .initial settings particleSettings surface random sampler := by
  simp only [GivenParts.animator, bind_eq_ok] at configured
  obtain ⟨settings, accepted, particleSettings, acceptedMotes, surface, _, sampler, _, made⟩ :=
    configured
  exact ⟨settings, particleSettings, surface, sampler, accepted, acceptedMotes,
    (Except.ok.inj made).symm⟩

/-- A simulation of a grown tree is an animation of it, with the source of the tree from its start;
and whatever source an animation has, what it prints in the end is what the timetable of the tree
says, under the settings of the environment. -/
theorem simulation_keeps_to_its_timetable (environment : Environment) (options : SimulateOptions)
    (tree : Tree Float) (positive : 1 ≤ options.frames)
    (grew : (options.request.growth environment).outcome = .ok tree) :
    (options.run environment).outcome = options.animationFrom environment options.source tree ∧
      ∀ random report, options.animationFrom environment random tree = .ok report →
        ∃ settings particleSettings timetable,
          Configuration.animationSettings environment = .ok settings ∧
          Configuration.particleSettings environment = .ok particleSettings ∧
          options.Reports settings particleSettings tree timetable report := by
  refine ⟨run_grown grew, fun random report returned => ?_⟩
  obtain ⟨animator, configured, ran⟩ := (bind_eq_ok _ _ _).mp returned
  obtain ⟨settings, particleSettings, surface, sampler, accepted, acceptedMotes, rfl⟩ :=
    configured_animator configured
  have inRange : particleSettings.InRange :=
    Environment.good_of_yields (particle_settings_yield environment) acceptedMotes
  obtain ⟨timetable, reports⟩ := animation_reports positive (Tree.leaves_few grew)
    (AnimationSettings.accepted_in_range accepted).2 inRange.limit ran
  exact ⟨settings, particleSettings, timetable, accepted, acceptedMotes, reports⟩

/-! A fern of ten branches and two leaves, shown one branch at a time by a slow clock. -/

def slowFern : SimulateOptions where
  score := .real 20.0
  source := .ofValues [0.25, 0.5]
  ruleSet := none
  frames := 20
  frameMs := 5000.0

theorem slow_fern_settles_with_tenth_frame :
    ∃ tree report settings particleSettings timetable,
      (slowFern.request.growth ⟨[]⟩).outcome = .ok tree ∧ 1 ≤ slowFern.frames ∧
      (slowFern.run ⟨[]⟩).outcome = .ok report ∧
      slowFern.Reports settings particleSettings tree timetable report ∧
      report.output.printed =
        "       0 ms  revealing\n   50000 ms  settled\n" ++
          "branches 10/10, leaves 2/2, particles 0\n" := by
  obtain ⟨tree, grew⟩ := ok_of_is_ok
    (show (slowFern.request.growth ⟨[]⟩).outcome.isOk = true by decide +kernel)
  obtain ⟨report, ran⟩ := ok_of_is_ok
    (show (slowFern.run ⟨[]⟩).outcome.isOk = true by decide +kernel)
  have printed : (slowFern.run ⟨[]⟩).outcome.toOption.map (fun report => report.output.printed) =
      some ("       0 ms  revealing\n   50000 ms  settled\n" ++
        "branches 10/10, leaves 2/2, particles 0\n") := by
    decide +kernel
  obtain ⟨animates, reports⟩ :=
    simulation_keeps_to_its_timetable ⟨[]⟩ slowFern tree (by decide) grew
  obtain ⟨settings, particleSettings, timetable, _, _, timed⟩ :=
    reports slowFern.source report (animates.symm.trans ran)
  rw [ran] at printed
  exact ⟨tree, report, settings, particleSettings, timetable, grew, by decide, ran, timed,
    Option.some.inj printed⟩

end SimulateOptions

end Arboretum

import Arboretum.Proofs.Animation.CurrentRun
import Arboretum.Proofs.Animation.Settling

/-!
A start forgets all history. Apart from what the log remembers and the numbers that are given out in
order, an animator that a run begins on is told by its settings, its surface and its source of
chance; and what a frame makes of such an animator is told by the time of the frame. So two runs of
one plan that begin at one time, on animators of one make whose sources are in one state, stay alike
for as long as they heed frames of the same times, whatever went before them.
-/

namespace Arboretum

open Fallible

set_option autoImplicit false

variable {σ α : Type}

def Happening.heededAt? : Happening α → Option α
  | .heeded frame => some frame.timestampMs
  | _ => none

/-- The times of the frames that were heeded, in order. -/
def ticksOf (history : List (Happening α)) : List α := history.filterMap Happening.heededAt?

/-- Two stretches of history in which no run ends and frames of the same times are heeded. -/
structure SameTicks (since since' : List (Happening α)) : Prop where
  goes_on : ∀ happening ∈ since, happening.endsRun = false
  goes_on_too : ∀ happening ∈ since', happening.endsRun = false
  ticks : ticksOf since = ticksOf since'

theorem FrameSampler.forget_twice (key : String) (sampler : FrameSampler) :
    (sampler.forget key).forget key = sampler.forget key := by
  simp [forget, Entries.erase, List.filter_filter]

/-- The motes obey the same settings over the same surface. -/
structure ParticleSystem.SameMake (before after : ParticleSystem α) : Prop where
  settings : after.settings = before.settings
  surface : after.surface = before.surface

/-- The animators follow the same settings, and so do their motes. -/
structure Animator.SameMake (before after : Animator σ α) : Prop where
  settings : after.settings = before.settings
  motes : before.motes.SameMake after.motes

namespace Animator

/-- The animator without what the log remembers and without the numbers of its canvas, its receiver,
its generation and its subscription. -/
def anonymous (animator : Animator σ α) : Animator σ α :=
  { animator with
    sampler := ⟨0, []⟩
    canvas := 0
    receiver := none
    generation := 0
    subscription := none }

theorem same_make_refl (animator : Animator σ α) : animator.SameMake animator := ⟨rfl, rfl, rfl⟩

theorem same_make_trans (first second third : Animator σ α) (before : first.SameMake second)
    (after : second.SameMake third) : first.SameMake third :=
  ⟨after.settings.trans before.settings, after.motes.settings.trans before.motes.settings,
    after.motes.surface.trans before.motes.surface⟩

theorem read_alike {β : Type} (read : Animator σ α → β)
    (nameless : ∀ animator, read animator.anonymous = read animator) {one other : Animator σ α}
    (same : one.anonymous = other.anonymous) : read one = read other := by
  rw [← nameless one, same, nameless other]

theorem drawing_twinned {β : Type} (draw : Drawing σ β) :
    Twinned anonymous (drawing draw : AnimatorStep σ α β) (drawing draw) := by
  intro one other same
  have random : one.random = other.random := read_alike random (fun _ => rfl) same
  rw [run_drawing, run_drawing, random]
  refine ⟨rfl, ?_⟩
  exact congrArg (fun look : Animator σ α => { look with random := (draw.run other.random).2 }) same

end Animator

variable [Scalar α]

namespace Animator

/-! Nothing that a run does changes the make of its animator. -/

theorem drift_motes_same_make (dtMs : α) :
    Leads SameMake (driftMotes dtMs : AnimatorStep σ α Unit) := by
  intro animator
  simp only [driftMotes, run_bind, run_get, run_lift]
  cases drifted : animator.motes.tick dtMs with
  | error fault => exact same_make_refl animator
  | ok motes =>
      obtain ⟨steps, _, moved⟩ := (bind_eq_ok _ _ _).mp drifted
      cases moved
      exact ⟨rfl, rfl, rfl⟩

theorem settle_same_make : Leads SameMake (settle : AnimatorStep σ α Unit) := by
  intro animator
  rcases settle_changes_phase animator with unchanged | ⟨settled, _, _⟩
  · rw [unchanged]
    exact same_make_refl animator
  · rw [settled]
    exact ⟨rfl, rfl, rfl⟩

theorem advance_branches_same_make : Leads SameMake (advanceBranches : AnimatorStep σ α Unit) := by
  intro animator
  rw [run_advance_branches]
  cases animator.settings.branchQuota animator.branches.length with
  | error fault => exact same_make_refl animator
  | ok quota => exact ⟨rfl, rfl, rfl⟩

variable [ChanceSource σ α]

theorem shed_same_make : Leads SameMake (shed : AnimatorStep σ α Unit) := by
  intro animator
  rcases shed_cases animator with ⟨random, unchanged⟩ | ⟨_, particle, random, risen⟩
  · rw [unchanged]
    exact ⟨rfl, rfl, rfl⟩
  · rw [risen]
    exact ⟨rfl, rfl, rfl⟩

theorem advance_leaves_same_make : Leads SameMake (advanceLeaves : AnimatorStep σ α Unit) := by
  intro animator
  obtain ⟨count, fresh, random, advanced, _⟩ := advance_leaves_replaces animator
  rw [advanced]
  exact ⟨rfl, rfl, rfl⟩

theorem same_make_kept : KeptByFrames (SameMake : Animator σ α → Animator σ α → Prop) where
  refl := same_make_refl
  trans := same_make_trans
  at_time _ _ := ⟨rfl, rfl, rfl⟩
  branches := advance_branches_same_make
  leaves := advance_leaves_same_make
  shed := shed_same_make
  settle := settle_same_make
  drift := drift_motes_same_make
  sampled _ _ := ⟨rfl, rfl, rfl⟩

theorem change_same_make (happening : Happening α) (animator : Animator σ α) :
    animator.SameMake (happening.change animator) := by
  cases happening with
  | began plan receiver subscription nowMs => exact ⟨rfl, rfl, rfl⟩
  | stopped => exact ⟨rfl, rfl, rfl⟩
  | reset => exact ⟨rfl, rfl, rfl⟩
  | heeded frame =>
      rw [Happening.change]
      split
      · exact same_make_refl animator
      · exact heed_leads same_make_kept frame animator
  | emitted frame => exact same_make_refl animator
  | published frame scene => exact same_make_refl animator
  | handed receiver frame scene => exact same_make_refl animator

theorem replay_same_make (history : List (Happening α)) (animator : Animator σ α) :
    animator.SameMake (replay history animator) :=
  replay_leads SameMake same_make_refl same_make_trans
    (fun happening _ => change_same_make happening)
    animator

/-! Each part of a frame makes the same of animators that look the same without their numbers. -/

omit [ChanceSource σ α] in
theorem advance_branches_twinned :
    Twinned anonymous (advanceBranches : AnimatorStep σ α Unit) advanceBranches := by
  apply twinned_get_bind
  · exact fun _ => rfl
  intro animator
  apply twinned_bind (twinned_lift _)
  intro quota
  exact twinned_modify (fun _ => rfl) (fun _ => rfl)

theorem reveal_leaves_twinned (quota : Nat) :
    Twinned anonymous (revealLeaves quota : AnimatorStep σ α Unit) (revealLeaves quota) := by
  apply twinned_get_bind
  · exact fun _ => rfl
  intro animator
  apply twinned_bind (drawing_twinned _)
  intro shown
  exact twinned_modify (fun _ => rfl) (fun _ => rfl)

theorem advance_leaves_twinned :
    Twinned anonymous (advanceLeaves : AnimatorStep σ α Unit) advanceLeaves := by
  apply twinned_get_bind
  · exact fun _ => rfl
  intro animator
  apply twinned_bind (twinned_lift _)
  intro leafStart
  by_cases due : leafStart < animator.elapsedMs
  · simp only [due, if_true]
    exact twinned_bind (twinned_lift _) (fun quota => reveal_leaves_twinned quota.toNat)
  · simp only [due, if_false]
    exact twinned_pure _

theorem shed_twinned : Twinned anonymous (shed : AnimatorStep σ α Unit) shed := by
  have spawned : Twinned anonymous (maybeSpawn : AnimatorStep σ α Unit) maybeSpawn := by
    apply twinned_get_bind
    · exact fun _ => rfl
    intro animator
    apply twinned_bind (drawing_twinned _)
    intro result
    exact twinned_modify (fun _ => rfl) (fun _ => rfl)
  apply twinned_get_bind
  · exact fun _ => rfl
  intro animator
  apply twinned_bind (twinned_lift _)
  intro may
  cases may with
  | false => exact twinned_pure _
  | true => exact spawned

omit [ChanceSource σ α] in
theorem settle_twinned : Twinned anonymous (settle : AnimatorStep σ α Unit) settle := by
  apply twinned_get_bind
  · exact fun _ => rfl
  intro animator
  apply twinned_bind (twinned_lift _)
  intro complete
  cases complete with
  | false => exact twinned_pure _
  | true => exact twinned_modify (fun _ => rfl) (fun _ => rfl)

theorem reveal_to_twinned (nowMs : α) :
    Twinned anonymous (revealTo nowMs : AnimatorStep σ α Unit) (revealTo nowMs) := by
  intro one other same
  have phase : one.phase = other.phase := read_alike phase (fun _ => rfl) same
  have timed : (one.atTime nowMs).anonymous = (other.atTime nowMs).anonymous :=
    congrArg (atTime nowMs) same
  rw [run_reveal_to, run_reveal_to, phase]
  by_cases revealing : other.phase = .revealing
  · rw [if_pos revealing, if_pos revealing]
    have advanced : Twinned anonymous (advanceReveal : AnimatorStep σ α Unit) advanceReveal := by
      apply twinned_bind advance_branches_twinned
      intro _
      apply twinned_bind advance_leaves_twinned
      intro _
      exact twinned_bind shed_twinned (fun _ => settle_twinned)
    exact advanced _ _ timed
  · rw [if_neg revealing, if_neg revealing]
    exact ⟨rfl, timed⟩

omit [ChanceSource σ α] in
theorem drift_motes_twinned (dtMs : α) :
    Twinned anonymous (driftMotes dtMs : AnimatorStep σ α Unit) (driftMotes dtMs) := by
  apply twinned_get_bind
  · exact fun _ => rfl
  intro animator
  apply twinned_bind (twinned_lift _)
  intro motes
  exact twinned_modify (fun _ => rfl) (fun _ => rfl)

/-- Frames of one time do the same, whatever their numbers. -/
theorem heed_twinned {frame frame' : Frame α} (sameTime : frame.timestampMs = frame'.timestampMs) :
    Twinned anonymous (heed frame : AnimatorStep σ α Unit) (heed frame') := by
  unfold heed
  rw [sameTime]
  apply twinned_get_bind
  · exact fun _ => rfl
  intro animator
  apply twinned_bind (reveal_to_twinned _)
  intro _
  apply twinned_bind (drift_motes_twinned _)
  intro _
  exact twinned_modify (fun _ => rfl) (fun _ => rfl)

theorem change_heeded_alike {frame frame' : Frame α}
    (sameTime : frame.timestampMs = frame'.timestampMs) {one other : Animator σ α}
    (same : one.anonymous = other.anonymous) :
    ((Happening.heeded frame).change one).anonymous =
      ((Happening.heeded frame').change other).anonymous := by
  have phase : one.phase = other.phase := read_alike phase (fun _ => rfl) same
  by_cases idle : other.phase = .idle
  · simp only [Happening.change, phase, idle, if_true]
    exact same
  · simp only [Happening.change, phase, idle, if_false]
    exact (heed_twinned sameTime one other same).2

/-- What happens to a run is told by the times of the frames that it heeds. -/
theorem replay_ticks {since : List (Happening α)}
    (goesOn : ∀ happening ∈ since, happening.endsRun = false) {one other : Animator σ α}
    (same : one.anonymous = other.anonymous) :
    (replay since one).anonymous =
      (replay ((ticksOf since).map fun timeMs => .heeded ⟨0, timeMs⟩) other).anonymous := by
  induction since generalizing one other with
  | nil => exact same
  | cons happening since induction =>
      have ends := goesOn happening (List.mem_cons_self ..)
      have later : ∀ {one other : Animator σ α}, one.anonymous = other.anonymous →
          (replay since one).anonymous =
            (replay ((ticksOf since).map fun timeMs => .heeded ⟨0, timeMs⟩) other).anonymous :=
        induction (fun other member => goesOn other (List.mem_cons_of_mem _ member))
      cases happening with
      | began plan receiver subscription nowMs => cases ends
      | stopped => cases ends
      | reset => cases ends
      | heeded frame =>
          have sameTime : frame.timestampMs = (Frame.mk 0 frame.timestampMs).timestampMs := rfl
          exact later (change_heeded_alike sameTime same)
      | emitted frame => exact later same
      | published frame scene => exact later same
      | handed receiver frame scene => exact later same

/-- Animators that are alike stay so over the same ticks. -/
theorem replay_alike {since since' : List (Happening α)} (ticks : SameTicks since since')
    {one other : Animator σ α} (same : one.anonymous = other.anonymous) :
    (replay since one).anonymous = (replay since' other).anonymous := by
  rw [replay_ticks ticks.goes_on same, ticks.ticks, ← replay_ticks ticks.goes_on_too rfl]

omit [ChanceSource σ α] in
/-- A start makes the same of all animators of one make whose sources are in one state. -/
theorem launched_alike (plan : RunPlan α) (receiver receiver' subscription subscription' : Nat)
    (nowMs : α) {one other : Animator σ α} (make : one.SameMake other)
    (random : one.random = other.random) :
    ((one.idle.launched plan receiver nowMs).listening subscription).anonymous =
      ((other.idle.launched plan receiver' nowMs).listening subscription').anonymous := by
  have motes : one.motes.clear.usePalette plan.paletteIndex =
      other.motes.clear.usePalette plan.paletteIndex := by
    unfold ParticleSystem.clear ParticleSystem.usePalette
    rw [make.motes.settings, make.motes.surface]
  simp only [anonymous, listening, launched, idle, stopped, cleared, motes, make.settings, random]

end Animator

namespace Session

/-- Whether a start fails is told by the settings and the plan. -/
theorem start_outcome (plan : RunPlan α) (reactions : Reactions α) (session : Session σ α) :
    ((start plan (some reactions)).run session).1 =
      (session.animator.settings.revealDurationMs plan.branches.length).map fun _ => () := by
  obtain ⟨remarks, cancelled⟩ := run_cancel { session with runs := session.runs + 1 }
  simp only [start, run_bind, run_modify, cancelled, run_get, run_add_receiver, run_launch,
    run_lift, Animator.listening, Animator.launched, Animator.idle, Animator.cleared,
    Animator.stopped, List.length_map]
  cases session.animator.settings.revealDurationMs plan.branches.length <;> rfl

/-- Nothing can be told from the one session that could not be told from the other: they differ in
numbers that nobody is shown, and whatever was kept before shows the same scene. -/
structure Unnoticed (before after : Session σ α) : Prop where
  numbers : ∃ generation canvas retired chronicle,
    after =
      { before with
        animator := { before.animator with generation, canvas }
        retired
        chronicle }
  kept : ∀ still : Still α, still.canvas ≤ before.animator.canvas →
    after.scene still = before.scene still

/-- A reset that finds a cleared animator only counts its generation and its canvas on. -/
theorem run_reset_cleared (session : Session σ α) (animator : Animator σ α)
    (cleared : session.animator = animator.idle) :
    reset.run session =
      (.ok ⟨⟩,
        { session with
          retired := session.retired.put session.animator.canvas ⟨[], []⟩
          animator :=
            { session.animator with
              generation := session.animator.generation + 1
              canvas := session.animator.canvas + 1 }
          chronicle := session.chronicle.push .reset }) := by
  have idle : session.animator.phase = .idle := by rw [cleared]; rfl
  have deaf : session.animator.subscription = none := by rw [cleared]; rfl
  have blank : session.animator.branches = [] ∧ session.animator.leaves = [] := by
    rw [cleared]
    exact ⟨rfl, rfl⟩
  have again : session.animator.idle =
      { session.animator with
        generation := session.animator.generation + 1
        canvas := session.animator.canvas + 1 } := by
    rw [cleared]
    simp only [Animator.idle, Animator.cleared, Animator.stopped, FrameSampler.forget_twice]
    rfl
  rw [← again]
  simp only [reset, cancel, unsubscribe, run_bind, run_get, run_modify, run_note, idle, deaf, blank,
    ne_eq, not_true_eq_false, if_false]
  rfl

/-- Whatever has been kept shows the same scene after a second reset as before it. -/
theorem scene_after_second_reset (session : Session σ α) (animator : Animator σ α)
    (cleared : session.animator = animator.idle) (still : Still α)
    (old : still.canvas ≤ session.animator.canvas) :
    (reset.run session).2.scene still = session.scene still := by
  rw [run_reset_cleared session animator cleared]
  unfold scene
  dsimp only
  have blank : session.animator.branches = [] ∧ session.animator.leaves = [] := by
    rw [cleared]
    exact ⟨rfl, rfl⟩
  have earlier : still.canvas ≠ session.animator.canvas + 1 := by omega
  rw [if_neg earlier, Entries.find?_put]
  by_cases present : still.canvas = session.animator.canvas
  · rw [if_pos present.symm, if_pos present, blank.1, blank.2]
  · rw [if_neg (Ne.symm present), if_neg present]

theorem second_reset_unnoticed (session : Session σ α) (animator : Animator σ α)
    (cleared : session.animator = animator.idle) : session.Unnoticed (reset.run session).2 where
  numbers := by
    rw [run_reset_cleared session animator cleared]
    exact ⟨_, _, _, _, rfl⟩
  kept := scene_after_second_reset session animator cleared

section Frame

variable [ChanceSource σ α]

/-- The run of a session heeds the frames that reach it, and publishes their
scenes unless it fails on them. -/
def HeedsFrames (session : Session σ α) : Prop :=
  ∀ depth frame, ∃ rest,
    ((frameForRun (perform depth) session.animator.generation frame).run
        session).2.chronicle.toList =
      session.chronicle.toList ++ .heeded frame :: rest ∧
      (((Animator.heed frame).run session.animator).1 = .ok () →
        ∃ later, rest =
          .published frame ((Animator.heed frame).run session.animator).2.scene :: later)

variable {react : List (Command α) → Act σ α Unit}
  (reacts : ∀ commands, Leads Records (react commands))

include reacts

/-- The scene of a frame is published before anything else comes of it. -/
theorem present_publishes (generation : Nat) (frame : Frame α) (session : Session σ α) :
    ∃ rest, ((present react generation frame).run session).2.chronicle.toList =
      session.chronicle.toList ++ .published frame session.animator.scene :: rest := by
  have shown : Leads Records (Subject.deliver (do return (← get).scenes)
      (fun viewer => receive react viewer fun name =>
        .scene (.viewer name.number) session.animator.scene) session.scenes.live >>=
      fun _ => handOver react generation frame session.animator.scene) :=
    leads_bind records_kept.trans
      (leads_deliver records_kept.refl records_kept.trans (leads_read records_kept.refl _)
        (fun viewer => receive_leads records_kept reacts viewer _) _)
      (fun _ => hand_over_leads records_kept reacts generation frame _)
  obtain ⟨rest, further, _⟩ := shown
    { session with
      chronicle := session.chronicle.push (.published frame session.animator.scene) }
  refine ⟨rest, ?_⟩
  rw [present, run_bind, run_get]
  dsimp only
  rw [run_bind, run_publish, ← run_bind, further]
  simp

omit reacts in
theorem awake_session_heeds_frames (session : Session σ α)
    (awake : session.animator.phase ≠ .idle) :
    session.HeedsFrames := by
  intro depth frame
  obtain ⟨remarks, advanced⟩ := run_advance frame
    { session with chronicle := session.chronicle.push (.heeded frame) }
  rw [frameForRun, run_bind, run_get]
  dsimp only
  rw [if_neg (by simp [awake]), run_bind, run_note]
  dsimp only
  rw [run_bind, advanced]
  cases ((Animator.heed frame).run session.animator).1 with
  | error fault => exact ⟨[], by simp, by simp⟩
  | ok _ =>
      obtain ⟨rest, further⟩ := present_publishes (perform_leads records_kept depth)
        session.animator.generation frame
        { session with
          animator := ((Animator.heed frame).run session.animator).2
          chronicle := session.chronicle.push (.heeded frame)
          remarks }
      exact ⟨_, by rw [further]; simp, fun _ => ⟨rest, rfl⟩⟩

end Frame

section Driven

variable [ChanceSource σ α]

/-- A host that starts a run on its own sees it begin, and then what its further
commands lead to. -/
theorem drive_start (plan : RunPlan α) (reactions : Reactions α) (batches : List (List (Command α)))
    (session : Session σ α) :
    let begun := (session.run [.start plan (some reactions)]).2
    ∃ subscription, drive ([.start plan (some reactions)] :: batches) session =
      (.began plan session.receivers.size subscription session.clockMs :: (drive batches begun).1,
        (drive batches begun).2) := by
  intro begun
  obtain ⟨remarks, started⟩ := run_start plan reactions session.rested
  have alone : begun = ((start plan (some reactions)).run session.rested).2 :=
    congrArg Prod.snd (run_perform_one _ (.start plan (some reactions)) session.rested)
  have chronicle : begun.chronicle.toList = [.began plan session.receivers.size
      (session.frames.release session.animator.subscription).next session.clockMs] := by
    rw [alone, started]
    rfl
  refine ⟨(session.frames.release session.animator.subscription).next, ?_⟩
  rw [drive, chronicle]
  rfl

theorem drive_initial_orderly (clockMs : α) (first : Animator σ α)
    (deaf : first.subscription = none) (batches : List (List (Command α))) :
    Orderly first (drive batches (.initial clockMs first)).1
      (drive batches (.initial clockMs first)).2.rested := by
  have atFirst : Orderly first [] (initial clockMs first).rested := by
    refine ⟨rfl, ?_, by simp [story, rested, initial], rfl, lawful_nil⟩
    rw [listener, rested, initial, deaf]
    rfl
  have driven := drive_orderly deaf batches (initial clockMs first) atFirst
  rw [List.nil_append] at driven
  exact driven

/-- The run under way listens to the stream of frames, and heeds every frame that reaches it. -/
theorem underway_run_heeds (clockMs : α) (first : Animator σ α) (deaf : first.subscription = none)
    (batches : List (List (Command α))) {plan : RunPlan α} {receiver : Nat}
    {since : List (Happening α)}
    (underway : Underway (drive batches (.initial clockMs first)).1 plan receiver since) :
    let session := (drive batches (.initial clockMs first)).2
    (∃ subscription, (subscription, .run session.animator.generation) ∈ session.frames.live) ∧
      session.HeedsFrames := by
  intro session
  have orderly := drive_initial_orderly clockMs first deaf batches
  have replayed : session.animator =
      Animator.replay (drive batches (.initial clockMs first)).1 first :=
    drive_replays batches (.initial clockMs first)
  obtain ⟨_, subscription, subscribed⟩ := underway_listens first underway
  rw [← replayed] at subscribed
  refine ⟨⟨subscription, listener_live orderly.listening subscribed⟩, ?_⟩
  apply awake_session_heeds_frames
  rw [replayed]
  exact (underway_performs first underway).awake

end Driven

end Session

/-- A start forgets all history. Take any two sessions, driven in whatever way, over animators of
one make: if in both a run of one plan began at one time with the source of chance in one state,
then wherever frames of the same times have been heeded since, and no run has ended, the animators
are alike, show the same scene, have left their sources in one state again, and will take or fail
on the next frame in the same way. A start is such a beginning, and fails on both or neither; a
run under way is among the live observers of the stream, heeds each frame that reaches it and
publishes its scene unless it fails on it. A reset leaves the empty scene, and another one after
it nothing that could be told.

A run under way stays among the live observers because the streams of a session keep
the subscription of an observer that fails (`Upkeep.keeps`); where streams end it, it
stays until its observer fails. -/
theorem start_forgets_history [ChanceSource σ α] (settings : AnimationSettings α)
    (particleSettings : ParticleSettings α) (surface : Surface α) (clockMs clockMs' : α)
    (random random' : σ) (sampler sampler' : FrameSampler)
    (batches batches' : List (List (Command α))) :
    let first : Animator σ α := .initial settings particleSettings surface random sampler
    let first' : Animator σ α := .initial settings particleSettings surface random' sampler'
    let driven := Session.drive batches (.initial clockMs first)
    let driven' := Session.drive batches' (.initial clockMs' first')
    (∀ plan nowMs before receiver subscription since later before' receiver' subscription' since'
        later',
      driven.1 = before ++ .began plan receiver subscription nowMs :: (since ++ later) →
      driven'.1 = before' ++ .began plan receiver' subscription' nowMs :: (since' ++ later') →
      (Animator.replay before first).random = (Animator.replay before' first').random →
      SameTicks since since' →
        let one :=
          Animator.replay (before ++ .began plan receiver subscription nowMs :: since) first
        let other :=
          Animator.replay (before' ++ .began plan receiver' subscription' nowMs :: since') first'
        one.anonymous = other.anonymous ∧ one.scene = other.scene ∧ one.random = other.random ∧
          ∀ frame frame' : Frame α, frame.timestampMs = frame'.timestampMs →
            ((Animator.heed frame).run one).1 = ((Animator.heed frame').run other).1) ∧
      driven.2.animator = Animator.replay driven.1 first ∧
      (∀ earlier frame scene later, driven.1 = earlier ++ .published frame scene :: later →
        scene = (Animator.replay earlier first).scene) ∧
      (∀ plan receiver since, Underway driven.1 plan receiver since →
        (∃ subscription,
            (subscription, .run driven.2.animator.generation) ∈ driven.2.frames.live) ∧
          driven.2.HeedsFrames) ∧
      ∀ session : Session σ α,
        (∀ plan reactions,
          let begun := (Session.start plan (some reactions)).run session
          begun.1 =
              (session.animator.settings.revealDurationMs plan.branches.length).map (fun _ => ()) ∧
            ∃ subscription, begun.2.chronicle = session.chronicle.push
              (.began plan session.receivers.size subscription session.clockMs)) ∧
          let once := (Session.reset.run session).2
          once.animator.scene = Scene.empty ∧ once.Unnoticed (Session.reset.run once).2 := by
  intro first first' driven driven'
  have lawful : Lawful first driven.1 := by
    have whole := (Session.drive_initial_orderly clockMs first rfl batches).lawful
    simpa [Session.story, Session.rested] using whole
  refine ⟨?_, Session.drive_replays batches _, ?_, ?_, ?_⟩
  · intro plan nowMs before receiver subscription since later before' receiver' subscription' since'
      later' _ _ sameChance ticks one other
    have make : (Animator.replay before first).SameMake (Animator.replay before' first') := by
      have here := Animator.replay_same_make before first
      have there := Animator.replay_same_make before' first'
      exact ⟨there.settings.trans here.settings.symm,
        there.motes.settings.trans here.motes.settings.symm,
        there.motes.surface.trans here.motes.surface.symm⟩
    have started := Animator.launched_alike plan receiver receiver' subscription subscription' nowMs
      make sameChance
    have alike : one.anonymous = other.anonymous := by
      simp only [one, other, replay_append]
      exact Animator.replay_alike ticks started
    refine ⟨alike, Animator.read_alike Animator.scene (fun _ => rfl) alike,
      Animator.read_alike Animator.random (fun _ => rfl) alike, ?_⟩
    intro frame frame' sameTime
    exact (Animator.heed_twinned sameTime one other alike).1
  · intro earlier frame scene later split
    exact (lawful _ _ _ split).2.1
  · intro plan receiver since underway
    exact Session.underway_run_heeds clockMs first rfl batches underway
  · intro session
    constructor
    · intro plan reactions begun
      obtain ⟨_, started⟩ := Session.run_start plan reactions session
      refine ⟨Session.start_outcome plan reactions session, ?_⟩
      simp only [begun, started]
      exact ⟨_, rfl⟩
    · intro once
      obtain ⟨remarks, cleared⟩ := Session.run_reset session
      have idle : once.animator = session.animator.idle := by
        simp only [once, cleared]
      refine ⟨?_, Session.second_reset_unnoticed once session.animator idle⟩
      rw [idle]
      rfl

/-! One host starts a run at once; another has a run behind it that failed in its first frame, and
one that it has stopped, when it starts the same run at the same time. -/

def wornHost : List (List (Command Float)) :=
  [[.start unsteadyPlan (some [[.fail]]), .setClock 7000.0, .tick],
    [.tick, .start emptyPlan (some []), .tick, .stop], [.setClock 0.0]]

def renewedHost : List (List (Command Float)) := [[.setClock 5000.0, .tick], [.setClock 8.0, .tick]]

def freshRun : List (Happening Float) × Session Chance.Source Float :=
  Session.drive ([.start unsteadyPlan (some [])] :: renewedHost) (.initial 0.0 patientAnimator)

def wornSession : Session Chance.Source Float :=
  (Session.drive wornHost (.initial 40.0 patientAnimator)).2

def wornRun : List (Happening Float) × Session Chance.Source Float :=
  Session.drive (wornHost ++ [.start unsteadyPlan (some [])] :: renewedHost)
    (.initial 40.0 patientAnimator)

/-- What happens in a session to the run that is started in it. -/
def renewal (session : Session Chance.Source Float) : List (Happening Float) :=
  (Session.drive renewedHost (session.run [.start unsteadyPlan (some [])]).2).1

theorem renewals_have_same_ticks :
    SameTicks (renewal (.initial 0.0 patientAnimator)) (renewal wornSession) := by
  have freshGoesOn : (renewal (.initial 0.0 patientAnimator)).all
      (fun happening => !happening.endsRun) = true := by decide +kernel
  have wornGoesOn : (renewal wornSession).all (fun happening => !happening.endsRun) = true := by
    decide +kernel
  refine ⟨?_, ?_, by decide +kernel⟩
  · simpa using freshGoesOn
  · simpa using wornGoesOn

theorem source_of_values {source : Chance.Source}
    (same : (match source with
      | .scripted values position => decide (values = #[0.5] ∧ position = 0)
      | .seeded _ => false) = true) : source = .ofValues [0.5] := by
  cases source with
  | seeded twister => cases same
  | scripted values position =>
      obtain ⟨rfl, rfl⟩ := of_decide_eq_true same
      rfl

/-- The run that is started on a worn animator goes as it does on a fresh one,
and both reveal one leaf. -/
theorem worn_animator_renewed :
    freshRun.2.animator.generation ≠ wornRun.2.animator.generation ∧
      freshRun.2.animator.leafCursor = 1 ∧
      freshRun.2.animator.scene = wornRun.2.animator.scene ∧
      freshRun.2.animator.random = wornRun.2.animator.random := by
  refine ⟨by decide +kernel, by decide +kernel, ?_⟩
  have sameChance : wornSession.animator.random = .ofValues [0.5] :=
    source_of_values (by decide +kernel)
  have sameTime : wornSession.clockMs = 0.0 := by decide +kernel
  obtain ⟨subscription, freshHistory⟩ :=
    Session.drive_start unsteadyPlan [] renewedHost (Session.initial 0.0 patientAnimator)
  obtain ⟨subscription', wornHistory⟩ := Session.drive_start unsteadyPlan [] renewedHost wornSession
  have freshSplit : freshRun.1 = [] ++ .began unsteadyPlan 0 subscription 0.0 ::
      (renewal (.initial 0.0 patientAnimator) ++ []) := by
    rw [List.append_nil, freshRun, freshHistory]
    rfl
  have wornSplit : wornRun.1 = (Session.drive wornHost (.initial 40.0 patientAnimator)).1 ++
      .began unsteadyPlan wornSession.receivers.size subscription' 0.0 ::
        (renewal wornSession ++ []) := by
    rw [List.append_nil, wornRun, Session.drive_append, ← wornSession, wornHistory, sameTime]
    rfl
  have whole := start_forgets_history (.usual : AnimationSettings Float) .usual ⟨600.0, 600.0⟩ 0.0
    40.0 (Chance.Source.ofValues [0.5]) (.ofValues [0.5]) ⟨1, []⟩ ⟨1, []⟩
    ([.start unsteadyPlan (some [])] :: renewedHost)
    (wornHost ++ [.start unsteadyPlan (some [])] :: renewedHost)
  dsimp only at whole
  rw [← patientAnimator, ← freshRun, ← wornRun] at whole
  obtain ⟨alike, freshReplayed, _⟩ := whole
  have wornReplayed : wornRun.2.animator = Animator.replay wornRun.1 patientAnimator :=
    Session.drive_replays _ (.initial 40.0 patientAnimator)
  have pastReplayed : wornSession.animator =
      Animator.replay (Session.drive wornHost (.initial 40.0 patientAnimator)).1
        patientAnimator := by
    unfold wornSession
    exact Session.drive_replays wornHost (.initial 40.0 patientAnimator)
  have sameStart : (Animator.replay [] patientAnimator).random = (Animator.replay
      (Session.drive wornHost (.initial 40.0 patientAnimator)).1 patientAnimator).random := by
    rw [← pastReplayed, sameChance]
    rfl
  obtain ⟨_, sameScene, sameRandom, _⟩ := alike _ _ _ _ _ _ _ _ _ _ _ _ freshSplit wornSplit
    sameStart renewals_have_same_ticks
  rw [freshReplayed, wornReplayed, freshSplit, wornSplit, List.append_nil, List.append_nil]
  exact ⟨sameScene, sameRandom⟩

end Arboretum

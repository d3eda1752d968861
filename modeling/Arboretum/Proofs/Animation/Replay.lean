import Arboretum.Animation.Session
import Arboretum.Proofs.Animation.Reveal

/-!
The animator of a session is what its history makes of it. Receivers may start, stop and tick at any
point of a delivery, but each start, stop, reset and heeded frame changes the animator as a whole
and is put down in the chronicle when it does; so the animator after any commands is found by
replaying the chronicle, whatever the order in which receivers were called and failed.
-/

namespace Arboretum

open Fallible

set_option autoImplicit false

variable {σ α : Type}

namespace Animator

def sampled (index : Nat) (animator : Animator σ α) : Animator σ α :=
  { animator with
    sampler := (animator.sampler.sample frameKey index animator.phase.text).2 }

variable [Scalar α] [ChanceSource σ α]

/-- All that a frame does to the animator whose run heeds it. -/
def heed (frame : Frame α) : AnimatorStep σ α Unit := do
  let before ← get
  revealTo frame.timestampMs
  driftMotes (before.sinceLastTick frame.timestampMs)
  modify (sampled frame.index)

/-- Every part of a frame leads along the relation. -/
structure KeptByFrames (relation : Animator σ α → Animator σ α → Prop) : Prop where
  refl : ∀ animator, relation animator animator
  trans : ∀ first second third,
    relation first second → relation second third → relation first third
  at_time : ∀ nowMs animator, relation animator (animator.atTime nowMs)
  branches : Leads relation (advanceBranches : AnimatorStep σ α Unit)
  leaves : Leads relation (advanceLeaves : AnimatorStep σ α Unit)
  shed : Leads relation (shed : AnimatorStep σ α Unit)
  settle : Leads relation (settle : AnimatorStep σ α Unit)
  drift : ∀ dtMs, Leads relation (driftMotes dtMs : AnimatorStep σ α Unit)
  sampled : ∀ index animator, relation animator (animator.sampled index)

section KeptByFrames

variable {relation : Animator σ α → Animator σ α → Prop} (kept : KeptByFrames relation)

include kept

theorem advance_reveal_leads : Leads relation (advanceReveal : AnimatorStep σ α Unit) := by
  apply leads_bind kept.trans kept.branches
  intro _
  apply leads_bind kept.trans kept.leaves
  intro _
  exact leads_bind kept.trans kept.shed (fun _ => kept.settle)

theorem reveal_to_leads (nowMs : α) : Leads relation (revealTo nowMs : AnimatorStep σ α Unit) := by
  apply leads_get_bind
  intro animator
  apply leads_bind_at kept.trans (kept.at_time nowMs animator)
  intro _ later _
  by_cases revealing : animator.phase = .revealing
  · simp only [revealing, if_true]
    exact advance_reveal_leads kept later
  · simp only [revealing, if_false]
    exact kept.refl later

theorem heed_leads (frame : Frame α) : Leads relation (heed frame : AnimatorStep σ α Unit) := by
  apply leads_get_bind
  intro animator
  apply leads_bind_at kept.trans (reveal_to_leads kept frame.timestampMs animator)
  intro _ revealed _
  exact leads_bind kept.trans (kept.drift _) (fun _ => leads_modify (kept.sampled frame.index))
    revealed

end KeptByFrames

theorem same_run_kept : KeptByFrames (SameRun : Animator σ α → Animator σ α → Prop) where
  refl := same_run_refl
  trans := same_run_trans
  at_time _ _ := ⟨rfl, rfl, rfl, rfl, rfl⟩
  branches := advance_branches_same_run
  leaves := advance_leaves_same_run
  shed := shed_same_run
  settle := settle_same_run
  drift := drift_motes_same_run
  sampled _ _ := ⟨rfl, rfl, rfl, rfl, rfl⟩

theorem heed_same_run (frame : Frame α) :
    Leads SameRun (heed frame : AnimatorStep σ α Unit) := heed_leads same_run_kept frame

end Animator

namespace Happening

/-- Starts, stops and resets end the run before them. -/
def endsRun : Happening α → Bool
  | .began _ _ _ _ | .stopped | .reset => true
  | _ => false

theorem ends_run_cases {happening : Happening α} (ends : happening.endsRun = true) :
    (∃ plan receiver subscription nowMs,
        happening = .began plan receiver subscription nowMs) ∨
      happening = .stopped ∨ happening = .reset := by
  cases happening with
  | began plan receiver subscription nowMs =>
      exact .inl ⟨plan, receiver, subscription, nowMs, rfl⟩
  | stopped => exact .inr (.inl rfl)
  | reset => exact .inr (.inr rfl)
  | emitted frame => cases ends
  | heeded frame => cases ends
  | published frame scene => cases ends
  | handed receiver frame scene => cases ends

variable [Scalar α] [ChanceSource σ α]

/-- What a happening makes of an animator. An idle animator has no run that could heed a frame. -/
def change : Happening α → Animator σ α → Animator σ α
  | .began plan receiver subscription nowMs, animator =>
      (animator.idle.launched plan receiver nowMs).listening subscription
  | .stopped, animator => animator.stopped
  | .reset, animator => animator.idle
  | .heeded frame, animator =>
      if animator.phase = .idle then animator else ((Animator.heed frame).run animator).2
  | _, animator => animator

/-- What a happening leaves of the lists laid aside. Starts and resets lay the present ones aside,
under the number of their canvas. -/
def laysAside : Happening α → Animator σ α → Entries Nat (Canvas α) → Entries Nat (Canvas α)
  | .began _ _ _ _, animator, retired | .reset, animator, retired =>
      retired.put animator.canvas ⟨animator.branches, animator.leaves⟩
  | _, _, retired => retired

end Happening

section Replay

variable [Scalar α] [ChanceSource σ α]

/-- What a history makes of an animator. -/
def Animator.replay (history : List (Happening α)) (animator : Animator σ α) : Animator σ α :=
  history.foldl (fun animator happening => happening.change animator) animator

theorem change_same_run {happening : Happening α} (goesOn : happening.endsRun = false)
    (animator : Animator σ α) : animator.SameRun (happening.change animator) := by
  cases happening with
  | began plan receiver subscription nowMs => cases goesOn
  | stopped => cases goesOn
  | reset => cases goesOn
  | heeded frame =>
      rw [Happening.change]
      split
      · exact Animator.same_run_refl animator
      · exact Animator.heed_same_run frame animator
  | emitted frame => exact Animator.same_run_refl animator
  | published frame scene => exact Animator.same_run_refl animator
  | handed receiver frame scene => exact Animator.same_run_refl animator

/-- Where every happening of a history leads, the whole history does. -/
theorem replay_leads (relation : Animator σ α → Animator σ α → Prop)
    (refl : ∀ animator, relation animator animator)
    (trans : ∀ a b c, relation a b → relation b c → relation a c) {history : List (Happening α)}
    (each : ∀ happening ∈ history, ∀ animator, relation animator (happening.change animator))
    (animator : Animator σ α) : relation animator (Animator.replay history animator) := by
  induction history generalizing animator with
  | nil => exact refl animator
  | cons happening history induction =>
      have here := each happening (List.mem_cons_self ..) animator
      have later := induction (fun other member => each other (List.mem_cons_of_mem _ member))
        (happening.change animator)
      exact trans _ _ _ here later

theorem replay_same_run {history : List (Happening α)}
    (goesOn : ∀ happening ∈ history, happening.endsRun = false) (animator : Animator σ α) :
    animator.SameRun (Animator.replay history animator) :=
  replay_leads Animator.SameRun Animator.same_run_refl Animator.same_run_trans
    (fun happening member => change_same_run (goesOn happening member)) animator

theorem replay_append (earlier later : List (Happening α)) (animator : Animator σ α) :
    Animator.replay (earlier ++ later) animator =
      Animator.replay later (Animator.replay earlier animator) := by
  simp only [Animator.replay, List.foldl_append]

end Replay

namespace Session

/-! What the acts do that call no receiver. -/

theorem run_note (happening : Happening α) (session : Session σ α) :
    (note happening).run session =
      (.ok ⟨⟩, { session with chronicle := session.chronicle.push happening }) := rfl

theorem run_remark (happened : Remark α) (session : Session σ α) :
    (remark happened).run session =
      (.ok ⟨⟩, { session with remarks := session.remarks.push happened }) := rfl

theorem run_animate {β : Type} (step : AnimatorStep σ α β) (session : Session σ α) :
    (animate step).run session =
      ((step.run session.animator).1,
        { session with animator := (step.run session.animator).2 }) := rfl

theorem run_add_receiver (name : ReceiverName) (reactions : Reactions α) (session : Session σ α) :
    (addReceiver name reactions).run session =
      (.ok session.receivers.size,
        { session with receivers := session.receivers.push ⟨name, reactions, 0⟩ }) := rfl

theorem run_remark_on_frame (frame : Frame α) (session : Session σ α) :
    ∃ remarks, (remarkOnFrame frame).run session =
      (.ok ⟨⟩, { session with animator := session.animator.sampled frame.index, remarks }) := by
  simp only [remarkOnFrame, run_bind, run_get, run_modify]
  cases due : (session.animator.sampler.sample Animator.frameKey frame.index
    session.animator.phase.text).1 with
  | false => exact ⟨session.remarks, rfl⟩
  | true =>
      exact ⟨session.remarks.push
        (.frame frame.index session.animator.phase session.animator.counts), rfl⟩

/-- A delivery leads where every hand-over does, whoever is passed over and wherever it ends. -/
theorem leads_deliver {τ κ : Type} {relation : τ → τ → Prop}
    (refl : ∀ state, relation state state)
    (trans : ∀ a b c, relation a b → relation b c → relation a c)
    {current : ExceptT Fault (StateM τ) (Subject κ)} {hand : κ → ExceptT Fault (StateM τ) Unit}
    (look : Leads relation current) (each : ∀ observer, Leads relation (hand observer))
    (entries : List (Nat × κ)) : Leads relation (Subject.deliver current hand entries) := by
  induction entries with
  | nil => exact leads_pure refl ()
  | cons entry entries induction =>
      apply leads_bind trans look
      intro subject
      by_cases live : subject.isLive entry.1
      · simp only [live, if_true]
        exact leads_bind trans (each entry.2) (fun _ => induction)
      · simp only [live, Bool.false_eq_true, if_false]
        exact induction

def given (number : Nat) (receiver : Receiver α) (event : Event α) (session : Session σ α) :
    Session σ α :=
  { session with
    events := session.events.push event
    receivers := session.receivers.setIfInBounds number
      { receiver with calls := receiver.calls + 1 } }

theorem run_receive_nobody (react : List (Command α) → Act σ α Unit) (number : Nat)
    (event : ReceiverName → Event α) (session : Session σ α)
    (nobody : session.receivers[number]? = none) :
    (receive react number event).run session = (.ok ⟨⟩, session) := by
  rw [receive, run_bind, run_get]
  dsimp only
  rw [nobody]
  rfl

theorem run_receive (react : List (Command α) → Act σ α Unit) (number : Nat)
    (event : ReceiverName → Event α) (session : Session σ α) {receiver : Receiver α}
    (there : session.receivers[number]? = some receiver) :
    (receive react number event).run session =
      (react (receiver.reactions.getD receiver.calls [])).run
        (given number receiver (event receiver.name) session) := by
  rw [receive, run_bind, run_get]
  dsimp only
  rw [there]
  dsimp only
  rw [run_bind, run_modify]
  rfl

theorem run_hand_over (react : List (Command α) → Act σ α Unit) (frame : Frame α) (scene : Scene α)
    (session : Session σ α) {generation number : Nat} {receiver : Receiver α}
    (current : session.animator.generation = generation)
    (receives : session.animator.receiver = some number)
    (there : session.receivers[number]? = some receiver) :
    (handOver react generation frame scene).run session =
      (react (receiver.reactions.getD receiver.calls [])).run
        (given number receiver (.scene (.run receiver.name.number) scene)
          { session with chronicle := session.chronicle.push (.handed number frame scene) }) := by
  rw [handOver, run_bind, run_get]
  dsimp only
  rw [if_neg (not_not.mpr current), receives]
  dsimp only
  rw [run_bind, run_note]
  exact run_receive react number (fun name => .scene (.run name.number) scene) _ there

theorem run_publish (react : List (Command α) → Act σ α Unit) (frame : Frame α) (scene : Scene α)
    (session : Session σ α) :
    (publish react frame scene).run session =
      (Subject.deliver (do return (← get).scenes)
        (fun viewer => receive react viewer fun name => .scene (.viewer name.number) scene)
        session.scenes.live).run
        { session with chronicle := session.chronicle.push (.published frame scene) } := by
  rw [publish, run_bind, run_note]
  dsimp only
  rw [run_bind, run_get]

section Scalar

variable [Scalar α]

theorem run_cancel (session : Session σ α) :
    ∃ remarks, cancel.run session =
      (.ok ⟨⟩,
        { session with
          frames := session.frames.release session.animator.subscription
          retired := session.retired.put session.animator.canvas
            ⟨session.animator.branches, session.animator.leaves⟩
          animator := session.animator.idle
          remarks }) := by
  simp only [cancel, unsubscribe, run_bind, run_get, run_modify]
  by_cases running : session.animator.phase = .idle
  · exact ⟨session.remarks, by simp only [running, ne_eq, not_true_eq_false, if_false]; rfl⟩
  · refine ⟨session.remarks.push .returnedToIdle, ?_⟩
    simp only [ne_eq, running, not_false_eq_true, if_true]
    rfl

theorem run_reset (session : Session σ α) :
    ∃ remarks, reset.run session =
      (.ok ⟨⟩,
        { session with
          frames := session.frames.release session.animator.subscription
          retired := session.retired.put session.animator.canvas
            ⟨session.animator.branches, session.animator.leaves⟩
          animator := session.animator.idle
          chronicle := session.chronicle.push .reset
          remarks }) := by
  obtain ⟨remarks, cancelled⟩ := run_cancel session
  refine ⟨remarks, ?_⟩
  rw [reset, run_bind, cancelled]
  rfl

theorem run_launch (plan : RunPlan α) (receiver : Nat) (session : Session σ α) :
    (launch plan receiver).run session =
      (.ok ⟨⟩,
        { session with
          frames := session.frames.subscribe (.run session.animator.generation)
          animator :=
            (session.animator.launched plan receiver session.clockMs).listening session.frames.next
          chronicle := session.chronicle.push
            (.began plan receiver session.frames.next session.clockMs) }) := rfl

theorem run_start_refused (plan : RunPlan α) (session : Session σ α) :
    (start plan none).run session =
      (.error .receiverNotCallable, { session with runs := session.runs + 1 }) := by
  simp only [start, run_bind, run_modify, run_throw]

theorem run_start (plan : RunPlan α) (reactions : Reactions α) (session : Session σ α) :
    ∃ remarks, ((start plan (some reactions)).run session).2 =
      { session with
        runs := session.runs + 1
        frames := (session.frames.release session.animator.subscription).subscribe
          (.run (session.animator.generation + 1))
        retired := session.retired.put session.animator.canvas
          ⟨session.animator.branches, session.animator.leaves⟩
        animator :=
          (session.animator.idle.launched plan session.receivers.size session.clockMs).listening
            (session.frames.release session.animator.subscription).next
        receivers := session.receivers.push ⟨.run (session.runs + 1), reactions, 0⟩
        chronicle := session.chronicle.push
          (.began plan session.receivers.size
            (session.frames.release session.animator.subscription).next session.clockMs)
        remarks } := by
  obtain ⟨remarks, cancelled⟩ := run_cancel { session with runs := session.runs + 1 }
  simp only [start, run_bind, run_modify, cancelled, run_get, run_add_receiver, run_launch,
    run_lift]
  generalize AnimationSettings.revealDurationMs (α := α) _ _ = duration
  cases duration with
  | error fault => exact ⟨remarks, rfl⟩
  | ok duration => exact ⟨remarks.push (.started _ _ duration), rfl⟩

theorem run_start_tree (growth : Growth α) (reactions : Option (Reactions α))
    (session : Session σ α) :
    (startTree growth reactions).run session =
      match growth.outcome with
      | .error fault =>
          (.error fault, { session with remarks := session.remarks ++ growth.remarks })
      | .ok tree =>
          (start (RunPlan.ofTree session.animator.motes.settings tree) reactions).run
            { session with remarks := session.remarks ++ growth.remarks } := by
  cases grown : growth.outcome with
  | error fault => simp only [startTree, run_bind, run_modify, grown, run_lift]
  | ok tree => simp only [startTree, run_bind, run_modify, grown, run_lift, run_get]

end Scalar

variable [Scalar α]

theorem run_drift_and_remark (dtMs : α) (frame : Frame α) (session : Session σ α) :
    ∃ remarks,
      (do animate (Animator.driftMotes dtMs); remarkOnFrame frame : Act σ α Unit).run session =
        (((do Animator.driftMotes dtMs; modify (Animator.sampled frame.index) :
            AnimatorStep σ α Unit).run session.animator).1,
          { session with
            animator := ((do Animator.driftMotes dtMs; modify (Animator.sampled frame.index) :
              AnimatorStep σ α Unit).run session.animator).2
            remarks }) := by
  simp only [run_bind, run_animate, run_modify]
  rcases (Animator.driftMotes dtMs).run session.animator with ⟨fault | _, drifted⟩
  · exact ⟨session.remarks, rfl⟩
  · exact run_remark_on_frame frame { session with animator := drifted }

variable [ChanceSource σ α]

/-- The animator of a session moves on to a frame as it does alone, and fails where it does. -/
theorem run_advance (frame : Frame α) (session : Session σ α) :
    ∃ remarks, (advance frame).run session =
      (((Animator.heed frame).run session.animator).1,
        { session with
          animator := ((Animator.heed frame).run session.animator).2
          remarks }) := by
  let dtMs := session.animator.sinceLastTick frame.timestampMs
  rw [advance, run_bind, run_get, Animator.heed, run_bind, run_get]
  simp only [run_bind (animate (Animator.revealTo frame.timestampMs)),
    run_bind (Animator.revealTo frame.timestampMs), run_animate]
  rcases (Animator.revealTo frame.timestampMs).run session.animator with ⟨fault | _, revealed⟩
  · exact ⟨session.remarks, rfl⟩
  · simp only [run_bind get, run_get]
    by_cases settled : session.animator.phase = .revealing ∧ revealed.phase = .settled
    · simp only [settled, and_self, if_true, run_bind (remark _), run_remark]
      exact run_drift_and_remark dtMs frame { session with
        animator := revealed
        remarks := session.remarks.push
          (.settled revealed.elapsedMs revealed.branches.length revealed.leaves.length) }
    · simp only [settled, if_false]
      exact run_drift_and_remark dtMs frame { session with animator := revealed }

theorem run_tick (react : List (Command α) → Act σ α Unit) (session : Session σ α) :
    (tick react).run session =
      (Subject.deliver (do return (← get).frames) (observe react session.upcomingFrame)
        session.frames.live).run
        { session with
          nextFrame := session.nextFrame + 1
          chronicle := session.chronicle.push (.emitted session.upcomingFrame) } := by
  rw [tick, run_bind, run_get]
  dsimp only
  rw [run_bind, run_modify]
  dsimp only
  rw [run_bind, run_note]

/-- Nothing has been put down, and the animator and all that is kept of earlier
scenes are as they were. -/
structure Silent (before after : Session σ α) : Prop where
  chronicle : after.chronicle = before.chronicle
  animator : after.animator = before.animator
  retired : after.retired = before.retired
  album : after.album = before.album

/-- A happening has been put down, and what comes of it has come. -/
structure Notes (happening : Happening α) (before after : Session σ α) : Prop where
  chronicle : after.chronicle = before.chronicle.push happening
  animator : after.animator = happening.change before.animator
  retired : after.retired = happening.laysAside before.animator before.retired
  album : after.album = before.album

/-- The relation holds across the changes that all acts of a session are made of: silent ones, those
that a happening comes with, and the keeping of a scene. -/
structure KeptByActs (relation : Session σ α → Session σ α → Prop) : Prop where
  refl : ∀ session, relation session session
  trans : ∀ first second third,
    relation first second → relation second third → relation first third
  silent : ∀ {before after}, Silent before after → relation before after
  noted : ∀ happening {before after}, Notes happening before after → relation before after
  keep : ∀ label session,
    relation session { session with album := session.album.put label session.still }

section KeptByActs

variable {relation : Session σ α → Session σ α → Prop} (kept : KeptByActs relation)

include kept

theorem stop_leads : Leads relation (stop : Act σ α Unit) := fun _ =>
  kept.noted .stopped ⟨rfl, rfl, rfl, rfl⟩

theorem reset_leads : Leads relation (reset : Act σ α Unit) := by
  intro session
  obtain ⟨remarks, cleared⟩ := run_reset session
  rw [cleared]
  exact kept.noted .reset ⟨rfl, rfl, rfl, rfl⟩

theorem start_leads (plan : RunPlan α) (reactions : Option (Reactions α)) :
    Leads relation (start plan reactions : Act σ α Unit) := by
  intro session
  cases reactions with
  | none =>
      rw [run_start_refused]
      exact kept.silent ⟨rfl, rfl, rfl, rfl⟩
  | some reactions =>
      obtain ⟨remarks, started⟩ := run_start plan reactions session
      rw [started]
      exact kept.noted (.began plan _ _ _) ⟨rfl, rfl, rfl, rfl⟩

theorem start_tree_leads (growth : Growth α) (reactions : Option (Reactions α)) :
    Leads relation (startTree growth reactions : Act σ α Unit) := by
  intro session
  rw [run_start_tree]
  have told : relation session { session with remarks := session.remarks ++ growth.remarks } :=
    kept.silent ⟨rfl, rfl, rfl, rfl⟩
  cases growth.outcome with
  | error fault => exact told
  | ok tree => exact kept.trans _ _ _ told (start_leads kept _ reactions _)

section Reactions

variable {react : List (Command α) → Act σ α Unit}
  (reacts : ∀ commands, Leads relation (react commands))

include reacts

theorem receive_leads (number : Nat) (event : ReceiverName → Event α) :
    Leads relation (receive react number event) := by
  apply leads_get_bind
  intro session
  cases session.receivers[number]? with
  | none => exact kept.refl session
  | some receiver =>
      exact leads_bind_at kept.trans (kept.silent ⟨rfl, rfl, rfl, rfl⟩)
        (fun _ later _ => reacts _ later)

theorem publish_leads (frame : Frame α) (scene : Scene α) :
    Leads relation (publish react frame scene) := by
  intro session
  refine leads_bind_at kept.trans (kept.noted (.published frame scene) ⟨rfl, rfl, rfl, rfl⟩)
    (fun _ noted _ => ?_)
  refine leads_get_bind (fun shown => ?_) noted
  exact leads_deliver kept.refl kept.trans (leads_read kept.refl _)
    (fun viewer => receive_leads kept reacts viewer _) _ shown

theorem hand_over_leads (generation : Nat) (frame : Frame α) (scene : Scene α) :
    Leads relation (handOver react generation frame scene) := by
  apply leads_get_bind
  intro session
  by_cases replaced : session.animator.generation ≠ generation
  · rw [if_pos replaced]
    exact kept.refl session
  · rw [if_neg replaced]
    cases session.animator.receiver with
    | none => exact kept.refl session
    | some receiver =>
        exact leads_bind_at kept.trans
          (kept.noted (.handed receiver frame scene) ⟨rfl, rfl, rfl, rfl⟩)
          (fun _ handed _ => receive_leads kept reacts receiver _ handed)

theorem present_leads (generation : Nat) (frame : Frame α) :
    Leads relation (present react generation frame) := by
  apply leads_get_bind
  intro session
  exact leads_bind kept.trans (publish_leads kept reacts frame _)
    (fun _ => hand_over_leads kept reacts generation frame _) session

theorem frame_for_run_leads (generation : Nat) (frame : Frame α) :
    Leads relation (frameForRun react generation frame) := by
  apply leads_get_bind
  intro session
  by_cases deaf : session.animator.generation ≠ generation ∨ session.animator.phase = .idle
  · simp only [deaf, if_true]
    exact kept.refl session
  · simp only [deaf, if_false]
    have awake : session.animator.phase ≠ .idle := fun idle => deaf (.inr idle)
    obtain ⟨remarks, advanced⟩ := run_advance frame
      { session with chronicle := session.chronicle.push (.heeded frame) }
    have moved : relation session
        { session with
          animator := ((Animator.heed frame).run session.animator).2
          chronicle := session.chronicle.push (.heeded frame)
          remarks } :=
      kept.noted (.heeded frame)
        ⟨rfl, by simp only [Happening.change, awake, if_false], rfl, rfl⟩
    rw [run_bind, run_note]
    dsimp only
    rw [run_bind, advanced]
    cases ((Animator.heed frame).run session.animator).1 with
    | error fault => exact moved
    | ok _ => exact kept.trans _ _ _ moved (present_leads kept reacts generation frame _)

theorem tick_leads : Leads relation (tick react) := by
  intro session
  rw [run_tick]
  have emitted : relation session
      { session with
        nextFrame := session.nextFrame + 1
        chronicle := session.chronicle.push (.emitted session.upcomingFrame) } :=
    kept.noted (.emitted session.upcomingFrame) ⟨rfl, rfl, rfl, rfl⟩
  refine kept.trans _ _ _ emitted ?_
  apply leads_deliver kept.refl kept.trans (leads_read kept.refl _)
  intro observer
  cases observer with
  | watcher receiver =>
      rw [observe]
      exact receive_leads kept reacts receiver _
  | run generation =>
      rw [observe]
      exact frame_for_run_leads kept reacts generation _

theorem execute_leads (command : Command α) : Leads relation (execute react command) := by
  cases command with
  | setClock timeMs => exact fun session => kept.silent ⟨rfl, rfl, rfl, rfl⟩
  | advanceClock stepMs => exact fun session => kept.silent ⟨rfl, rfl, rfl, rfl⟩
  | tick => exact tick_leads kept reacts
  | start plan reactions => exact start_leads kept plan reactions
  | startTree growth reactions => exact start_tree_leads kept growth reactions
  | stop => exact stop_leads kept
  | reset => exact reset_leads kept
  | watchFrames reactions => exact fun session => kept.silent ⟨rfl, rfl, rfl, rfl⟩
  | unwatchFrames subscription => exact fun session => kept.silent ⟨rfl, rfl, rfl, rfl⟩
  | watchScenes reactions => exact fun session => kept.silent ⟨rfl, rfl, rfl, rfl⟩
  | unwatchScenes subscription => exact fun session => kept.silent ⟨rfl, rfl, rfl, rfl⟩
  | keep label => exact kept.keep label
  | fail => exact fun session => kept.refl session

end Reactions

/-- Whatever commands are carried out, and however deep receivers react to them, they lead where
each of their changes does. -/
theorem perform_leads (depth : Nat) (commands : List (Command α)) :
    Leads relation (perform depth commands : Act σ α Unit) := by
  induction depth generalizing commands with
  | zero => exact leads_pure kept.refl ()
  | succ depth induction =>
      exact leads_for_each kept.refl kept.trans (execute_leads kept induction) commands

end KeptByActs

/-- What has been put down between two sessions leads from the animator of the one to that of the
other. -/
def Records (before after : Session σ α) : Prop :=
  ∃ news, after.chronicle.toList = before.chronicle.toList ++ news ∧
    after.animator = Animator.replay news before.animator

theorem records_kept : KeptByActs (Records : Session σ α → Session σ α → Prop) where
  refl _ := ⟨[], by simp, rfl⟩
  trans := by
    rintro first second third ⟨early, earlyChronicle, earlyAnimator⟩
      ⟨late, lateChronicle, lateAnimator⟩
    refine ⟨early ++ late, ?_, ?_⟩
    · rw [lateChronicle, earlyChronicle, List.append_assoc]
    · rw [lateAnimator, earlyAnimator, replay_append]
  silent same := ⟨[], by simp [same.chronicle], same.animator⟩
  noted happening _ _ notes := ⟨[happening], by simp [notes.chronicle], notes.animator⟩
  keep _ _ := ⟨[], by simp, rfl⟩

/-- All that happens, and the session in the end, when a host gives commands in batches. A batch
ends early where a command fails; the host goes on with the next one. -/
def drive : List (List (Command α)) → Session σ α → List (Happening α) × Session σ α
  | [], session => ([], session)
  | commands :: rest, session =>
      let after := (session.run commands).2
      let driven := drive rest after
      (after.chronicle.toList ++ driven.1, driven.2)

theorem drive_append (batches more : List (List (Command α))) (session : Session σ α) :
    drive (batches ++ more) session =
      ((drive batches session).1 ++ (drive more (drive batches session).2).1,
        (drive more (drive batches session).2).2) := by
  induction batches generalizing session with
  | nil => rfl
  | cons commands batches induction =>
      rw [List.cons_append, drive, induction]
      simp only [drive, List.append_assoc]

theorem run_replays (commands : List (Command α)) (session : Session σ α) :
    (session.run commands).2.animator =
      Animator.replay (session.run commands).2.chronicle.toList session.animator := by
  obtain ⟨news, chronicle, animator⟩ := perform_leads records_kept
    (session.pendingReactions + countOfCommands commands + 1) commands
    { session with events := #[], chronicle := #[] }
  have same : (session.run commands).2.chronicle.toList = news :=
    chronicle.trans (List.nil_append news)
  rw [same]
  exact animator

/-- The animator that a host ends up with is what the history of its session
makes of the first one. -/
theorem drive_replays (batches : List (List (Command α))) (session : Session σ α) :
    (drive batches session).2.animator =
      Animator.replay (drive batches session).1 session.animator := by
  induction batches generalizing session with
  | nil => rfl
  | cons commands batches induction =>
      simp only [drive, replay_append]
      rw [induction, run_replays]

end Session

end Arboretum

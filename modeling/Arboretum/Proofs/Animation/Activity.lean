import Arboretum.Proofs.Animation.Renewal
import Arboretum.Proofs.Animation.Upkeep

/-!
Whether the animator is active, and whether the next frame reaches its run. Where failing observers
stay subscribed the two are the same. Where they do not, a run is lost exactly when its own
observer fails while it is the present one: the animator stays active and no frame reaches it,
until it is started, stopped or reset.
-/

namespace Arboretum

open Fallible

set_option autoImplicit false

variable {σ α β γ : Type}

namespace Session

/-- A run is only ever replaced by a later one, and as long as it is the present one it is not
reached again once it was lost. -/
structure Outlasts (before after : Session σ α) : Prop where
  grows : before.animator.generation ≤ after.animator.generation
  subscribed : after.animator.generation = before.animator.generation →
    after.animator.subscription = before.animator.subscription
  unreached : after.animator.generation = before.animator.generation →
    after.reachesRun = true → before.reachesRun = true

section Outlasts

variable {before middle after : Session σ α}

theorem outlasts_refl (session : Session σ α) : Outlasts session session :=
  ⟨Nat.le_refl _, fun _ => rfl, fun _ reaches => reaches⟩

theorem outlasts_trans (early : Outlasts before middle) (late : Outlasts middle after) :
    Outlasts before after := by
  have grewEarly := early.grows
  have grewLate := late.grows
  constructor
  · exact Nat.le_trans grewEarly grewLate
  · intro same
    exact (late.subscribed (by omega)).trans (early.subscribed (by omega))
  · intro same reaches
    exact early.unreached (by omega) (late.unreached (by omega) reaches)

theorem outlasts_of_later (later : before.animator.generation < after.animator.generation) :
    Outlasts before after := by
  have other : after.animator.generation ≠ before.animator.generation := Nat.ne_of_gt later
  exact ⟨Nat.le_of_lt later, fun same => absurd same other, fun same => absurd same other⟩

theorem reaches_run_congr (generation : after.animator.generation = before.animator.generation)
    (listening : runsListening after.frames = runsListening before.frames) :
    after.reachesRun = true ↔ before.reachesRun = true := by
  simp only [reaches_run_iff, ← mem_runs_listening, generation, listening]

theorem sound_congr (generation : after.animator.generation = before.animator.generation)
    (subscription : after.animator.subscription = before.animator.subscription)
    (listening : runsListening after.frames = runsListening before.frames) (sound : Sound before) :
    Sound after := by
  intro number carried member
  rw [← mem_runs_listening, listening, mem_runs_listening] at member
  rw [subscription, generation]
  exact sound number carried member

end Outlasts

variable [Scalar α] [ChanceSource σ α]

/-- What a part of a session does to a sound one, where failing observers are unsubscribed: a run
that could be reached, or is new, is only lost by a failure of its observer. -/
structure Tends (before : Session σ α) (result : Except Fault β × Session σ α) : Prop where
  sound : Sound result.2
  outlasts : Outlasts before result.2
  heard : Heard before ∨ before.animator.generation < result.2.animator.generation →
    Heard result.2 ∨ ∃ fault, result.1 = .error fault ∧ RunFailed fault result.2

def Tending (act : Act σ α β) : Prop := ∀ session, Sound session → Tends session (act.run session)

section Tends

variable {before : Session σ α} {result : Except Fault β × Session σ α}

/-- Nothing is changed that decides whether a frame reaches the run. -/
theorem tends_of_quiet (sound : Sound before)
    (generation : result.2.animator.generation = before.animator.generation)
    (subscription : result.2.animator.subscription = before.animator.subscription)
    (listening : runsListening result.2.frames = runsListening before.frames) :
    Tends before result := by
  have reaches := reaches_run_congr generation listening
  refine ⟨sound_congr generation subscription listening sound, ?_, ?_⟩
  · exact ⟨Nat.le_of_eq generation.symm, fun _ => subscription, fun _ => reaches.mp⟩
  · rintro (heard | later)
    · left
      rw [Heard, Animator.isActive, subscription, reaches]
      exact heard
    · exact absurd generation (Nat.ne_of_gt later)

theorem tends_of_listening (listening : runsListening result.2.frames = listener result.2.animator)
    (later : before.animator.generation < result.2.animator.generation) : Tends before result :=
  ⟨sound_of_listening listening, outlasts_of_later later,
    fun _ => .inl (heard_of_listening listening)⟩

theorem tends_trans {middle : Session σ α} {value : γ}
    (early : Tends before ((.ok value, middle) : Except Fault γ × Session σ α))
    (late : Tends middle result) : Tends before result := by
  have grew : before.animator.generation ≤ middle.animator.generation := early.outlasts.grows
  refine ⟨late.sound, outlasts_trans early.outlasts late.outlasts, ?_⟩
  intro heard
  apply late.heard
  by_cases changed : middle.animator.generation < result.2.animator.generation
  · exact .inr changed
  · have earlier : Heard before ∨ before.animator.generation < middle.animator.generation := by
      rcases heard with heard | later
      · exact .inl heard
      · exact .inr (by omega)
    rcases early.heard earlier with heardMiddle | ⟨fault, failed, _⟩
    · exact .inl heardMiddle
    · cases failed

/-- A part that fails ends what it is a part of. -/
theorem tends_of_error {fault : Fault} {failed : Session σ α}
    (tends : Tends before ((.error fault, failed) : Except Fault γ × Session σ α)) :
    Tends before ((.error fault, failed) : Except Fault β × Session σ α) := by
  refine ⟨tends.sound, tends.outlasts, ?_⟩
  intro heard
  rcases tends.heard heard with stays | ⟨other, same, raised⟩
  · exact .inl stays
  · cases same
    exact .inr ⟨fault, rfl, raised⟩

theorem tends_bind {first : Act σ α γ} {next : γ → Act σ α β} {session : Session σ α}
    (early : Tends session (first.run session))
    (late : ∀ value later, first.run session = (.ok value, later) → Sound later →
      Tends later ((next value).run later)) :
    Tends session ((first >>= next).run session) := by
  rw [run_bind]
  rcases ran : first.run session with ⟨fault | value, later⟩
  · rw [ran] at early
    exact tends_of_error early
  · rw [ran] at early
    exact tends_trans early (late value later ran early.sound)

theorem tending_pure (value : β) : Tending (pure value : Act σ α β) := by
  intro session sound
  exact tends_of_quiet sound rfl rfl rfl

theorem tending_bind {first : Act σ α γ} {next : γ → Act σ α β} (early : Tending first)
    (late : ∀ value, Tending (next value)) : Tending (first >>= next) := by
  intro session sound
  exact tends_bind (early session sound)
    (fun value later _ soundLater => late value later soundLater)

theorem tending_get_bind {next : Session σ α → Act σ α β}
    (late : ∀ session, Sound session → Tends session ((next session).run session)) :
    Tending (get >>= next) := by
  intro session sound
  rw [run_bind, run_get]
  exact late session sound

theorem tending_for_each {step : γ → Act σ α Unit} (each : ∀ item, Tending (step item))
    (items : List γ) : Tending (items.forM step) := by
  induction items with
  | nil => exact tending_pure _
  | cons item items induction =>
      change Tending (step item >>= fun _ => items.forM step)
      exact tending_bind (each item) (fun _ => induction)

/-- Ending the subscription of an observer that is no run's loses no run. -/
theorem tends_guarded {ended : Session σ α → Session σ α} {act : Act σ α Unit}
    {session : Session σ α} (only : ∀ later, OnlyEnded later (ended later))
    (listening : ∀ later, runsListening (ended later).frames = runsListening later.frames)
    (tends : Tends session (act.run session)) :
    Tends session ((guarded .ends ended act).run session) := by
  rw [run_guarded_ends]
  rcases ran : act.run session with ⟨fault | _, later⟩
  · rw [ran] at tends
    have animator : (ended later).animator = later.animator := by rw [(only later).same]
    have reaches := reaches_run_congr (congrArg Animator.generation animator) (listening later)
    refine ⟨?_, outlasts_trans tends.outlasts ?_, ?_⟩
    · exact sound_congr (congrArg Animator.generation animator)
        (congrArg Animator.subscription animator) (listening later) tends.sound
    · exact ⟨Nat.le_of_eq (congrArg Animator.generation animator).symm,
        fun _ => congrArg Animator.subscription animator, fun _ => reaches.mp⟩
    · intro heard
      rw [animator] at heard
      rcases tends.heard heard with stays | ⟨other, same, failed⟩
      · left
        rw [Heard, animator, reaches]
        exact stays
      · exact .inr ⟨other, same, run_failed_of_only_ended (only later) failed⟩
  · rw [ran] at tends
    exact tends

end Tends

/-! Starts, stops and resets. -/

theorem stop_tends : Tending (stop : Act σ α Unit) := by
  intro session sound
  apply tends_of_listening
  · exact sound_release sound
  · exact Nat.lt_succ_self _

theorem reset_tends : Tending (reset : Act σ α Unit) := by
  intro session sound
  obtain ⟨remarks, cleared⟩ := run_reset session
  rw [cleared]
  apply tends_of_listening
  · exact sound_release sound
  · exact Nat.lt_succ_self _

theorem start_tends (plan : RunPlan α) (reactions : Option (Reactions α)) :
    Tending (start plan reactions : Act σ α Unit) := by
  intro session sound
  cases reactions with
  | none =>
      rw [run_start_refused]
      exact tends_of_quiet sound rfl rfl rfl
  | some reactions =>
      obtain ⟨remarks, started⟩ := run_start plan reactions session
      apply tends_of_listening
      · rw [started, runs_listening_subscribe, sound_release sound]
        rfl
      · rw [started]
        exact Nat.lt_succ_self _

theorem start_tree_tends (growth : Growth α) (reactions : Option (Reactions α)) :
    Tending (startTree growth reactions : Act σ α Unit) := by
  intro session sound
  rw [run_start_tree]
  cases growth.outcome with
  | error fault => exact tends_of_quiet sound rfl rfl rfl
  | ok tree =>
      have told : Tends session
          ((.ok (), { session with remarks := session.remarks ++ growth.remarks }) :
            Except Fault Unit × Session σ α) := tends_of_quiet sound rfl rfl rfl
      exact tends_trans told (start_tends _ reactions _ told.sound)

/-! A frame, with everything that receivers do while it is delivered. -/

theorem advance_tends (frame : Frame α) : Tending (advance frame : Act σ α Unit) := by
  intro session sound
  obtain ⟨remarks, advanced⟩ := run_advance frame session
  have same := Animator.heed_same_run frame session.animator
  rw [advanced]
  exact tends_of_quiet sound same.generation same.subscription rfl

section Reactions

variable {react : List (Command α) → Act σ α Unit} (reacts : ∀ commands, Tending (react commands))

include reacts

theorem receive_tends (number : Nat) (event : ReceiverName → Event α) :
    Tending (receive react number event) := by
  intro session sound
  cases there : session.receivers[number]? with
  | none =>
      rw [run_receive_nobody react number event session there]
      exact tends_of_quiet sound rfl rfl rfl
  | some receiver =>
      rw [run_receive react number event session there]
      have gave : Tends session ((.ok (), given number receiver (event receiver.name) session) :
          Except Fault Unit × Session σ α) := tends_of_quiet sound rfl rfl rfl
      exact tends_trans gave (reacts _ _ gave.sound)

theorem hand_over_tends (generation : Nat) (frame : Frame α) (scene : Scene α) :
    Tending (handOver react generation frame scene) := by
  apply tending_get_bind
  intro session sound
  by_cases replaced : session.animator.generation ≠ generation
  · rw [if_pos replaced]
    exact tending_pure () session sound
  rw [if_neg replaced]
  cases session.animator.receiver with
  | none => exact tending_pure () session sound
  | some receiver =>
      have noted : Tending (note (.handed receiver frame scene) : Act σ α Unit) := by
        intro before soundBefore
        exact tends_of_quiet soundBefore rfl rfl rfl
      exact tending_bind noted (fun _ => receive_tends reacts receiver _) session sound

end Reactions

/-- A delivery that keeps to what is expected of every session on its way. -/
theorem tends_deliver {κ : Type} {pick : Session σ α → Subject κ} {hand : κ → Act σ α Unit}
    (expected : List (Nat × κ) → Session σ α → Prop)
    (stays : ∀ entry entries session (result : Except Fault Unit × Session σ α),
      expected (entry :: entries) session → Tends session result → expected entries result.2)
    (each : ∀ entry entries session, expected (entry :: entries) session → Sound session →
      Tends session ((hand entry.2).run session))
    (entries : List (Nat × κ)) (session : Session σ α) (sound : Sound session)
    (start : expected entries session) :
    Tends session ((Subject.deliver (do return pick (← get)) hand entries).run session) := by
  induction entries generalizing session with
  | nil => exact tending_pure () session sound
  | cons entry entries induction =>
      obtain ⟨number, observer⟩ := entry
      rw [Subject.deliver]
      apply tends_bind (tends_of_quiet sound rfl rfl rfl)
      intro subject later looked soundLater
      cases looked
      by_cases live : (pick session).isLive number = true
      · rw [if_pos live]
        have handed := each (number, observer) entries session start sound
        apply tends_bind handed
        intro _ middle ran soundMiddle
        rw [ran] at handed
        exact induction middle soundMiddle (stays _ entries session _ start handed)
      · rw [if_neg live]
        exact induction session sound
          (stays _ entries session (.ok (), session) start (tends_of_quiet sound rfl rfl rfl))

/-- What is expected when a frame is handed to those who were listening when it was emitted: none of
them is a run to come, and if one is the present run, then the animator is active. -/
def Expected (entries : List (Nat × FrameObserver)) (session : Session σ α) : Prop :=
  ∀ number generation, (number, .run generation) ∈ entries →
    generation ≤ session.animator.generation ∧
      (session.animator.generation = generation → session.animator.isActive = true)

theorem expected_stays (entry : Nat × FrameObserver) (entries : List (Nat × FrameObserver))
    (session : Session σ α) (result : Except Fault Unit × Session σ α)
    (expected : Expected (entry :: entries) session) (tends : Tends session result) :
    Expected entries result.2 := by
  intro number generation member
  obtain ⟨reached, active⟩ := expected number generation (List.mem_cons_of_mem _ member)
  have grew := tends.outlasts.grows
  refine ⟨Nat.le_trans reached grew, ?_⟩
  intro same
  rw [Animator.isActive, tends.outlasts.subscribed (by omega)]
  exact active (by omega)

section Depth

variable {depth : Nat}
  (reacts : ∀ commands : List (Command α),
    Tending (performUnder .ends depth commands : Act σ α Unit))

include reacts

theorem publish_tends (frame : Frame α) (scene : Scene α) :
    Tending (publishUnder .ends (performUnder .ends depth) frame scene : Act σ α Unit) := by
  intro session sound
  apply tends_bind (tends_of_quiet sound rfl rfl rfl)
  intro _ noted ran soundNoted
  cases ran
  apply tends_bind (tends_of_quiet soundNoted rfl rfl rfl)
  intro viewing later looked soundLater
  cases looked
  apply tends_deliver (fun _ _ => True)
  · intro _ _ _ _ _ _
    trivial
  · intro viewer _ before _ soundBefore
    exact tends_guarded (end_scenes_only_ended viewer.2) (fun _ => rfl)
      (receive_tends reacts viewer.2 _ before soundBefore)
  · exact soundLater
  · trivial

theorem present_tends (generation : Nat) (frame : Frame α) :
    Tending (presentUnder .ends (performUnder .ends depth) generation frame : Act σ α Unit) := by
  apply tending_get_bind
  intro session sound
  exact tending_bind (publish_tends reacts frame session.animator.scene)
    (fun _ => hand_over_tends reacts generation frame session.animator.scene) session sound

theorem frame_for_run_tends (generation : Nat) (frame : Frame α) :
    Tending (frameForRunUnder .ends (performUnder .ends depth) generation frame :
      Act σ α Unit) := by
  apply tending_get_bind
  intro session sound
  by_cases deaf : session.animator.generation ≠ generation ∨ session.animator.phase = .idle
  · rw [if_pos deaf]
    exact tending_pure () session sound
  rw [if_neg deaf]
  have noted : Tending (note (.heeded frame) : Act σ α Unit) := by
    intro before soundBefore
    exact tends_of_quiet soundBefore rfl rfl rfl
  apply tending_bind noted
  · intro _
    apply tending_bind (advance_tends frame)
    intro _
    exact present_tends reacts generation frame
  · exact sound

/-- The observer of a run loses that run if it fails while the run is the
present one, and no other. -/
theorem observe_run_tends (frame : Frame α) (generation : Nat) (session : Session σ α)
    (sound : Sound session) (reached : generation ≤ session.animator.generation)
    (active : session.animator.generation = generation → session.animator.isActive = true) :
    Tends session
      ((observeUnder .ends (performUnder .ends depth) frame (.run generation)).run session) := by
  have tends := frame_for_run_tends reacts generation frame session sound
  have called := run_guarded_ends (endFrames (.run generation))
    (frameForRunUnder .ends (performUnder .ends depth) generation frame) session
  change (observeUnder .ends (performUnder .ends depth) frame (.run generation)).run session = _
    at called
  rcases ran : (frameForRunUnder .ends (performUnder .ends depth) generation frame).run session with
    ⟨fault | _, later⟩
  · rw [ran] at tends called
    have only := end_frames_only_ended (.run generation) later
    have fewer (reaches : (endFrames (.run generation) later).reachesRun = true) :
        later.reachesRun = true := by
      obtain ⟨number, member⟩ := (reaches_run_iff _).mp reaches
      exact (reaches_run_iff _).mpr ⟨number, only.fewer _ member⟩
    rw [called]
    refine ⟨?_, outlasts_trans tends.outlasts ⟨Nat.le_refl _, fun _ => rfl, fun _ => fewer⟩, ?_⟩
    · intro number carried member
      exact tends.sound number carried (only.fewer _ member)
    · intro heard
      by_cases current : later.animator.generation = generation
      · -- The run was the present one all along, so this is the failure that loses it.
        have grew : session.animator.generation ≤ later.animator.generation := tends.outlasts.grows
        have same : session.animator.generation = generation := by omega
        have subscribed : later.animator.subscription = session.animator.subscription :=
          tends.outlasts.subscribed (current.trans same.symm)
        have activeLater : later.animator.isActive = true := by
          rw [Animator.isActive, subscribed]
          exact active same
        subst current
        exact .inr ⟨fault, rfl, activeLater, depth, frame, session, _, same, called,
          only_ended_refl _⟩
      · rcases tends.heard heard with stays | ⟨other, same, failed⟩
        · left
          intro activeLater
          obtain ⟨number, member⟩ := (reaches_run_iff later).mp (stays activeLater)
          have other : FrameObserver.run later.animator.generation ≠ .run generation := by
            intro same
            exact current (FrameObserver.run.inj same)
          exact (reaches_run_iff _).mpr ⟨number, List.mem_filter.mpr ⟨member, bne_iff_ne.mpr other⟩⟩
        · exact .inr ⟨other, same, run_failed_of_only_ended only failed⟩
  · rw [ran] at tends called
    rw [called]
    exact tends

theorem observe_tends (frame : Frame α) (entry : Nat × FrameObserver)
    (entries : List (Nat × FrameObserver)) (session : Session σ α)
    (expected : Expected (entry :: entries) session) (sound : Sound session) :
    Tends session ((observeUnder .ends (performUnder .ends depth) frame entry.2).run session) := by
  obtain ⟨number, observer⟩ := entry
  cases observer with
  | watcher receiver =>
      apply tends_guarded (end_frames_only_ended (.watcher receiver))
      · intro later
        exact runs_listening_without_watcher receiver later.frames
      · exact receive_tends reacts receiver _ session sound
  | run generation =>
      obtain ⟨reached, active⟩ := expected number generation (List.mem_cons_self ..)
      exact observe_run_tends reacts frame generation session sound reached active

theorem tick_tends : Tending (tickUnder .ends (performUnder .ends depth) : Act σ α Unit) := by
  apply tending_get_bind
  intro session sound
  apply tends_bind (tends_of_quiet sound rfl rfl rfl)
  intro _ counted ran soundCounted
  cases ran
  apply tends_bind (tends_of_quiet soundCounted rfl rfl rfl)
  intro _ noted ran soundNoted
  cases ran
  apply tends_deliver Expected expected_stays
  · intro entry entries before expected soundBefore
    exact observe_tends reacts _ entry entries before expected soundBefore
  · exact soundNoted
  · intro number generation member
    obtain ⟨subscribed, current⟩ := sound number generation member
    refine ⟨Nat.le_of_eq current.symm, ?_⟩
    intro _
    exact Option.isSome_iff_exists.mpr ⟨number, subscribed⟩

theorem execute_tends (command : Command α) :
    Tending (executeUnder .ends (performUnder .ends depth) command : Act σ α Unit) := by
  cases command with
  | tick => exact tick_tends reacts
  | start plan reactions => exact start_tends plan reactions
  | startTree growth reactions => exact start_tree_tends growth reactions
  | stop => exact stop_tends
  | reset => exact reset_tends
  | watchFrames reactions =>
      intro session sound
      exact tends_of_quiet sound rfl rfl (runs_listening_watch _ _)
  | unwatchFrames subscription =>
      intro session sound
      exact tends_of_quiet sound rfl rfl (runs_listening_unwatch _ _)
  | setClock timeMs => exact fun _ sound => tends_of_quiet sound rfl rfl rfl
  | advanceClock stepMs => exact fun _ sound => tends_of_quiet sound rfl rfl rfl
  | watchScenes reactions => exact fun _ sound => tends_of_quiet sound rfl rfl rfl
  | unwatchScenes subscription => exact fun _ sound => tends_of_quiet sound rfl rfl rfl
  | keep label => exact fun _ sound => tends_of_quiet sound rfl rfl rfl
  | fail => exact fun _ sound => tends_of_quiet sound rfl rfl rfl

end Depth

theorem perform_tends (depth : Nat) (commands : List (Command α)) :
    Tending (performUnder .ends depth commands : Act σ α Unit) := by
  induction depth generalizing commands with
  | zero => exact tending_pure ()
  | succ depth induction => exact tending_for_each (execute_tends induction) commands

theorem run_tends (commands : List (Command α)) (session : Session σ α) (sound : Sound session) :
    Tends session (runUnder .ends commands session) := by
  have rested : Tends session ((.ok (), session.rested) : Except Fault Unit × Session σ α) :=
    tends_of_quiet sound rfl rfl rfl
  exact tends_trans rested (perform_tends _ commands session.rested rested.sound)

/-! Sessions as they are driven. -/

theorem drive_under_append (batches more : List (List (Command α))) (session : Session σ α) :
    driveUnder .ends (batches ++ more) session =
      driveUnder .ends more (driveUnder .ends batches session) := by
  rw [driveUnder, driveUnder, driveUnder, List.foldl_append]

theorem drive_outlasts (batches : List (List (Command α))) (session : Session σ α)
    (sound : Sound session) :
    Sound (driveUnder .ends batches session) ∧
      Outlasts session (driveUnder .ends batches session) := by
  induction batches generalizing session with
  | nil => exact ⟨sound, outlasts_refl session⟩
  | cons commands batches induction =>
      have tends := run_tends commands session sound
      obtain ⟨soundEnd, outlasts⟩ := induction (runUnder .ends commands session).2 tends.sound
      exact ⟨soundEnd, outlasts_trans tends.outlasts outlasts⟩

/-- In some batch the observer of a run failed while that run was the present one, which it still
is after all of the batches. -/
def RunLost (batches : List (List (Command α))) (session : Session σ α) : Prop :=
  ∃ early commands late fault, batches = early ++ commands :: late ∧
    let result := runUnder .ends commands (driveUnder .ends early session)
    result.1 = .error fault ∧ RunFailed fault result.2 ∧
      (driveUnder .ends batches session).animator.generation = result.2.animator.generation

theorem run_lost_or_heard (batches : List (List (Command α))) (session : Session σ α)
    (sound : Sound session) (heard : Heard session) :
    Heard (driveUnder .ends batches session) ∨ RunLost batches session := by
  induction batches using List.reverseRecOn with
  | nil => exact .inl heard
  | append_singleton batches commands induction =>
      have last : driveUnder .ends (batches ++ [commands]) session =
          (runUnder .ends commands (driveUnder .ends batches session)).2 := by
        rw [drive_under_append]
        rfl
      have tends := run_tends commands _ (drive_outlasts batches session sound).1
      have further (known : Heard (driveUnder .ends batches session) ∨
          (driveUnder .ends batches session).animator.generation <
            (runUnder .ends commands (driveUnder .ends batches session)).2.animator.generation) :
          Heard (driveUnder .ends (batches ++ [commands]) session) ∨
            RunLost (batches ++ [commands]) session := by
        rcases tends.heard known with stays | ⟨fault, failed, raised⟩
        · left
          rw [last]
          exact stays
        · exact .inr ⟨batches, commands, [], fault, rfl, failed, raised, by rw [last]⟩
      rcases induction with heard | ⟨early, other, late, fault, split, failed, raised, same⟩
      · exact further (.inl heard)
      · rcases Nat.lt_or_eq_of_le tends.outlasts.grows with later | kept
        · exact further (.inr later)
        · refine .inr ⟨early, other, late ++ [commands], fault, ?_, failed, raised, ?_⟩
          · rw [split, List.append_assoc, List.cons_append]
          · rw [last, ← kept]
            exact same

theorem active_of_run_lost {batches : List (List (Command α))} {session : Session σ α}
    (sound : Sound session) (lost : RunLost batches session) :
    (driveUnder .ends batches session).animator.isActive = true ∧
      (driveUnder .ends batches session).reachesRun = false := by
  obtain ⟨early, commands, late, fault, rfl, failed, raised, same⟩ := lost
  have soundEarly := (drive_outlasts early session sound).1
  have soundFailed := (run_tends commands _ soundEarly).sound
  have outlasts := (drive_outlasts late _ soundFailed).2
  have whole : driveUnder .ends (early ++ commands :: late) session =
      driveUnder .ends late (runUnder .ends commands (driveUnder .ends early session)).2 := by
    rw [drive_under_append]
    rfl
  rw [← whole] at outlasts
  constructor
  · rw [Animator.isActive, outlasts.subscribed same]
    exact raised.1
  · rw [Bool.eq_false_iff]
    intro reaches
    have before := outlasts.unreached same reaches
    rw [unreached_of_run_failed raised] at before
    cases before

/-- While the animator is active, its run is listened for and heeds the frames that reach it. -/
theorem active_session_listens (clockMs : α) (first : Animator σ α)
    (deaf : first.subscription = none) (batches : List (List (Command α))) :
    let driven := (drive batches (.initial clockMs first)).2
    Sound driven ∧ Heard driven ∧ (driven.animator.isActive = true → driven.HeedsFrames) := by
  intro driven
  have orderly := drive_initial_orderly clockMs first deaf batches
  have listening : runsListening driven.frames = listener driven.animator := orderly.listening
  refine ⟨sound_of_listening listening, heard_of_listening listening, ?_⟩
  intro active
  have replayed : driven.animator =
      Animator.replay (drive batches (.initial clockMs first)).1 first :=
    drive_replays batches (.initial clockMs first)
  have listens : (Animator.replay (drive batches (.initial clockMs first)).1 first).subscription ≠
      none := by
    rw [← replayed]
    exact Option.isSome_iff_ne_none.mp active
  obtain ⟨plan, receiver, since, underway⟩ := replay_listens_underway _ first deaf listens
  exact (underway_run_heeds clockMs first deaf batches underway).2

end Session

/-- Take any session that has been driven. Where failing observers stay subscribed, as those of a
session do, the animator is active exactly when the next frame reaches its run, which then heeds
it. Where they are unsubscribed, the next frame reaches the run exactly when the animator is
active and the observer of the run has not failed since it became the present one; if it has, the
animator is active all the same. -/
theorem active_iff_reached_unless_lost [Scalar α] [ChanceSource σ α] (clockMs : α)
    (settings : AnimationSettings α) (particleSettings : ParticleSettings α) (surface : Surface α)
    (random : σ) (sampler : FrameSampler) (batches : List (List (Command α))) :
    let first : Session σ α :=
      .initial clockMs (.initial settings particleSettings surface random sampler)
    let kept := (Session.drive batches first).2
    let ended := Session.driveUnder .ends batches first
    kept = Session.driveUnder .keeps batches first ∧
      (kept.animator.isActive = true ↔ kept.reachesRun = true) ∧
      (kept.animator.isActive = true → kept.HeedsFrames) ∧
      (ended.reachesRun = true ↔
        ended.animator.isActive = true ∧ ¬ Session.RunLost batches first) ∧
      (Session.RunLost batches first → ended.animator.isActive = true) := by
  intro first kept ended
  obtain ⟨soundKept, heardKept, heeds⟩ := Session.active_session_listens clockMs
    (.initial settings particleSettings surface random sampler) rfl batches
  have sound : Session.Sound first := by
    intro number generation member
    cases member
  have heard : Session.Heard first := by
    intro active
    cases active
  have soundEnded : Session.Sound ended := (Session.drive_outlasts batches first sound).1
  refine ⟨(Session.drive_under_keeps batches first).symm, ⟨heardKept, ?_⟩, heeds, ⟨?_, ?_⟩, ?_⟩
  · intro reaches
    exact Session.active_of_reaches soundKept reaches
  · intro reaches
    refine ⟨Session.active_of_reaches soundEnded reaches, ?_⟩
    intro lost
    have unreached := (Session.active_of_run_lost sound lost).2
    exact absurd reaches (Bool.eq_false_iff.mp unreached)
  · rintro ⟨active, unlost⟩
    rcases Session.run_lost_or_heard batches first sound heard with heardEnded | lost
    · exact heardEnded active
    · exact absurd lost unlost
  · intro lost
    exact (Session.active_of_run_lost sound lost).1

/-! A run whose receiver fails on its first frame. -/

def failingHost : List (List (Command Float)) :=
  [[.start emptyPlan (some [[.fail]])], [.setClock 5.0, .tick]]

def lostSession : Session Chance.Source Float :=
  Session.driveUnder .ends failingHost (.initial 0.0 patientAnimator)

/-- Where failing observers are unsubscribed, the animator is still active when
no frame reaches it. -/
theorem active_without_being_reached :
    ¬ (lostSession.animator.isActive = true ↔ lostSession.reachesRun = true) := by
  have active : lostSession.animator.isActive = true := by decide +kernel
  have unreached : lostSession.reachesRun = false := by decide +kernel
  rw [active, unreached]
  decide

theorem failing_run_is_lost : Session.RunLost failingHost (.initial 0.0 patientAnimator) := by
  have whole := active_iff_reached_unless_lost 0.0 (.usual : AnimationSettings Float) .usual
    ⟨600.0, 600.0⟩ (Chance.Source.ofValues [0.5]) ⟨1, []⟩ failingHost
  dsimp only at whole
  rw [← patientAnimator, ← lostSession] at whole
  obtain ⟨_, _, _, reached, _⟩ := whole
  have active : lostSession.animator.isActive = true := by decide +kernel
  have unreached : lostSession.reachesRun = false := by decide +kernel
  by_contra unlost
  have reaches := reached.mpr ⟨active, unlost⟩
  rw [unreached] at reaches
  cases reaches

end Arboretum

import Arboretum.Proofs.Animation.Orderly

/-!
Only the run under way is ever live. A frame that reaches an earlier subscription finds the
generation raised, and a frame that reaches the present one is heeded, published and handed over
once. So whatever receivers do while a frame is delivered, everything that happens to a session is
allowed by what happened before, and a run in flight goes on until it is ended.
-/

namespace Arboretum

open Fallible

set_option autoImplicit false

variable {σ α : Type}

namespace Session

variable [Scalar α] [ChanceSource σ α] {first : Animator σ α} {past : List (Happening α)}

section Reactions

variable {react : List (Command α) → Act σ α Unit}
  (reacts : ∀ commands, Leads (Proceeds first past) (react commands))

include reacts

theorem receive_proceeds (number : Nat) (event : ReceiverName → Event α)
    (others : ∀ name, (event name).toRun? = none) :
    Leads (Proceeds first past) (receive react number event) := by
  intro session
  cases there : session.receivers[number]? with
  | none =>
      rw [run_receive_nobody react number event session there]
      exact proceeds_refl session
  | some receiver =>
      rw [run_receive react number event session there]
      have silent : Proceeds first past session
          (given number receiver (event receiver.name) session) := by
        refine proceeds_of_silent rfl rfl rfl rfl (keeps_names_set there rfl) ?_
        rw [toRuns, toRuns, given, Array.toList_push, List.filterMap_append,
          List.filterMap_cons_none (others _)]
        exact List.append_nil _
      exact proceeds_trans _ _ _ silent (reacts _ _)

theorem view_proceeds (scene : Scene α) (viewers : List (Nat × Nat)) :
    Leads (Proceeds first past) (Subject.deliver (do return (← get).scenes)
      (fun viewer => receive react viewer fun name => .scene (.viewer name.number) scene)
      viewers) :=
  leads_deliver proceeds_refl proceeds_trans (leads_get_bind proceeds_refl)
    (fun viewer => receive_proceeds reacts viewer _ fun _ => rfl) viewers

/-- What is left of a frame after its scene was published is for the run that it was published by,
and finds nothing handed yet. -/
theorem hand_over_conducts (generation : Nat) (frame : Frame α) (scene : Scene α)
    (session : Session σ α) (orderly : Orderly first past session)
    (emitted : frame.index < session.nextFrame)
    (current : session.animator.generation = generation →
      ∃ plan receiver since, Underway (session.story past) plan receiver since ∧
        .emitted frame ∈ since ∧ .published frame scene ∈ since)
    (unhanded : ∀ other shown, .handed other frame shown ∉ session.story past) :
    let result := (handOver react generation frame scene).run session
    Orderly first past result.2 ∧ Follows frame.index session result.2 ∧
      Hands generation frame result := by
  by_cases replaced : session.animator.generation ≠ generation
  · rw [handOver, run_bind, run_get]
    dsimp only
    rw [if_pos replaced]
    exact ⟨orderly, follows_refl _ session, fun _ same => absurd same replaced⟩
  have same : session.animator.generation = generation := not_not.mp replaced
  obtain ⟨plan, number, since, underway, emittedSince, publishedSince⟩ := current same
  have receives := (underway_listens first underway).1
  rw [← orderly.replays] at receives
  obtain ⟨subscription, nowMs, began⟩ := underway_began_mem underway
  have bound : number < session.receivers.size := orderly.below _ began
  have there := Array.getElem?_eq_getElem bound
  rw [run_hand_over react frame scene session same receives there]
  obtain ⟨orderlyHanded, followsHanded⟩ := note_handed_conducts frame scene number
    session.receivers[number] session there underway emittedSince publishedSince unhanded orderly
  obtain ⟨orderlyEnd, followsEnd⟩ := reacts _ _ orderlyHanded
  have handed : .handed number frame scene ∈
      (session.chronicle.push (.handed number frame scene)).toList := by simp
  exact ⟨orderlyEnd, follows_trans followsHanded (follows_from (Nat.le_of_lt emitted) followsEnd),
    fun _ _ => ⟨number, scene, follows_mem followsEnd handed⟩⟩

theorem publish_conducts (frame : Frame α) (session : Session σ α)
    {plan : RunPlan α} {receiver : Nat} {since : List (Happening α)}
    (orderly : Orderly first past session) (emitted : frame.index < session.nextFrame)
    (underway : Underway (session.story past) plan receiver since)
    (emittedSince : .emitted frame ∈ since)
    (unpublished : ∀ scene, .published frame scene ∉ session.story past) :
    let viewed := ((publish react frame session.animator.scene).run session).2
    Orderly first past viewed ∧ Follows frame.index session viewed ∧
      ∃ news,
        viewed.story past =
          session.story past ++ [.published frame session.animator.scene] ++ news ∧
        viewed.animator = Animator.replay news session.animator ∧
        ∀ happening ∈ news, ∀ other, happening.frame? = some other →
          session.nextFrame ≤ other.index := by
  intro viewed
  obtain ⟨orderlyPublished, followsPublished⟩ :=
    note_published_conducts frame session underway emittedSince unpublished orderly
  have viewing := view_proceeds reacts session.animator.scene session.scenes.live _ orderlyPublished
  rw [← run_publish] at viewing
  obtain ⟨orderlyViewed, followsViewed⟩ := viewing
  obtain ⟨news, further, animator, about⟩ := follows_story past followsViewed
  refine ⟨orderlyViewed,
    follows_trans followsPublished (follows_from (Nat.le_of_lt emitted) followsViewed),
    news, ?_, animator, about⟩
  rw [further]
  exact congrArg (· ++ news) (story_of_note past session (.published frame _) rfl)

/-- The present scene is shown to the viewers, and then to the receiver of the run
if they have let the run be. -/
theorem present_conducts (generation : Nat) (frame : Frame α) (session : Session σ α)
    {plan : RunPlan α} {receiver : Nat} {since : List (Happening α)}
    (orderly : Orderly first past session) (emitted : frame.index < session.nextFrame)
    (current : session.animator.generation = generation)
    (underway : Underway (session.story past) plan receiver since)
    (emittedSince : .emitted frame ∈ since)
    (unpublished : ∀ scene, .published frame scene ∉ session.story past)
    (unhanded : ∀ other scene, .handed other frame scene ∉ session.story past) :
    let result := (present react generation frame).run session
    Orderly first past result.2 ∧ Follows frame.index session result.2 ∧
      Hands generation frame result := by
  obtain ⟨orderlyViewed, followsViewed, news, further, animator, about⟩ :=
    publish_conducts reacts frame session orderly emitted underway emittedSince unpublished
  rw [present, run_bind, run_get]
  dsimp only
  rw [run_bind]
  rcases ran : (publish react frame session.animator.scene).run session with ⟨fault | _, viewed⟩
  · rw [ran] at orderlyViewed followsViewed
    exact ⟨orderlyViewed, followsViewed, hands_of_fault _ _ _ _⟩
  rw [ran] at orderlyViewed followsViewed further animator
  dsimp only at orderlyViewed followsViewed further animator ⊢
  have unhandedViewed : ∀ other shown, .handed other frame shown ∉ viewed.story past := by
    intro other shown member
    rw [further] at member
    rcases List.mem_append.mp member with early | new
    · rcases List.mem_append.mp early with old | here
      · exact unhanded other shown old
      · cases List.mem_singleton.mp here
    · exact absurd emitted (Nat.not_lt_of_le (about _ new frame rfl))
  obtain ⟨orderlyEnd, followsEnd, hands⟩ := hand_over_conducts reacts generation frame
    session.animator.scene viewed orderlyViewed (Nat.lt_of_lt_of_le emitted followsViewed.1)
    (fun same => by
      have goesOn := goes_on_of_same_generation animator (same.trans current.symm)
      refine ⟨plan, receiver, since ++ [.published frame session.animator.scene] ++ news,
        ?_, ?_, ?_⟩
      · rw [further]
        exact underway_append (underway_append_singleton underway rfl) goesOn
      · exact List.mem_append_left _ (List.mem_append_left _ emittedSince)
      · exact List.mem_append_left _ (List.mem_append_right _ (List.mem_singleton_self _)))
    unhandedViewed
  exact ⟨orderlyEnd, follows_trans followsViewed followsEnd, hands⟩

/-- A frame that was due and has just been heeded finds neither publication nor
hand-over behind it. -/
theorem present_heeded_conducts (generation : Nat) (frame : Frame α) (session heeded : Session σ α)
    (due : Due past generation frame session) {plan : RunPlan α} {receiver : Nat}
    {since : List (Happening α)} (underway : Underway (session.story past) plan receiver since)
    (emittedSince : .emitted frame ∈ since) (orderly : Orderly first past heeded)
    (follows : Follows frame.index session heeded)
    (current : heeded.animator.generation = generation)
    (further : heeded.story past = session.story past ++ [.heeded frame]) :
    let result := (present react generation frame).run heeded
    Orderly first past result.2 ∧ Follows frame.index session result.2 ∧
      Hands generation frame result := by
  have unserved : ∀ happening ∈ heeded.story past, happening.frame? = some frame →
      happening = .emitted frame ∨ happening = .heeded frame := by
    intro happening member framed
    rw [further] at member
    rcases List.mem_append.mp member with old | new
    · exact .inl (due.unserved happening old framed)
    · exact .inr (List.mem_singleton.mp new)
  have underwayStill : Underway (heeded.story past) plan receiver (since ++ [.heeded frame]) := by
    rw [further]
    exact underway_append_singleton underway rfl
  obtain ⟨orderlyEnd, followsEnd, hands⟩ := present_conducts reacts generation frame heeded orderly
    (Nat.lt_of_lt_of_le due.emitted follows.1) current underwayStill
    (List.mem_append_left _ emittedSince)
    (fun scene member => by simpa using unserved _ member rfl)
    (fun other scene member => by simpa using unserved _ member rfl)
  exact ⟨orderlyEnd, follows_trans follows followsEnd, hands⟩

/-- A frame that is due to the run of a generation is heeded by it at most once, and by no other. -/
theorem frame_for_run_conducts (generation : Nat) (frame : Frame α) (session : Session σ α)
    (orderly : Orderly first past session) (due : Due past generation frame session) :
    let result := (frameForRun react generation frame).run session
    Orderly first past result.2 ∧ Follows frame.index session result.2 ∧
      Hands generation frame result := by
  rw [frameForRun, run_bind, run_get]
  dsimp only
  by_cases deaf : session.animator.generation ≠ generation ∨ session.animator.phase = .idle
  · rw [if_pos deaf]
    refine ⟨orderly, follows_refl _ session, ?_⟩
    intro _ current
    obtain ⟨plan, receiver, since, underway, _⟩ := due.current current
    have performs := underway_performs first underway
    rw [← orderly.replays] at performs
    rcases deaf with other | idle
    · exact absurd current other
    · exact absurd idle performs.awake
  rw [if_neg deaf]
  have current : session.animator.generation = generation := by
    by_contra other
    exact deaf (.inl other)
  have awake : session.animator.phase ≠ .idle := fun idle => deaf (.inr idle)
  obtain ⟨plan, receiver, since, underway, emittedSince⟩ := due.current current
  obtain ⟨remarks, advanced⟩ := run_advance frame
    { session with chronicle := session.chronicle.push (.heeded frame) }
  obtain ⟨orderlyHeeded, followsHeeded⟩ := note_heeded_conducts frame remarks session awake
    ⟨plan, receiver, since, underway, emittedSince⟩
    (fun member => by cases due.unserved _ member rfl) orderly
  rw [run_bind, run_note]
  dsimp only
  rw [run_bind, advanced]
  cases ((Animator.heed frame).run session.animator).1 with
  | error fault => exact ⟨orderlyHeeded, followsHeeded, hands_of_fault _ _ _ _⟩
  | ok _ =>
      exact present_heeded_conducts reacts generation frame session _ due underway emittedSince
        orderlyHeeded followsHeeded
        ((Animator.heed_same_run frame session.animator).generation.trans current)
        (story_of_note past session (.heeded frame) rfl)

theorem observe_conducts (frame : Frame α) (observer : FrameObserver) (session : Session σ α)
    (orderly : Orderly first past session) (emitted : frame.index < session.nextFrame)
    (due : ∀ generation, observer = .run generation → Due past generation frame session) :
    let result := (observe react frame observer).run session
    Orderly first past result.2 ∧ Follows frame.index session result.2 ∧
      (observer.isRun = false → Follows session.nextFrame session result.2) ∧
      ∀ generation, observer = .run generation → Hands generation frame result := by
  cases observer with
  | watcher receiver =>
      rw [observe]
      obtain ⟨orderlyLater, followsLater⟩ := receive_proceeds reacts receiver
        (fun name => .frame name.number frame) (fun _ => rfl) session orderly
      refine ⟨orderlyLater, follows_from (Nat.le_of_lt emitted) followsLater,
        fun _ => followsLater, ?_⟩
      intro generation same
      cases same
  | run generation =>
      rw [observe]
      obtain ⟨orderlyLater, followsLater, hands⟩ := frame_for_run_conducts reacts generation frame
        session orderly (due generation rfl)
      refine ⟨orderlyLater, followsLater, ?_, ?_⟩
      · intro watches
        cases watches
      · intro other same
        cases same
        exact hands

/-- A frame is delivered to one run at most, whatever the others it is delivered to make of it, and
to the run that listens if they let it be. -/
theorem deliver_conducts (frame : Frame α) (entries : List (Nat × FrameObserver))
    (session : Session σ α) (orderly : Orderly first past session)
    (emitted : frame.index < session.nextFrame)
    (due : ∀ number generation, (number, .run generation) ∈ entries →
      Due past generation frame session)
    (single : (entries.filter fun entry => entry.2.isRun).length ≤ 1) :
    let result := (Subject.deliver (do return (← get).frames) (observe react frame)
      entries).run session
    Orderly first past result.2 ∧ Follows frame.index session result.2 ∧
      ∀ number generation, (number, .run generation) ∈ entries →
        session.animator.subscription = some number → session.animator.generation = generation →
          Hands generation frame result := by
  induction entries generalizing session with
  | nil => exact ⟨orderly, follows_refl _ session, by simp⟩
  | cons entry entries induction =>
      obtain ⟨number, observer⟩ := entry
      have dueLater : ∀ later generation, (later, .run generation) ∈ entries →
          Due past generation frame session := fun later generation member =>
        due later generation (List.mem_cons_of_mem _ member)
      have singleLater : (entries.filter fun entry => entry.2.isRun).length ≤ 1 :=
        Nat.le_trans ((List.sublist_cons_self (number, observer) entries).filter _).length_le single
      rw [Subject.deliver, run_bind, run_bind, run_get]
      simp only [run_pure]
      by_cases live : session.frames.isLive number
      · rw [if_pos live, run_bind]
        have observed := observe_conducts reacts frame observer session orderly emitted
          (fun generation same => due number generation (same ▸ List.mem_cons_self ..))
        rcases ran : (observe react frame observer).run session with ⟨fault | _, later⟩
        · rw [ran] at observed
          exact ⟨observed.1, observed.2.1, fun _ _ _ _ _ => hands_of_fault _ _ _ _⟩
        rw [ran] at observed
        obtain ⟨orderlyLater, followsLater, passing, hands⟩ := observed
        dsimp only at orderlyLater followsLater passing hands ⊢
        have dueThen : ∀ subscription generation, (subscription, .run generation) ∈ entries →
            Due past generation frame later := by
          intro subscription generation member
          cases runs : observer.isRun with
          | true => cases no_run_behind runs single _ member
          | false => exact due_follows (dueLater subscription generation member) (passing runs)
        obtain ⟨orderlyEnd, followsEnd, handsLater⟩ := induction later orderlyLater
          (Nat.lt_of_lt_of_le emitted followsLater.1) dueThen singleLater
        refine ⟨orderlyEnd, follows_trans followsLater followsEnd, ?_⟩
        intro subscription generation member subscribed current finished currentEnd
        -- The generation only grows, so the run has been the present one all along.
        have early := follows_generation followsLater
        have late := follows_generation followsEnd
        have currentLater : later.animator.generation = generation := by omega
        rcases List.mem_cons.mp member with here | behind
        · cases here
          obtain ⟨receiver, scene, handed⟩ := hands generation rfl rfl currentLater
          exact ⟨receiver, scene, follows_mem followsEnd handed⟩
        · have same := follows_same_run followsLater (currentLater.trans current.symm)
          exact handsLater subscription generation behind (same.subscription.trans subscribed)
            currentLater finished currentEnd
      · rw [if_neg live]
        obtain ⟨orderlyEnd, followsEnd, handsLater⟩ :=
          induction session orderly emitted dueLater singleLater
        refine ⟨orderlyEnd, followsEnd, ?_⟩
        intro subscription generation member subscribed current
        rcases List.mem_cons.mp member with here | behind
        · cases here
          have listens := listener_live orderly.listening subscribed
          exact absurd (List.any_eq_true.mpr ⟨_, listens, beq_self_eq_true number⟩) live
        · exact handsLater subscription generation behind subscribed current

/-- A tick emits a frame that has not been, and hands it to the run under way if there is one. -/
theorem tick_conducts (deaf : first.subscription = none) (session : Session σ α)
    (orderly : Orderly first past session) :
    let result := (tick react).run session
    Orderly first past result.2 ∧ Follows session.nextFrame session result.2 ∧
      (session.animator.subscription ≠ none →
        Hands session.animator.generation session.upcomingFrame result) := by
  let frame := session.upcomingFrame
  have noted : Conducts first past session.nextFrame session
      { session with
        nextFrame := session.nextFrame + 1
        chronicle := session.chronicle.push (.emitted frame) } := by
    refine conducts_of_note (.emitted frame) rfl rfl orderly.listening (Nat.le_succ _)
      (keeps_names_refl _) (List.append_nil _).symm (Nat.lt_succ_self _) ?_
      (fun other member => orderly.below _ member)
    intro other framed
    cases framed
    exact Nat.le_refl _
  obtain ⟨orderlyEmitted, followsEmitted⟩ := noted orderly
  have single : (runsListening session.frames).length ≤ 1 := by
    rw [orderly.listening, listener]
    cases session.animator.subscription <;> simp
  obtain ⟨orderlyEnd, followsEnd, hands⟩ := deliver_conducts reacts frame session.frames.live _
    orderlyEmitted (Nat.lt_succ_self _) (emitted_due deaf session orderly) single
  rw [run_tick]
  refine ⟨orderlyEnd, follows_trans followsEmitted followsEnd, ?_⟩
  intro listens
  obtain ⟨number, subscribed⟩ := Option.ne_none_iff_exists'.mp listens
  exact hands number session.animator.generation (listener_live orderly.listening subscribed)
    subscribed rfl

theorem execute_proceeds (deaf : first.subscription = none) (command : Command α) :
    Leads (Proceeds first past) (execute react command) := by
  cases command with
  | setClock timeMs => exact fun _ => proceeds_of_silent rfl rfl rfl rfl (keeps_names_refl _) rfl
  | advanceClock stepMs =>
      exact fun _ => proceeds_of_silent rfl rfl rfl rfl (keeps_names_refl _) rfl
  | tick =>
      intro session orderly
      obtain ⟨orderlyEnd, followsEnd, _⟩ := tick_conducts reacts deaf session orderly
      exact ⟨orderlyEnd, followsEnd⟩
  | start plan reactions => exact start_proceeds plan reactions
  | startTree growth reactions => exact start_tree_proceeds growth reactions
  | stop => exact stop_proceeds
  | reset => exact reset_proceeds
  | watchFrames reactions =>
      intro session
      exact proceeds_of_silent rfl rfl (runs_listening_watch _ _) rfl (keeps_names_push _ _) rfl
  | unwatchFrames subscription =>
      exact fun _ =>
        proceeds_of_silent rfl rfl (runs_listening_unwatch _ _) rfl (keeps_names_refl _) rfl
  | watchScenes reactions =>
      intro session
      exact proceeds_of_silent rfl rfl rfl rfl (keeps_names_push _ _) rfl
  | unwatchScenes subscription =>
      exact fun _ => proceeds_of_silent rfl rfl rfl rfl (keeps_names_refl _) rfl
  | keep label => exact fun _ => proceeds_of_silent rfl rfl rfl rfl (keeps_names_refl _) rfl
  | fail => exact proceeds_refl

end Reactions

theorem perform_proceeds (deaf : first.subscription = none) (depth : Nat)
    (commands : List (Command α)) :
    Leads (Proceeds first past) (perform depth commands : Act σ α Unit) := by
  induction depth generalizing commands with
  | zero => exact leads_pure proceeds_refl ()
  | succ depth induction =>
      exact leads_for_each proceeds_refl proceeds_trans (execute_proceeds induction deaf) commands

/-- The session as it is when commands come from outside. -/
def rested (session : Session σ α) : Session σ α :=
  { session with events := #[], chronicle := #[] }

theorem rested_orderly (session : Session σ α) (orderly : Orderly first past session) :
    Orderly first (session.story past) session.rested := by
  have same : session.rested.story (session.story past) = session.story past :=
    List.append_nil _
  refine ⟨?_, orderly.listening, ?_, rfl, ?_⟩
  · rw [same]
    exact orderly.replays
  · rw [same]
    exact orderly.below
  · rw [same]
    exact orderly.lawful

theorem drive_orderly (deaf : first.subscription = none) (batches : List (List (Command α)))
    (session : Session σ α) (orderly : Orderly first past session.rested) :
    Orderly first (past ++ (drive batches session).1) (drive batches session).2.rested := by
  induction batches generalizing past session with
  | nil =>
      rw [drive, List.append_nil]
      exact orderly
  | cons commands batches induction =>
      have performed : Orderly first past (session.run commands).2 :=
        (perform_proceeds deaf _ commands session.rested orderly).1
      have ended := induction (session.run commands).2 (rested_orderly _ performed)
      rw [story, List.append_assoc] at ended
      exact ended

theorem run_perform_one (depth : Nat) (command : Command α) (session : Session σ α) :
    (perform (depth + 1) [command]).run session =
      (execute (perform depth) command).run session := by
  change (execute (perform depth) command >>= fun _ => pure ()).run session = _
  rw [run_bind]
  rcases (execute (perform depth) command).run session with ⟨fault | _, later⟩
  · rfl
  · rfl

/-- Unless it fails or ends the run under way, a tick hands its frame to the
receiver of that run. -/
theorem tick_reaches_run (deaf : first.subscription = none) (session : Session σ α)
    (orderly : Orderly first past session.rested) {plan : RunPlan α} {receiver : Nat}
    {since : List (Happening α)} (underway : Underway past plan receiver since)
    (finished : (session.run [.tick]).1 = .ok ())
    (goesOn : ∀ happening ∈ (session.run [.tick]).2.chronicle.toList, happening.endsRun = false) :
    ∃ scene, .handed receiver session.upcomingFrame scene ∈
      (session.run [.tick]).2.chronicle.toList := by
  obtain ⟨depth, ran⟩ : ∃ depth,
      session.run [.tick] = (tick (perform depth)).run session.rested :=
    ⟨_, run_perform_one _ .tick session.rested⟩
  rw [ran] at finished goesOn ⊢
  obtain ⟨orderlyEnd, follows, hands⟩ :=
    tick_conducts (perform_proceeds deaf depth) deaf session.rested orderly
  have same : session.rested.story past = past := List.append_nil _
  have replays := orderly.replays
  rw [same] at replays
  obtain ⟨receives, subscription, subscribed⟩ := underway_listens first underway
  rw [← replays] at subscribed
  obtain ⟨_, news, chronicle, animator, _⟩ := follows
  have newsOnly : ((tick (perform depth)).run session.rested).2.chronicle.toList = news := chronicle
  rw [newsOnly] at goesOn ⊢
  have sameRun := replay_same_run goesOn session.rested.animator
  rw [← animator] at sameRun
  obtain ⟨other, scene, handed⟩ := hands (by rw [subscribed]; exact Option.some_ne_none _) finished
    sameRun.generation
  rw [newsOnly] at handed
  -- The receiver it was handed to is that of the run under way, which is still the same one.
  obtain ⟨early, late, split⟩ := List.append_of_mem handed
  have whole : ((tick (perform depth)).run session.rested).2.story past =
      (past ++ early) ++ .handed other session.upcomingFrame scene :: late := by
    rw [story, newsOnly, split, List.append_assoc]
    rfl
  obtain ⟨⟨_, _, still, _, _⟩, _⟩ := orderlyEnd.lawful _ _ _ whole
  have goesOnEarly : ∀ happening ∈ early, happening.endsRun = false := by
    intro happening member
    exact goesOn happening (split ▸ List.mem_append_left _ member)
  have receivesStill := (underway_listens first still).1
  rw [(underway_listens first (underway_append underway goesOnEarly)).1] at receivesStill
  cases receivesStill
  exact ⟨scene, handed⟩

end Session

/-- Only the run under way is ever live. Whatever is commanded from outside and by receivers, a
scene is only handed to the receiver of the run under way, for a frame emitted and a scene published
since it began, and once for each frame; receivers of runs are given what is handed to them and
nothing else; a run that ends while the viewers look on keeps the frame from every receiver; after a
stop or a reset only stops and resets change the animator until the next start. While a run is under
way, a tick that neither fails nor ends it hands its frame to the receiver of the run. A start with
a receiver begins a run, and one without changes nothing.

That a run under way goes on hearing frames rests on the streams of a session, which keep the
subscription of an observer that fails (`Upkeep.keeps`). Where streams end it, a run whose observer
has failed is still under way, but no frame reaches it any more. -/
theorem only_the_run_under_way_is_live [Scalar α] [ChanceSource σ α] (clockMs : α)
    (settings : AnimationSettings α) (particleSettings : ParticleSettings α) (surface : Surface α)
    (random : σ) (sampler : FrameSampler) (batches : List (List (Command α))) :
    let first : Animator σ α := .initial settings particleSettings surface random sampler
    let driven := Session.drive batches (.initial clockMs first)
    Lawful first driven.1 ∧
      (∀ commands, (driven.2.run commands).2.toRuns = (driven.2.run commands).2.handedToRuns) ∧
      (∀ earlier frame scene between later,
        driven.1 = earlier ++ .published frame scene :: (between ++ later) →
          (∃ ending ∈ between, ending.endsRun = true) →
            ∀ receiver shown, .handed receiver frame shown ∉ later) ∧
      (∀ earlier ending later, driven.1 = earlier ++ ending :: later →
        ending = .stopped ∨ ending = .reset →
          (∀ happening ∈ later, happening.isBeginning = false) →
            driven.2.animator = Animator.replay (later.filter Happening.endsRun)
              (Animator.replay (earlier ++ [ending]) first)) ∧
      (∀ plan receiver since, Underway driven.1 plan receiver since →
        (driven.2.run [.tick]).1 = .ok () →
          (∀ happening ∈ (driven.2.run [.tick]).2.chronicle.toList, happening.endsRun = false) →
            ∃ scene, .handed receiver driven.2.upcomingFrame scene ∈
              (driven.2.run [.tick]).2.chronicle.toList) ∧
      ∀ (session : Session σ α) (plan : RunPlan α),
        (∀ reactions, ∃ subscription,
          ((Session.start plan (some reactions)).run session).2.chronicle =
            session.chronicle.push
              (.began plan session.receivers.size subscription session.clockMs)) ∧
          (Session.start plan none).run session =
            (.error .receiverNotCallable, { session with runs := session.runs + 1 }) := by
  intro first driven
  have orderly : Session.Orderly first ([] ++ driven.1) driven.2.rested :=
    Session.drive_orderly rfl batches _
      ⟨rfl, rfl, by simp [Session.story, Session.rested, Session.initial], rfl, lawful_nil⟩
  have lawful : Lawful first driven.1 := by
    have whole := orderly.lawful
    rw [Session.story, List.nil_append] at whole
    simpa [Session.rested] using whole
  refine ⟨lawful, ?_, ?_, ?_, ?_, ?_⟩
  · intro commands
    exact (Session.perform_proceeds rfl _ commands driven.2.rested orderly).1.told
  · rintro earlier frame scene between later split ⟨ending, member, ends⟩ receiver shown
    exact unhanded_after_end lawful split member ends receiver shown
  · intro earlier ending later split silent noStart
    have noRun : ∀ plan receiver since, ¬ Underway (earlier ++ [ending]) plan receiver since := by
      intro plan receiver since
      rcases silent with rfl | rfl
      · exact not_underway_after_end rfl rfl
      · exact not_underway_after_end rfl rfl
    have quiet := quiet_without_run lawful
      (by rw [split, List.append_assoc, List.singleton_append]) noRun noStart
    rw [← quiet]
    exact Session.drive_replays batches _
  · intro plan receiver since underway finished goesOn
    exact Session.tick_reaches_run rfl driven.2 orderly underway finished goesOn
  · intro session plan
    refine ⟨?_, Session.run_start_refused plan session⟩
    intro reactions
    obtain ⟨_, started⟩ := Session.run_start plan reactions session
    rw [started]
    exact ⟨_, rfl⟩

end Arboretum

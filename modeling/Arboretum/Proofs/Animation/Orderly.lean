import Arboretum.Proofs.Animation.Underway

/-!
What keeps a session orderly. The animator listens under one subscription at most, and that one
carries its present generation; frames and receivers are numbered in order; receivers of runs have
been given what the chronicle says was handed to them; and everything that has happened is allowed
by what happened before. Each single act that puts something down keeps it so.
-/

namespace Arboretum

open Fallible

set_option autoImplicit false

variable {σ α : Type}

namespace Session

/-- All that has happened to a session, after what had happened before its chronicle was begun. -/
def story (past : List (Happening α)) (session : Session σ α) : List (Happening α) :=
  past ++ session.chronicle.toList

theorem story_of_note {after : Session σ α} (past : List (Happening α)) (before : Session σ α)
    (happening : Happening α) (chronicle : after.chronicle = before.chronicle.push happening) :
    after.story past = before.story past ++ [happening] := by
  rw [story, story, chronicle, Array.toList_push, List.append_assoc]

/-- The subscriptions of the animator among those of a subject. -/
def runsListening (frames : Subject FrameObserver) : List (Nat × FrameObserver) :=
  frames.live.filter fun entry => entry.2.isRun

theorem no_run_behind {number : Nat} {observer : FrameObserver}
    {entries : List (Nat × FrameObserver)} (runs : observer.isRun = true)
    (single : (((number, observer) :: entries).filter fun entry => entry.2.isRun).length ≤ 1) :
    ∀ entry ∈ entries, entry.2.isRun = false := by
  rw [List.filter_cons, if_pos runs, List.length_cons] at single
  have noRuns : (entries.filter fun entry => entry.2.isRun) = [] :=
    List.length_eq_zero_iff.mp (by omega)
  intro entry member
  exact Bool.eq_false_iff.mpr (List.filter_eq_nil_iff.mp noRuns entry member)

def listener (animator : Animator σ α) : List (Nat × FrameObserver) :=
  (animator.subscription.map fun number =>
    (number, FrameObserver.run animator.generation)).toList

theorem listener_live {frames : Subject FrameObserver} {animator : Animator σ α} {number : Nat}
    (listening : runsListening frames = listener animator)
    (subscribed : animator.subscription = some number) :
    (number, .run animator.generation) ∈ frames.live := by
  have listens : (number, FrameObserver.run animator.generation) ∈ listener animator := by
    rw [listener, subscribed]
    exact List.mem_singleton_self _
  rw [← listening] at listens
  exact List.mem_of_mem_filter listens

theorem runs_listening_subscribe (generation : Nat) (frames : Subject FrameObserver) :
    runsListening (frames.subscribe (.run generation)) =
      runsListening frames ++ [(frames.next, .run generation)] := by
  rw [runsListening, Subject.subscribe, List.filter_append]
  rfl

theorem runs_listening_watch (receiver : Nat) (frames : Subject FrameObserver) :
    runsListening (frames.subscribe (.watcher receiver)) = runsListening frames := by
  rw [runsListening, Subject.subscribe, List.filter_append]
  exact List.append_nil _

theorem runs_listening_unwatch (number : Nat) (frames : Subject FrameObserver) :
    runsListening (frames.disposeIf (fun observer => !observer.isRun) number) =
      runsListening frames := by
  rw [runsListening, Subject.disposeIf, List.filter_filter]
  apply List.filter_congr
  intro entry _
  cases entry.2.isRun <;> simp

theorem runs_listening_release {frames : Subject FrameObserver} {animator : Animator σ α}
    (listening : runsListening frames = listener animator) :
    runsListening (frames.release animator.subscription) = [] := by
  cases subscribed : animator.subscription with
  | none =>
      rw [listener, subscribed] at listening
      exact listening
  | some number =>
      rw [listener, subscribed] at listening
      have swapped : runsListening (frames.dispose number) =
          (runsListening frames).filter fun entry => entry.1 != number := by
        rw [runsListening, runsListening, Subject.dispose, List.filter_filter, List.filter_filter]
        apply List.filter_congr
        intro entry _
        exact Bool.and_comm _ _
      rw [Subject.release, swapped, listening]
      simp

def KeepsNames (before after : Array (Receiver α)) : Prop :=
  ∀ (number : Nat) (receiver : Receiver α), before[number]? = some receiver →
    ∃ later, after[number]? = some later ∧ later.name = receiver.name

theorem keeps_names_refl (receivers : Array (Receiver α)) : KeepsNames receivers receivers :=
  fun _ receiver there => ⟨receiver, there, rfl⟩

theorem keeps_names_push (receivers : Array (Receiver α)) (added : Receiver α) :
    KeepsNames receivers (receivers.push added) := by
  intro number receiver there
  refine ⟨receiver, ?_, rfl⟩
  rw [Array.getElem?_push, if_neg (Nat.ne_of_lt (Array.getElem?_eq_some_iff.mp there).1)]
  exact there

theorem keeps_names_set {receivers : Array (Receiver α)} {number : Nat} {old new : Receiver α}
    (there : receivers[number]? = some old) (name : new.name = old.name) :
    KeepsNames receivers (receivers.setIfInBounds number new) := by
  intro other receiver otherThere
  by_cases same : number = other
  · cases same
    have bound := (Array.getElem?_eq_some_iff.mp there).1
    refine ⟨new, Array.getElem?_setIfInBounds_self_of_lt bound, ?_⟩
    rw [there] at otherThere
    cases otherThere
    exact name
  · refine ⟨receiver, ?_, rfl⟩
    rw [Array.getElem?_setIfInBounds_ne same]
    exact otherThere

theorem keeps_names_size {before after : Array (Receiver α)} (kept : KeepsNames before after)
    {number : Nat} (bound : number < before.size) : number < after.size := by
  obtain ⟨later, there, _⟩ := kept number before[number] (Array.getElem?_eq_getElem bound)
  exact (Array.getElem?_eq_some_iff.mp there).1

end Session

/-- A scene given to the receiver of the run of a number. -/
def Event.toRun? : Event α → Option (Nat × Scene α)
  | .scene (.run number) shown => some (number, shown)
  | _ => none

/-- A scene handed to a receiver, with the number of that receiver's run. -/
def Happening.toRun? (receivers : Array (Receiver α)) : Happening α → Option (Nat × Scene α)
  | .handed receiver _ scene =>
      receivers[receiver]?.map fun receiver => (receiver.name.number, scene)
  | _ => none

def Happening.Below (session : Session σ α) : Happening α → Prop
  | .emitted frame => frame.index < session.nextFrame
  | .began _ receiver _ _ | .handed receiver _ _ => receiver < session.receivers.size
  | _ => True

namespace Session

theorem below_mono {before after : Session σ α} (frames : before.nextFrame ≤ after.nextFrame)
    (receivers : KeepsNames before.receivers after.receivers) (happening : Happening α)
    (below : happening.Below before) : happening.Below after := by
  cases happening with
  | emitted frame => exact Nat.lt_of_lt_of_le below frames
  | began plan receiver subscription nowMs => exact keeps_names_size receivers below
  | handed receiver frame scene => exact keeps_names_size receivers below
  | stopped => trivial
  | reset => trivial
  | heeded frame => trivial
  | published frame scene => trivial

theorem to_run_kept {before after : Session σ α}
    (receivers : KeepsNames before.receivers after.receivers) (happening : Happening α)
    (below : happening.Below before) :
    happening.toRun? after.receivers = happening.toRun? before.receivers := by
  cases happening with
  | handed receiver frame scene =>
      obtain ⟨later, there, name⟩ :=
        receivers receiver before.receivers[receiver] (Array.getElem?_eq_getElem below)
      rw [Happening.toRun?, Happening.toRun?, there, Array.getElem?_eq_getElem below,
        Option.map_some, Option.map_some, name]
  | emitted frame => rfl
  | began plan receiver subscription nowMs => rfl
  | stopped => rfl
  | reset => rfl
  | heeded frame => rfl
  | published frame scene => rfl

/-- The scenes that receivers of runs were given. -/
def toRuns (session : Session σ α) : List (Nat × Scene α) :=
  session.events.toList.filterMap Event.toRun?

/-- The scenes that were handed to receivers of runs. -/
def handedToRuns (session : Session σ α) : List (Nat × Scene α) :=
  session.chronicle.toList.filterMap (Happening.toRun? session.receivers)

/-- Unless what was carried out failed or ended the run of a generation, the scene of a
frame has been handed over. -/
def Hands (generation : Nat) (frame : Frame α) (result : Except Fault Unit × Session σ α) : Prop :=
  result.1 = .ok () → result.2.animator.generation = generation →
    ∃ receiver scene, .handed receiver frame scene ∈ result.2.chronicle.toList

theorem hands_of_fault (generation : Nat) (frame : Frame α) (fault : Fault)
    (session : Session σ α) :
    Hands generation frame (.error fault, session) := by
  intro finished
  cases finished

variable [Scalar α] [ChanceSource σ α]

/-- What keeps a session orderly, whatever comes next. -/
structure Orderly (first : Animator σ α) (past : List (Happening α)) (session : Session σ α) :
    Prop where
  replays : session.animator = Animator.replay (session.story past) first
  listening : runsListening session.frames = listener session.animator
  below : ∀ happening ∈ session.story past, happening.Below session
  told : session.toRuns = session.handedToRuns
  lawful : Lawful first (session.story past)

/-- A session follows another, and what has happened in between was about frames
from a number on. -/
def Follows (least : Nat) (before after : Session σ α) : Prop :=
  before.nextFrame ≤ after.nextFrame ∧
    ∃ news, after.chronicle.toList = before.chronicle.toList ++ news ∧
      after.animator = Animator.replay news before.animator ∧
      ∀ happening ∈ news, ∀ frame, happening.frame? = some frame → least ≤ frame.index

theorem follows_refl (least : Nat) (session : Session σ α) : Follows least session session :=
  ⟨Nat.le_refl _, [], by simp, rfl, by simp⟩

theorem follows_trans {least : Nat} {first second third : Session σ α}
    (before : Follows least first second) (after : Follows least second third) :
    Follows least first third := by
  obtain ⟨firstFrames, early, earlyChronicle, earlyAnimator, earlyFrames⟩ := before
  obtain ⟨secondFrames, late, lateChronicle, lateAnimator, lateFrames⟩ := after
  refine ⟨Nat.le_trans firstFrames secondFrames, early ++ late, ?_, ?_, ?_⟩
  · rw [lateChronicle, earlyChronicle, List.append_assoc]
  · rw [lateAnimator, earlyAnimator, replay_append]
  · intro happening member
    rcases List.mem_append.mp member with old | new
    · exact earlyFrames happening old
    · exact lateFrames happening new

theorem follows_from {least lower : Nat} {before after : Session σ α} (le : lower ≤ least)
    (follows : Follows least before after) : Follows lower before after := by
  obtain ⟨frames, news, chronicle, animator, about⟩ := follows
  exact ⟨frames, news, chronicle, animator, fun happening member frame framed =>
    Nat.le_trans le (about happening member frame framed)⟩

theorem follows_story {least : Nat} {before after : Session σ α} (past : List (Happening α))
    (follows : Follows least before after) :
    ∃ news, after.story past = before.story past ++ news ∧
      after.animator = Animator.replay news before.animator ∧
      ∀ happening ∈ news, ∀ frame, happening.frame? = some frame → least ≤ frame.index := by
  obtain ⟨_, news, chronicle, animator, about⟩ := follows
  refine ⟨news, ?_, animator, about⟩
  rw [story, story, chronicle, List.append_assoc]

/-- An orderly session stays so, and only frames from a number on are heard of. -/
def Conducts (first : Animator σ α) (past : List (Happening α)) (least : Nat)
    (before after : Session σ α) : Prop :=
  Orderly first past before → Orderly first past after ∧ Follows least before after

/-- An orderly session stays so, and only frames that had not been emitted are heard of. -/
def Proceeds (first : Animator σ α) (past : List (Happening α)) (before after : Session σ α) :
    Prop :=
  Conducts first past before.nextFrame before after

/-- A frame is due to the run of a generation: if that still is the present one, it was under way
when the frame was emitted; and nothing has come of the frame yet. -/
structure Due (past : List (Happening α)) (generation : Nat) (frame : Frame α)
    (session : Session σ α) : Prop where
  reached : generation ≤ session.animator.generation
  current : session.animator.generation = generation →
    ∃ plan receiver since, Underway (session.story past) plan receiver since ∧
      .emitted frame ∈ since
  emitted : frame.index < session.nextFrame
  unserved : ∀ happening ∈ session.story past,
    happening.frame? = some frame → happening = .emitted frame

theorem follows_mem {least : Nat} {before after : Session σ α}
    (follows : Follows least before after)
    {happening : Happening α} (member : happening ∈ before.chronicle.toList) :
    happening ∈ after.chronicle.toList := by
  obtain ⟨_, news, chronicle, _⟩ := follows
  rw [chronicle]
  exact List.mem_append_left _ member

theorem follows_generation {least : Nat} {before after : Session σ α}
    (follows : Follows least before after) :
    before.animator.generation ≤ after.animator.generation := by
  obtain ⟨_, news, _, animator, _⟩ := follows
  rw [animator, replay_generation]
  exact Nat.le_add_right _ _

theorem follows_same_run {least : Nat} {before after : Session σ α}
    (follows : Follows least before after)
    (same : after.animator.generation = before.animator.generation) :
    before.animator.SameRun after.animator := by
  obtain ⟨_, news, _, animator, _⟩ := follows
  have goesOn := goes_on_of_same_generation animator same
  rw [animator]
  exact replay_same_run goesOn before.animator

section Orderly

variable {first : Animator σ α} {past : List (Happening α)} {before after : Session σ α}

theorem proceeds_refl (session : Session σ α) : Proceeds first past session session :=
  fun orderly => ⟨orderly, follows_refl _ session⟩

theorem proceeds_trans (one two three : Session σ α) (early : Proceeds first past one two)
    (late : Proceeds first past two three) : Proceeds first past one three := by
  intro orderly
  obtain ⟨orderlyTwo, follows⟩ := early orderly
  obtain ⟨orderlyThree, followsOn⟩ := late orderlyTwo
  exact ⟨orderlyThree, follows_trans follows (follows_from follows.1 followsOn)⟩

theorem handed_kept (orderly : Orderly first past before)
    (receivers : KeepsNames before.receivers after.receivers) :
    before.chronicle.toList.filterMap (Happening.toRun? after.receivers) = before.handedToRuns := by
  apply List.filterMap_congr
  intro happening member
  exact to_run_kept receivers happening (orderly.below happening (List.mem_append_right _ member))

theorem proceeds_of_silent (chronicle : after.chronicle = before.chronicle)
    (animator : after.animator = before.animator)
    (listening : runsListening after.frames = runsListening before.frames)
    (frames : after.nextFrame = before.nextFrame)
    (receivers : KeepsNames before.receivers after.receivers)
    (told : after.toRuns = before.toRuns) : Proceeds first past before after := by
  intro orderly
  have same : after.story past = before.story past := by rw [story, story, chronicle]
  refine ⟨⟨?_, ?_, ?_, ?_, ?_⟩, Nat.le_of_eq frames.symm, [],
    by simp [chronicle], animator, by simp⟩
  · rw [animator, same]
    exact orderly.replays
  · rw [listening, animator]
    exact orderly.listening
  · intro happening member
    rw [same] at member
    exact below_mono (Nat.le_of_eq frames.symm) receivers happening (orderly.below happening member)
  · rw [told, orderly.told, ← handed_kept orderly receivers, handedToRuns, chronicle]
  · rw [same]
    exact orderly.lawful

theorem conducts_of_note {least : Nat} (happening : Happening α)
    (chronicle : after.chronicle = before.chronicle.push happening)
    (animator : after.animator = happening.change before.animator)
    (listening : runsListening after.frames = listener after.animator)
    (frames : before.nextFrame ≤ after.nextFrame)
    (receivers : KeepsNames before.receivers after.receivers)
    (told : after.toRuns = before.toRuns ++ (happening.toRun? after.receivers).toList)
    (below : happening.Below after)
    (about : ∀ frame, happening.frame? = some frame → least ≤ frame.index)
    (allowed : happening.Allowed first (before.story past)) :
    Conducts first past least before after := by
  intro orderly
  have further := story_of_note past before happening chronicle
  refine ⟨⟨?_, listening, ?_, ?_, ?_⟩, frames, [happening], by simp [chronicle], animator, ?_⟩
  · rw [animator, further, replay_append, ← orderly.replays]
    rfl
  · intro other member
    rw [further] at member
    rcases List.mem_append.mp member with old | new
    · exact below_mono frames receivers other (orderly.below other old)
    · rw [List.mem_singleton.mp new]
      exact below
  · rw [told, orderly.told, ← handed_kept orderly receivers, handedToRuns, chronicle,
      Array.toList_push, List.filterMap_append]
    cases shown : happening.toRun? after.receivers with
    | none => rw [List.filterMap_cons_none shown]; rfl
    | some told => rw [List.filterMap_cons_some shown]; rfl
  · rw [further]
    exact lawful_append_singleton orderly.lawful allowed
  · intro other member
    rw [List.mem_singleton.mp member]
    exact about

/-! Starts, stops and resets. -/

theorem stop_proceeds : Leads (Proceeds first past) (stop : Act σ α Unit) := by
  intro session orderly
  refine conducts_of_note .stopped rfl rfl ?_ (Nat.le_refl _) (keeps_names_refl _)
    (List.append_nil _).symm trivial (by simp [Happening.frame?]) trivial orderly
  exact runs_listening_release orderly.listening

theorem reset_proceeds : Leads (Proceeds first past) (reset : Act σ α Unit) := by
  intro session orderly
  obtain ⟨remarks, cleared⟩ := run_reset session
  rw [cleared]
  refine conducts_of_note .reset rfl rfl ?_ (Nat.le_refl _) (keeps_names_refl _)
    (List.append_nil _).symm trivial (by simp [Happening.frame?]) trivial orderly
  exact runs_listening_release orderly.listening

theorem start_proceeds (plan : RunPlan α) (reactions : Option (Reactions α)) :
    Leads (Proceeds first past) (start plan reactions : Act σ α Unit) := by
  intro session
  cases reactions with
  | none =>
      rw [run_start_refused]
      exact proceeds_of_silent rfl rfl rfl rfl (keeps_names_refl _) rfl
  | some reactions =>
      intro orderly
      obtain ⟨remarks, started⟩ := run_start plan reactions session
      rw [started]
      refine conducts_of_note (.began plan _ _ _) rfl rfl ?_ (Nat.le_refl _) (keeps_names_push _ _)
        (List.append_nil _).symm ?_ (by simp [Happening.frame?]) ?_ orderly
      · rw [runs_listening_subscribe, runs_listening_release orderly.listening]
        rfl
      · simp [Happening.Below]
      · intro earlier other subscription nowMs member
        exact orderly.below _ member

theorem start_tree_proceeds (growth : Growth α) (reactions : Option (Reactions α)) :
    Leads (Proceeds first past) (startTree growth reactions : Act σ α Unit) := by
  intro session
  rw [run_start_tree]
  have told : Proceeds first past session
      { session with remarks := session.remarks ++ growth.remarks } :=
    proceeds_of_silent rfl rfl rfl rfl (keeps_names_refl _) rfl
  cases growth.outcome with
  | error fault => exact told
  | ok tree => exact proceeds_trans _ _ _ told (start_proceeds _ reactions _)

theorem due_follows {generation : Nat} {frame : Frame α} (due : Due past generation frame before)
    (follows : Follows before.nextFrame before after) : Due past generation frame after := by
  obtain ⟨news, further, animator, about⟩ := follows_story past follows
  have counted := replay_generation news before.animator
  rw [← animator] at counted
  have reached := due.reached
  have emitted := due.emitted
  refine ⟨by omega, ?_, Nat.lt_of_lt_of_le emitted follows.1, ?_⟩
  · intro current
    obtain ⟨plan, receiver, since, underway, emittedSince⟩ := due.current (by omega)
    have goesOn := goes_on_of_same_generation animator (by omega)
    refine ⟨plan, receiver, since ++ news, ?_, List.mem_append_left _ emittedSince⟩
    rw [further]
    exact underway_append underway goesOn
  · intro happening member framed
    rw [further] at member
    rcases List.mem_append.mp member with old | new
    · exact due.unserved happening old framed
    · have later := about happening new frame framed
      omega

theorem note_heeded_conducts (frame : Frame α) (remarks : Array (Remark α)) (session : Session σ α)
    (awake : session.animator.phase ≠ .idle)
    (underway : ∃ plan receiver since, Underway (session.story past) plan receiver since ∧
      .emitted frame ∈ since)
    (unheeded : .heeded frame ∉ session.story past) :
    Conducts first past frame.index session
      { session with
        animator := ((Animator.heed frame).run session.animator).2
        chronicle := session.chronicle.push (.heeded frame)
        remarks } := by
  intro orderly
  have same := Animator.heed_same_run frame session.animator
  refine conducts_of_note (.heeded frame) rfl ?_ ?_ (Nat.le_refl _) (keeps_names_refl _)
    (List.append_nil _).symm trivial ?_ ⟨underway, unheeded⟩ orderly
  · rw [Happening.change, if_neg awake]
  · rw [listener, same.subscription, same.generation]
    exact orderly.listening
  · intro other framed
    cases framed
    exact Nat.le_refl _

/-- A scene that is published is that of the animator, and shows the plan of the run under way. -/
theorem note_published_conducts (frame : Frame α) (session : Session σ α) {plan : RunPlan α}
    {receiver : Nat} {since : List (Happening α)}
    (underway : Underway (session.story past) plan receiver since)
    (emittedSince : .emitted frame ∈ since)
    (unpublished : ∀ scene, .published frame scene ∉ session.story past) :
    Conducts first past frame.index session
      { session with
        chronicle := session.chronicle.push (.published frame session.animator.scene) } := by
  intro orderly
  refine conducts_of_note (.published frame _) rfl rfl orderly.listening (Nat.le_refl _)
    (keeps_names_refl _) (List.append_nil _).symm trivial ?_ ?_ orderly
  · intro other same
    cases same
    exact Nat.le_refl _
  · have performs := underway_performs first underway
    rw [← orderly.replays] at performs
    refine ⟨⟨plan, receiver, since, underway, emittedSince, performs_shows performs⟩, ?_,
      unpublished⟩
    rw [← orderly.replays]

/-- A scene is handed to the receiver of the run under way, after the viewers of the frame and once,
and that receiver is given it. -/
theorem note_handed_conducts (frame : Frame α) (scene : Scene α) (number : Nat)
    (receiver : Receiver α) (session : Session σ α) {plan : RunPlan α} {since : List (Happening α)}
    (there : session.receivers[number]? = some receiver)
    (underway : Underway (session.story past) plan number since)
    (emittedSince : .emitted frame ∈ since) (publishedSince : .published frame scene ∈ since)
    (unhanded : ∀ other shown, .handed other frame shown ∉ session.story past) :
    Conducts first past frame.index session
      (given number receiver (.scene (.run receiver.name.number) scene)
        { session with chronicle := session.chronicle.push (.handed number frame scene) }) := by
  intro orderly
  have bound := (Array.getElem?_eq_some_iff.mp there).1
  refine conducts_of_note (.handed number frame scene) rfl rfl orderly.listening (Nat.le_refl _)
    (keeps_names_set there rfl) ?_ ?_ ?_ ⟨⟨plan, since, underway, emittedSince, publishedSince⟩,
      unhanded⟩ orderly
  · rw [toRuns, toRuns, given, Array.toList_push, List.filterMap_append, Happening.toRun?,
      Array.getElem?_setIfInBounds_self_of_lt bound]
    rfl
  · rw [Happening.Below, given, Array.size_setIfInBounds]
    exact bound
  · intro other same
    cases same
    exact Nat.le_refl _

theorem emitted_due (deaf : first.subscription = none) (session : Session σ α)
    (orderly : Orderly first past session) (number generation : Nat)
    (member : (number, .run generation) ∈ session.frames.live) :
    Due past generation session.upcomingFrame
      { session with
        nextFrame := session.nextFrame + 1
        chronicle := session.chronicle.push (.emitted session.upcomingFrame) } := by
  have listening : (number, FrameObserver.run generation) ∈ listener session.animator := by
    rw [← orderly.listening]
    exact List.mem_filter.mpr ⟨member, rfl⟩
  cases subscribed : session.animator.subscription with
  | none =>
      rw [listener, subscribed] at listening
      cases listening
  | some subscription =>
      rw [listener, subscribed] at listening
      cases List.mem_singleton.mp listening
      obtain ⟨plan, receiver, since, underway⟩ := replay_listens_underway (session.story past) first
        deaf (by rw [← orderly.replays, subscribed]; simp)
      refine ⟨Nat.le_refl _,
        fun _ => ⟨plan, receiver, since ++ [.emitted session.upcomingFrame], ?_,
          List.mem_append_right _ (List.mem_singleton_self _)⟩, Nat.lt_succ_self _, ?_⟩
      · rw [story_of_note past session (.emitted session.upcomingFrame) rfl]
        exact underway_append_singleton underway rfl
      · intro happening told framed
        rw [story_of_note past session (.emitted session.upcomingFrame) rfl] at told
        rcases List.mem_append.mp told with old | new
        · have below := orderly.below _ (emitted_of_mem orderly.lawful old framed)
          exact absurd below (Nat.lt_irrefl _)
        · exact List.mem_singleton.mp new

end Orderly

end Session

end Arboretum

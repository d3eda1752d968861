import Arboretum.Proofs.Animation.CurrentRun

/-!
What becomes of a subscription whose observer fails. Streams may keep it, as those of a session do,
or end it before the failure goes on to whoever caused the event. Of the second kind the animator
hears nothing: it goes on holding a subscription that has been ended.
-/

namespace Arboretum

open Fallible

set_option autoImplicit false

/-- What streams do with the subscription of an observer that fails. -/
inductive Upkeep where
  | keeps
  | ends

def Subject.without {κ : Type} [DecidableEq κ] (observer : κ) (subject : Subject κ) : Subject κ :=
  { subject with live := subject.live.filter fun entry => entry.2 != observer }

variable {σ α : Type}

namespace Session

/-- An act of an observer. If it fails, its subscription is ended where streams do so. -/
def guarded (upkeep : Upkeep) (ended : Session σ α → Session σ α) (act : Act σ α Unit) :
    Act σ α Unit :=
  match upkeep with
  | .keeps => act
  | .ends => fun session =>
      match act.run session with
      | (.ok _, later) => (.ok (), later)
      | (.error fault, later) => (.error fault, ended later)

theorem run_guarded_ends (ended : Session σ α → Session σ α) (act : Act σ α Unit)
    (session : Session σ α) :
    (guarded .ends ended act).run session =
      match act.run session with
      | (.ok _, later) => (.ok (), later)
      | (.error fault, later) => (.error fault, ended later) := rfl

theorem guarded_ends_error {ended : Session σ α → Session σ α} {act : Act σ α Unit}
    {session failed : Session σ α} {fault : Fault}
    (called : (guarded .ends ended act).run session = (.error fault, failed)) :
    ∃ later, failed = ended later := by
  rw [run_guarded_ends] at called
  rcases ran : act.run session with ⟨other | _, later⟩
  · rw [ran] at called
    cases called
    exact ⟨later, rfl⟩
  · rw [ran] at called
    cases called

def endFrames (observer : FrameObserver) (session : Session σ α) : Session σ α :=
  { session with frames := session.frames.without observer }

def endScenes (viewer : Nat) (session : Session σ α) : Session σ α :=
  { session with scenes := session.scenes.without viewer }

section Under

variable [Scalar α] [ChanceSource σ α] (upkeep : Upkeep) (react : List (Command α) → Act σ α Unit)

/-! The acts of a session through which observers are called, under either kind of upkeep. -/

def publishUnder (frame : Frame α) (scene : Scene α) : Act σ α Unit := do
  note (.published frame scene)
  Subject.deliver (do return (← get).scenes)
    (fun viewer => guarded upkeep (endScenes viewer)
      (receive react viewer fun name => .scene (.viewer name.number) scene))
    (← get).scenes.live

def presentUnder (generation : Nat) (frame : Frame α) : Act σ α Unit := do
  let scene := (← get).animator.scene
  publishUnder upkeep react frame scene
  handOver react generation frame scene

def frameForRunUnder (generation : Nat) (frame : Frame α) : Act σ α Unit := do
  let animator := (← get).animator
  if animator.generation ≠ generation ∨ animator.phase = .idle then return
  note (.heeded frame)
  advance frame
  presentUnder upkeep react generation frame

def observeUnder (frame : Frame α) (observer : FrameObserver) : Act σ α Unit :=
  guarded upkeep (endFrames observer)
    (match observer with
      | .watcher receiver => receive react receiver fun name => .frame name.number frame
      | .run generation => frameForRunUnder upkeep react generation frame)

def tickUnder : Act σ α Unit := do
  let session ← get
  modify fun session => { session with nextFrame := session.nextFrame + 1 }
  note (.emitted session.upcomingFrame)
  Subject.deliver (do return (← get).frames) (observeUnder upkeep react session.upcomingFrame)
    session.frames.live

def executeUnder : Command α → Act σ α Unit
  | .tick => tickUnder upkeep react
  | command => execute react command

def performUnder : Nat → List (Command α) → Act σ α Unit
  | 0, _ => pure ()
  | depth + 1, commands => commands.forM (executeUnder upkeep (performUnder depth))

def runUnder (commands : List (Command α)) (session : Session σ α) :
    Except Fault Unit × Session σ α :=
  let depth := session.pendingReactions + countOfCommands commands + 1
  (performUnder upkeep depth commands).run { session with events := #[], chronicle := #[] }

def driveUnder (batches : List (List (Command α))) (session : Session σ α) : Session σ α :=
  batches.foldl (fun session commands => (runUnder upkeep commands session).2) session

end Under

section Keeps

variable [Scalar α] [ChanceSource σ α]

theorem execute_under_keeps (react : List (Command α) → Act σ α Unit) :
    executeUnder .keeps react = execute react := by
  funext command
  cases command with
  | tick =>
      have observed (frame : Frame α) :
          observeUnder .keeps react frame = observe (σ := σ) react frame := by
        funext observer
        cases observer with
        | watcher receiver => rfl
        | run generation => rfl
      rw [executeUnder, execute, tickUnder, tick]
      simp only [observed]
  | _ => rfl

theorem perform_under_keeps (depth : Nat) :
    performUnder .keeps depth = (perform depth : List (Command α) → Act σ α Unit) := by
  induction depth with
  | zero => rfl
  | succ depth induction =>
      funext commands
      rw [performUnder, perform, induction, execute_under_keeps]

/-- Where failing observers stay subscribed, a session is driven as it is. -/
theorem drive_under_keeps (batches : List (List (Command α))) (session : Session σ α) :
    driveUnder .keeps batches session = (drive batches session).2 := by
  induction batches generalizing session with
  | nil => rfl
  | cons commands batches induction =>
      have ran : runUnder .keeps commands session = session.run commands := by
        rw [runUnder, run]
        simp only [perform_under_keeps]
      rw [driveUnder, List.foldl_cons, ran]
      exact induction (session.run commands).2

end Keeps

/-! Who the next frame goes to. -/

/-- The next frame is handed to the run under way: a subscription that is live
carries its generation. -/
def reachesRun (session : Session σ α) : Bool :=
  session.frames.live.any fun entry => entry.2 == .run session.animator.generation

theorem reaches_run_iff (session : Session σ α) :
    session.reachesRun = true ↔
      ∃ number, (number, .run session.animator.generation) ∈ session.frames.live := by
  rw [reachesRun, List.any_eq_true]
  constructor
  · rintro ⟨⟨number, observer⟩, member, same⟩
    rw [← eq_of_beq same]
    exact ⟨number, member⟩
  · rintro ⟨number, member⟩
    exact ⟨_, member, beq_self_eq_true _⟩

/-- The runs that are listened for are the one that the animator holds a subscription for. -/
def Sound (session : Session σ α) : Prop :=
  ∀ number generation, (number, .run generation) ∈ session.frames.live →
    session.animator.subscription = some number ∧ session.animator.generation = generation

def Heard (session : Session σ α) : Prop :=
  session.animator.isActive = true → session.reachesRun = true

theorem active_of_reaches {session : Session σ α} (sound : Sound session)
    (reaches : session.reachesRun = true) : session.animator.isActive = true := by
  obtain ⟨number, member⟩ := (reaches_run_iff session).mp reaches
  rw [Animator.isActive, (sound number _ member).1]
  rfl

theorem mem_runs_listening {frames : Subject FrameObserver} {number generation : Nat} :
    (number, .run generation) ∈ runsListening frames ↔ (number, .run generation) ∈ frames.live := by
  rw [runsListening, List.mem_filter]
  exact and_iff_left rfl

theorem runs_listening_without_watcher (receiver : Nat) (frames : Subject FrameObserver) :
    runsListening (frames.without (.watcher receiver)) = runsListening frames := by
  rw [runsListening, runsListening, Subject.without, List.filter_filter]
  apply List.filter_congr
  rintro ⟨number, watcher | generation⟩ _
  · rfl
  · rfl

theorem sound_of_listening {session : Session σ α}
    (listening : runsListening session.frames = listener session.animator) : Sound session := by
  intro number generation member
  have listens := mem_runs_listening.mpr member
  rw [listening, listener] at listens
  cases subscribed : session.animator.subscription with
  | none =>
      rw [subscribed] at listens
      cases listens
  | some subscription =>
      rw [subscribed] at listens
      cases List.mem_singleton.mp listens
      exact ⟨rfl, rfl⟩

theorem heard_of_listening {session : Session σ α}
    (listening : runsListening session.frames = listener session.animator) : Heard session := by
  intro active
  obtain ⟨number, subscribed⟩ := Option.isSome_iff_exists.mp active
  exact (reaches_run_iff session).mpr ⟨number, listener_live listening subscribed⟩

/-- A sound session that gives up its subscription listens for no run. -/
theorem sound_release {session : Session σ α} (sound : Sound session) :
    runsListening (session.frames.release session.animator.subscription) = [] := by
  apply List.eq_nil_iff_forall_not_mem.mpr
  rintro ⟨number, observer⟩ member
  rw [runsListening, List.mem_filter] at member
  cases observer with
  | watcher receiver => cases member.2
  | run generation =>
      have listed := member.1
      cases subscribed : session.animator.subscription with
      | none =>
          rw [subscribed] at listed
          have held := (sound number generation listed).1
          rw [subscribed] at held
          cases held
      | some subscription =>
          rw [subscribed, Subject.release, Subject.dispose, List.mem_filter] at listed
          have held := (sound number generation listed.1).1
          rw [subscribed] at held
          cases held
          simp at listed

/-! What a failure leaves behind. -/

/-- Nothing but subscriptions has ended. -/
structure OnlyEnded (before after : Session σ α) : Prop where
  same : after = { before with frames := after.frames, scenes := after.scenes }
  fewer : ∀ entry ∈ after.frames.live, entry ∈ before.frames.live

theorem only_ended_refl (session : Session σ α) : OnlyEnded session session :=
  ⟨rfl, fun _ member => member⟩

theorem only_ended_trans {first second third : Session σ α} (before : OnlyEnded first second)
    (after : OnlyEnded second third) : OnlyEnded first third := by
  refine ⟨?_, fun entry member => before.fewer entry (after.fewer entry member)⟩
  rw [after.same, before.same]

theorem end_frames_only_ended (observer : FrameObserver) (session : Session σ α) :
    OnlyEnded session (endFrames observer session) :=
  ⟨rfl, fun _ member => (List.mem_filter.mp member).1⟩

theorem end_scenes_only_ended (viewer : Nat) (session : Session σ α) :
    OnlyEnded session (endScenes viewer session) :=
  ⟨rfl, fun _ member => member⟩

variable [Scalar α] [ChanceSource σ α]

/-- The observer of the run under way was called when that run was the present one already, and
failed, and since then nothing has happened but that the failure went on and ended subscriptions. -/
def RunFailed (fault : Fault) (session : Session σ α) : Prop :=
  session.animator.isActive = true ∧ ∃ depth frame earlier failed,
    earlier.animator.generation = session.animator.generation ∧
    (observeUnder .ends (performUnder .ends depth) frame
      (.run session.animator.generation)).run earlier = (.error fault, failed) ∧
    OnlyEnded failed session

theorem run_failed_of_only_ended {fault : Fault} {before after : Session σ α}
    (ended : OnlyEnded before after) (failed : RunFailed fault before) : RunFailed fault after := by
  obtain ⟨active, depth, frame, earlier, left, current, called, first⟩ := failed
  have animator : after.animator = before.animator := by rw [ended.same]
  rw [RunFailed, animator]
  exact ⟨active, depth, frame, earlier, left, current, called, only_ended_trans first ended⟩

/-- A run whose observer has failed is not reached any more. -/
theorem unreached_of_run_failed {fault : Fault} {session : Session σ α}
    (failed : RunFailed fault session) : session.reachesRun = false := by
  obtain ⟨_, depth, frame, earlier, left, _, called, ended⟩ := failed
  obtain ⟨later, rfl⟩ := guarded_ends_error called
  rw [Bool.eq_false_iff]
  intro reaches
  obtain ⟨number, member⟩ := (reaches_run_iff session).mp reaches
  have kept := ended.fewer _ member
  rw [endFrames, Subject.without, List.mem_filter] at kept
  simp at kept

end Session

end Arboretum

import Arboretum.Animation.Command
import Arboretum.Animation.Subject

/-!
A session: a clock, the stream of frames, the animator that listens to it, and the receivers of
frames and scenes. A tick hands its frame to the subscriptions that are live when it begins; the
animator moves its run on, shows the scene to the viewers, and then to the run's own receiver,
unless the run has been replaced in the meantime.
-/

namespace Arboretum

set_option autoImplicit false

structure Frame (α : Type) where
  index : Nat
  timestampMs : α
  deriving Repr

inductive FrameObserver where
  | watcher (receiver : Nat)
  | run (generation : Nat)
  deriving DecidableEq, Repr

def FrameObserver.isRun : FrameObserver → Bool
  | .watcher _ => false
  | .run _ => true

/-- Who a receiver is: the receiver of the n-th run, or that of the n-th subscription. -/
inductive ReceiverName where
  | run (number : Nat)
  | viewer (number : Nat)
  | watcher (number : Nat)
  deriving DecidableEq, Repr

def ReceiverName.number : ReceiverName → Nat
  | .run number | .viewer number | .watcher number => number

structure Receiver (α : Type) where
  name : ReceiverName
  reactions : Reactions α
  calls : Nat

/-- A scene that was taken at some moment. Its revealed entries are looked up in the lists of its
canvas, which the scenes of one run share. -/
structure Still (α : Type) where
  canvas : Nat
  scene : Scene α
  risen : Nat
  moves : Nat

structure Canvas (α : Type) where
  branches : List (Branch α)
  leaves : List (LeafSite α)

inductive Event (α : Type) where
  | frame (watcher : Nat) (frame : Frame α)
  | scene (receiver : ReceiverName) (scene : Scene α)

/-- What happens to the animator of a session, and what comes of it. -/
inductive Happening (α : Type) where
  /-- A run began, with the numbers of its receiver and of its subscription, at a time. -/
  | began (plan : RunPlan α) (receiver subscription : Nat) (nowMs : α)
  | stopped
  | reset
  /-- A frame was emitted. -/
  | emitted (frame : Frame α)
  /-- The run heeded a frame and moved on to it. -/
  | heeded (frame : Frame α)
  /-- The scene of a frame was published to the viewers. -/
  | published (frame : Frame α) (scene : Scene α)
  /-- The scene of a frame was handed to the receiver of the run. -/
  | handed (receiver : Nat) (frame : Frame α) (scene : Scene α)

structure Session (σ α : Type) where
  clockMs : α
  nextFrame : Nat
  frames : Subject FrameObserver
  scenes : Subject Nat
  animator : Animator σ α
  receivers : Array (Receiver α)
  /-- Runs begun so far, those that were refused included. -/
  runs : Nat
  retired : Entries Nat (Canvas α)
  album : Entries String (Still α)
  events : Array (Event α)
  /-- What has happened since the last commands came from outside, in order. -/
  chronicle : Array (Happening α)
  remarks : Array (Remark α)

/-- A part of a session that may fail; what it did before it failed stays done. -/
abbrev Act (σ α β : Type) : Type := ExceptT Fault (StateM (Session σ α)) β

namespace Session

variable {σ α : Type} [Scalar α] [ChanceSource σ α]

def initial (clockMs : α) (animator : Animator σ α) : Session σ α where
  clockMs := clockMs
  nextFrame := 0
  frames := .empty
  scenes := .empty
  animator := animator
  receivers := #[]
  runs := 0
  retired := []
  album := []
  events := #[]
  chronicle := #[]
  remarks := #[]

def remark (happened : Remark α) : Act σ α Unit :=
  modify fun session => { session with remarks := session.remarks.push happened }

def note (happening : Happening α) : Act σ α Unit :=
  modify fun session => { session with chronicle := session.chronicle.push happening }

def animate {β : Type} (step : AnimatorStep σ α β) : Act σ α β := fun session =>
  let (outcome, animator) := step.run session.animator
  (outcome, { session with animator })

def addReceiver (name : ReceiverName) (reactions : Reactions α) : Act σ α Nat :=
  modifyGet fun session =>
    (session.receivers.size,
      { session with receivers := session.receivers.push ⟨name, reactions, 0⟩ })

def unsubscribe : Act σ α Unit :=
  modify fun session =>
    { session with
      frames := session.frames.release session.animator.subscription
      animator := session.animator.stopped }

def stop : Act σ α Unit := do
  unsubscribe
  note .stopped

def cancel : Act σ α Unit := do
  let before := (← get).animator
  unsubscribe
  modify fun session =>
    { session with
      retired := session.retired.put before.canvas ⟨before.branches, before.leaves⟩
      animator := session.animator.cleared }
  if before.phase ≠ .idle then remark .returnedToIdle

def reset : Act σ α Unit := do
  cancel
  note .reset

def launch (plan : RunPlan α) (receiver : Nat) : Act σ α Unit := do
  let session ← get
  let animator := session.animator.launched plan receiver session.clockMs
  set { session with
    frames := session.frames.subscribe (.run animator.generation)
    animator := animator.listening session.frames.next }
  note (.began plan receiver session.frames.next session.clockMs)

def start (plan : RunPlan α) (reactions : Option (Reactions α)) : Act σ α Unit := do
  modify fun session => { session with runs := session.runs + 1 }
  match reactions with
  | none => throw .receiverNotCallable
  | some reactions =>
      cancel
      let receiver ← addReceiver (.run (← get).runs) reactions
      launch plan receiver
      let animator := (← get).animator
      let duration ← animator.settings.revealDurationMs animator.branches.length
      remark (.started animator.branches.length animator.leaves.length duration)

def startTree (growth : Growth α) (reactions : Option (Reactions α)) : Act σ α Unit := do
  modify fun session => { session with remarks := session.remarks ++ growth.remarks }
  let tree ← growth.outcome
  start (RunPlan.ofTree (← get).animator.motes.settings tree) reactions

/-- Hands an event to a receiver: it is recorded, and the reaction to this call is carried out. -/
def receive (react : List (Command α) → Act σ α Unit) (number : Nat)
    (event : ReceiverName → Event α) : Act σ α Unit := do
  match (← get).receivers[number]? with
  | none => return
  | some receiver =>
      modify fun session =>
        { session with
          events := session.events.push (event receiver.name)
          receivers := session.receivers.setIfInBounds number
            { receiver with calls := receiver.calls + 1 } }
      react (receiver.reactions.getD receiver.calls [])

def publish (react : List (Command α) → Act σ α Unit) (frame : Frame α) (scene : Scene α) :
    Act σ α Unit := do
  note (.published frame scene)
  Subject.deliver (do return (← get).scenes)
    (fun viewer => receive react viewer fun name => .scene (.viewer name.number) scene)
    (← get).scenes.live

/-- Hands the scene of a frame to the receiver of the run, if the run of the
frame is still the present one. -/
def handOver (react : List (Command α) → Act σ α Unit) (generation : Nat) (frame : Frame α)
    (scene : Scene α) : Act σ α Unit := do
  let animator := (← get).animator
  if animator.generation ≠ generation then return
  match animator.receiver with
  | none => return
  | some receiver =>
      note (.handed receiver frame scene)
      receive react receiver fun name => .scene (.run name.number) scene

def present (react : List (Command α) → Act σ α Unit) (generation : Nat) (frame : Frame α) :
    Act σ α Unit := do
  let scene := (← get).animator.scene
  publish react frame scene
  handOver react generation frame scene

def remarkOnFrame (frame : Frame α) : Act σ α Unit := do
  let animator := (← get).animator
  let (due, sampler) :=
    animator.sampler.sample Animator.frameKey frame.index animator.phase.text
  modify fun session => { session with animator := { session.animator with sampler } }
  if due then remark (.frame frame.index animator.phase animator.counts)

def advance (frame : Frame α) : Act σ α Unit := do
  let before := (← get).animator
  animate (Animator.revealTo frame.timestampMs)
  let after := (← get).animator
  if before.phase = .revealing ∧ after.phase = .settled then
    remark (.settled after.elapsedMs after.branches.length after.leaves.length)
  animate (Animator.driftMotes (before.sinceLastTick frame.timestampMs))
  remarkOnFrame frame

/-- Moves the run of a generation on to a frame and shows its scene. A frame for
an earlier run is not heeded. -/
def frameForRun (react : List (Command α) → Act σ α Unit) (generation : Nat) (frame : Frame α) :
    Act σ α Unit := do
  let animator := (← get).animator
  if animator.generation ≠ generation ∨ animator.phase = .idle then return
  note (.heeded frame)
  advance frame
  present react generation frame

def observe (react : List (Command α) → Act σ α Unit) (frame : Frame α) :
    FrameObserver → Act σ α Unit
  | .watcher receiver =>
      receive react receiver fun name => .frame name.number frame
  | .run generation => frameForRun react generation frame

def upcomingFrame (session : Session σ α) : Frame α := ⟨session.nextFrame, session.clockMs⟩

def tick (react : List (Command α) → Act σ α Unit) : Act σ α Unit := do
  let session ← get
  modify fun session => { session with nextFrame := session.nextFrame + 1 }
  note (.emitted session.upcomingFrame)
  Subject.deliver (do return (← get).frames) (observe react session.upcomingFrame)
    session.frames.live

def watchFrames (reactions : Reactions α) : Act σ α Unit := do
  let receiver ← addReceiver (.watcher ((← get).frames.next + 1)) reactions
  modify fun session => { session with frames := session.frames.subscribe (.watcher receiver) }

def watchScenes (reactions : Reactions α) : Act σ α Unit := do
  let receiver ← addReceiver (.viewer ((← get).scenes.next + 1)) reactions
  modify fun session => { session with scenes := session.scenes.subscribe receiver }

/-- Ends the subscription of a receiver of frames; that of the animator is for
nobody else to end. -/
def unwatchFrames (subscription : Nat) : Act σ α Unit :=
  modify fun session =>
    { session with
      frames := session.frames.disposeIf (fun observer => !observer.isRun) subscription }

def still (session : Session σ α) : Still α where
  canvas := session.animator.canvas
  scene := session.animator.scene
  risen := session.animator.motes.risen
  moves := session.animator.motes.moves

/-- Carries out one command; `react` carries out what receivers answer with. -/
def execute (react : List (Command α) → Act σ α Unit) : Command α → Act σ α Unit
  | .setClock timeMs => modify fun session => { session with clockMs := timeMs }
  | .advanceClock stepMs =>
      modify fun session => { session with clockMs := session.clockMs + stepMs }
  | .tick => tick react
  | .start plan reactions => start plan reactions
  | .startTree growth reactions => startTree growth reactions
  | .stop => stop
  | .reset => reset
  | .watchFrames reactions => watchFrames reactions
  | .unwatchFrames subscription => unwatchFrames subscription
  | .watchScenes reactions => watchScenes reactions
  | .unwatchScenes subscription =>
      modify fun session => { session with scenes := session.scenes.dispose subscription }
  | .keep label =>
      modify fun session => { session with album := session.album.put label session.still }
  | .fail => throw .rendererFailed

/-- Carries out commands in turn. A reaction is carried out one level deeper, and `depth` bounds the
levels. -/
def perform : Nat → List (Command α) → Act σ α Unit
  | 0, _ => pure ()
  | depth + 1, commands => commands.forM (execute (perform depth))

/-- The number of reactions that the receivers of a session hold. Every level of reactions uses up
one of them, so no run of commands goes deeper. -/
def pendingReactions (session : Session σ α) : Nat :=
  session.receivers.toList.foldr
    (fun receiver pending => countReactions receiver.reactions + pending) 0

/-- Carries out commands from outside; the events and the chronicle are those of these commands. -/
def run (commands : List (Command α)) (session : Session σ α) :
    Except Fault Unit × Session σ α :=
  let depth := session.pendingReactions + countOfCommands commands + 1
  (perform depth commands).run { session with events := #[], chronicle := #[] }

def scene (session : Session σ α) (still : Still α) : Scene α :=
  if still.canvas = session.animator.canvas then
    { still.scene with
      allBranches := session.animator.branches, allLeaves := session.animator.leaves }
  else
    match session.retired.find? still.canvas with
    | some canvas =>
        { still.scene with allBranches := canvas.branches, allLeaves := canvas.leaves }
    | none => still.scene

def kept? (session : Session σ α) (label : String) : Option (Scene α) :=
  (session.album.find? label).map session.scene

/-- Two stills of one canvas show the same motes. Motes only leave from the old end, so
if none rose in between, as many motes are the same motes; they are compared by what
moving changes, if they moved. -/
def sameMotes (left right : Still α) : Bool :=
  if left.risen = right.risen then
    left.moves == right.moves ||
      (left.scene.particles.length == right.scene.particles.length &&
        (left.scene.particles.zip right.scene.particles).all fun pair =>
          pair.1.isAtRest pair.2)
  else left.scene.particles == right.scene.particles

/-- Two stills show the same. Those of one canvas share their entries, so there the cursors decide
which of them are shown. -/
def showsSame (session : Session σ α) (left right : Still α) : Bool :=
  if left.canvas = right.canvas then
    left.scene.phase == right.scene.phase && left.scene.elapsedMs == right.scene.elapsedMs &&
      left.scene.branchCursor == right.scene.branchCursor &&
      left.scene.leafCursor == right.scene.leafCursor && sameMotes left right
  else (session.scene left).showsSame (session.scene right)

def keptSame (session : Session σ α) (first second : String) : Bool :=
  match session.album.find? first, session.album.find? second with
  | some left, some right => session.showsSame left right
  | _, _ => false

end Session

end Arboretum

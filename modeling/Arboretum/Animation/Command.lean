import Arboretum.Animation.Animator

/-!
Commands that drive an animation. They come from outside or from a receiver: a receiver of frames or
scenes is given as a list of reactions, of which the n-th is carried out when it is called for the
n-th time. A receiver may start, stop and tick like anyone else, and it may fail.
-/

namespace Arboretum

set_option autoImplicit false

inductive Command (α : Type) where
  | setClock (timeMs : α)
  | advanceClock (stepMs : α)
  | tick
  /-- Starts a run; without reactions there is nothing that could receive its frames. -/
  | start (plan : RunPlan α) (reactions : Option (List (List (Command α))))
  /-- Starts a run that shows a grown tree, if it has grown. -/
  | startTree (growth : Growth α) (reactions : Option (List (List (Command α))))
  | stop
  | reset
  | watchFrames (reactions : List (List (Command α)))
  | unwatchFrames (subscription : Nat)
  | watchScenes (reactions : List (List (Command α)))
  | unwatchScenes (subscription : Nat)
  | keep (label : String)
  | fail

abbrev Reactions (α : Type) : Type := List (List (Command α))

variable {α : Type}

mutual

def Command.reactionCount : Command α → Nat
  | .start _ (some reactions) => countReactions reactions
  | .startTree _ (some reactions) => countReactions reactions
  | .watchFrames reactions => countReactions reactions
  | .watchScenes reactions => countReactions reactions
  | _ => 0

def countReactions : List (List (Command α)) → Nat
  | [] => 0
  | commands :: rest => 1 + countOfCommands commands + countReactions rest

def countOfCommands : List (Command α) → Nat
  | [] => 0
  | command :: rest => command.reactionCount + countOfCommands rest

end

end Arboretum

/-!
Subscriptions to a stream of events. Subscriptions are numbered in the order in which they are made,
and a number is never given twice, so whether a subscription is still live is asked by its number
alone.
-/

namespace Arboretum

set_option autoImplicit false

/-- The live subscriptions of a stream, the oldest first, and the next number to give. -/
structure Subject (κ : Type) where
  next : Nat
  live : List (Nat × κ)

namespace Subject

variable {κ : Type}

def empty : Subject κ := ⟨0, []⟩

def subscribe (observer : κ) (subject : Subject κ) : Subject κ :=
  ⟨subject.next + 1, subject.live ++ [(subject.next, observer)]⟩

def dispose (number : Nat) (subject : Subject κ) : Subject κ :=
  { subject with live := subject.live.filter fun entry => entry.1 != number }

def release (number : Option Nat) (subject : Subject κ) : Subject κ :=
  match number with
  | some number => subject.dispose number
  | none => subject

def disposeIf (mayEnd : κ → Bool) (number : Nat) (subject : Subject κ) : Subject κ :=
  { subject with
    live := subject.live.filter fun entry => !(entry.1 == number && mayEnd entry.2) }

def isLive (subject : Subject κ) (number : Nat) : Bool :=
  subject.live.any fun entry => entry.1 == number

/-- Hands an event to the given subscriptions in turn. One that has ended by the time its turn comes
is passed over, and a failure ends the delivery. -/
def deliver {m : Type → Type} [Monad m] (current : m (Subject κ)) (hand : κ → m Unit) :
    List (Nat × κ) → m Unit
  | [] => pure ()
  | (number, observer) :: rest => do
      if (← current).isLive number then hand observer
      deliver current hand rest

end Subject

end Arboretum

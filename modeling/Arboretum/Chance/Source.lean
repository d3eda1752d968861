import Arboretum.Chance.Twister
import Arboretum.Number.Scalar

/-!
Sources of chance and the computations that draw from them. A drawing passes its source along, also
out of a step that fails, so the draws of a whole growth form one sequence. The rules of growth ask
a source for two things only: a number of the unit interval, and one of several choices.
-/

namespace Arboretum

set_option autoImplicit false

/-- A state from which numbers and choices are drawn. -/
class ChanceSource (σ : Type) (α : outParam Type) where
  /-- A number of the unit interval and the source after it. -/
  draw : σ → α × σ
  choose : Nat → σ → Except Fault Nat × σ

/-- A computation that draws from a source and may fail; the draws made before a
failure stay made. -/
abbrev Drawing (σ β : Type) : Type := ExceptT Fault (StateM σ) β

namespace Drawing

variable {σ α β : Type} [Scalar α] [ChanceSource σ α]

def unit : Drawing σ α := fun source =>
  let (value, source) := ChanceSource.draw source
  (.ok value, source)

def between (low high : α) : Drawing σ α := do
  let share ← unit
  return low + (high - low) * share

def index (count : Nat) : Drawing σ Nat := fun source => ChanceSource.choose count source

def oneOf [Inhabited β] (choices : List β) : Drawing σ β := do
  let chosen ← index choices.length
  return choices.getD chosen default

end Drawing

namespace Chance

/-- A source that runs: a seeded twister, or a list of values that is gone through over and over. -/
inductive Source where
  | seeded (twister : Twister)
  | scripted (values : Array Float) (position : Nat)

namespace Source

def ofSeed (seed : Int) : Source := .seeded (Twister.ofSeed seed)

def ofValues (values : List Float) : Source := .scripted values.toArray 0

def refusalLimit : Nat := 20000

def scriptedValue (values : Array Float) (position : Nat) : Float × Nat :=
  (values.getD position 0.0, (position + 1) % values.size)

def steps : Nat := Nat.pow 2 53

/-- Draws values until one is below the last whole group of `count` steps, and takes its step modulo
the count. A script that has been gone through once without success never succeeds. -/
def scriptedChoice (values : Array Float) (count : Nat) (limit : Float) :
    Nat → Nat → Except Fault Nat × Nat
  | 0, position => (.error .noUsableDraw, position)
  | fuel + 1, position =>
      let (value, position) := scriptedValue values position
      if limit ≤ value then scriptedChoice values count limit fuel position
      else
        let step := Number.Binary64.ofFloat (value * 9007199254740992.0)
        match Scalar.requireFinite (value * 9007199254740992.0) with
        | .error fault => (.error fault, position)
        | .ok () => (.ok (step.floor % (count : Int)).toNat, position)

def choiceLimit (count : Nat) : Float :=
  (Number.Binary64.ofRatio? ((steps - steps % count : Nat) : Int) steps).getD 1.0

instance : ChanceSource Source Float where
  draw
    | .seeded twister =>
        let (value, twister) := twister.nextUnit
        (value, .seeded twister)
    | .scripted values position =>
        let (value, position) := scriptedValue values position
        (value, .scripted values position)
  choose count
    | .seeded twister =>
        match twister.nextBelow count (count.log2 + 1) refusalLimit with
        | (some value, twister) => (.ok value, .seeded twister)
        | (none, twister) => (.error .noUsableDraw, .seeded twister)
    | .scripted values position =>
        let (outcome, position) :=
          scriptedChoice values count (choiceLimit count) (values.size + 1) position
        (outcome, .scripted values position)

end Source

end Chance

end Arboretum

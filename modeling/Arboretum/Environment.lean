import Arboretum.Number.Decimal
import Arboretum.Number.Reading
import Arboretum.Number.Scalar
import Arboretum.Text.LetterCase

/-!
The environment that the library is configured by, and how its texts are read. An entry that is not
set has its usual value; one that is set must be a text of the right kind within the entry's bounds,
and the fault otherwise names the entry.
-/

namespace Arboretum

set_option autoImplicit false

/-- Names with their texts, as a process finds them when it starts. -/
structure Environment where
  texts : List (String × String)

structure IntegerEntry where
  name : String
  usual : Int
  minimum : Option Int
  maximum : Option Int

structure RealEntry where
  name : String
  usual : Float
  minimum : Option Float
  maximum : Option Float

structure FlagEntry where
  name : String
  usual : Bool

namespace Environment

def ofTexts (texts : List (String × String)) : Except Fault Environment :=
  if texts.any fun entry =>
    entry.2.toList.contains '\x00' then .error .textWithNull else .ok ⟨texts⟩

def text? (environment : Environment) (name : String) : Option String :=
  (environment.texts.reverse.find? fun entry => entry.1 == name).map Prod.snd

def affirmations : List String := ["true", "1", "yes", "on"]

/-- A flag is on when its text is an affirmation, in any letter case and with any blanks around. -/
def flag (environment : Environment) (entry : FlagEntry) : Bool :=
  match environment.text? entry.name with
  | none => entry.usual
  | some text => affirmations.contains (Text.lowerCase (Text.trimmed text))

def requireBounds {β : Type} (name : String) (less : β → β → Bool) (write : β → String)
    (minimum maximum : Option β) (value : β) : Except Fault β := do
  if let some bound := minimum then
    if less value bound then throw (.belowMinimum name (write bound))
  if let some bound := maximum then
    if less bound value then throw (.aboveMaximum name (write bound))
  return value

def integer (environment : Environment) (entry : IntegerEntry) : Except Fault Int :=
  match environment.text? entry.name with
  | none => .ok entry.usual
  | some text =>
      match Number.readInteger? text with
      | none => .error (.notAnInteger entry.name)
      | some value =>
          requireBounds entry.name (fun left right => decide (left < right)) toString
            entry.minimum entry.maximum value

def integerAsReal (environment : Environment) (entry : IntegerEntry) : Except Fault Float := do
  Scalar.ofInt (← environment.integer entry)

def real (environment : Environment) (entry : RealEntry) : Except Fault Float :=
  match environment.text? entry.name with
  | none => .ok entry.usual
  | some text =>
      match Number.readReal? text with
      | none => .error (.notAReal entry.name)
      | some value =>
          if value.isNaN then .error (.notANumber entry.name)
          else
            requireBounds entry.name (fun left right => decide (left < right)) Number.shortestText
              entry.minimum entry.maximum value

end Environment

end Arboretum

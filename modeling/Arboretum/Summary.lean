import Arboretum.Entries
import Arboretum.Number.Decimal
import Arboretum.Score

/-!
What is told about a tree beside its geometry: the stage of growth that its score has reached, the
language with the largest share of the activity, and a headline made of both.
-/

namespace Arboretum

set_option autoImplicit false

inductive TreeStage where
  | seed
  | sprout
  | sapling
  | mature
  | ancient
  deriving DecidableEq, Repr

namespace TreeStage

def text : TreeStage → String
  | .seed => "Seed"
  | .sprout => "Sprout"
  | .sapling => "Sapling"
  | .mature => "Mature Tree"
  | .ancient => "Ancient Tree"

def ofScore {α : Type} [Scalar α] (score : α) : TreeStage :=
  let score := Score.sanitize score
  if score == 0.0 then .seed
  else if score ≤ 50.0 then .sprout
  else if score ≤ 200.0 then .sapling
  else if score ≤ 500.0 then .mature
  else .ancient

end TreeStage

inductive Share where
  | count (value : Int)
  | measure (value : Float)

namespace Share

open Number

def exact : Share → Binary64
  | .count value => .finite (decide (value < 0)) value.natAbs 0
  | .measure value => .ofFloat value

def less (left right : Share) : Bool := Binary64.less left.exact right.exact

def same (left right : Share) : Bool := Binary64.same left.exact right.exact

end Share

def unknownLanguage : String := "Unknown"

/-- The first language goes before the second: its share is larger, or it is as
large and its name is smaller. -/
def languagePrecedes (first second : String × Share) : Bool :=
  if Share.same first.2 second.2 then decide (first.1 < second.1)
  else Share.less second.2 first.2

/-- The language with the largest share; of equal shares, the one with the smallest name. -/
def primaryLanguage (shares : List (String × Share)) : String :=
  match Entries.ofPairs shares with
  | [] => unknownLanguage
  | first :: rest =>
      (rest.foldl (fun best entry => if languagePrecedes entry best then entry else best) first).1

structure TreeSummary where
  displayName : String
  score : Float
  stage : TreeStage
  primaryLanguage : String

namespace TreeSummary

def ofScore (score : Float) (displayName : String) (shares : List (String × Share)) : TreeSummary :=
  let score := Score.sanitize score
  { displayName, score, stage := TreeStage.ofScore score,
    primaryLanguage := Arboretum.primaryLanguage shares }

def headline (summary : TreeSummary) : String :=
  let name := if summary.displayName.isEmpty then "This tree" else summary.displayName
  name ++ ": " ++ summary.stage.text ++ " (" ++ Number.generalText summary.score ++ " points, " ++
    summary.primaryLanguage ++ ")"

end TreeSummary

end Arboretum

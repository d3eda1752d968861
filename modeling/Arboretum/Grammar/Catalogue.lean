import Arboretum.Grammar.RuleSet
import Arboretum.Number.Scalar
import Arboretum.Text.LetterCase
import Arboretum.Text.Blank

/-!
The built-in rule sets. One of them is asked for by name, in any letter case, or chosen by the
score: they take turns every 150 points.
-/

namespace Arboretum

set_option autoImplicit false

def RuleSet.ofBudAndSegment (name bud segment : String) : RuleSet :=
  ⟨name, [('X', bud.toList), ('F', segment.toList)]⟩

def builtInRuleSets : List RuleSet :=
  [
    .ofBudAndSegment "bushy" "F[+X][-X]FX" "FF",
    .ofBudAndSegment "fern" "F-[[X]+X]+F[+FX]-X" "FF",
    .ofBudAndSegment "lattice" "F[+X]F[-X]+X" "F[+F]F",
    .ofBudAndSegment "spiral" "F[++X][--X]FX" "F+F-F"
  ]

/-- The built-in rule set of a name, without regard to blanks around it or to letter case. -/
def ruleSetNamed (name : String) : Except Fault RuleSet :=
  let key := Text.lowerCase (Text.trimmed name)
  match builtInRuleSets.find? fun ruleSet => ruleSet.name == key with
  | some ruleSet => .ok ruleSet
  | none => .error (.unknownRuleSet name (builtInRuleSets.map RuleSet.name))

def ruleSetForScore {α : Type} [Scalar α] (score : α) : RuleSet :=
  let turn := Scalar.wholeQuotient score 150.0 % (builtInRuleSets.length : Int)
  builtInRuleSets.getD turn.toNat (.ofBudAndSegment "bushy" "F[+X][-X]FX" "FF")

end Arboretum

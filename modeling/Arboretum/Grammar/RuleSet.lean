import Arboretum.Entries
import Arboretum.Fault
import Arboretum.Grammar.Word

/-!
Substitution rules. A rule replaces one symbol by a word; a pass replaces all symbols of a word at
once, and a symbol without a rule stays. Two rule sets are the same when they have one name and
replace every symbol alike, whatever the order of their rules.
-/

namespace Arboretum

set_option autoImplicit false

structure RuleSet where
  name : String
  rules : Entries Char Word
  deriving Repr

namespace RuleSet

def symbolOf (name key : String) : Except Fault Char :=
  match key.toList with
  | [symbol] => .ok symbol
  | _ => .error (.ruleKeyNotSymbol name key)

/-- The rule set of a name and of rule texts, where a later rule for a symbol replaces an earlier
one. -/
def ofTexts (name : String) (texts : List (String × String)) : Except Fault RuleSet := do
  let rules ← (Entries.ofPairs texts).mapM fun (key, replacement) => do
    let symbol ← symbolOf name key
    return (symbol, replacement.toList)
  return ⟨name, rules⟩

def replacement (ruleSet : RuleSet) (symbol : Char) : Word :=
  (ruleSet.rules.find? symbol).getD [symbol]

def substitute (ruleSet : RuleSet) (word : Word) : Word := word.flatMap ruleSet.replacement

def isBracketBalanced (ruleSet : RuleSet) : Bool := ruleSet.rules.all fun rule => rule.2.isNested

def includes (first second : RuleSet) : Bool :=
  first.rules.all fun (symbol, _) => first.rules.find? symbol == second.rules.find? symbol

instance : BEq RuleSet where
  beq left right := left.name == right.name && includes left right && includes right left

end RuleSet

end Arboretum

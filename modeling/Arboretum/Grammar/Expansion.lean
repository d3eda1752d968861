import Arboretum.Grammar.RuleSet

/-!
Expansion of a word by a number of passes, and the length of the result computed
without building it. A word's length only depends on how often each symbol occurs, and
a pass acts on those counts alone.
-/

namespace Arboretum

set_option autoImplicit false

/-- Rules to expand with: a rule set, or rule texts that are still to be checked. -/
inductive RuleSource where
  | checked (ruleSet : RuleSet)
  | texts (pairs : List (String × String))

def RuleSource.ruleSet : RuleSource → Except Fault RuleSet
  | .checked ruleSet => .ok ruleSet
  | .texts pairs => RuleSet.ofTexts "custom" pairs

namespace RuleSet

def derive (ruleSet : RuleSet) : Nat → Word → Word
  | 0, word => word
  | passes + 1, word => derive ruleSet passes (ruleSet.substitute word)

end RuleSet

/-- How often each symbol occurs. -/
abbrev Tally : Type := Entries Char Nat

namespace Tally

def add (symbol : Char) (count : Nat) (tally : Tally) : Tally :=
  tally.put symbol ((tally.find? symbol).getD 0 + count)

def addWord (word : Word) (count : Nat) (tally : Tally) : Tally :=
  word.foldl (fun tally symbol => tally.add symbol count) tally

def ofWord (word : Word) : Tally := addWord word 1 []

def total (tally : Tally) : Nat := tally.foldr (fun (_, count) total => count + total) 0

def substitute (ruleSet : RuleSet) (tally : Tally) : Tally :=
  tally.foldl (fun next (symbol, count) => addWord (ruleSet.replacement symbol) count next) []

def derive (ruleSet : RuleSet) : Nat → Tally → Tally
  | 0, tally => tally
  | passes + 1, tally => derive ruleSet passes (substitute ruleSet tally)

end Tally

def passesOf (source : RuleSource) (passes : Int) : Except Fault (RuleSet × Nat) := do
  if passes < 0 then throw .negativeIterations
  return (← source.ruleSet, passes.toNat)

def expand (start : Word) (source : RuleSource) (passes : Int) : Except Fault Word := do
  let (ruleSet, count) ← passesOf source passes
  return ruleSet.derive count start

def expandedLength (start : Word) (source : RuleSource) (passes : Int) : Except Fault Nat := do
  let (ruleSet, count) ← passesOf source passes
  return (Tally.derive ruleSet count (Tally.ofWord start)).total

end Arboretum

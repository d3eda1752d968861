import Arboretum.Proofs.Grammar.Rules

/-!
Expansion symbol by symbol. A pass goes over the whole word, but it replaces each symbol
without regard to the others. So a symbol may be followed down on its own, to its
replacement, to the replacements of the symbols in that, and so on; what the symbols of a
word yield at a depth, put in a row, is what as many passes make of the word. Hence a word is
expanded as its parts are, and passes add up.
-/

namespace Arboretum

set_option autoImplicit false

namespace RuleSet

/-- What a symbol yields at a depth. A symbol without a rule yields itself. -/
def yield (ruleSet : RuleSet) : Nat → Char → Word
  | 0, symbol => [symbol]
  | depth + 1, symbol =>
      match ruleSet.rules.find? symbol with
      | none => [symbol]
      | some word => word.flatMap (yield ruleSet depth)

variable (ruleSet : RuleSet)

theorem yield_without_rule {symbol : Char} (missing : ruleSet.rules.find? symbol = none)
    (depth : Nat) :
    ruleSet.yield depth symbol = [symbol] := by
  cases depth with
  | zero => rfl
  | succ depth => rw [yield, missing]

/-- One level further down is one replacement earlier. -/
theorem replacement_yields (depth : Nat) (symbol : Char) :
    (ruleSet.replacement symbol).flatMap (ruleSet.yield depth) =
      ruleSet.yield (depth + 1) symbol := by
  cases rule : ruleSet.rules.find? symbol with
  | none =>
      -- The symbol is its own replacement, so both sides follow it, at depths
      -- that make no difference.
      rw [replacement_eq_of_none rule, List.flatMap_singleton, yield_without_rule ruleSet rule,
        yield_without_rule ruleSet rule]
  | some word => rw [replacement_eq_of_some rule, yield, rule]

/-- Passes over a word, which take all of it at a time, agree with following its
symbols one by one. -/
theorem derive_eq_yields (passes : Nat) (word : Word) :
    ruleSet.derive passes word = word.flatMap (ruleSet.yield passes) := by
  induction passes generalizing word with
  | zero => exact (List.flatMap_singleton' word).symm
  | succ passes induction =>
      rw [derive, induction, substitute, List.flatMap_assoc]
      simp only [replacement_yields]

theorem derive_append (passes : Nat) (front back : Word) :
    ruleSet.derive passes (front ++ back) =
      ruleSet.derive passes front ++ ruleSet.derive passes back := by
  simp only [derive_eq_yields, List.flatMap_append]

end RuleSet

/-- A word is expanded as its parts are, passes add up, and what passes make of a word is what its
symbols yield one by one, whatever the rules are. -/
theorem words_expand_symbol_by_symbol (source : RuleSource) (valid : source.IsValid) :
    ∃ ruleSet, source.ruleSet = .ok ruleSet ∧
      (∀ (front back : Word) (passes : Nat), ∃ left right,
        expand front source passes = .ok left ∧ expand back source passes = .ok right ∧
          expand (front ++ back) source passes = .ok (left ++ right)) ∧
      (∀ (word : Word) (first further : Nat), ∃ between whole,
        expand word source first = .ok between ∧ expand between source further = .ok whole ∧
          expand word source (first + further) = .ok whole) ∧
      ∀ (word : Word) (passes : Nat),
        expand word source passes = .ok (word.flatMap (ruleSet.yield passes)) := by
  rcases source.rule_set_cases with ⟨_, ruleSet, rules⟩ | ⟨invalid, _⟩
  · have expands := expand_of_rules rules
    refine ⟨ruleSet, rules, ?_, ?_, ?_⟩
    · intro front back passes
      refine ⟨_, _, expands front passes, expands back passes, ?_⟩
      rw [expands, RuleSet.derive_append]
    · intro word first further
      refine ⟨_, _, expands word first, expands _ further, ?_⟩
      rw [← Int.natCast_add, expands, RuleSet.derive_add]
    · intro word passes
      rw [expands, RuleSet.derive_eq_yields]
  · exact absurd valid invalid

/-! Rules may weed symbols out and may be about brackets, and a symbol may have none. -/

def weedingTexts : List (String × String) := [("X", "F[X]"), ("[", ""), ("F", "]FX")]

theorem weeded_word_expands_symbol_by_symbol :
    (RuleSource.texts weedingTexts).IsValid ∧
      ∃ ruleSet, (RuleSource.texts weedingTexts).ruleSet = .ok ruleSet ∧
        (∃ left right, expand "X[".toList (.texts weedingTexts) 2 = .ok left ∧
          expand "Q".toList (.texts weedingTexts) 2 = .ok right ∧
            left ++ right = "]FXF[X]]Q".toList) ∧
        (∃ between, expand "X[Q".toList (.texts weedingTexts) 1 = .ok between ∧
          expand between (.texts weedingTexts) 1 = .ok "]FXF[X]]Q".toList) ∧
        "X[Q".toList.flatMap (ruleSet.yield 2) = "]FXF[X]]Q".toList := by
  have valid : (RuleSource.texts weedingTexts).IsValid := by
    simp [RuleSource.IsValid, weedingTexts, RuleSet.IsSymbol]
  obtain ⟨ruleSet, rules, splits, adds, yields⟩ :=
    words_expand_symbol_by_symbol (.texts weedingTexts) valid
  have expanded : expand "X[Q".toList (.texts weedingTexts) 2 = .ok "]FXF[X]]Q".toList := rfl
  refine ⟨valid, ruleSet, rules, ?_, ?_, ?_⟩
  · obtain ⟨left, right, front, back, whole⟩ := splits "X[".toList "Q".toList 2
    exact ⟨left, right, front, back, Except.ok.inj (whole.symm.trans expanded)⟩
  · obtain ⟨between, whole, first, further, both⟩ := adds "X[Q".toList 1 1
    have same : whole = "]FXF[X]]Q".toList := Except.ok.inj (both.symm.trans expanded)
    rw [same] at further
    exact ⟨between, first, further⟩
  · exact Except.ok.inj ((yields "X[Q".toList 2).symm.trans expanded)

end Arboretum

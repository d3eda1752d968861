import Arboretum.Proofs.Grammar.Rules

/-!
Brackets under substitution. A word is properly nested when no prefix of it closes more than it
opens and the whole closes all that it opens. Following the depth symbol by symbol decides
this, and a nested word leads back to the depth it was met at, whatever that is. So replacing
symbols by nested words changes no depth between them, and a rule set keeps every word nested
exactly when its replacements are.
-/

namespace Arboretum

set_option autoImplicit false

namespace Word

/-- No prefix closes more brackets than it opens, and the word closes as many as it opens. -/
structure ProperlyNested (word : Word) : Prop where
  prefixes : ∀ front, front <+: word → front.count ']' ≤ front.count '['
  totals : word.count '[' = word.count ']'

/-! What one symbol does to the depth. -/

theorem closing_depth_open (depth : Nat) (rest : Word) :
    closingDepth? depth ('[' :: rest) = closingDepth? (depth + 1) rest := rfl

theorem closing_depth_close (depth : Nat) (rest : Word) :
    closingDepth? (depth + 1) (']' :: rest) = closingDepth? depth rest := rfl

theorem closing_depth_close_zero (rest : Word) : closingDepth? 0 (']' :: rest) = none := rfl

theorem closing_depth_plain {symbol : Char} (depth : Nat) (rest : Word) (unopening : symbol ≠ '[')
    (unclosing : symbol ≠ ']') :
    closingDepth? depth (symbol :: rest) = closingDepth? depth rest := by
  rw [closingDepth?]
  · exact unopening
  · exact unclosing

theorem forall_prefix_cons {condition : Word → Prop} (symbol : Char) (rest : Word) :
    (∀ front, front <+: symbol :: rest → condition front) ↔
      condition [] ∧ ∀ front, front <+: rest → condition (symbol :: front) := by
  constructor
  · intro all
    refine ⟨all [] List.nil_prefix, ?_⟩
    intro front before
    exact all _ (List.cons_prefix_cons.mpr ⟨rfl, before⟩)
  · rintro ⟨empty, later⟩ front before
    rcases List.prefix_cons_iff.mp before with rfl | ⟨others, rfl, beforeRest⟩
    · exact empty
    · exact later others beforeRest

/-- The depth can be followed through a word when no prefix closes more than was open, and
it ends at what is left open. -/
theorem closing_depth_iff (depth final : Nat) (word : Word) :
    closingDepth? depth word = some final ↔
      (∀ front, front <+: word → front.count ']' ≤ depth + front.count '[') ∧
        final + word.count ']' = depth + word.count '[' := by
  induction word generalizing depth with
  | nil => simp [closingDepth?, eq_comm]
  | cons symbol rest induction =>
      rw [forall_prefix_cons]
      by_cases opening : symbol = '['
      · subst opening
        rw [closing_depth_open, induction]
        simp only [List.count_cons_self, List.count_cons_of_ne (show '[' ≠ ']' by decide),
          List.count_nil, Nat.zero_le, true_and, Nat.add_zero, Nat.add_assoc, Nat.add_comm 1]
      by_cases closing : symbol = ']'
      · subst closing
        simp only [List.count_cons_self, List.count_cons_of_ne (show ']' ≠ '[' by decide),
          List.count_nil, Nat.zero_le, true_and]
        cases depth with
        | zero =>
            rw [closing_depth_close_zero]
            simp only [reduceCtorEq, false_iff, not_and]
            intro within
            have first := within [] List.nil_prefix
            simp at first
        | succ depth =>
            rw [closing_depth_close, induction]
            constructor
            · rintro ⟨within, total⟩
              refine ⟨?_, by omega⟩
              intro front before
              have bound := within front before
              omega
            · rintro ⟨within, total⟩
              refine ⟨?_, by omega⟩
              intro front before
              have bound := within front before
              omega
      · rw [closing_depth_plain depth rest opening closing, induction]
        simp only [List.count_cons_of_ne opening, List.count_cons_of_ne closing, List.count_nil,
          Nat.zero_le, true_and]

theorem is_nested_iff (word : Word) : word.isNested = true ↔ word.ProperlyNested := by
  unfold isNested
  rw [beq_iff_eq, closing_depth_iff]
  simp only [Nat.zero_add]
  constructor
  · rintro ⟨prefixes, totals⟩
    exact ⟨prefixes, totals.symm⟩
  · rintro ⟨prefixes, totals⟩
    exact ⟨prefixes, totals.symm⟩

theorem closing_depth_append (depth : Nat) (front back : Word) :
    closingDepth? depth (front ++ back) =
      (closingDepth? depth front).bind fun reached => closingDepth? reached back := by
  induction front generalizing depth with
  | nil => rfl
  | cons symbol front induction =>
      rw [List.cons_append]
      by_cases opening : symbol = '['
      · subst opening
        rw [closing_depth_open, closing_depth_open, induction]
      by_cases closing : symbol = ']'
      · subst closing
        cases depth with
        | zero => rfl
        | succ depth => rw [closing_depth_close, closing_depth_close, induction]
      · rw [closing_depth_plain _ _ opening closing, closing_depth_plain _ _ opening closing,
          induction]

/-- A nested word leads back to the depth at which it is met. -/
theorem closing_depth_nested {word : Word} (nested : word.isNested = true) (depth : Nat) :
    closingDepth? depth word = some depth := by
  obtain ⟨prefixes, totals⟩ := (is_nested_iff word).mp nested
  rw [closing_depth_iff]
  refine ⟨?_, by omega⟩
  intro front before
  have bound := prefixes front before
  omega

end Word

namespace RuleSet

def LeavesBrackets (ruleSet : RuleSet) : Prop :=
  ruleSet.rules.find? '[' = none ∧ ruleSet.rules.find? ']' = none

theorem plain_of_rule {ruleSet : RuleSet} (leaves : ruleSet.LeavesBrackets) {symbol : Char}
    {word : Word} (rule : (symbol, word) ∈ ruleSet.rules) : symbol ≠ '[' ∧ symbol ≠ ']' := by
  have found := Entries.find_isSome_of_mem rule
  constructor
  · rintro rfl
    simp [leaves.1] at found
  · rintro rfl
    simp [leaves.2] at found

section Keeping

variable {ruleSet : RuleSet} (leaves : ruleSet.LeavesBrackets)
  (balanced : ruleSet.isBracketBalanced = true)

include leaves balanced

/-- A replacement changes the depth as its symbol does. -/
theorem closing_depth_replacement (depth : Nat) (symbol : Char) :
    Word.closingDepth? depth (ruleSet.replacement symbol) = Word.closingDepth? depth [symbol] := by
  cases rule : ruleSet.rules.find? symbol with
  | none => rw [replacement_eq_of_none rule]
  | some word =>
      have member := Entries.mem_of_find rule
      obtain ⟨unopening, unclosing⟩ := plain_of_rule leaves member
      have nested : word.isNested = true := List.all_eq_true.mp balanced _ member
      rw [replacement_eq_of_some rule, Word.closing_depth_nested nested,
        Word.closing_depth_plain _ _ unopening unclosing]
      rfl

theorem closing_depth_substitute (depth : Nat) (word : Word) :
    Word.closingDepth? depth (ruleSet.substitute word) = Word.closingDepth? depth word := by
  induction word generalizing depth with
  | nil => rfl
  | cons symbol word induction =>
      have symbolFirst := Word.closing_depth_append depth [symbol] word
      rw [List.singleton_append] at symbolFirst
      rw [substitute_cons, Word.closing_depth_append,
        closing_depth_replacement leaves balanced, symbolFirst]
      simp only [induction]

theorem closing_depth_derive (passes depth : Nat) (word : Word) :
    Word.closingDepth? depth (ruleSet.derive passes word) = Word.closingDepth? depth word := by
  induction passes generalizing word with
  | zero => rfl
  | succ passes induction =>
      rw [derive, induction, closing_depth_substitute leaves balanced]

end Keeping

end RuleSet

theorem expand_checked (ruleSet : RuleSet) (start : Word) (passes : Nat) :
    expand start (.checked ruleSet) passes = .ok (ruleSet.derive passes start) :=
  expand_of_rules rfl start passes

/-- A rule set without rules for brackets is found to be balanced exactly when it expands every
properly nested word into properly nested words only. -/
theorem balanced_iff_keeps_nesting :
    (∀ ruleSet ∈ builtInRuleSets, ruleSet.LeavesBrackets) ∧
      ∀ ruleSet : RuleSet, ruleSet.IsMade → ruleSet.LeavesBrackets →
        (ruleSet.isBracketBalanced = true ↔
          ∀ start : Word, start.ProperlyNested → ∀ passes : Int, 0 ≤ passes →
            ∃ word, expand start (.checked ruleSet) passes = .ok word ∧ word.ProperlyNested) := by
  constructor
  · unfold RuleSet.LeavesBrackets
    decide
  intro ruleSet made leaves
  constructor
  · intro balanced start nested passes nonnegative
    obtain ⟨count, rfl⟩ := Int.eq_ofNat_of_zero_le nonnegative
    refine ⟨ruleSet.derive count start, expand_checked ruleSet start count, ?_⟩
    rw [← Word.is_nested_iff] at nested ⊢
    unfold Word.isNested at nested ⊢
    rw [RuleSet.closing_depth_derive leaves balanced]
    exact nested
  · intro keeps
    unfold RuleSet.isBracketBalanced
    rw [List.all_eq_true]
    rintro ⟨symbol, replacement⟩ rule
    -- A single symbol that has a rule is a nested word, and one pass makes its replacement of it.
    obtain ⟨unopening, unclosing⟩ := RuleSet.plain_of_rule leaves rule
    have single : Word.ProperlyNested [symbol] := by
      rw [← Word.is_nested_iff]
      unfold Word.isNested
      rw [Word.closing_depth_plain _ _ unopening unclosing]
      rfl
    obtain ⟨word, expands, nested⟩ := keeps [symbol] single 1 (by decide)
    have found := Entries.find_of_mem (RuleSet.made_one_rule_per_symbol made) rule
    have once := expand_checked ruleSet [symbol] 1
    have replaced : ruleSet.derive 1 [symbol] = replacement := by
      simp [RuleSet.derive, RuleSet.substitute, RuleSet.replacement, found]
    rw [replaced] at once
    cases once.symm.trans expands
    exact (Word.is_nested_iff replacement).mpr nested

/-! A replacement that closes before it opens has as many brackets of either
kind, and is not nested. -/

def fernRules : RuleSet := .ofBudAndSegment "fern" "F-[[X]+X]+F[+FX]-X" "FF"

def crossedRules : RuleSet := ⟨"crossed", [('X', "]X[".toList)]⟩

theorem fern_keeps_nesting_but_crossed_rules_do_not :
    (∃ word, expand "[X]F".toList (.checked fernRules) 3 = .ok word ∧ word.ProperlyNested) ∧
      ¬ ∀ start : Word, start.ProperlyNested → ∀ passes : Int, 0 ≤ passes →
        ∃ word, expand start (.checked crossedRules) passes = .ok word ∧ word.ProperlyNested := by
  constructor
  · have fern :=
      balanced_iff_keeps_nesting.2 fernRules (.inl (by simp [fernRules, builtInRuleSets]))
      ⟨rfl, rfl⟩
    have nested : Word.ProperlyNested "[X]F".toList := (Word.is_nested_iff _).mp (by decide)
    exact fern.mp (by decide) "[X]F".toList nested 3 (by decide)
  · have crossed := balanced_iff_keeps_nesting.2 crossedRules
      (.inr ⟨"crossed", [("X", "]X[")], rfl⟩) ⟨rfl, rfl⟩
    rw [← crossed]
    decide

end Arboretum

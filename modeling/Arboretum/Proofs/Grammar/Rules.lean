import Arboretum.Grammar.Expansion
import Arboretum.Grammar.Catalogue
import Arboretum.Proofs.Entries
import Arboretum.Proofs.Fallible

/-!
Rule sets that are made from texts. Every key has to be one symbol; the first one that is not is
refused. The rules of the set are then the texts themselves, keys and replacements alike, so no
symbol has two rules. A pass takes a word symbol by symbol, and passes add up.
-/

namespace Arboretum

open Fallible

set_option autoImplicit false

namespace RuleSet

def IsSymbol (key : String) : Prop := ∃ symbol, key.toList = [symbol]

theorem symbol_of_cases (name key : String) :
    (∃ symbol, key.toList = [symbol] ∧ symbolOf name key = .ok symbol) ∨
      (¬ IsSymbol key ∧ symbolOf name key = .error (.ruleKeyNotSymbol name key)) := by
  unfold symbolOf IsSymbol
  rcases key.toList with _ | ⟨symbol, _ | ⟨other, rest⟩⟩
  · exact .inr ⟨by simp, rfl⟩
  · exact .inl ⟨symbol, rfl, rfl⟩
  · exact .inr ⟨by simp, rfl⟩

/-- The rules that texts are read as, or the first key that is no symbol. -/
theorem read_rules_cases (name : String) (texts : List (String × String)) :
    let rules := texts.mapM fun (key, replacement) => do
      let symbol ← symbolOf name key
      return (symbol, replacement.toList)
    (∃ read, rules = .ok read ∧ (∀ key ∈ texts.map Prod.fst, IsSymbol key) ∧
        read.map (fun rule => ([rule.1], rule.2)) =
          texts.map fun text => (text.1.toList, text.2.toList)) ∨
      ∃ key ∈ texts.map Prod.fst, ¬ IsSymbol key ∧
        rules = .error (.ruleKeyNotSymbol name key) := by
  induction texts with
  | nil => exact .inl ⟨[], rfl, by simp, rfl⟩
  | cons text texts induction =>
      dsimp only at induction ⊢
      rw [List.mapM_cons]
      rcases symbol_of_cases name text.1 with ⟨symbol, spelled, symbolIs⟩ | ⟨unfit, refused⟩
      · rw [symbolIs]
        rcases induction with ⟨read, reads, symbols, same⟩ | ⟨key, member, unfit, refused⟩
        · rw [reads]
          refine .inl ⟨(symbol, text.2.toList) :: read, rfl, ?_, ?_⟩
          · simp only [List.map_cons, List.forall_mem_cons]
            exact ⟨⟨symbol, spelled⟩, symbols⟩
          · simp only [List.map_cons, same, spelled]
        · rw [refused]
          exact .inr ⟨key, List.mem_cons_of_mem _ member, unfit, rfl⟩
      · rw [refused]
        exact .inr ⟨text.1, List.mem_cons_self .., unfit, rfl⟩

/-- Texts make a rule set when every key is a symbol, and are refused by a key
that is none otherwise. -/
theorem of_texts_cases (name : String) (texts : List (String × String)) :
    (∃ ruleSet, ofTexts name texts = .ok ruleSet ∧ (∀ key ∈ texts.map Prod.fst, IsSymbol key) ∧
        ruleSet.rules.map (fun rule => ([rule.1], rule.2)) =
          (Entries.ofPairs texts).map fun text => (text.1.toList, text.2.toList)) ∨
      ∃ key ∈ texts.map Prod.fst, ¬ IsSymbol key ∧
        ofTexts name texts = .error (.ruleKeyNotSymbol name key) := by
  have keys := (Entries.keys_of_pairs texts).2
  unfold ofTexts
  rcases read_rules_cases name (Entries.ofPairs texts) with
    ⟨read, reads, symbols, same⟩ | ⟨key, member, unfit, refused⟩
  · rw [reads]
    refine .inl ⟨⟨name, read⟩, rfl, ?_, same⟩
    intro key member
    exact symbols key ((keys key).mpr member)
  · rw [refused]
    exact .inr ⟨key, (keys key).mp member, unfit, rfl⟩

def HasOneRulePerSymbol (ruleSet : RuleSet) : Prop := (ruleSet.rules.map Prod.fst).Nodup

theorem of_texts_one_rule_per_symbol {name : String} {texts : List (String × String)}
    {ruleSet : RuleSet} (made : ofTexts name texts = .ok ruleSet) :
    ruleSet.HasOneRulePerSymbol := by
  rcases of_texts_cases name texts with ⟨other, makes, _, same⟩ | ⟨key, _, _, refused⟩
  · rw [makes] at made
    cases made
    -- Keys that are spelled apart are apart, and a rule's symbol spells its key.
    have distinct :=
      (Entries.keys_of_pairs texts).1.map (f := String.toList) (fun _ _ => String.toList_injective)
    have spelled := congrArg (List.map Prod.fst) same
    simp only [List.map_map] at distinct spelled
    have apart : (ruleSet.rules.map fun rule => [rule.1]).Nodup := by
      rw [show (fun rule : Char × Word => [rule.1]) =
        Prod.fst ∘ fun rule : Char × Word => ([rule.1], rule.2) from rfl, spelled]
      exact distinct
    apply List.Nodup.of_map (fun symbol => [symbol])
    rw [List.map_map]
    exact apart
  · rw [refused] at made
    cases made

/-- The rule sets there are: those built in, and those made from texts. -/
def IsMade (ruleSet : RuleSet) : Prop :=
  ruleSet ∈ builtInRuleSets ∨ ∃ name texts, ofTexts name texts = .ok ruleSet

theorem made_one_rule_per_symbol {ruleSet : RuleSet} (made : ruleSet.IsMade) :
    ruleSet.HasOneRulePerSymbol := by
  rcases made with builtIn | ⟨name, texts, made⟩
  · simp only [builtInRuleSets, List.mem_cons, List.not_mem_nil, or_false] at builtIn
    rcases builtIn with rfl | rfl | rfl | rfl <;>
      simp [HasOneRulePerSymbol, ofBudAndSegment]
  · exact of_texts_one_rule_per_symbol made

/-! Passes. -/

theorem replacement_eq_of_none {ruleSet : RuleSet} {symbol : Char}
    (missing : ruleSet.rules.find? symbol = none) : ruleSet.replacement symbol = [symbol] := by
  simp [replacement, missing]

theorem replacement_eq_of_some {ruleSet : RuleSet} {symbol : Char} {word : Word}
    (rule : ruleSet.rules.find? symbol = some word) : ruleSet.replacement symbol = word := by
  simp [replacement, rule]

theorem substitute_cons (ruleSet : RuleSet) (symbol : Char) (word : Word) :
    ruleSet.substitute (symbol :: word) = ruleSet.replacement symbol ++ ruleSet.substitute word :=
  List.flatMap_cons

theorem derive_add (ruleSet : RuleSet) (first further : Nat) (word : Word) :
    ruleSet.derive (first + further) word = ruleSet.derive further (ruleSet.derive first word) := by
  induction first generalizing word with
  | zero => rw [Nat.zero_add, derive]
  | succ first induction => rw [Nat.succ_add, derive, derive, induction]

theorem derive_last (ruleSet : RuleSet) (passes : Nat) (word : Word) :
    ruleSet.derive (passes + 1) word = ruleSet.substitute (ruleSet.derive passes word) :=
  derive_add ruleSet passes 1 word

end RuleSet

namespace RuleSource

def IsValid : RuleSource → Prop
  | .checked _ => True
  | .texts pairs => ∀ key ∈ pairs.map Prod.fst, RuleSet.IsSymbol key

/-- Rules are there when their source is valid, and are refused by a key that is
no symbol otherwise. -/
theorem rule_set_cases (source : RuleSource) :
    (source.IsValid ∧ ∃ ruleSet, source.ruleSet = .ok ruleSet) ∨
      (¬ source.IsValid ∧ ∃ key, ¬ RuleSet.IsSymbol key ∧
        source.ruleSet = .error (.ruleKeyNotSymbol "custom" key)) := by
  cases source with
  | checked ruleSet => exact .inl ⟨trivial, ruleSet, rfl⟩
  | texts pairs =>
      rcases RuleSet.of_texts_cases "custom" pairs with
        ⟨ruleSet, made, symbols, _⟩ | ⟨key, member, unfit, refused⟩
      · exact .inl ⟨symbols, ruleSet, made⟩
      · refine .inr ⟨?_, key, unfit, refused⟩
        intro valid
        exact unfit (valid key member)

end RuleSource

/-- Why a word is not expanded: a negative number of passes, and only then a key
that is no symbol. -/
def Fault.Refuses (passes : Int) (fault : Fault) : Prop :=
  (passes < 0 ∧ fault = .negativeIterations) ∨
    (0 ≤ passes ∧ ∃ key, ¬ RuleSet.IsSymbol key ∧ fault = .ruleKeyNotSymbol "custom" key)

theorem passes_of_cases (source : RuleSource) (passes : Int) :
    (0 ≤ passes ∧ source.IsValid ∧ ∃ ruleSet,
        passesOf source passes = .ok (ruleSet, passes.toNat)) ∨
      (¬ (0 ≤ passes ∧ source.IsValid) ∧ ∃ fault, fault.Refuses passes ∧
        passesOf source passes = .error fault) := by
  unfold passesOf
  by_cases negative : passes < 0
  · refine .inr ⟨by omega, .negativeIterations, .inl ⟨negative, rfl⟩, ?_⟩
    simp only [negative, if_true]
    rfl
  · have nonnegative : 0 ≤ passes := by omega
    simp only [negative, if_false]
    rcases source.rule_set_cases with ⟨valid, ruleSet, there⟩ | ⟨invalid, key, unfit, refused⟩
    · rw [there]
      exact .inl ⟨nonnegative, valid, ruleSet, rfl⟩
    · rw [refused]
      exact .inr ⟨fun both => invalid both.2, .ruleKeyNotSymbol "custom" key,
        .inr ⟨nonnegative, key, unfit, rfl⟩, rfl⟩

/-- With rules that are there, every number of passes expands every word. -/
theorem expand_of_rules {source : RuleSource} {ruleSet : RuleSet}
    (rules : source.ruleSet = .ok ruleSet) (start : Word) (passes : Nat) :
    expand start source passes = .ok (ruleSet.derive passes start) := by
  have nonnegative : ¬ (passes : Int) < 0 := by omega
  unfold expand passesOf
  simp only [nonnegative, if_false, rules]
  rfl

end Arboretum

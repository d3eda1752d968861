import Arboretum.Proofs.Text.Plain
import Arboretum.Proofs.Tree.Extent

/-!
The choice of a rule set. Rules that are given or named are not looked for in the environment;
otherwise two of its entries decide, and the one for the strategy has a usual text that
depends on the other. What comes of every two texts is one of four cases, and the empty name
is not looked up in any of them.
-/

namespace Arboretum

open Arboretum.Configuration

set_option autoImplicit false

/-! Names. -/

/-- The outcome of looking a name up whose plain text is `key`. -/
def IsFound (name key : String) (outcome : Except Fault RuleSet) : Prop :=
  (∃ ruleSet ∈ builtInRuleSets, ruleSet.name = key ∧ outcome = .ok ruleSet) ∨
    (∀ ruleSet ∈ builtInRuleSets, ruleSet.name ≠ key) ∧
      outcome = .error (.unknownRuleSet name ["bushy", "fern", "lattice", "spiral"])

theorem built_in_names : builtInRuleSets.map RuleSet.name =
    ["bushy", "fern", "lattice", "spiral"] := rfl

theorem name_is_found (name : String) : IsFound name (plain name) (ruleSetNamed name) := by
  unfold ruleSetNamed IsFound plain
  dsimp only
  split
  · rename_i ruleSet found
    have same := List.find?_some found
    exact .inl ⟨ruleSet, List.mem_of_find?_eq_some found, eq_of_beq same, rfl⟩
  · rename_i missing
    refine .inr ⟨fun ruleSet member same => ?_, by rw [built_in_names]⟩
    exact List.find?_eq_none.mp missing ruleSet member (beq_iff_eq.mpr same)

/-- A configured name is made plain before it is looked up, and it is looked up as it is then. -/
theorem plain_name_is_found (text : String) :
    IsFound (plain text) (plain text) (ruleSetNamed (plain text)) := by
  have found := name_is_found (plain text)
  rw [plain_plain] at found
  exact found

namespace Configuration

variable {environment : Environment} {text : String}

/-- A text that names no rule set. -/
def IsBlank (text : String) : Prop := ∀ symbol ∈ text.toList, Text.isBlank symbol = true

/-- No rule set is named: the entry is not set, or there are only blanks in it. -/
def NamesNone (environment : Environment) : Prop :=
  ∀ text, environment.text? "CANOPY_RULE_SET" = some text → IsBlank text

theorem rule_set_name_of_text (set : environment.text? "CANOPY_RULE_SET" = some text)
    (named : ¬ IsBlank text) : ruleSetName environment = some (plain text) := by
  have nonempty : plain text ≠ "" := fun empty => named ((plain_eq_empty_iff text).mp empty)
  simp [ruleSetName, set, nonempty]

theorem rule_set_name_of_none (nameless : NamesNone environment) :
    ruleSetName environment = none := by
  unfold ruleSetName
  cases set : environment.text? "CANOPY_RULE_SET" with
  | none => rfl
  | some text =>
      have empty := (plain_eq_empty_iff text).mpr (nameless text set)
      simp [empty]

theorem names_none_or_one (environment : Environment) :
    NamesNone environment ∨
      ∃ text, environment.text? "CANOPY_RULE_SET" = some text ∧ ¬ IsBlank text := by
  by_cases nameless : NamesNone environment
  · exact .inl nameless
  · unfold NamesNone at nameless
    push Not at nameless
    exact .inr nameless

/-! Strategies. -/

/-- The entry for the strategy asks for it. Where it is not set, the other entry does,
by naming a rule set or none. -/
def AsksFor (environment : Environment) (strategy : Strategy) : Prop :=
  match environment.text? "CANOPY_RULE_SET_STRATEGY" with
  | some text => plain text = strategy.text
  | none =>
      match strategy with
      | .byScore => NamesNone environment
      | .fixed => ¬ NamesNone environment

def usualStrategy (environment : Environment) : Strategy :=
  if (ruleSetName environment).isSome then .fixed else .byScore

def strategyText (environment : Environment) : String :=
  plain ((environment.text? "CANOPY_RULE_SET_STRATEGY").getD (usualStrategy environment).text)

theorem strategy_eq (environment : Environment) :
    strategy environment =
      if strategyText environment = Strategy.byScore.text then .ok .byScore
      else if strategyText environment = Strategy.fixed.text then
        if (ruleSetName environment).isNone then .error .strategyWithoutRuleSet else .ok .fixed
      else .error .unknownStrategy := rfl

theorem strategy_text_injective {strategy other : Strategy} (same : strategy.text = other.text) :
    strategy = other := by
  cases strategy <;> cases other <;> first | rfl | exact absurd same (by decide)

theorem plain_strategy_text (strategy : Strategy) : plain strategy.text = strategy.text := by
  cases strategy <;> decide +kernel

theorem asks_for_iff (environment : Environment) (strategy : Strategy) :
    AsksFor environment strategy ↔ strategyText environment = strategy.text := by
  unfold AsksFor strategyText usualStrategy
  cases environment.text? "CANOPY_RULE_SET_STRATEGY" with
  | some text => rfl
  | none =>
      rw [Option.getD_none, plain_strategy_text]
      rcases names_none_or_one environment with nameless | ⟨text, set, named⟩
      · rw [rule_set_name_of_none nameless]
        cases strategy <;> simp [nameless, Strategy.text]
      · have one : ¬ NamesNone environment := fun nameless => named (nameless text set)
        rw [rule_set_name_of_text set named]
        cases strategy <;> simp [one, Strategy.text]

theorem asks_for_one {strategy other : Strategy} (asks : AsksFor environment strategy)
    (asksOther : AsksFor environment other) : strategy = other := by
  rw [asks_for_iff] at asks asksOther
  exact strategy_text_injective (asks.symm.trans asksOther)

theorem strategy_by_score (asks : AsksFor environment .byScore) :
    strategy environment = .ok .byScore := by
  rw [strategy_eq, if_pos ((asks_for_iff ..).mp asks)]

theorem strategy_fixed (asks : AsksFor environment .fixed) :
    strategy environment =
      if (ruleSetName environment).isNone then .error .strategyWithoutRuleSet else .ok .fixed := by
  have other : strategyText environment ≠ Strategy.byScore.text := by
    intro same
    cases asks_for_one asks ((asks_for_iff ..).mpr same)
  rw [strategy_eq, if_neg other, if_pos ((asks_for_iff ..).mp asks)]

theorem strategy_unknown (asks : ∀ strategy, ¬ AsksFor environment strategy) :
    strategy environment = .error .unknownStrategy := by
  have neither (strategy : Strategy) : strategyText environment ≠ strategy.text :=
    fun same => asks strategy ((asks_for_iff ..).mpr same)
  rw [strategy_eq, if_neg (neither .byScore), if_neg (neither .fixed)]

theorem strategy_by_score_iff (environment : Environment) :
    strategy environment = .ok .byScore ↔ AsksFor environment .byScore := by
  refine ⟨fun found => ?_, strategy_by_score⟩
  rw [strategy_eq] at found
  split at found
  · rename_i same
    exact (asks_for_iff ..).mpr same
  · split at found
    · split at found
      · cases found
      · cases found
    · cases found

theorem strategy_fixed_iff (environment : Environment) :
    strategy environment = .ok .fixed ↔ AsksFor environment .fixed ∧ ¬ NamesNone environment := by
  constructor
  · intro found
    rw [strategy_eq] at found
    split at found
    · cases found
    · split at found
      · rename_i same
        refine ⟨(asks_for_iff ..).mpr same, fun nameless => ?_⟩
        rw [rule_set_name_of_none nameless] at found
        cases found
      · cases found
  · rintro ⟨asks, one⟩
    rcases names_none_or_one environment with nameless | ⟨text, set, named⟩
    · exact absurd nameless one
    · rw [strategy_fixed asks, rule_set_name_of_text set named]
      rfl

/-- Where the strategy is to take the rule set by its name, there is a name. -/
theorem fixed_names_one (fixed : strategy environment = .ok .fixed) :
    ∃ name, ruleSetName environment = some name ∧ name ≠ "" := by
  obtain ⟨_, one⟩ := (strategy_fixed_iff environment).mp fixed
  rcases names_none_or_one environment with nameless | ⟨text, set, named⟩
  · exact absurd nameless one
  · refine ⟨plain text, rule_set_name_of_text set named, fun empty => ?_⟩
    exact named ((plain_eq_empty_iff text).mp empty)

end Configuration

namespace RuleSetChoice

/-- What two entries of the environment make of a score. -/
structure Configured (environment : Environment) (score : RawScore)
    (outcome : Except Fault RuleSet) :
    Prop where
  by_score : AsksFor environment .byScore → outcome = score.sanitized.map ruleSetForScore
  fixed : AsksFor environment .fixed → ∀ text, environment.text? "CANOPY_RULE_SET" = some text →
    ¬ IsBlank text → outcome = ruleSetNamed (plain text) ∧ IsFound (plain text) (plain text) outcome
  nameless : AsksFor environment .fixed → NamesNone environment →
    outcome = .error .strategyWithoutRuleSet
  unknown : (∀ strategy, ¬ AsksFor environment strategy) → outcome = .error .unknownStrategy

/-- What a strategy that was read makes of a score. -/
def chosenBy (environment : Environment) (score : RawScore) : Strategy → Except Fault RuleSet
  | .fixed => ruleSetNamed ((ruleSetName environment).getD "")
  | .byScore => score.sanitized.map ruleSetForScore

theorem resolve_configured_eq (environment : Environment) (score : RawScore) :
    configured.resolve environment score =
      Configuration.strategy environment >>= chosenBy environment score := by
  rw [RuleSetChoice.resolve]
  congr 1

theorem configured_of_strategy {environment : Environment} {strategy : Strategy} (score : RawScore)
    (found : Configuration.strategy environment = .ok strategy) :
    configured.resolve environment score = chosenBy environment score strategy := by
  rw [resolve_configured_eq, found]
  rfl

theorem configured_of_fault {environment : Environment} {fault : Fault} (score : RawScore)
    (failed : Configuration.strategy environment = .error fault) :
    configured.resolve environment score = .error fault := by
  rw [resolve_configured_eq, failed]
  rfl

theorem configured_is_resolved (environment : Environment) (score : RawScore) :
    Configured environment score (configured.resolve environment score) := by
  constructor
  · intro asks
    rw [configured_of_strategy score (strategy_by_score asks), chosenBy]
  · intro asks text set named
    have found : Configuration.strategy environment = .ok .fixed :=
      (strategy_fixed_iff environment).mpr ⟨asks, fun nameless => named (nameless text set)⟩
    rw [configured_of_strategy score found, chosenBy, rule_set_name_of_text set named,
      Option.getD_some]
    exact ⟨rfl, plain_name_is_found text⟩
  · intro asks nameless
    refine configured_of_fault score ?_
    rw [strategy_fixed asks, rule_set_name_of_none nameless]
    rfl
  · intro asks
    exact configured_of_fault score (strategy_unknown asks)

theorem resolved_is_given_or_built_in {choice : RuleSetChoice} {environment : Environment}
    {score : RawScore} {ruleSet : RuleSet}
    (resolved : choice.resolve environment score = .ok ruleSet) :
    choice = .given ruleSet ∨ ruleSet ∈ builtInRuleSets := by
  cases choice with
  | given other =>
      cases resolved
      exact .inl rfl
  | named name =>
      change ruleSetNamed name = .ok ruleSet at resolved
      exact .inr (RuleSet.named_is_built_in resolved)
  | configured =>
      rw [resolve_configured_eq, Fallible.bind_eq_ok] at resolved
      obtain ⟨strategy, _, found⟩ := resolved
      cases strategy with
      | fixed =>
          rw [chosenBy] at found
          exact .inr (RuleSet.named_is_built_in found)
      | byScore =>
          rw [chosenBy] at found
          cases reads : score.sanitized with
          | error fault =>
              rw [reads] at found
              cases found
          | ok value =>
              rw [reads] at found
              exact .inr (Except.ok.inj found ▸ RuleSet.of_score_is_built_in value)

/-- However a rule set is chosen: one that is given is taken as it is; a name is
looked up, and so is the configured one unless the score is to decide; and every rule
set that was not given is built in. -/
theorem rule_sets_are_resolved_as_chosen (environment : Environment) (score : RawScore) :
    (∀ ruleSet, (given ruleSet).resolve environment score = .ok ruleSet) ∧
      (∀ name, (named name).resolve environment score = ruleSetNamed name ∧
        IsFound name (plain name) (ruleSetNamed name)) ∧
      (Configuration.strategy environment = .ok .byScore ↔ AsksFor environment .byScore) ∧
      (Configuration.strategy environment = .ok .fixed ↔
        AsksFor environment .fixed ∧ ¬ NamesNone environment) ∧
      Configured environment score (configured.resolve environment score) ∧
      (Configuration.strategy environment = .ok .fixed →
        ∃ name, ruleSetName environment = some name ∧ name ≠ "") ∧
      ∀ (choice : RuleSetChoice) ruleSet, choice.resolve environment score = .ok ruleSet →
        choice = .given ruleSet ∨ ruleSet ∈ builtInRuleSets := by
  refine ⟨fun _ => rfl, fun name => ⟨rfl, name_is_found name⟩, strategy_by_score_iff environment,
    strategy_fixed_iff environment, configured_is_resolved environment score, fixed_names_one, ?_⟩
  intro choice ruleSet resolved
  exact resolved_is_given_or_built_in resolved

/-- A name with blanks around it, a strategy in capitals that sets it aside, and one that needs a
name where there are only blanks. -/
theorem padded_fern_is_resolved :
    let padded : Environment := ⟨[("CANOPY_RULE_SET", "  Fern\n")]⟩
    let setAside : Environment :=
      ⟨[("CANOPY_RULE_SET", "  Fern\n"), ("CANOPY_RULE_SET_STRATEGY", "\tSCORE ")]⟩
    let nameless : Environment :=
      ⟨[("CANOPY_RULE_SET", " \t"), ("CANOPY_RULE_SET_STRATEGY", "fixed")]⟩
    configured.resolve padded .other = ruleSetNamed "fern" ∧
      configured.resolve setAside .other = .ok (ruleSetForScore 0.0) ∧
      configured.resolve nameless .other = .error .strategyWithoutRuleSet := by
  intro padded setAside nameless
  have fern : plain "  Fern\n" = "fern" := by decide +kernel
  have named : ¬ IsBlank "  Fern\n" := by
    rw [IsBlank, ← plain_eq_empty_iff, fern]
    decide
  have blank : IsBlank " \t" := (plain_eq_empty_iff _).mp (by decide +kernel)
  obtain ⟨_, _, _, _, chosen, _, _⟩ := rule_sets_are_resolved_as_chosen padded .other
  obtain ⟨_, _, _, _, other, _, _⟩ := rule_sets_are_resolved_as_chosen setAside .other
  obtain ⟨_, _, _, _, refused, _, _⟩ := rule_sets_are_resolved_as_chosen nameless .other
  refine ⟨?_, other.by_score (by decide +kernel : plain "\tSCORE " = "score"), ?_⟩
  · obtain ⟨resolved, _⟩ := chosen.fixed (fun unnamed => named (unnamed _ rfl)) _ rfl named
    rwa [fern] at resolved
  · refine refused.nameless (by decide +kernel : plain "fixed" = "fixed") ?_
    intro text set
    cases set
    exact blank

end RuleSetChoice

end Arboretum

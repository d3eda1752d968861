import Arboretum.Proofs.Tree.Levels

/-!
Whether the turtle ever closes a bracket that it has not opened. It does not along a nested word,
and along no other word does it close all that it opens and nothing else. A balanced rule set makes
a nested word of every symbol that has a rule, so its words are nested where it has rules for both
brackets or for neither. A rule for one of them alone takes the brackets of that kind away and
spares those of the other kind, which the turtle then meets without their counterparts.
-/

namespace Arboretum

open Fallible

set_option autoImplicit false

namespace Word

/-- Where a bracket is open before each closing one, the depth can be followed. -/
theorem closing_depth_of_open {word : Word}
    (opened : ∀ front back : Word, word = front ++ ']' :: back → depth front ≠ 0) :
    closingDepth? 0 word = some word.depth := by
  induction word using List.reverseRecOn with
  | nil => rfl
  | append_singleton front symbol induction =>
      have followed : closingDepth? 0 front = some (depth front) := by
        apply induction
        rintro before after rfl
        apply opened before (after ++ [symbol])
        simp only [List.append_assoc, List.cons_append]
      rw [closing_depth_append, followed, Option.bind_some, depth_append_symbol]
      by_cases opening : symbol = '['
      · subst opening
        rfl
      by_cases closing : symbol = ']'
      · subst closing
        obtain ⟨level, deep⟩ := Nat.exists_eq_succ_of_ne_zero (opened front [] rfl)
        rw [deep]
        rfl
      · rw [closing_depth_plain _ _ opening closing, depth_after_plain _ opening closing]
        rfl

theorem nested_iff_open (word : Word) :
    word.ProperlyNested ↔
      (∀ front back : Word, word = front ++ ']' :: back → front.depth ≠ 0) ∧ word.depth = 0 := by
  rw [← is_nested_iff, nested_iff_closing]
  constructor
  · intro followed
    refine ⟨?_, depth_from_of_closing followed⟩
    rintro front back rfl nothing
    rw [closing_depth_append] at followed
    obtain ⟨reached, early, late⟩ := Option.bind_eq_some_iff.mp followed
    have same : reached = 0 := (depth_from_of_closing early).symm.trans nothing
    rw [same, closing_depth_close_zero] at late
    cases late
  · rintro ⟨opened, closed⟩
    rw [closing_depth_of_open opened, closed]

end Word

namespace RuleSet

/-- Brackets of one kind have a rule, and those of the other kind have none. -/
structure RulesOneBracket (ruleSet : RuleSet) (ruled spared : Char) : Prop where
  brackets : ruled = '[' ∧ spared = ']' ∨ ruled = ']' ∧ spared = '['
  has_rule : (ruleSet.rules.find? ruled).isSome = true
  has_none : ruleSet.rules.find? spared = none

def HasRule (ruleSet : RuleSet) (symbol : Char) : Prop :=
  (ruleSet.rules.find? symbol).isSome = true

theorem brackets_ruled_cases (ruleSet : RuleSet) :
    ruleSet.LeavesBrackets ∨ ruleSet.HasRule '[' ∧ ruleSet.HasRule ']' ∨
      ∃ ruled spared, ruleSet.RulesOneBracket ruled spared := by
  cases opening : ruleSet.rules.find? '[' with
  | none =>
      cases closing : ruleSet.rules.find? ']' with
      | none => exact .inl ⟨opening, closing⟩
      | some word =>
          exact .inr (.inr ⟨']', '[', .inr ⟨rfl, rfl⟩, by rw [closing]; rfl, opening⟩)
  | some word =>
      cases closing : ruleSet.rules.find? ']' with
      | none => exact .inr (.inr ⟨'[', ']', .inl ⟨rfl, rfl⟩, by rw [opening]; rfl, closing⟩)
      | some other =>
          exact .inr (.inl ⟨by rw [HasRule, opening]; rfl, by rw [HasRule, closing]; rfl⟩)

section Balanced

variable {ruleSet : RuleSet} (balanced : ruleSet.isBracketBalanced = true)

include balanced

/-- What has a rule becomes a nested word, and so does what is no bracket. -/
theorem replacement_nested {symbol : Char}
    (closed : ruleSet.HasRule symbol ∨ symbol ≠ '[' ∧ symbol ≠ ']') :
    (ruleSet.replacement symbol).isNested = true := by
  cases rule : ruleSet.rules.find? symbol with
  | none =>
      rw [replacement_eq_of_none rule]
      rcases closed with hasRule | ⟨unopening, unclosing⟩
      · rw [HasRule, rule] at hasRule
        cases hasRule
      · exact Word.nested_plain unopening unclosing
  | some word =>
      rw [replacement_eq_of_some rule]
      exact List.all_eq_true.mp balanced _ (Entries.mem_of_find rule)

theorem substitute_nested {word : Word}
    (closed : ∀ symbol ∈ word, ruleSet.HasRule symbol ∨ symbol ≠ '[' ∧ symbol ≠ ']') :
    (ruleSet.substitute word).isNested = true := by
  induction word with
  | nil => exact Word.nested_nil
  | cons symbol word induction =>
      obtain ⟨here, later⟩ := List.forall_mem_cons.mp closed
      rw [substitute_cons]
      exact Word.nested_append (replacement_nested balanced here) (induction later)

section OneBracket

variable {ruled spared : Char} (one : ruleSet.RulesOneBracket ruled spared)

include one

omit balanced in
theorem closed_of_not_spared {symbol : Char} (other : symbol ≠ spared) :
    ruleSet.HasRule symbol ∨ symbol ≠ '[' ∧ symbol ≠ ']' := by
  by_cases isRuled : symbol = ruled
  · exact .inl (isRuled ▸ one.has_rule)
  · rcases one.brackets with ⟨rfl, rfl⟩ | ⟨rfl, rfl⟩
    · exact .inr ⟨isRuled, other⟩
    · exact .inr ⟨other, isRuled⟩

/-- After a pass there are more brackets of the spared kind by those that there were before it. -/
theorem spared_count_substitute (word : Word) :
    (ruleSet.substitute word).count spared =
      (ruleSet.substitute word).count ruled + word.count spared := by
  have even {nested : Word} (isNested : nested.isNested = true) :
      nested.count spared = nested.count ruled := by
    have totals := ((Word.is_nested_iff nested).mp isNested).totals
    rcases one.brackets with ⟨rfl, rfl⟩ | ⟨rfl, rfl⟩
    · exact totals.symm
    · exact totals
  have apart : spared ≠ ruled := by
    rcases one.brackets with ⟨rfl, rfl⟩ | ⟨rfl, rfl⟩
    · decide
    · decide
  induction word with
  | nil => rfl
  | cons symbol word induction =>
      rw [substitute_cons, List.count_append, List.count_append, induction]
      by_cases isSpared : symbol = spared
      · subst isSpared
        rw [replacement_eq_of_none one.has_none, List.count_cons_self, List.count_cons_self,
          List.count_cons_of_ne apart, List.count_nil, List.count_nil]
        omega
      · rw [even (replacement_nested balanced (closed_of_not_spared one isSpared)),
          List.count_cons_of_ne isSpared]
        omega

/-- A pass makes a nested word exactly of those words in which there is nothing to spare. -/
theorem substitute_nested_iff (word : Word) :
    (ruleSet.substitute word).ProperlyNested ↔ spared ∉ word := by
  constructor
  · intro nested member
    have counted := spared_count_substitute balanced one word
    have occurs : 0 < word.count spared := List.count_pos_iff.mpr member
    have totals := nested.totals
    rcases one.brackets with ⟨rfl, rfl⟩ | ⟨rfl, rfl⟩
    · omega
    · omega
  · intro nothing
    rw [← Word.is_nested_iff]
    apply substitute_nested balanced
    intro symbol member
    exact closed_of_not_spared one (fun same => nothing (same ▸ member))

end OneBracket

/-- The words that are grown from a bud are nested, but for those made by a pass
that spared a bracket. -/
theorem derive_nested_iff (passes : Nat) :
    (ruleSet.derive passes Word.bud).ProperlyNested ↔
      ∀ ruled spared, ruleSet.RulesOneBracket ruled spared →
        spared ∉ ruleSet.derive (passes - 1) Word.bud := by
  have budNested : Word.bud.isNested = true := by decide
  cases passes with
  | zero =>
      constructor
      · rintro _ ruled spared one
        change spared ∉ Word.bud
        rcases one.brackets with ⟨_, rfl⟩ | ⟨_, rfl⟩
        · decide
        · decide
      · intro _
        exact (Word.is_nested_iff _).mp budNested
  | succ passes =>
      rw [Nat.add_sub_cancel]
      constructor
      · intro nested ruled spared one
        rw [derive_last] at nested
        exact (substitute_nested_iff balanced one _).mp nested
      · intro nothing
        rcases ruleSet.brackets_ruled_cases with leaves | ⟨opening, closing⟩ | ⟨ruled, spared, one⟩
        · rw [← Word.is_nested_iff, Word.nested_iff_closing, closing_depth_derive leaves balanced]
          exact (Word.nested_iff_closing _).mp budNested
        · rw [derive_last, ← Word.is_nested_iff]
          apply substitute_nested balanced
          intro symbol _
          by_cases isOpening : symbol = '['
          · exact .inl (isOpening ▸ opening)
          by_cases isClosing : symbol = ']'
          · exact .inl (isClosing ▸ closing)
          · exact .inr ⟨isOpening, isClosing⟩
        · rw [derive_last]
          exact (substitute_nested_iff balanced one _).mpr (nothing ruled spared one)

end Balanced

end RuleSet

namespace Walk

variable {σ α : Type} [Scalar α] [ChanceSource σ α]

/-- A walk along a word, as the source of chance decides on it, has a saved turtle at each closing
bracket that it comes to, and none when the word ends. -/
structure ClosesWhatItOpens (parameters : GrowthParameters α) (surface : Surface α)
    (jitter : JitterBands α) (word : Word) (source : σ) : Prop where
  saved : ∀ front back, word = front ++ ']' :: back → ∀ walk later,
    (along parameters jitter front (initial parameters surface)).run source = (.ok walk, later) →
      walk.saved ≠ []
  nothing_left : ∀ last later,
    (along parameters jitter word (initial parameters surface)).run source = (.ok last, later) →
      last.saved = []

section Closing

variable {parameters : GrowthParameters α} {surface : Surface α} {jitter : JitterBands α}
  {word : Word} {source : σ}

theorem saved_length_of_returned {walk : Walk α} {later : σ}
    (returned : (along parameters jitter word (initial parameters surface)).run source =
      (.ok walk, later)) : walk.saved.length = word.depth :=
  strides_saved_length (strides_of_returned returned)

theorem closes_of_nested (nested : word.ProperlyNested) :
    ClosesWhatItOpens parameters surface jitter word source := by
  obtain ⟨opened, closed⟩ := (Word.nested_iff_open word).mp nested
  constructor
  · intro front back split walk later returned nothing
    apply opened front back split
    rw [← saved_length_of_returned returned, nothing]
    rfl
  · intro last later returned
    apply List.eq_nil_of_length_eq_zero
    rw [saved_length_of_returned returned, closed]

/-- A walk that comes to the end of its word closes what it opens only if the word is nested. -/
theorem nested_of_closes {last : Walk α} {later : σ}
    (returned : (along parameters jitter word (initial parameters surface)).run source =
      (.ok last, later))
    (closes : ClosesWhatItOpens parameters surface jitter word source) : word.ProperlyNested := by
  rw [Word.nested_iff_open]
  constructor
  · rintro front back rfl level
    obtain ⟨walk, middle, early, _⟩ := (along_append_returned ..).mp returned
    apply closes.saved front back rfl walk middle early
    apply List.eq_nil_of_length_eq_zero
    rw [saved_length_of_returned early, level]
  · rw [← saved_length_of_returned returned, closes.nothing_left last later returned]
    rfl

end Closing

end Walk

/-- The turtle of a tree whose rules are balanced closes what it opens and nothing else, whatever
the score and the chance, unless the rules cover one kind of bracket alone and their last pass meets
a bracket of the other kind. Then it does not, if it comes to the end of its word at all. -/
theorem turtle_closes_what_it_opens_unless_brackets_are_spared {σ : Type} [ChanceSource σ Float]
    (environment : Environment) (request : TreeRequest) (plan : GrowthPlan) (source : σ)
    (planned : request.plan environment = .ok plan)
    (balanced : plan.ruleSet.isBracketBalanced = true) :
    let parameters := GrowthParameters.ofScore plan.score plan.surface.sizeScale
    let word := plan.ruleSet.derive parameters.iterationCount Word.bud
    let closes := Walk.ClosesWhatItOpens parameters plan.surface request.jitter word source
    let spares := ∃ ruled spared, plan.ruleSet.RulesOneBracket ruled spared ∧
      spared ∈ plan.ruleSet.derive (parameters.iterationCount - 1) Word.bud
    (¬ spares → closes) ∧
      (∀ last later,
        (Walk.along parameters request.jitter word (.initial parameters plan.surface)).run source =
          (.ok last, later) → (closes ↔ ¬ spares)) ∧
      ∀ tree, (request.growthFrom environment source).outcome = .ok tree →
        (closes ↔ ¬ spares) ∧ tree.parameters = parameters ∧ tree.ruleSet = plan.ruleSet := by
  intro parameters word closes spares
  have nestedIff : word.ProperlyNested ↔ ¬ spares := by
    rw [RuleSet.derive_nested_iff balanced]
    simp only [spares, not_exists, not_and, parameters]
  have keeps : ¬ spares → closes := fun keeps => Walk.closes_of_nested (nestedIff.mpr keeps)
  have whole {last : Walk Float} {later : σ}
      (returned : (Walk.along parameters request.jitter word (.initial parameters plan.surface)).run
        source = (.ok last, later)) : closes ↔ ¬ spares :=
    ⟨fun isClosed => nestedIff.mp (Walk.nested_of_closes returned isClosed), keeps⟩
  refine ⟨keeps, fun last later returned => whole returned, ?_⟩
  intro tree grew
  obtain ⟨samePlan, plannedToo, sameRules, sameParameters, drawn, middle, drew, _⟩ :=
    Tree.growth_returned grew
  cases planned.symm.trans plannedToo
  rw [sameParameters] at drew
  obtain ⟨last, returned, _⟩ := Walk.interpret_returned.mp drew
  exact ⟨whole returned, sameParameters, sameRules⟩

/-! A rule for opening brackets alone, which takes them away. -/

def trimmedRules : RuleSet := ⟨"custom", [('X', "[X]".toList), ('[', [])]⟩

def trimmedTree : TreeRequest :=
  ⟨.real 10.0, .ofValues [0.25, 0.5], some ⟨600.0, 600.0⟩, .given trimmedRules, .usual⟩

def trimmedPlan : GrowthPlan := ⟨10.0, ⟨600.0, 600.0⟩, trimmedRules⟩

def fernPlan : GrowthPlan := ⟨20.0, ⟨300.0, 600.0⟩, fernRules⟩

/-- The rules are balanced, and in two passes they grow a word that opens once and closes twice. -/
theorem trimmed_tree_closes_what_it_has_not_opened :
    ¬ ∀ (environment : Environment) (request : TreeRequest) (plan : GrowthPlan)
      (source : Chance.Source), request.plan environment = .ok plan →
        plan.ruleSet.isBracketBalanced = true →
          let parameters := GrowthParameters.ofScore plan.score plan.surface.sizeScale
          Walk.ClosesWhatItOpens parameters plan.surface request.jitter
            (plan.ruleSet.derive parameters.iterationCount Word.bud) source := by
  intro always
  let parameters := GrowthParameters.ofScore trimmedPlan.score trimmedPlan.surface.sizeScale
  have closes := always ⟨[]⟩ trimmedTree trimmedPlan trimmedTree.source rfl (by decide)
  have word : trimmedRules.derive parameters.iterationCount Word.bud =
      "[X]".toList ++ ']' :: [] := by
    decide +kernel
  obtain ⟨walk, later, returned⟩ : ∃ walk later,
      (Walk.along parameters JitterBands.usual "[X]".toList
        (.initial parameters trimmedPlan.surface)).run trimmedTree.source = (.ok walk, later) := by
    apply returned_of_is_ok
    decide +kernel
  apply closes.saved _ _ word walk later returned
  apply List.eq_nil_of_length_eq_zero
  rw [Walk.saved_length_of_returned returned]
  decide

theorem fern_closes_what_it_opens_and_trimmed_tree_does_not :
    (∃ tree, (smallFern.growth ⟨[]⟩).outcome = .ok tree ∧
      Walk.ClosesWhatItOpens tree.parameters fernPlan.surface smallFern.jitter
        (tree.ruleSet.derive tree.parameters.iterationCount Word.bud) smallFern.source) ∧
    RuleSet.ofTexts "custom" [("X", "[X]"), ("[", "")] = .ok trimmedRules ∧
    ∃ tree, (trimmedTree.growth ⟨[]⟩).outcome = .ok tree ∧
      ¬ Walk.ClosesWhatItOpens tree.parameters trimmedPlan.surface trimmedTree.jitter
        (tree.ruleSet.derive tree.parameters.iterationCount Word.bud) trimmedTree.source := by
  refine ⟨?_, rfl, ?_⟩
  · obtain ⟨tree, grew⟩ := ok_of_is_ok
      (show (smallFern.growth ⟨[]⟩).outcome.isOk = true by decide +kernel)
    obtain ⟨kept, _, grown⟩ := turtle_closes_what_it_opens_unless_brackets_are_spared ⟨[]⟩ smallFern
      fernPlan smallFern.source rfl (by decide)
    obtain ⟨_, sameParameters, sameRules⟩ := grown tree grew
    refine ⟨tree, grew, ?_⟩
    rw [sameParameters, sameRules]
    apply kept
    rintro ⟨ruled, spared, one, _⟩
    have missing := one.has_rule
    rcases one.brackets with ⟨rfl, _⟩ | ⟨rfl, _⟩
    · cases missing
    · cases missing
  · obtain ⟨tree, grew⟩ := ok_of_is_ok
      (show (trimmedTree.growth ⟨[]⟩).outcome.isOk = true by decide +kernel)
    obtain ⟨_, _, grown⟩ := turtle_closes_what_it_opens_unless_brackets_are_spared ⟨[]⟩ trimmedTree
      trimmedPlan trimmedTree.source rfl (by decide)
    obtain ⟨closesIff, sameParameters, sameRules⟩ := grown tree grew
    refine ⟨tree, grew, ?_⟩
    rw [sameParameters, sameRules, closesIff, not_not]
    exact ⟨'[', ']', ⟨.inl ⟨rfl, rfl⟩, rfl, rfl⟩, by decide +kernel⟩

end Arboretum

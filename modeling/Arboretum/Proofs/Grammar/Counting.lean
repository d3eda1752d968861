import Arboretum.Proofs.Grammar.Rules

/-!
Counting symbols instead of writing them. A pass replaces all symbols of a word at once, so what
comes of a word only depends on how often each symbol occurs in it. Let every symbol have a worth: a
tally and a word are worth as much as their symbols together, and a tally counts a word when the two
are worth the same whatever the symbols are worth. A pass keeps that, because what a symbol is worth
after the pass is what its replacement is worth before it.
-/

namespace Arboretum

set_option autoImplicit false

namespace Word

def worth (price : Char → Nat) (word : Word) : Nat :=
  word.foldr (fun symbol sum => price symbol + sum) 0

theorem worth_cons (price : Char → Nat) (symbol : Char) (word : Word) :
    worth price (symbol :: word) = price symbol + worth price word := rfl

theorem worth_append (price : Char → Nat) (front back : Word) :
    worth price (front ++ back) = worth price front + worth price back := by
  induction front with
  | nil => simp [worth]
  | cons symbol front induction =>
      simp only [List.cons_append, worth_cons, induction]
      omega

theorem worth_one (word : Word) : worth (fun _ => 1) word = word.length := by
  induction word with
  | nil => rfl
  | cons symbol word induction =>
      rw [worth_cons, induction, List.length_cons]
      omega

end Word

theorem RuleSet.worth_substitute (ruleSet : RuleSet) (price : Char → Nat) (word : Word) :
    (ruleSet.substitute word).worth price =
      word.worth fun symbol => (ruleSet.replacement symbol).worth price := by
  induction word with
  | nil => rfl
  | cons symbol word induction =>
      rw [RuleSet.substitute_cons, Word.worth_append, induction, Word.worth_cons]

namespace Tally

def worth (price : Char → Nat) (tally : Tally) : Nat :=
  tally.foldr (fun entry sum => entry.2 * price entry.1 + sum) 0

theorem worth_cons (price : Char → Nat) (entry : Char × Nat) (tally : Tally) :
    worth price (entry :: tally) = entry.2 * price entry.1 + worth price tally := rfl

/-- The entry that is put takes the place of the one that would have been found. -/
theorem worth_put (price : Char → Nat) (symbol : Char) (count : Nat) (tally : Tally) :
    worth price (Entries.put symbol count tally) +
        ((Entries.find? symbol tally).getD 0) * price symbol =
      worth price tally + count * price symbol := by
  induction tally with
  | nil => simp [Entries.put, Entries.find?, worth]
  | cons entry tally induction =>
      obtain ⟨other, old⟩ := entry
      by_cases same : other = symbol
      · subst other
        simp only [Entries.put, Entries.find?, if_true, worth_cons, Option.getD_some]
        omega
      · simp only [Entries.put, Entries.find?, same, if_false, worth_cons]
        omega

theorem worth_add (price : Char → Nat) (symbol : Char) (count : Nat) (tally : Tally) :
    worth price (tally.add symbol count) = worth price tally + count * price symbol := by
  have put := worth_put price symbol ((tally.find? symbol).getD 0 + count) tally
  rw [Nat.add_mul] at put
  unfold add
  omega

theorem worth_add_word (price : Char → Nat) (word : Word) (count : Nat) (tally : Tally) :
    worth price (addWord word count tally) = worth price tally + count * word.worth price := by
  induction word generalizing tally with
  | nil => simp [addWord, Word.worth]
  | cons symbol word induction =>
      have further := induction (tally.add symbol count)
      rw [worth_add] at further
      rw [Word.worth_cons, Nat.mul_add, ← Nat.add_assoc, ← further]
      rfl

theorem worth_substitute (ruleSet : RuleSet) (price : Char → Nat) (tally : Tally) :
    worth price (substitute ruleSet tally) =
      worth (fun symbol => (ruleSet.replacement symbol).worth price) tally := by
  have onto : ∀ next : Tally,
      worth price (tally.foldl
        (fun next entry => addWord (ruleSet.replacement entry.1) entry.2 next) next) =
      worth price next + worth (fun symbol => (ruleSet.replacement symbol).worth price) tally := by
    induction tally with
    | nil => simp [worth]
    | cons entry tally induction =>
        intro next
        rw [List.foldl_cons, induction, worth_add_word, worth_cons]
        omega
  have whole := onto []
  rw [show worth price [] = 0 from rfl, Nat.zero_add] at whole
  exact whole

theorem worth_one (tally : Tally) : worth (fun _ => 1) tally = tally.total := by
  simp [worth, total]

def Counts (tally : Tally) (word : Word) : Prop := ∀ price, worth price tally = word.worth price

theorem of_word_counts (word : Word) : (ofWord word).Counts word := by
  intro price
  have added := worth_add_word price word 1 []
  rw [show worth price [] = 0 from rfl, Nat.zero_add, Nat.one_mul] at added
  exact added

theorem substitute_counts (ruleSet : RuleSet) (tally : Tally) (word : Word)
    (counts : tally.Counts word) :
    (substitute ruleSet tally).Counts (ruleSet.substitute word) := by
  intro price
  rw [worth_substitute, RuleSet.worth_substitute]
  exact counts _

theorem derive_counts (ruleSet : RuleSet) (passes : Nat) (tally : Tally) (word : Word)
    (counts : tally.Counts word) :
    (derive ruleSet passes tally).Counts (ruleSet.derive passes word) := by
  induction passes generalizing tally word with
  | zero => exact counts
  | succ passes induction =>
      unfold derive RuleSet.derive
      exact induction _ _ (substitute_counts ruleSet tally word counts)

/-- A tally that counts a word knows its length. -/
theorem total_of_counts {tally : Tally} {word : Word} (counts : tally.Counts word) :
    tally.total = word.length := by
  rw [← worth_one, counts, Word.worth_one]

end Tally

/-- The length that is computed for an expansion is that of the expansion, for every source of rules
that is valid and every number of passes that is not negative; otherwise both are refused alike. -/
theorem expanded_length_is_length (start : Word) (source : RuleSource) (passes : Int) :
    (0 ≤ passes ∧ source.IsValid ∧ ∃ word, expand start source passes = .ok word ∧
        expandedLength start source passes = .ok word.length) ∨
      (¬ (0 ≤ passes ∧ source.IsValid) ∧ ∃ fault, fault.Refuses passes ∧
        expand start source passes = .error fault ∧
          expandedLength start source passes = .error fault) := by
  unfold expand expandedLength
  rcases passes_of_cases source passes with
    ⟨nonnegative, valid, ruleSet, there⟩ | ⟨unusable, fault, refuses, refused⟩
  · rw [there]
    refine .inl ⟨nonnegative, valid, ruleSet.derive passes.toNat start, rfl, ?_⟩
    have counts := Tally.derive_counts ruleSet passes.toNat _ start (Tally.of_word_counts start)
    rw [← Tally.total_of_counts counts]
    rfl
  · rw [refused]
    exact .inr ⟨unusable, fault, refuses, rfl, rfl⟩

end Arboretum

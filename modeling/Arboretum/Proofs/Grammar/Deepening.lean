import Arboretum.Proofs.Grammar.Depth
import Mathlib.Data.List.Infix
import Mathlib.Data.List.MinMax

/-!
How deep a word gets. A pass replaces a symbol by a word that is nested in itself, so along the
replacement the depth is that of the symbol and at most the greatest depth of the rules on top.
Hence each pass deepens a word by no more than that.
-/

namespace Arboretum

set_option autoImplicit false

namespace Word

/-- The most brackets that are open at once along a word. -/
def greatestDepth (word : Word) : Nat := (word.inits.map depth).foldr max 0

theorem depth_le_greatest {front word : Word} (start : front <+: word) :
    front.depth ≤ word.greatestDepth := by
  apply List.le_max_of_le' 0 _ (Nat.le_refl _)
  apply List.mem_map_of_mem
  exact (List.mem_inits front word).mpr start

/-- Along a word that is met at a depth, never more than `limit` brackets are open. -/
def StaysWithin (depth limit : Nat) (word : Word) : Prop :=
  ∀ front, front <+: word → depthFrom depth front ≤ limit

theorem stays_within_cons (depth limit : Nat) (symbol : Char) (rest : Word) :
    StaysWithin depth limit (symbol :: rest) ↔
      depth ≤ limit ∧ StaysWithin (depthAfter depth symbol) limit rest :=
  forall_prefix_cons symbol rest

theorem stays_within_append {depth limit : Nat} {front back : Word}
    (early : StaysWithin depth limit front)
    (late : StaysWithin (depthFrom depth front) limit back) :
    StaysWithin depth limit (front ++ back) := by
  rintro start ⟨after, split⟩
  rcases List.append_eq_append_iff.mp split with ⟨rest, rfl, _⟩ | ⟨rest, rfl, rfl⟩
  · exact early start (List.prefix_append ..)
  · rw [depth_from_append]
    exact late rest (List.prefix_append ..)

/-- Within a nested word the depth at which it is met only adds to its own. -/
theorem depth_from_prefix_of_nested {front word : Word} (nested : word.isNested = true)
    (start : front <+: word) (depth : Nat) : depthFrom depth front = depth + front.depth := by
  have proper := (is_nested_iff word).mp nested
  have followed (opened : Nat) :
      closingDepth? opened front = some (opened + (front.count '[' - front.count ']')) := by
    rw [closing_depth_iff]
    have opens := proper.prefixes front start
    refine ⟨?_, by omega⟩
    intro earlier before
    have bound := proper.prefixes earlier (before.trans start)
    omega
  have below := depth_from_of_closing (followed depth)
  have alone := depth_from_of_closing (followed 0)
  rw [Nat.zero_add] at alone
  rw [below, Word.depth, alone]

theorem nested_stays_within {word : Word} (nested : word.isNested = true) (depth : Nat) :
    StaysWithin depth (depth + word.greatestDepth) word := by
  intro front start
  rw [depth_from_prefix_of_nested nested start]
  exact Nat.add_le_add_left (depth_le_greatest start) depth

end Word

namespace RuleSet

/-- The greatest depth that a replacement has. -/
def greatestDepth (ruleSet : RuleSet) : Nat :=
  (ruleSet.rules.map fun rule => rule.2.greatestDepth).foldr max 0

theorem greatest_depth_of_rule {ruleSet : RuleSet} {symbol : Char} {word : Word}
    (rule : (symbol, word) ∈ ruleSet.rules) : word.greatestDepth ≤ ruleSet.greatestDepth := by
  apply List.le_max_of_le' 0 _ (Nat.le_refl _)
  exact List.mem_map_of_mem (f := fun rule => rule.2.greatestDepth) rule

section Deepening

variable {ruleSet : RuleSet} (leaves : ruleSet.LeavesBrackets)
  (balanced : ruleSet.isBracketBalanced = true)

include leaves balanced

/-- A replacement leads to the depth that its symbol leads to, and stays within what the
symbol allows and the rules add. -/
theorem replacement_stays_within {depth limit : Nat} (symbol : Char) (before : depth ≤ limit)
    (after : Word.depthAfter depth symbol ≤ limit) :
    Word.StaysWithin depth (limit + ruleSet.greatestDepth) (ruleSet.replacement symbol) ∧
      Word.depthFrom depth (ruleSet.replacement symbol) = Word.depthAfter depth symbol := by
  cases rule : ruleSet.rules.find? symbol with
  | none =>
      rw [replacement_eq_of_none rule]
      refine ⟨?_, rfl⟩
      rw [Word.stays_within_cons]
      refine ⟨Nat.le_add_right_of_le before, ?_⟩
      intro front start
      rw [List.prefix_nil.mp start]
      exact Nat.le_add_right_of_le after
  | some word =>
      have member := Entries.mem_of_find rule
      have nested : word.isNested = true := List.all_eq_true.mp balanced _ member
      obtain ⟨unopening, unclosing⟩ := plain_of_rule leaves member
      rw [replacement_eq_of_some rule, Word.depth_after_plain depth unopening unclosing]
      refine ⟨?_, Word.depth_from_nested nested depth⟩
      intro front start
      have within := Word.nested_stays_within nested depth front start
      have known := greatest_depth_of_rule member
      omega

theorem substitute_stays_within {depth limit : Nat} {word : Word}
    (within : word.StaysWithin depth limit) :
    Word.StaysWithin depth (limit + ruleSet.greatestDepth) (ruleSet.substitute word) := by
  induction word generalizing depth with
  | nil =>
      intro front start
      rw [List.prefix_nil.mp start]
      exact Nat.le_add_right_of_le (within [] (List.prefix_refl _))
  | cons symbol word induction =>
      rw [Word.stays_within_cons] at within
      obtain ⟨before, after⟩ := within
      obtain ⟨first, reached⟩ := replacement_stays_within leaves balanced symbol before
        (after [] List.nil_prefix)
      rw [substitute_cons]
      apply Word.stays_within_append first
      rw [reached]
      exact induction after

theorem derive_stays_within {limit : Nat} (passes : Nat) {word : Word}
    (within : word.StaysWithin 0 limit) :
    Word.StaysWithin 0 (limit + passes * ruleSet.greatestDepth) (ruleSet.derive passes word) := by
  induction passes generalizing word limit with
  | zero => simpa [derive] using within
  | succ passes induction =>
      have deeper := induction (substitute_stays_within leaves balanced within)
      rw [Nat.add_assoc, Nat.add_comm ruleSet.greatestDepth, ← Nat.succ_mul] at deeper
      exact deeper

/-- From a bud, each pass leads at most the greatest depth of the rules further down. -/
theorem bud_stays_within (passes : Nat) :
    Word.StaysWithin 0 (passes * ruleSet.greatestDepth) (ruleSet.derive passes Word.bud) := by
  have bud : Word.StaysWithin 0 0 Word.bud := by
    rw [Word.bud, Word.stays_within_cons]
    refine ⟨Nat.le_refl _, ?_⟩
    intro front start
    rw [List.prefix_nil.mp start]
    exact Nat.le_refl _
  have within := derive_stays_within leaves balanced passes bud
  rw [Nat.zero_add] at within
  exact within

end Deepening

end RuleSet

end Arboretum

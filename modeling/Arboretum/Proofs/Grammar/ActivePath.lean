import Arboretum.Proofs.Grammar.Depth

/-!
The active path of a word: what is left of it when every closed group of brackets and every closing
bracket without an opening one are taken out. A group that ends with the word takes the path back to
what it was before the group; any other ending leaves the path as it was, or adds one place to it.
-/

namespace Arboretum

set_option autoImplicit false

namespace Word

/-- A place lies in a group of brackets that is closed within the word, the two
brackets included. -/
def InClosedGroup (word : Word) (place : Nat) : Prop :=
  ∃ before inside after : Word, word = before ++ '[' :: inside ++ ']' :: after ∧
    inside.ProperlyNested ∧ before.length ≤ place ∧ place < before.length + inside.length + 2

/-- A place is left on the active path. A closing bracket that is in no closed group is one that has
nothing to close. -/
structure OnActivePath (word : Word) (place : Nat) : Prop where
  within : place < word.length
  unclosing : word[place]? ≠ some ']'
  ungrouped : ¬ word.InClosedGroup place

/-- No prefix closes more brackets than it opens, so what was open before the word stays open. -/
def StaysOpen (word : Word) : Prop :=
  ∀ front, front <+: word → front.count ']' ≤ front.count '['

theorem in_closed_group_append {front : Word} (back : Word) {place : Nat}
    (grouped : front.InClosedGroup place) : InClosedGroup (front ++ back) place := by
  obtain ⟨before, inside, after, rfl, nested, least, most⟩ := grouped
  refine ⟨before, inside, after ++ back, ?_, nested, least, most⟩
  simp only [List.append_assoc, List.cons_append]

/-- One more symbol closes no group, unless it is a closing bracket with a nested word before it and
an opening one before that. -/
theorem in_closed_group_of_append_symbol {front : Word} {symbol : Char} {place : Nat}
    (grouped : InClosedGroup (front ++ [symbol]) place) :
    front.InClosedGroup place ∨
      symbol = ']' ∧ ∃ before inside : Word, front = before ++ '[' :: inside ∧
        inside.ProperlyNested ∧ before.length ≤ place := by
  obtain ⟨before, inside, after, split, nested, least, most⟩ := grouped
  rcases List.eq_nil_or_concat after with rfl | ⟨earlier, last, rfl⟩
  · obtain ⟨rfl, same⟩ := List.append_inj' split rfl
    exact .inr ⟨List.singleton_inj.mp same, before, inside, rfl, nested, least⟩
  · rw [List.concat_eq_append, ← List.cons_append, ← List.append_assoc] at split
    obtain ⟨rfl, _⟩ := List.append_inj' split rfl
    exact .inl ⟨before, inside, earlier, rfl, nested, least, most⟩

/-- Around a bracket that stays open there is no nested word. -/
theorem not_nested_around_open {before inside outside around : Word} (opened : inside.StaysOpen)
    (same : before ++ '[' :: inside = outside ++ '[' :: around)
    (outer : outside.length < before.length) :
    ¬ around.ProperlyNested := by
  intro nested
  rcases List.append_eq_append_iff.mp same with ⟨gap, rfl, _⟩ | ⟨gap, rfl, rest⟩
  · rw [List.length_append] at outer
    omega
  cases gap with
  | nil =>
      rw [List.append_nil] at outer
      omega
  | cons head gap =>
      rw [List.cons_append] at rest
      obtain ⟨_, rfl⟩ := List.cons.inj rest
      have early := nested.prefixes gap (List.prefix_append ..)
      have late := opened inside (List.prefix_refl _)
      have totals := nested.totals
      rw [List.count_append, List.count_append, List.count_cons_self,
        List.count_cons_of_ne (by decide)] at totals
      omega

theorem in_closed_group_below_open {before inside : Word} {place : Nat} (opened : inside.StaysOpen)
    (below : place < before.length) (grouped : InClosedGroup (before ++ '[' :: inside) place) :
    before.InClosedGroup place := by
  induction inside using List.reverseRecOn with
  | nil =>
      rcases in_closed_group_of_append_symbol grouped with earlier | ⟨closing, _⟩
      · exact earlier
      · cases closing
  | append_singleton inside symbol induction =>
      have openedEarlier : StaysOpen inside := fun front start =>
        opened front (start.trans (List.prefix_append ..))
      rw [← List.cons_append, ← List.append_assoc] at grouped
      rcases in_closed_group_of_append_symbol grouped with
        earlier | ⟨_, outside, around, same, nested, least⟩
      · exact induction openedEarlier earlier
      · exact absurd nested (not_nested_around_open openedEarlier same (by omega))

/-! What each ending of a word does to the active path. -/

theorem on_active_path_symbol (front : Word) {symbol : Char} (unclosing : symbol ≠ ']')
    (place : Nat) :
    OnActivePath (front ++ [symbol]) place ↔ front.OnActivePath place ∨ place = front.length := by
  constructor
  · rintro ⟨within, unclosingAt, ungrouped⟩
    rw [List.length_append, List.length_singleton] at within
    by_cases last : place = front.length
    · exact .inr last
    · have earlier : place < front.length := by omega
      rw [List.getElem?_append_left earlier] at unclosingAt
      exact .inl ⟨earlier, unclosingAt, fun grouped => ungrouped (in_closed_group_append _ grouped)⟩
  · have noGroup : InClosedGroup (front ++ [symbol]) place → front.InClosedGroup place := by
      intro grouped
      rcases in_closed_group_of_append_symbol grouped with earlier | ⟨closing, _⟩
      · exact earlier
      · exact absurd closing unclosing
    rintro (⟨within, unclosingAt, ungrouped⟩ | rfl)
    · refine ⟨?_, ?_, fun grouped => ungrouped (noGroup grouped)⟩
      · rw [List.length_append]
        omega
      · rw [List.getElem?_append_left within]
        exact unclosingAt
    · refine ⟨by simp, by simpa using unclosing, ?_⟩
      intro grouped
      obtain ⟨before, inside, after, split, _, least, most⟩ := noGroup grouped
      have length := congrArg List.length split
      simp only [List.length_append, List.length_cons] at length
      omega

theorem on_active_path_unmatched {front : Word} (surface : front.depth = 0) (place : Nat) :
    OnActivePath (front ++ [']']) place ↔ front.OnActivePath place := by
  constructor
  · rintro ⟨within, unclosing, ungrouped⟩
    rw [List.length_append, List.length_singleton] at within
    by_cases last : place = front.length
    · exact absurd (by simp [last]) unclosing
    · have earlier : place < front.length := by omega
      rw [List.getElem?_append_left earlier] at unclosing
      exact ⟨earlier, unclosing, fun grouped => ungrouped (in_closed_group_append _ grouped)⟩
  · rintro ⟨within, unclosing, ungrouped⟩
    refine ⟨?_, ?_, ?_⟩
    · rw [List.length_append]
      omega
    · rw [List.getElem?_append_left within]
      exact unclosing
    · intro grouped
      rcases in_closed_group_of_append_symbol grouped with
        earlier | ⟨_, before, inside, rfl, nested, _⟩
      · exact ungrouped earlier
      · rw [depth_of_open before ((is_nested_iff inside).mpr nested)] at surface
        cases surface

theorem on_active_path_group (before : Word) {inside : Word} (nested : inside.isNested = true)
    (place : Nat) :
    OnActivePath (before ++ '[' :: inside ++ [']']) place ↔ before.OnActivePath place := by
  have proper := (is_nested_iff inside).mp nested
  constructor
  · rintro ⟨within, unclosing, ungrouped⟩
    by_cases below : place < before.length
    · rw [List.append_assoc, List.getElem?_append_left below] at unclosing
      refine ⟨below, unclosing, fun grouped => ungrouped ?_⟩
      rw [List.append_assoc]
      exact in_closed_group_append _ grouped
    · refine absurd ⟨before, inside, [], rfl, proper, by omega, ?_⟩ ungrouped
      simp only [List.length_append, List.length_cons, List.length_nil] at within
      omega
  · rintro ⟨within, unclosing, ungrouped⟩
    refine ⟨?_, ?_, ?_⟩
    · simp only [List.length_append]
      omega
    · rw [List.append_assoc, List.getElem?_append_left within]
      exact unclosing
    · intro grouped
      rcases in_closed_group_of_append_symbol grouped with
        earlier | ⟨_, outside, around, same, nestedAround, least⟩
      · exact ungrouped (in_closed_group_below_open proper.prefixes within earlier)
      · exact not_nested_around_open proper.prefixes same (by omega) nestedAround

end Word

end Arboretum

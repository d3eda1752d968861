import Arboretum.Proofs.Grammar.Nesting

/-!
How deep a place of a word lies, in words of any brackets. A closing bracket that has nothing to
close changes nothing, so the depth is always defined; where no such bracket occurs it is the depth
that nested words lead back to. Every word is empty, or ends in a symbol other than a closing
bracket, in a closing bracket without effect, or in a group of brackets that is closed with it; what
is proved by going through these cases holds of all words.
-/

namespace Arboretum

set_option autoImplicit false

namespace Word

def depthAfter (depth : Nat) : Char → Nat
  | '[' => depth + 1
  | ']' => depth - 1
  | _ => depth

/-- How many brackets are open after a word, if `depth` of them were open before it. -/
def depthFrom (depth : Nat) (word : Word) : Nat := word.foldl depthAfter depth

def depth (word : Word) : Nat := depthFrom 0 word

theorem depth_after_plain {symbol : Char} (depth : Nat) (unopening : symbol ≠ '[')
    (unclosing : symbol ≠ ']') : depthAfter depth symbol = depth := by
  rw [depthAfter]
  · exact unopening
  · exact unclosing

theorem depth_from_append (depth : Nat) (front back : Word) :
    depthFrom depth (front ++ back) = depthFrom (depthFrom depth front) back := by
  rw [depthFrom, depthFrom, depthFrom, List.foldl_append]

theorem depth_append_symbol (front : Word) (symbol : Char) :
    depth (front ++ [symbol]) = depthAfter front.depth symbol := by
  rw [depth, depth_from_append]
  rfl

/-- Where every closing bracket has one to close, the depth is what following the brackets gives. -/
theorem depth_from_of_closing {word : Word} {depth final : Nat}
    (followed : closingDepth? depth word = some final) : depthFrom depth word = final := by
  induction word generalizing depth with
  | nil => exact Option.some.inj followed
  | cons symbol rest induction =>
      change depthFrom (depthAfter depth symbol) rest = final
      by_cases opening : symbol = '['
      · subst opening
        exact induction followed
      by_cases closing : symbol = ']'
      · subst closing
        cases depth with
        | zero => cases followed
        | succ depth => exact induction followed
      · rw [closing_depth_plain _ _ opening closing] at followed
        rw [depth_after_plain depth opening closing]
        exact induction followed

theorem depth_from_nested {inside : Word} (nested : inside.isNested = true) (depth : Nat) :
    depthFrom depth inside = depth :=
  depth_from_of_closing (closing_depth_nested nested depth)

/-! Nested words are built from symbols that are no brackets, from each other and from brackets. -/

theorem nested_iff_closing (word : Word) :
    word.isNested = true ↔ closingDepth? 0 word = some 0 := by
  unfold isNested
  exact beq_iff_eq

theorem nested_nil : isNested [] = true := rfl

theorem nested_append {front back : Word} (nestedFront : front.isNested = true)
    (nestedBack : back.isNested = true) : isNested (front ++ back) = true := by
  rw [nested_iff_closing, closing_depth_append, closing_depth_nested nestedFront]
  exact closing_depth_nested nestedBack 0

theorem nested_plain {symbol : Char} (unopening : symbol ≠ '[') (unclosing : symbol ≠ ']') :
    isNested [symbol] = true := by
  rw [nested_iff_closing, closing_depth_plain _ _ unopening unclosing]
  rfl

theorem nested_group {inside : Word} (nested : inside.isNested = true) :
    isNested ('[' :: inside ++ [']']) = true := by
  rw [nested_iff_closing, List.cons_append, closing_depth_open, closing_depth_append,
    closing_depth_nested nested]
  rfl

/-! A bracket is open when what follows it is nested. -/

theorem depth_of_open {inside : Word} (before : Word) (nested : inside.isNested = true) :
    depth (before ++ '[' :: inside) = before.depth + 1 := by
  rw [depth, depth_from_append]
  exact depth_from_nested nested _

theorem depth_of_closed {inside : Word} (before : Word) (nested : inside.isNested = true) :
    depth (before ++ '[' :: inside ++ [']']) = before.depth := by
  rw [depth_append_symbol, depth_of_open before nested]
  rfl

/-- Below the surface of a word there is a last bracket that is open, with a
nested word behind it. -/
theorem open_bracket_of_depth {word : Word} {level : Nat} (deep : word.depth = level + 1) :
    ∃ before inside : Word, word = before ++ '[' :: inside ∧ inside.isNested = true ∧
      before.depth = level := by
  -- A closing bracket at the end leaves open the last but one of what was open before it.
  induction length : word.length using Nat.strongRecOn generalizing word level with
  | ind length induction =>
      rcases List.eq_nil_or_concat word with rfl | ⟨front, symbol, rfl⟩
      · cases deep
      rw [List.concat_eq_append] at deep length ⊢
      rw [List.length_append, List.length_singleton] at length
      rw [depth_append_symbol] at deep
      by_cases opening : symbol = '['
      · subst opening
        exact ⟨front, [], rfl, nested_nil, Nat.succ.inj deep⟩
      by_cases closing : symbol = ']'
      · subst closing
        have deeper : depth front = (level + 1) + 1 := by
          change depth front - 1 = level + 1 at deep
          omega
        obtain ⟨outer, inner, rfl, nestedInner, outerDeep⟩ :=
          induction front.length (by omega) deeper rfl
        rw [List.length_append] at length
        obtain ⟨before, inside, rfl, nestedInside, beforeDeep⟩ :=
          induction outer.length (by omega) outerDeep rfl
        refine ⟨before, inside ++ ('[' :: inner ++ [']']), ?_,
          nested_append nestedInside (nested_group nestedInner), beforeDeep⟩
        simp only [List.append_assoc, List.cons_append]
      · rw [depth_after_plain _ opening closing] at deep
        obtain ⟨before, inside, rfl, nested, beforeDeep⟩ :=
          induction front.length (by omega) deep rfl
        refine ⟨before, inside ++ [symbol], ?_,
          nested_append nested (nested_plain opening closing), beforeDeep⟩
        simp only [List.append_assoc, List.cons_append]

/-- What holds of the empty word and is kept by each way in which a word can end
holds of every word. -/
theorem ending_induction {condition : Word → Prop} (empty : condition [])
    (symbol : ∀ front symbol, symbol ≠ ']' → condition front → condition (front ++ [symbol]))
    (unmatched : ∀ front : Word, front.depth = 0 → condition front → condition (front ++ [']']))
    (group : ∀ before inside : Word, inside.isNested = true → condition before →
      condition (before ++ '[' :: inside ++ [']']))
    (word : Word) : condition word := by
  induction length : word.length using Nat.strongRecOn generalizing word with
  | ind length induction =>
      rcases List.eq_nil_or_concat word with rfl | ⟨front, last, rfl⟩
      · exact empty
      rw [List.concat_eq_append] at length ⊢
      rw [List.length_append, List.length_singleton] at length
      have earlier := induction front.length (by omega) front rfl
      by_cases closing : last = ']'
      · subst closing
        cases deep : depth front with
        | zero => exact unmatched front deep earlier
        | succ level =>
            obtain ⟨before, inside, rfl, nested, _⟩ := open_bracket_of_depth deep
            rw [List.length_append] at length
            exact group before inside nested (induction before.length (by omega) before rfl)
      · exact symbol front last closing earlier

end Word

end Arboretum

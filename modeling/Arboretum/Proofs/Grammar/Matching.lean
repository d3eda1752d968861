import Arboretum.Proofs.Grammar.ActivePath
import Mathlib.Data.Finset.Card

/-!
Which brackets belong together, in words of any brackets. Two brackets match when what stands
between them is nested. A closing bracket behind a word has a match exactly when the depth
there is not zero, and it has one only: the last bracket with a nested word behind it, which
nothing has matched before. So the opening brackets that are never matched are as many as the
depth says at the end of the word.
-/

namespace Arboretum

set_option autoImplicit false

namespace Word

def Matches (word : Word) (opening closing : Nat) : Prop :=
  word[opening]? = some '[' ∧ word[closing]? = some ']' ∧ opening < closing ∧
    isNested ((word.take closing).drop (opening + 1)) = true

instance (word : Word) (opening closing : Nat) : Decidable (word.Matches opening closing) :=
  inferInstanceAs (Decidable (_ ∧ _ ∧ _ ∧ _))

def LeavesOpen (word : Word) (place : Nat) : Prop :=
  word[place]? = some '[' ∧ ∀ closing < word.length, ¬ word.Matches place closing

instance (word : Word) : DecidablePred word.LeavesOpen :=
  fun _ => inferInstanceAs (Decidable (_ ∧ _))

/-- Where the opening brackets are that nothing closes. -/
def openPlaces (word : Word) : Finset Nat := (Finset.range word.length).filter word.LeavesOpen

/-- A closing bracket right behind the word would match the bracket at a place. -/
def Awaits (front : Word) (opening : Nat) : Prop :=
  front[opening]? = some '[' ∧ isNested (front.drop (opening + 1)) = true

variable {front : Word} {symbol : Char} {opening place : Nat}

theorem within_of_symbol (there : front[place]? = some symbol) : place < front.length := by
  obtain ⟨within, _⟩ := List.getElem?_eq_some_iff.mp there
  exact within

/-! What one more symbol adds to the matches. -/

theorem matches_append (back : Word) {closing : Nat} (within : closing < front.length) :
    Matches (front ++ back) opening closing ↔ front.Matches opening closing := by
  unfold Matches
  rw [List.getElem?_append_left within, List.take_append_of_le_length (Nat.le_of_lt within)]
  constructor
  · rintro ⟨opens, closes, before, nested⟩
    rw [List.getElem?_append_left (before.trans within)] at opens
    exact ⟨opens, closes, before, nested⟩
  · rintro ⟨opens, closes, before, nested⟩
    rw [List.getElem?_append_left (before.trans within)]
    exact ⟨opens, closes, before, nested⟩

theorem matches_last :
    Matches (front ++ [symbol]) opening front.length ↔ symbol = ']' ∧ front.Awaits opening := by
  unfold Matches Awaits
  rw [List.getElem?_concat_length, List.take_left, Option.some_inj]
  constructor
  · rintro ⟨opens, closes, before, nested⟩
    rw [List.getElem?_append_left before] at opens
    exact ⟨closes, opens, nested⟩
  · rintro ⟨closes, opens, nested⟩
    have before := within_of_symbol opens
    rw [List.getElem?_append_left before]
    exact ⟨opens, closes, before, nested⟩

theorem awaits_iff_split :
    front.Awaits opening ↔ ∃ before inside : Word, front = before ++ '[' :: inside ∧
      inside.isNested = true ∧ before.length = opening := by
  constructor
  · rintro ⟨opens, nested⟩
    obtain ⟨within, same⟩ := List.getElem?_eq_some_iff.mp opens
    refine ⟨front.take opening, front.drop (opening + 1), ?_, nested, ?_⟩
    · rw [← same, List.getElem_cons_drop, List.take_append_drop]
    · exact List.length_take_of_le (Nat.le_of_lt within)
  · rintro ⟨before, inside, rfl, nested, rfl⟩
    refine ⟨?_, ?_⟩
    · rw [List.getElem?_append_right (Nat.le_refl _), Nat.sub_self]
      rfl
    · rw [← List.drop_drop, List.drop_left]
      exact nested

theorem awaits_of_depth (deep : front.depth ≠ 0) : ∃ opening, front.Awaits opening := by
  obtain ⟨level, deeper⟩ := Nat.exists_eq_succ_of_ne_zero deep
  obtain ⟨before, inside, split, nested, _⟩ := open_bracket_of_depth deeper
  exact ⟨before.length, awaits_iff_split.mpr ⟨before, inside, split, nested, rfl⟩⟩

theorem depth_of_awaits (awaited : front.Awaits opening) : front.depth ≠ 0 := by
  obtain ⟨before, inside, rfl, nested, _⟩ := awaits_iff_split.mp awaited
  rw [depth_of_open before nested]
  exact Nat.succ_ne_zero _

/-- A closing bracket has no second match: a nested word around the first one
would not be nested. -/
theorem awaits_no_earlier {other : Nat} (awaited : front.Awaits opening)
    (earlier : other < opening) :
    ¬ front.Awaits other := by
  intro awaitedToo
  obtain ⟨before, inside, rfl, nested, rfl⟩ := awaits_iff_split.mp awaited
  obtain ⟨outside, around, same, nestedAround, rfl⟩ := awaits_iff_split.mp awaitedToo
  exact not_nested_around_open ((is_nested_iff inside).mp nested).prefixes same earlier
    ((is_nested_iff around).mp nestedAround)

theorem awaits_unique {other : Nat} (awaited : front.Awaits opening)
    (awaitedToo : front.Awaits other) :
    other = opening := by
  rcases Nat.lt_trichotomy other opening with earlier | same | later
  · exact absurd awaitedToo (awaits_no_earlier awaited earlier)
  · exact same
  · exact absurd awaited (awaits_no_earlier awaitedToo later)

/-- What is matched already awaits nothing: its closing bracket would close too much behind it. -/
theorem awaits_unmatched {closing : Nat} (awaited : front.Awaits opening) :
    ¬ front.Matches opening closing := by
  rintro ⟨_, closes, before, between⟩
  obtain ⟨within, same⟩ := List.getElem?_eq_some_iff.mp closes
  have totals := ((is_nested_iff _).mp between).totals
  have closed : (front.take closing).drop (opening + 1) ++ [']'] <+: front.drop (opening + 1) := by
    rw [← same, ← List.drop_append_of_le_length (by rw [List.length_take]; omega),
      List.take_append_getElem]
    exact (List.take_prefix ..).drop _
  have bound := ((is_nested_iff _).mp awaited.2).prefixes _ closed
  have noOpening : List.count '[' [']'] = 0 := rfl
  have oneClosing : List.count ']' [']'] = 1 := rfl
  rw [List.count_append, List.count_append, totals, noOpening, oneClosing] at bound
  omega

/-! What one more symbol does to the brackets that are left open, and how many there are. -/

theorem mem_open_places (word : Word) : place ∈ word.openPlaces ↔ word.LeavesOpen place := by
  rw [openPlaces, Finset.mem_filter, Finset.mem_range]
  exact ⟨And.right, fun leaves => ⟨within_of_symbol leaves.1, leaves⟩⟩

theorem leaves_open_of_awaits (awaited : front.Awaits opening) : front.LeavesOpen opening :=
  ⟨awaited.1, fun _ _ => awaits_unmatched awaited⟩

theorem leaves_open_append_symbol :
    LeavesOpen (front ++ [symbol]) place ↔
      front.LeavesOpen place ∧ ¬ (symbol = ']' ∧ front.Awaits place) ∨
        place = front.length ∧ symbol = '[' := by
  unfold LeavesOpen
  rw [List.length_append, List.length_singleton, Nat.forall_lt_succ_right, matches_last]
  rcases Nat.lt_trichotomy place front.length with within | rfl | beyond
  · have earlier : (∀ closing < front.length, ¬ Matches (front ++ [symbol]) place closing) ↔
        ∀ closing < front.length, ¬ front.Matches place closing :=
      forall₂_congr fun closing before => not_congr (matches_append [symbol] before)
    rw [List.getElem?_append_left within, earlier, and_assoc]
    simp [Nat.ne_of_lt within]
  · have nothing : ¬ front.Awaits front.length := by simp [Awaits]
    have unmatched : ∀ closing < front.length, ¬ Matches (front ++ [symbol]) front.length closing :=
      fun closing before matched => absurd matched.2.2.1 (Nat.not_lt_of_gt before)
    simp only [List.getElem?_concat_length, Option.some_inj, nothing, and_false, not_false_eq_true,
      and_true, true_and, List.getElem?_length, reduceCtorEq, false_and, false_or,
      and_iff_left unmatched]
  · have nothing : (front ++ [symbol])[place]? = none := by
      rw [List.getElem?_eq_none_iff, List.length_append]
      exact beyond
    have nothingBefore : front[place]? = none := List.getElem?_eq_none (Nat.le_of_lt beyond)
    simp [nothing, nothingBefore, Nat.ne_of_gt beyond]

theorem open_places_opening (front : Word) :
    openPlaces (front ++ ['[']) = insert front.length front.openPlaces := by
  ext place
  rw [mem_open_places, leaves_open_append_symbol, Finset.mem_insert, mem_open_places]
  simp [or_comm]

theorem open_places_closing (awaited : front.Awaits opening) :
    openPlaces (front ++ [']']) = front.openPlaces.erase opening := by
  ext place
  rw [mem_open_places, leaves_open_append_symbol, Finset.mem_erase, mem_open_places]
  have only : front.Awaits place ↔ place = opening :=
    ⟨awaits_unique awaited, fun same => same ▸ awaited⟩
  simp [only, and_comm]

theorem open_places_kept (kept : symbol ≠ '[') (nothing : symbol = ']' → front.depth = 0) :
    openPlaces (front ++ [symbol]) = front.openPlaces := by
  ext place
  have unmatched : ¬ (symbol = ']' ∧ front.Awaits place) :=
    fun ⟨closing, awaited⟩ => depth_of_awaits awaited (nothing closing)
  rw [mem_open_places, leaves_open_append_symbol, mem_open_places]
  simp [kept, unmatched]

/-- As many brackets are left open as the depth says. -/
theorem open_places_card (word : Word) : word.openPlaces.card = word.depth := by
  induction word using List.reverseRecOn with
  | nil => rfl
  | append_singleton front symbol induction =>
      rw [depth_append_symbol]
      by_cases opening : symbol = '['
      · subst opening
        have new : front.length ∉ openPlaces front := by simp [openPlaces]
        rw [open_places_opening, Finset.card_insert_of_notMem new, induction]
        rfl
      by_cases closing : symbol = ']' ∧ depth front ≠ 0
      · obtain ⟨rfl, deep⟩ := closing
        obtain ⟨opening, awaited⟩ := awaits_of_depth deep
        have there := (mem_open_places front).mpr (leaves_open_of_awaits awaited)
        rw [open_places_closing awaited, Finset.card_erase_of_mem there, induction]
        rfl
      · have nothing : symbol = ']' → depth front = 0 := by
          intro closes
          exact of_not_not fun deep => closing ⟨closes, deep⟩
        rw [open_places_kept opening nothing, induction]
        by_cases closes : symbol = ']'
        · rw [nothing closes, closes]
          rfl
        · rw [depth_after_plain _ opening closes]

end Word

end Arboretum

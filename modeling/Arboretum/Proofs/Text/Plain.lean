import Arboretum.Configuration
import Mathlib.Data.List.DropRight

/-!
Plain texts. A text is made plain by taking off the blanks around it and lowering its capitals.
Small letters are neither capitals nor blanks, so a text that has been made plain is plain, and one
that is not all blank is not empty then.
-/

namespace Arboretum.Text

set_option autoImplicit false

namespace CapitalRun

def Holds (run : CapitalRun) (code : Nat) : Prop :=
  run.first ≤ code ∧ code ≤ run.last ∧ (code - run.first) % run.step = 0

/-- The last of the small letters, which run in step with the capitals. -/
def smallLast (run : CapitalRun) : Nat := run.small + (run.last - run.first)

/-- No small letter of the one run is a capital of the other: they lie apart, or take turns. -/
def apart (smalls capitals : CapitalRun) : Bool :=
  Nat.blt smalls.smallLast capitals.first ||
    (Nat.blt capitals.last smalls.small ||
      (smalls.step == 2 || smalls.first == smalls.last) && capitals.step == 2 &&
        (smalls.small + capitals.first) % 2 == 1)

def Avoids (smalls : CapitalRun) (range : Nat × Nat) : Prop :=
  smalls.smallLast < range.1 ∨ range.2 < smalls.small

instance (smalls : CapitalRun) (range : Nat × Nat) : Decidable (smalls.Avoids range) := by
  unfold Avoids
  infer_instance

end CapitalRun

/-- The small letters of every run lie apart from all capitals: what was lowered
is not lowered again. -/
theorem capital_runs_apart :
    (capitalRuns.all fun smalls => capitalRuns.all fun capitals => smalls.apart capitals) =
      true := by
  decide +kernel

/-- The ranges of the codes of blanks, ends included. -/
def blankRanges : List (Nat × Nat) :=
  [
    (0x09, 0x0D), (0x1C, 0x20), (0x85, 0x85), (0xA0, 0xA0), (0x1680, 0x1680), (0x2000, 0x200A),
    (0x2028, 0x2028), (0x2029, 0x2029), (0x202F, 0x202F), (0x205F, 0x205F), (0x3000, 0x3000)
  ]

theorem small_letters_avoid : ∀ smalls ∈ capitalRuns,
    (∀ range ∈ (0x130, 0x130) :: blankRanges, smalls.Avoids range) ∧
      (smalls.smallLast < 0xD800 ∨ 0xDFFF < smalls.small ∧ smalls.smallLast < 0x110000) := by
  decide +kernel

/-! Letters. -/

/-- What becomes of a letter when its text is lowered: a capital becomes a small
letter of its run. -/
theorem small_letter_cases (symbol : Char) :
    (∃ run ∈ capitalRuns, run.Holds symbol.toNat ∧
        smallLetter symbol = Char.ofNat (run.small + (symbol.toNat - run.first))) ∨
      smallLetter symbol = symbol ∧ ∀ run ∈ capitalRuns, ¬ run.Holds symbol.toNat := by
  unfold smallLetter
  dsimp only
  split
  · rename_i run found
    have holds := List.find?_some found
    simp only [Bool.and_eq_true, decide_eq_true_eq, beq_iff_eq] at holds
    exact .inl ⟨run, List.mem_of_find?_eq_some found, ⟨holds.1.1, holds.1.2, holds.2⟩, rfl⟩
  · rename_i missing
    refine .inr ⟨rfl, ?_⟩
    intro run member ⟨first, last, step⟩
    have holds := List.find?_eq_none.mp missing run member
    simp [first, last, step] at holds

theorem small_letter_of_no_capital {symbol : Char}
    (noCapital : ∀ run ∈ capitalRuns, ¬ run.Holds symbol.toNat) :
    smallLetter symbol = symbol := by
  rcases small_letter_cases symbol with ⟨run, member, holds, _⟩ | ⟨same, _⟩
  · exact absurd holds (noCapital run member)
  · exact same

theorem not_holds_of_apart {smalls capitals : CapitalRun} {code : Nat}
    (apart : smalls.apart capitals = true) (holds : smalls.Holds code) :
    ¬ capitals.Holds (smalls.small + (code - smalls.first)) := by
  obtain ⟨first, last, step⟩ := holds
  rintro ⟨capitalFirst, capitalLast, capitalStep⟩
  simp only [CapitalRun.apart, CapitalRun.smallLast, Bool.or_eq_true, Bool.and_eq_true, Nat.blt_eq,
    beq_iff_eq] at apart
  rcases apart with below | above | ⟨⟨turns, two⟩, parity⟩
  · omega
  · omega
  · rw [two] at capitalStep
    have even : (code - smalls.first) % 2 = 0 := by
      rcases turns with smallTwo | single
      · rw [← smallTwo]
        exact step
      · omega
    omega

/-- A character that lowering a text leaves as it is, wherever it stands. -/
structure Low (symbol : Char) : Prop where
  small : ∀ run ∈ capitalRuns, ¬ run.Holds symbol.toNat
  no_dotted : symbol ≠ 'İ'

theorem no_sigma_of_low {symbol : Char} (low : Low symbol) : symbol ≠ 'Σ' := by
  rintro rfl
  have holds : ∃ run ∈ capitalRuns, run.first ≤ 'Σ'.toNat ∧ 'Σ'.toNat ≤ run.last ∧
      ('Σ'.toNat - run.first) % run.step = 0 := by decide +kernel
  obtain ⟨run, member, holds⟩ := holds
  exact low.small run member holds

theorem is_blank_iff (symbol : Char) :
    isBlank symbol = true ↔
      ∃ range ∈ blankRanges, range.1 ≤ symbol.toNat ∧ symbol.toNat ≤ range.2 := by
  simp [isBlank, blankRanges]
  omega

/-- A small letter of a run is neither a capital nor a blank. -/
theorem small_letter_low {symbol : Char} {run : CapitalRun} (member : run ∈ capitalRuns)
    (holds : run.Holds symbol.toNat) :
    Low (Char.ofNat (run.small + (symbol.toNat - run.first))) ∧
      isBlank (Char.ofNat (run.small + (symbol.toNat - run.first))) = false := by
  obtain ⟨avoids, valid⟩ := small_letters_avoid run member
  have last : run.small + (symbol.toNat - run.first) ≤ run.smallLast := by
    have within := holds.2.1
    unfold CapitalRun.smallLast
    omega
  have code : (Char.ofNat (run.small + (symbol.toNat - run.first))).toNat =
      run.small + (symbol.toNat - run.first) := by
    have small : Nat.isValidChar (run.small + (symbol.toNat - run.first)) := by
      unfold Nat.isValidChar
      omega
    rw [Char.ofNat, dif_pos small]
    rfl
  refine ⟨⟨?_, ?_⟩, ?_⟩
  · intro capitals capital
    rw [code]
    have apart :=
      List.all_eq_true.mp (List.all_eq_true.mp capital_runs_apart run member) capitals capital
    exact not_holds_of_apart apart holds
  · intro dotted
    have avoid := avoids (0x130, 0x130) (List.mem_cons_self ..)
    have same : run.small + (symbol.toNat - run.first) = 0x130 := by
      rw [← code, dotted]
      rfl
    unfold CapitalRun.Avoids at avoid
    omega
  · apply Bool.eq_false_iff.mpr
    intro blank
    obtain ⟨range, there, first, final⟩ := (is_blank_iff _).mp blank
    have avoid := avoids range (List.mem_cons_of_mem _ there)
    rw [code] at first final
    unfold CapitalRun.Avoids at avoid
    omega

/-- What the capital sigma and the dotted capital are lowered to. -/
def spelled : List Char := ['ς', 'σ', 'i', Char.ofNat 0x307]

theorem spelled_low : ∀ lowered ∈ spelled, Low lowered ∧ isBlank lowered = false := by
  have outside : (spelled.all fun lowered => capitalRuns.all fun run =>
      Nat.blt lowered.toNat run.first || (Nat.blt run.last lowered.toNat ||
        (lowered.toNat - run.first) % run.step != 0)) = true := by
    decide +kernel
  have visible : ∀ lowered ∈ spelled, lowered ≠ 'İ' ∧ isBlank lowered = false := by
    simp only [spelled, List.forall_mem_cons, List.not_mem_nil, false_implies, implies_true,
      and_true]
    refine ⟨⟨by decide, rfl⟩, ⟨by decide, rfl⟩, ⟨by decide, rfl⟩, by decide, rfl⟩
  intro lowered member
  refine ⟨⟨?_, (visible lowered member).1⟩, (visible lowered member).2⟩
  intro run capital ⟨first, last, step⟩
  have apart := List.all_eq_true.mp (List.all_eq_true.mp outside lowered member) run capital
  simp only [Bool.or_eq_true, Nat.blt_eq, bne_iff_ne] at apart
  omega

/-! Lowered texts. -/

/-- The first character of a text is lowered to one or two characters, with no capital among them,
and with no blank unless it was one. -/
theorem lower_after_cons (passed rest : List Char) (symbol : Char) :
    ∃ first others, lowerAfter passed (symbol :: rest) =
        (first :: others) ++ lowerAfter (symbol :: passed) rest ∧
      ∀ lowered ∈ first :: others,
        Low lowered ∧ (isBlank symbol = false → isBlank lowered = false) := by
  have low : ∀ lowered ∈ spelled,
      Low lowered ∧ (isBlank symbol = false → isBlank lowered = false) := by
    intro lowered member
    obtain ⟨low, visible⟩ := spelled_low lowered member
    exact ⟨low, fun _ => visible⟩
  rw [lowerAfter]
  split
  · split
    · exact ⟨'ς', [], rfl, by simpa using low 'ς' (by simp [spelled])⟩
    · exact ⟨'σ', [], rfl, by simpa using low 'σ' (by simp [spelled])⟩
  · split
    · refine ⟨'i', [Char.ofNat 0x307], rfl, ?_⟩
      intro lowered member
      exact low lowered (List.mem_cons_of_mem _ (List.mem_cons_of_mem _ member))
    · rename_i dotted
      refine ⟨smallLetter symbol, [], rfl, ?_⟩
      simp only [List.mem_cons, List.not_mem_nil, or_false, forall_eq]
      rcases small_letter_cases symbol with ⟨run, member, holds, small⟩ | ⟨same, noCapital⟩
      · rw [small]
        obtain ⟨low, visible⟩ := small_letter_low member holds
        exact ⟨low, fun _ => visible⟩
      · rw [same]
        exact ⟨⟨noCapital, dotted⟩, id⟩

theorem lowered_low (passed text : List Char) : ∀ symbol ∈ lowerAfter passed text, Low symbol := by
  induction text generalizing passed with
  | nil => simp [lowerAfter]
  | cons symbol rest induction =>
      obtain ⟨first, others, same, low⟩ := lower_after_cons passed rest symbol
      rw [same]
      intro lowered member
      rcases List.mem_append.mp member with here | later
      · exact (low lowered here).1
      · exact induction (symbol :: passed) lowered later

theorem lower_of_low {text : List Char} (low : ∀ symbol ∈ text, Low symbol) (passed : List Char) :
    lowerAfter passed text = text := by
  induction text generalizing passed with
  | nil => rfl
  | cons symbol rest induction =>
      obtain ⟨here, later⟩ := List.forall_mem_cons.mp low
      have again := induction later (symbol :: passed)
      simp [lowerAfter, again, no_sigma_of_low here, here.no_dotted,
        small_letter_of_no_capital here.small]

theorem lowered_eq_nil_iff (passed text : List Char) : lowerAfter passed text = [] ↔ text = [] := by
  cases text with
  | nil => simp [lowerAfter]
  | cons symbol rest =>
      obtain ⟨first, others, same, _⟩ := lower_after_cons passed rest symbol
      simp [same]

/-! Trimmed texts. -/

/-- There are no blanks around the text. -/
structure Tight (text : List Char) : Prop where
  first : ∀ symbol ∈ text.head?, isBlank symbol = false
  last : ∀ symbol ∈ text.getLast?, isBlank symbol = false

theorem trimmed_of_eq (text : List Char) :
    trimmedOf isBlank text = List.rdropWhile isBlank (text.dropWhile isBlank) := rfl

theorem trimmed_tight (text : List Char) : Tight (trimmedOf isBlank text) := by
  rw [trimmed_of_eq]
  constructor
  · intro symbol first
    obtain ⟨rest, starts⟩ := List.head?_eq_some_iff.mp first
    obtain ⟨after, whole⟩ := List.rdropWhile_prefix isBlank (l := text.dropWhile isBlank)
    rw [starts] at whole
    have dropped := List.dropWhile_idempotent isBlank text
    rw [← whole] at dropped
    have stays := List.dropWhile_eq_self_iff.mp dropped (by simp)
    simpa using stays
  · intro symbol last
    obtain ⟨before, ends⟩ := List.getLast?_eq_some_iff.mp last
    have stays := List.rdropWhile_eq_self_iff.mp
      (List.rdropWhile_idempotent isBlank (text.dropWhile isBlank)) (by simp [ends])
    simpa [ends] using stays

theorem trimmed_of_tight {text : List Char} (tight : Tight text) :
    trimmedOf isBlank text = text := by
  have first : text.dropWhile isBlank = text := by
    refine List.dropWhile_eq_self_iff.mpr fun inside => ?_
    simp [tight.first text[0] (by simp [List.head?_eq_getElem?])]
  rw [trimmed_of_eq, first, List.rdropWhile_eq_self_iff]
  intro nonempty
  simp [tight.last _ (List.getLast?_eq_some_getLast nonempty)]

theorem trimmed_eq_nil_iff (text : List Char) :
    trimmedOf isBlank text = [] ↔ ∀ symbol ∈ text, isBlank symbol = true := by
  rw [trimmed_of_eq, List.rdropWhile_eq_nil_iff]
  constructor
  · intro blank
    have nothing : text.dropWhile isBlank = [] := by
      rw [← List.dropWhile_idempotent, List.dropWhile_eq_nil_iff]
      exact blank
    exact List.dropWhile_eq_nil_iff.mp nothing
  · intro blank symbol member
    exact blank symbol ((List.dropWhile_suffix isBlank).subset member)

theorem lowered_tight {text : List Char} (tight : Tight text) (passed : List Char) :
    Tight (lowerAfter passed text) := by
  constructor
  · cases text with
    | nil => simp [lowerAfter]
    | cons symbol rest =>
        obtain ⟨first, others, same, visible⟩ := lower_after_cons passed rest symbol
        intro lowered head
        rw [same] at head
        cases head
        exact (visible first (List.mem_cons_self ..)).2 (tight.first symbol rfl)
  · have last := tight.last
    clear tight
    induction text generalizing passed with
    | nil => simp [lowerAfter]
    | cons symbol rest induction =>
        obtain ⟨first, others, same, visible⟩ := lower_after_cons passed rest symbol
        intro lowered final
        rw [same, List.getLast?_append] at final
        cases rest with
        | nil =>
            simp only [lowerAfter, List.getLast?_nil, Option.none_or] at final
            exact (visible lowered (List.mem_of_getLast? final)).2 (last symbol rfl)
        | cons next rest =>
            have there : lowerAfter (symbol :: passed) (next :: rest) ≠ [] := by
              simp [lowered_eq_nil_iff]
            rw [List.getLast?_eq_some_getLast there, Option.some_or] at final
            refine induction (symbol :: passed) ?_ lowered ?_
            · simpa using last
            · rw [List.getLast?_eq_some_getLast there]
              exact final

end Arboretum.Text

namespace Arboretum.Configuration

open Text

set_option autoImplicit false

theorem plain_to_list (text : String) :
    (plain text).toList = lowerAfter [] (trimmedOf isBlank text.toList) := by
  simp [plain, lowerCase, trimmed]

/-- A text that was made plain is plain. -/
theorem plain_plain (text : String) : plain (plain text) = plain text := by
  apply String.toList_injective
  rw [plain_to_list (plain text), plain_to_list text,
    trimmed_of_tight (lowered_tight (trimmed_tight text.toList) []),
    lower_of_low (lowered_low [] _)]

theorem plain_eq_empty_iff (text : String) :
    plain text = "" ↔ ∀ symbol ∈ text.toList, isBlank symbol = true := by
  rw [← String.toList_eq_nil_iff, plain_to_list, lowered_eq_nil_iff, trimmed_eq_nil_iff]

end Arboretum.Configuration

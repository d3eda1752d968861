import Arboretum.Proofs.Entries
import Arboretum.Proofs.Number.Comparison
import Arboretum.Summary
import Mathlib.Data.List.Lex
import Mathlib.Data.Prod.Lex
import Mathlib.Data.String.Basic

/-!
The language that is told of a tree. Languages are ranked by their shares, which are compared as
the exact numbers that they are, be they counts or measures, and then by their names. Going
through the languages one by one, the best one so far is ranked before all that were seen; so at
the end it is the primary language, and since there is only one such, neither the order of the
languages nor a smaller share matters.
-/

namespace Arboretum

open Number

set_option autoImplicit false

/-! Names. -/

def codePoints (text : String) : List Nat := text.toList.map Char.toNat

/-- Texts are in the order of their code points. -/
theorem code_points_strict_mono : StrictMono codePoints := by
  intro first second less
  apply List.map_lt
  · intro symbol other
    exact id
  · exact String.lt_iff_toList_lt.mp less

/-! Shares. -/

namespace Share

def IsNumber : Share → Prop
  | .count _ => True
  | .measure value => value.isNaN = false

/-- The number that a share is. What is no number is counted as zero. -/
def amount : Share → WithBot (WithTop ℚ)
  | .count value => ((value : ℚ) : WithTop ℚ)
  | .measure value => (Binary64.ofNumber value.toModel.unpack).value

theorem exact_value (share : Share) : share.exact.value = share.amount := by
  cases share with
  | count value => simp [exact, amount, Binary64.value, Binary64.signed_nat_abs]
  | measure value => rw [exact, amount, of_float_eq]

theorem exact_of_number {share : Share} (number : share.IsNumber) : share.exact ≠ .notANumber := by
  cases share with
  | count value => exact Binary64.noConfusion
  | measure value =>
      rw [exact, of_float_eq]
      exact Binary64.of_number_ne_not_a_number number

section Order

variable {left right : Share} (leftNumber : left.IsNumber) (rightNumber : right.IsNumber)

include leftNumber rightNumber

theorem less_iff : less left right = true ↔ left.amount < right.amount := by
  rw [less, Binary64.less_iff (exact_of_number leftNumber) (exact_of_number rightNumber),
    exact_value, exact_value]

theorem same_iff : same left right = true ↔ left.amount = right.amount := by
  rw [same, Binary64.same_iff (exact_of_number leftNumber) (exact_of_number rightNumber),
    exact_value, exact_value]

end Order

end Share

/-! The ranking of languages. -/

/-- What a language is ranked by: first its share, the largest one foremost, and then its name. -/
def languageRank (entry : String × Share) : (WithBot (WithTop ℚ))ᵒᵈ ×ₗ String :=
  toLex (OrderDual.toDual entry.2.amount, entry.1)

theorem language_precedes_iff {first second : String × Share} (firstNumber : first.2.IsNumber)
    (secondNumber : second.2.IsNumber) :
    languagePrecedes first second = true ↔ languageRank first < languageRank second := by
  have larger := Share.less_iff secondNumber firstNumber
  have equal := Share.same_iff firstNumber secondNumber
  unfold languagePrecedes languageRank
  rw [Prod.Lex.toLex_lt_toLex]
  change _ ↔ second.2.amount < first.2.amount ∨
    OrderDual.toDual first.2.amount = OrderDual.toDual second.2.amount ∧ first.1 < second.1
  rw [OrderDual.toDual_inj]
  by_cases tie : Share.same first.2 second.2 = true
  · rw [if_pos tie, decide_eq_true_iff]
    have amounts := equal.mp tie
    simp [amounts]
  · rw [if_neg tie, larger]
    have amounts := mt equal.mpr tie
    simp [amounts]

/-- The better one of the best language so far and the next one. -/
def betterLanguage (best entry : String × Share) : String × Share :=
  if languagePrecedes entry best then entry else best

theorem better_language_cases {best entry : String × Share} (bestNumber : best.2.IsNumber)
    (entryNumber : entry.2.IsNumber) :
    (betterLanguage best entry = entry ∧ languageRank entry < languageRank best) ∨
      (betterLanguage best entry = best ∧ languageRank best ≤ languageRank entry) := by
  have precedes := language_precedes_iff entryNumber bestNumber
  unfold betterLanguage
  by_cases better : languagePrecedes entry best = true
  · exact .inl ⟨if_pos better, precedes.mp better⟩
  · exact .inr ⟨if_neg better, not_lt.mp (mt precedes.mpr better)⟩

/-- The language that is found is one of those gone through, and none of them is
ranked before it. -/
theorem best_language_ranks_first (first : String × Share) (rest : List (String × Share))
    (numbers : ∀ entry ∈ first :: rest, entry.2.IsNumber) :
    rest.foldl betterLanguage first ∈ first :: rest ∧
      ∀ entry ∈ first :: rest,
        languageRank (rest.foldl betterLanguage first) ≤ languageRank entry := by
  induction rest generalizing first with
  | nil => simp
  | cons second rest induction =>
      rw [List.forall_mem_cons, List.forall_mem_cons] at numbers
      obtain ⟨firstNumber, secondNumber, restNumbers⟩ := numbers
      rw [List.foldl_cons, List.forall_mem_cons, List.forall_mem_cons]
      -- The better one of the first two goes on for both of them.
      rcases better_language_cases firstNumber secondNumber with ⟨same, before⟩ | ⟨same, notAfter⟩
      · rw [same]
        obtain ⟨member, foremost⟩ :=
          induction second (List.forall_mem_cons.mpr ⟨secondNumber, restNumbers⟩)
        rw [List.forall_mem_cons] at foremost
        refine ⟨List.mem_cons_of_mem _ member, foremost.1.trans before.le, foremost⟩
      · rw [same]
        obtain ⟨member, foremost⟩ :=
          induction first (List.forall_mem_cons.mpr ⟨firstNumber, restNumbers⟩)
        rw [List.forall_mem_cons] at foremost
        refine ⟨?_, foremost.1, foremost.1.trans notAfter, foremost.2⟩
        exact List.cons_subset_cons _ (List.subset_cons_self _ _) member

/-! The primary language. -/

/-- A language of a mapping with a share that no other one exceeds, and with the smallest name of
those that have as large a share. -/
def IsPrimary (shares : List (String × Share)) (name : String) : Prop :=
  ∃ share, (name, share) ∈ shares ∧
    (∀ other ∈ shares, other.2.amount ≤ share.amount) ∧
      ∀ other ∈ shares, other.2.amount = share.amount → codePoints name ≤ codePoints other.1

namespace IsPrimary

variable {shares others : List (String × Share)} {name other : String}

theorem of_rank {entry : String × Share} (member : entry ∈ shares)
    (foremost : ∀ other ∈ shares, languageRank entry ≤ languageRank other) :
    IsPrimary shares entry.1 := by
  have ordered (other : String × Share) (there : other ∈ shares) :
      other.2.amount < entry.2.amount ∨ entry.2.amount = other.2.amount ∧ entry.1 ≤ other.1 :=
    Prod.Lex.toLex_le_toLex.mp (foremost other there)
  refine ⟨entry.2, member, ?_, ?_⟩
  · intro other there
    rcases ordered other there with less | ⟨equal, _⟩
    · exact less.le
    · exact equal.ge
  · intro other there tie
    rw [code_points_strict_mono.le_iff_le]
    rcases ordered other there with less | ⟨_, names⟩
    · exact absurd tie less.ne
    · exact names

theorem unique (first : IsPrimary shares name) (second : IsPrimary shares other) :
    name = other := by
  obtain ⟨share, member, largest, smallest⟩ := first
  obtain ⟨otherShare, otherMember, otherLargest, otherSmallest⟩ := second
  have equal : share.amount = otherShare.amount :=
    le_antisymm (otherLargest _ member) (largest _ otherMember)
  have atMost := smallest _ otherMember equal.symm
  have atLeast := otherSmallest _ member equal
  rw [code_points_strict_mono.le_iff_le] at atMost atLeast
  exact le_antisymm atMost atLeast

theorem perm (primary : IsPrimary shares name) (entries : others.Perm shares) :
    IsPrimary others name := by
  obtain ⟨share, member, largest, smallest⟩ := primary
  refine ⟨share, entries.mem_iff.mpr member, ?_, ?_⟩
  · intro other there
    exact largest other (entries.mem_iff.mp there)
  · intro other there
    exact smallest other (entries.mem_iff.mp there)

/-- A language that comes in with a smaller share than some other one changes nothing. -/
theorem cons {entry : String × Share} (primary : IsPrimary shares name)
    (smaller : ∃ other ∈ shares, entry.2.amount < other.2.amount) :
    IsPrimary (entry :: shares) name := by
  obtain ⟨share, member, largest, smallest⟩ := primary
  obtain ⟨other, there, less⟩ := smaller
  have below : entry.2.amount < share.amount := less.trans_le (largest other there)
  refine ⟨share, List.mem_cons_of_mem _ member, ?_, ?_⟩
  · exact List.forall_mem_cons.mpr ⟨below.le, largest⟩
  · refine List.forall_mem_cons.mpr ⟨?_, smallest⟩
    intro tie
    exact absurd tie below.ne

end IsPrimary

theorem primary_language_is_primary {shares : List (String × Share)} (nonempty : shares ≠ [])
    (distinct : (shares.map Prod.fst).Nodup) (numbers : ∀ entry ∈ shares, entry.2.IsNumber) :
    IsPrimary shares (primaryLanguage shares) := by
  unfold primaryLanguage
  rw [Entries.of_pairs_of_distinct distinct]
  cases shares with
  | nil => exact absurd rfl nonempty
  | cons first rest =>
      obtain ⟨member, foremost⟩ := best_language_ranks_first first rest numbers
      exact IsPrimary.of_rank member foremost

theorem primary_language_of_perm {shares others : List (String × Share)} (nonempty : shares ≠ [])
    (distinct : (shares.map Prod.fst).Nodup) (numbers : ∀ entry ∈ shares, entry.2.IsNumber)
    (entries : others.Perm shares) : IsPrimary shares (primaryLanguage others) := by
  have present : others ≠ [] := by
    rintro rfl
    exact nonempty (List.nil_perm.mp entries)
  have apart : (others.map Prod.fst).Nodup := (entries.map Prod.fst).nodup_iff.mpr distinct
  have proper : ∀ entry ∈ others, entry.2.IsNumber := by
    intro entry member
    exact numbers entry (entries.mem_iff.mp member)
  exact (primary_language_is_primary present apart proper).perm entries.symm

/-- Of a mapping that is not empty the primary language is told: the one with the largest share, and
of several such the one with the smallest name, in whatever order the languages come and whatever
language with a smaller share comes in addition. -/
theorem largest_share_names_the_language {shares : List (String × Share)} (nonempty : shares ≠ [])
    (distinct : (shares.map Prod.fst).Nodup) (numbers : ∀ entry ∈ shares, entry.2.IsNumber) :
    (∀ name, IsPrimary shares name ↔ name = primaryLanguage shares) ∧
      (∀ others, others.Perm shares → primaryLanguage others = primaryLanguage shares) ∧
      ∀ name share, name ∉ shares.map Prod.fst → share.IsNumber →
        (∃ other ∈ shares, share.amount < other.2.amount) →
          ∀ others, others.Perm ((name, share) :: shares) →
            primaryLanguage others = primaryLanguage shares := by
  have primary := primary_language_is_primary nonempty distinct numbers
  refine ⟨?_, ?_, ?_⟩
  · intro name
    constructor
    · intro found
      exact found.unique primary
    · rintro rfl
      exact primary
  · intro others entries
    exact (primary_language_of_perm nonempty distinct numbers entries).unique primary
  · intro name share fresh number smaller others entries
    have distinctMore : (((name, share) :: shares).map Prod.fst).Nodup :=
      List.nodup_cons.mpr ⟨fresh, distinct⟩
    have found := primary_language_of_perm (List.cons_ne_nil _ _) distinctMore
      (List.forall_mem_cons.mpr ⟨number, numbers⟩) entries
    exact found.unique (primary.cons smaller)

/-! A count and a measure may be equal; a count that is one less has the same
nearest word, and yet is less. -/

def tiedShares : List (String × Share) :=
  [
    ("Zig", .measure 9007199254740996.0),
    ("Ada", .count 9007199254740995),
    ("C", .count 9007199254740996)
  ]

theorem tie_goes_to_the_smaller_name :
    tiedShares ≠ [] ∧ (tiedShares.map Prod.fst).Nodup ∧ (∀ entry ∈ tiedShares, entry.2.IsNumber) ∧
      primaryLanguage tiedShares = "C" ∧ primaryLanguage tiedShares.reverse = "C" ∧
        primaryLanguage (tiedShares ++ [("Basic", .measure 9007199254740994.0)]) = "C" := by
  have nonempty : tiedShares ≠ [] := List.cons_ne_nil _ _
  have distinct : (tiedShares.map Prod.fst).Nodup := by decide
  have measured : (9007199254740996.0 : Float).isNaN = false := by decide +kernel
  have numbers : ∀ entry ∈ tiedShares, entry.2.IsNumber := by
    simp only [tiedShares, List.forall_mem_cons, List.not_mem_nil, false_implies, implies_true,
      and_true]
    exact ⟨measured, trivial, trivial⟩
  obtain ⟨told, reordered, extended⟩ := largest_share_names_the_language nonempty distinct numbers
  have primary : IsPrimary tiedShares "C" := by
    refine ⟨.count 9007199254740996, by simp [tiedShares], ?_, ?_⟩
    · decide +kernel
    · decide +kernel
  have named : primaryLanguage tiedShares = "C" := ((told "C").mp primary).symm
  have smaller : ∃ other ∈ tiedShares,
      (Share.measure 9007199254740994.0).amount < other.2.amount := by decide +kernel
  have further : (9007199254740994.0 : Float).isNaN = false := by decide +kernel
  refine ⟨nonempty, distinct, numbers, named, ?_, ?_⟩
  · exact (reordered _ tiedShares.reverse_perm).trans named
  · have unchanged := extended "Basic" (.measure 9007199254740994.0) (by decide) further smaller _
      (List.perm_append_singleton _ _)
    exact unchanged.trans named

end Arboretum

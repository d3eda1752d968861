import Arboretum.Proofs.Grammar.Matching
import Arboretum.Proofs.Tree.SideBranches

/-!
Words of any shape, mended. A symbol that the turtle does not know and a closing bracket without
a match leave the walk as it is and draw nothing, and closing at the end what was left open only
brings saved turtles back. So a word draws what the nested word draws that is left when the
former are dropped and the latter are added, and it spends the same chance. Which closing
brackets have a match is a matter of the whole word; the turtle knows it all the same, since as
many turtles are saved as brackets are open.
-/

namespace Arboretum

open Fallible

set_option autoImplicit false

namespace Word

/-- A symbol, given with its place, is one of the signs and no closing bracket without a match. -/
def Heeds (word : Word) (entry : Char × Nat) : Prop :=
  entry.1 ∈ Walk.signs ∧ (entry.1 = ']' → ∃ opening < entry.2, word.Matches opening entry.2)

instance (word : Word) : DecidablePred word.Heeds :=
  fun _ => inferInstanceAs (Decidable (_ ∧ (_ → _)))

def heeded (word : Word) : Word := (word.zipIdx.filter word.Heeds).map Prod.fst

/-- The word without all that is not heeded, and with a closing bracket for each
that is left open. -/
def mended (word : Word) : Word := word.heeded ++ List.replicate word.openPlaces.card ']'

theorem heeds_append_symbol {front : Word} {entry : Char × Nat} (symbol : Char)
    (earlier : entry ∈ front.zipIdx) : Heeds (front ++ [symbol]) entry ↔ front.Heeds entry := by
  have within := List.snd_lt_of_mem_zipIdx earlier
  simp only [Heeds, matches_append [symbol] within]

theorem heeds_last {front : Word} {symbol : Char} :
    Heeds (front ++ [symbol]) (symbol, front.length) ↔
      symbol ∈ Walk.signs ∧ (symbol = ']' → front.depth ≠ 0) := by
  simp only [Heeds, matches_last]
  refine and_congr_right fun _ => imp_congr_right fun closing => ?_
  constructor
  · rintro ⟨opening, _, _, awaited⟩
    exact depth_of_awaits awaited
  · intro deep
    obtain ⟨opening, awaited⟩ := awaits_of_depth deep
    exact ⟨opening, within_of_symbol awaited.1, closing, awaited⟩

theorem heeded_append_symbol (front : Word) (symbol : Char) :
    heeded (front ++ [symbol]) =
      front.heeded ++
        if symbol ∈ Walk.signs ∧ (symbol = ']' → front.depth ≠ 0) then [symbol] else [] := by
  have earlier : front.zipIdx.filter (Heeds (front ++ [symbol])) =
      front.zipIdx.filter front.Heeds := by
    apply List.filter_congr
    intro entry member
    simp only [heeds_append_symbol symbol member]
  rw [heeded, List.zipIdx_append, List.filter_append, List.map_append, earlier, ← heeded]
  simp only [List.zipIdx_singleton, Nat.zero_add, List.filter_singleton, heeds_last,
    Bool.cond_decide, apply_ite (List.map Prod.fst), List.map_singleton, List.map_nil]

/-! Nothing that is heeded closes more than is open, and what it leaves open is
closed at the end. -/

theorem closing_depth_heeded (word : Word) : closingDepth? 0 word.heeded = some word.depth := by
  induction word using List.reverseRecOn with
  | nil => rfl
  | append_singleton front symbol induction =>
      rw [heeded_append_symbol, closing_depth_append, induction, Option.bind_some,
        depth_append_symbol]
      by_cases opening : symbol = '['
      · subst opening
        rfl
      by_cases closing : symbol = ']'
      · subst closing
        cases deep : depth front with
        | zero => rfl
        | succ level => rfl
      · rw [depth_after_plain _ opening closing]
        split
        · exact closing_depth_plain _ [] opening closing
        · rfl

theorem closing_depth_replicate (depth : Nat) :
    closingDepth? depth (List.replicate depth ']') = some 0 := by
  induction depth with
  | zero => rfl
  | succ depth induction => exact induction

theorem mended_nested (word : Word) : word.mended.ProperlyNested := by
  rw [← is_nested_iff, nested_iff_closing, mended, closing_depth_append, closing_depth_heeded,
    open_places_card]
  exact closing_depth_replicate _

end Word

variable {σ α : Type} [Scalar α]

namespace Walk

section Mending

variable [ChanceSource σ α] (parameters : GrowthParameters α) (jitter : JitterBands α)

theorem step_unheeded {walk : Walk α} {symbol : Char}
    (unheeded : ¬ (symbol ∈ signs ∧ (symbol = ']' → walk.saved.length ≠ 0))) :
    (walk.step parameters jitter symbol : Drawing σ (Walk α)) = pure walk := by
  by_cases closing : symbol = ']'
  · subst closing
    have nothing : walk.saved = [] := by simpa [signs] using unheeded
    rw [step, close_branch_of_nothing_saved nothing]
  · have unknown : symbol ∉ signs :=
      fun known => unheeded ⟨known, fun closes => absurd closes closing⟩
    simp only [signs, List.mem_cons, List.not_mem_nil, or_false, not_or] at unknown
    obtain ⟨noSegment, noLeaf, noPlus, noMinus, noOpening, noClosing⟩ := unknown
    rw [step] <;> assumption

theorem along_heeded {walk : Walk α} (nothing : walk.saved = []) (word : Word) (source : σ) :
    (along parameters jitter word.heeded walk).run source =
      (along parameters jitter word walk).run source := by
  induction word using List.reverseRecOn with
  | nil => rfl
  | append_singleton front symbol induction =>
      rw [Word.heeded_append_symbol, along_append, along_append, run_bind, run_bind, induction]
      rcases ran : (along parameters jitter front walk).run source with ⟨fault | between, later⟩
      · rfl
      have saved := strides_saved_length (strides_of_returned ran)
      rw [nothing] at saved
      have deep : between.saved.length = Word.depth front := saved
      dsimp only
      rw [← deep]
      split_ifs with heeded
      · rfl
      · simp only [along, step_unheeded parameters jitter heeded, pure_bind]

/-- Closing brackets alone draw nothing. -/
theorem along_closing (count : Nat) (walk : Walk α) (source : σ) :
    ∃ last : Walk α, (along parameters jitter (List.replicate count ']') walk).run source =
        (.ok last, source) ∧ last.interpretation = walk.interpretation := by
  induction count generalizing walk with
  | zero => exact ⟨walk, rfl, rfl⟩
  | succ count induction =>
      obtain ⟨last, closed, same⟩ := induction walk.closeBranch
      refine ⟨last, closed, same.trans ?_⟩
      obtain ⟨branches, leaves⟩ := close_branch_draws_nothing walk
      rw [interpretation, branches, leaves]
      rfl

end Mending

end Walk

/-- A word of any shape draws what its mended word draws, which is nested, or fails as it does; and
it leaves the source of chance in the same state. -/
theorem interpret_mended [ChanceSource σ α] (word : Word) (parameters : GrowthParameters α)
    (surface : Surface α) (jitter : JitterBands α) :
    word.mended.ProperlyNested ∧ ∀ source : σ,
      (interpret word parameters surface jitter).run source =
        (interpret word.mended parameters surface jitter).run source := by
  refine ⟨word.mended_nested, ?_⟩
  intro source
  rw [interpret, interpret, Word.mended, Walk.along_append, bind_assoc, run_bind, run_bind,
    Walk.along_heeded parameters jitter rfl]
  rcases (Walk.along parameters jitter word (Walk.initial parameters surface)).run source with
    ⟨fault | last, later⟩
  · rfl
  · obtain ⟨closed, returned, same⟩ :=
      Walk.along_closing parameters jitter word.openPlaces.card last later
    simp only [run_bind, returned, run_pure, same]

example : Word.mended "F]X[+Q[F".toList = "FX[+[F]]".toList := by decide

end Arboretum

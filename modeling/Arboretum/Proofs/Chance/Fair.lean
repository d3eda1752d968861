import Arboretum.Proofs.Number.Exact
import Arboretum.Proofs.Chance.Refusal
import Mathlib.Tactic.Linarith

/-!
Drawings from fair sources, over exact numbers. What a drawing gives is told without its source:
whatever it is drawn from, the value is good or the source has given up. Drawings put together give
what their parts give, so a fact about drawn values follows the way in which they are drawn.
-/

namespace Arboretum

open Fallible

set_option autoImplicit false

variable {σ β γ : Type} [ChanceSource σ ℝ]

/-- Numbers of the unit interval without its upper end, and choices among what
there is to choose. -/
structure Fair (σ : Type) [ChanceSource σ ℝ] : Prop where
  within : ∀ source : σ, 0 ≤ (ChanceSource.draw source).1 ∧ (ChanceSource.draw source).1 < 1
  among : ∀ (count : Nat) (source : σ) (chosen : Nat), 0 < count →
    (ChanceSource.choose count source).1 = .ok chosen → chosen < count

namespace Drawing

/-- From every source the drawing returns something good, or fails with a fault of the source. -/
def Gives (good : β → Prop) (drawing : Drawing σ β) : Prop :=
  ∀ source, (∀ value, (drawing.run source).1 = .ok value → good value) ∧
    ∀ fault, (drawing.run source).1 = .error fault → ChanceFault σ fault

theorem gives_pure {good : β → Prop} {value : β} (here : good value) :
    Gives good (pure value : Drawing σ β) := by
  intro source
  refine ⟨fun other same => ?_, fun fault failed => by cases failed⟩
  cases same
  exact here

theorem gives_mono {good better : β → Prop} {drawing : Drawing σ β}
    (wider : ∀ value, better value → good value) (gives : Gives better drawing) :
    Gives good drawing :=
  fun source => ⟨fun value drew => wider value ((gives source).1 value drew), (gives source).2⟩

theorem gives_bind {early : β → Prop} {good : γ → Prop} {first : Drawing σ β}
    {next : β → Drawing σ γ} (before : Gives early first)
    (after : ∀ value, early value → Gives good (next value)) : Gives good (first >>= next) := by
  intro source
  obtain ⟨value, fault⟩ := before source
  rw [run_bind]
  rcases ran : first.run source with ⟨failure | drawn, later⟩
  · rw [ran] at fault
    refine ⟨fun _ returned => (by cases returned), fun other failed => ?_⟩
    cases failed
    exact fault failure rfl
  · rw [ran] at value
    exact after drawn (value drawn rfl) later

theorem unit_gives (fair : Fair σ) :
    Gives (fun share : ℝ => 0 ≤ share ∧ share < 1) (Drawing.unit : Drawing σ ℝ) := by
  intro source
  refine ⟨fun share drew => ?_, fun fault failed => by cases failed⟩
  cases drew
  exact fair.within source

theorem between_gives (fair : Fair σ) {low high : ℝ} (ordered : low ≤ high) :
    Gives (fun value => low ≤ value ∧ value ≤ high) (Drawing.between low high : Drawing σ ℝ) := by
  refine gives_bind (unit_gives fair) fun share within => gives_pure ⟨?_, ?_⟩
  · have := mul_nonneg (sub_nonneg.mpr ordered) within.1
    linarith
  · have := mul_le_mul_of_nonneg_left within.2.le (sub_nonneg.mpr ordered)
    linarith

theorem index_gives (fair : Fair σ) {count : Nat} (positive : 0 < count) :
    Gives (· < count) (Drawing.index count : Drawing σ Nat) :=
  fun source => ⟨fun chosen chose => fair.among count source chosen positive chose,
    fun _ refused => ⟨count, source, refused⟩⟩

theorem one_of_gives [Inhabited β] (fair : Fair σ) {choices : List β} (nonempty : choices ≠ []) :
    Gives (· ∈ choices) (Drawing.oneOf choices : Drawing σ β) := by
  refine gives_bind (index_gives fair (List.length_pos_iff.mpr nonempty)) fun chosen below =>
    gives_pure ?_
  rw [← List.getElem_eq_getD (h := below)]
  exact List.getElem_mem below

end Drawing

end Arboretum

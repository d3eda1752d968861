import Arboretum.Palette
import Arboretum.Proofs.Fallible

/-!
What a source of chance refuses. A number can always be drawn from it, but it may give up on a
choice; so a drawing that only draws and chooses fails with the faults of its source alone. A
color is always chosen from some shades, so there a source that gives up has refused although
it had something to choose from.
-/

namespace Arboretum

open Fallible

set_option autoImplicit false

/-- The faults of a source of chance. -/
def ChanceFault (σ : Type) {α : Type} [ChanceSource σ α] (fault : Fault) : Prop :=
  ∃ (count : Nat) (source : σ), (ChanceSource.choose count source).1 = .error fault

/-- The faults of a source of chance where there is something to choose. -/
def Refuses (σ : Type) {α : Type} [ChanceSource σ α] (fault : Fault) : Prop :=
  ∃ (count : Nat) (source : σ), 0 < count ∧ (ChanceSource.choose count source).1 = .error fault

theorem chance_fault_of_refuses {σ α : Type} [ChanceSource σ α] {fault : Fault}
    (refuses : Refuses σ fault) : ChanceFault σ fault := by
  obtain ⟨count, source, _, refused⟩ := refuses
  exact ⟨count, source, refused⟩

theorem palette_for_mem (index : Int) : paletteFor index ∈ seasonalPalettes := by
  have positive : (0 : Int) < seasonalPalettes.length := by decide
  have season := Int.emod_lt_of_pos index positive
  have least := Int.emod_nonneg index (Int.ne_of_gt positive)
  have within : (index % (seasonalPalettes.length : Int)).toNat < seasonalPalettes.length := by
    omega
  rw [paletteFor, ← List.getElem_eq_getD (h := within)]
  exact List.getElem_mem within

theorem palette_for_ne_nil (index : Int) : paletteFor index ≠ [] :=
  (by decide : ∀ palette ∈ seasonalPalettes, palette ≠ []) _ (palette_for_mem index)

namespace Drawing

variable {σ α : Type} [ChanceSource σ α] {comes : Fault → Prop}

theorem unit_endures : Endures (fun _ : σ => True) comes (Drawing.unit : Drawing σ α) :=
  fun _ _ => trivial

theorem index_endures {count : Nat} (positive : 0 < count) :
    Endures (fun _ : σ => True) (Refuses σ) (Drawing.index count) := by
  refine endures_of_leads (fun _ => id) ?_
  intro source _ fault refused
  exact ⟨count, source, positive, refused⟩

theorem leaf_color_endures (paletteIndex : Int) :
    Endures (fun _ : σ => True) (Refuses σ) (leafColor paletteIndex) := by
  have shades := List.length_pos_iff.mpr (palette_for_ne_nil paletteIndex)
  exact endures_bind (index_endures shades) fun _ => endures_pure _

variable [Scalar α]

theorem between_endures (low high : α) :
    Endures (fun _ : σ => True) comes (Drawing.between low high) :=
  endures_bind unit_endures fun _ => endures_pure _

end Drawing

end Arboretum

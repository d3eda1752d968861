import Arboretum.Chance.Source
import Arboretum.Proofs.Fallible

/-!
Two drawings side by side. Wherever both of them return, what they return agrees and their sources
are still linked; so a relation between two ways of growing is proved by going through both of them
step by step, as one goes through a single one.
-/

namespace Arboretum.Drawing

open Fallible

set_option autoImplicit false

variable {σ τ β γ β' γ' : Type}

/-- From linked sources, two drawings that both return give values that agree and
leave their sources linked. -/
def Coupled (link : σ → τ → Prop) (agree : β → γ → Prop) (first : Drawing σ β)
    (second : Drawing τ γ) : Prop :=
  ∀ (one : σ) (other : τ), link one other →
    ∀ value one' value' other', first.run one = (.ok value, one') →
      second.run other = (.ok value', other') → agree value value' ∧ link one' other'

section Coupled

variable {link : σ → τ → Prop} {agree : β → γ → Prop} {agree' : β' → γ' → Prop}

theorem coupled_pure {value : β} {value' : γ} (agrees : agree value value') :
    Coupled link agree (pure value) (pure value') := by
  intro one other linked _ _ _ _ ran ran'
  rw [run_pure] at ran ran'
  cases ran
  cases ran'
  exact ⟨agrees, linked⟩

theorem coupled_lift {value : Except Fault β} {value' : Except Fault γ}
    (agrees : ∀ there there', value = .ok there → value' = .ok there' → agree there there') :
    Coupled link agree (liftM value) (liftM value') := by
  intro one other linked _ _ _ _ ran ran'
  rw [run_lift] at ran ran'
  cases ran
  cases ran'
  exact ⟨agrees _ _ rfl rfl, linked⟩

theorem coupled_bind {first : Drawing σ β} {second : Drawing τ γ} {next : β → Drawing σ β'}
    {next' : γ → Drawing τ γ'} (coupled : Coupled link agree first second)
    (coupledNext : ∀ value value', agree value value' →
      Coupled link agree' (next value) (next' value')) :
    Coupled link agree' (first >>= next) (second >>= next') := by
  intro one other linked value one' value' other' ran ran'
  rw [run_bind] at ran ran'
  rcases drew : first.run one with ⟨fault | early, between⟩
  · rw [drew] at ran
    cases ran
  rcases drew' : second.run other with ⟨fault | early', between'⟩
  · rw [drew'] at ran'
    cases ran'
  rw [drew] at ran
  rw [drew'] at ran'
  obtain ⟨agrees, linkedBetween⟩ :=
    coupled one other linked early between early' between' drew drew'
  exact coupledNext early early' agrees between between' linkedBetween value one' value' other'
    ran ran'

end Coupled

theorem coupled_refl (drawing : Drawing σ β) : Coupled Eq Eq drawing drawing := by
  intro one other linked value one' value' other' ran ran'
  cases linked
  rw [ran] at ran'
  cases ran'
  exact ⟨rfl, rfl⟩

theorem coupled_between {α : Type} [Scalar α] [ChanceSource σ α] (low high low' high' : α) :
    Coupled (σ := σ) Eq (fun _ _ => True) (between low high) (between low' high') :=
  coupled_bind (coupled_refl unit) (fun _ _ _ => coupled_pure trivial)

end Arboretum.Drawing

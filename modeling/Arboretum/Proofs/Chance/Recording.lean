import Arboretum.Chance.Source
import Arboretum.Proofs.Fallible

/-!
Sources that remember what was drawn from them. A drawing cannot tell a source from its recording:
it returns the same from both and leaves both alike. So the draws of a recording are the draws of
the drawing, and two drawings draw alike when their recordings end up alike.
-/

namespace Arboretum

open Fallible

set_option autoImplicit false

/-- What was drawn: a number of the unit interval, or one of several choices, if
it could be made. -/
inductive Draw (α : Type) where
  | unit (value : α)
  | choice (count : Nat) (chosen : Except Fault Nat)

/-- A source and what has been drawn from it, in order. -/
structure Recorded (σ α : Type) where
  source : σ
  draws : List (Draw α)

variable {σ α β γ : Type}

instance [ChanceSource σ α] : ChanceSource (Recorded σ α) α where
  draw recorded :=
    let (value, source) := ChanceSource.draw recorded.source
    (value, ⟨source, recorded.draws ++ [.unit value]⟩)
  choose count recorded :=
    let (chosen, source) := ChanceSource.choose count recorded.source
    (chosen, ⟨source, recorded.draws ++ [.choice count chosen]⟩)

namespace Drawing

/-- A drawing from a source and one from its recording do the same, and the
recording grows by what was drawn. -/
def Mirrored (plain : Drawing σ β) (recorded : Drawing (Recorded σ α) β) : Prop :=
  ∀ (source : σ) (draws : List (Draw α)), ∃ more,
    recorded.run ⟨source, draws⟩ =
      ((plain.run source).1, ⟨(plain.run source).2, draws ++ more⟩)

theorem mirrored_pure (value : β) :
    Mirrored (σ := σ) (α := α) (pure value) (pure value) := by
  intro source draws
  refine ⟨[], ?_⟩
  rw [run_pure, run_pure, List.append_nil]

theorem mirrored_lift (value : Except Fault β) :
    Mirrored (σ := σ) (α := α) (liftM value) (liftM value) := by
  intro source draws
  refine ⟨[], ?_⟩
  rw [run_lift, run_lift, List.append_nil]

theorem mirrored_bind {plain : Drawing σ β} {recorded : Drawing (Recorded σ α) β}
    {next : β → Drawing σ γ} {next' : β → Drawing (Recorded σ α) γ}
    (mirrored : Mirrored plain recorded)
    (mirroredNext : ∀ value, Mirrored (next value) (next' value)) :
    Mirrored (plain >>= next) (recorded >>= next') := by
  intro source draws
  obtain ⟨early, ranEarly⟩ := mirrored source draws
  rw [run_bind, run_bind, ranEarly]
  rcases plain.run source with ⟨fault | value, between⟩
  · exact ⟨early, rfl⟩
  · obtain ⟨late, ranLate⟩ := mirroredNext value between (draws ++ early)
    refine ⟨early ++ late, ?_⟩
    dsimp only
    rw [ranLate, List.append_assoc]

variable [ChanceSource σ α]

theorem mirrored_unit : Mirrored (σ := σ) (α := α) unit unit := by
  intro source draws
  exact ⟨[.unit (ChanceSource.draw source).1], rfl⟩

theorem mirrored_index (count : Nat) : Mirrored (σ := σ) (α := α) (index count) (index count) := by
  intro source draws
  exact ⟨[.choice count (ChanceSource.choose count source).1], rfl⟩

theorem mirrored_one_of [Inhabited β] (choices : List β) :
    Mirrored (σ := σ) (α := α) (oneOf choices) (oneOf choices) :=
  mirrored_bind (mirrored_index _) (fun _ => mirrored_pure _)

theorem mirrored_between [Scalar α] (low high : α) :
    Mirrored (σ := σ) (α := α) (between low high) (between low high) :=
  mirrored_bind mirrored_unit (fun _ => mirrored_pure _)

end Drawing

end Arboretum

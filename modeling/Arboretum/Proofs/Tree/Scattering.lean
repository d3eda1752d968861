import Arboretum.Proofs.Chance.Recording
import Arboretum.Proofs.Tree.Stature
import Arboretum.Tree.Scatter

/-!
The stop of the scattering. A pass over the branches only ever puts leaves behind those there are,
so once there are as many as the target allows, what the remaining branches would add is cut off
again. Stopping there spares the draws of those branches and nothing else: the pass is the full pass
over the branches that it has come to, and its cut is the cut of the pass over all of them.
-/

namespace Arboretum

open Fallible

set_option autoImplicit false

variable {σ α : Type} [Scalar α] [ChanceSource σ α]

namespace Scatter

variable (parameters : GrowthParameters α) (jitter : JitterBands α)

/-- The leaves after going through all of the branches in order, however many there are. -/
def throughout : List (Branch α) → Array (LeafSite α) → Drawing σ (Array (LeafSite α))
  | [], leaves => pure leaves
  | branch :: rest, leaves => do
      let more ← added parameters jitter branch
      throughout rest (leaves ++ more)

variable {parameters jitter}

theorem throughout_append (front back : List (Branch α)) (leaves : Array (LeafSite α)) :
    (throughout parameters jitter (front ++ back) leaves : Drawing σ (Array (LeafSite α))) =
      throughout parameters jitter front leaves >>= throughout parameters jitter back := by
  induction front generalizing leaves with
  | nil => rw [List.nil_append, throughout, pure_bind]
  | cons branch front induction => simp only [List.cons_append, throughout, induction, bind_assoc]

/-- A full pass keeps the leaves that there were, in front of all others. -/
theorem throughout_extends {branches : List (Branch α)} {leaves all : Array (LeafSite α)}
    {source later : σ}
    (returned : (throughout parameters jitter branches leaves).run source = (.ok all, later)) :
    leaves.toList <+: all.toList := by
  induction branches generalizing leaves source with
  | nil =>
      cases returned
      exact List.prefix_rfl
  | cons branch branches induction =>
      obtain ⟨more, middle, _, returned⟩ := (run_bind_eq_ok _ _ _ _ _).mp returned
      have longer := induction returned
      rw [Array.toList_appendList] at longer
      exact (List.prefix_append _ _).trans longer

/-- A pass that may stop is the full pass over the branches that it comes to. It comes to all of
them, or stops with as many leaves as the target asks for. -/
theorem along_is_throughout_visited (parameters : GrowthParameters α) (jitter : JitterBands α)
    (target : Nat) (branches : List (Branch α)) (leaves : Array (LeafSite α)) (source : σ) :
    ∃ visited skipped, branches = visited ++ skipped ∧
      let part := (throughout parameters jitter visited leaves).run source
      (along parameters jitter target branches leaves).run source = part ∧
        (skipped = [] ∨ ∃ all, part.1 = .ok all ∧ target ≤ all.size) := by
  induction branches generalizing leaves source with
  | nil => exact ⟨[], [], rfl, rfl, .inl rfl⟩
  | cons branch branches induction =>
      rcases ran : (added parameters jitter branch).run source with ⟨fault | more, middle⟩
      · refine ⟨branch :: branches, [], (List.append_nil _).symm, ?_, .inl rfl⟩
        rw [along, throughout, run_bind, run_bind, ran]
      · by_cases full : (!more.isEmpty && decide (target ≤ (leaves ++ more).size)) = true
        · refine ⟨[branch], branches, rfl, ?_, .inr ⟨leaves ++ more, ?_, ?_⟩⟩
          · rw [along, throughout, run_bind, run_bind, ran]
            simp only [full, if_true, throughout]
          · rw [throughout, run_bind, ran]
            rfl
          · exact of_decide_eq_true (Bool.and_eq_true_iff.mp full).2
        · obtain ⟨visited, skipped, split, same, stops⟩ := induction (leaves ++ more) middle
          have goesOn : (throughout parameters jitter (branch :: visited) leaves).run source =
              (throughout parameters jitter visited (leaves ++ more)).run middle := by
            rw [throughout, run_bind, ran]
          refine ⟨branch :: visited, skipped, by rw [split, List.cons_append], ?_⟩
          rw [goesOn]
          refine ⟨?_, stops⟩
          rw [along, run_bind, ran]
          simp only [full]
          exact same

theorem run_scatter_leaves (branches : List (Branch α)) (leaves : List (LeafSite α))
    (wanted : 0 < parameters.leafDensityTarget) (source : σ) :
    (scatterLeaves branches leaves parameters jitter).run source =
      let pass := (along parameters jitter parameters.leafDensityTarget.toNat branches
        leaves.toArray).run source
      (pass.1.map fun all => all.toList.take parameters.leafDensityTarget.toNat, pass.2) := by
  unfold scatterLeaves
  rw [if_neg (Int.not_le.mpr wanted)]
  change (along parameters jitter _ branches leaves.toArray >>= fun all => pure _).run source = _
  rw [run_bind]
  rcases (along parameters jitter _ branches leaves.toArray).run source with ⟨fault | all, later⟩
  · rfl
  · rfl

/-- A pass over more branches fails as the pass over the first of them does. -/
theorem throughout_fault {visited : List (Branch α)} {leaves : Array (LeafSite α)} {source : σ}
    {fault : Fault} (skipped : List (Branch α))
    (failed : ((throughout parameters jitter visited leaves).run source).1 = .error fault) :
    ((throughout parameters jitter (visited ++ skipped) leaves).run source).1 = .error fault := by
  rw [throughout_append, run_bind]
  rcases ran : (throughout parameters jitter visited leaves).run source with ⟨other | part, middle⟩
  · rwa [ran] at failed
  · rw [ran] at failed
    cases failed

/-- Once there are as many leaves as a cut keeps, or no branches are left, a pass over more
branches comes to the same cut. -/
theorem throughout_cut {target : Nat} {visited skipped : List (Branch α)}
    {leaves all : Array (LeafSite α)} {source later : σ}
    (stops : skipped = [] ∨
      ∃ part, ((throughout parameters jitter visited leaves).run source).1 = .ok part ∧
        target ≤ part.size)
    (returned : (throughout parameters jitter (visited ++ skipped) leaves).run source =
      (.ok all, later)) :
    ∃ part, ((throughout parameters jitter visited leaves).run source).1 = .ok part ∧
      part.toList.take target = all.toList.take target := by
  rw [throughout_append] at returned
  obtain ⟨part, middle, came, rest⟩ := (run_bind_eq_ok _ _ _ _ _).mp returned
  refine ⟨part, congrArg Prod.fst came, ?_⟩
  rcases stops with nothing | ⟨_, same, enough⟩
  · subst nothing
    cases rest
    rfl
  · rw [came] at same
    cases same
    obtain ⟨more, longer⟩ := throughout_extends rest
    rw [← longer, List.take_append_of_le_length]
    exact enough

end Scatter

/-- The scattering gives the first leaves, as many as the target says, of those that there
would be after going through all of the branches; with no target above zero it gives none and
draws nothing. It draws as the full pass over some first branches, and leaves out the others
only when there are leaves enough. -/
theorem early_stop_spares_draws_only (branches : List (Branch α)) (leaves : List (LeafSite α))
    (parameters : GrowthParameters α) (jitter : JitterBands α) (source : σ) :
    let target := parameters.leafDensityTarget.toNat
    let full := fun visited : List (Branch α) =>
      (Scatter.throughout parameters jitter visited leaves.toArray).run source
    let scattering := (scatterLeaves branches leaves parameters jitter).run source
    (∀ all, (full branches).1 = .ok all → scattering.1 = .ok (all.toList.take target)) ∧
      (parameters.leafDensityTarget ≤ 0 → scattering = (.ok [], source)) ∧
      (0 < parameters.leafDensityTarget → ∃ visited skipped, branches = visited ++ skipped ∧
        scattering = ((full visited).1.map fun all => all.toList.take target, (full visited).2) ∧
        (skipped = [] ∨ ∃ all, (full visited).1 = .ok all ∧ target ≤ all.size)) ∧
      (∀ fault, scattering.1 = .error fault → (full branches).1 = .error fault) := by
  intro target full scattering
  rcases Int.lt_or_le 0 parameters.leafDensityTarget with wanted | unwanted
  · obtain ⟨visited, skipped, rfl, same, stops⟩ :=
      Scatter.along_is_throughout_visited parameters jitter target branches leaves.toArray source
    have ran : scattering =
        ((full visited).1.map fun all => all.toList.take target, (full visited).2) := by
      refine (Scatter.run_scatter_leaves _ leaves wanted source).trans ?_
      rw [same]
    refine ⟨?_, fun unwanted => absurd wanted (Int.not_lt.mpr unwanted),
      fun _ => ⟨visited, skipped, rfl, ran, stops⟩, ?_⟩
    · intro all returned
      obtain ⟨later, returned⟩ := returned_of_outcome returned
      obtain ⟨part, came, cut⟩ := Scatter.throughout_cut stops returned
      rw [ran, ← cut]
      exact congrArg (Except.map fun all : Array (LeafSite α) => all.toList.take target) came
    · intro fault failed
      apply Scatter.throughout_fault
      rw [ran] at failed
      change (full visited).1 = .error fault
      cases outcome : (full visited).1 with
      | error other =>
          rw [outcome] at failed
          cases failed
          rfl
      | ok part =>
          rw [outcome] at failed
          cases failed
  · have stays : scattering = (.ok [], source) := by
      change (scatterLeaves branches leaves parameters jitter).run source = _
      rw [scatterLeaves, if_pos unwanted]
      rfl
    refine ⟨?_, fun _ => stays, fun wanted => absurd wanted (Int.not_lt.mpr unwanted), ?_⟩
    · intro all _
      rw [stays, show target = 0 from Int.toNat_of_nonpos unwanted, List.take_zero]
    · intro fault failed
      rw [stays] at failed
      cases failed

/-! Three twigs off the trunk and a target of two leaves. The last twig would add a third. -/

def threeTwigs : List (Branch Float) :=
  [⟨⟨300.0, 600.0⟩, ⟨310.0, 580.0⟩, 3.0, 1, "twig", false⟩,
    ⟨⟨310.0, 580.0⟩, ⟨320.0, 560.0⟩, 2.0, 2, "twig", false⟩,
    ⟨⟨310.0, 580.0⟩, ⟨300.0, 560.0⟩, 2.0, 2, "twig", false⟩]

def twoLeavesWanted : GrowthParameters Float := { lopsidedParameters with leafDensityTarget := 2 }

def recordedScript : Recorded Chance.Source Float := ⟨.ofValues [0.25, 0.5], []⟩

theorem early_stop_spares_the_last_twig :
    let full := (Scatter.throughout twoLeavesWanted .usual threeTwigs #[]).run recordedScript
    let scattering := (scatterLeaves threeTwigs [] twoLeavesWanted .usual).run recordedScript
    ∃ all, full.1 = .ok all ∧ all.size = 3 ∧ scattering.1 = .ok (all.toList.take 2) ∧
      scattering.2.draws.length < full.2.draws.length := by
  intro full scattering
  have three : full.1.toOption.map Array.size = some 3 := by decide +kernel
  obtain ⟨all, returned⟩ : ∃ all, full.1 = .ok all := by
    apply ok_of_is_ok
    decide +kernel
  rw [returned] at three
  obtain ⟨cut, -, -, -⟩ :=
    early_stop_spares_draws_only threeTwigs [] twoLeavesWanted .usual recordedScript
  exact ⟨all, returned, Option.some.inj three, cut all returned, by decide +kernel⟩

end Arboretum

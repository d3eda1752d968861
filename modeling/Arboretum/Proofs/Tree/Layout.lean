import Arboretum.Proofs.Chance.Coupling
import Arboretum.Tree.Growth
import Mathlib.Data.List.Forall2

/-!
What a tree owes to the surface and the jitter. Two growths of one score from one source draw the
same random values in the same order, whatever the surfaces and the bands; so the trees have the
same branches and leaves, and differ in where these are and how long the segments were meant to be.
-/

namespace Arboretum

open Drawing Fallible

set_option autoImplicit false

variable {σ α : Type}

/-! Parts that differ in their coordinates and the length of segments alone. -/

def Branch.Alike (one other : Branch α) : Prop :=
  other = { one with start := other.start, finish := other.finish }

def LeafSite.Alike (one other : LeafSite α) : Prop :=
  other = { one with position := other.position }

def GrowthParameters.Alike (one other : GrowthParameters α) : Prop :=
  other = { one with baseSegmentLength := other.baseSegmentLength }

/-- Two turtles that draw alike, wherever they are. -/
structure Turtle.Alike (one other : Turtle α) : Prop where
  thickness : other.thickness = one.thickness
  level : other.level = one.level

/-- Two walks that have drawn alike and will. -/
structure Walk.Alike (one other : Walk α) : Prop where
  turtle : one.turtle.Alike other.turtle
  saved : List.Forall₂ Turtle.Alike one.saved other.saved
  branches : List.Forall₂ Branch.Alike one.branches.toList other.branches.toList
  leaves : List.Forall₂ LeafSite.Alike one.leaves.toList other.leaves.toList

theorem turtle_branch_alike {one other : Turtle α} (alike : one.Alike other)
    (finish finish' : Point α) : (one.branchTo finish).Alike (other.branchTo finish') := by
  rw [Branch.Alike, Turtle.branchTo, Turtle.branchTo, alike.thickness, alike.level]

theorem forall_two_push {β : Type} {agree : β → β → Prop} {one other : Array β} {value value' : β}
    (agrees : List.Forall₂ agree one.toList other.toList) (last : agree value value') :
    List.Forall₂ agree (one.push value).toList (other.push value').toList := by
  rw [Array.toList_push, Array.toList_push]
  exact List.rel_append agrees (.cons last .nil)

theorem close_branch_alike {one other : Walk α} (alike : one.Alike other) :
    one.closeBranch.Alike other.closeBranch := by
  have saved := alike.saved
  cases was : one.saved with
  | nil =>
      rw [was] at saved
      have was' := List.forall₂_nil_left_iff.mp saved
      rw [Walk.closeBranch, Walk.closeBranch, was, was']
      exact alike
  | cons turtle rest =>
      rw [was] at saved
      obtain ⟨turtle', rest', alikeTurtle, alikeRest, was'⟩ := List.forall₂_cons_left_iff.mp saved
      rw [Walk.closeBranch, Walk.closeBranch, was, was']
      exact ⟨alikeTurtle, alikeRest, alike.branches, alike.leaves⟩

variable [Scalar α]

/-- The scale of the surface goes into the length of segments only. -/
theorem of_score_alike (score sizeScale sizeScale' : α) :
    (GrowthParameters.ofScore score sizeScale).Alike (.ofScore score sizeScale') := by
  rw [GrowthParameters.Alike, GrowthParameters.ofScore, GrowthParameters.ofScore]
  by_cases seed : (Score.sanitize score == 0.0) = true
  · simp only [seed, if_true]
  · simp only [seed, Bool.false_eq_true, if_false]

theorem initial_walk_alike {parameters parameters' : GrowthParameters α}
    (alike : parameters.Alike parameters') (surface surface' : Surface α) :
    (Walk.initial parameters surface).Alike (.initial parameters' surface') := by
  refine ⟨⟨?_, rfl⟩, .nil, .nil, .nil⟩
  change parameters'.baseThickness = parameters.baseThickness
  rw [alike]

section Steps

variable {parameters parameters' : GrowthParameters α} {one other : Walk α}

theorem open_branch_alike (alikeParameters : parameters.Alike parameters')
    (alike : one.Alike other) :
    (one.openBranch parameters).Alike (other.openBranch parameters') := by
  refine ⟨⟨?_, ?_⟩, .cons alike.turtle alike.saved, alike.branches, alike.leaves⟩
  · change other.turtle.thickness * parameters'.thicknessDecay =
      one.turtle.thickness * parameters.thicknessDecay
    rw [alike.turtle.thickness, alikeParameters]
  · change other.turtle.level + 1 = one.turtle.level + 1
    rw [alike.turtle.level]

variable [ChanceSource σ α]

theorem jittered_coupled (spread spread' : α) (point point' : Point α) :
    Coupled (σ := σ) Eq (fun _ _ => True) (Turtle.jittered spread point)
      (Turtle.jittered spread' point') :=
  coupled_bind (coupled_between _ _ _ _) (fun _ _ _ =>
    coupled_bind (coupled_between _ _ _ _) (fun _ _ _ => coupled_pure trivial))

theorem leaf_at_coupled (alike : parameters.Alike parameters') (jitter jitter' : JitterBands α)
    (point point' : Point α) :
    Coupled (σ := σ) Eq LeafSite.Alike (Turtle.leafAt parameters jitter point)
      (Turtle.leafAt parameters' jitter' point') := by
  apply coupled_bind (jittered_coupled _ _ _ _)
  intro position position' _
  apply coupled_bind (coupled_refl _)
  rintro size _ rfl
  apply coupled_bind (coupled_refl _)
  rintro rotation _ rfl
  apply coupled_bind (coupled_refl _)
  rintro share _ rfl
  by_cases flower : share < Turtle.flowerProbability
  · rw [if_pos flower, if_pos flower]
    exact coupled_pure rfl
  · rw [if_neg flower, if_neg flower, show parameters'.paletteIndex = parameters.paletteIndex by
      rw [alike]]
    apply coupled_bind (coupled_refl _)
    rintro color _ rfl
    exact coupled_pure rfl

theorem draw_segment_coupled (parameters parameters' : GrowthParameters α)
    (jitter jitter' : JitterBands α) (alike : one.Alike other) :
    Coupled (σ := σ) Eq Walk.Alike (one.drawSegment parameters jitter)
      (other.drawSegment parameters' jitter') := by
  apply coupled_bind (coupled_between _ _ _ _)
  intro _ _ _
  apply coupled_bind (coupled_lift (fun _ _ _ _ => trivial))
  intro finish finish' _
  exact coupled_pure ⟨⟨alike.turtle.thickness, alike.turtle.level⟩, alike.saved,
    forall_two_push alike.branches (turtle_branch_alike alike.turtle finish finish'), alike.leaves⟩

theorem place_leaf_coupled (alikeParameters : parameters.Alike parameters')
    (jitter jitter' : JitterBands α) (alike : one.Alike other) :
    Coupled (σ := σ) Eq Walk.Alike (one.placeLeaf parameters jitter)
      (other.placeLeaf parameters' jitter') :=
  coupled_bind (leaf_at_coupled alikeParameters jitter jitter' _ _) (fun _ _ alikeLeaf =>
    coupled_pure
      ⟨alike.turtle, alike.saved, alike.branches, forall_two_push alike.leaves alikeLeaf⟩)

theorem turn_coupled (parameters parameters' : GrowthParameters α) (jitter jitter' : JitterBands α)
    (sign : α) (alike : one.Alike other) :
    Coupled (σ := σ) Eq Walk.Alike (one.turn parameters jitter sign)
      (other.turn parameters' jitter' sign) :=
  coupled_bind (coupled_between _ _ _ _) (fun _ _ _ =>
    coupled_pure ⟨⟨alike.turtle.thickness, alike.turtle.level⟩, alike.saved, alike.branches,
      alike.leaves⟩)

theorem step_coupled (alikeParameters : parameters.Alike parameters')
    (jitter jitter' : JitterBands α) (symbol : Char) (alike : one.Alike other) :
    Coupled (σ := σ) Eq Walk.Alike (one.step parameters jitter symbol)
      (other.step parameters' jitter' symbol) := by
  unfold Walk.step
  split
  · exact draw_segment_coupled parameters parameters' jitter jitter' alike
  · exact place_leaf_coupled alikeParameters jitter jitter' alike
  · exact turn_coupled parameters parameters' jitter jitter' _ alike
  · exact turn_coupled parameters parameters' jitter jitter' _ alike
  · exact coupled_pure (open_branch_alike alikeParameters alike)
  · exact coupled_pure (close_branch_alike alike)
  · exact coupled_pure alike

theorem walk_coupled (alikeParameters : parameters.Alike parameters')
    (jitter jitter' : JitterBands α) (word : Word) (alike : one.Alike other) :
    Coupled (σ := σ) Eq Walk.Alike (Walk.along parameters jitter word one)
      (Walk.along parameters' jitter' word other) := by
  induction word generalizing one other with
  | nil => exact coupled_pure alike
  | cons symbol word induction =>
      exact coupled_bind (step_coupled alikeParameters jitter jitter' symbol alike)
        (fun _ _ alikeThen => induction alikeThen)

theorem interpret_coupled (alike : parameters.Alike parameters') (surface surface' : Surface α)
    (jitter jitter' : JitterBands α) (word : Word) :
    Coupled (σ := σ) Eq
      (fun drawn drawn' => List.Forall₂ Branch.Alike drawn.branches drawn'.branches ∧
        List.Forall₂ LeafSite.Alike drawn.leaves drawn'.leaves)
      (interpret word parameters surface jitter) (interpret word parameters' surface' jitter') :=
  coupled_bind
    (walk_coupled alike jitter jitter' word (initial_walk_alike alike surface surface'))
    (fun _ _ alikeWalks => coupled_pure ⟨alikeWalks.branches, alikeWalks.leaves⟩)

/-! Foliage. A branch is passed over or not by its level and by chance alone. -/

theorem leaf_on_coupled (alike : parameters.Alike parameters') (jitter jitter' : JitterBands α)
    (branch branch' : Branch α) :
    Coupled (σ := σ) Eq LeafSite.Alike (Scatter.leafOn parameters jitter branch)
      (Scatter.leafOn parameters' jitter' branch') := by
  have samePalette : parameters'.paletteIndex = parameters.paletteIndex := by rw [alike]
  apply coupled_bind (coupled_refl _)
  intro _ _ _
  apply coupled_bind (jittered_coupled _ _ _ _)
  intro position position' _
  apply coupled_bind (coupled_refl _)
  rintro size _ rfl
  apply coupled_bind (coupled_refl _)
  rintro rotation _ rfl
  rw [samePalette]
  apply coupled_bind (coupled_refl _)
  rintro color _ rfl
  exact coupled_pure rfl

theorem leaves_on_coupled (alike : parameters.Alike parameters') (jitter jitter' : JitterBands α)
    (branch branch' : Branch α) (count : Nat) :
    Coupled (σ := σ) Eq (List.Forall₂ LeafSite.Alike)
      (Scatter.leavesOn parameters jitter branch count)
      (Scatter.leavesOn parameters' jitter' branch' count) := by
  induction count with
  | zero => exact coupled_pure .nil
  | succ count induction =>
      refine coupled_bind (leaf_on_coupled alike jitter jitter' branch branch')
        (fun _ _ alikeLeaf => ?_)
      exact coupled_bind induction (fun _ _ alikeRest => coupled_pure (.cons alikeLeaf alikeRest))

theorem added_coupled (alike : parameters.Alike parameters') (jitter jitter' : JitterBands α)
    {branch branch' : Branch α} (alikeBranch : branch.Alike branch') :
    Coupled (σ := σ) Eq (List.Forall₂ LeafSite.Alike) (Scatter.added parameters jitter branch)
      (Scatter.added parameters' jitter' branch') := by
  have sameLevel : branch'.level = branch.level := by rw [alikeBranch]
  unfold Scatter.added
  rw [sameLevel]
  by_cases trunk : branch.level = 0
  · rw [if_pos trunk, if_pos trunk]
    exact coupled_pure .nil
  rw [if_neg trunk, if_neg trunk]
  apply coupled_bind (coupled_refl _)
  rintro share _ rfl
  by_cases passed : Scatter.probability ≤ share
  · rw [if_pos passed, if_pos passed]
    exact coupled_pure .nil
  rw [if_neg passed, if_neg passed]
  apply coupled_bind (coupled_refl _)
  rintro many _ rfl
  apply coupled_bind (coupled_refl _)
  rintro count _ rfl
  exact leaves_on_coupled alike jitter jitter' branch branch' _

theorem scatter_coupled (alike : parameters.Alike parameters') (jitter jitter' : JitterBands α)
    (target : Nat) {branches branches' : List (Branch α)} {leaves leaves' : Array (LeafSite α)}
    (alikeBranches : List.Forall₂ Branch.Alike branches branches')
    (alikeLeaves : List.Forall₂ LeafSite.Alike leaves.toList leaves'.toList) :
    Coupled (σ := σ) Eq (fun all all' => List.Forall₂ LeafSite.Alike all.toList all'.toList)
      (Scatter.along parameters jitter target branches leaves)
      (Scatter.along parameters' jitter' target branches' leaves') := by
  induction alikeBranches generalizing leaves leaves' with
  | nil => exact coupled_pure alikeLeaves
  | cons alikeBranch _ induction =>
      refine coupled_bind (added_coupled alike jitter jitter' alikeBranch)
        (fun more more' alikeMore => ?_)
      have alikeAll : List.Forall₂ LeafSite.Alike (leaves ++ more).toList
          (leaves' ++ more').toList := by
        rw [Array.toList_appendList, Array.toList_appendList]
        exact List.rel_append alikeLeaves alikeMore
      have sameEmpty : more'.isEmpty = more.isEmpty := by
        cases alikeMore <;> rfl
      have sameSize : (leaves' ++ more').size = (leaves ++ more).size := by
        rw [← Array.length_toList, ← Array.length_toList, alikeAll.length_eq]
      dsimp only
      rw [sameEmpty, sameSize]
      by_cases full : (!more.isEmpty && decide (target ≤ (leaves ++ more).size)) = true
      · rw [if_pos full, if_pos full]
        exact coupled_pure alikeAll
      · rw [if_neg full, if_neg full]
        exact induction alikeAll

theorem scatter_leaves_coupled (alike : parameters.Alike parameters')
    (jitter jitter' : JitterBands α) {branches branches' : List (Branch α)}
    {leaves leaves' : List (LeafSite α)}
    (alikeBranches : List.Forall₂ Branch.Alike branches branches')
    (alikeLeaves : List.Forall₂ LeafSite.Alike leaves leaves') :
    Coupled (σ := σ) Eq (List.Forall₂ LeafSite.Alike)
      (scatterLeaves branches leaves parameters jitter)
      (scatterLeaves branches' leaves' parameters' jitter') := by
  have sameTarget : parameters'.leafDensityTarget = parameters.leafDensityTarget := by rw [alike]
  unfold scatterLeaves
  rw [sameTarget]
  by_cases bare : parameters.leafDensityTarget ≤ 0
  · rw [if_pos bare, if_pos bare]
    exact coupled_pure .nil
  rw [if_neg bare, if_neg bare]
  refine coupled_bind (scatter_coupled alike jitter jitter' _ alikeBranches alikeLeaves)
    (fun _ _ alikeAll => coupled_pure ?_)
  exact List.forall₂_take _ alikeAll

end Steps

/-- Two trees that differ in coordinates and the length of segments alone. -/
structure Tree.Alike (one other : Tree α) : Prop where
  score : other.score = one.score
  parameters : one.parameters.Alike other.parameters
  ruleSet : other.ruleSet = one.ruleSet
  branches : List.Forall₂ Branch.Alike one.branches other.branches
  leaves : List.Forall₂ LeafSite.Alike one.leaves other.leaves

theorem grow_coupled [ChanceSource σ α] (score : α) (surface surface' : Surface α)
    (ruleSet : RuleSet) (jitter jitter' : JitterBands α) :
    Coupled (σ := σ) Eq Tree.Alike (Tree.grow score surface ruleSet jitter)
      (Tree.grow score surface' ruleSet jitter') := by
  have alike := of_score_alike score surface.sizeScale surface'.sizeScale
  unfold Tree.grow
  dsimp only
  have sameCount : (GrowthParameters.ofScore score surface'.sizeScale).iterationCount =
      (GrowthParameters.ofScore score surface.sizeScale).iterationCount := by rw [alike]
  rw [sameCount]
  refine coupled_bind (interpret_coupled alike surface surface' jitter jitter' _)
    (fun drawn drawn' alikeDrawn => ?_)
  refine coupled_bind
    (scatter_leaves_coupled alike jitter jitter' alikeDrawn.1 alikeDrawn.2)
    (fun leaves leaves' alikeLeaves => ?_)
  exact coupled_pure ⟨rfl, alike, rfl, alikeDrawn.1, alikeLeaves⟩

end Arboretum

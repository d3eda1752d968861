import Arboretum.Proofs.Tree.Strides

/-!
What the brackets before a symbol fix. The turtle is lowered by each opening bracket and
brought back by the closing one, so how low it is, how thick it draws and how far it goes
depend on the depth alone: on no draw, on no jitter, and not on how often it has been
lowered and brought back before.
-/

namespace Arboretum

open Fallible

set_option autoImplicit false

variable {σ α : Type} [Scalar α]

/-- A quantity after so many multiplications by its decay. -/
def decayed (quantity decay : α) : Nat → α
  | 0 => quantity
  | depth + 1 => decayed quantity decay depth * decay

/-- A turtle that has been lowered as often as `depth` says. -/
structure Turtle.Lowered (parameters : GrowthParameters α) (depth : Nat)
    (turtle : Turtle α) : Prop where
  level : turtle.level = (depth : Int)
  segmentLength :
    turtle.segmentLength = decayed parameters.baseSegmentLength parameters.lengthDecay depth
  thickness : turtle.thickness = decayed parameters.baseThickness parameters.thicknessDecay depth

/-- A branch as it is drawn at a depth of brackets, whichever way it points. -/
structure Branch.DrawnAt (parameters : GrowthParameters α) (depth : Nat)
    (branch : Branch α) : Prop where
  level : branch.level = (depth : Int)
  colorKey : branch.colorKey = branchColor (depth : Int)
  concealed : branch.revealed = false
  thickness : branch.thickness = decayed parameters.baseThickness parameters.thicknessDecay depth
  finish : ∃ direction : α,
    let length := decayed parameters.baseSegmentLength parameters.lengthDecay depth
    branch.finish.x = branch.start.x + length * Scalar.cosine direction ∧
      branch.finish.y = branch.start.y + length * Scalar.sine direction

section Lowered

variable {parameters : GrowthParameters α} {depth : Nat} {turtle : Turtle α}

theorem initial_lowered (surface : Surface α) :
    (Turtle.initial parameters surface).Lowered parameters 0 := ⟨rfl, rfl, rfl⟩

theorem descend_lowered (lowered : turtle.Lowered parameters depth) :
    (turtle.descend parameters.lengthDecay parameters.thicknessDecay).Lowered parameters
      (depth + 1) := by
  refine ⟨?_, ?_, ?_⟩
  · change turtle.level + 1 = _
    rw [lowered.level]
    rfl
  · change turtle.segmentLength * parameters.lengthDecay = _
    rw [lowered.segmentLength]
    rfl
  · change turtle.thickness * parameters.thicknessDecay = _
    rw [lowered.thickness]
    rfl

theorem branch_drawn_at {direction : α} {finish : Point α}
    (lowered : turtle.Lowered parameters depth) (reached : turtle.ahead direction = .ok finish) :
    (turtle.branchTo finish).DrawnAt parameters depth := by
  refine ⟨lowered.level, ?_, rfl, lowered.thickness, direction, ?_⟩
  · change branchColor turtle.level = _
    rw [lowered.level]
  · unfold Turtle.ahead at reached
    split at reached
    · cases reached
    · cases reached
      rw [← lowered.segmentLength]
      exact ⟨rfl, rfl⟩

end Lowered

namespace Walk

variable {parameters : GrowthParameters α} {walk last : Walk α}

/-- The turtle and those it has saved, each lowered as often as there are turtles saved below it. -/
inductive Graded (parameters : GrowthParameters α) : List (Turtle α) → Prop where
  | nil : Graded parameters []
  | cons {turtle : Turtle α} {saved : List (Turtle α)}
      (lowered : turtle.Lowered parameters saved.length) (graded : Graded parameters saved) :
      Graded parameters (turtle :: saved)

theorem graded_head {turtle : Turtle α} {saved : List (Turtle α)}
    (graded : Graded parameters (turtle :: saved)) : turtle.Lowered parameters saved.length := by
  cases graded with
  | cons lowered graded => exact lowered

theorem initial_graded (surface : Surface α) :
    Graded parameters ((initial parameters surface).turtle :: (initial parameters surface).saved) :=
  .cons (initial_lowered surface) .nil

theorem stride_graded {symbol : Char} (stride : Stride parameters symbol walk last)
    (graded : Graded parameters (walk.turtle :: walk.saved)) :
    Graded parameters (last.turtle :: last.saved) := by
  cases stride with
  | segment reached =>
      obtain _ | ⟨lowered, graded⟩ := graded
      exact .cons ⟨lowered.level, lowered.segmentLength, lowered.thickness⟩ graded
  | leaf leaf => exact graded
  | turn sign angle =>
      obtain _ | ⟨lowered, graded⟩ := graded
      exact .cons ⟨lowered.level, lowered.segmentLength, lowered.thickness⟩ graded
  | opening => exact .cons (descend_lowered (graded_head graded)) graded
  | closing =>
      cases was : walk.saved with
      | nil =>
          rw [close_branch_of_nothing_saved was]
          exact graded
      | cons turtle saved =>
          rw [close_branch_of_saved was]
          rw [was] at graded
          cases graded with
          | cons lowered graded => exact graded
  | other unknown => exact graded

theorem strides_graded {word : Word} (strides : Strides parameters word walk last)
    (graded : Graded parameters (walk.turtle :: walk.saved)) :
    Graded parameters (last.turtle :: last.saved) := by
  induction strides with
  | done => exact graded
  | next stride _ induction => exact induction (stride_graded stride graded)

/-- Behind a word the turtle is lowered as often as brackets are open. -/
theorem strides_lowered {front : Word} {surface : Surface α}
    (strides : Strides parameters front (initial parameters surface) last) :
    last.turtle.Lowered parameters front.depth := by
  have opened : last.saved.length = front.depth := strides_saved_length strides
  rw [← opened]
  exact graded_head (strides_graded strides (initial_graded surface))

end Walk

section Interpretation

variable [ChanceSource σ α] {word : Word} {parameters : GrowthParameters α} {surface : Surface α}
  {jitter : JitterBands α} {source later : σ} {drawn : Interpretation α}

/-- A prefix of the word has drawn the first branches and leaves, as many as it has symbols for. -/
theorem prefix_interpreted {front back : Word} (split : word = front ++ back)
    (returned : (interpret word parameters surface jitter).run source = (.ok drawn, later)) :
    ∃ middle, (interpret front parameters surface jitter).run source =
      (.ok ⟨drawn.branches.take (front.count 'F'), drawn.leaves.take (front.count 'X')⟩,
        middle) := by
  subst split
  obtain ⟨last, walked, rfl⟩ := Walk.interpret_returned.mp returned
  obtain ⟨between, middle, early, late⟩ := (Walk.along_append_returned ..).mp walked
  obtain ⟨⟨branches, drewBranches, branchCount⟩, leaves, drewLeaves, leafCount⟩ :=
    Walk.strides_draw (Walk.strides_of_returned early)
  obtain ⟨⟨_, allBranches, _⟩, _, allLeaves, _⟩ := Walk.strides_draw (Walk.strides_of_returned late)
  refine ⟨middle, Walk.interpret_returned.mpr ⟨between, early, ?_⟩⟩
  have firstBranches : between.branches.toList = last.branches.toList.take (front.count 'F') := by
    rw [allBranches, ← branchCount, drewBranches]
    exact (List.take_left ..).symm
  have firstLeaves : between.leaves.toList = last.leaves.toList.take (front.count 'X') := by
    rw [allLeaves, ← leafCount, drewLeaves]
    exact (List.take_left ..).symm
  rw [Walk.interpretation, firstBranches, firstLeaves]
  rfl

end Interpretation

/-- A word that is interpreted makes one branch of each `F` and one leaf of each `X`, in the order
of the word, and the branch of an `F` is what its depth of brackets makes it. -/
theorem branches_are_drawn_at_depth [ChanceSource σ α] (word : Word)
    (parameters : GrowthParameters α) (surface : Surface α) (jitter : JitterBands α)
    (source later : σ) (drawn : Interpretation α)
    (returned : (interpret word parameters surface jitter).run source = (.ok drawn, later)) :
    drawn.branches.length = word.count 'F' ∧
    drawn.leaves.length = word.count 'X' ∧
    (∀ front back : Word, word = front ++ back →
      ∃ middle, (interpret front parameters surface jitter).run source =
        (.ok ⟨drawn.branches.take (front.count 'F'), drawn.leaves.take (front.count 'X')⟩,
          middle)) ∧
    ∀ front back : Word, word = front ++ 'F' :: back →
      ∃ branch, drawn.branches[front.count 'F']? = some branch ∧
        branch.DrawnAt parameters front.depth := by
  obtain ⟨branchCount, leafCount⟩ := Walk.drawn_counts returned
  refine ⟨branchCount, leafCount, ?_, ?_⟩
  · intro front back split
    exact prefix_interpreted split returned
  · intro front back split
    obtain ⟨walk, direction, finish, strides, reached, _, drew⟩ :=
      Walk.segment_drawn split returned
    exact ⟨_, drew, branch_drawn_at (Walk.strides_lowered strides) reached⟩

/-! A word that closes brackets it has not opened, on a small surface and without jitter. -/

def lopsidedWord : Word := "]F[+F[X]F]]-F".toList

def lopsidedParameters : GrowthParameters Float := .ofScore 20.0 0.5

def lopsidedDrawing (surface : Surface Float) : Drawing Chance.Source (Interpretation Float) :=
  interpret lopsidedWord lopsidedParameters surface .none

theorem lopsided_word_is_interpreted :
    ∃ drawn later, (lopsidedDrawing ⟨300.0, 600.0⟩).run (.ofValues [0.25, 0.5]) =
      (.ok drawn, later) := by
  apply returned_of_is_ok
  decide +kernel

theorem lopsided_branches_are_drawn_at_depth :
    ∃ drawn later, (lopsidedDrawing ⟨300.0, 600.0⟩).run (.ofValues [0.25, 0.5]) =
        (.ok drawn, later) ∧
      drawn.branches.length = 4 ∧ drawn.leaves.length = 1 ∧
      ∃ inner outer, drawn.branches[2]? = some inner ∧ inner.DrawnAt lopsidedParameters 1 ∧
        drawn.branches[3]? = some outer ∧ outer.DrawnAt lopsidedParameters 0 := by
  obtain ⟨drawn, later, returned⟩ := lopsided_word_is_interpreted
  have drew := returned
  rw [lopsidedDrawing] at drew
  obtain ⟨branchCount, leafCount, _, drawnAt⟩ :=
    branches_are_drawn_at_depth lopsidedWord lopsidedParameters _ _ _ later drawn drew
  obtain ⟨inner, drewInner, innerAt⟩ := drawnAt "]F[+F[X]".toList "]]-F".toList rfl
  obtain ⟨outer, drewOuter, outerAt⟩ := drawnAt "]F[+F[X]F]]-".toList [] rfl
  exact ⟨drawn, later, returned, branchCount, leafCount, inner, outer, drewInner, innerAt,
    drewOuter, outerAt⟩

end Arboretum

import Arboretum.Proofs.Grammar.Nesting
import Arboretum.Proofs.Tree.Draws
import Arboretum.Proofs.Tree.Stature

/-!
What a side branch leaves behind. A walk only ever adds to what has been drawn and never
looks at it, so a word draws the same behind whatever was drawn before; and a group of
brackets takes the turtle and all saved turtles back to what they were, having drawn above
their level. So what comes after a group of brackets is what would have come without it, but
for the draws that the group has spent.
-/

namespace Arboretum

open Fallible

set_option autoImplicit false

variable {σ α : Type}

namespace Walk

/-- The walk as if nothing had been drawn so far. -/
def bare (walk : Walk α) : Walk α := { walk with branches := #[], leaves := #[] }

/-- The walk behind other branches and leaves, which were drawn before its own. -/
def behind (branches : Array (Branch α)) (leaves : Array (LeafSite α)) (walk : Walk α) : Walk α :=
  { walk with branches := branches ++ walk.branches, leaves := leaves ++ walk.leaves }

theorem bare_behind (walk : Walk α) : walk.bare.behind walk.branches walk.leaves = walk := by
  rw [behind, bare, Array.append_empty, Array.append_empty]

theorem close_branch_behind (branches : Array (Branch α)) (leaves : Array (LeafSite α))
    (walk : Walk α) :
    (walk.behind branches leaves).closeBranch = walk.closeBranch.behind branches leaves := by
  cases was : walk.saved with
  | nil =>
      rw [close_branch_of_nothing_saved was]
      exact close_branch_of_nothing_saved was
  | cons turtle saved =>
      rw [close_branch_of_saved was]
      exact close_branch_of_saved was

variable [Scalar α]

section Behind

variable [ChanceSource σ α] (parameters : GrowthParameters α) (jitter : JitterBands α)
  (branches : Array (Branch α)) (leaves : Array (LeafSite α))

/-- A symbol does the same to a walk behind others, and draws the same. -/
theorem step_behind (walk : Walk α) (symbol : Char) :
    ((walk.behind branches leaves).step parameters jitter symbol : Drawing σ (Walk α)) =
      behind branches leaves <$> walk.step parameters jitter symbol := by
  unfold step
  split
  · simp only [drawSegment, behind, map_bind, map_pure, Array.push_append]
  · simp only [placeLeaf, behind, map_bind, map_pure, Array.push_append]
  · simp only [turn, behind, map_bind, map_pure]
  · simp only [turn, behind, map_bind, map_pure]
  · rw [map_pure]
    rfl
  · rw [map_pure, close_branch_behind]
  · rw [map_pure]

theorem along_append (front back : Word) (walk : Walk α) :
    (along parameters jitter (front ++ back) walk : Drawing σ (Walk α)) =
      along parameters jitter front walk >>= along parameters jitter back := by
  induction front generalizing walk with
  | nil => rw [List.nil_append, along, pure_bind]
  | cons symbol front induction => simp only [List.cons_append, along, induction, bind_assoc]

theorem along_behind (word : Word) (walk : Walk α) :
    (along parameters jitter word (walk.behind branches leaves) : Drawing σ (Walk α)) =
      behind branches leaves <$> along parameters jitter word walk := by
  induction word generalizing walk with
  | nil =>
      rw [along, along, map_pure]
  | cons symbol word induction =>
      simp only [along, step_behind, bind_map_left, induction, map_bind]

end Behind

section Levels

variable {parameters : GrowthParameters α} {walk last : Walk α} {floor : Int}

/-- Neither the turtle nor any of those that it may go back to in the brackets
that are open is below a level. -/
def Above (floor : Int) (opened : Nat) (walk : Walk α) : Prop :=
  ∀ turtle ∈ walk.turtle :: walk.saved.take opened, floor ≤ turtle.level

theorem stride_draws_above {symbol : Char} {opened : Nat}
    (stride : Stride parameters symbol walk last) (above : walk.Above floor opened) :
    ∃ drawn, last.branches.toList = walk.branches.toList ++ drawn ∧
      ∀ branch ∈ drawn, floor ≤ branch.level := by
  have nothing {next : Walk α} (same : next.branches = walk.branches) :
      ∃ drawn, next.branches.toList = walk.branches.toList ++ drawn ∧
        ∀ branch ∈ drawn, floor ≤ branch.level := by
    rw [same]
    exact ⟨[], (List.append_nil _).symm, by simp⟩
  cases stride with
  | @segment _ direction finish reached =>
      refine ⟨[walk.turtle.branchTo finish], by simp [withSegment], ?_⟩
      intro branch member
      rw [List.mem_singleton.mp member]
      exact above walk.turtle (List.mem_cons_self ..)
  | leaf leaf => exact nothing rfl
  | turn sign angle => exact nothing rfl
  | opening => exact nothing rfl
  | closing => exact nothing (close_branch_draws_nothing walk).1
  | other unknown => exact nothing rfl

/-- A symbol that closes no more than is open keeps the turtle above the level. -/
theorem stride_above {symbol : Char} {opened next : Nat}
    (stride : Stride parameters symbol walk last)
    (followed : Word.closingDepth? opened [symbol] = some next)
    (within : opened ≤ walk.saved.length)
    (above : walk.Above floor opened) : last.Above floor next ∧ next ≤ last.saved.length := by
  obtain ⟨here, below⟩ := List.forall_mem_cons.mp above
  by_cases opening : symbol = '['
  · subst opening
    cases followed
    rw [stride_opening stride]
    refine ⟨?_, Nat.succ_le_succ within⟩
    intro turtle member
    rcases List.mem_cons.mp member with rfl | saved
    · exact Int.le_trans here (Int.le_add_one (Int.le_refl _))
    · exact above turtle saved
  by_cases closing : symbol = ']'
  · subst closing
    cases opened with
    | zero => cases followed
    | succ opened =>
        cases followed
        cases was : walk.saved with
        | nil =>
            rw [was] at within
            cases within
        | cons turtle saved =>
            rw [was] at within below
            rw [stride_closing stride, close_branch_of_saved was]
            exact ⟨below, Nat.le_of_succ_le_succ within⟩
  · rw [Word.closing_depth_plain _ _ opening closing] at followed
    cases followed
    rw [Above, stride_plain opening closing stride]
    refine ⟨List.forall_mem_cons.mpr ⟨?_, below⟩, within⟩
    cases stride with
    | opening => exact absurd rfl opening
    | closing => exact absurd rfl closing
    | segment reached => exact here
    | leaf leaf => exact here
    | turn sign angle => exact here
    | other unknown => exact here

/-- Where every closing bracket has one to close, nothing is drawn below the level. -/
theorem strides_draw_above {word : Word} {opened final : Nat}
    (strides : Strides parameters word walk last)
    (followed : Word.closingDepth? opened word = some final) (within : opened ≤ walk.saved.length)
    (above : walk.Above floor opened) :
    ∃ drawn, last.branches.toList = walk.branches.toList ++ drawn ∧
      ∀ branch ∈ drawn, floor ≤ branch.level := by
  induction strides generalizing opened with
  | done => exact ⟨[], by simp, by simp⟩
  | @next symbol rest walk between last stride strides induction =>
      rw [← List.singleton_append, Word.closing_depth_append] at followed
      obtain ⟨next, first, followed⟩ := Option.bind_eq_some_iff.mp followed
      obtain ⟨aboveNext, withinNext⟩ := stride_above stride first within above
      obtain ⟨early, drewEarly, earlyAbove⟩ := stride_draws_above stride above
      obtain ⟨late, drewLate, lateAbove⟩ := induction followed withinNext aboveNext
      refine ⟨early ++ late, by rw [drewLate, drewEarly, List.append_assoc], ?_⟩
      intro branch member
      rcases List.mem_append.mp member with drawn | drawn
      · exact earlyAbove branch drawn
      · exact lateAbove branch drawn

/-- A group of brackets draws above the level of the turtle that comes to it. -/
theorem group_draws_above {inside : Word} (nested : inside.isNested = true)
    (strides : Strides parameters ('[' :: inside ++ [']']) walk last) :
    ∃ drawn, last.branches.toList = walk.branches.toList ++ drawn ∧
      ∀ branch ∈ drawn, walk.turtle.level < branch.level := by
  obtain ⟨inner, early, late⟩ := strides_append.mp strides
  cases early with
  | @next _ _ _ opened _ opening early =>
      have lowered := stride_opening opening
      subst lowered
      have above : (walk.openBranch parameters).Above (walk.turtle.level + 1) 0 := by
        intro turtle member
        rw [List.take_zero, List.mem_singleton] at member
        rw [member]
        exact Int.le_refl _
      obtain ⟨drawn, drew, levels⟩ :=
        strides_draw_above early (Word.closing_depth_nested nested 0) (Nat.zero_le _) above
      refine ⟨drawn, ?_, levels⟩
      rw [stride_closing (strides_one.mp late), (close_branch_draws_nothing inner).1, drew]
      rfl

end Levels

end Walk

/-- A turtle that comes back from a group of brackets, wherever it came from and whatever it had
saved, is what it was, and so is all that it had saved: the group has drawn branches, all of them
above the level of the turtle, and leaves, and has spent draws. What the rest of a word draws behind
the group is what it draws without it from the source that the group has left. -/
theorem side_branch_is_felt_through_chance_only [Scalar α] [ChanceSource σ α] (inside : Word)
    (nested : inside.ProperlyNested) (parameters : GrowthParameters α) (jitter : JitterBands α)
    (walk last : Walk α) (source later : σ)
    (returned : (Walk.along parameters jitter ('[' :: inside ++ [']']) walk).run source =
      (.ok last, later)) :
    last.turtle = walk.turtle ∧ last.saved = walk.saved ∧
      (∃ branches, last.branches.toList = walk.branches.toList ++ branches ∧
        ∀ branch ∈ branches, walk.turtle.level < branch.level) ∧
      (∃ leaves, last.leaves.toList = walk.leaves.toList ++ leaves) ∧
      (∃ draws : List (Draw α), (Walk.along parameters jitter ('[' :: inside ++ [']']) walk).run
        (⟨source, []⟩ : Recorded σ α) = (.ok last, ⟨later, draws⟩)) ∧
      ∀ rest : Word,
        (Walk.along parameters jitter ('[' :: inside ++ [']'] ++ rest) walk).run source =
          (Walk.behind last.branches last.leaves <$>
            Walk.along parameters jitter rest walk.bare).run later := by
  have isNested := (Word.is_nested_iff inside).mpr nested
  have strides := Walk.strides_of_returned returned
  obtain ⟨turtle, saved⟩ := Walk.strides_group isNested strides
  obtain ⟨_, leaves, drewLeaves, _⟩ := Walk.strides_draw strides
  refine ⟨turtle, saved, Walk.group_draws_above isNested strides, ⟨leaves, drewLeaves⟩, ?_, ?_⟩
  · obtain ⟨draws, recorded⟩ := walk_mirrored (σ := σ) parameters jitter _ walk source []
    rw [returned] at recorded
    exact ⟨_, recorded⟩
  · intro rest
    have same : last.bare = walk.bare := by
      rw [Walk.bare, Walk.bare, turtle, saved]
    rw [Walk.along_append, run_bind, returned, ← same, ← Walk.along_behind, Walk.bare_behind]

/-! A side branch with one of its own, drawn at the second level by a turtle
that has saved another. -/

def forkedBranch : Word := "F[+FX]-X".toList

def thornyWalk : Walk Float :=
  ⟨⟨⟨10.0, 20.0⟩, 1.0, 8.0, 3.0, 2⟩, [.initial lopsidedParameters ⟨300.0, 600.0⟩], #[], #[]⟩

theorem forked_branch_is_felt_through_chance_only :
    ∃ (last : Walk Float) (later : Chance.Source),
      (Walk.along lopsidedParameters .usual ('[' :: forkedBranch ++ [']']) thornyWalk).run
        (.ofValues [0.25, 0.5]) = (.ok last, later) ∧
      forkedBranch.ProperlyNested ∧ last.turtle = thornyWalk.turtle ∧
        last.saved = thornyWalk.saved ∧
      ∀ branch ∈ last.branches.toList, 2 < branch.level := by
  obtain ⟨last, later, returned⟩ : ∃ (last : Walk Float) (later : Chance.Source),
      (Walk.along lopsidedParameters .usual ('[' :: forkedBranch ++ [']']) thornyWalk).run
        (.ofValues [0.25, 0.5]) = (.ok last, later) := by
    apply returned_of_is_ok
    decide +kernel
  have nested : forkedBranch.ProperlyNested := (Word.is_nested_iff _).mp (by decide)
  obtain ⟨turtle, saved, ⟨branches, drew, levels⟩, _⟩ :=
    side_branch_is_felt_through_chance_only forkedBranch nested lopsidedParameters .usual
      thornyWalk last
      (Chance.Source.ofValues [0.25, 0.5]) later returned
  refine ⟨last, later, returned, nested, turtle, saved, ?_⟩
  rw [drew]
  exact levels

end Arboretum

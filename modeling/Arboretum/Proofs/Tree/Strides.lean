import Arboretum.Proofs.Fallible
import Arboretum.Proofs.Grammar.Depth
import Arboretum.Tree.Turtle

/-!
Walks with chance left open. Where a segment goes, how far a turn turns and what a leaf looks like
is drawn; all else that a symbol does to a walk is fixed by the symbol. So what holds of every walk
that the symbols of a word allow holds of the walk that a source of chance decides on, whatever the
source, the surface and the jitter.
-/

namespace Arboretum

open Fallible

set_option autoImplicit false

variable {σ α : Type}

/-- A word can be split before each of its symbols of one kind. -/
theorem Word.split_at_count {symbol : Char} {index : Nat} {word : Word}
    (within : index < word.count symbol) :
    ∃ front back : Word, word = front ++ symbol :: back ∧ front.count symbol = index := by
  induction word generalizing index with
  | nil => simp at within
  | cons head rest induction =>
      by_cases same : head = symbol
      · subst same
        cases index with
        | zero => exact ⟨[], rest, rfl, rfl⟩
        | succ index =>
            rw [List.count_cons_self] at within
            obtain ⟨front, back, rfl, counted⟩ := induction (Nat.lt_of_succ_lt_succ within)
            exact ⟨head :: front, back, rfl, by rw [List.count_cons_self, counted]⟩
      · rw [List.count_cons_of_ne same] at within
        obtain ⟨front, back, rfl, counted⟩ := induction within
        exact ⟨head :: front, back, rfl, by rw [List.count_cons_of_ne same, counted]⟩

namespace Walk

theorem close_branch_of_nothing_saved {walk : Walk α} (nothing : walk.saved = []) :
    walk.closeBranch = walk := by
  rw [closeBranch, nothing]

theorem close_branch_of_saved {walk : Walk α} {turtle : Turtle α} {saved : List (Turtle α)}
    (was : walk.saved = turtle :: saved) : walk.closeBranch = { walk with turtle, saved } := by
  rw [closeBranch, was]

theorem close_branch_draws_nothing (walk : Walk α) :
    walk.closeBranch.branches = walk.branches ∧ walk.closeBranch.leaves = walk.leaves := by
  cases was : walk.saved with
  | nil =>
      rw [close_branch_of_nothing_saved was]
      exact ⟨rfl, rfl⟩
  | cons turtle saved =>
      rw [close_branch_of_saved was]
      exact ⟨rfl, rfl⟩

variable [Scalar α]

def signs : List Char := ['F', 'X', '+', '-', '[', ']']

def withSegment (finish : Point α) (walk : Walk α) : Walk α :=
  { walk with
    turtle := { walk.turtle with position := finish }
    branches := walk.branches.push (walk.turtle.branchTo finish) }

/-- What a symbol makes of a walk, whatever is drawn for it. -/
inductive Stride (parameters : GrowthParameters α) : Char → Walk α → Walk α → Prop where
  | segment {walk : Walk α} {direction : α} {finish : Point α}
      (reached : walk.turtle.ahead direction = .ok finish) :
      Stride parameters 'F' walk (walk.withSegment finish)
  | leaf {walk : Walk α} (leaf : LeafSite α) :
      Stride parameters 'X' walk { walk with leaves := walk.leaves.push leaf }
  | turn {walk : Walk α} {symbol : Char} (sign : symbol = '+' ∨ symbol = '-') (angle : α) :
      Stride parameters symbol walk { walk with turtle := walk.turtle.turned angle }
  | opening {walk : Walk α} : Stride parameters '[' walk (walk.openBranch parameters)
  | closing {walk : Walk α} : Stride parameters ']' walk walk.closeBranch
  | other {walk : Walk α} {symbol : Char} (unknown : symbol ∉ signs) :
      Stride parameters symbol walk walk

/-- What a word makes of a walk, whatever is drawn along it. -/
inductive Strides (parameters : GrowthParameters α) : Word → Walk α → Walk α → Prop where
  | done {walk : Walk α} : Strides parameters [] walk walk
  | next {symbol : Char} {rest : Word} {walk between last : Walk α}
      (stride : Stride parameters symbol walk between)
      (strides : Strides parameters rest between last) :
      Strides parameters (symbol :: rest) walk last

section Returned

variable [ChanceSource σ α] {parameters : GrowthParameters α} {jitter : JitterBands α}

theorem stride_of_returned {symbol : Char} {walk next : Walk α} {source later : σ}
    (returned : (walk.step parameters jitter symbol).run source = (.ok next, later)) :
    Stride parameters symbol walk next := by
  unfold step at returned
  split at returned
  · simp only [drawSegment, run_bind_eq_ok, run_lift, run_pure] at returned
    obtain ⟨offset, _, _, finish, _, reached, same⟩ := returned
    cases same
    exact .segment (Prod.mk.inj reached).1
  · simp only [placeLeaf, run_bind_eq_ok, run_pure] at returned
    obtain ⟨leaf, _, _, same⟩ := returned
    cases same
    exact .leaf leaf
  · simp only [turn, run_bind_eq_ok, run_pure] at returned
    obtain ⟨scale, _, _, same⟩ := returned
    cases same
    exact .turn (.inl rfl) _
  · simp only [turn, run_bind_eq_ok, run_pure] at returned
    obtain ⟨scale, _, _, same⟩ := returned
    cases same
    exact .turn (.inr rfl) _
  · rw [run_pure] at returned
    cases returned
    exact .opening
  · rw [run_pure] at returned
    cases returned
    exact .closing
  · rename_i noSegment noLeaf noPlus noMinus noOpening noClosing
    rw [run_pure] at returned
    cases returned
    refine .other ?_
    simp only [signs, List.mem_cons, List.not_mem_nil, or_false, not_or]
    exact ⟨noSegment, noLeaf, noPlus, noMinus, noOpening, noClosing⟩

theorem strides_of_returned {word : Word} {walk last : Walk α} {source later : σ}
    (returned : (along parameters jitter word walk).run source = (.ok last, later)) :
    Strides parameters word walk last := by
  induction word generalizing walk source with
  | nil =>
      rw [along, run_pure] at returned
      cases returned
      exact .done
  | cons symbol word induction =>
      rw [along, run_bind_eq_ok] at returned
      obtain ⟨between, _, stepped, returned⟩ := returned
      exact .next (stride_of_returned stepped) (induction returned)

theorem along_append_returned (front back : Word) (walk last : Walk α) (source later : σ) :
    (along parameters jitter (front ++ back) walk).run source = (.ok last, later) ↔
      ∃ between middle, (along parameters jitter front walk).run source = (.ok between, middle) ∧
        (along parameters jitter back between).run middle = (.ok last, later) := by
  induction front generalizing walk source with
  | nil =>
      rw [List.nil_append]
      constructor
      · intro returned
        exact ⟨walk, source, rfl, returned⟩
      · rintro ⟨_, _, same, returned⟩
        cases same
        exact returned
  | cons symbol front induction =>
      simp only [List.cons_append, along, run_bind_eq_ok, induction]
      constructor
      · rintro ⟨next, state, stepped, between, middle, early, late⟩
        exact ⟨between, middle, ⟨next, state, stepped, early⟩, late⟩
      · rintro ⟨between, middle, ⟨next, state, stepped, early⟩, late⟩
        exact ⟨next, state, stepped, between, middle, early, late⟩

/-- An interpretation is what a walk from the root has drawn in the end. -/
theorem interpret_returned {word : Word} {surface : Surface α} {drawn : Interpretation α}
    {source later : σ} :
    (interpret word parameters surface jitter).run source = (.ok drawn, later) ↔
      ∃ last, (along parameters jitter word (initial parameters surface)).run source =
        (.ok last, later) ∧ last.interpretation = drawn := by
  rw [interpret, run_bind_eq_ok]
  constructor
  · rintro ⟨last, _, returned, same⟩
    cases same
    exact ⟨last, returned, rfl⟩
  · rintro ⟨last, returned, rfl⟩
    exact ⟨last, later, returned, rfl⟩

end Returned

section Strides

variable {parameters : GrowthParameters α} {walk last : Walk α}

theorem strides_append {front back : Word} :
    Strides parameters (front ++ back) walk last ↔
      ∃ between, Strides parameters front walk between ∧ Strides parameters back between last := by
  constructor
  · intro strides
    induction front generalizing walk with
    | nil => exact ⟨walk, .done, strides⟩
    | cons symbol front induction =>
        rw [List.cons_append] at strides
        cases strides with
        | next stride strides =>
            obtain ⟨between, early, late⟩ := induction strides
            exact ⟨between, .next stride early, late⟩
  · rintro ⟨between, early, late⟩
    induction early with
    | done => exact late
    | next stride _ induction => exact .next stride (induction late)

theorem strides_one {symbol : Char} :
    Strides parameters [symbol] walk last ↔ Stride parameters symbol walk last := by
  constructor
  · intro strides
    cases strides with
    | next stride strides =>
        cases strides
        exact stride
  · intro stride
    exact .next stride .done

/-! What the symbols that draw or nest make of a walk. -/

theorem stride_segment (stride : Stride parameters 'F' walk last) :
    ∃ direction finish, walk.turtle.ahead direction = .ok finish ∧
      last = walk.withSegment finish := by
  cases stride with
  | segment reached => exact ⟨_, _, reached, rfl⟩
  | turn sign angle => simp at sign
  | other unknown => simp [signs] at unknown

theorem stride_opening (stride : Stride parameters '[' walk last) :
    last = walk.openBranch parameters := by
  cases stride with
  | opening => rfl
  | turn sign angle => simp at sign
  | other unknown => simp [signs] at unknown

theorem stride_closing (stride : Stride parameters ']' walk last) : last = walk.closeBranch := by
  cases stride with
  | closing => rfl
  | turn sign angle => simp at sign
  | other unknown => simp [signs] at unknown

/-- A symbol that is no bracket leaves the saved turtles alone. -/
theorem stride_plain {symbol : Char} (unopening : symbol ≠ '[') (unclosing : symbol ≠ ']')
    (stride : Stride parameters symbol walk last) : last.saved = walk.saved := by
  cases stride with
  | segment reached => rfl
  | leaf leaf => rfl
  | turn sign angle => rfl
  | opening => exact absurd rfl unopening
  | closing => exact absurd rfl unclosing
  | other unknown => rfl

theorem stride_draws {symbol : Char} (stride : Stride parameters symbol walk last) :
    (∃ branches, last.branches.toList = walk.branches.toList ++ branches ∧
      branches.length = [symbol].count 'F') ∧
    ∃ leaves, last.leaves.toList = walk.leaves.toList ++ leaves ∧
      leaves.length = [symbol].count 'X' := by
  have nothing (noSegment : symbol ≠ 'F') (noLeaf : symbol ≠ 'X') {next : Walk α}
      (branches : next.branches = walk.branches) (leaves : next.leaves = walk.leaves) :
      (∃ branches, next.branches.toList = walk.branches.toList ++ branches ∧
        branches.length = [symbol].count 'F') ∧
      ∃ leaves, next.leaves.toList = walk.leaves.toList ++ leaves ∧
        leaves.length = [symbol].count 'X' := by
    rw [branches, leaves]
    exact ⟨⟨[], by simp [noSegment]⟩, [], by simp [noLeaf]⟩
  cases stride with
  | @segment _ direction finish reached =>
      exact ⟨⟨[walk.turtle.branchTo finish], by simp [withSegment]⟩, [], by simp [withSegment]⟩
  | leaf leaf => exact ⟨⟨[], by simp⟩, [leaf], by simp⟩
  | turn sign angle =>
      rcases sign with rfl | rfl
      · exact nothing (by decide) (by decide) rfl rfl
      · exact nothing (by decide) (by decide) rfl rfl
  | opening => exact nothing (by decide) (by decide) rfl rfl
  | closing =>
      obtain ⟨branches, leaves⟩ := close_branch_draws_nothing walk
      exact nothing (by decide) (by decide) branches leaves
  | other unknown =>
      simp only [signs, List.mem_cons, not_or] at unknown
      exact nothing unknown.1 unknown.2.1 rfl rfl

/-- A word only adds to what has been drawn: a branch for each `F` and a leaf for each `X`. -/
theorem strides_draw {word : Word} (strides : Strides parameters word walk last) :
    (∃ branches, last.branches.toList = walk.branches.toList ++ branches ∧
      branches.length = word.count 'F') ∧
    ∃ leaves, last.leaves.toList = walk.leaves.toList ++ leaves ∧
      leaves.length = word.count 'X' := by
  induction strides with
  | done => exact ⟨⟨[], by simp⟩, [], by simp⟩
  | @next symbol rest walk between last stride strides induction =>
      obtain ⟨⟨branches, allBranches, branchCount⟩, leaves, allLeaves, leafCount⟩ := induction
      obtain ⟨⟨firstBranches, drewBranches, firstBranchCount⟩, firstLeaves, drewLeaves,
        firstLeafCount⟩ := stride_draws stride
      have split : symbol :: rest = [symbol] ++ rest := rfl
      refine ⟨⟨firstBranches ++ branches, ?_, ?_⟩, firstLeaves ++ leaves, ?_, ?_⟩
      · rw [allBranches, drewBranches, List.append_assoc]
      · rw [split, List.count_append, List.length_append, firstBranchCount, branchCount]
      · rw [allLeaves, drewLeaves, List.append_assoc]
      · rw [split, List.count_append, List.length_append, firstLeafCount, leafCount]

theorem stride_saved_length {symbol : Char} (stride : Stride parameters symbol walk last) :
    last.saved.length = Word.depthAfter walk.saved.length symbol := by
  by_cases opening : symbol = '['
  · subst opening
    rw [stride_opening stride]
    rfl
  by_cases closing : symbol = ']'
  · subst closing
    rw [stride_closing stride]
    cases was : walk.saved with
    | nil =>
        rw [close_branch_of_nothing_saved was, was]
        rfl
    | cons turtle saved =>
        rw [close_branch_of_saved was]
        rfl
  · rw [stride_plain opening closing stride, Word.depth_after_plain _ opening closing]

/-- As many turtles are saved as brackets are open. -/
theorem strides_saved_length {word : Word} (strides : Strides parameters word walk last) :
    last.saved.length = Word.depthFrom walk.saved.length word := by
  induction strides with
  | done => rfl
  | next stride strides induction =>
      rw [induction, stride_saved_length stride]
      rfl

/-- Where every closing bracket has one to close, only turtles are brought back
that were saved on the way. -/
theorem strides_keep_saved {word : Word} {opened final : Nat}
    (strides : Strides parameters word walk last)
    (followed : Word.closingDepth? opened word = some final) (within : opened ≤ walk.saved.length) :
    last.saved.drop final = walk.saved.drop opened := by
  induction strides generalizing opened with
  | done =>
      cases followed
      rfl
  | @next symbol rest walk between last stride strides induction =>
      by_cases opening : symbol = '['
      · subst opening
        rw [stride_opening stride] at induction
        exact induction followed (Nat.succ_le_succ within)
      by_cases closing : symbol = ']'
      · subst closing
        rw [stride_closing stride] at induction
        cases opened with
        | zero => cases followed
        | succ opened =>
            cases was : walk.saved with
            | nil =>
                rw [was] at within
                cases within
            | cons turtle saved =>
                rw [was] at within
                rw [close_branch_of_saved was] at induction
                exact induction followed (Nat.le_of_succ_le_succ within)
      · rw [Word.closing_depth_plain _ _ opening closing] at followed
        have same := stride_plain opening closing stride
        rw [← same] at within ⊢
        exact induction followed within

/-- A group of brackets takes the turtle back to where it was. -/
theorem strides_group {inside : Word} (nested : inside.isNested = true)
    (strides : Strides parameters ('[' :: inside ++ [']']) walk last) :
    last.turtle = walk.turtle ∧ last.saved = walk.saved := by
  obtain ⟨inner, early, late⟩ := strides_append.mp strides
  cases early with
  | @next _ _ _ opened _ opening early =>
      rw [stride_opening opening] at early
      have kept := strides_keep_saved early (Word.closing_depth_nested nested 0) (Nat.zero_le _)
      have saved : inner.saved = walk.turtle :: walk.saved := kept
      rw [stride_closing (strides_one.mp late), close_branch_of_saved saved]
      exact ⟨rfl, rfl⟩

end Strides

section Interpretation

variable [ChanceSource σ α] {word : Word} {parameters : GrowthParameters α} {surface : Surface α}
  {jitter : JitterBands α} {source later : σ} {drawn : Interpretation α}

theorem drawn_counts
    (returned : (interpret word parameters surface jitter).run source = (.ok drawn, later)) :
    drawn.branches.length = word.count 'F' ∧ drawn.leaves.length = word.count 'X' := by
  obtain ⟨last, walked, rfl⟩ := interpret_returned.mp returned
  obtain ⟨⟨branches, allBranches, branchCount⟩, leaves, allLeaves, leafCount⟩ :=
    strides_draw (strides_of_returned walked)
  exact ⟨(congrArg List.length allBranches).trans branchCount,
    (congrArg List.length allLeaves).trans leafCount⟩

/-- The branch of an `F` is drawn by the turtle that the word before it leads to,
after the branches of that word. -/
theorem segment_drawn {front back : Word} (split : word = front ++ 'F' :: back)
    (returned : (interpret word parameters surface jitter).run source = (.ok drawn, later)) :
    ∃ walk direction finish, Strides parameters front (initial parameters surface) walk ∧
      walk.turtle.ahead direction = .ok finish ∧
      walk.branches.toList <+: drawn.branches ∧
      drawn.branches[front.count 'F']? = some (walk.turtle.branchTo finish) := by
  subst split
  obtain ⟨last, walked, rfl⟩ := interpret_returned.mp returned
  obtain ⟨walk, early, late⟩ := strides_append.mp (strides_of_returned walked)
  obtain ⟨⟨before, drewBefore, beforeCount⟩, _⟩ := strides_draw early
  cases late with
  | next stride late =>
      obtain ⟨⟨after, drewAfter, _⟩, _⟩ := strides_draw late
      obtain ⟨direction, finish, reached, rfl⟩ := stride_segment stride
      have drew : last.branches.toList =
          walk.branches.toList ++ walk.turtle.branchTo finish :: after := by
        rw [drewAfter, withSegment, Array.toList_push, List.append_assoc]
        rfl
      refine ⟨walk, direction, finish, early, reached, ⟨_, drew.symm⟩, ?_⟩
      have walked : walk.branches.toList.length = front.count 'F' := by
        rw [drewBefore, ← beforeCount]
        rfl
      change last.branches.toList[_]? = _
      rw [drew, ← walked, List.getElem?_append_right (Nat.le_refl _), Nat.sub_self]
      rfl

/-- Every branch is that of an `F` of the word. -/
theorem branch_has_segment {index : Nat} (within : index < drawn.branches.length)
    (returned : (interpret word parameters surface jitter).run source = (.ok drawn, later)) :
    ∃ front back : Word, word = front ++ 'F' :: back ∧ front.count 'F' = index := by
  rw [(drawn_counts returned).1] at within
  exact Word.split_at_count within

end Interpretation

end Walk

end Arboretum

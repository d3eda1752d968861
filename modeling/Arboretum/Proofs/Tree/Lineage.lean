import Arboretum.Proofs.Grammar.ActivePath
import Arboretum.Proofs.Tree.Stature

/-!
Where branches hang. The turtle stands where the branch of the last `F` of the active path ends,
and at the root as long as there is none: a group of brackets that is closed takes it back to
where it stood before the group, and a closing bracket that has nothing to close leaves it there.
So a branch never hangs on a side branch that is closed, and going from each branch to the one
that it hangs on leads to the root.
-/

namespace Arboretum

open Fallible

set_option autoImplicit false

variable {σ α : Type}

namespace Word

/-- A place of a word where a segment is drawn that is on the active path behind the word. -/
def ActiveSegment (front : Word) (place : Nat) : Prop :=
  front[place]? = some 'F' ∧ front.OnActivePath place

structure LastActiveSegment (front : Word) (place : Nat) : Prop where
  active : front.ActiveSegment place
  last : ∀ other, front.ActiveSegment other → other ≤ place

theorem active_segment_append_symbol (front : Word) {symbol : Char} (unclosing : symbol ≠ ']')
    (place : Nat) :
    ActiveSegment (front ++ [symbol]) place ↔
      front.ActiveSegment place ∨ place = front.length ∧ symbol = 'F' := by
  unfold ActiveSegment
  rw [on_active_path_symbol front unclosing]
  constructor
  · rintro ⟨segment, onPath | rfl⟩
    · rw [List.getElem?_append_left onPath.within] at segment
      exact .inl ⟨segment, onPath⟩
    · rw [List.getElem?_concat_length] at segment
      exact .inr ⟨rfl, Option.some.inj segment⟩
  · rintro (⟨segment, onPath⟩ | ⟨rfl, rfl⟩)
    · rw [List.getElem?_append_left onPath.within]
      exact ⟨segment, .inl onPath⟩
    · exact ⟨List.getElem?_concat_length .., .inr rfl⟩

/-- Where the active path stays what it was, its segments do. -/
theorem active_segment_kept {front back : Word}
    (kept : ∀ place, OnActivePath (front ++ back) place ↔ front.OnActivePath place) (place : Nat) :
    ActiveSegment (front ++ back) place ↔ front.ActiveSegment place := by
  unfold ActiveSegment
  rw [kept]
  constructor
  · rintro ⟨segment, onPath⟩
    rw [List.getElem?_append_left onPath.within] at segment
    exact ⟨segment, onPath⟩
  · rintro ⟨segment, onPath⟩
    rw [List.getElem?_append_left onPath.within]
    exact ⟨segment, onPath⟩

theorem depth_le_append_symbol (front : Word) {symbol : Char} (unclosing : symbol ≠ ']') :
    front.depth ≤ depth (front ++ [symbol]) := by
  rw [depth_append_symbol]
  unfold depthAfter
  split
  · exact Nat.le_succ _
  · exact absurd rfl unclosing
  · exact Nat.le_refl _

end Word

/-- Where a branch hangs that is drawn behind a word: at the end of the branch of the last `F` of
the active path, whose level is not above `level`, or at the root if the active path has no `F`. -/
inductive Tip (root : Point α) (branches : List (Branch α)) (front : Word) :
    Point α → Int → Prop where
  | onBranch {place : Nat} {parent : Branch α} {level : Int} (last : front.LastActiveSegment place)
      (there : branches[(front.take place).count 'F']? = some parent)
      (below : parent.level ≤ level) : Tip root branches front parent.finish level
  | atRoot {level : Int} (bare : ∀ place, ¬ front.ActiveSegment place) :
      Tip root branches front root level

section Tip

variable {root point : Point α} {branches : List (Branch α)} {front : Word} {level : Int}

theorem tip_of_more {more : List (Branch α)} (longer : branches <+: more)
    (tip : Tip root branches front point level) : Tip root more front point level := by
  cases tip with
  | onBranch last there below =>
      obtain ⟨within, same⟩ := List.getElem?_eq_some_iff.mp there
      have kept := List.prefix_iff_getElem?.mp longer _ within
      rw [same] at kept
      exact .onBranch last kept below
  | atRoot bare => exact .atRoot bare

/-- Symbols that change no segment of the active path change no tip, unless they
lead out of its depth. -/
theorem tip_kept {back : Word} {deeper : Int}
    (same : ∀ place, Word.ActiveSegment (front ++ back) place ↔ front.ActiveSegment place)
    (below : level ≤ deeper) (tip : Tip root branches front point level) :
    Tip root branches (front ++ back) point deeper := by
  cases tip with
  | @onBranch place parent _ last there parentBelow =>
      have within := last.active.2.within
      have lastLonger : Word.LastActiveSegment (front ++ back) place := by
        refine ⟨(same place).mpr last.active, ?_⟩
        intro other active
        exact last.last other ((same other).mp active)
      apply Tip.onBranch lastLonger
      · rw [List.take_append_of_le_length (Nat.le_of_lt within)]
        exact there
      · exact Int.le_trans parentBelow below
  | atRoot bare =>
      apply Tip.atRoot
      intro place
      rw [same]
      exact bare place

end Tip

variable [Scalar α]

namespace Walk

variable {parameters : GrowthParameters α} {surface : Surface α}

/-- The branch that an `F` draws is the tip behind it. -/
theorem segment_tip {front : Word} {walk : Walk α} {finish : Point α}
    (strides : Strides parameters front (initial parameters surface) walk) :
    Tip surface.root (walk.withSegment finish).branches.toList (front ++ ['F']) finish
      (Word.depth (front ++ ['F'])) := by
  have active := Word.active_segment_append_symbol front (show 'F' ≠ ']' by decide)
  obtain ⟨⟨before, drewBefore, beforeCount⟩, _⟩ := strides_draw strides
  have drew : (walk.withSegment finish).branches.toList =
      before ++ [walk.turtle.branchTo finish] := by
    rw [withSegment, Array.toList_push, drewBefore]
    rfl
  have last : Word.LastActiveSegment (front ++ ['F']) front.length := by
    constructor
    · rw [active]
      exact .inr ⟨rfl, rfl⟩
    · intro other otherActive
      rcases (active other).mp otherActive with earlier | ⟨rfl, _⟩
      · exact Nat.le_of_lt earlier.2.within
      · exact Nat.le_refl _
  have there :
      (before ++ [walk.turtle.branchTo finish])[((front ++ ['F']).take front.length).count 'F']? =
        some (walk.turtle.branchTo finish) := by
    rw [List.take_left, ← beforeCount]
    exact List.getElem?_concat_length ..
  have level : walk.turtle.level = Word.depth (front ++ ['F']) := by
    rw [Word.depth_append_symbol]
    exact (strides_lowered strides).level
  rw [drew]
  exact .onBranch last there (Int.le_of_eq level)

/-- Behind every word the turtle stands at the tip of what the word has drawn. -/
theorem strides_tip {front : Word} {last : Walk α}
    (strides : Strides parameters front (initial parameters surface) last) :
    Tip surface.root last.branches.toList front last.turtle.position front.depth := by
  induction front using Word.ending_induction generalizing last with
  | empty =>
      cases strides
      apply Tip.atRoot
      intro place active
      cases active.2.within
  | symbol front symbol unclosing induction =>
      obtain ⟨walk, early, late⟩ := strides_append.mp strides
      have deeper : (front.depth : Int) ≤ Word.depth (front ++ [symbol]) :=
        Int.ofNat_le.mpr (Word.depth_le_append_symbol front unclosing)
      by_cases segment : symbol = 'F'
      · subst segment
        obtain ⟨_, finish, _, rfl⟩ := stride_segment (strides_one.mp late)
        exact segment_tip early
      · have same : ∀ place,
            Word.ActiveSegment (front ++ [symbol]) place ↔ front.ActiveSegment place := by
          intro place
          rw [Word.active_segment_append_symbol front unclosing]
          simp [segment]
        have tip := tip_kept same deeper (induction early)
        cases strides_one.mp late with
        | segment reached => exact absurd rfl segment
        | closing => exact absurd rfl unclosing
        | leaf leaf => exact tip
        | turn sign angle => exact tip
        | opening => exact tip
        | other unknown => exact tip
  | unmatched front surfaced induction =>
      obtain ⟨walk, early, late⟩ := strides_append.mp strides
      have nothingSaved : walk.saved = [] := by
        apply List.eq_nil_of_length_eq_zero
        rw [strides_saved_length early]
        exact surfaced
      have deeper : (front.depth : Int) ≤ Word.depth (front ++ [']']) := by
        rw [surfaced]
        exact Int.natCast_nonneg _
      have tip :=
        tip_kept (Word.active_segment_kept (Word.on_active_path_unmatched surfaced)) deeper
        (induction early)
      rw [stride_closing (strides_one.mp late), close_branch_of_nothing_saved nothingSaved]
      exact tip
  | group before inside nested induction =>
      rw [List.append_assoc] at strides ⊢
      obtain ⟨walk, early, late⟩ := strides_append.mp strides
      obtain ⟨⟨more, drewMore, _⟩, _⟩ := strides_draw late
      have back := strides_group nested late
      have kept : ∀ place, Word.OnActivePath (before ++ ('[' :: inside ++ [']'])) place ↔
          before.OnActivePath place := by
        intro place
        rw [← List.append_assoc]
        exact Word.on_active_path_group before nested place
      have depth : Word.depth (before ++ ('[' :: inside ++ [']'])) = before.depth := by
        rw [← List.append_assoc]
        exact Word.depth_of_closed before nested
      rw [back.1, depth, drewMore]
      exact tip_of_more (List.prefix_append ..)
        (tip_kept (Word.active_segment_kept kept) (Int.le_refl _) (induction early))

end Walk

/-- Going from a branch to the one at whose end it starts, and on from there, leads to the root. -/
inductive GrowsFrom (root : Point α) (branches : List (Branch α)) : Nat → Prop where
  | root {index : Nat} {branch : Branch α} (there : branches[index]? = some branch)
      (start : branch.start = root) : GrowsFrom root branches index
  | branch {index below : Nat} {branch parent : Branch α} (there : branches[index]? = some branch)
      (parentThere : branches[below]? = some parent) (earlier : below < index)
      (start : branch.start = parent.finish) (level : parent.level ≤ branch.level)
      (grows : GrowsFrom root branches below) : GrowsFrom root branches index

theorem Word.count_before_place {front : Word} {place : Nat} {symbol : Char}
    (there : front[place]? = some symbol) :
    (front.take place).count symbol < front.count symbol := by
  obtain ⟨within, same⟩ := List.getElem?_eq_some_iff.mp there
  have split : front = front.take place ++ symbol :: front.drop (place + 1) := by
    rw [← same, List.getElem_cons_drop, List.take_append_drop]
  have counted := congrArg (List.count symbol) split
  rw [List.count_append, List.count_cons_self] at counted
  omega

section Interpretation

variable [ChanceSource σ α] {word : Word} {parameters : GrowthParameters α} {surface : Surface α}
  {jitter : JitterBands α} {source later : σ} {drawn : Interpretation α}

theorem branch_starts_at_tip {front back : Word} (split : word = front ++ 'F' :: back)
    (returned : (interpret word parameters surface jitter).run source = (.ok drawn, later)) :
    ∃ branch, drawn.branches[front.count 'F']? = some branch ∧
      Tip surface.root drawn.branches front branch.start branch.level := by
  obtain ⟨walk, direction, finish, strides, _, before, drew⟩ := Walk.segment_drawn split returned
  refine ⟨_, drew, ?_⟩
  have level : walk.turtle.level = front.depth := (Walk.strides_lowered strides).level
  change Tip _ _ _ walk.turtle.position walk.turtle.level
  rw [level]
  exact tip_of_more before (Walk.strides_tip strides)

theorem branch_grows_from_root {index : Nat} (within : index < drawn.branches.length)
    (returned : (interpret word parameters surface jitter).run source = (.ok drawn, later)) :
    GrowsFrom surface.root drawn.branches index := by
  induction index using Nat.strongRecOn with
  | ind index induction =>
      obtain ⟨front, back, split, counted⟩ := Walk.branch_has_segment within returned
      obtain ⟨branch, there, tip⟩ := branch_starts_at_tip split returned
      rw [counted] at there
      generalize hangs : branch.start = start at tip
      cases tip with
      | onBranch last parentThere below =>
          have earlier := Word.count_before_place last.active.1
          rw [counted] at earlier
          exact .branch there parentThere earlier hangs below
            (induction _ earlier (Nat.lt_trans earlier within))
      | atRoot bare => exact .root there hangs

end Interpretation

/-- However its brackets stand, a word that is interpreted draws a tree: the branch of
an `F` starts where the branch of the last `F` of the active path before it ends, or
at the root if there is none. -/
theorem branches_hang_on_active_path [ChanceSource σ α] (word : Word)
    (parameters : GrowthParameters α) (surface : Surface α) (jitter : JitterBands α)
    (source later : σ) (drawn : Interpretation α)
    (returned : (interpret word parameters surface jitter).run source = (.ok drawn, later)) :
    (∀ index, index < drawn.branches.length → GrowsFrom surface.root drawn.branches index) ∧
    drawn.branches.length = word.count 'F' ∧
    ∀ front back : Word, word = front ++ 'F' :: back →
      ∃ branch, drawn.branches[front.count 'F']? = some branch ∧
        Tip surface.root drawn.branches front branch.start branch.level := by
  refine ⟨?_, (Walk.drawn_counts returned).1, ?_⟩
  · intro index within
    exact branch_grows_from_root within returned
  · intro front back split
    exact branch_starts_at_tip split returned

/-! Behind the lopsided word's closed group the only segment left on the active
path is the first one. -/

theorem lopsided_active_segment (place : Nat) :
    Word.ActiveSegment "]F[+F[X]F]]-".toList place ↔ place = 1 := by
  have split : "]F[+F[X]F]]-".toList =
      ([] ++ [']'] ++ ['F'] ++ '[' :: "+F[X]F".toList ++ [']'] ++ [']']) ++ ['-'] := rfl
  have noSegment : ¬ Word.ActiveSegment [] place := by
    intro active
    cases active.2.within
  have nested : Word.isNested "+F[X]F".toList = true := by decide
  have unmatched := Word.on_active_path_unmatched (show Word.depth [] = 0 from rfl)
  have group := Word.on_active_path_group ([] ++ [']'] ++ ['F']) nested
  rw [split, Word.active_segment_append_symbol _ (by decide),
    Word.active_segment_kept (Word.on_active_path_unmatched (by decide)),
    List.append_assoc _ _ [']'], Word.active_segment_kept group,
    Word.active_segment_append_symbol _ (by decide),
    Word.active_segment_kept unmatched]
  simp [noSegment]

theorem lopsided_branches_hang_on_active_path :
    ∃ drawn later, (lopsidedDrawing ⟨300.0, 600.0⟩).run (.ofValues [0.25, 0.5]) =
        (.ok drawn, later) ∧
      (∀ index, index < 4 → GrowsFrom (Surface.root ⟨300.0, 600.0⟩) drawn.branches index) ∧
      ∃ trunk last, drawn.branches[0]? = some trunk ∧ drawn.branches[3]? = some last ∧
        last.start = trunk.finish := by
  obtain ⟨drawn, later, returned⟩ := lopsided_word_is_interpreted
  have drew := returned
  rw [lopsidedDrawing] at drew
  obtain ⟨grows, count, hangs⟩ :=
    branches_hang_on_active_path lopsidedWord lopsidedParameters _ _ _ later drawn drew
  obtain ⟨last, there, tip⟩ := hangs "]F[+F[X]F]]-".toList [] rfl
  generalize start : last.start = point at tip
  cases tip with
  | @onBranch place trunk _ lastActive trunkThere below =>
      have first := (lopsided_active_segment place).mp lastActive.active
      subst first
      refine ⟨drawn, later, returned, ?_, trunk, last, trunkThere, there, start⟩
      intro index within
      apply grows
      rw [count]
      exact within
  | atRoot bare => exact absurd ((lopsided_active_segment 1).mpr rfl) (bare 1)

end Arboretum

import Arboretum.Proofs.Tree.Foliage
import Arboretum.Proofs.Tree.Strides

/-!
Walks without jitter, over exact numbers. A band without width leaves one number to be drawn from
it, so all that chance still decides is what a leaf looks like. The outline of a walk keeps where
each leaf is and forgets its look; what a symbol makes of the outline is a function of the symbol.
So two walks along a word have the same outline in the end, whatever they were drawn from and
however far apart their sources have come.
-/

namespace Arboretum

open Fallible

set_option autoImplicit false

/-- Nothing but what the leaf looks like is different. -/
def LeafSite.AlikeButForLook {α : Type} (leaf other : LeafSite α) : Prop :=
  other = { leaf with
    size := other.size, rotation := other.rotation, colorKey := other.colorKey, kind := other.kind }

variable {σ τ β γ : Type} [ChanceSource σ ℝ]

namespace Drawing

/-- From every source the drawing returns something good, unless the source refuses a choice. -/
def Ensures (good : β → Prop) (drawing : Drawing σ β) : Prop :=
  ∀ source, (∀ value, (drawing.run source).1 = .ok value → good value) ∧
    ∀ fault, (drawing.run source).1 = .error fault → Refuses σ fault

theorem ensures_pure {good : β → Prop} {value : β} (here : good value) :
    Ensures good (pure value : Drawing σ β) := by
  intro source
  refine ⟨fun other same => ?_, fun fault failed => by cases failed⟩
  cases same
  exact here

theorem ensures_bind {early : β → Prop} {good : γ → Prop} {first : Drawing σ β}
    {next : β → Drawing σ γ} (before : Ensures early first)
    (after : ∀ value, early value → Ensures good (next value)) : Ensures good (first >>= next) := by
  intro source
  obtain ⟨value, refused⟩ := before source
  rw [run_bind]
  rcases ran : first.run source with ⟨failure | drawn, later⟩
  · rw [ran] at refused
    refine ⟨fun _ returned => (by cases returned), fun fault failed => ?_⟩
    cases failed
    exact refused failure rfl
  · rw [ran] at value
    exact after drawn (value drawn rfl) later

theorem ensures_of_endures {drawing : Drawing σ β}
    (endures : Endures (fun _ => True) (Refuses σ) drawing) : Ensures (fun _ => True) drawing := by
  intro source
  have ends := endures source trivial
  refine ⟨fun _ _ => trivial, fun fault failed => ?_⟩
  rcases ran : drawing.run source with ⟨other | value, later⟩
  · rw [ran] at ends failed
    cases failed
    exact ends
  · rw [ran] at failed
    cases failed

/-- A band without width leaves one number, whatever is drawn. -/
theorem ensures_between_same {low high : ℝ} (same : low = high) :
    Ensures (· = low) (Drawing.between low high : Drawing σ ℝ) := by
  refine ensures_bind (ensures_of_endures unit_endures) fun share _ => ensures_pure ?_
  rw [same, sub_self, zero_mul, add_zero]

end Drawing

open Drawing

namespace LeafSite

/-- Where a leaf is and whether it is shown. -/
def spot (leaf : LeafSite ℝ) : LeafSite ℝ :=
  { leaf with size := 0, rotation := 0, colorKey := "", kind := .leaf }

noncomputable def bareSpot (position : Point ℝ) : LeafSite ℝ := (fresh position 0 0 "" .leaf)

theorem alike_of_spot {leaf other : LeafSite ℝ} (same : leaf.spot = other.spot) :
    leaf.AlikeButForLook other := by
  cases leaf
  cases other
  simp only [spot, LeafSite.mk.injEq, true_and] at same
  simp only [AlikeButForLook, same]

end LeafSite

/-! Without jitter, a leaf is put where it is asked for. -/

theorem jittered_without_spread (point : Point ℝ) :
    Ensures (· = point) (Turtle.jittered 0.0 point : Drawing σ (Point ℝ)) := by
  have widthless : -(0.0 : ℝ) = 0.0 := by norm_num
  refine ensures_bind (ensures_between_same widthless) fun across acrossZero => ?_
  refine ensures_bind (ensures_between_same widthless) fun along alongZero => ensures_pure ?_
  rw [acrossZero, alongZero, widthless, Exact.zero_eq, add_zero, add_zero]

theorem leaf_at_without_jitter (parameters : GrowthParameters ℝ) (point : Point ℝ) :
    Ensures (fun leaf => leaf.spot = .bareSpot point)
      (Turtle.leafAt parameters .none point : Drawing σ (LeafSite ℝ)) := by
  refine ensures_bind (jittered_without_spread point) fun position same => ?_
  refine ensures_bind (ensures_of_endures (between_endures _ _)) fun size _ => ?_
  refine ensures_bind (ensures_of_endures (between_endures _ _)) fun rotation _ => ?_
  refine ensures_bind (ensures_of_endures unit_endures) fun share _ => ?_
  rw [← same]
  split
  · exact ensures_pure rfl
  · exact ensures_bind (ensures_of_endures (leaf_color_endures _)) fun _ _ => ensures_pure rfl

namespace Walk

variable (parameters : GrowthParameters ℝ)

/-- The walk with nothing but the spots of its leaves. -/
def outline (walk : Walk ℝ) : Walk ℝ := { walk with leaves := walk.leaves.map LeafSite.spot }

noncomputable def onward (walk : Walk ℝ) : Walk ℝ :=
  walk.withSegment
    { x := walk.turtle.position.x + walk.turtle.segmentLength * Real.cos walk.turtle.heading
      y := walk.turtle.position.y + walk.turtle.segmentLength * Real.sin walk.turtle.heading }

noncomputable def veered (sign : ℝ) (walk : Walk ℝ) : Walk ℝ :=
  { walk with
    turtle := walk.turtle.turned (sign * Scalar.radians parameters.baseAngleDegrees * 1.0) }

/-- What a symbol makes of an outline when nothing is left to chance. -/
noncomputable def certainStep (walk : Walk ℝ) : Char → Walk ℝ
  | 'F' => walk.onward
  | 'X' => { walk with leaves := walk.leaves.push (.bareSpot walk.turtle.position) }
  | '+' => walk.veered parameters 1.0
  | '-' => walk.veered parameters (-1.0)
  | '[' => walk.openBranch parameters
  | ']' => walk.closeBranch
  | _ => walk

theorem close_branch_outline (walk : Walk ℝ) :
    walk.closeBranch.outline = walk.outline.closeBranch := by
  cases was : walk.saved with
  | nil =>
      have nothing : walk.outline.saved = [] := was
      rw [close_branch_of_nothing_saved was, close_branch_of_nothing_saved nothing]
  | cons turtle saved =>
      have wasOutlined : walk.outline.saved = turtle :: saved := was
      rw [close_branch_of_saved was, close_branch_of_saved wasOutlined]
      rfl

theorem turn_without_jitter (sign : ℝ) (walk : Walk ℝ) :
    Ensures (fun next => next.outline = walk.outline.veered parameters sign)
      (walk.turn parameters .none sign : Drawing σ (Walk ℝ)) := by
  refine ensures_bind (ensures_between_same rfl) fun scale same => ensures_pure ?_
  rw [same]
  rfl

theorem segment_without_jitter (walk : Walk ℝ) :
    Ensures (fun next => next.outline = walk.outline.onward)
      (walk.drawSegment parameters .none : Drawing σ (Walk ℝ)) := by
  have widthless :
      -(parameters.angleJitterDegrees * (JitterBands.none : JitterBands ℝ).angleJitterScale) =
      parameters.angleJitterDegrees * (JitterBands.none : JitterBands ℝ).angleJitterScale := by
    change -(parameters.angleJitterDegrees * (0.0 : ℝ)) = parameters.angleJitterDegrees * (0.0 : ℝ)
    norm_num
  refine ensures_bind (ensures_between_same widthless) fun offset same => ?_
  have straight : Scalar.radians offset = 0 := by
    rw [same]
    change -(parameters.angleJitterDegrees * (0.0 : ℝ)) * _ = 0
    norm_num
  simp only [straight, add_zero]
  have straightOn : Ensures (fun finish => walk.withSegment finish = walk.onward)
      (liftM (walk.turtle.ahead walk.turtle.heading) : Drawing σ (Point ℝ)) := ensures_pure rfl
  refine ensures_bind straightOn fun finish reached => ensures_pure ?_
  exact congrArg outline reached

theorem step_without_jitter (walk : Walk ℝ) (symbol : Char) :
    Ensures (fun next => next.outline = walk.outline.certainStep parameters symbol)
      (walk.step parameters .none symbol : Drawing σ (Walk ℝ)) := by
  unfold step
  split
  · exact segment_without_jitter parameters walk
  · refine ensures_bind (leaf_at_without_jitter parameters _) fun leaf same => ensures_pure ?_
    rw [outline, Array.map_push, same]
    rfl
  · exact turn_without_jitter parameters _ walk
  · exact turn_without_jitter parameters _ walk
  · exact ensures_pure rfl
  · exact ensures_pure (close_branch_outline walk)
  · refine ensures_pure ?_
    rw [certainStep] <;> assumption

/-- The outline in the end is made of the outline in the beginning, symbol by symbol. -/
theorem along_without_jitter (word : Word) (walk : Walk ℝ) :
    Ensures (fun last => last.outline = word.foldl (certainStep parameters) walk.outline)
      (along parameters .none word walk : Drawing σ (Walk ℝ)) := by
  induction word generalizing walk with
  | nil => exact ensures_pure rfl
  | cons symbol word induction =>
      refine ensures_bind (step_without_jitter parameters walk symbol) fun next same => ?_
      rw [List.foldl_cons, ← same]
      exact induction next

theorem interpret_without_jitter (word : Word) (surface : Surface ℝ) :
    Ensures (fun drawn => ∃ last : Walk ℝ, last.interpretation = drawn ∧
        last.outline = word.foldl (certainStep parameters) (initial parameters surface).outline)
      (interpret word parameters surface .none : Drawing σ (Interpretation ℝ)) :=
  ensures_bind (along_without_jitter parameters word _) fun last certain =>
    ensures_pure ⟨last, rfl, certain⟩

variable {parameters}

theorem leaf_placed {surface : Surface ℝ} {source later : σ} {drawn : Interpretation ℝ}
    {word front back : Word} (split : word = front ++ 'X' :: back)
    (returned : (interpret word parameters surface .none).run source = (.ok drawn, later)) :
    ∃ walk middle leaf,
      (along parameters .none front (initial parameters surface)).run source = (.ok walk, middle) ∧
      drawn.leaves[front.count 'X']? = some leaf ∧ leaf.position = walk.turtle.position := by
  subst split
  obtain ⟨last, walked, rfl⟩ := interpret_returned.mp returned
  obtain ⟨walk, middle, early, late⟩ := (along_append_returned ..).mp walked
  rw [along, run_bind_eq_ok] at late
  obtain ⟨next, _, stepped, late⟩ := late
  change (walk.placeLeaf parameters .none).run middle = _ at stepped
  rw [placeLeaf, run_bind_eq_ok] at stepped
  obtain ⟨leaf, between, placed, same⟩ := stepped
  cases same
  have spot := (leaf_at_without_jitter parameters walk.turtle.position middle).1
  rw [placed] at spot
  have position : leaf.position = walk.turtle.position :=
    congrArg LeafSite.position (spot leaf rfl)
  refine ⟨walk, middle, leaf, early, ?_, position⟩
  obtain ⟨_, before, drewBefore, beforeCount⟩ := strides_draw (strides_of_returned early)
  obtain ⟨_, after, drewAfter, _⟩ := strides_draw (strides_of_returned late)
  have counted : walk.leaves.toList.length = front.count 'X' := by
    rw [drewBefore, ← beforeCount]
    rfl
  change last.leaves.toList[_]? = _
  rw [drewAfter, Array.toList_push, List.append_assoc, ← counted,
    List.getElem?_append_right (Nat.le_refl _), Nat.sub_self]
  rfl

end Walk

/-- Over exact numbers and without jitter, an interpretation returns unless its source
refuses a choice. Whatever two interpretations of a word are drawn from, they have the same
branches and as many leaves, and the leaves are alike but for their look; each is where the
turtle was when its symbol was read. -/
theorem geometry_without_jitter_is_certain [ChanceSource τ ℝ] (word : Word)
    (parameters : GrowthParameters ℝ) (surface : Surface ℝ) (source : σ) (another : τ) :
    let drawing := (interpret word parameters surface .none).run source
    (∀ fault, drawing.1 = .error fault → Refuses σ fault) ∧
      ∀ drawn, drawing.1 = .ok drawn →
        (∀ drawnToo, ((interpret word parameters surface .none).run another).1 = .ok drawnToo →
          drawn.branches = drawnToo.branches ∧
            List.Forall₂ LeafSite.AlikeButForLook drawn.leaves drawnToo.leaves) ∧
        ∀ front back : Word, word = front ++ 'X' :: back → ∃ walk middle leaf,
          (Walk.along parameters .none front (.initial parameters surface)).run source =
            (.ok walk, middle) ∧
          drawn.leaves[front.count 'X']? = some leaf ∧ leaf.position = walk.turtle.position := by
  intro drawing
  obtain ⟨certain, refused⟩ := Walk.interpret_without_jitter parameters word surface source
  refine ⟨refused, fun drawn drew => ⟨fun drawnToo drewToo => ?_, fun front back split => ?_⟩⟩
  · obtain ⟨last, rfl, outline⟩ := certain drawn drew
    obtain ⟨lastToo, rfl, outlineToo⟩ :=
      (Walk.interpret_without_jitter parameters word surface another).1 drawnToo drewToo
    have same : last.outline = lastToo.outline := outline.trans outlineToo.symm
    have spots : last.leaves.toList.map LeafSite.spot =
        lastToo.leaves.toList.map LeafSite.spot := by
      simpa [Walk.outline] using congrArg (fun walk => walk.leaves.toList) same
    rw [← List.forall₂_eq_eq_eq, List.forall₂_map_left_iff, List.forall₂_map_right_iff] at spots
    exact ⟨congrArg (fun walk => walk.branches.toList) same,
      spots.imp fun _ _ => LeafSite.alike_of_spot⟩
  · obtain ⟨_, returned⟩ := returned_of_outcome drew
    exact Walk.leaf_placed split returned

/-! Two sources that draw one number each, of which one makes a flower of a leaf. -/

noncomputable def evenSource : GentleSource := ⟨0.5, by norm_num, by norm_num⟩

theorem gentle_leaf_kind {point : Point ℝ} {source later : GentleSource} {leaf : LeafSite ℝ}
    (placed : (Turtle.leafAt leafyParameters .none point).run source = (.ok leaf, later)) :
    leaf.kind = if source.share < Turtle.flowerProbability then .flower else .leaf := by
  change (ite (source.share < Turtle.flowerProbability) _ _ : Drawing GentleSource (LeafSite ℝ)).run
    source = _ at placed
  split at placed
  · rename_i flower
    rw [if_pos flower]
    cases placed
    rfl
  · rename_i green
    rw [if_neg green]
    cases placed
    rfl

theorem gentle_bud_returns (source : GentleSource) : ∃ drawn : Interpretation ℝ,
    ((interpret Word.bud leafyParameters ⟨600, 600⟩ .none).run source).1 = .ok drawn ∧
      drawn.leaves.map (·.kind) =
        [if source.share < Turtle.flowerProbability then .flower else .leaf] := by
  have endures := (Walk.interpret_without_jitter leafyParameters Word.bud ⟨600, 600⟩ source).2
  rcases ran : (interpret Word.bud leafyParameters ⟨600, 600⟩ .none).run source with
    ⟨fault | drawn, later⟩
  · rw [ran] at endures
    obtain ⟨_, _, _, refused⟩ := endures fault rfl
    cases refused
  · refine ⟨drawn, rfl, ?_⟩
    obtain ⟨last, walked, rfl⟩ := Walk.interpret_returned.mp ran
    simp only [Word.bud, Walk.along, Walk.step, Walk.placeLeaf, run_bind_eq_ok, run_pure] at walked
    obtain ⟨_, _, ⟨leaf, _, placed, same⟩, done⟩ := walked
    cases same
    cases done
    rw [← gentle_leaf_kind placed]
    rfl

theorem bud_grows_in_one_place :
    ∃ drawn drawnToo : Interpretation ℝ,
      ((interpret Word.bud leafyParameters ⟨600, 600⟩ .none).run lowSource).1 = .ok drawn ∧
      ((interpret Word.bud leafyParameters ⟨600, 600⟩ .none).run evenSource).1 = .ok drawnToo ∧
      drawn.branches = drawnToo.branches ∧
      List.Forall₂ LeafSite.AlikeButForLook drawn.leaves drawnToo.leaves ∧
      drawn.leaves.map (·.kind) = [.flower] ∧ drawnToo.leaves.map (·.kind) = [.leaf] ∧
      ∃ leaf, drawn.leaves[0]? = some leaf ∧
        leaf.position = (Turtle.initial leafyParameters (⟨600, 600⟩ : Surface ℝ)).position := by
  obtain ⟨drawn, drew, kind⟩ := gentle_bud_returns lowSource
  obtain ⟨drawnToo, drewToo, kindToo⟩ := gentle_bud_returns evenSource
  have low : lowSource.share < Turtle.flowerProbability := by
    change (0 : ℝ) < 0.3
    norm_num
  have even : ¬ evenSource.share < Turtle.flowerProbability := by
    change ¬ (0.5 : ℝ) < 0.3
    norm_num
  rw [if_pos low] at kind
  rw [if_neg even] at kindToo
  obtain ⟨_, certain⟩ := geometry_without_jitter_is_certain Word.bud leafyParameters ⟨600, 600⟩
    lowSource evenSource
  obtain ⟨alike, placed⟩ := certain drawn drew
  obtain ⟨branches, leaves⟩ := alike drawnToo drewToo
  obtain ⟨walk, _, leaf, walked, there, position⟩ := placed [] [] rfl
  cases walked
  exact ⟨drawn, drawnToo, drew, drewToo, branches, leaves, kind, kindToo, leaf, there, position⟩

end Arboretum

import Arboretum.Proofs.Number.Exact
import Arboretum.Proofs.Chance.Fair
import Arboretum.Proofs.Tree.Scattering
import Mathlib.Tactic.NormNum

/-!
The foliage of side branches, over exact numbers. What a branch adds is a share: one leaf or two
near its points, or nothing. The foliage is the leaves that were there and then the shares of
the branches, in the order of the branches. Branches that are never come to have empty shares,
and a cut through the shares cuts one of them and empties those behind it; so what is left after
the final cut are shares again.
-/

namespace Arboretum

open Drawing Fallible

set_option autoImplicit false

/-- A leaf as the scattering puts it near some point of a branch. -/
structure LeafSite.ScatteredOn (parameters : GrowthParameters ℝ) (jitter : JitterBands ℝ)
    (branch : Branch ℝ) (leaf : LeafSite ℝ) : Prop where
  kind : leaf.kind = .leaf
  unrevealed : leaf.revealed = false
  faint : leaf.opacity = 0
  shade : leaf.colorKey ∈ paletteFor parameters.paletteIndex
  near : ∃ t : ℝ, 0 ≤ t ∧ t ≤ 1 ∧
    |leaf.position.x - (branch.start.toward branch.finish t).x| ≤ jitter.scatterOffset ∧
    |leaf.position.y - (branch.start.toward branch.finish t).y| ≤ jitter.scatterOffset

/-- The leaves that one branch may add. -/
structure Branch.Bears (parameters : GrowthParameters ℝ) (jitter : JitterBands ℝ)
    (branch : Branch ℝ) (share : List (LeafSite ℝ)) : Prop where
  atMostTwo : share.length ≤ 2
  bareTrunk : branch.level = 0 → share = []
  scattered : ∀ leaf ∈ share, leaf.ScatteredOn parameters jitter branch

variable {parameters : GrowthParameters ℝ} {jitter : JitterBands ℝ}

namespace Branch

theorem bears_nothing (branch : Branch ℝ) : branch.Bears parameters jitter [] :=
  ⟨Nat.zero_le 2, fun _ => rfl, List.forall_mem_nil _⟩

theorem bears_take {branch : Branch ℝ} {share : List (LeafSite ℝ)} (count : Nat)
    (bears : branch.Bears parameters jitter share) :
    branch.Bears parameters jitter (share.take count) where
  atMostTwo := (List.length_take_le' count share).trans bears.atMostTwo
  bareTrunk trunk := by rw [bears.bareTrunk trunk, List.take_nil]
  scattered leaf member := bears.scattered leaf (List.mem_of_mem_take member)

theorem point_at_within (branch : Branch ℝ) {t : ℝ} (within : 0 ≤ t ∧ t ≤ 1) :
    branch.pointAt t = branch.start.toward branch.finish t := by
  rw [Branch.pointAt, Exact.larger_eq, Exact.smaller_eq, Exact.zero_eq, Exact.one_eq,
    max_eq_right within.1, min_eq_right within.2]

end Branch

theorem all_bear_nothing (branches : List (Branch ℝ)) :
    ∃ shares, List.Forall₂ (Branch.Bears parameters jitter) branches shares ∧
      shares.flatten = [] := by
  induction branches with
  | nil => exact ⟨[], .nil, rfl⟩
  | cons branch branches induction =>
      obtain ⟨shares, bear, nothing⟩ := induction
      exact ⟨[] :: shares, .cons branch.bears_nothing bear, nothing⟩

/-- A cut through the shares of the branches leaves shares of them. -/
theorem shares_take {branches : List (Branch ℝ)} {shares : List (List (LeafSite ℝ))}
    (bear : List.Forall₂ (Branch.Bears parameters jitter) branches shares) (count : Nat) :
    ∃ cut, List.Forall₂ (Branch.Bears parameters jitter) branches cut ∧
      cut.flatten = shares.flatten.take count := by
  induction bear generalizing count with
  | nil => exact ⟨[], .nil, (List.take_nil).symm⟩
  | @cons branch share branches shares bears bear induction =>
      obtain ⟨cut, bearCut, same⟩ := induction (count - share.length)
      refine ⟨share.take count :: cut, .cons (Branch.bears_take count bears) bearCut, ?_⟩
      rw [List.flatten_cons, List.flatten_cons, same, List.take_append]

theorem trunks_bear_nothing {branches : List (Branch ℝ)} {shares : List (List (LeafSite ℝ))}
    (bear : List.Forall₂ (Branch.Bears parameters jitter) branches shares)
    (trunks : ∀ branch ∈ branches, branch.level = 0) : shares.flatten = [] := by
  induction bear with
  | nil => rfl
  | cons bears bear induction =>
      obtain ⟨trunk, trunks⟩ := List.forall_mem_cons.mp trunks
      rw [List.flatten_cons, bears.bareTrunk trunk, List.nil_append]
      exact induction trunks

variable {σ : Type} [ChanceSource σ ℝ]

namespace Scatter

theorem jittered_gives (fair : Fair σ) {spread : ℝ} (natural : 0 ≤ spread) (point : Point ℝ) :
    Gives (fun position => |position.x - point.x| ≤ spread ∧ |position.y - point.y| ≤ spread)
      (Turtle.jittered spread point : Drawing σ (Point ℝ)) := by
  have around : -spread ≤ spread := neg_le_self natural
  refine gives_bind (between_gives fair around) fun across acrossWithin => ?_
  refine gives_bind (between_gives fair around) fun along alongWithin => gives_pure ⟨?_, ?_⟩
  · rw [add_sub_cancel_left]
    exact abs_le.mpr acrossWithin
  · rw [add_sub_cancel_left]
    exact abs_le.mpr alongWithin

theorem full_turn_not_negative : (0.0 : ℝ) ≤ Turtle.fullTurn := by
  change (0.0 : ℝ) ≤ 2.0 * Real.pi
  have := Real.pi_pos
  norm_num
  exact this.le

/-- A leaf is put beside a point of the branch, by no more than the spread on each axis. -/
theorem leaf_on_gives (fair : Fair σ) (spread : 0 ≤ jitter.scatterOffset) (branch : Branch ℝ) :
    Gives (LeafSite.ScatteredOn parameters jitter branch)
      (leafOn parameters jitter branch : Drawing σ (LeafSite ℝ)) := by
  refine gives_bind (unit_gives fair) fun share within => ?_
  refine gives_bind (jittered_gives fair spread _) fun position near => ?_
  refine gives_bind (between_gives fair (by norm_num)) fun size _ => ?_
  refine gives_bind (between_gives fair full_turn_not_negative) fun rotation _ => ?_
  refine gives_bind (one_of_gives fair (palette_for_ne_nil _)) fun shade member => gives_pure ?_
  refine ⟨rfl, rfl, Exact.zero_eq, member, share, within.1, within.2.le, ?_⟩
  rwa [Branch.point_at_within branch ⟨within.1, within.2.le⟩] at near

theorem leaves_on_gives (fair : Fair σ) (spread : 0 ≤ jitter.scatterOffset) (branch : Branch ℝ)
    (count : Nat) :
    Gives
      (fun leaves =>
        leaves.length = count ∧ ∀ leaf ∈ leaves, leaf.ScatteredOn parameters jitter branch)
      (leavesOn parameters jitter branch count : Drawing σ (List (LeafSite ℝ))) := by
  induction count with
  | zero => exact gives_pure ⟨rfl, List.forall_mem_nil _⟩
  | succ count induction =>
      refine gives_bind (leaf_on_gives fair spread branch) fun leaf scattered => ?_
      refine gives_bind induction fun leaves others => gives_pure ⟨?_, ?_⟩
      · rw [List.length_cons, others.1]
      · exact List.forall_mem_cons.mpr ⟨scattered, others.2⟩

/-- The number of leaves is the whole part of a number below three, and at least one. -/
theorem count_at_most_two {share : ℝ} (within : 0 ≤ share ∧ share < 1) :
    ∃ count, Scalar.truncate (share * countBound) = .ok count ∧ (max 1 count).toNat ≤ 2 := by
  have bound : share * countBound = share * 3 := by
    rw [show (countBound : ℝ) = 3.0 from rfl]
    norm_num
  have least : 0 ≤ share * 3 := by linarith [within.1]
  have whole : Scalar.truncate (share * 3) = .ok ⌊share * 3⌋ := by
    change Except.ok (if 0 ≤ share * 3 then ⌊share * 3⌋ else ⌈share * 3⌉) = _
    rw [if_pos least]
  have below : ⌊share * 3⌋ < 3 := by
    rw [Int.floor_lt]
    push_cast
    linarith [within.2]
  refine ⟨⌊share * 3⌋, by rw [bound, whole], ?_⟩
  omega

theorem added_gives (fair : Fair σ) (spread : 0 ≤ jitter.scatterOffset) (branch : Branch ℝ) :
    Gives (branch.Bears parameters jitter)
      (added parameters jitter branch : Drawing σ (List (LeafSite ℝ))) := by
  unfold added
  by_cases trunk : branch.level = 0
  · simp only [trunk, if_true]
    exact gives_pure branch.bears_nothing
  simp only [trunk, if_false]
  refine gives_bind (unit_gives fair) fun share _ => ?_
  by_cases passed : probability ≤ share
  · simp only [passed, if_true]
    exact gives_pure branch.bears_nothing
  simp only [passed, if_false]
  refine gives_bind (unit_gives fair) fun portion within => ?_
  obtain ⟨count, counted, few⟩ := count_at_most_two within
  rw [counted]
  change Gives _ (leavesOn parameters jitter branch (max 1 count).toNat)
  refine gives_mono (fun leaves bears => ?_) (leaves_on_gives fair spread branch _)
  exact ⟨bears.1.trans_le few, fun level => absurd level trunk, bears.2⟩

theorem along_gives (fair : Fair σ) (spread : 0 ≤ jitter.scatterOffset) (target : Nat)
    (branches : List (Branch ℝ)) (leaves : Array (LeafSite ℝ)) :
    Gives (fun all : Array (LeafSite ℝ) => ∃ shares,
        List.Forall₂ (Branch.Bears parameters jitter) branches shares ∧
          all.toList = leaves.toList ++ shares.flatten)
      (along parameters jitter target branches leaves : Drawing σ (Array (LeafSite ℝ))) := by
  induction branches generalizing leaves with
  | nil => exact gives_pure ⟨[], .nil, (List.append_nil _).symm⟩
  | cons branch branches induction =>
      refine gives_bind (added_gives fair spread branch) fun more bears => ?_
      have longer : (leaves ++ more).toList = leaves.toList ++ more := Array.toList_appendList
      dsimp only
      split
      · obtain ⟨shares, bear, nothing⟩ := all_bear_nothing branches
        refine gives_pure ⟨more :: shares, .cons bears bear, ?_⟩
        rw [longer, List.flatten_cons, nothing, List.append_nil]
      · refine gives_mono (fun all bear => ?_) (induction (leaves ++ more))
        obtain ⟨shares, bear, same⟩ := bear
        refine ⟨more :: shares, .cons bears bear, ?_⟩
        rw [same, longer, List.flatten_cons, List.append_assoc]

end Scatter

theorem scatter_leaves_gives (fair : Fair σ) (branches : List (Branch ℝ))
    (leaves : List (LeafSite ℝ))
    (wanted : 0 < parameters.leafDensityTarget) (spread : 0 ≤ jitter.scatterOffset) :
    Gives (fun scattered => ∃ shares,
        List.Forall₂ (Branch.Bears parameters jitter) branches shares ∧
          scattered = (leaves ++ shares.flatten).take parameters.leafDensityTarget.toNat)
      (scatterLeaves branches leaves parameters jitter : Drawing σ (List (LeafSite ℝ))) := by
  unfold scatterLeaves
  rw [if_neg (Int.not_le.mpr wanted)]
  refine gives_bind (Scatter.along_gives fair spread _ branches leaves.toArray) fun all bear => ?_
  obtain ⟨shares, bear, same⟩ := bear
  exact gives_pure ⟨shares, bear, congrArg (List.take _) same⟩

/-- From a fair source, the scattering returns unless the source gives up on a choice. It gives the
leaves that there were, cut at the target, and behind them shares of the branches in their order:
one leaf or two of the branch's palette near its points, or none, and none on the trunk. -/
theorem foliage_lines_side_branches (fair : Fair σ) (branches : List (Branch ℝ))
    (leaves : List (LeafSite ℝ)) (parameters : GrowthParameters ℝ) (jitter : JitterBands ℝ)
    (wanted : 0 < parameters.leafDensityTarget) (spread : 0 ≤ jitter.scatterOffset) (source : σ) :
    let target := parameters.leafDensityTarget.toNat
    let outcome := ((scatterLeaves branches leaves parameters jitter).run source).1
    (∀ fault, outcome = .error fault → ChanceFault σ fault) ∧
      ∀ scattered, outcome = .ok scattered →
        scattered.length ≤ target ∧
        (∃ shares, List.Forall₂ (Branch.Bears parameters jitter) branches shares ∧
          scattered = leaves.take target ++ shares.flatten) ∧
        ((∀ branch ∈ branches, branch.level = 0) → scattered = leaves.take target) := by
  intro target outcome
  obtain ⟨value, fault⟩ := scatter_leaves_gives fair branches leaves wanted spread source
  refine ⟨fault, fun scattered returned => ?_⟩
  obtain ⟨shares, bear, same⟩ := value scattered returned
  rw [List.take_append] at same
  obtain ⟨cut, bearCut, sameCut⟩ := shares_take bear (target - leaves.length)
  rw [← sameCut] at same
  refine ⟨?_, ⟨cut, bearCut, same⟩, fun trunks => ?_⟩
  · rw [same, sameCut, ← List.take_append]
    exact List.length_take_le _ _
  · rw [same, trunks_bear_nothing bearCut trunks, List.append_nil]

/-! One leaf that was there, a trunk and a side branch, with a source that never
passes a branch over. -/

/-- A source that draws one number of the unit interval over and over and takes
the last of all choices. -/
structure GentleSource where
  share : ℝ
  within : 0 ≤ share ∧ share < 1

instance : ChanceSource GentleSource ℝ where
  draw source := (source.share, source)
  choose count source := (.ok (count - 1), source)

theorem gentle_is_fair : Fair GentleSource where
  within source := source.within
  among count source chosen some chose := by
    cases chose
    omega

def lowSource : GentleSource := ⟨0, le_rfl, one_pos⟩

def bareTrunk : Branch ℝ := ⟨⟨0, 0⟩, ⟨0, -30⟩, 5, 0, "trunk", false⟩

def sideTwig : Branch ℝ := ⟨⟨0, -30⟩, ⟨20, -50⟩, 3, 1, "twig", false⟩

def lonelyLeaf : LeafSite ℝ := ⟨⟨0, -30⟩, 3, 0, "#4CAF50", .leaf, false, 0⟩

noncomputable def leafyParameters : GrowthParameters ℝ :=
  { GrowthParameters.ofSeed with leafDensityTarget := 5 }

theorem side_twig_adds_one :
    ∃ leaf, (Scatter.added leafyParameters .usual sideTwig).run lowSource =
      (.ok [leaf], lowSource) := by
  have takes : ¬(Scatter.probability : ℝ) ≤ 0 := by
    change ¬(0.7 : ℝ) ≤ 0
    norm_num
  have count : Scalar.truncate ((0 : ℝ) * Scatter.countBound) = .ok 0 := by
    change Except.ok (if 0 ≤ (0 : ℝ) * 3.0 then ⌊(0 : ℝ) * 3.0⌋ else ⌈(0 : ℝ) * 3.0⌉) = _
    norm_num
  obtain ⟨leaf, put⟩ : ∃ leaf, (Scatter.leafOn leafyParameters .usual sideTwig).run lowSource =
      (.ok leaf, lowSource) := ⟨_, rfl⟩
  refine ⟨leaf, ?_⟩
  have drew : (Drawing.unit : Drawing GentleSource ℝ).run lowSource = (.ok 0, lowSource) := rfl
  unfold Scatter.added
  rw [if_neg (by decide), run_bind, drew]
  dsimp only
  rw [if_neg takes, run_bind, drew]
  dsimp only
  rw [count]
  change (Scatter.leavesOn leafyParameters .usual sideTwig 1).run lowSource = _
  rw [Scatter.leavesOn, run_bind, put]
  rfl

theorem foliage_lines_a_twig :
    ∃ scattered shares,
      ((scatterLeaves [bareTrunk, sideTwig] [lonelyLeaf] leafyParameters .usual).run lowSource).1 =
        .ok scattered ∧
      List.Forall₂ (Branch.Bears leafyParameters .usual) [bareTrunk, sideTwig] shares ∧
      scattered = lonelyLeaf :: shares.flatten ∧ scattered.length = 2 := by
  have wanted : 0 < leafyParameters.leafDensityTarget := by decide
  have spread : 0 ≤ (JitterBands.usual : JitterBands ℝ).scatterOffset := by
    change (0 : ℝ) ≤ 6.0
    norm_num
  obtain ⟨leaf, adds⟩ := side_twig_adds_one
  have ran : ((scatterLeaves [bareTrunk, sideTwig] [lonelyLeaf] leafyParameters .usual).run
      lowSource).1 = .ok [lonelyLeaf, leaf] := by
    rw [Scatter.run_scatter_leaves _ _ wanted, Scatter.along, run_bind]
    change ((Scatter.along leafyParameters .usual 5 [sideTwig] #[lonelyLeaf]).run
      lowSource).1.map _ = _
    rw [Scatter.along, run_bind, adds]
    rfl
  obtain ⟨_, value⟩ := foliage_lines_side_branches gentle_is_fair [bareTrunk, sideTwig] [lonelyLeaf]
    leafyParameters .usual wanted spread lowSource
  obtain ⟨_, ⟨shares, bear, same⟩, _⟩ := value _ ran
  exact ⟨_, shares, ran, bear, same, rfl⟩

end Arboretum

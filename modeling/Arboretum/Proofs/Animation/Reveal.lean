import Arboretum.Animation.Animator
import Arboretum.Proofs.Animation.Motes
import Mathlib.Data.List.Forall2

/-!
What one frame does to a run. Entries are replaced from the cursor on and the cursor moves past
those that were replaced, so a list that stands revealed up to its cursor does so afterwards. Beyond
that, a frame leaves alone everything by which a run is known: its settings, its lists, its
receiver, and the generation and subscription under which it listens.
-/

namespace Arboretum

open Fallible

set_option autoImplicit false

/-- The shown list has the given entries, each standing to the given one as its place before
or behind the cursor demands. -/
structure RevealedUpTo {β : Type} (stands : Bool → β → β → Prop) (given shown : List β)
    (cursor : Nat) : Prop where
  as_many : shown.length = given.length
  cursor_le : cursor ≤ given.length
  stands_at : ∀ (index : Nat) (old new : β), given[index]? = some old → shown[index]? = some new →
    stands (decide (index < cursor)) old new

/-- A branch is the given one but for the mark, which tells whether it is revealed. -/
def Branch.Stands {α : Type} (revealed : Bool) (given shown : Branch α) : Prop :=
  shown = { given with revealed := revealed }

/-- A leaf is the given one but for the mark and the opacity. -/
def LeafSite.Stands {α : Type} (revealed : Bool) (given shown : LeafSite α) : Prop :=
  ∃ opacity, shown = { given with revealed := revealed, opacity := opacity }

theorem revealed_up_to_concealed {β : Type} {stands : Bool → β → β → Prop} {conceal : β → β}
    (concealed : ∀ entry, stands false entry (conceal entry)) (given : List β) :
    RevealedUpTo stands given (given.map conceal) 0 where
  as_many := by simp
  cursor_le := Nat.zero_le _
  stands_at := by
    intro index old new oldAt newAt
    rw [List.getElem?_map, oldAt] at newAt
    cases newAt
    simpa using concealed old

theorem revealed_up_to_replaced {β : Type} {stands : Bool → β → β → Prop} {given shown : List β}
    {cursor count : Nat} (revealed : RevealedUpTo stands given shown cursor) (fresh : List β)
    (refreshed : List.Forall₂
      (fun old new => ∀ entry, stands false entry old → stands true entry new)
      ((shown.drop cursor).take count) fresh) :
    RevealedUpTo stands given
      (shown.take cursor ++ fresh ++ shown.drop (cursor + fresh.length))
      (cursor + fresh.length) := by
  have sameLength := revealed.as_many
  have cursorLe := revealed.cursor_le
  have freshLength : fresh.length ≤ shown.length - cursor := by
    have counted := refreshed.length_eq
    simp only [List.length_take, List.length_drop] at counted
    omega
  constructor
  · simp only [List.length_append, List.length_take, List.length_drop]
    omega
  · omega
  · intro index old new oldAt newAt
    by_cases behind : index < cursor
    · have kept : shown[index]? = some new := by
        rw [← newAt, List.append_assoc,
          List.getElem?_append_left (by simp only [List.length_take]; omega),
          List.getElem?_take_of_lt behind]
      have stood := revealed.stands_at index old new oldAt kept
      simpa [behind, show index < cursor + fresh.length by omega] using stood
    by_cases reached : index < cursor + fresh.length
    · have freshAt : fresh[index - cursor]? = some new := by
        rw [← newAt, List.append_assoc,
          List.getElem?_append_right (by simp only [List.length_take]; omega),
          List.getElem?_append_left (by simp only [List.length_take]; omega)]
        simp only [List.length_take, Nat.min_eq_left (show cursor ≤ shown.length by omega)]
      obtain ⟨_, freshEq⟩ := List.getElem?_eq_some_iff.mp freshAt
      have shownBound : index < shown.length := by omega
      have stood := revealed.stands_at index old shown[index] oldAt
        (List.getElem?_eq_getElem shownBound)
      have renewed := refreshed.get (i := index - cursor)
        (by have counted := refreshed.length_eq; omega) (by omega)
      simp only [List.get_eq_getElem, List.getElem_take, List.getElem_drop,
        show cursor + (index - cursor) = index by omega, freshEq] at renewed
      simp only [behind, decide_false] at stood
      simpa [reached] using renewed old stood
    · have kept : shown[index]? = some new := by
        rw [← newAt, List.getElem?_append_right
          (by simp only [List.length_append, List.length_take]; omega)]
        simp only [List.length_append, List.length_take, List.getElem?_drop]
        congr 1
        omega
      have stood := revealed.stands_at index old new oldAt kept
      simpa [behind, reached] using stood

namespace Animator

variable {σ α : Type}

theorem changed_from_replaces {β : Type} (cursor count : Nat) (change : β → β) (entries : List β) :
    let fresh := ((entries.drop cursor).take count).map change
    changedFrom cursor count change entries =
      entries.take cursor ++ fresh ++ entries.drop (cursor + fresh.length) := by
  intro fresh
  have freshLength : fresh.length = min count (entries.length - cursor) := by
    simp only [fresh, List.length_map, List.length_take, List.length_drop]
  rw [changedFrom, freshLength]
  congr 1
  by_cases enough : count ≤ entries.length - cursor
  · rw [Nat.min_eq_left enough]
  · rw [List.drop_of_length_le (by omega), List.drop_of_length_le (by omega)]

theorem with_branches_cursor (quota : Nat) (animator : Animator σ α)
    (cursorLe : animator.branchCursor ≤ animator.branches.length) :
    (animator.withBranches quota).branchCursor =
      min (animator.branchCursor + quota) animator.branches.length := by
  rw [withBranches, Nat.max_eq_right cursorLe]

theorem with_branches_revealed (given : List (Branch α)) (quota : Nat) (animator : Animator σ α)
    (revealed : RevealedUpTo Branch.Stands given animator.branches animator.branchCursor) :
    RevealedUpTo Branch.Stands given (animator.withBranches quota).branches
      (animator.withBranches quota).branchCursor := by
  have cursorLe : animator.branchCursor ≤ animator.branches.length := by
    rw [revealed.as_many]
    exact revealed.cursor_le
  have refreshed : List.Forall₂
      (fun old new => ∀ entry, Branch.Stands false entry old → Branch.Stands true entry new)
      ((animator.branches.drop animator.branchCursor).take quota)
      (((animator.branches.drop animator.branchCursor).take quota).map Branch.shown) := by
    rw [List.forall₂_map_right_iff]
    refine List.forall₂_same.mpr ?_
    rintro old _ entry rfl
    rfl
  have replaced := revealed_up_to_replaced revealed _ refreshed
  have moved : min (animator.branchCursor + quota) animator.branches.length =
      animator.branchCursor +
        (((animator.branches.drop animator.branchCursor).take quota).map Branch.shown).length := by
    simp only [List.length_map, List.length_take, List.length_drop]
    omega
  rw [with_branches_cursor quota animator cursorLe, moved]
  change RevealedUpTo Branch.Stands given
    (changedFrom animator.branchCursor quota Branch.shown animator.branches) _
  rw [changed_from_replaces]
  exact replaced

structure SameRun (before after : Animator σ α) : Prop where
  settings : after.settings = before.settings
  started : after.startedAtMs = before.startedAtMs
  receiver : after.receiver = before.receiver
  generation : after.generation = before.generation
  subscription : after.subscription = before.subscription

theorem same_run_refl (animator : Animator σ α) : animator.SameRun animator :=
  ⟨rfl, rfl, rfl, rfl, rfl⟩

theorem same_run_trans (first second third : Animator σ α) (before : first.SameRun second)
    (after : second.SameRun third) : first.SameRun third :=
  ⟨after.settings.trans before.settings, after.started.trans before.started,
    after.receiver.trans before.receiver, after.generation.trans before.generation,
    after.subscription.trans before.subscription⟩

theorem run_drawing {β : Type} (draw : Drawing σ β) (animator : Animator σ α) :
    (drawing draw).run animator =
      ((draw.run animator.random).1,
        { animator with random := (draw.run animator.random).2 }) := rfl

section Steps

variable [Scalar α]

theorem run_advance_branches (animator : Animator σ α) :
    advanceBranches.run animator =
      match animator.settings.branchQuota animator.branches.length with
      | .ok quota => (.ok ⟨⟩, animator.withBranches quota.toNat)
      | .error fault => (.error fault, animator) := by
  simp only [advanceBranches, run_bind, run_get, run_lift]
  cases animator.settings.branchQuota animator.branches.length <;> rfl

theorem drift_changes_motes (dtMs : α) (animator : Animator σ α) :
    ∃ motes, ((driftMotes dtMs).run animator).2 = { animator with motes } := by
  simp only [driftMotes, run_bind, run_get, run_lift]
  rcases animator.motes.tick dtMs with fault | motes
  · exact ⟨animator.motes, rfl⟩
  · exact ⟨motes, rfl⟩

theorem drift_motes_same_run (dtMs : α) :
    Leads SameRun (driftMotes dtMs : AnimatorStep σ α Unit) := by
  intro animator
  obtain ⟨motes, drifted⟩ := drift_changes_motes dtMs animator
  rw [drifted]
  exact ⟨rfl, rfl, rfl, rfl, rfl⟩

theorem settle_changes_phase (animator : Animator σ α) :
    (settle.run animator).2 = animator ∨
      (settle.run animator).2 = { animator with phase := .settled } ∧
        animator.branches.length ≤ animator.branchCursor ∧
        animator.leaves.length ≤ animator.leafCursor := by
  simp only [settle, run_bind, run_get, run_lift]
  cases complete : animator.isComplete with
  | error fault => exact .inl rfl
  | ok done =>
      cases done with
      | false => exact .inl rfl
      | true =>
          refine .inr ⟨rfl, ?_⟩
          by_contra early
          have notDone : animator.isComplete = .ok false := by
            simp only [isComplete]
            by_cases branchesLeft : animator.branchCursor < animator.branches.length
            · simp only [branchesLeft, if_true]
              rfl
            · have leavesLeft : animator.leafCursor < animator.leaves.length := by omega
              simp only [branchesLeft, if_false, leavesLeft, if_true]
              rfl
          rw [notDone] at complete
          cases complete

theorem advance_branches_same_run : Leads SameRun (advanceBranches : AnimatorStep σ α Unit) := by
  intro animator
  rw [run_advance_branches]
  cases animator.settings.branchQuota animator.branches.length with
  | error fault => exact same_run_refl animator
  | ok quota => exact ⟨rfl, rfl, rfl, rfl, rfl⟩

theorem settle_same_run : Leads SameRun (settle : AnimatorStep σ α Unit) := by
  intro animator
  rcases settle_changes_phase animator with unchanged | ⟨settled, _, _⟩
  · rw [unchanged]
    exact same_run_refl animator
  · rw [settled]
    exact ⟨rfl, rfl, rfl, rfl, rfl⟩

variable [ChanceSource σ α]

theorem run_between (low high : α) (source : σ) :
    (Drawing.between low high).run source =
      (.ok (low + (high - low) * (ChanceSource.draw source).1),
        (ChanceSource.draw source).2) := rfl

theorem run_shown_leaves (low high : α) (leaves : List (LeafSite α)) (source : σ) :
    ∃ shown later, (shownLeaves low high leaves).run source = (.ok shown, later) ∧
      List.Forall₂ (fun old new => ∃ opacity, new = LeafSite.shown opacity old) leaves shown := by
  induction leaves generalizing source with
  | nil => exact ⟨[], source, rfl, .nil⟩
  | cons leaf leaves induction =>
      obtain ⟨shown, later, ran, stands⟩ := induction (ChanceSource.draw source).2
      let opacity := low + (high - low) * (ChanceSource.draw source).1
      refine ⟨leaf.shown opacity :: shown, later, ?_, .cons ⟨opacity, rfl⟩ stands⟩
      rw [shownLeaves, run_bind, run_between]
      simp only [run_bind, ran, run_pure, opacity]

theorem run_reveal_leaves (quota : Nat) (animator : Animator σ α) :
    ∃ fresh random,
      (revealLeaves quota).run animator =
        (.ok ⟨⟩,
          { animator with
            random
            leaves := animator.leaves.take animator.leafCursor ++ fresh ++
              animator.leaves.drop (animator.leafCursor + fresh.length)
            leafCursor := animator.leafCursor + fresh.length }) ∧
      List.Forall₂ (fun old new => ∃ opacity, new = LeafSite.shown opacity old)
        ((animator.leaves.drop animator.leafCursor).take quota) fresh := by
  obtain ⟨fresh, random, ran, stands⟩ := run_shown_leaves animator.settings.opacityLow
    animator.settings.opacityHigh ((animator.leaves.drop animator.leafCursor).take quota)
    animator.random
  refine ⟨fresh, random, ?_, stands⟩
  simp only [revealLeaves, run_bind, run_get, run_drawing, ran, run_modify]

theorem run_advance_leaves (animator : Animator σ α) :
    advanceLeaves.run animator =
      match animator.settings.leafStartMs animator.branches.length with
      | .ok leafStart =>
          if leafStart < animator.elapsedMs then
            match animator.settings.leafQuota animator.leaves.length with
            | .ok quota => (revealLeaves quota.toNat).run animator
            | .error fault => (.error fault, animator)
          else (.ok ⟨⟩, animator)
      | .error fault => (.error fault, animator) := by
  simp only [advanceLeaves, run_bind, run_get, run_lift]
  cases animator.settings.leafStartMs animator.branches.length with
  | error fault => rfl
  | ok leafStart =>
      by_cases due : leafStart < animator.elapsedMs
      · simp only [due, if_true, run_bind, run_lift]
        cases animator.settings.leafQuota animator.leaves.length <;> rfl
      · simp only [due, if_false, run_pure]

/-- A frame's share of the leaves is a number of next leaves, each shown with some opacity. -/
theorem advance_leaves_replaces (animator : Animator σ α) :
    ∃ count fresh random,
      (advanceLeaves.run animator).2 =
        { animator with
          random
          leaves := animator.leaves.take animator.leafCursor ++ fresh ++
            animator.leaves.drop (animator.leafCursor + fresh.length)
          leafCursor := animator.leafCursor + fresh.length } ∧
      List.Forall₂ (fun old new => ∃ opacity, new = LeafSite.shown opacity old)
        ((animator.leaves.drop animator.leafCursor).take count) fresh := by
  have nothing : ∃ count fresh random,
      animator =
        { animator with
          random
          leaves := animator.leaves.take animator.leafCursor ++ fresh ++
            animator.leaves.drop (animator.leafCursor + fresh.length)
          leafCursor := animator.leafCursor + fresh.length } ∧
      List.Forall₂ (fun old new => ∃ opacity, new = LeafSite.shown opacity old)
        ((animator.leaves.drop animator.leafCursor).take count) fresh :=
    ⟨0, [], animator.random, by simp, by simp⟩
  rw [run_advance_leaves]
  cases animator.settings.leafStartMs animator.branches.length with
  | error fault => exact nothing
  | ok leafStart =>
      by_cases due : leafStart < animator.elapsedMs
      · cases quota : animator.settings.leafQuota animator.leaves.length with
        | error fault => simpa only [due, if_true, quota] using nothing
        | ok count =>
            obtain ⟨fresh, random, ran, stands⟩ := run_reveal_leaves count.toNat animator
            refine ⟨count.toNat, fresh, random, ?_, stands⟩
            simp only [due, if_true, ran]
      · simpa only [due, if_false] using nothing

theorem advance_leaves_revealed (given : List (LeafSite α)) (animator : Animator σ α)
    (revealed : RevealedUpTo LeafSite.Stands given animator.leaves animator.leafCursor) :
    RevealedUpTo LeafSite.Stands given (advanceLeaves.run animator).2.leaves
      (advanceLeaves.run animator).2.leafCursor := by
  obtain ⟨count, fresh, random, ran, shown⟩ := advance_leaves_replaces animator
  rw [ran]
  refine revealed_up_to_replaced revealed fresh (shown.imp ?_)
  rintro old new ⟨opacity, rfl⟩ entry ⟨_, rfl⟩
  exact ⟨opacity, rfl⟩

theorem run_maybe_spawn (animator : Animator σ α) :
    maybeSpawn.run animator =
      match animator.motes.maybeSpawn.run animator.random with
      | (.ok (_, motes), random) => (.ok ⟨⟩, { animator with motes, random })
      | (.error fault, random) => (.error fault, { animator with random }) := by
  simp only [maybeSpawn, run_bind, run_get, run_drawing]
  rcases animator.motes.maybeSpawn.run animator.random with ⟨fault | result, random⟩
  · rfl
  · rfl

theorem run_shed (animator : Animator σ α) :
    shed.run animator =
      match animator.mayShed with
      | .ok true => maybeSpawn.run animator
      | .ok false => (.ok ⟨⟩, animator)
      | .error fault => (.error fault, animator) := by
  simp only [shed, run_bind, run_get, run_lift]
  rcases animator.mayShed with fault | may
  · rfl
  · cases may <;> rfl

/-- The look for motes changes nothing but the source of chance, or one mote rises as it may. -/
theorem shed_cases (animator : Animator σ α) :
    (∃ random, (shed.run animator).2 = { animator with random }) ∨
      animator.mayShed = .ok true ∧ ∃ particle random,
        (shed.run animator).2 = { animator with motes := animator.motes.add particle, random } := by
  have spawned : (∃ random, (maybeSpawn.run animator).2 = { animator with random }) ∨
      ∃ particle random, (maybeSpawn.run animator).2 =
        { animator with motes := animator.motes.add particle, random } := by
    rw [run_maybe_spawn]
    rcases ran : animator.motes.maybeSpawn.run animator.random with ⟨fault | result, random⟩
    · exact .inl ⟨random, rfl⟩
    · rcases ParticleSystem.maybe_spawn_outcome ran with rfl | ⟨particle, rfl, _⟩
      · exact .inl ⟨random, rfl⟩
      · exact .inr ⟨particle, random, rfl⟩
  rw [run_shed]
  split
  · rename_i may
    exact spawned.imp_right fun risen => ⟨may, risen⟩
  · exact .inl ⟨animator.random, rfl⟩
  · exact .inl ⟨animator.random, rfl⟩

theorem shed_changes_motes (animator : Animator σ α) :
    ∃ motes random, (shed.run animator).2 = { animator with motes, random } := by
  rcases shed_cases animator with ⟨random, unchanged⟩ | ⟨_, particle, random, risen⟩
  · exact ⟨animator.motes, random, unchanged⟩
  · exact ⟨animator.motes.add particle, random, risen⟩

theorem advance_leaves_same_run : Leads SameRun (advanceLeaves : AnimatorStep σ α Unit) := by
  intro animator
  obtain ⟨count, fresh, random, advanced, _⟩ := advance_leaves_replaces animator
  rw [advanced]
  exact ⟨rfl, rfl, rfl, rfl, rfl⟩

theorem shed_same_run : Leads SameRun (shed : AnimatorStep σ α Unit) := by
  intro animator
  obtain ⟨motes, random, shedding⟩ := shed_changes_motes animator
  rw [shedding]
  exact ⟨rfl, rfl, rfl, rfl, rfl⟩

end Steps

end Animator

end Arboretum

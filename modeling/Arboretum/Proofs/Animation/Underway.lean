import Arboretum.Proofs.Animation.Faithfulness
import Mathlib.Data.List.Induction

/-!
Which happenings may follow which. A run is under way from its beginning to the next start, stop or
reset, and only the run under way heeds frames, shows scenes and hands them to its receiver: frames
that were emitted since it began, each of them once. A history in which every happening is allowed
by those before it cannot hand a scene to a receiver whose run has ended, not even between the
viewers and the receiver of one frame; and without a run under way its frames come to nothing.
-/

namespace Arboretum

open Fallible

set_option autoImplicit false

variable {σ α : Type}

namespace Happening

def frame? : Happening α → Option (Frame α)
  | .emitted frame | .heeded frame | .published frame _ | .handed _ frame _ => some frame
  | _ => none

def isBeginning : Happening α → Bool
  | .began _ _ _ _ => true
  | _ => false

end Happening

/-- The scene shows the plan of a run, revealed up to its cursors. -/
def Scene.Shows (plan : RunPlan α) (scene : Scene α) : Prop :=
  ∃ branchCursor leafCursor : Nat,
    scene.branchCursor = branchCursor ∧ scene.leafCursor = leafCursor ∧
      RevealedUpTo Branch.Stands plan.branches scene.allBranches branchCursor ∧
      RevealedUpTo LeafSite.Stands plan.leaves scene.allLeaves leafCursor

theorem performs_shows {plan : RunPlan α} {animator : Animator σ α}
    (performs : animator.Performs plan) : animator.scene.Shows plan :=
  ⟨animator.branchCursor, animator.leafCursor, rfl, rfl, performs.branches, performs.leaves⟩

/-- A run is under way: it began, and since then no run has been started, stopped or reset. -/
def Underway (history : List (Happening α)) (plan : RunPlan α) (receiver : Nat)
    (since : List (Happening α)) : Prop :=
  (∃ before subscription nowMs,
      history = before ++ .began plan receiver subscription nowMs :: since) ∧
    ∀ happening ∈ since, happening.endsRun = false

theorem underway_began (before : List (Happening α)) (plan : RunPlan α)
    (receiver subscription : Nat) (nowMs : α) :
    Underway (before ++ [.began plan receiver subscription nowMs]) plan receiver [] :=
  ⟨⟨before, subscription, nowMs, rfl⟩, by simp⟩

section Underway

variable {history news since : List (Happening α)} {plan : RunPlan α} {receiver : Nat}

theorem underway_append (underway : Underway history plan receiver since)
    (goesOn : ∀ happening ∈ news, happening.endsRun = false) :
    Underway (history ++ news) plan receiver (since ++ news) := by
  obtain ⟨⟨before, subscription, nowMs, split⟩, kept⟩ := underway
  refine ⟨⟨before, subscription, nowMs, ?_⟩, ?_⟩
  · rw [split, List.append_assoc, List.cons_append]
  · intro happening member
    rcases List.mem_append.mp member with old | new
    · exact kept happening old
    · exact goesOn happening new

theorem underway_append_singleton {happening : Happening α}
    (underway : Underway history plan receiver since) (goesOn : happening.endsRun = false) :
    Underway (history ++ [happening]) plan receiver (since ++ [happening]) := by
  apply underway_append underway
  intro other member
  rw [List.mem_singleton.mp member]
  exact goesOn

theorem not_underway_after_end {ending : Happening α} (ends : ending.endsRun = true)
    (notBegun : ending.isBeginning = false) :
    ¬ Underway (history ++ [ending]) plan receiver since := by
  rintro ⟨⟨before, subscription, nowMs, split⟩, kept⟩
  rcases List.eq_nil_or_concat since with rfl | ⟨earlier, last, rfl⟩
  · cases (List.append_inj' split rfl).2
    cases notBegun
  · rw [List.concat_eq_append] at split kept
    rw [← List.cons_append, ← List.append_assoc] at split
    cases (List.append_inj' split rfl).2
    have goesOn := kept ending (List.mem_append_right _ (List.mem_singleton_self _))
    rw [ends] at goesOn
    cases goesOn

theorem underway_began_mem (underway : Underway history plan receiver since) :
    ∃ subscription nowMs, .began plan receiver subscription nowMs ∈ history := by
  obtain ⟨⟨before, subscription, nowMs, split⟩, _⟩ := underway
  refine ⟨subscription, nowMs, ?_⟩
  rw [split]
  exact List.mem_append_right _ (List.mem_cons_self ..)

theorem underway_mem (underway : Underway history plan receiver since) {happening : Happening α}
    (member : happening ∈ since) : happening ∈ history := by
  obtain ⟨⟨before, subscription, nowMs, split⟩, _⟩ := underway
  rw [split]
  exact List.mem_append_right _ (List.mem_cons_of_mem _ member)

theorem underway_before {happening : Happening α}
    (underway : Underway (history ++ [happening]) plan receiver since)
    (notBegun : happening.isBeginning = false) :
    ∃ earlier, Underway history plan receiver earlier := by
  obtain ⟨⟨before, subscription, nowMs, split⟩, kept⟩ := underway
  rcases List.eq_nil_or_concat since with rfl | ⟨earlier, last, rfl⟩
  · have same := (List.append_inj' split rfl).2
    cases same
    cases notBegun
  · rw [List.concat_eq_append] at split kept
    rw [← List.cons_append, ← List.append_assoc] at split
    have same := (List.append_inj' split rfl).1
    refine ⟨earlier, ⟨before, subscription, nowMs, same⟩, ?_⟩
    intro other member
    exact kept other (List.mem_append_left _ member)

end Underway

theorem plan_goes_on (plan : RunPlan α) {since : List (Happening α)}
    (goesOn : ∀ happening ∈ since, happening.endsRun = false) :
    since.foldl Happening.planAfter (some plan) = some plan := by
  induction since with
  | nil => rfl
  | cons happening since induction =>
      have ends := goesOn happening (List.mem_cons_self ..)
      have later := induction (fun other member => goesOn other (List.mem_cons_of_mem _ member))
      rw [List.foldl_cons]
      cases happening with
      | began other receiver subscription nowMs => cases ends
      | stopped => cases ends
      | reset => cases ends
      | emitted frame => exact later
      | heeded frame => exact later
      | published frame scene => exact later
      | handed receiver frame scene => exact later

variable [Scalar α] [ChanceSource σ α]

/-! What the replay of a history tells of the run under way. -/

theorem change_generation (happening : Happening α) (animator : Animator σ α) :
    (happening.change animator).generation =
      animator.generation + if happening.endsRun then 1 else 0 := by
  cases ends : happening.endsRun with
  | false => exact (change_same_run ends animator).generation
  | true =>
      rcases Happening.ends_run_cases ends with ⟨_, _, _, _, rfl⟩ | rfl | rfl
      · rfl
      · rfl
      · rfl

/-- The generation counts the starts, stops and resets. -/
theorem replay_generation (history : List (Happening α)) (animator : Animator σ α) :
    (Animator.replay history animator).generation =
      animator.generation + history.countP Happening.endsRun := by
  induction history generalizing animator with
  | nil => rfl
  | cons happening history induction =>
      change (Animator.replay history (happening.change animator)).generation = _
      rw [induction, change_generation, List.countP_cons]
      omega

/-- Where the generation is the same, no run has ended. -/
theorem goes_on_of_same_generation {history : List (Happening α)} {before after : Animator σ α}
    (replayed : after = Animator.replay history before)
    (same : after.generation = before.generation) :
    ∀ happening ∈ history, happening.endsRun = false := by
  have counted := replay_generation history before
  rw [← replayed] at counted
  have noEnds : history.countP Happening.endsRun = 0 := by omega
  intro happening member
  exact Bool.eq_false_iff.mpr (List.countP_eq_zero.mp noEnds happening member)

/-- An animator only listens for a run that is under way. -/
theorem replay_listens_underway (history : List (Happening α)) (first : Animator σ α)
    (deaf : first.subscription = none)
    (listens : (Animator.replay history first).subscription ≠ none) :
    ∃ plan receiver since, Underway history plan receiver since := by
  induction history using List.reverseRecOn with
  | nil => exact absurd deaf listens
  | append_singleton history happening induction =>
      rw [replay_append] at listens
      cases ends : happening.endsRun with
      | false =>
          change (happening.change (Animator.replay history first)).subscription ≠ none at listens
          rw [(change_same_run ends _).subscription] at listens
          obtain ⟨plan, receiver, since, underway⟩ := induction listens
          exact ⟨plan, receiver, since ++ [happening], underway_append_singleton underway ends⟩
      | true =>
          rcases Happening.ends_run_cases ends with
            ⟨plan, receiver, subscription, nowMs, rfl⟩ | rfl | rfl
          · exact ⟨plan, receiver, [], underway_began history plan receiver subscription nowMs⟩
          · exact absurd rfl listens
          · exact absurd rfl listens

/-- The animator listens for the run under way, on behalf of its receiver. -/
theorem underway_listens (first : Animator σ α) {history since : List (Happening α)}
    {plan : RunPlan α} {receiver : Nat} (underway : Underway history plan receiver since) :
    (Animator.replay history first).receiver = some receiver ∧
      ∃ subscription, (Animator.replay history first).subscription = some subscription := by
  obtain ⟨⟨before, subscription, nowMs, rfl⟩, goesOn⟩ := underway
  have same := replay_same_run goesOn
    (Happening.change (.began plan receiver subscription nowMs) (Animator.replay before first))
  rw [replay_append]
  exact ⟨same.receiver, subscription, same.subscription⟩

theorem underway_performs (first : Animator σ α) {history since : List (Happening α)}
    {plan : RunPlan α} {receiver : Nat} (underway : Underway history plan receiver since) :
    (Animator.replay history first).Performs plan := by
  obtain ⟨⟨before, subscription, nowMs, rfl⟩, goesOn⟩ := underway
  have launched := Animator.launched_performs plan receiver subscription nowMs
    (Animator.replay before first)
  have faithful := replay_faithful since (some plan) _ launched
  rw [plan_goes_on plan goesOn] at faithful
  rw [replay_append]
  exact faithful

/-- A happening may follow a history of an animator. -/
def Happening.Allowed (first : Animator σ α) (earlier : List (Happening α)) :
    Happening α → Prop
  | .began _ receiver _ _ =>
      ∀ plan other subscription nowMs,
        .began plan other subscription nowMs ∈ earlier → other < receiver
  | .stopped | .reset => True
  | .emitted frame => ∀ other, .emitted other ∈ earlier → other.index < frame.index
  | .heeded frame =>
      (∃ plan receiver since, Underway earlier plan receiver since ∧ .emitted frame ∈ since) ∧
        .heeded frame ∉ earlier
  | .published frame scene =>
      (∃ plan receiver since, Underway earlier plan receiver since ∧ .emitted frame ∈ since ∧
          scene.Shows plan) ∧
        scene = (Animator.replay earlier first).scene ∧
        ∀ other, .published frame other ∉ earlier
  | .handed receiver frame scene =>
      (∃ plan since, Underway earlier plan receiver since ∧ .emitted frame ∈ since ∧
          .published frame scene ∈ since) ∧
        ∀ other shown, .handed other frame shown ∉ earlier

/-- Every happening is allowed by those before it. -/
def Lawful (first : Animator σ α) (history : List (Happening α)) : Prop :=
  ∀ earlier happening later, history = earlier ++ happening :: later →
    happening.Allowed first earlier

section Lawful

variable {first : Animator σ α} {history : List (Happening α)}

theorem lawful_nil : Lawful first [] := by
  intro earlier happening later split
  simp at split

theorem lawful_append_singleton {happening : Happening α} (lawful : Lawful first history)
    (allowed : happening.Allowed first history) : Lawful first (history ++ [happening]) := by
  intro earlier other later split
  rcases List.eq_nil_or_concat later with rfl | ⟨middle, last, rfl⟩
  · obtain ⟨rfl, same⟩ := List.append_inj' split rfl
    cases same
    exact allowed
  · rw [List.concat_eq_append, ← List.cons_append, ← List.append_assoc] at split
    exact lawful earlier other middle (List.append_inj' split rfl).1

theorem emitted_of_mem (lawful : Lawful first history) {happening : Happening α} {frame : Frame α}
    (member : happening ∈ history) (framed : happening.frame? = some frame) :
    .emitted frame ∈ history := by
  obtain ⟨earlier, later, split⟩ := List.append_of_mem member
  have allowed := lawful _ _ _ split
  have emittedEarlier : .emitted frame ∈ earlier → .emitted frame ∈ history := by
    intro early
    rw [split]
    exact List.mem_append_left _ early
  cases happening with
  | began plan receiver subscription nowMs => cases framed
  | stopped => cases framed
  | reset => cases framed
  | emitted other =>
      cases framed
      exact member
  | heeded other =>
      cases framed
      obtain ⟨⟨_, _, _, underway, emittedSince⟩, _⟩ := allowed
      exact emittedEarlier (underway_mem underway emittedSince)
  | published other scene =>
      cases framed
      obtain ⟨⟨_, _, _, underway, emittedSince, _⟩, _⟩ := allowed
      exact emittedEarlier (underway_mem underway emittedSince)
  | handed receiver other scene =>
      cases framed
      obtain ⟨⟨_, _, underway, emittedSince, _⟩, _⟩ := allowed
      exact emittedEarlier (underway_mem underway emittedSince)

/-- A frame's scene is published at one place only. -/
theorem published_once (lawful : Lawful first history) {frame : Frame α} {one other : Scene α}
    {before after earlier later : List (Happening α)}
    (here : history = before ++ .published frame one :: after)
    (there : history = earlier ++ .published frame other :: later) :
    before = earlier ∧ after = later := by
  have hereAllowed := lawful _ _ _ here
  have thereAllowed := lawful _ _ _ there
  rcases List.append_eq_append_iff.mp (here.symm.trans there) with
    ⟨gap, split, rest⟩ | ⟨gap, split, rest⟩
  · cases gap with
    | nil =>
        rw [List.append_nil] at split
        cases rest
        exact ⟨split.symm, rfl⟩
    | cons head gap =>
        rw [List.cons_append] at rest
        obtain ⟨rfl, _⟩ := List.cons.inj rest
        exact absurd (split ▸ List.mem_append_right _ (List.mem_cons_self ..))
          (thereAllowed.2.2 one)
  · cases gap with
    | nil =>
        rw [List.append_nil] at split
        cases rest
        exact ⟨split, rfl⟩
    | cons head gap =>
        rw [List.cons_append] at rest
        obtain ⟨rfl, _⟩ := List.cons.inj rest
        exact absurd (split ▸ List.mem_append_right _ (List.mem_cons_self ..))
          (hereAllowed.2.2 other)

/-- A run that ends while the viewers look at the scene of a frame keeps that frame from every
receiver. -/
theorem unhanded_after_end (lawful : Lawful first history) {frame : Frame α} {scene : Scene α}
    {earlier between later : List (Happening α)}
    (split : history = earlier ++ .published frame scene :: (between ++ later))
    {ending : Happening α} (member : ending ∈ between) (ends : ending.endsRun = true)
    (receiver : Nat) (shown : Scene α) : .handed receiver frame shown ∉ later := by
  intro handed
  obtain ⟨upTo, after, laterSplit⟩ := List.append_of_mem handed
  have handedSplit : history =
      (earlier ++ .published frame scene :: (between ++ upTo)) ++
        .handed receiver frame shown :: after := by
    rw [split, laterSplit, List.append_assoc, List.cons_append, List.append_assoc]
  obtain ⟨⟨plan, since, ⟨⟨before, subscription, nowMs, runSplit⟩, kept⟩, _, showing⟩, _⟩ :=
    lawful _ _ _ handedSplit
  obtain ⟨early, late, sinceSplit⟩ := List.append_of_mem showing
  have publishedSplit : history =
      (before ++ .began plan receiver subscription nowMs :: early) ++
        .published frame shown :: (late ++ .handed receiver frame shown :: after) := by
    rw [handedSplit, runSplit, sinceSplit]
    simp only [List.append_assoc, List.cons_append]
  obtain ⟨_, rest⟩ := published_once lawful publishedSplit split
  -- What follows the scene in its run is what follows it at all, so the run has not ended.
  have endsLate : ending ∈ late := by
    rw [laterSplit, ← List.append_assoc] at rest
    rw [(List.append_inj_left' rest rfl)]
    exact List.mem_append_left _ member
  have goesOn := kept ending
    (sinceSplit ▸ List.mem_append_right _ (List.mem_cons_of_mem _ endsLate))
  rw [ends] at goesOn
  cases goesOn

/-- Without a run under way, only stops and resets change the animator up to the next start. -/
theorem quiet_without_run (lawful : Lawful first history) {earlier later : List (Happening α)}
    (split : history = earlier ++ later)
    (noRun : ∀ plan receiver since, ¬ Underway earlier plan receiver since)
    (noStart : ∀ happening ∈ later, happening.isBeginning = false) :
    Animator.replay history first =
      Animator.replay (later.filter Happening.endsRun) (Animator.replay earlier first) := by
  rw [split, replay_append]
  induction later generalizing earlier with
  | nil => rfl
  | cons happening later induction =>
      have notBegun := noStart happening (List.mem_cons_self ..)
      have noRunYet : ∀ plan receiver since,
          ¬ Underway (earlier ++ [happening]) plan receiver since := by
        intro plan receiver since underway
        obtain ⟨before, earlierRun⟩ := underway_before underway notBegun
        exact noRun plan receiver before earlierRun
      have still := induction (by rw [split, List.append_assoc, List.singleton_append]) noRunYet
        (fun other member => noStart other (List.mem_cons_of_mem _ member))
      rw [replay_append] at still
      have here := lawful _ _ _ split
      cases happening with
      | began plan receiver subscription nowMs => cases notBegun
      | stopped => exact still
      | reset => exact still
      | emitted frame => exact still
      | heeded frame =>
          obtain ⟨⟨plan, receiver, since, underway, _⟩, _⟩ := here
          exact absurd underway (noRun plan receiver since)
      | published frame scene => exact still
      | handed receiver frame scene => exact still

end Lawful

end Arboretum

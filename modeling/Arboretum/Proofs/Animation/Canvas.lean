import Arboretum.Proofs.Animation.Settling

/-!
What is behind a cursor stays. The scenes of one run share the lists of its canvas, and every frame
of the run writes into them from the cursors on. So between two moments of a run the lists only
differ from the earlier cursors on, and the cursors only go forward; a scene that was taken earlier
shows what it showed. Starts and resets lay the lists aside as they are and go on with other ones,
so this stays true after the run as well.
-/

namespace Arboretum

open Fallible

set_option autoImplicit false

variable {σ α : Type}

/-- The later entries are as many, and those behind the cursor are the earlier ones. -/
structure KeptBehind {β : Type} (cursor : Nat) (earlier later : List β) : Prop where
  as_many : later.length = earlier.length
  behind : later.take cursor = earlier.take cursor

theorem kept_behind_refl {β : Type} (cursor : Nat) (entries : List β) :
    KeptBehind cursor entries entries := ⟨rfl, rfl⟩

theorem kept_behind_trans {β : Type} {cursor further : Nat} {first second third : List β}
    (before : KeptBehind cursor first second) (after : KeptBehind further second third)
    (goesOn : cursor ≤ further) : KeptBehind cursor first third := by
  refine ⟨after.as_many.trans before.as_many, ?_⟩
  have cut := congrArg (List.take cursor) after.behind
  rw [List.take_take, List.take_take, Nat.min_eq_left goesOn] at cut
  rw [cut, before.behind]

/-- Entries that are replaced from the cursor on leave those behind it alone. -/
theorem kept_behind_replaced {β : Type} (cursor : Nat) (entries fresh : List β)
    (fits : fresh.length ≤ entries.length - cursor) :
    KeptBehind cursor entries
      (entries.take cursor ++ fresh ++ entries.drop (cursor + fresh.length)) := by
  constructor
  · simp only [List.length_append, List.length_take, List.length_drop]
    omega
  · rw [List.append_assoc]
    by_cases within : cursor ≤ entries.length
    · rw [List.take_left' (List.length_take_of_le within)]
    · have nothing : fresh = [] := List.eq_nil_of_length_eq_zero (by omega)
      rw [nothing, List.nil_append, List.drop_of_length_le (by simp; omega), List.append_nil,
        List.take_take, Nat.min_self]

/-- A history goes on with the run, or goes on with it up to some start or reset. -/
theorem first_clearing (history : List (Happening α)) :
    (∀ happening ∈ history, happening.clearsRun = false) ∨
      ∃ since ending later, history = since ++ ending :: later ∧ ending.clearsRun = true ∧
        ∀ happening ∈ since, happening.clearsRun = false := by
  induction history with
  | nil => exact .inl (by simp)
  | cons happening history induction =>
      cases clears : happening.clearsRun with
      | true => exact .inr ⟨[], happening, history, rfl, clears, by simp⟩
      | false =>
          rcases induction with goesOn | ⟨since, ending, later, rfl, ends, goesOn⟩
          · exact .inl (List.forall_mem_cons.mpr ⟨clears, goesOn⟩)
          · exact .inr ⟨happening :: since, ending, later, rfl, ends,
              List.forall_mem_cons.mpr ⟨clears, goesOn⟩⟩

namespace Scene

variable [Scalar α]

/-- What is read from a scene is what was in it when it was taken. -/
structure ReadsAs (taken read : Scene α) : Prop where
  branches : read.branches = taken.branches
  leaves : read.leaves = taken.leaves
  segments : read.segments = taken.segments
  thicknesses : read.thicknesses = taken.thicknesses
  leaf_positions : read.leafPositions = taken.leafPositions
  progress : read.progress = taken.progress

theorem reads_as_of_kept_behind (scene : Scene α) {branches : List (Branch α)}
    {leaves : List (LeafSite α)} {branchCursor leafCursor : Nat}
    (branchCursorIs : scene.branchCursor = branchCursor)
    (leafCursorIs : scene.leafCursor = leafCursor)
    (branchesKept : KeptBehind branchCursor scene.allBranches branches)
    (leavesKept : KeptBehind leafCursor scene.allLeaves leaves) :
    scene.ReadsAs { scene with allBranches := branches, allLeaves := leaves } := by
  have sameBranches : leading scene.branchCursor branches = scene.branches := by
    simp only [Scene.branches, leading, branchCursorIs, Int.natCast_nonneg, if_true,
      Int.toNat_natCast]
    exact branchesKept.behind
  have sameLeaves : leading scene.leafCursor leaves = scene.leaves := by
    simp only [Scene.leaves, leading, leafCursorIs, Int.natCast_nonneg, if_true, Int.toNat_natCast]
    exact leavesKept.behind
  refine ⟨sameBranches, sameLeaves, ?_, ?_, ?_, ?_⟩
  · exact congrArg (List.map fun branch => (branch.start, branch.finish)) sameBranches
  · exact congrArg (List.map Branch.displayThickness) sameBranches
  · exact congrArg (List.map LeafSite.position) sameLeaves
  · simp only [progress, branchesKept.as_many, leavesKept.as_many]

end Scene

namespace Animator

/-- The lists of the canvas stay as they were behind the cursors, which only go forward. -/
structure Extends (before after : Animator σ α) : Prop where
  canvas : after.canvas = before.canvas
  branches : KeptBehind before.branchCursor before.branches after.branches
  leaves : KeptBehind before.leafCursor before.leaves after.leaves
  branch_cursor : before.branchCursor ≤ after.branchCursor
  leaf_cursor : before.leafCursor ≤ after.leafCursor

theorem extends_of_same {before after : Animator σ α} (canvas : after.canvas = before.canvas)
    (branches : after.branches = before.branches) (leaves : after.leaves = before.leaves)
    (branchCursor : after.branchCursor = before.branchCursor)
    (leafCursor : after.leafCursor = before.leafCursor) : before.Extends after :=
  ⟨canvas, branches ▸ kept_behind_refl _ _, leaves ▸ kept_behind_refl _ _,
    Nat.le_of_eq branchCursor.symm, Nat.le_of_eq leafCursor.symm⟩

theorem extends_refl (animator : Animator σ α) : animator.Extends animator :=
  extends_of_same rfl rfl rfl rfl rfl

theorem extends_trans (first second third : Animator σ α) (before : first.Extends second)
    (after : second.Extends third) : first.Extends third :=
  ⟨after.canvas.trans before.canvas,
    kept_behind_trans before.branches after.branches before.branch_cursor,
    kept_behind_trans before.leaves after.leaves before.leaf_cursor,
    Nat.le_trans before.branch_cursor after.branch_cursor,
    Nat.le_trans before.leaf_cursor after.leaf_cursor⟩

theorem with_branches_extends (quota : Nat) (animator : Animator σ α) :
    animator.Extends (animator.withBranches quota) := by
  refine ⟨rfl, ?_, kept_behind_refl _ _, ?_, Nat.le_refl _⟩
  · change KeptBehind _ _ (changedFrom animator.branchCursor quota Branch.shown animator.branches)
    rw [changed_from_replaces]
    apply kept_behind_replaced
    simp only [List.length_map, List.length_take, List.length_drop]
    omega
  · change animator.branchCursor ≤ min _ (max _ _)
    omega

variable [Scalar α]

/-- A scene that was taken of the animator now. -/
def still (animator : Animator σ α) : Still α where
  canvas := animator.canvas
  scene := animator.scene
  risen := animator.motes.risen
  moves := animator.motes.moves

theorem extends_reads_as {before after : Animator σ α} (goesOn : before.Extends after) :
    before.scene.ReadsAs
      { before.scene with allBranches := after.branches, allLeaves := after.leaves } :=
  before.scene.reads_as_of_kept_behind rfl rfl goesOn.branches goesOn.leaves

theorem advance_branches_extends : Leads Extends (advanceBranches : AnimatorStep σ α Unit) := by
  intro animator
  rw [run_advance_branches]
  cases animator.settings.branchQuota animator.branches.length with
  | error fault => exact extends_refl animator
  | ok quota => exact with_branches_extends quota.toNat animator

theorem settle_extends : Leads Extends (settle : AnimatorStep σ α Unit) := by
  intro animator
  rcases settle_changes_phase animator with unchanged | ⟨settled, _, _⟩
  · rw [unchanged]
    exact extends_refl animator
  · rw [settled]
    exact extends_of_same rfl rfl rfl rfl rfl

theorem drift_motes_extends (dtMs : α) :
    Leads Extends (driftMotes dtMs : AnimatorStep σ α Unit) := by
  intro animator
  obtain ⟨motes, drifted⟩ := drift_changes_motes dtMs animator
  rw [drifted]
  exact extends_of_same rfl rfl rfl rfl rfl

variable [ChanceSource σ α]

theorem advance_leaves_extends : Leads Extends (advanceLeaves : AnimatorStep σ α Unit) := by
  intro animator
  obtain ⟨count, fresh, random, advanced, shown⟩ := advance_leaves_replaces animator
  have fits := shown.length_eq
  simp only [List.length_take, List.length_drop] at fits
  rw [advanced]
  exact ⟨rfl, kept_behind_refl _ _, kept_behind_replaced _ _ fresh (by omega), Nat.le_refl _,
    Nat.le_add_right _ _⟩

theorem shed_extends : Leads Extends (shed : AnimatorStep σ α Unit) := by
  intro animator
  obtain ⟨motes, random, shedding⟩ := shed_changes_motes animator
  rw [shedding]
  exact extends_of_same rfl rfl rfl rfl rfl

theorem extends_kept : KeptByFrames (Extends : Animator σ α → Animator σ α → Prop) where
  refl := extends_refl
  trans := extends_trans
  at_time _ _ := extends_of_same rfl rfl rfl rfl rfl
  branches := advance_branches_extends
  leaves := advance_leaves_extends
  shed := shed_extends
  settle := settle_extends
  drift := drift_motes_extends
  sampled _ _ := extends_of_same rfl rfl rfl rfl rfl

end Animator

section Canvas

variable [Scalar α] [ChanceSource σ α]

/-- Within a run every happening goes on from what is behind the cursors. -/
theorem change_extends {happening : Happening α} (keeps : happening.clearsRun = false)
    (animator : Animator σ α) : animator.Extends (happening.change animator) := by
  cases happening with
  | began plan receiver subscription nowMs => cases keeps
  | reset => cases keeps
  | stopped => exact Animator.extends_of_same rfl rfl rfl rfl rfl
  | heeded frame =>
      rw [Happening.change]
      split
      · exact Animator.extends_refl animator
      · exact Animator.heed_leads Animator.extends_kept frame animator
  | emitted frame => exact Animator.extends_refl animator
  | published frame scene => exact Animator.extends_refl animator
  | handed receiver frame scene => exact Animator.extends_refl animator

theorem replay_extends {since : List (Happening α)}
    (keeps : ∀ happening ∈ since, happening.clearsRun = false) (animator : Animator σ α) :
    animator.Extends (Animator.replay since animator) :=
  replay_leads Animator.Extends Animator.extends_refl Animator.extends_trans
    (fun happening member => change_extends (keeps happening member)) animator

theorem change_canvas_of_clears {happening : Happening α} (clears : happening.clearsRun = true)
    (animator : Animator σ α) : (happening.change animator).canvas = animator.canvas + 1 := by
  cases happening with
  | began plan receiver subscription nowMs => rfl
  | reset => rfl
  | _ => cases clears

theorem change_canvas_le (happening : Happening α) (animator : Animator σ α) :
    animator.canvas ≤ (happening.change animator).canvas := by
  cases clears : happening.clearsRun with
  | true =>
      rw [change_canvas_of_clears clears]
      exact Nat.le_succ _
  | false => exact Nat.le_of_eq (change_extends clears animator).canvas.symm

theorem replay_canvas_le (history : List (Happening α)) (animator : Animator σ α) :
    animator.canvas ≤ (Animator.replay history animator).canvas :=
  replay_leads (fun before after => before.canvas ≤ after.canvas) (fun _ => Nat.le_refl _)
    (fun _ _ _ => Nat.le_trans) (fun happening _ => change_canvas_le happening) animator

/-! Which lists are laid aside in the course of a history. -/

namespace Animator

/-- What a history makes of the lists laid aside before it. -/
def laidAside : List (Happening α) → Animator σ α → Entries Nat (Canvas α) →
    Entries Nat (Canvas α)
  | [], _, retired => retired
  | happening :: history, animator, retired =>
      laidAside history (happening.change animator) (happening.laysAside animator retired)

theorem laid_aside_append (earlier later : List (Happening α)) (animator : Animator σ α)
    (retired : Entries Nat (Canvas α)) :
    laidAside (earlier ++ later) animator retired =
      laidAside later (replay earlier animator) (laidAside earlier animator retired) := by
  induction earlier generalizing animator retired with
  | nil => rfl
  | cons happening earlier induction => exact induction _ _

/-- Nothing is laid aside under the number of an earlier canvas. -/
theorem laid_aside_earlier (history : List (Happening α)) (animator : Animator σ α)
    (retired : Entries Nat (Canvas α)) {canvas : Nat} (earlier : canvas < animator.canvas) :
    (laidAside history animator retired).find? canvas = retired.find? canvas := by
  induction history generalizing animator retired with
  | nil => rfl
  | cons happening history induction =>
      have here : (happening.laysAside animator retired).find? canvas = retired.find? canvas := by
        cases happening with
        | began plan receiver subscription nowMs =>
            rw [Happening.laysAside, Entries.find?_put, if_neg (by omega)]
        | reset => rw [Happening.laysAside, Entries.find?_put, if_neg (by omega)]
        | _ => rfl
      have goesOn := change_canvas_le happening animator
      rw [laidAside, induction _ _ (by omega), here]

/-- The lists of a run that a start or a reset has ended are found as they were then. -/
theorem laid_aside_finds {ending : Happening α} (clears : ending.clearsRun = true)
    (later : List (Happening α)) (ended : Animator σ α) (retired : Entries Nat (Canvas α)) :
    (laidAside (ending :: later) ended retired).find? ended.canvas =
      some ⟨ended.branches, ended.leaves⟩ := by
  have goesOn := change_canvas_of_clears clears ended
  rw [laidAside, laid_aside_earlier _ _ _ (by omega)]
  cases ending with
  | began plan receiver subscription nowMs =>
      rw [Happening.laysAside, Entries.find?_put, if_pos rfl]
  | reset => rw [Happening.laysAside, Entries.find?_put, if_pos rfl]
  | _ => cases clears

end Animator

end Canvas

namespace Session

variable [Scalar α] [ChanceSource σ α]

/-- The news between two sessions tell the animator and the lists laid aside, and every scene that
was kept meanwhile was taken at one of its moments. -/
structure Archived (news : List (Happening α)) (before after : Session σ α) : Prop where
  animator : after.animator = Animator.replay news before.animator
  retired : after.retired = Animator.laidAside news before.animator before.retired
  album : ∀ label still, after.album.find? label = some still →
    before.album.find? label = some still ∨
      ∃ earlier later, news = earlier ++ later ∧
        still = (Animator.replay earlier before.animator).still

theorem archived_of_silent {before after : Session σ α}
    (animator : after.animator = before.animator)
    (retired : after.retired = before.retired) (album : after.album = before.album) :
    Archived [] before after :=
  ⟨animator, retired, fun _ _ found => .inl (album ▸ found)⟩

theorem archived_trans {early late : List (Happening α)} {first second third : Session σ α}
    (before : Archived early first second) (after : Archived late second third) :
    Archived (early ++ late) first third := by
  constructor
  · rw [after.animator, before.animator, replay_append]
  · rw [after.retired, before.animator, before.retired, Animator.laid_aside_append]
  · intro label still found
    rcases after.album label still found with kept | ⟨earlier, later, rfl, taken⟩
    · rcases before.album label still kept with there | ⟨earlier, later, rfl, taken⟩
      · exact .inl there
      · exact .inr ⟨earlier, later ++ late, List.append_assoc .., taken⟩
    · refine .inr ⟨early ++ earlier, later, (List.append_assoc ..).symm, ?_⟩
      rw [replay_append, ← before.animator, taken]

def Archives (before after : Session σ α) : Prop :=
  ∃ news, after.chronicle.toList = before.chronicle.toList ++ news ∧ Archived news before after

theorem archives_kept : KeptByActs (Archives : Session σ α → Session σ α → Prop) where
  refl _ := ⟨[], by simp, archived_of_silent rfl rfl rfl⟩
  trans := by
    rintro first second third ⟨early, earlyChronicle, before⟩ ⟨late, lateChronicle, after⟩
    refine ⟨early ++ late, ?_, archived_trans before after⟩
    rw [lateChronicle, earlyChronicle, List.append_assoc]
  silent same :=
    ⟨[], by simp [same.chronicle], archived_of_silent same.animator same.retired same.album⟩
  noted happening _ _ notes :=
    ⟨[happening], by simp [notes.chronicle], notes.animator, notes.retired,
      fun _ _ found => .inl (notes.album ▸ found)⟩
  keep label session := by
    refine ⟨[], by simp, rfl, rfl, ?_⟩
    intro other still found
    dsimp only at found
    rw [Entries.find?_put] at found
    split at found
    · exact .inr ⟨[], [], rfl, (Option.some.inj found).symm⟩
    · exact .inl found

theorem run_archived (commands : List (Command α)) (session : Session σ α) :
    Archived (session.run commands).2.chronicle.toList session (session.run commands).2 := by
  obtain ⟨news, chronicle, archived⟩ := perform_leads archives_kept
    (session.pendingReactions + countOfCommands commands + 1) commands
    { session with events := #[], chronicle := #[] }
  have same : (session.run commands).2.chronicle.toList = news :=
    chronicle.trans (List.nil_append news)
  rw [same]
  exact ⟨archived.animator, archived.retired, archived.album⟩

theorem drive_archived (batches : List (List (Command α))) (session : Session σ α) :
    Archived (drive batches session).1 session (drive batches session).2 := by
  induction batches generalizing session with
  | nil => exact archived_of_silent rfl rfl rfl
  | cons commands batches induction =>
      exact archived_trans (run_archived commands session) (induction _)

/-- The lists that a scene is read from later are those that its run has come to:
the present run has gone on from the moment, or the lists were laid aside by the
start or reset that ended its run. -/
theorem archived_finds {earlier later : List (Happening α)} {before after : Session σ α}
    (archived : Archived (earlier ++ later) before after) :
    let moment := Animator.replay earlier before.animator
    ∃ since, (∀ happening ∈ since, happening.clearsRun = false) ∧
      after.scene moment.still =
        { moment.scene with
          allBranches := (Animator.replay since moment).branches
          allLeaves := (Animator.replay since moment).leaves } := by
  intro moment
  have animator : after.animator = Animator.replay later moment := by
    rw [archived.animator, replay_append]
  rcases first_clearing later with goesOn | ⟨since, ending, rest, rfl, clears, goesOn⟩
  · have ended := replay_extends goesOn moment
    refine ⟨later, goesOn, ?_⟩
    rw [← animator] at ended ⊢
    rw [scene, if_pos (by rw [ended.canvas]; rfl)]
    rfl
  · have ended := replay_extends goesOn moment
    have found : after.retired.find? moment.still.canvas =
        some ⟨(Animator.replay since moment).branches, (Animator.replay since moment).leaves⟩ := by
      rw [archived.retired, ← List.append_assoc, Animator.laid_aside_append, replay_append]
      change Entries.find? moment.canvas _ = _
      rw [← ended.canvas]
      exact Animator.laid_aside_finds clears rest _ _
    have replaced : moment.canvas < after.animator.canvas := by
      have further := replay_canvas_le rest (ending.change (Animator.replay since moment))
      rw [change_canvas_of_clears clears, ended.canvas] at further
      rw [animator, replay_append]
      exact further
    refine ⟨since, goesOn, ?_⟩
    rw [scene, if_neg (by change ¬ moment.canvas = _; omega), found]
    rfl

/-- A scene that was taken at some moment is read later as it was then. -/
theorem archived_reads_as {earlier later : List (Happening α)} {before after : Session σ α}
    (archived : Archived (earlier ++ later) before after) :
    let moment := Animator.replay earlier before.animator
    moment.scene.ReadsAs (after.scene moment.still) := by
  intro moment
  obtain ⟨since, goesOn, read⟩ := archived_finds archived
  rw [read]
  exact Animator.extends_reads_as (replay_extends goesOn moment)

end Session

/-- In any session, whatever the host commands and however receivers react: from one moment of a run
to a later one of the same run, the lists have as many entries, those behind the earlier cursors are
as they were, and the cursors have not gone back. The start or reset that ends a run goes on with
another canvas and lays the lists aside as they are. Hence a scene that was taken at any moment
reads as it did then, whether it is of the present run or of an earlier one, and every scene that
was kept was taken at some moment. -/
theorem what_is_behind_the_cursors_stays [Scalar α] [ChanceSource σ α] (clockMs : α)
    (settings : AnimationSettings α) (particleSettings : ParticleSettings α) (surface : Surface α)
    (random : σ) (sampler : FrameSampler) (batches : List (List (Command α))) :
    let first : Animator σ α := .initial settings particleSettings surface random sampler
    let driven := Session.drive batches (.initial clockMs first)
    driven.2.animator = Animator.replay driven.1 first ∧
      (∀ earlier since later, driven.1 = earlier ++ (since ++ later) →
        (∀ happening ∈ since, happening.clearsRun = false) →
          (Animator.replay earlier first).Extends (Animator.replay (earlier ++ since) first)) ∧
      (∀ earlier ending later, driven.1 = earlier ++ ending :: later → ending.clearsRun = true →
        let ended := Animator.replay earlier first
        (Animator.replay (earlier ++ [ending]) first).canvas = ended.canvas + 1 ∧
          driven.2.retired.find? ended.canvas = some ⟨ended.branches, ended.leaves⟩) ∧
      (∀ earlier later, driven.1 = earlier ++ later →
        let moment := Animator.replay earlier first
        moment.scene.ReadsAs (driven.2.scene moment.still)) ∧
      ∀ label still, driven.2.album.find? label = some still →
        ∃ earlier later, driven.1 = earlier ++ later ∧
          still = (Animator.replay earlier first).still := by
  intro first driven
  have archived := Session.drive_archived batches (.initial clockMs first)
  refine ⟨archived.animator, ?_, ?_, ?_, ?_⟩
  · intro earlier since later _ keeps
    rw [replay_append]
    exact replay_extends keeps _
  · intro earlier ending later split clears ended
    refine ⟨?_, ?_⟩
    · rw [replay_append]
      exact change_canvas_of_clears clears ended
    · rw [archived.retired]
      change (Animator.laidAside driven.1 first []).find? ended.canvas = _
      rw [split, Animator.laid_aside_append]
      exact Animator.laid_aside_finds clears later ended _
  · intro earlier later split
    have parted : Session.Archived (earlier ++ later) (.initial clockMs first) driven.2 := by
      rw [← split]
      exact archived
    exact Session.archived_reads_as parted
  · intro label still found
    rcases archived.album label still found with kept | taken
    · cases kept
    · exact taken

/-! A scene is kept when one of two leaves is revealed, and looked at again when the run has
settled, after a stop, and after a reset. -/

def keepingHost : List (List (Command Float)) :=
  [[.start unsteadyPlan (some []), .setClock 5000.0, .tick, .keep "early", .tick, .stop], [.reset]]

def keepingSession : List (Happening Float) × Session Chance.Source Float :=
  Session.drive keepingHost (.initial 0.0 patientAnimator)

theorem early_scene_reads_as_it_was :
    let early := Animator.replay (keepingSession.1.take 5) patientAnimator
    let late := Animator.replay (keepingSession.1.take 5 ++ (keepingSession.1.drop 5).take 5)
      patientAnimator
    early.leafCursor = 1 ∧ late.leafCursor = 2 ∧ early.Extends late ∧
      keepingSession.2.animator.leaves = [] ∧
      keepingSession.2.retired.find? late.canvas = some ⟨late.branches, late.leaves⟩ ∧
      early.scene.ReadsAs (keepingSession.2.scene early.still) ∧
      ∃ still earlier later, keepingSession.2.album.find? "early" = some still ∧
        keepingSession.1 = earlier ++ later ∧
        still = (Animator.replay earlier patientAnimator).still := by
  intro early late
  have whole := what_is_behind_the_cursors_stays (0.0 : Float) .usual .usual ⟨600.0, 600.0⟩
    (Chance.Source.ofValues [0.5]) ⟨1, []⟩ keepingHost
  dsimp only at whole
  rw [← patientAnimator, ← keepingSession] at whole
  obtain ⟨_, extend, laidAside, reads, taken⟩ := whole
  have split : keepingSession.1 =
      keepingSession.1.take 5 ++
        ((keepingSession.1.drop 5).take 5 ++ keepingSession.1.drop 10) := by
    rw [← List.drop_drop (i := 5) (j := 5), List.take_append_drop, List.take_append_drop]
  have keeps : ((keepingSession.1.drop 5).take 5).all (fun happening => !happening.clearsRun) =
      true := by decide +kernel
  have ends : (keepingSession.1.drop 10).head?.map Happening.clearsRun = some true := by
    decide +kernel
  have kept : (keepingSession.2.album.find? "early").isSome = true := by decide +kernel
  obtain ⟨still, found⟩ := Option.isSome_iff_exists.mp kept
  obtain ⟨earlier, later, parted, takenThen⟩ := taken "early" still found
  refine ⟨by decide +kernel, by decide +kernel, ?_, ?_, ?_, reads _ _ split, still, earlier, later,
    found, parted, takenThen⟩
  · apply extend _ _ _ split
    have kept := List.all_eq_true.mp keeps
    intro happening member
    simpa using kept happening member
  · apply List.eq_nil_of_length_eq_zero
    decide +kernel
  · cases rest : keepingSession.1.drop 10 with
    | nil =>
        rw [rest] at ends
        cases ends
    | cons ending later =>
        rw [rest] at ends split
        rw [← List.append_assoc] at split
        exact (laidAside _ ending later split (Option.some.inj ends)).2

end Arboretum

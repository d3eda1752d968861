import Arboretum.Animation.FrameLog
import Arboretum.Proofs.Entries
import Mathlib.Data.List.Basic
import Mathlib.Data.List.Infix

/-!
Which lines a sampler lets through. It remembers one frame for each key, the one that was
logged last, and yet what it answers for a key is told by the calls for that key alone: a
call goes by without being logged only if it has the phase of the last logged one, so the
phase that is remembered is always that of the call before. Histories and calls are
listed with the latest one first.
-/

namespace Arboretum

set_option autoImplicit false

namespace FrameSampler

inductive Request where
  | sample (key : String) (frame : Int) (phase : String)
  | forget (key : String)

structure Call where
  frame : Int
  phase : String
  deriving DecidableEq

/-- A call, and whether its line was due. -/
structure Answer extends Call where
  due : Bool
  deriving DecidableEq

def lastLogged (answers : List Answer) : Option Answer := answers.find? Answer.due

/-! The answers to the calls for one key, told without a sampler. -/

/-- Whether a call is due after the answers to the calls before it. -/
def dueAfter (interval : Nat) (earlier : List Answer) (call : Call) : Bool :=
  match lastLogged earlier with
  | none => true
  | some last =>
      last.phase != call.phase ||
        (interval != 0 && decide ((interval : Int) ≤ call.frame - last.frame))

def verdicts (interval : Nat) : List Call → List Answer
  | [] => []
  | call :: earlier =>
      ⟨call, dueAfter interval (verdicts interval earlier) call⟩ :: verdicts interval earlier

/-- From call to call the frames go up by one. -/
def Consecutive (calls : List Call) : Prop :=
  calls.IsChain fun later earlier => later.frame = earlier.frame + 1

instance (calls : List Call) : Decidable (Consecutive calls) :=
  inferInstanceAs (Decidable (calls.IsChain fun later earlier => later.frame = earlier.frame + 1))

section Verdicts

variable {interval : Nat} {calls : List Call}

theorem last_logged_due {call : Call}
    (due : dueAfter interval (verdicts interval calls) call = true) :
    lastLogged (verdicts interval (call :: calls)) = some ⟨call, true⟩ := by
  simp [lastLogged, verdicts, due]

theorem last_logged_not_due {call : Call}
    (quiet : dueAfter interval (verdicts interval calls) call = false) :
    lastLogged (verdicts interval (call :: calls)) = lastLogged (verdicts interval calls) := by
  simp [lastLogged, verdicts, quiet]

/-- The first call is always logged. -/
theorem some_logged (interval : Nat) {calls : List Call} (nonempty : calls ≠ []) :
    ∃ last, lastLogged (verdicts interval calls) = some last := by
  induction calls with
  | nil => exact absurd rfl nonempty
  | cons call earlier induction =>
      by_cases due : dueAfter interval (verdicts interval earlier) call = true
      · exact ⟨_, last_logged_due due⟩
      · have before : earlier ≠ [] := by
          rintro rfl
          simp [verdicts, lastLogged, dueAfter] at due
        rw [last_logged_not_due (Bool.eq_false_iff.mpr due)]
        exact induction before

/-- The call that was logged last has the phase of the last call. -/
theorem logged_phase {call : Call} {last : Answer}
    (found : lastLogged (verdicts interval (call :: calls)) = some last) :
    last.phase = call.phase := by
  by_cases due : dueAfter interval (verdicts interval calls) call = true
  · rw [last_logged_due due] at found
    simp [← Option.some.inj found]
  · rw [last_logged_not_due (Bool.eq_false_iff.mpr due)] at found
    simp [dueAfter, found] at due
    exact due.1

theorem last_logged_phase (interval : Nat) (calls : List Call) :
    (lastLogged (verdicts interval calls)).map (fun last => last.phase) =
      calls.head?.map Call.phase := by
  cases calls with
  | nil => rfl
  | cons call earlier =>
      obtain ⟨last, found⟩ := some_logged interval (List.cons_ne_nil call earlier)
      simp [found, logged_phase found]

/-- A call is due when it is the first one, when it has another phase than the call before, or when
enough frames have gone by since a call was logged. -/
theorem due_after_iff (call : Call) :
    dueAfter interval (verdicts interval calls) call = true ↔
      calls = [] ∨ (∃ previous, calls.head? = some previous ∧ previous.phase ≠ call.phase) ∨
        0 < interval ∧ ∃ last, lastLogged (verdicts interval calls) = some last ∧
          (interval : Int) ≤ call.frame - last.frame := by
  cases calls with
  | nil => simp [verdicts, lastLogged, dueAfter]
  | cons previous earlier =>
      obtain ⟨last, found⟩ := some_logged interval (List.cons_ne_nil previous earlier)
      have phase := logged_phase found
      simp [dueAfter, found, phase, Nat.pos_iff_ne_zero]

/-- Fewer frames than the interval have gone by since a call was logged. -/
theorem frames_since_logged {call : Call} {last : Answer}
    (consecutive : Consecutive (call :: calls))
    (found : lastLogged (verdicts interval (call :: calls)) = some last) :
    last.frame ≤ call.frame ∧ (0 < interval → call.frame - last.frame < interval) := by
  induction calls generalizing call with
  | nil =>
      simp [lastLogged, verdicts, dueAfter] at found
      simp [← found]
  | cons previous earlier induction =>
      simp only [Consecutive, List.isChain_cons_cons] at consecutive
      obtain ⟨next, consecutive⟩ := consecutive
      by_cases due : dueAfter interval (verdicts interval (previous :: earlier)) call = true
      · rw [last_logged_due due] at found
        simp [← Option.some.inj found]
      · rw [last_logged_not_due (Bool.eq_false_iff.mpr due)] at found
        obtain ⟨before, within⟩ := induction consecutive found
        simp [dueAfter, found] at due
        refine ⟨by omega, ?_⟩
        intro positive
        have early := due.2 (by omega)
        omega

/-- A call with the phase of the call before is only due because of the frames that have gone by. -/
theorem due_unchanged {call previous : Call} (unchanged : previous.phase = call.phase)
    (due : dueAfter interval (verdicts interval (previous :: calls)) call = true) :
    0 < interval ∧ ∃ last, lastLogged (verdicts interval (previous :: calls)) = some last ∧
      (interval : Int) ≤ call.frame - last.frame := by
  simpa [unchanged] using (due_after_iff call).mp due

/-- Such a call comes exactly an interval after the one that was logged last. -/
theorem logged_at_interval {call previous : Call}
    (consecutive : Consecutive (call :: previous :: calls))
    (unchanged : previous.phase = call.phase)
    (due : dueAfter interval (verdicts interval (previous :: calls)) call = true) :
    ∃ last, lastLogged (verdicts interval (previous :: calls)) = some last ∧
      call.frame = last.frame + interval := by
  obtain ⟨positive, last, found, reached⟩ := due_unchanged unchanged due
  simp only [Consecutive, List.isChain_cons_cons] at consecutive
  obtain ⟨next, consecutive⟩ := consecutive
  have early := (frames_since_logged consecutive found).2 positive
  exact ⟨last, found, by omega⟩

/-- Every call that has gone by without being logged is a frame since a call was logged. -/
theorem quiet_calls_le {call : Call} {last : Answer} (consecutive : Consecutive (call :: calls))
    (found : lastLogged (verdicts interval (call :: calls)) = some last) {window : List Answer}
    (recent : window <+: verdicts interval (call :: calls))
    (quiet : ∀ answer ∈ window, answer.due = false) :
    (window.length : Int) ≤ call.frame - last.frame := by
  induction calls generalizing call window with
  | nil =>
      cases window with
      | nil => simpa using (frames_since_logged consecutive found).1
      | cons answer window =>
          have logged := quiet answer (List.mem_cons_self ..)
          rw [(List.cons_prefix_cons.mp recent).1] at logged
          simp [verdicts, lastLogged, dueAfter] at logged
  | cons previous earlier induction =>
      cases window with
      | nil => simpa using (frames_since_logged consecutive found).1
      | cons answer window =>
          obtain ⟨same, recent⟩ := List.cons_prefix_cons.mp recent
          have unlogged := quiet answer (List.mem_cons_self ..)
          rw [same] at unlogged
          rw [last_logged_not_due unlogged] at found
          simp only [Consecutive, List.isChain_cons_cons] at consecutive
          obtain ⟨next, consecutive⟩ := consecutive
          have before := induction consecutive found recent
            (fun other member => quiet other (List.mem_cons_of_mem _ member))
          simp only [List.length_cons]
          omega

/-- As many calls in a row as the interval says do not all go by without being logged. -/
theorem some_logged_of_many (positive : 0 < interval) (consecutive : Consecutive calls)
    {window : List Answer} (recent : window <+: verdicts interval calls)
    (many : window.length = interval) : ∃ answer ∈ window, answer.due = true := by
  cases calls with
  | nil =>
      have nothing := List.prefix_nil.mp recent
      rw [nothing] at many
      exact absurd many (Nat.ne_of_lt positive)
  | cons call earlier =>
      by_contra none
      have quiet : ∀ answer ∈ window, answer.due = false := by simpa using none
      obtain ⟨last, found⟩ := some_logged interval (List.cons_ne_nil call earlier)
      have gone := quiet_calls_le consecutive found recent quiet
      have within := (frames_since_logged consecutive found).2 positive
      omega

end Verdicts

/-! Histories. -/

def serve (request : Request) (sampler : FrameSampler) : FrameSampler :=
  match request with
  | .sample key frame phase => (sampler.sample key frame phase).2
  | .forget key => sampler.forget key

/-- The sampler after a history. -/
def after (history : List Request) (fresh : FrameSampler) : FrameSampler :=
  history.foldr serve fresh

/-- The calls for a key since it was forgotten last. -/
def callsSince (key : String) : List Request → List Call
  | [] => []
  | .sample other frame phase :: earlier =>
      if other = key then ⟨frame, phase⟩ :: callsSince key earlier else callsSince key earlier
  | .forget other :: earlier => if other = key then [] else callsSince key earlier

/-- What was answered to the calls for a key since it was forgotten last. -/
def answersSince (key : String) (fresh : FrameSampler) : List Request → List Answer
  | [] => []
  | .sample other frame phase :: earlier =>
      if other = key then
        ⟨⟨frame, phase⟩, ((after earlier fresh).sample key frame phase).1⟩ ::
          answersSince key fresh earlier
      else answersSince key fresh earlier
  | .forget other :: earlier => if other = key then [] else answersSince key fresh earlier

/-- What was answered to all calls for a key, those before it was forgotten included. -/
def answers (key : String) (fresh : FrameSampler) : List Request → List Answer
  | [] => []
  | .sample other frame phase :: earlier =>
      if other = key then
        ⟨⟨frame, phase⟩, ((after earlier fresh).sample key frame phase).1⟩ ::
          answers key fresh earlier
      else answers key fresh earlier
  | .forget _ :: earlier => answers key fresh earlier

/-- At every moment of a history the frames of a key have gone up by one from call to
call since it was forgotten. -/
def Steady (key : String) (history : List Request) : Prop :=
  ∀ moment ∈ history.tails, Consecutive (callsSince key moment)

instance (key : String) (history : List Request) : Decidable (Steady key history) :=
  inferInstanceAs (Decidable (∀ moment ∈ history.tails, Consecutive (callsSince key moment)))

section Histories

variable {fresh : FrameSampler} (key : String)

theorem after_interval (history : List Request) :
    (after history fresh).interval = fresh.interval := by
  induction history with
  | nil => rfl
  | cons request earlier induction =>
      rw [← induction]
      cases request with
      | forget other => rfl
      | sample other frame phase =>
          change ((after earlier fresh).sample other frame phase).2.interval = _
          rw [sample]
          split <;> rfl

theorem sample_due (sampler : FrameSampler) (frame : Int) (phase : String) :
    (sampler.sample key frame phase).1 = sampler.isDue key frame phase := by
  rw [sample]
  split <;> simp_all

/-- A sampler remembers a call if it is due, and nothing changes for other keys. -/
theorem find_after_sample (sampler : FrameSampler) (other : String) (frame : Int) (phase : String) :
    (sampler.sample other frame phase).2.logged.find? key =
      if other = key ∧ sampler.isDue key frame phase = true then some ⟨frame, phase⟩
      else sampler.logged.find? key := by
  rw [sample]
  by_cases due : sampler.isDue other frame phase = true
  · rw [if_pos due, Entries.find?_put]
    by_cases same : other = key
    · subst same
      simp [due]
    · simp [same]
  · rw [if_neg due]
    by_cases same : other = key
    · subst same
      simp [due]
    · simp [same]

/-- What is remembered for a key is the call for it that was logged last. -/
theorem find_after (empty : fresh.logged = []) (history : List Request) :
    (after history fresh).logged.find? key =
      (lastLogged (answersSince key fresh history)).map fun last => ⟨last.frame, last.phase⟩ := by
  induction history with
  | nil => simp [after, empty, answersSince, lastLogged, Entries.find?]
  | cons request earlier induction =>
      cases request with
      | forget other =>
          change ((after earlier fresh).logged.erase other).find? key = _
          rw [Entries.find_erase, answersSince, induction]
          split <;> rfl
      | sample other frame phase =>
          change ((after earlier fresh).sample other frame phase).2.logged.find? key = _
          rw [find_after_sample, answersSince, induction]
          by_cases same : other = key
          · rw [if_pos same, sample_due]
            cases due : (after earlier fresh).isDue key frame phase <;> simp [same, lastLogged]
          · simp [same]

/-- What is answered is told by the answers to the calls for the key since it was forgotten. -/
theorem due_of_answers (empty : fresh.logged = []) (history : List Request) (call : Call) :
    ((after history fresh).sample key call.frame call.phase).1 =
      dueAfter fresh.interval (answersSince key fresh history) call := by
  rw [sample_due, isDue, find_after key empty, after_interval, dueAfter]
  cases lastLogged (answersSince key fresh history) <;> rfl

theorem answers_since_eq (empty : fresh.logged = []) (history : List Request) :
    answersSince key fresh history = verdicts fresh.interval (callsSince key history) := by
  induction history with
  | nil => rfl
  | cons request earlier induction =>
      cases request with
      | forget other =>
          rw [answersSince, callsSince, induction]
          split <;> rfl
      | sample other frame phase =>
          have due := due_of_answers key empty earlier ⟨frame, phase⟩
          dsimp only at due
          rw [answersSince, callsSince, due, induction]
          split <;> rfl

theorem answers_since_prefix (fresh : FrameSampler) (history : List Request) :
    answersSince key fresh history <+: answers key fresh history := by
  induction history with
  | nil => exact List.prefix_refl []
  | cons request earlier induction =>
      cases request with
      | forget other =>
          rw [answersSince, answers]
          split
          · exact List.nil_prefix
          · exact induction
      | sample other frame phase =>
          rw [answersSince, answers]
          split
          · exact List.cons_prefix_cons.mpr ⟨rfl, induction⟩
          · exact induction

/-- As many calls for a key in a row as the interval says contain a logged one, also where the key
was forgotten between them. -/
theorem some_answer_due (empty : fresh.logged = []) (positive : 0 < fresh.interval)
    {history : List Request} (steady : Steady key history) {window : List Answer}
    (within : window <:+: answers key fresh history) (many : window.length = fresh.interval) :
    ∃ answer ∈ window, answer.due = true := by
  induction history with
  | nil =>
      rw [List.infix_nil.mp within] at many
      exact absurd many (Nat.ne_of_lt positive)
  | cons request earlier induction =>
      have before : Steady key earlier := by
        intro moment ending
        apply steady moment
        simp [ending]
      cases request with
      | forget other => exact induction before within
      | sample other frame phase =>
          rw [answers] at within
          split at within
          · rename_i same
            rcases List.infix_cons_iff.mp within with recent | past
            · -- The window ends with the latest call, so it is part of the calls since the key was
              -- forgotten, or all of these are part of it, the first and logged one included.
              have since := answers_since_prefix key fresh (.sample other frame phase :: earlier)
              rw [answers, if_pos same] at since
              have told := answers_since_eq key empty (.sample other frame phase :: earlier)
              rcases List.prefix_or_prefix_of_prefix recent since with part | whole
              · rw [told] at part
                exact some_logged_of_many positive (steady _ (by simp)) part many
              · have asked : callsSince key (.sample other frame phase :: earlier) ≠ [] := by
                  simp [callsSince, same]
                obtain ⟨last, found⟩ := some_logged fresh.interval asked
                rw [← told] at found
                exact ⟨last, whole.subset (List.mem_of_find?_eq_some found), List.find?_some found⟩
            · exact induction before past
          · exact induction before within

end Histories

/-- There is a sampler of every interval that is not negative. Whatever is asked of it under
other keys, the answers to the calls for a key are told by the calls for it since it was
forgotten, and the phase that is remembered for it is that of the last call. So a call is logged
exactly if it is the first one, or has another phase than the call before, or comes at least an
interval after the last logged one. Where the frames go up by one from call to call, one that is
logged for the last reason comes an interval after the one before, and an interval of calls in a
row never goes by without one being logged. -/
theorem calls_are_logged_by_their_key {interval : Int} (natural : 0 ≤ interval) (key : String) :
    ∃ fresh, ofInterval interval = .ok fresh ∧
      (∀ history other, callsSince key history = callsSince key other →
        answersSince key fresh history = answersSince key fresh other) ∧
      (∀ history, ((after history fresh).logged.find? key).map LoggedFrame.phase =
        (callsSince key history).head?.map Call.phase) ∧
      (∀ history frame phase, ((after history fresh).sample key frame phase).1 = true ↔
        callsSince key history = [] ∨
          (∃ previous, (callsSince key history).head? = some previous ∧ previous.phase ≠ phase) ∨
          0 < interval ∧ ∃ last, lastLogged (answersSince key fresh history) = some last ∧
            interval ≤ frame - last.frame) ∧
      (∀ history frame phase previous, (callsSince key history).head? = some previous →
        previous.phase = phase → ((after history fresh).sample key frame phase).1 = true →
          0 < interval ∧
            (Steady key (.sample key frame phase :: history) →
              ∃ last, lastLogged (answersSince key fresh history) = some last ∧
                frame = last.frame + interval)) ∧
      ∀ history window, 0 < interval → Steady key history → window <:+: answers key fresh history →
        (window.length : Int) = interval → ∃ answer ∈ window, answer.due = true := by
  obtain ⟨count, rfl⟩ := Int.eq_ofNat_of_zero_le natural
  refine ⟨⟨count, []⟩, rfl, ?_, ?_, ?_, ?_, ?_⟩
  · intro history other same
    rw [answers_since_eq key rfl, answers_since_eq key rfl, same]
  · intro history
    have phase := last_logged_phase count (callsSince key history)
    rw [find_after key rfl, answers_since_eq key rfl, Option.map_map]
    exact phase
  · intro history frame phase
    rw [due_of_answers key rfl history ⟨frame, phase⟩, answers_since_eq key rfl, due_after_iff]
    simp
  · intro history frame phase previous latest unchanged due
    obtain ⟨calls, recent⟩ := List.head?_eq_some_iff.mp latest
    rw [due_of_answers key rfl history ⟨frame, phase⟩, answers_since_eq key rfl, recent] at due
    rw [answers_since_eq key rfl, recent]
    have positive := (due_unchanged unchanged due).1
    refine ⟨by simpa using positive, ?_⟩
    intro steady
    have consecutive := steady (.sample key frame phase :: history) (by simp)
    rw [callsSince, if_pos rfl, recent] at consecutive
    exact logged_at_interval consecutive unchanged due
  · intro history window positive steady within many
    exact some_answer_due key rfl (by simpa using positive) steady within (Int.ofNat_inj.mp many)

/-! Two runs under one key, which is forgotten between them, and the lines of
another key in between. -/

def growthLines : List Request :=
  [
    .sample "motes" 40 "drifting", .sample "growth" 7 "revealing", .sample "motes" 39 "drifting",
    .sample "growth" 6 "revealing", .forget "growth", .sample "growth" 5 "settled"
  ]

theorem every_other_growth_line_is_logged :
    ∃ fresh, ofInterval 2 = .ok fresh ∧
      ((after growthLines fresh).sample "growth" 8 "revealing").1 = true ∧
      (∃ last, lastLogged (answersSince "growth" fresh growthLines) = some last ∧
        8 = last.frame + 2) ∧
      answersSince "growth" fresh growthLines =
        answersSince "growth" fresh
          [.sample "growth" 7 "revealing", .sample "growth" 6 "revealing"] ∧
      ∃ answer ∈ (answers "growth" fresh growthLines).take 2, answer.due = true := by
  obtain ⟨fresh, made, told, _, _, late, many⟩ :=
    calls_are_logged_by_their_key (by decide : (0 : Int) ≤ 2) "growth"
  have same : fresh = ⟨2, []⟩ := by simpa [ofInterval] using made.symm
  have due : ((after growthLines fresh).sample "growth" 8 "revealing").1 = true := by
    rw [same]
    decide +kernel
  obtain ⟨_, apart⟩ := late growthLines 8 "revealing" ⟨7, "revealing"⟩ (by decide +kernel) rfl due
  refine ⟨fresh, made, due, apart (by decide +kernel), told _ _ (by decide +kernel), ?_⟩
  apply many growthLines _ (by decide) (by decide +kernel) (List.take_prefix 2 _).isInfix
  rw [same]
  decide +kernel

end FrameSampler

end Arboretum

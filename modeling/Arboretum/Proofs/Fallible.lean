import Arboretum.Fault

/-!
Computations that may fail and keep what they changed before they failed. Acts of a session, steps
of the animator and drawings from a source of chance are all of this kind. What such a computation
does to a state is told by one equation for each way of building it, and a relation that holds
across every part of a computation holds across the whole, whether it fails or not.
-/

namespace Arboretum.Fallible

set_option autoImplicit false

variable {τ β γ : Type}

theorem run_pure (value : β) (state : τ) :
    (pure value : ExceptT Fault (StateM τ) β).run state = (.ok value, state) := rfl

theorem run_throw (fault : Fault) (state : τ) :
    (throw fault : ExceptT Fault (StateM τ) β).run state = (.error fault, state) := rfl

theorem run_get (state : τ) :
    (get : ExceptT Fault (StateM τ) τ).run state = (.ok state, state) := rfl

theorem run_set (state later : τ) :
    (set later : ExceptT Fault (StateM τ) PUnit).run state = (.ok ⟨⟩, later) := rfl

theorem run_modify (change : τ → τ) (state : τ) :
    (modify change : ExceptT Fault (StateM τ) PUnit).run state = (.ok ⟨⟩, change state) := rfl

theorem run_lift (value : Except Fault β) (state : τ) :
    (liftM value : ExceptT Fault (StateM τ) β).run state = (value, state) := by
  cases value <;> rfl

theorem run_bind (first : ExceptT Fault (StateM τ) β) (next : β → ExceptT Fault (StateM τ) γ)
    (state : τ) :
    (first >>= next).run state =
      match first.run state with
      | (.ok value, later) => (next value).run later
      | (.error fault, later) => (.error fault, later) := by
  change (match first.run state with
    | (outcome, later) => (ExceptT.bindCont next outcome : StateM τ _) later) = _
  rcases first.run state with ⟨_ | _, later⟩ <;> rfl

/-- A computation that goes on returns when both of its parts do, one after the other. -/
theorem run_bind_eq_ok (first : ExceptT Fault (StateM τ) β) (next : β → ExceptT Fault (StateM τ) γ)
    (state last : τ) (result : γ) :
    (first >>= next).run state = (.ok result, last) ↔
      ∃ value later, first.run state = (.ok value, later) ∧
        (next value).run later = (.ok result, last) := by
  rw [run_bind]
  rcases ran : first.run state with ⟨fault | value, later⟩
  · constructor
    · intro returned
      cases returned
    · rintro ⟨_, _, returned, _⟩
      cases returned
  · refine ⟨fun returned => ⟨value, later, rfl, returned⟩, ?_⟩
    rintro ⟨_, _, same, returned⟩
    cases same
    exact returned

theorem ok_of_is_ok {outcome : Except Fault β} (returns : outcome.isOk = true) :
    ∃ value, outcome = .ok value := by
  cases outcome with
  | error fault => cases returns
  | ok value => exact ⟨value, rfl⟩

theorem returned_of_outcome {computation : ExceptT Fault (StateM τ) β} {state : τ} {value : β}
    (returned : (computation.run state).1 = .ok value) :
    ∃ later, computation.run state = (.ok value, later) :=
  ⟨(computation.run state).2, Prod.ext returned rfl⟩

theorem returned_of_is_ok {computation : ExceptT Fault (StateM τ) β} {state : τ}
    (returns : (computation.run state).1.isOk = true) :
    ∃ value later, computation.run state = (.ok value, later) := by
  obtain ⟨value, returned⟩ := ok_of_is_ok returns
  exact ⟨value, returned_of_outcome returned⟩

/-- What is made of a value that may be missing is there when the value is and can be used. -/
theorem bind_eq_ok (first : Except Fault β) (next : β → Except Fault γ) (result : γ) :
    (first >>= next) = .ok result ↔ ∃ value, first = .ok value ∧ next value = .ok result := by
  cases first with
  | error fault =>
      constructor
      · intro made
        cases made
      · rintro ⟨_, missing, _⟩
        cases missing
  | ok value =>
      refine ⟨fun there => ⟨value, rfl, there⟩, ?_⟩
      rintro ⟨_, there, made⟩
      cases there
      exact made

/-- A fault stays where what follows the first part is exchanged for something that fails alike. -/
theorem bind_fault {first : Except Fault β} {next next' : β → Except Fault γ} {fault : Fault}
    (alike : ∀ value, next value = .error fault → next' value = .error fault)
    (failed : first >>= next = .error fault) : first >>= next' = .error fault := by
  cases first with
  | error other => exact congrArg Except.error (Except.error.inj failed)
  | ok value => exact alike value failed

/-- What is made of a value, with no fault of its own, is missing where the value is. -/
theorem fault_of_made {first : Except Fault β} {made : β → γ} {fault : Fault}
    (failed : (first >>= fun value => .ok (made value)) = .error fault) : first = .error fault := by
  cases first with
  | error other => exact congrArg Except.error (Except.error.inj failed)
  | ok value => cases failed

/-- However the computation ends, it ends in a state that is related to the first one. -/
def Leads (relation : τ → τ → Prop) (computation : ExceptT Fault (StateM τ) β) : Prop :=
  ∀ state, relation state (computation.run state).2

section Leads

variable {relation : τ → τ → Prop}

theorem leads_pure (refl : ∀ state, relation state state) (value : β) :
    Leads relation (pure value : ExceptT Fault (StateM τ) β) := fun state => refl state

theorem leads_modify {change : τ → τ} (changed : ∀ state, relation state (change state)) :
    Leads relation (modify change : ExceptT Fault (StateM τ) PUnit) := changed

/-- From one state on, a computation followed by another leads where both of them lead in turn. -/
theorem leads_bind_at (trans : ∀ a b c, relation a b → relation b c → relation a c)
    {first : ExceptT Fault (StateM τ) β} {next : β → ExceptT Fault (StateM τ) γ} {state : τ}
    (before : relation state (first.run state).2)
    (after : ∀ value later, first.run state = (.ok value, later) →
      relation later ((next value).run later).2) :
    relation state ((first >>= next).run state).2 := by
  rw [run_bind]
  rcases ran : first.run state with ⟨fault | value, later⟩
  · simpa only [ran] using before
  · rw [ran] at before
    exact trans _ _ _ before (after value later ran)

theorem leads_bind (trans : ∀ a b c, relation a b → relation b c → relation a c)
    {first : ExceptT Fault (StateM τ) β} {next : β → ExceptT Fault (StateM τ) γ}
    (before : Leads relation first) (after : ∀ value, Leads relation (next value)) :
    Leads relation (first >>= next) := by
  intro state
  exact leads_bind_at trans (before state) (fun value later _ => after value later)

/-- The two parts may lead along relations of their own, as long as these lead along the whole. -/
theorem leads_bind_through {early late whole : τ → τ → Prop}
    (stops : ∀ a b, early a b → whole a b) (trans : ∀ a b c, early a b → late b c → whole a c)
    {first : ExceptT Fault (StateM τ) β} {next : β → ExceptT Fault (StateM τ) γ}
    (before : Leads early first) (after : ∀ value, Leads late (next value)) :
    Leads whole (first >>= next) := by
  intro state
  have here := before state
  rw [run_bind]
  rcases ran : first.run state with ⟨fault | value, later⟩
  · rw [ran] at here
    exact stops _ _ here
  · rw [ran] at here
    exact trans _ _ _ here (after value later)

theorem leads_get_bind {next : τ → ExceptT Fault (StateM τ) γ}
    (after : ∀ state, relation state ((next state).run state).2) :
    Leads relation (get >>= next) := by
  intro state
  rw [run_bind, run_get]
  exact after state

theorem leads_read (refl : ∀ state, relation state state) (read : τ → β) :
    Leads relation (do return read (← get) : ExceptT Fault (StateM τ) β) := fun state => refl state

theorem leads_for_each (refl : ∀ state, relation state state)
    (trans : ∀ a b c, relation a b → relation b c → relation a c)
    {step : β → ExceptT Fault (StateM τ) PUnit} (each : ∀ item, Leads relation (step item))
    (items : List β) : Leads relation (items.forM step) := by
  induction items with
  | nil => exact leads_pure refl _
  | cons item items induction =>
      change Leads relation (step item >>= fun _ => items.forM step)
      exact leads_bind trans (each item) (fun _ => induction)

end Leads

/-- A result leaves a state that is ready for more, or it is one of the faults that may come. -/
def EndsIn (ready : τ → Prop) (comes : Fault → Prop) : Except Fault β × τ → Prop
  | (.ok _, later) => ready later
  | (.error fault, _) => comes fault

/-- From states that are ready, the computation returns and leaves such a state,
or one of the faults comes. -/
def Endures (ready : τ → Prop) (comes : Fault → Prop)
    (computation : ExceptT Fault (StateM τ) β) : Prop :=
  ∀ state, ready state → EndsIn ready comes (computation.run state)

section Endures

variable {ready : τ → Prop} {comes : Fault → Prop}

theorem endures_pure (value : β) :
    Endures ready comes (pure value : ExceptT Fault (StateM τ) β) := fun _ here => here

theorem endures_mono {more : Fault → Prop} {computation : ExceptT Fault (StateM τ) β}
    (wider : ∀ fault, comes fault → more fault) (endures : Endures ready comes computation) :
    Endures ready more computation := by
  intro state here
  have ends := endures state here
  rcases ran : computation.run state with ⟨fault | value, later⟩
  · rw [ran] at ends
    exact wider fault ends
  · rw [ran] at ends
    exact ends

theorem endures_lift {value : Except Fault β}
    (fails : ∀ fault, value = .error fault → comes fault) :
    Endures ready comes (liftM value : ExceptT Fault (StateM τ) β) := by
  intro state here
  rw [run_lift]
  cases value with
  | error fault => exact fails fault rfl
  | ok value => exact here

theorem endures_bind {first : ExceptT Fault (StateM τ) β} {next : β → ExceptT Fault (StateM τ) γ}
    (before : Endures ready comes first) (after : ∀ value, Endures ready comes (next value)) :
    Endures ready comes (first >>= next) := by
  intro state here
  have early := before state here
  rw [run_bind]
  rcases ran : first.run state with ⟨fault | value, later⟩
  · rw [ran] at early
    exact early
  · rw [ran] at early
    exact after value later early

theorem endures_get_bind {next : τ → ExceptT Fault (StateM τ) γ}
    (after : ∀ value, Endures ready comes (next value)) : Endures ready comes (get >>= next) :=
  endures_bind (fun _ here => here) after

/-- A computation endures when it keeps states ready and can only fail in the given ways. -/
theorem endures_of_leads {computation : ExceptT Fault (StateM τ) β}
    (keeps : Leads (fun before after => ready before → ready after) computation)
    (fails : ∀ state, ready state → ∀ fault,
      (computation.run state).1 = .error fault → comes fault) :
    Endures ready comes computation := by
  intro state here
  have kept := keeps state here
  have failed := fails state here
  rcases ran : computation.run state with ⟨fault | value, later⟩
  · rw [ran] at failed
    exact failed fault rfl
  · rw [ran] at kept
    exact kept

end Endures

/-- From states that look the same, two computations end the same way, in states
that look the same. -/
def Twinned (look : τ → τ) (first second : ExceptT Fault (StateM τ) β) : Prop :=
  ∀ one other, look one = look other →
    (first.run one).1 = (second.run other).1 ∧
      look (first.run one).2 = look (second.run other).2

section Twinned

variable {look : τ → τ}

theorem twinned_pure (value : β) :
    Twinned look (pure value : ExceptT Fault (StateM τ) β) (pure value) := by
  intro one other same
  exact ⟨rfl, same⟩

theorem twinned_lift (value : Except Fault β) :
    Twinned look (liftM value : ExceptT Fault (StateM τ) β) (liftM value) := by
  intro one other same
  rw [run_lift, run_lift]
  exact ⟨rfl, same⟩

/-- Changes that turn out the same wherever only what is looked at is left. -/
theorem twinned_modify {change change' : τ → τ}
    (changed : ∀ state, look (change (look state)) = look (change state))
    (changed' : ∀ state, look (change (look state)) = look (change' state)) :
    Twinned look (modify change : ExceptT Fault (StateM τ) PUnit) (modify change') := by
  intro one other same
  refine ⟨rfl, ?_⟩
  change look (change one) = look (change' other)
  rw [← changed one, same, changed' other]

theorem twinned_bind {first second : ExceptT Fault (StateM τ) β}
    {next next' : β → ExceptT Fault (StateM τ) γ} (twinned : Twinned look first second)
    (after : ∀ value, Twinned look (next value) (next' value)) :
    Twinned look (first >>= next) (second >>= next') := by
  intro one other same
  obtain ⟨outcome, later⟩ := twinned one other same
  rw [run_bind, run_bind]
  rcases ran : first.run one with ⟨fault | value, state⟩
  · rcases ran' : second.run other with ⟨fault' | value', state'⟩
    · rw [ran, ran'] at outcome later
      cases outcome
      exact ⟨rfl, later⟩
    · rw [ran, ran'] at outcome
      cases outcome
  · rcases ran' : second.run other with ⟨fault' | value', state'⟩
    · rw [ran, ran'] at outcome
      cases outcome
    · rw [ran, ran'] at outcome later
      cases outcome
      exact after value state state' later

/-- What follows may read the state if it reads no more than what is looked at. -/
theorem twinned_get_bind {next next' : τ → ExceptT Fault (StateM τ) γ}
    (reads : ∀ state, next' (look state) = next' state)
    (after : ∀ state, Twinned look (next state) (next' state)) :
    Twinned look (get >>= next) (get >>= next') := by
  intro one other same
  rw [run_bind, run_bind, run_get, run_get]
  dsimp only
  rw [← reads other, ← same, reads one]
  exact after one one other same

end Twinned

end Arboretum.Fallible

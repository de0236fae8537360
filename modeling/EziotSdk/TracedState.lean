import EziotSdk.ErrorState

/-!
# Actions with the events of their runs

A traced action is an action of `EStateM` together with the events of its run
from each state.  The events are an observation only: dropping them gives the
action back, so a function and its traced form are compared by `run`.
-/

namespace ErrorState

structure Traced (Error State Event Value : Type) where
  run : EStateM Error State Value
  events : State → List Event

namespace Traced

variable {Error State Event Value Result : Type}

/-- After the events of the first action come those of the continuation, if
the first action returns. -/
def bind (traced : Traced Error State Event Value)
    (next : Value → Traced Error State Event Result) :
    Traced Error State Event Result where
  run := traced.run >>= fun value => (next value).run
  events := fun state =>
    traced.events state ++
      match traced.run state with
      | .ok value reached => (next value).events reached
      | .error _ _ => []

instance : Monad (Traced Error State Event) where
  pure value := ⟨pure value, fun _ => []⟩
  bind := bind

/-- An action without events. -/
def quietly (action : EStateM Error State Value) :
    Traced Error State Event Value :=
  ⟨action, fun _ => []⟩

/-- The events that happen at the state reached. -/
def record (events : State → List Event) : Traced Error State Event Unit :=
  ⟨pure (), events⟩

@[simp] theorem run_bind
    (traced : Traced Error State Event Value)
    (next : Value → Traced Error State Event Result) :
    (traced >>= next).run = traced.run >>= fun value => (next value).run := rfl

@[simp] theorem run_pure (value : Value) :
    (pure value : Traced Error State Event Value).run = pure value := rfl

@[simp] theorem run_quietly (action : EStateM Error State Value) :
    (quietly action : Traced Error State Event Value).run = action := rfl

@[simp] theorem run_record (events : State → List Event) :
    (record events : Traced Error State Event Unit).run = pure () := rfl

/-- A traced form of an action. -/
structure Observation (Event : Type) (action : EStateM Error State Value)
    where
  traced : Traced Error State Event Value
  run_eq : traced.run = action

/-! ## What holds of all events -/

/-- Every event of the run from a state has a property. -/
def Always (holds : Event → Prop) (traced : Traced Error State Event Value)
    (state : State) : Prop :=
  ∀ event ∈ traced.events state, holds event

theorem always_bind_iff
    {holds : Event → Prop} {traced : Traced Error State Event Value}
    {next : Value → Traced Error State Event Result} {state : State} :
    (traced >>= next).Always holds state ↔
      traced.Always holds state ∧
        ∀ value reached, traced.run state = .ok value reached →
          (next value).Always holds reached := by
  change (∀ event ∈ traced.events state ++ _, holds event) ↔ _
  rw [List.forall_mem_append]
  apply and_congr_right
  intro _
  cases hrun : traced.run state with
  | error error reached => simp
  | ok value reached =>
      simp only [EStateM.Result.ok.injEq, and_imp]
      constructor
      · rintro hnext _ _ rfl rfl
        exact hnext
      · intro hnext
        exact hnext value reached rfl rfl

@[simp] theorem always_pure
    (holds : Event → Prop) (value : Value) (state : State) :
    (pure value : Traced Error State Event Value).Always holds state := by
  intro event hevent
  cases hevent

@[simp] theorem always_quietly
    (holds : Event → Prop) (action : EStateM Error State Value)
    (state : State) :
    (quietly action).Always holds state := by
  intro event hevent
  cases hevent

theorem always_record_iff
    {holds : Event → Prop} {events : State → List Event} {state : State} :
    (record events : Traced Error State Event Unit).Always holds state ↔
      ∀ event ∈ events state, holds event := Iff.rfl

/-- An action without events between two others changes the state that the
second starts from. -/
theorem always_quietly_bind_iff
    {holds : Event → Prop} {action : EStateM Error State Value}
    {next : Value → Traced Error State Event Result} {state : State} :
    (quietly action >>= next).Always holds state ↔
      ∀ value reached, action state = .ok value reached →
        (next value).Always holds reached := by
  rw [always_bind_iff]
  exact and_iff_right (always_quietly holds action state)

theorem always_record_bind_iff
    {holds : Event → Prop} {events : State → List Event}
    {next : Unit → Traced Error State Event Result} {state : State} :
    (record events >>= next).Always holds state ↔
      (∀ event ∈ events state, holds event) ∧
        (next ()).Always holds state := by
  rw [always_bind_iff, always_record_iff]
  apply and_congr_right
  intro _
  constructor
  · intro hnext
    exact hnext () state rfl
  · rintro hnext _ _ ⟨⟩
    exact hnext

/-- What follows an action that can return certain values, and these in one
state only. -/
theorem forall_ok_iff
    {action : EStateM Error State Value} {state target : State}
    {returned : Value → Prop} {holds : Value → State → Prop}
    (hok : ∀ value reached, action state = .ok value reached ↔
      returned value ∧ target = reached) :
    (∀ value reached, action state = .ok value reached →
        holds value reached) ↔
      ∀ value, returned value → holds value target := by
  constructor
  · intro hholds value hvalue
    exact hholds value target ((hok value target).mpr ⟨hvalue, rfl⟩)
  · intro hholds value reached hreached
    obtain ⟨hvalue, rfl⟩ := (hok value reached).mp hreached
    exact hholds value hvalue

theorem always_get_bind_iff
    {holds : Event → Prop}
    {next : State → Traced Error State Event Result} {state : State} :
    (quietly get >>= next).Always holds state ↔
      (next state).Always holds state := by
  simp only [always_quietly_bind_iff, get_ok_iff, and_imp, forall_eq',
    forall_apply_eq_imp_iff]

theorem always_reject_bind_iff
    {holds : Event → Prop} {failed : Prop} [Decidable failed] {error : Error}
    {next : Unit → Traced Error State Event Result} {state : State} :
    (quietly (reject failed error) >>= next).Always holds state ↔
      (¬ failed → (next ()).Always holds state) := by
  rw [always_quietly_bind_iff, forall_ok_iff fun _ _ => reject_ok_iff]
  exact Unique.forall_iff

/-! ## Events that a run has -/

theorem mem_events_bind_left
    {traced : Traced Error State Event Value}
    (next : Value → Traced Error State Event Result)
    {state : State} {event : Event} (hevent : event ∈ traced.events state) :
    event ∈ (traced >>= next).events state :=
  List.mem_append_left _ hevent

theorem mem_events_bind
    {traced : Traced Error State Event Value}
    {next : Value → Traced Error State Event Result}
    {state reached : State} {value : Value} {event : Event}
    (hrun : traced.run state = .ok value reached)
    (hevent : event ∈ (next value).events reached) :
    event ∈ (traced >>= next).events state := by
  change event ∈ traced.events state ++ _
  rw [hrun]
  exact List.mem_append_right _ hevent

/-- The events after a recorded one. -/
theorem mem_events_record_bind
    (events : State → List Event)
    {next : Unit → Traced Error State Event Result} {state : State}
    {event : Event} (hevent : event ∈ (next ()).events state) :
    event ∈ (record events >>= next).events state :=
  mem_events_bind rfl hevent

/-- The events after a check that passes. -/
theorem mem_events_reject_bind
    {failed : Prop} [Decidable failed] (error : Error)
    {next : Unit → Traced Error State Event Result} {state : State}
    {event : Event} (hpassed : ¬ failed)
    (hevent : event ∈ (next ()).events state) :
    event ∈ (quietly (reject failed error) >>= next).events state :=
  mem_events_bind (reject_ok_iff.mpr ⟨hpassed, rfl⟩) hevent

end Traced

end ErrorState

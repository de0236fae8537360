import Mathlib.Tactic

/-!
# Actions that may fail and keep the state they reached

An action of `EStateM` runs on a state and either returns a value or raises
an error; whatever it had done to the state by then stays done.  A sequence
of calls in which each early return hands the caller's error on is such an
action.  The rules below say what a sequence preserves at every one of its
exits, and what its successful run is made of.
-/

namespace ErrorState

variable {Error State Value Result View : Type}

/-- The early return of a check. -/
def reject (failed : Prop) [Decidable failed] (error : Error) :
    EStateM Error State Unit :=
  if failed then throw error else pure ()

/-- The early return when a value is missing. -/
def required (error : Error) : Option Value → EStateM Error State Value
  | some value => pure value
  | none => throw error

def fromExcept : Except Error Value → EStateM Error State Value
  | .ok value => pure value
  | .error error => throw error

/-- A call whose error the caller drops. -/
def ignoreError (action : EStateM Error State Unit) :
    EStateM Error State Unit := fun state =>
  match action state with
  | .ok _ reached => .ok () reached
  | .error _ reached => .ok () reached

/-! ## Successful runs -/

theorem bind_ok_iff
    {action : EStateM Error State Value}
    {next : Value → EStateM Error State Result}
    {state reached : State} {result : Result} :
    (action >>= next) state = .ok result reached ↔
      ∃ value middle, action state = .ok value middle ∧
        next value middle = .ok result reached := by
  change EStateM.bind action next state = _ ↔ _
  unfold EStateM.bind
  cases haction : action state <;> simp

theorem bind_error_iff
    {action : EStateM Error State Value}
    {next : Value → EStateM Error State Result}
    {state reached : State} {error : Error} :
    (action >>= next) state = .error error reached ↔
      action state = .error error reached ∨
        ∃ value middle, action state = .ok value middle ∧
          next value middle = .error error reached := by
  change EStateM.bind action next state = _ ↔ _
  unfold EStateM.bind
  cases haction : action state <;> simp

theorem pure_ok_iff
    {state reached : State} {value result : Value} :
    (pure value : EStateM Error State Value) state = .ok result reached ↔
      value = result ∧ state = reached := by
  change EStateM.Result.ok value state = .ok result reached ↔ _
  simp

theorem get_ok_iff
    {state reached result : State} :
    (get : EStateM Error State State) state = .ok result reached ↔
      state = result ∧ state = reached := by
  change EStateM.Result.ok state state = .ok result reached ↔ _
  simp

theorem modify_ok_iff
    {change : State → State} {state reached : State} {result : Unit} :
    (modify change : EStateM Error State Unit) state = .ok result reached ↔
      change state = reached := by
  change EStateM.Result.ok () (change state) = .ok result reached ↔ _
  simp

theorem reject_ok_iff
    {failed : Prop} [Decidable failed] {error : Error}
    {state reached : State} {result : Unit} :
    reject failed error state = .ok result reached ↔
      ¬ failed ∧ state = reached := by
  by_cases hfailed : failed
  · simp only [reject, hfailed, not_true, false_and, iff_false]
    intro hok
    cases hok
  · simp only [reject, hfailed, not_false_eq_true, true_and]
    exact pure_ok_iff.trans (and_iff_right rfl)

theorem required_ok_iff
    {error : Error} {found : Option Value}
    {state reached : State} {result : Value} :
    required error found state = .ok result reached ↔
      found = some result ∧ state = reached := by
  cases found with
  | none =>
      constructor
      · intro hok
        cases hok
      · simp
  | some value =>
      rw [Option.some.injEq]
      exact pure_ok_iff

theorem fromExcept_ok_iff
    {outcome : Except Error Value}
    {state reached : State} {result : Value} :
    fromExcept outcome state = .ok result reached ↔
      outcome = .ok result ∧ state = reached := by
  cases outcome with
  | error error =>
      constructor
      · intro hok
        cases hok
      · simp
  | ok value =>
      rw [Except.ok.injEq]
      exact pure_ok_iff

/-! ## Running a sequence step by step -/

theorem bind_of_ok
    {action : EStateM Error State Value}
    {next : Value → EStateM Error State Result}
    {state middle : State} {value : Value}
    (hok : action state = .ok value middle) :
    (action >>= next) state = next value middle := by
  change EStateM.bind action next state = _
  rw [EStateM.bind, hok]

theorem bind_of_error
    {action : EStateM Error State Value}
    {next : Value → EStateM Error State Result}
    {state reached : State} {error : Error}
    (herror : action state = .error error reached) :
    (action >>= next) state = .error error reached := by
  change EStateM.bind action next state = _
  rw [EStateM.bind, herror]

theorem reject_bind_of_failed
    {failed : Prop} [Decidable failed] {error : Error}
    {next : Unit → EStateM Error State Result} {state : State}
    (hfailed : failed) :
    (reject failed error >>= next) state = .error error state := by
  rw [reject, if_pos hfailed]
  rfl

theorem reject_bind_of_passed
    {failed : Prop} [Decidable failed] {error : Error}
    {next : Unit → EStateM Error State Result} {state : State}
    (hpassed : ¬ failed) :
    (reject failed error >>= next) state = next () state := by
  rw [reject, if_neg hpassed]
  rfl

theorem modify_bind
    {change : State → State} {next : Unit → EStateM Error State Result}
    {state : State} :
    (modify change >>= next) state = next () (change state) := rfl

/-! ## Failing runs -/

theorem modify_error_iff
    {change : State → State} {state reached : State} {error : Error} :
    (modify change : EStateM Error State Unit) state = .error error reached ↔
      False := by
  change EStateM.Result.ok () (change state) = .error error reached ↔ _
  simp

theorem reject_error_iff
    {failed : Prop} [Decidable failed] {error raisedError : Error}
    {state reached : State} :
    reject failed error state = .error raisedError reached ↔
      failed ∧ error = raisedError ∧ state = reached := by
  by_cases hfailed : failed
  · simp only [reject, hfailed, true_and]
    change EStateM.Result.error error state = .error raisedError reached ↔ _
    simp
  · simp only [reject, hfailed, false_and, iff_false]
    intro herror
    cases herror

theorem required_error_iff
    {error raisedError : Error} {found : Option Value}
    {state reached : State} :
    required error found state = .error raisedError reached ↔
      found = none ∧ error = raisedError ∧ state = reached := by
  cases found with
  | none =>
      change EStateM.Result.error error state = .error raisedError reached ↔ _
      simp
  | some value =>
      simp only [reduceCtorEq, false_and, iff_false]
      intro herror
      cases herror

/-! ## What every exit preserves -/

/-- Whether the action returns or fails, the viewed part of the state is the
one it started with, and an error it raises is of the given kind. -/
def Keeps (view : State → View) (raised : Error → Prop)
    (action : EStateM Error State Value) : Prop :=
  ∀ state,
    match action state with
    | .ok _ reached => view reached = view state
    | .error error reached => view reached = view state ∧ raised error

variable {view : State → View} {raised : Error → Prop}

theorem Keeps.of_ok
    {action : EStateM Error State Value}
    (hkeeps : Keeps view raised action)
    {state reached : State} {value : Value}
    (hok : action state = .ok value reached) :
    view reached = view state := by
  have hstate := hkeeps state
  rwa [hok] at hstate

theorem Keeps.of_error
    {action : EStateM Error State Value}
    (hkeeps : Keeps view raised action)
    {state reached : State} {error : Error}
    (herror : action state = .error error reached) :
    view reached = view state ∧ raised error := by
  have hstate := hkeeps state
  rwa [herror] at hstate

/-- A part of what is kept is kept. -/
theorem Keeps.map
    {action : EStateM Error State Value} {Part : Type}
    (hkeeps : Keeps view raised action) (part : View → Part) :
    Keeps (part ∘ view) raised action := by
  intro state
  have hstate := hkeeps state
  cases haction : action state with
  | ok value reached =>
      rw [haction] at hstate
      exact congrArg part hstate
  | error error reached =>
      rw [haction] at hstate
      exact ⟨congrArg part hstate.1, hstate.2⟩

theorem keeps_bind
    {action : EStateM Error State Value}
    {next : Value → EStateM Error State Result}
    (haction : Keeps view raised action)
    (hnext : ∀ value, Keeps view raised (next value)) :
    Keeps view raised (action >>= next) := by
  intro state
  have hfirst := haction state
  change
    match EStateM.bind action next state with
    | .ok _ reached => view reached = view state
    | .error error reached => view reached = view state ∧ raised error
  unfold EStateM.bind
  cases hrun : action state with
  | error error reached =>
      rw [hrun] at hfirst
      exact hfirst
  | ok value middle =>
      rw [hrun] at hfirst
      have hsecond := hnext value middle
      -- what the rest keeps is what the first action has left
      rw [hfirst] at hsecond
      exact hsecond

theorem keeps_pure (value : Value) :
    Keeps view raised (pure value : EStateM Error State Value) :=
  fun _ => rfl

theorem keeps_get :
    Keeps view raised (get : EStateM Error State State) :=
  fun _ => rfl

theorem keeps_modify
    {change : State → State}
    (hchange : ∀ state, view (change state) = view state) :
    Keeps view raised (modify change : EStateM Error State Unit) :=
  hchange

theorem keeps_throw
    {error : Error} (hraised : raised error) :
    Keeps view raised (throw error : EStateM Error State Value) :=
  fun _ => ⟨rfl, hraised⟩

theorem keeps_reject
    {failed : Prop} [Decidable failed] {error : Error}
    (hraised : failed → raised error) :
    Keeps view raised
      (reject failed error : EStateM Error State Unit) := by
  unfold reject
  split
  · next hfailed => exact keeps_throw (hraised hfailed)
  · exact keeps_pure ()

theorem keeps_required
    {error : Error} (hraised : raised error) (found : Option Value) :
    Keeps view raised
      (required error found : EStateM Error State Value) := by
  cases found with
  | none => exact keeps_throw hraised
  | some value => exact keeps_pure value

theorem keeps_fromExcept
    {outcome : Except Error Value}
    (hraised : ∀ error, outcome = .error error → raised error) :
    Keeps view raised
      (fromExcept outcome : EStateM Error State Value) := by
  cases outcome with
  | error error => exact keeps_throw (hraised error rfl)
  | ok value => exact keeps_pure value

theorem keeps_ignoreError
    {action : EStateM Error State Unit}
    (haction : Keeps view raised action) :
    Keeps view raised (ignoreError action) := by
  intro state
  have hstate := haction state
  unfold ignoreError
  cases hrun : action state with
  | ok value reached =>
      rw [hrun] at hstate
      exact hstate
  | error error reached =>
      rw [hrun] at hstate
      exact hstate.1

end ErrorState

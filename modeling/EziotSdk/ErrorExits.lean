import EziotSdk.ErrorState

/-!
# The error exits of an action

An action may leave through many early returns.  The rules below compute when
it leaves through one of a given kind, and when that kind of exit
leaves a part of the state alone: the steps before the first write only read.
-/

namespace ErrorState

variable {Error State Value Result View : Type}

/-- From this state the action raises an error of the given kind. -/
def Fails (kind : Error → Prop) (action : EStateM Error State Value)
    (state : State) : Prop :=
  ∃ error reached, action state = .error error reached ∧ kind error

/-- An error of the given kind leaves what is looked at as it was. -/
def ErrorKeeps (kind : Error → Prop) (view : State → View)
    (action : EStateM Error State Value) (state : State) : Prop :=
  ∀ error reached,
    action state = .error error reached → kind error →
      view reached = view state

variable {kind : Error → Prop} {view : State → View}

/-! ## When an action fails -/

theorem fails_bind_iff
    {action : EStateM Error State Value}
    {next : Value → EStateM Error State Result} {state : State} :
    Fails kind (action >>= next) state ↔
      Fails kind action state ∨
        ∃ value middle, action state = .ok value middle ∧
          Fails kind (next value) middle := by
  unfold Fails
  simp only [bind_error_iff]
  constructor
  · intro hfails
    obtain ⟨error, reached, hfirst | hnext, hkind⟩ := hfails
    · exact Or.inl ⟨error, reached, hfirst, hkind⟩
    · obtain ⟨value, middle, hok, herror⟩ := hnext
      exact Or.inr ⟨value, middle, hok, error, reached, herror, hkind⟩
  · intro hfails
    obtain hfirst | hnext := hfails
    · obtain ⟨error, reached, herror, hkind⟩ := hfirst
      exact ⟨error, reached, Or.inl herror, hkind⟩
    · obtain ⟨value, middle, hok, error, reached, herror, hkind⟩ := hnext
      exact ⟨error, reached, Or.inr ⟨value, middle, hok, herror⟩, hkind⟩

@[simp] theorem not_fails_pure (value : Value) (state : State) :
    ¬ Fails kind (pure value : EStateM Error State Value) state := by
  intro hfails
  obtain ⟨error, reached, herror, _⟩ := hfails
  cases herror

@[simp] theorem not_fails_get (state : State) :
    ¬ Fails kind (get : EStateM Error State State) state := by
  intro hfails
  obtain ⟨error, reached, herror, _⟩ := hfails
  cases herror

@[simp] theorem not_fails_modify (change : State → State) (state : State) :
    ¬ Fails kind (modify change : EStateM Error State Unit) state := by
  intro hfails
  obtain ⟨error, reached, herror, _⟩ := hfails
  cases herror

@[simp] theorem fails_reject_iff
    {failed : Prop} [Decidable failed] {error : Error} {state : State} :
    Fails kind (reject failed error) state ↔ failed ∧ kind error := by
  unfold Fails
  simp [reject_error_iff]

@[simp] theorem fails_required_iff
    {error : Error} {found : Option Value} {state : State} :
    Fails kind (required error found) state ↔ found = none ∧ kind error := by
  unfold Fails
  simp [required_error_iff]

/-! ## Exits that leave the state alone -/

/-- The steps before the first write only read. -/
theorem errorKeeps_bind_iff
    {action : EStateM Error State Value}
    {next : Value → EStateM Error State Result} {raised : Error → Prop}
    {state : State} (haction : Keeps id raised action) :
    ErrorKeeps kind view (action >>= next) state ↔
      ∀ value, action state = .ok value state →
        ErrorKeeps kind view (next value) state := by
  constructor
  · intro hkeeps value hok error reached herror hkind
    apply hkeeps error reached _ hkind
    rw [bind_of_ok hok]
    exact herror
  · intro hnext error reached herror hkind
    rcases bind_error_iff.mp herror with hfirst | hsecond
    · exact congrArg view (haction.of_error hfirst).1
    · obtain ⟨value, middle, hok, hrest⟩ := hsecond
      have hmiddle : middle = state := haction.of_ok hok
      rw [hmiddle] at hok hrest
      exact hnext value hok error reached hrest hkind

theorem Keeps.errorKeeps
    {action : EStateM Error State Value} {raised : Error → Prop}
    (hkeeps : Keeps id raised action) (state : State) :
    ErrorKeeps kind view action state := by
  intro error reached herror _
  exact congrArg view (hkeeps.of_error herror).1

theorem errorKeeps_reject_bind_iff
    {failed : Prop} [Decidable failed] {error : Error}
    {next : Unit → EStateM Error State Result} {state : State} :
    ErrorKeeps kind view (reject failed error >>= next) state ↔
      (¬ failed → ErrorKeeps kind view (next ()) state) := by
  have hreject : Keeps id (fun _ => True)
      (reject failed error : EStateM Error State Unit) :=
    keeps_reject fun _ => trivial
  rw [errorKeeps_bind_iff hreject]
  simp only [reject_ok_iff, and_true]
  constructor
  · intro hnext
    exact hnext ()
  · intro hnext value
    exact hnext

theorem errorKeeps_required_bind_iff
    {error : Error} {found : Option Value}
    {next : Value → EStateM Error State Result} {state : State} :
    ErrorKeeps kind view (required error found >>= next) state ↔
      ∀ value, found = some value →
        ErrorKeeps kind view (next value) state := by
  have hrequired : Keeps id (fun _ => True)
      (required error found : EStateM Error State Value) :=
    keeps_required trivial found
  rw [errorKeeps_bind_iff hrequired]
  simp [required_ok_iff]

/-- Past the last exit of the kind the state may change. -/
theorem errorKeeps_of_not_fails
    {action : EStateM Error State Value} {state : State}
    (hnever : ¬ Fails kind action state) :
    ErrorKeeps kind view action state := by
  intro error reached herror hkind
  exact absurd ⟨error, reached, herror, hkind⟩ hnever

end ErrorState

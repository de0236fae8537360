import Mathlib.Data.List.Basic
import Mathlib.Tactic

/-!
# Runs of a guarded step function

A system is a partial step function on states, indexed by the event that the
environment chooses.  This file has the induction principles that every run
argument of the development goes through: an invariant which each step keeps
holds along the run, an invariant which each step keeps *under a condition on
the step* holds along every run whose steps all meet the condition, and the
converse when a step outside the condition visibly breaks the observed
property.
-/

namespace StepSystem

variable {State Event : Type*}

/-- Execute a list of events; `none` when some event is not enabled. -/
def exec (step : State → Event → Option State) :
    State → List Event → Option State
  | state, [] => some state
  | state, event :: rest =>
      match step state event with
      | none => none
      | some next => exec step next rest

@[simp] theorem exec_nil
    (step : State → Event → Option State) (state : State) :
    exec step state [] = some state := rfl

theorem exec_cons
    (step : State → Event → Option State)
    (state : State) (event : Event) (rest : List Event) :
    exec step state (event :: rest) =
      (step state event).bind fun next => exec step next rest := by
  cases hstep : step state event <;> simp [exec, hstep]

/-- Every step taken along the run starts in a state where the condition
admits the event. -/
def StepsMeet
    (step : State → Event → Option State)
    (condition : State → Event → Prop) :
    State → List Event → Prop
  | _, [] => True
  | state, event :: rest =>
      condition state event ∧
        ∀ next, step state event = some next →
          StepsMeet step condition next rest

instance StepsMeet.decidable
    {step : State → Event → Option State}
    {condition : State → Event → Prop}
    [∀ state event, Decidable (condition state event)] :
    (state : State) → (events : List Event) →
      Decidable (StepsMeet step condition state events)
  | _, [] => isTrue trivial
  | state, event :: rest =>
      match hstep : step state event with
      | none =>
          decidable_of_iff (condition state event) (by simp [StepsMeet, hstep])
      | some next =>
          have : Decidable (StepsMeet step condition next rest) :=
            StepsMeet.decidable next rest
          decidable_of_iff
            (condition state event ∧ StepsMeet step condition next rest)
            (by simp [StepsMeet, hstep])

/-- The observed property holds in every state the run passes through, the
first one included. -/
def Along
    (step : State → Event → Option State) (property : State → Prop)
    (state : State) (events : List Event) : Prop :=
  ∀ before after middle, events = before ++ after →
    exec step state before = some middle → property middle

theorem Along.head
    {step : State → Event → Option State} {property : State → Prop}
    {state : State} {events : List Event}
    (halong : Along step property state events) : property state :=
  halong [] events state rfl rfl

theorem Along.tail
    {step : State → Event → Option State} {property : State → Prop}
    {state next : State} {event : Event} {rest : List Event}
    (halong : Along step property state (event :: rest))
    (hstep : step state event = some next) :
    Along step property next rest := by
  intro before after middle hsplit hexec
  refine halong (event :: before) after middle ?_ ?_
  · rw [hsplit, List.cons_append]
  · rw [exec_cons, hstep]
    exact hexec

theorem Along.cons
    {step : State → Event → Option State} {property : State → Prop}
    {state : State} {event : Event} {rest : List Event}
    (hhead : property state)
    (htail : ∀ next, step state event = some next →
      Along step property next rest) :
    Along step property state (event :: rest) := by
  intro before after middle hsplit hexec
  cases before with
  | nil =>
      simp only [exec_nil, Option.some.injEq] at hexec
      exact hexec ▸ hhead
  | cons first more =>
      rw [List.cons_append, List.cons.injEq] at hsplit
      rcases hsplit with ⟨rfl, hrest⟩
      rw [exec_cons] at hexec
      cases hstep : step state event with
      | none => simp [hstep] at hexec
      | some next =>
          rw [hstep] at hexec
          exact htail next hstep more after middle hrest hexec

theorem Along.mono
    {step : State → Event → Option State} {property weaker : State → Prop}
    {state : State} {events : List Event}
    (halong : Along step property state events)
    (himp : ∀ current, property current → weaker current) :
    Along step weaker state events := by
  intro before after middle hsplit hexec
  exact himp middle (halong before after middle hsplit hexec)

/-- A run that ends in a state without the property. -/
theorem not_along_of_exec
    {step : State → Event → Option State} {property : State → Prop}
    [DecidablePred property] {state : State} {events : List Event}
    (hend : (exec step state events).any (fun last => !property last) =
      true) :
    ¬ Along step property state events := by
  intro halong
  obtain ⟨last, hexec, hlast⟩ := (Option.any_eq_true _ _).mp hend
  have hproperty := halong events [] last (by simp) hexec
  simp [hproperty] at hlast

/-- The run lemma for a conditional step lemma. -/
theorem along_of_stepsMeet
    {step : State → Event → Option State}
    {condition : State → Event → Prop} {invariant : State → Prop}
    (hkeep : ∀ state event next, invariant state → condition state event →
      step state event = some next → invariant next)
    {state : State} {events : List Event}
    (hstart : invariant state)
    (hmeet : StepsMeet step condition state events) :
    Along step invariant state events := by
  induction events generalizing state with
  | nil =>
      intro before after middle hsplit hexec
      rcases List.append_eq_nil_iff.mp hsplit.symm with ⟨rfl, rfl⟩
      simp only [exec_nil, Option.some.injEq] at hexec
      exact hexec ▸ hstart
  | cons event rest ih =>
      refine Along.cons hstart ?_
      intro next hstep
      exact ih (hkeep state event next hstart hmeet.1 hstep)
        (hmeet.2 next hstep)

/-- The run lemma for an unconditional step lemma. -/
theorem along_of_invariant
    {step : State → Event → Option State} {invariant : State → Prop}
    (hkeep : ∀ state event next, invariant state →
      step state event = some next → invariant next)
    {state : State} (events : List Event) (hstart : invariant state) :
    Along step invariant state events := by
  have hmeet : StepsMeet step (fun _ _ => True) state events := by
    clear hstart
    induction events generalizing state with
    | nil => trivial
    | cons event rest ih => exact ⟨trivial, fun next _ => ih⟩
  exact along_of_stepsMeet
    (fun current event next hinv _ hstep => hkeep current event next hinv hstep)
    hstart hmeet

theorem StepsMeet.and_of_forall
    {step : State → Event → Option State}
    {condition : State → Event → Prop} {admitted : Event → Prop}
    {state : State} {events : List Event}
    (hmeet : StepsMeet step condition state events)
    (hall : ∀ event ∈ events, admitted event) :
    StepsMeet step (fun current event => condition current event ∧
      admitted event) state events := by
  induction events generalizing state with
  | nil => trivial
  | cons event rest ih =>
      refine ⟨⟨hmeet.1, hall event List.mem_cons_self⟩, ?_⟩
      intro next hstep
      apply ih (hmeet.2 next hstep)
      intro later hlater
      exact hall later (List.mem_cons_of_mem event hlater)

/-- The equivalence for runs over the events of some kind. -/
theorem along_iff_stepsMeet_of_forall
    {step : State → Event → Option State}
    {condition : State → Event → Prop} {admitted : Event → Prop}
    {invariant property : State → Prop}
    (hsound : ∀ state, invariant state → property state)
    (hkeep : ∀ state event next, admitted event → invariant state →
      condition state event → step state event = some next → invariant next)
    (hbreak : ∀ state event, admitted event → invariant state →
      ¬ condition state event →
        ∃ next, step state event = some next ∧ ¬ property next)
    {state : State} {events : List Event}
    (hall : ∀ event ∈ events, admitted event) (hstart : invariant state) :
    Along step property state events ↔
      StepsMeet step condition state events := by
  constructor
  · intro halong
    induction events generalizing state with
    | nil => trivial
    | cons event rest ih =>
        have hadmitted := hall event List.mem_cons_self
        have hcond : condition state event := by
          by_contra hnot
          rcases hbreak state event hadmitted hstart hnot with
            ⟨next, hstep, hbad⟩
          exact hbad (halong.tail hstep).head
        refine ⟨hcond, ?_⟩
        intro next hstep
        apply ih
        · intro later hlater
          exact hall later (List.mem_cons_of_mem event hlater)
        · exact hkeep state event next hadmitted hstart hcond hstep
        · exact halong.tail hstep
  · intro hmeet
    have hboth := hmeet.and_of_forall hall
    refine (along_of_stepsMeet ?_ hstart hboth).mono hsound
    intro current event next hinvariant hcondition hstep
    exact hkeep current event next hcondition.2 hinvariant hcondition.1 hstep

/-- When the invariant implies the observed property, and a step outside the
condition ends in a state without it, the property holds along a run exactly
if every step of the run meets the condition. -/
theorem along_iff_stepsMeet
    {step : State → Event → Option State}
    {condition : State → Event → Prop} {invariant property : State → Prop}
    (hsound : ∀ state, invariant state → property state)
    (hkeep : ∀ state event next, invariant state → condition state event →
      step state event = some next → invariant next)
    (hbreak : ∀ state event, invariant state → ¬ condition state event →
      ∃ next, step state event = some next ∧ ¬ property next)
    {state : State} {events : List Event} (hstart : invariant state) :
    Along step property state events ↔
      StepsMeet step condition state events := by
  have hall : ∀ event ∈ events, (fun _ : Event => True) event :=
    fun _ _ => trivial
  apply along_iff_stepsMeet_of_forall hsound _ _ hall hstart
  · intro current event next _
    exact hkeep current event next
  · intro current event _
    exact hbreak current event

end StepSystem

import EziotSdk.StepSystem

/-!
# The timer service

`ez_timer_create` starts the service when it finds it down, and the
`ez_timer_delete` of the last timer stops it.  Any number of callers run these
functions next to the timer threads; each step of the model is one access to
what they share.
-/

namespace EziotSdk

/-! ## Data -/

/-- What a call takes the mutex for. -/
inductive TimerEntry where
  | init (creating : Bool)
  | add
  | remove (id : ℕ)
  | fini
  deriving DecidableEq

/-- The next step of a call that holds the mutex. -/
inductive TimerPoint where
  | initCount (creating : Bool)
  | initClear (creating : Bool)
  | initThread (creating : Bool)
  | initFlag (creating : Bool)
  | initList (creating : Bool)
  | initLeave (creating success : Bool)
  | addTimer
  | addLeave
  | removeTimer (id : ℕ)
  | removeLeave (last : Bool)
  | finiCount
  | finiTest
  | finiFlag
  | finiDestroy
  | finiFree
  | finiLeave
  deriving DecidableEq

/-- Where a caller is. -/
inductive TimerCall where
  | idle
  | create
  | delete (id : ℕ)
  | initMutex (creating : Bool)
  | lock (entry : TimerEntry)
  | waiting (mutex : Option ℕ) (entry : TimerEntry)
  | inside (mutex : Option ℕ) (point : TimerPoint)
  deriving DecidableEq

/-- Where a timer thread is. -/
inductive TimerThread where
  | absent
  | test
  | entering
  | waiting (mutex : Option ℕ)
  | pass (mutex list : Option ℕ)
  | left
  deriving DecidableEq

inductive TimerAgent where
  | caller (number : ℕ)
  | thread (number : ℕ)
  deriving DecidableEq

/-- The shared variables (a NULL pointer is `none`), the owners of the
mutexes, and the places of the callers and threads. -/
structure TimerService where
  flag : Bool
  mutex : Option ℕ
  count : ℤ
  handle : Option ℕ
  list : Option ℕ
  timers : List ℕ
  nextId : ℕ
  mutexes : ℕ
  lists : ℕ
  threadsMade : ℕ
  owner : ℕ → Option TimerAgent
  calls : ℕ → TimerCall
  threads : ℕ → TimerThread

inductive TimerOp where
  | create
  | delete (id : ℕ)
  | init
  | fini
  deriving DecidableEq

/-- `creates` is the outcome of a thread creation, and `expired` the timer
that a pass removes. -/
inductive ServiceEvent where
  | invoke (caller : ℕ) (op : TimerOp)
  | advance (caller : ℕ) (creates : Bool)
  | tick (thread : ℕ) (expired : Option ℕ)
  deriving DecidableEq

namespace TimerService

def fresh : TimerService where
  flag := false
  mutex := none
  count := 0
  handle := none
  list := none
  timers := []
  nextId := 1
  mutexes := 0
  lists := 0
  threadsMade := 0
  owner := fun _ => none
  calls := fun _ => .idle
  threads := fun _ => .absent

/-! ## Steps -/

/-- A lock of NULL returns at once and locks nothing. -/
def free (service : TimerService) (mutex : Option ℕ) : Bool :=
  mutex.all fun number => service.owner number = none

def take (service : TimerService) (agent : TimerAgent) :
    Option ℕ → TimerService
  | none => service
  | some number =>
      { service with
        owner := Function.update service.owner number (some agent) }

/-- The mutex that is unlocked is the one that the variable names by then. -/
def giveBack (service : TimerService) : TimerService :=
  match service.mutex with
  | none => service
  | some number =>
      { service with owner := Function.update service.owner number none }

def goTo (service : TimerService) (caller : ℕ) (call : TimerCall) :
    TimerService :=
  { service with calls := Function.update service.calls caller call }

def threadTo (service : TimerService) (thread : ℕ) (place : TimerThread) :
    TimerService :=
  { service with threads := Function.update service.threads thread place }

end TimerService

def TimerEntry.first : TimerEntry → TimerPoint
  | .init creating => .initCount creating
  | .add => .addTimer
  | .remove id => .removeTimer id
  | .fini => .finiCount

/-- The points at which the mutex is given back. -/
def TimerPoint.leaves : TimerPoint → Bool
  | .initLeave _ _ | .addLeave | .removeLeave _ | .finiLeave => true
  | _ => false

/-- The call after the mutex is given back. -/
def TimerPoint.afterLeave : TimerPoint → TimerCall
  | .initLeave true true => .lock .add
  | .removeLeave true => .lock .fini
  | _ => .idle

namespace TimerService

def invoke (service : TimerService) (caller : ℕ) : TimerOp → TimerService
  | .create => service.goTo caller .create
  | .delete id => service.goTo caller (.delete id)
  | .init => service.goTo caller (.initMutex false)
  | .fini => service.goTo caller (.lock .fini)

/-- A step under the mutex; `joins` tells whether `hal_thread_destroy` waits
for the thread or ends it. -/
def insideStep (joins creates : Bool) (service : TimerService) :
    TimerPoint → Option (TimerService × TimerPoint)
  | .initCount creating =>
      some ({ service with count := service.count + 1 },
        if 0 < service.count then .initLeave creating true
        else .initClear creating)
  | .initClear creating =>
      some ({ service with flag := false, handle := none, list := none },
        .initThread creating)
  | .initThread creating =>
      if creates then
        some ({ service.threadTo service.threadsMade .test with
            handle := some service.threadsMade
            threadsMade := service.threadsMade + 1 },
          .initFlag creating)
      else some (service, .initLeave creating false)
  | .initFlag creating =>
      some ({ service with flag := true }, .initList creating)
  | .initList creating =>
      some ({ service with
          list := some service.lists
          lists := service.lists + 1
          timers := [] },
        .initLeave creating true)
  | .addTimer =>
      some ({ service with
          timers := service.timers ++ [service.nextId]
          nextId := service.nextId + 1 },
        .addLeave)
  | .removeTimer id =>
      some ({ service with timers := service.timers.erase id },
        .removeLeave (service.timers.length = 1))
  | .finiCount =>
      some ({ service with count := service.count - 1 },
        if 0 < service.count - 1 then .finiLeave else .finiTest)
  | .finiTest =>
      some (service,
        if service.flag ∧ service.timers = [] then .finiFlag
        else .finiLeave)
  | .finiFlag => some ({ service with flag := false }, .finiDestroy)
  | .finiDestroy =>
      match service.handle with
      | none => some (service, .finiFree)
      | some thread =>
          if joins ∧ service.threads thread ≠ .left then none
          else
            some ({ service.threadTo thread .absent with handle := none },
              .finiFree)
  | .finiFree => some ({ service with list := none }, .finiLeave)
  | .initLeave _ _ => none
  | .addLeave => none
  | .removeLeave _ => none
  | .finiLeave => none

def advance (joins : Bool) (service : TimerService) (caller : ℕ)
    (creates : Bool) : Option TimerService :=
  match service.calls caller with
  | .idle => none
  | .create =>
      some (service.goTo caller
        (if service.flag then .lock .add else .initMutex true))
  | .delete id =>
      some (service.goTo caller
        (if service.flag then .lock (.remove id) else .idle))
  | .initMutex creating =>
      some { service.goTo caller (.lock (.init creating)) with
        mutex := some service.mutexes
        mutexes := service.mutexes + 1 }
  | .lock entry =>
      some (service.goTo caller (.waiting service.mutex entry))
  | .waiting mutex entry =>
      if service.free mutex then
        some ((service.take (.caller caller) mutex).goTo caller
          (.inside mutex entry.first))
      else none
  | .inside mutex point =>
      if point.leaves then
        some (service.giveBack.goTo caller point.afterLeave)
      else
        (service.insideStep joins creates point).map fun reached =>
          reached.1.goTo caller (.inside mutex reached.2)

/-- `timer_routine`; the list is used between the lock and the unlock. -/
def tick (service : TimerService) (thread : ℕ) (expired : Option ℕ) :
    Option TimerService :=
  match service.threads thread with
  | .absent => none
  | .test =>
      some (service.threadTo thread
        (if service.flag then .entering else .left))
  | .entering =>
      some (service.threadTo thread (.waiting service.mutex))
  | .waiting mutex =>
      if service.free mutex then
        some ((service.take (.thread thread) mutex).threadTo thread
          (.pass mutex service.list))
      else none
  | .pass _ _ =>
      some { service.giveBack.threadTo thread .test with
        timers := service.timers.filter (some · ≠ expired) }
  | .left => none

def step (joins : Bool) (service : TimerService) :
    ServiceEvent → Option TimerService
  | .invoke caller op =>
      if service.calls caller = .idle then some (service.invoke caller op)
      else none
  | .advance caller creates => service.advance joins caller creates
  | .tick thread expired => service.tick thread expired

end TimerService

/-! ## The service is running whenever it says so -/

def TimerEntry.lifecycle : TimerEntry → Bool
  | .init _ | .fini => true
  | .add | .remove _ => false

def TimerPoint.lifecycle : TimerPoint → Bool
  | .addTimer | .addLeave | .removeTimer _ | .removeLeave _ => false
  | _ => true

/-- The call is in `ez_timer_init` or `ez_timer_fini`. -/
def TimerCall.lifecycle : TimerCall → Bool
  | .initMutex _ => true
  | .lock entry => entry.lifecycle
  | .waiting _ entry => entry.lifecycle
  | .inside _ point => point.lifecycle
  | .idle | .create | .delete _ => false

def TimerThread.InLoop (thread : TimerThread) : Prop :=
  thread ≠ .absent ∧ thread ≠ .left

namespace TimerService

/-- The mutex and the list that a thread uses are the given ones. -/
structure Uses (thread : TimerThread) (mutex list : Option ℕ) : Prop where
  waiting : ∀ used, thread = .waiting used → used = mutex
  pass : ∀ used usedList, thread = .pass used usedList →
    used = mutex ∧ usedList = list

/-- Exactly one timer thread exists, it has not left its loop, and what it
uses is current. -/
structure Runs (service : TimerService) (thread : ℕ) : Prop where
  only : ∀ other, other ≠ thread → service.threads other = .absent
  inLoop : (service.threads thread).InLoop
  list : service.list ≠ none
  current : Uses (service.threads thread) service.mutex service.list

def SaysSo (service : TimerService) : Prop :=
  service.flag = true ∧
    ∀ caller, (service.calls caller).lifecycle = false

def RunningWhenUp (service : TimerService) : Prop :=
  service.SaysSo → ∃ thread, service.Runs thread

end TimerService

/-! ## The steps that go wrong -/

def TimerCall.usesMutex : TimerCall → Bool
  | .waiting _ _ | .inside _ _ => true
  | _ => false

def TimerThread.usesMutex : TimerThread → Bool
  | .waiting _ | .pass _ _ => true
  | _ => false

namespace TimerService

/-- The mutex is replaced while nobody waits for it or holds it. -/
structure MutexUnused (service : TimerService) : Prop where
  calls : ∀ caller, (service.calls caller).usesMutex = false
  threads : ∀ thread, (service.threads thread).usesMutex = false

/-- Besides that, an init finds the count positive when there is a thread,
and a thread does not look at the flag between its creation and the raising of
the flag. -/
def EventSound (service : TimerService) : ServiceEvent → Prop
  | .invoke _ _ => True
  | .advance caller _ =>
      (∀ creating, service.calls caller = .initMutex creating →
        service.MutexUnused) ∧
      ∀ mutex creating,
        service.calls caller = .inside mutex (.initCount creating) →
          0 < service.count ∨ ∀ thread, service.threads thread = .absent
  | .tick thread _ =>
      service.threads thread = .test → service.flag = true ∨
        ∀ caller mutex creating,
          service.calls caller ≠ .inside mutex (.initFlag creating)

end TimerService

/-! ## The invariant -/

namespace TimerService

def Down (service : TimerService) : Prop :=
  service.flag = false ∧ ∀ thread, service.threads thread = .absent

/-- The thread that the handle names is the only one. -/
def One (service : TimerService) (thread : ℕ) : Prop :=
  service.handle = some thread ∧
    ∀ other, other ≠ thread → service.threads other = .absent

def Starting (service : TimerService) : Prop :=
  service.flag = false ∧
    ∃ thread, service.One thread ∧ service.threads thread = .test

def Raised (service : TimerService) : Prop :=
  service.flag = true ∧
    ∃ thread, service.One thread ∧ (service.threads thread).InLoop

def Up (service : TimerService) : Prop :=
  service.Raised ∧ service.list ≠ none

def Stopping (service : TimerService) : Prop :=
  service.flag = false ∧
    ∃ thread, service.One thread ∧ service.threads thread ≠ .absent

def Stable (service : TimerService) : Prop := service.Down ∨ service.Up

end TimerService

/-- What holds while a call is at a point. -/
def TimerPoint.Asserts : TimerPoint → TimerService → Prop
  | .initClear _ => TimerService.Down
  | .initThread _ => TimerService.Down
  | .initFlag _ => TimerService.Starting
  | .initList _ => TimerService.Raised
  | .finiFlag => TimerService.Up
  | .finiDestroy => TimerService.Stopping
  | .finiFree => TimerService.Down
  | .initCount _ | .initLeave _ _ | .addTimer | .addLeave
  | .removeTimer _ | .removeLeave _ | .finiCount | .finiTest
  | .finiLeave => TimerService.Stable

/-- The assertions are about the flag, the handle, the list and the
threads. -/
theorem TimerPoint.asserts_congr {point : TimerPoint}
    {service next : TimerService} (hflag : next.flag = service.flag)
    (hhandle : next.handle = service.handle)
    (hlist : next.list = service.list)
    (hthreads : next.threads = service.threads) :
    point.Asserts next ↔ point.Asserts service := by
  cases point <;>
    simp only [Asserts, TimerService.Down, TimerService.Starting,
      TimerService.Raised, TimerService.Up, TimerService.Stopping,
      TimerService.Stable, TimerService.One, hflag, hhandle, hlist, hthreads]

theorem TimerPoint.asserts_of_not_lifecycle {point : TimerPoint}
    (hlifecycle : point.lifecycle = false) :
    point.Asserts = TimerService.Stable := by
  cases point <;> first | rfl | exact Bool.noConfusion hlifecycle

theorem TimerPoint.asserts_of_leaves {point : TimerPoint}
    (hleaves : point.leaves = true) : point.Asserts = TimerService.Stable := by
  cases point <;> first | rfl | exact Bool.noConfusion hleaves

theorem TimerEntry.first_asserts (entry : TimerEntry) :
    entry.first.Asserts = TimerService.Stable := by
  cases entry <;> rfl

/-- Where a call can be before the first mutex is made. -/
def TimerCall.beforeMutex : TimerCall → Bool
  | .idle | .create | .delete _ | .initMutex _ => true
  | .lock .fini | .waiting _ .fini => true
  | .inside _ .finiCount | .inside _ .finiTest => true
  | .inside _ .finiLeave => true
  | _ => false

namespace TimerService

structure Invariant (service : TimerService) : Prop where
  waiting : ∀ caller mutex entry,
    service.calls caller = .waiting mutex entry → mutex = service.mutex
  inside : ∀ caller mutex point,
    service.calls caller = .inside mutex point →
      mutex = service.mutex ∧ point.Asserts service
  outside : (∀ caller mutex point,
    service.calls caller ≠ .inside mutex point) → service.Stable
  threads : ∀ thread,
    Uses (service.threads thread) service.mutex service.list
  callOwns : ∀ caller mutex point number,
    service.calls caller = .inside mutex point →
      service.mutex = some number →
        service.owner number = some (.caller caller)
  threadOwns : ∀ thread mutex list number,
    service.threads thread = .pass mutex list →
      service.mutex = some number →
        service.owner number = some (.thread thread)
  unborn : service.mutex = none →
    service.Down ∧ ∀ caller, (service.calls caller).beforeMutex = true

theorem uses_of_unused {thread : TimerThread} {mutex list : Option ℕ}
    (hunused : thread.usesMutex = false) : Uses thread mutex list := by
  constructor
  · rintro used rfl
    cases hunused
  · rintro used usedList rfl
    cases hunused

theorem invariant_fresh : fresh.Invariant where
  waiting _ _ _ hcall := TimerCall.noConfusion hcall
  inside _ _ _ hcall := TimerCall.noConfusion hcall
  outside _ := Or.inl ⟨rfl, fun _ => rfl⟩
  threads _ := uses_of_unused rfl
  callOwns _ _ _ _ hcall := TimerCall.noConfusion hcall
  threadOwns _ _ _ _ hthread := TimerThread.noConfusion hthread
  unborn _ := ⟨⟨rfl, fun _ => rfl⟩, fun _ => rfl⟩

/-- The observed property of every state with the invariant. -/
theorem Invariant.runningWhenUp {service : TimerService}
    (hservice : service.Invariant) : service.RunningWhenUp := by
  rintro ⟨hflag, hcalls⟩
  have hstable : service.Stable := by
    by_cases hinside : ∃ caller mutex point,
        service.calls caller = .inside mutex point
    · rcases hinside with ⟨caller, mutex, point, hcall⟩
      have hassert := (hservice.inside caller mutex point hcall).2
      have hlifecycle := hcalls caller
      rw [hcall] at hlifecycle
      rwa [TimerPoint.asserts_of_not_lifecycle hlifecycle] at hassert
    · push Not at hinside
      exact hservice.outside hinside
  rcases hstable with ⟨hdown, -⟩ | ⟨⟨-, thread, hone, hloop⟩, hlist⟩
  · rw [hflag] at hdown
    exact Bool.noConfusion hdown
  · exact ⟨thread, hone.2, hloop, hlist, hservice.threads thread⟩

section Steps

variable {service : TimerService}

theorem goTo_calls (caller other : ℕ) (call : TimerCall) :
    (service.goTo caller call).calls other =
      if other = caller then call else service.calls other :=
  Function.update_apply _ _ _ _

/-- A call moves outside the mutex. -/
theorem Invariant.goTo (hservice : service.Invariant) {caller : ℕ}
    {call : TimerCall}
    (hbefore : ∀ mutex point, service.calls caller ≠ .inside mutex point)
    (hafter : ∀ mutex point, call ≠ .inside mutex point)
    (hwaiting : ∀ mutex entry, call = .waiting mutex entry →
      mutex = service.mutex)
    (hunborn : service.mutex = none → call.beforeMutex = true) :
    (service.goTo caller call).Invariant := by
  have hinside : ∀ {other mutex point},
      (service.goTo caller call).calls other = .inside mutex point →
        service.calls other = .inside mutex point := by
    intro other mutex point hcall
    rw [goTo_calls] at hcall
    split_ifs at hcall
    · exact absurd hcall (hafter mutex point)
    · exact hcall
  constructor
  · intro other mutex entry hcall
    rw [goTo_calls] at hcall
    split_ifs at hcall
    · exact hwaiting mutex entry hcall
    · exact hservice.waiting other mutex entry hcall
  · intro other mutex point hcall
    have hheld := hservice.inside other mutex point (hinside hcall)
    have hsame : point.Asserts (service.goTo caller call) ↔
        point.Asserts service := TimerPoint.asserts_congr rfl rfl rfl rfl
    exact ⟨hheld.1, hsame.mpr hheld.2⟩
  · intro hnone
    apply hservice.outside
    intro other mutex point hcall
    apply hnone other mutex point
    rw [goTo_calls, if_neg]
    · exact hcall
    · rintro rfl
      exact hbefore mutex point hcall
  · exact hservice.threads
  · intro other mutex point number hcall
    exact hservice.callOwns other mutex point number (hinside hcall)
  · exact hservice.threadOwns
  · intro hnone
    refine ⟨(hservice.unborn hnone).1, fun other => ?_⟩
    rw [goTo_calls]
    split_ifs
    · exact hunborn hnone
    · exact (hservice.unborn hnone).2 other

theorem Invariant.initMutex (hservice : service.Invariant)
    (hunused : service.MutexUnused) (caller : ℕ) (creating : Bool) :
    Invariant { service.goTo caller (.lock (.init creating)) with
      mutex := some service.mutexes
      mutexes := service.mutexes + 1 } := by
  have hcalls : ∀ other call,
      (service.goTo caller (.lock (.init creating))).calls other = call →
        call.usesMutex = false := by
    rintro other call rfl
    rw [goTo_calls]
    split_ifs
    · rfl
    · exact hunused.calls other
  constructor
  · intro other mutex entry hcall
    exact Bool.noConfusion (hcalls other _ hcall)
  · intro other mutex point hcall
    exact Bool.noConfusion (hcalls other _ hcall)
  · intro _
    apply hservice.outside
    intro other mutex point hcall
    have hnot := hunused.calls other
    rw [hcall] at hnot
    exact Bool.noConfusion hnot
  · intro thread
    exact uses_of_unused (hunused.threads thread)
  · intro other mutex point number hcall
    exact Bool.noConfusion (hcalls other _ hcall)
  · intro thread mutex list number hthread
    have hnot := hunused.threads thread
    change service.threads thread = _ at hthread
    rw [hthread] at hnot
    exact Bool.noConfusion hnot
  · intro hnone
    cases hnone

/-- Who holds the mutex is the only one. -/
theorem Invariant.alone (hservice : service.Invariant)
    {caller : ℕ} {mutex : Option ℕ} {point : TimerPoint} {number : ℕ}
    (hcall : service.calls caller = .inside mutex point)
    (hmutex : service.mutex = some number) :
    (∀ other otherMutex otherPoint, other ≠ caller →
        service.calls other ≠ .inside otherMutex otherPoint) ∧
      ∀ thread otherMutex list,
        service.threads thread ≠ .pass otherMutex list := by
  have howner := hservice.callOwns caller mutex point number hcall hmutex
  constructor
  · intro other otherMutex otherPoint hother hinside
    have hsecond := hservice.callOwns other _ _ number hinside hmutex
    rw [howner, Option.some.injEq, TimerAgent.caller.injEq] at hsecond
    exact hother hsecond.symm
  · intro thread otherMutex list hpass
    have hsecond := hservice.threadOwns thread _ _ number hpass hmutex
    rw [howner] at hsecond
    cases hsecond

/-- Nobody holds a mutex that is free. -/
theorem Invariant.nobody (hservice : service.Invariant) {number : ℕ}
    (hmutex : service.mutex = some number)
    (hfree : service.owner number = none) :
    (∀ caller mutex point, service.calls caller ≠ .inside mutex point) ∧
      ∀ thread mutex list, service.threads thread ≠ .pass mutex list := by
  constructor
  · intro caller mutex point hcall
    have howner := hservice.callOwns caller _ _ number hcall hmutex
    rw [hfree] at howner
    cases howner
  · intro thread mutex list hpass
    have howner := hservice.threadOwns thread _ _ number hpass hmutex
    rw [hfree] at howner
    cases howner

/-- Before the first mutex only the counting of a fini can go on. -/
theorem invariant_of_unborn (hmutex : service.mutex = none)
    (hdown : service.Down)
    (hcalls : ∀ caller, (service.calls caller).beforeMutex = true)
    (hwaiting : ∀ caller mutex entry,
      service.calls caller = .waiting mutex entry → mutex = none)
    (hinside : ∀ caller mutex point,
      service.calls caller = .inside mutex point → mutex = none) :
    service.Invariant := by
  have habsent : ∀ thread, (service.threads thread).usesMutex = false := by
    intro thread
    rw [hdown.2 thread]
    rfl
  constructor
  · intro caller mutex entry hcall
    rw [hmutex]
    exact hwaiting caller mutex entry hcall
  · intro caller mutex point hcall
    rw [hmutex]
    refine ⟨hinside caller mutex point hcall, ?_⟩
    have hbefore := hcalls caller
    rw [hcall] at hbefore
    have hstable : point.Asserts = Stable := by
      cases point <;> first | rfl | exact Bool.noConfusion hbefore
    rw [hstable]
    exact Or.inl hdown
  · intro _
    exact Or.inl hdown
  · intro thread
    exact uses_of_unused (habsent thread)
  · intro caller mutex point number _ hsome
    rw [hmutex] at hsome
    cases hsome
  · intro thread mutex list number _ hsome
    rw [hmutex] at hsome
    cases hsome
  · intro _
    exact ⟨hdown, hcalls⟩

/-- A call moves before the first mutex is made. -/
theorem Invariant.goToUnborn (hservice : service.Invariant)
    (hmutex : service.mutex = none) {next : TimerService} {caller : ℕ}
    {call : TimerCall} (hnextMutex : next.mutex = none) (hdown : next.Down)
    (hcalls : next.calls = service.calls)
    (hbefore : call.beforeMutex = true)
    (hwaiting : ∀ mutex entry, call = .waiting mutex entry → mutex = none)
    (hinside : ∀ mutex point, call = .inside mutex point → mutex = none) :
    (next.goTo caller call).Invariant := by
  have hunborn : (next.goTo caller call).mutex = none := hnextMutex
  have hmoved : (next.goTo caller call).Down := hdown
  apply invariant_of_unborn hunborn hmoved
  · intro other
    rw [goTo_calls, hcalls]
    split_ifs
    · exact hbefore
    · exact (hservice.unborn hmutex).2 other
  · intro other mutex entry hcall
    rw [goTo_calls, hcalls] at hcall
    split_ifs at hcall
    · exact hwaiting mutex entry hcall
    · rw [← hmutex]
      exact hservice.waiting other mutex entry hcall
  · intro other mutex point hcall
    rw [goTo_calls, hcalls] at hcall
    split_ifs at hcall
    · exact hinside mutex point hcall
    · rw [← hmutex]
      exact (hservice.inside other mutex point hcall).1

/-- A call takes the mutex it has waited for. -/
theorem Invariant.takeCall (hservice : service.Invariant) {caller : ℕ}
    {mutex : Option ℕ} {entry : TimerEntry}
    (hcall : service.calls caller = .waiting mutex entry)
    (hfree : service.free mutex = true) :
    ((service.take (.caller caller) mutex).goTo caller
      (.inside mutex entry.first)).Invariant := by
  have hcurrent := hservice.waiting caller mutex entry hcall
  subst hcurrent
  cases hmutex : service.mutex with
  | none =>
      have hbefore := (hservice.unborn hmutex).2 caller
      rw [hcall] at hbefore
      apply hservice.goToUnborn hmutex hmutex (hservice.unborn hmutex).1 rfl
      · cases entry <;> first | rfl | exact Bool.noConfusion hbefore
      · intro _ _ hwaiting
        cases hwaiting
      · intro _ _ hinside
        cases hinside
        rfl
  | some number =>
      have hnone : service.owner number = none := by
        simpa [free, hmutex] using hfree
      rcases hservice.nobody hmutex hnone with ⟨hcalls, hthreads⟩
      have hsplit : ∀ {other call},
          (service.goTo caller (.inside (some number) entry.first)).calls
              other = call →
            other = caller ∧ call = .inside (some number) entry.first ∨
              service.calls other = call := by
        intro other call hother
        rw [goTo_calls] at hother
        split_ifs at hother with hsame
        · exact Or.inl ⟨hsame, hother.symm⟩
        · exact Or.inr hother
      constructor
      · intro other mutex later hwaiting
        rcases hsplit hwaiting with ⟨-, hinside⟩ | hother
        · cases hinside
        · exact hservice.waiting other mutex later hother
      · intro other mutex point hinside
        rcases hsplit hinside with ⟨-, heq⟩ | hother
        · cases heq
          refine ⟨hmutex.symm, ?_⟩
          rw [entry.first_asserts]
          exact hservice.outside hcalls
        · exact absurd hother (hcalls other mutex point)
      · intro hnobody
        exfalso
        apply hnobody caller (some number) entry.first
        exact Function.update_self _ _ _
      · exact hservice.threads
      · intro other mutex point held hinside hheld
        rcases hsplit hinside with ⟨hsame, -⟩ | hother
        · have hnumber : held = number := by
            change service.mutex = some held at hheld
            rw [hmutex, Option.some.injEq] at hheld
            exact hheld.symm
          rw [hsame, hnumber]
          exact Function.update_self _ _ _
        · exact absurd hother (hcalls other mutex point)
      · intro thread mutex list held hpass
        exact absurd hpass (hthreads thread mutex list)
      · intro hborn
        change service.mutex = none at hborn
        rw [hmutex] at hborn
        cases hborn

/-- A step under the mutex, when there is one. -/
theorem Invariant.advanceInside (hservice : service.Invariant)
    {caller number : ℕ} {mutex : Option ℕ} {point reached : TimerPoint}
    {next : TimerService}
    (hcall : service.calls caller = .inside mutex point)
    (hmutex : service.mutex = some number)
    (hnextMutex : next.mutex = service.mutex)
    (howner : next.owner = service.owner)
    (hcalls : next.calls = service.calls)
    (hthreads : ∀ thread, Uses (next.threads thread) next.mutex next.list)
    (hpass : ∀ thread used list, next.threads thread ≠ .pass used list)
    (hassert : reached.Asserts next) :
    (next.goTo caller (.inside mutex reached)).Invariant := by
  rcases hservice.alone hcall hmutex with ⟨halone, -⟩
  have hsame : reached.Asserts (next.goTo caller (.inside mutex reached)) ↔
      reached.Asserts next := TimerPoint.asserts_congr rfl rfl rfl rfl
  constructor
  · intro other used entry hwaiting
    change used = next.mutex
    rw [goTo_calls, hcalls] at hwaiting
    rw [hnextMutex]
    split_ifs at hwaiting
    exact hservice.waiting other used entry hwaiting
  · intro other used later hinside
    change used = next.mutex ∧ _
    rw [goTo_calls, hcalls] at hinside
    rw [hnextMutex]
    split_ifs at hinside with hother
    · cases hinside
      exact ⟨(hservice.inside caller mutex point hcall).1,
        hsame.mpr hassert⟩
    · exact absurd hinside (halone other used later hother)
  · intro hnobody
    exfalso
    apply hnobody caller mutex reached
    exact Function.update_self _ _ _
  · exact hthreads
  · intro other used later held hinside hheld
    change next.owner held = _
    change next.mutex = some held at hheld
    rw [goTo_calls, hcalls] at hinside
    rw [hnextMutex] at hheld
    rw [howner]
    split_ifs at hinside with hother
    · rw [hother]
      exact hservice.callOwns caller mutex point held hcall hheld
    · exact absurd hinside (halone other used later hother)
  · intro thread used list held hthread
    exact absurd hthread (hpass thread used list)
  · intro hborn
    change next.mutex = none at hborn
    rw [hnextMutex, hmutex] at hborn
    cases hborn

/-- A call gives the mutex back. -/
theorem Invariant.leave (hservice : service.Invariant) {caller : ℕ}
    {mutex : Option ℕ} {point : TimerPoint}
    (hcall : service.calls caller = .inside mutex point)
    (hleaves : point.leaves = true) :
    (service.giveBack.goTo caller point.afterLeave).Invariant := by
  have hassert := (hservice.inside caller mutex point hcall).2
  rw [TimerPoint.asserts_of_leaves hleaves] at hassert
  have houtside : (∀ used entry, point.afterLeave ≠ .waiting used entry) ∧
      ∀ used later, point.afterLeave ≠ .inside used later := by
    unfold TimerPoint.afterLeave
    constructor <;> intro _ _ <;> split <;> exact TimerCall.noConfusion
  cases hmutex : service.mutex with
  | none =>
      have hbefore := (hservice.unborn hmutex).2 caller
      rw [hcall] at hbefore
      have hsame : service.giveBack = service := by
        rw [giveBack, hmutex]
      rw [hsame]
      apply hservice.goToUnborn hmutex hmutex (hservice.unborn hmutex).1 rfl
      · cases point <;> first | rfl | cases hbefore
      · intro used entry hwaiting
        exact absurd hwaiting (houtside.1 used entry)
      · intro used later hinside
        exact absurd hinside (houtside.2 used later)
  | some number =>
      rcases hservice.alone hcall hmutex with ⟨halone, hpass⟩
      have hgiven : service.giveBack = { service with
          owner := Function.update service.owner number none } := by
        rw [giveBack, hmutex]
      rw [hgiven]
      have hothers : ∀ {other call},
          (service.goTo caller point.afterLeave).calls other = call →
            call = point.afterLeave ∨
              other ≠ caller ∧ service.calls other = call := by
        intro other call hother
        rw [goTo_calls] at hother
        split_ifs at hother with hsame
        · exact Or.inl hother.symm
        · exact Or.inr ⟨hsame, hother⟩
      have hnobody : ∀ other used later,
          (service.goTo caller point.afterLeave).calls other ≠
            .inside used later := by
        intro other used later hinside
        rcases hothers hinside with hafter | ⟨hother, hinside⟩
        · exact houtside.2 used later hafter.symm
        · exact halone other used later hother hinside
      constructor
      · intro other used entry hwaiting
        rcases hothers hwaiting with hafter | ⟨-, hother⟩
        · exact absurd hafter.symm (houtside.1 used entry)
        · exact hservice.waiting other used entry hother
      · intro other used later hinside
        exact absurd hinside (hnobody other used later)
      · intro _
        exact hassert
      · exact hservice.threads
      · intro other used later held hinside
        exact absurd hinside (hnobody other used later)
      · intro thread used list held hthread
        exact absurd hthread (hpass thread used list)
      · intro hborn
        change service.mutex = none at hborn
        rw [hmutex] at hborn
        cases hborn

/-- What holds at a point, and what the step leads to. -/
theorem insideStep_asserts {joins creates : Bool}
    {point reached : TimerPoint} {next : TimerService}
    (hassert : point.Asserts service)
    (hcount : ∀ creating, point = .initCount creating →
      0 < service.count ∨ ∀ thread, service.threads thread = .absent)
    (hstep : service.insideStep joins creates point = some (next, reached)) :
    reached.Asserts next ∧ next.mutex = service.mutex ∧
      next.owner = service.owner ∧ next.calls = service.calls ∧
      ∀ thread, next.threads thread = service.threads thread ∨
        (next.threads thread).usesMutex = false := by
  have hkept : ∀ thread, service.threads thread = service.threads thread ∨
      (service.threads thread).usesMutex = false := fun _ => Or.inl rfl
  cases point with
  | initCount creating =>
      cases hstep
      refine ⟨?_, rfl, rfl, rfl, hkept⟩
      by_cases hpos : 0 < service.count
      · rw [if_pos hpos]
        exact hassert
      · rw [if_neg hpos]
        have habsent := (hcount creating rfl).resolve_left hpos
        rcases hassert with hdown | ⟨⟨-, thread, -, hloop⟩, -⟩
        · exact hdown
        · exact absurd (habsent thread) hloop.1
  | initClear creating =>
      cases hstep
      exact ⟨⟨rfl, hassert.2⟩, rfl, rfl, rfl, hkept⟩
  | initThread creating =>
      cases creates with
      | false =>
          cases hstep
          exact ⟨Or.inl hassert, rfl, rfl, rfl, hkept⟩
      | true =>
          cases hstep
          have hmade : Function.update service.threads service.threadsMade
              .test service.threadsMade = .test :=
            Function.update_self _ _ _
          refine ⟨⟨hassert.1, service.threadsMade, ⟨rfl, ?_⟩, hmade⟩,
            rfl, rfl, rfl, ?_⟩
          · intro other hother
            exact (Function.update_of_ne hother _ _).trans (hassert.2 other)
          · intro thread
            by_cases hthread : thread = service.threadsMade
            · rw [hthread]
              exact Or.inr (congrArg TimerThread.usesMutex hmade)
            · exact Or.inl (Function.update_of_ne hthread _ _)
  | initFlag creating =>
      cases hstep
      rcases hassert with ⟨-, thread, hone, htest⟩
      have hloop : (service.threads thread).InLoop := by
        rw [htest]
        exact ⟨TimerThread.noConfusion, TimerThread.noConfusion⟩
      exact ⟨⟨rfl, thread, hone, hloop⟩, rfl, rfl, rfl, hkept⟩
  | initList creating =>
      cases hstep
      exact ⟨Or.inr ⟨hassert, Option.some_ne_none _⟩, rfl, rfl, rfl, hkept⟩
  | addTimer =>
      cases hstep
      exact ⟨hassert, rfl, rfl, rfl, hkept⟩
  | removeTimer id =>
      cases hstep
      exact ⟨hassert, rfl, rfl, rfl, hkept⟩
  | finiCount =>
      cases hstep
      refine ⟨?_, rfl, rfl, rfl, hkept⟩
      split_ifs
      · exact hassert
      · exact hassert
  | finiTest =>
      cases hstep
      refine ⟨?_, rfl, rfl, rfl, hkept⟩
      split_ifs with hstops
      · rcases hassert with ⟨hflag, -⟩ | hup
        · rw [hstops.1] at hflag
          cases hflag
        · exact hup
      · exact hassert
  | finiFlag =>
      cases hstep
      rcases hassert with ⟨⟨-, thread, hone, hloop⟩, -⟩
      exact ⟨⟨rfl, thread, hone, hloop.1⟩, rfl, rfl, rfl, hkept⟩
  | finiDestroy =>
      rcases hassert with ⟨hflag, thread, ⟨hhandle, honly⟩, -⟩
      simp only [insideStep, hhandle] at hstep
      split_ifs at hstep
      cases hstep
      have hgone : Function.update service.threads thread .absent thread =
          .absent := Function.update_self _ _ _
      refine ⟨⟨hflag, ?_⟩, rfl, rfl, rfl, ?_⟩
      · intro other
        by_cases hother : other = thread
        · rw [hother]
          exact hgone
        · exact (Function.update_of_ne hother _ _).trans (honly other hother)
      · intro other
        by_cases hother : other = thread
        · rw [hother]
          exact Or.inr (congrArg TimerThread.usesMutex hgone)
        · exact Or.inl (Function.update_of_ne hother _ _)
  | finiFree =>
      cases hstep
      exact ⟨Or.inl hassert, rfl, rfl, rfl, hkept⟩
  | initLeave creating success => cases hstep
  | addLeave => cases hstep
  | removeLeave last => cases hstep
  | finiLeave => cases hstep

theorem Invariant.insideStep (hservice : service.Invariant)
    {joins creates : Bool} {caller : ℕ} {mutex : Option ℕ}
    {point reached : TimerPoint} {next : TimerService}
    (hcall : service.calls caller = .inside mutex point)
    (hcount : ∀ creating, point = .initCount creating →
      0 < service.count ∨ ∀ thread, service.threads thread = .absent)
    (hstep : service.insideStep joins creates point = some (next, reached)) :
    (next.goTo caller (.inside mutex reached)).Invariant := by
  have hheld := hservice.inside caller mutex point hcall
  rcases insideStep_asserts hheld.2 hcount hstep with
    ⟨hassert, hnextMutex, howner, hcalls, hthreads⟩
  cases hmutex : service.mutex with
  | none =>
      rcases hservice.unborn hmutex with ⟨hdown, hbefore⟩
      have hpoint := hbefore caller
      rw [hcall] at hpoint
      have hmoved : next.Down ∧
          (TimerCall.inside mutex reached).beforeMutex = true := by
        cases point with
        | finiCount =>
            cases hstep
            refine ⟨hdown, ?_⟩
            split_ifs <;> rfl
        | finiTest =>
            cases hstep
            refine ⟨hdown, ?_⟩
            rw [hdown.1, if_neg (fun hflag => Bool.noConfusion hflag.1)]
            rfl
        | finiLeave => cases hstep
        | _ => cases hpoint
      apply hservice.goToUnborn hmutex (hnextMutex.trans hmutex) hmoved.1
        hcalls hmoved.2
      · intro used entry hwaiting
        cases hwaiting
      · intro used later hinside
        cases hinside
        exact hheld.1.trans hmutex
  | some number =>
      have hpass := (hservice.alone hcall hmutex).2
      apply hservice.advanceInside hcall hmutex hnextMutex howner hcalls _ _
        hassert
      · intro thread
        rcases hthreads thread with hsame | hunused
        · rw [hsame, hnextMutex]
          constructor
          · exact (hservice.threads thread).waiting
          · intro used list hthread
            exact absurd hthread (hpass thread used list)
        · exact uses_of_unused hunused
      · intro thread used list hthread
        rcases hthreads thread with hsame | hunused
        · rw [hsame] at hthread
          exact hpass thread used list hthread
        · rw [hthread] at hunused
          cases hunused

/-! ## Steps of a thread -/

theorem threadTo_threads (thread other : ℕ) (place : TimerThread) :
    (service.threadTo thread place).threads other =
      if other = thread then place else service.threads other :=
  Function.update_apply _ _ _ _

/-- The only thread moves. -/
theorem One.threadTo {thread moved : ℕ} (hone : service.One thread)
    (hlive : service.threads moved ≠ .absent) (place : TimerThread) :
    moved = thread ∧ (service.threadTo moved place).One thread := by
  have hmoved : moved = thread := by
    by_contra hne
    exact hlive (hone.2 moved hne)
  refine ⟨hmoved, hone.1, fun other hother => ?_⟩
  rw [threadTo_threads, if_neg (hmoved ▸ hother)]
  exact hone.2 other hother

/-- A thread leaves its loop only while the flag is down, and does not look at
it before it is raised. -/
theorem asserts_threadTo {point : TimerPoint} {thread : ℕ}
    {place : TimerThread} (hassert : point.Asserts service)
    (hlive : service.threads thread ≠ .absent) (hplace : place ≠ .absent)
    (hleft : service.flag = true → place ≠ .left)
    (hstart : ∀ creating, point = .initFlag creating →
      service.threads thread = .test → service.flag = true) :
    point.Asserts (service.threadTo thread place) := by
  have hraised : service.Raised → (service.threadTo thread place).Raised := by
    rintro ⟨hflag, own, hone, -⟩
    rcases hone.threadTo hlive place with ⟨rfl, hnext⟩
    refine ⟨hflag, thread, hnext, ?_⟩
    rw [threadTo_threads, if_pos rfl]
    exact ⟨hplace, hleft hflag⟩
  have hstable : service.Stable → (service.threadTo thread place).Stable := by
    rintro (hdown | hup)
    · exact absurd (hdown.2 thread) hlive
    · exact Or.inr ⟨hraised hup.1, hup.2⟩
  cases point with
  | initClear creating => exact absurd (hassert.2 thread) hlive
  | initThread creating => exact absurd (hassert.2 thread) hlive
  | finiFree => exact absurd (hassert.2 thread) hlive
  | initFlag creating =>
      rcases hassert with ⟨hflag, own, hone, htest⟩
      rcases hone.threadTo hlive place with ⟨rfl, -⟩
      have hup := hstart creating rfl htest
      rw [hflag] at hup
      cases hup
  | initList creating => exact hraised hassert
  | finiFlag => exact ⟨hraised hassert.1, hassert.2⟩
  | finiDestroy =>
      rcases hassert with ⟨hflag, own, hone, -⟩
      rcases hone.threadTo hlive place with ⟨rfl, hnext⟩
      refine ⟨hflag, thread, hnext, ?_⟩
      rw [threadTo_threads, if_pos rfl]
      exact hplace
  | initCount creating => exact hstable hassert
  | initLeave creating success => exact hstable hassert
  | addTimer => exact hstable hassert
  | addLeave => exact hstable hassert
  | removeTimer id => exact hstable hassert
  | removeLeave last => exact hstable hassert
  | finiCount => exact hstable hassert
  | finiTest => exact hstable hassert
  | finiLeave => exact hstable hassert

theorem stable_threadTo {thread : ℕ} {place : TimerThread}
    (hstable : service.Stable) (hlive : service.threads thread ≠ .absent)
    (hplace : place ≠ .absent)
    (hleft : service.flag = true → place ≠ .left) :
    (service.threadTo thread place).Stable := by
  have hassert : TimerPoint.addTimer.Asserts service := hstable
  apply asserts_threadTo hassert hlive hplace hleft
  intro creating hpoint
  cases hpoint

/-- A thread moves outside the mutex. -/
theorem Invariant.threadTo (hservice : service.Invariant) {thread : ℕ}
    {place : TimerThread} (hlive : service.threads thread ≠ .absent)
    (hplace : place ≠ .absent)
    (hleft : service.flag = true → place ≠ .left)
    (hstart : service.threads thread = .test → service.flag = true ∨
      ∀ caller mutex creating,
        service.calls caller ≠ .inside mutex (.initFlag creating))
    (huses : Uses place service.mutex service.list)
    (hpass : ∀ mutex list, place ≠ .pass mutex list) :
    (service.threadTo thread place).Invariant := by
  constructor
  · exact hservice.waiting
  · intro caller mutex point hcall
    rcases hservice.inside caller mutex point hcall with ⟨hmutex, hassert⟩
    refine ⟨hmutex, asserts_threadTo hassert hlive hplace hleft ?_⟩
    intro creating hpoint htest
    rcases hstart htest with hflag | hnone
    · exact hflag
    · rw [hpoint] at hcall
      exact absurd hcall (hnone caller mutex creating)
  · intro hnobody
    exact stable_threadTo (hservice.outside hnobody) hlive hplace hleft
  · intro other
    rw [threadTo_threads]
    split_ifs
    · exact huses
    · exact hservice.threads other
  · exact hservice.callOwns
  · intro other mutex list number hthread
    rw [threadTo_threads] at hthread
    split_ifs at hthread
    · exact absurd hthread (hpass mutex list)
    · exact hservice.threadOwns other mutex list number hthread
  · intro hnone
    exact absurd ((hservice.unborn hnone).1.2 thread) hlive

/-- A thread takes the mutex it has waited for. -/
theorem Invariant.takeThread (hservice : service.Invariant) {thread : ℕ}
    {mutex : Option ℕ} (hthread : service.threads thread = .waiting mutex)
    (hfree : service.free mutex = true) :
    ((service.take (.thread thread) mutex).threadTo thread
      (.pass mutex service.list)).Invariant := by
  have hcurrent := (hservice.threads thread).waiting mutex hthread
  subst hcurrent
  have hlive : service.threads thread ≠ .absent := by
    rw [hthread]
    exact TimerThread.noConfusion
  cases hmutex : service.mutex with
  | none => exact absurd ((hservice.unborn hmutex).1.2 thread) hlive
  | some number =>
      have hnone : service.owner number = none := by
        simpa [free, hmutex] using hfree
      rcases hservice.nobody hmutex hnone with ⟨hcalls, hthreads⟩
      constructor
      · exact hservice.waiting
      · intro caller used point hcall
        exact absurd hcall (hcalls caller used point)
      · intro _
        exact stable_threadTo (hservice.outside hcalls) hlive
          TimerThread.noConfusion (fun _ => TimerThread.noConfusion)
      · intro other
        change Uses ((service.threadTo thread _).threads other) _ _
        rw [threadTo_threads]
        split_ifs
        · constructor
          · intro used hwaiting
            cases hwaiting
          · intro used list hpass
            cases hpass
            exact ⟨hmutex.symm, rfl⟩
        · exact hservice.threads other
      · intro caller used point held hcall
        exact absurd hcall (hcalls caller used point)
      · intro other used list held hpass hheld
        change service.mutex = some held at hheld
        rw [hmutex, Option.some.injEq] at hheld
        change (service.threadTo thread _).threads other = _ at hpass
        rw [threadTo_threads] at hpass
        split_ifs at hpass with hother
        · rw [hother, ← hheld]
          exact Function.update_self _ _ _
        · exact absurd hpass (hthreads other used list)
      · intro hborn
        change service.mutex = none at hborn
        rw [hmutex] at hborn
        cases hborn

/-- A pass ends. -/
theorem Invariant.leavePass (hservice : service.Invariant) {thread : ℕ}
    {mutex list : Option ℕ} (timers : List ℕ)
    (hthread : service.threads thread = .pass mutex list) :
    Invariant { service.giveBack.threadTo thread .test with
      timers := timers } := by
  have hlive : service.threads thread ≠ .absent := by
    rw [hthread]
    exact TimerThread.noConfusion
  cases hmutex : service.mutex with
  | none => exact absurd ((hservice.unborn hmutex).1.2 thread) hlive
  | some number =>
      have hgiven : service.giveBack = { service with
          owner := Function.update service.owner number none } := by
        rw [giveBack, hmutex]
      rw [hgiven]
      have howner := hservice.threadOwns thread mutex list number hthread
        hmutex
      have hcalls : ∀ caller used point,
          service.calls caller ≠ .inside used point := by
        intro caller used point hcall
        have hsecond := hservice.callOwns caller used point number hcall
          hmutex
        rw [howner] at hsecond
        cases hsecond
      have hpasses : ∀ other used usedList,
          (service.threadTo thread .test).threads other ≠
            .pass used usedList := by
        intro other used usedList hpass
        rw [threadTo_threads] at hpass
        split_ifs at hpass with hother
        have hsecond := hservice.threadOwns other used usedList number hpass
          hmutex
        rw [howner, Option.some.injEq, TimerAgent.thread.injEq] at hsecond
        exact hother hsecond.symm
      constructor
      · exact hservice.waiting
      · intro caller used point hcall
        exact absurd hcall (hcalls caller used point)
      · intro _
        exact stable_threadTo (hservice.outside hcalls) hlive
          TimerThread.noConfusion (fun _ => TimerThread.noConfusion)
      · intro other
        change Uses ((service.threadTo thread .test).threads other) _ _
        rw [threadTo_threads]
        split_ifs
        · exact uses_of_unused rfl
        · exact hservice.threads other
      · intro caller used point held hcall
        exact absurd hcall (hcalls caller used point)
      · intro other used usedList held hpass
        exact absurd hpass (hpasses other used usedList)
      · intro hborn
        change service.mutex = none at hborn
        rw [hmutex] at hborn
        cases hborn

end Steps

/-! ## Every event -/

section Events

variable {service next : TimerService}

theorem Invariant.invoke (hservice : service.Invariant) {caller : ℕ}
    (hidle : service.calls caller = .idle) (op : TimerOp) :
    (service.invoke caller op).Invariant := by
  have hbefore : ∀ mutex point,
      service.calls caller ≠ .inside mutex point := by
    rw [hidle]
    exact fun _ _ => TimerCall.noConfusion
  cases op with
  | create =>
      exact hservice.goTo hbefore (fun _ _ => TimerCall.noConfusion)
        (fun _ _ hcall => TimerCall.noConfusion hcall) (fun _ => rfl)
  | delete id =>
      exact hservice.goTo hbefore (fun _ _ => TimerCall.noConfusion)
        (fun _ _ hcall => TimerCall.noConfusion hcall) (fun _ => rfl)
  | init =>
      exact hservice.goTo hbefore (fun _ _ => TimerCall.noConfusion)
        (fun _ _ hcall => TimerCall.noConfusion hcall) (fun _ => rfl)
  | fini =>
      exact hservice.goTo hbefore (fun _ _ => TimerCall.noConfusion)
        (fun _ _ hcall => TimerCall.noConfusion hcall) (fun _ => rfl)

/-- Where the flag is tested, a call goes on to use the mutex only if there is
one. -/
theorem Invariant.testFlag (hservice : service.Invariant) {caller : ℕ}
    {up down : TimerCall}
    (hbefore : ∀ mutex point, service.calls caller ≠ .inside mutex point)
    (hup : up.usesMutex = false) (hdown : down.usesMutex = false)
    (hunborn : down.beforeMutex = true) :
    (service.goTo caller (if service.flag then up else down)).Invariant := by
  have hafter : (if service.flag then up else down).usesMutex = false := by
    split_ifs
    · exact hup
    · exact hdown
  apply hservice.goTo hbefore
  · intro mutex point hcall
    rw [hcall] at hafter
    cases hafter
  · intro mutex entry hcall
    rw [hcall] at hafter
    cases hafter
  · intro hmutex
    rw [(hservice.unborn hmutex).1.1, if_neg Bool.noConfusion]
    exact hunborn

theorem Invariant.advance (hservice : service.Invariant) {joins : Bool}
    {caller : ℕ} {creates : Bool}
    (hsound : service.EventSound (.advance caller creates))
    (hstep : service.advance joins caller creates = some next) :
    next.Invariant := by
  unfold TimerService.advance at hstep
  cases hcall : service.calls caller with
  | idle =>
      simp only [hcall] at hstep
      cases hstep
  | create =>
      simp only [hcall, Option.some.injEq] at hstep
      subst hstep
      apply hservice.testFlag _ rfl rfl rfl
      rw [hcall]
      exact fun _ _ => TimerCall.noConfusion
  | delete id =>
      simp only [hcall, Option.some.injEq] at hstep
      subst hstep
      apply hservice.testFlag _ rfl rfl rfl
      rw [hcall]
      exact fun _ _ => TimerCall.noConfusion
  | initMutex creating =>
      simp only [hcall, Option.some.injEq] at hstep
      subst hstep
      exact hservice.initMutex (hsound.1 creating hcall) caller creating
  | lock entry =>
      simp only [hcall, Option.some.injEq] at hstep
      subst hstep
      apply hservice.goTo
      · rw [hcall]
        exact fun _ _ => TimerCall.noConfusion
      · exact fun _ _ => TimerCall.noConfusion
      · intro mutex later hwaiting
        cases hwaiting
        rfl
      · intro hmutex
        have hbefore := (hservice.unborn hmutex).2 caller
        rw [hcall] at hbefore
        cases entry <;> first | rfl | cases hbefore
  | waiting mutex entry =>
      simp only [hcall] at hstep
      split_ifs at hstep with hfree
      rw [Option.some.injEq] at hstep
      subst hstep
      exact hservice.takeCall hcall hfree
  | inside mutex point =>
      simp only [hcall] at hstep
      split_ifs at hstep with hleaves
      · rw [Option.some.injEq] at hstep
        subst hstep
        exact hservice.leave hcall hleaves
      · rw [Option.map_eq_some_iff] at hstep
        rcases hstep with ⟨⟨middle, reached⟩, hinside, rfl⟩
        apply hservice.insideStep hcall _ hinside
        rintro creating rfl
        exact hsound.2 mutex creating hcall

theorem Invariant.tick (hservice : service.Invariant) {thread : ℕ}
    {expired : Option ℕ}
    (hsound : service.EventSound (.tick thread expired))
    (hstep : service.tick thread expired = some next) :
    next.Invariant := by
  have hlive : service.threads thread ≠ .absent := by
    intro habsent
    simp only [TimerService.tick, habsent] at hstep
    cases hstep
  unfold TimerService.tick at hstep
  cases hthread : service.threads thread with
  | absent => exact absurd hthread hlive
  | left =>
      simp only [hthread] at hstep
      cases hstep
  | test =>
      simp only [hthread, Option.some.injEq] at hstep
      subst hstep
      cases hflag : service.flag with
      | true =>
          apply hservice.threadTo hlive TimerThread.noConfusion
            (fun _ => TimerThread.noConfusion) hsound (uses_of_unused rfl)
          exact fun _ _ => TimerThread.noConfusion
      | false =>
          apply hservice.threadTo hlive TimerThread.noConfusion _ hsound
            (uses_of_unused rfl)
          · exact fun _ _ => TimerThread.noConfusion
          · intro hup
            rw [hflag] at hup
            cases hup
  | entering =>
      simp only [hthread, Option.some.injEq] at hstep
      subst hstep
      apply hservice.threadTo hlive TimerThread.noConfusion
        (fun _ => TimerThread.noConfusion) hsound
      · constructor
        · intro used hwaiting
          cases hwaiting
          rfl
        · intro used list hpass
          cases hpass
      · exact fun _ _ => TimerThread.noConfusion
  | waiting mutex =>
      simp only [hthread] at hstep
      split_ifs at hstep with hfree
      rw [Option.some.injEq] at hstep
      subst hstep
      exact hservice.takeThread hthread hfree
  | pass mutex list =>
      simp only [hthread, Option.some.injEq] at hstep
      subst hstep
      exact hservice.leavePass _ hthread

theorem Invariant.step (hservice : service.Invariant) {joins : Bool}
    {event : ServiceEvent} (hsound : service.EventSound event)
    (hstep : service.step joins event = some next) : next.Invariant := by
  cases event with
  | invoke caller op =>
      unfold TimerService.step at hstep
      simp only at hstep
      split_ifs at hstep with hidle
      rw [Option.some.injEq] at hstep
      subst hstep
      exact hservice.invoke hidle op
  | advance caller creates => exact hservice.advance hsound hstep
  | tick thread expired => exact hservice.tick hsound hstep

end Events

end TimerService

/-- In a run whose steps are all sound, the service is running in every state
in which it says so. -/
theorem timerService_runningWhenUp (joins : Bool)
    (events : List ServiceEvent)
    (hmeet : StepSystem.StepsMeet (TimerService.step joins)
      TimerService.EventSound .fresh events) :
    StepSystem.Along (TimerService.step joins) TimerService.RunningWhenUp
      .fresh events := by
  have hinvariant := StepSystem.along_of_stepsMeet
    (fun service event next hservice hsound hstep =>
      TimerService.Invariant.step hservice hsound hstep)
    TimerService.invariant_fresh hmeet
  exact hinvariant.mono fun service hservice => hservice.runningWhenUp

/-- The first create, through its whole init, and the look at the flag of the
thread that it has started. -/
def firstCreate : List ServiceEvent :=
  .invoke 0 .create :: List.replicate 10 (.advance 0 true) ++ [.tick 0 none]

theorem firstCreate_runningWhenUp :
    StepSystem.Along (TimerService.step true) TimerService.RunningWhenUp
        .fresh firstCreate ∧
      ∃ last, StepSystem.exec (TimerService.step true) .fresh firstCreate =
          some last ∧
        last.SaysSo ∧ last.threads 0 = .entering := by
  constructor
  · apply timerService_runningWhenUp true firstCreate
    refine ⟨trivial, fun _ hinvoked => ?_⟩
    cases hinvoked
    -- The flag is down, so the create begins an init.
    refine ⟨⟨fun _ hcall => TimerCall.noConfusion hcall,
      fun _ _ hcall => TimerCall.noConfusion hcall⟩, fun _ htested => ?_⟩
    cases htested
    have hunused : ∀ caller, ((TimerService.fresh.goTo 0 .create).goTo 0
        (.initMutex true)).calls caller = .idle ∨ caller = 0 := by
      intro caller
      cases caller with
      | zero => exact Or.inr rfl
      | succ other => exact Or.inl rfl
    refine ⟨⟨fun _ _ => ⟨fun caller => ?_, fun _ => rfl⟩,
      fun _ _ hcall => TimerCall.noConfusion hcall⟩, fun _ hmade => ?_⟩
    · rcases hunused caller with hidle | rfl
      · exact congrArg TimerCall.usesMutex hidle
      · rfl
    cases hmade
    refine ⟨⟨fun _ hcall => TimerCall.noConfusion hcall,
      fun _ _ hcall => TimerCall.noConfusion hcall⟩, fun _ hlocking => ?_⟩
    cases hlocking
    refine ⟨⟨fun _ hcall => TimerCall.noConfusion hcall,
      fun _ _ hcall => TimerCall.noConfusion hcall⟩, fun _ hentered => ?_⟩
    cases hentered
    -- The count is zero, and there is no thread yet.
    refine ⟨⟨fun _ hcall => TimerCall.noConfusion hcall,
      fun _ _ _ => Or.inr fun _ => rfl⟩, fun _ hcounted => ?_⟩
    cases hcounted
    refine ⟨⟨fun _ hcall => TimerCall.noConfusion hcall, nofun⟩,
      fun _ hcleared => ?_⟩
    cases hcleared
    refine ⟨⟨fun _ hcall => TimerCall.noConfusion hcall, nofun⟩,
      fun _ hcreated => ?_⟩
    cases hcreated
    refine ⟨⟨fun _ hcall => TimerCall.noConfusion hcall, nofun⟩,
      fun _ hraised => ?_⟩
    cases hraised
    refine ⟨⟨fun _ hcall => TimerCall.noConfusion hcall, nofun⟩,
      fun _ hlisted => ?_⟩
    cases hlisted
    refine ⟨⟨fun _ hcall => TimerCall.noConfusion hcall, nofun⟩,
      fun _ hleft => ?_⟩
    cases hleft
    -- The thread finds the flag raised.
    exact ⟨fun _ => Or.inl rfl, fun _ _ => trivial⟩
  · refine ⟨_, rfl, ⟨rfl, fun caller => ?_⟩, rfl⟩
    cases caller with
    | zero => rfl
    | succ other => rfl

/-- The first create up to the creation of the thread, the thread's look at
the flag, and the rest of the init. -/
def earlyLook : List ServiceEvent :=
  .invoke 0 .create :: List.replicate 7 (.advance 0 true) ++
    .tick 0 none :: List.replicate 3 (.advance 0 true)

/-- The thread that looks at the flag before it is raised has left its loop
when the service says that it is up. -/
theorem early_look_leaves :
    ¬ StepSystem.Along (TimerService.step true) TimerService.RunningWhenUp
      .fresh earlyLook := by
  intro halong
  have hlast : ∃ last, StepSystem.exec (TimerService.step true) .fresh
      earlyLook = some last ∧ last.flag = true ∧
        last.threads 0 = .left ∧ last.calls 0 = .lock .add ∧
          ∀ other, last.calls (other + 1) = .idle :=
    ⟨_, rfl, rfl, rfl, rfl, fun _ => rfl⟩
  rcases hlast with ⟨last, hexec, hflag, hleft, hcall, hidle⟩
  have hsays : last.SaysSo := by
    refine ⟨hflag, fun caller => ?_⟩
    cases caller with
    | zero =>
        rw [hcall]
        rfl
    | succ other =>
        rw [hidle other]
        rfl
  have hproperty := halong earlyLook [] last (List.append_nil _).symm hexec
  rcases hproperty hsays with ⟨thread, hruns⟩
  have hzero : thread = 0 := by
    by_contra hne
    have habsent := hruns.only 0 (Ne.symm hne)
    rw [hleft] at habsent
    cases habsent
  subst hzero
  exact hruns.inLoop.2 hleft

end EziotSdk

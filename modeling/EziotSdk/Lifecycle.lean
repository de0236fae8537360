import EziotSdk.KernelDefs
import EziotSdk.StepSystem

/-!
# The life cycle of the SDK

`ez_iot_init`, `ez_iot_start`, `ez_iot_stop` and `ez_iot_fini` move a status of
the application layer and the state of the micro kernel, each in its own
module, and a thread that drives the kernel.  Between two calls that thread
goes on: it sees the device come online or break, the platform may put the
device under access risk control, and then the thread ends.
-/

namespace EziotSdk

/-! ## State -/

inductive DevStatusT where
  | uninit
  | init
  | ready
  | online
  | disconnect
  | offline
  deriving DecidableEq, Repr

inductive EzErr where
  | succ
  | notInit
  | notReady
  | paramInvalid
  | internal
  | memory
  | inited
  | kv
  deriving DecidableEq, Repr

/-- A call of the interface: its error, and the status and the kernel state
before and after it. -/
structure CallRecord where
  error : EzErr
  before : DevStatusT × SdkState
  after : DevStatusT × SdkState
  deriving DecidableEq, Repr

structure LifeState where
  status : DevStatusT
  myState : SdkState
  accessRisk : Bool
  /-- `g_ez_kernel_thread` is not NULL. -/
  ezKernelThread : Bool
  /-- The thread has not returned. -/
  threadRunning : Bool
  calls : List CallRecord

namespace LifeState

/-- The process before the first call. -/
def fresh : LifeState where
  status := .uninit
  myState := .idle0
  accessRisk := false
  ezKernelThread := false
  threadRunning := false
  calls := []

def ezIotIsInited (state : LifeState) : Bool := state.status ≠ .uninit

def ezIotIsReady (state : LifeState) : Bool :=
  state.status ≠ .uninit && state.status ≠ .init

/-! ## The kernel -/

/-- `ezdev_sdk_kernel_init`; the kernel is zeroed before its parameters are
checked. -/
def ezdevSdkKernelInit (paramsValid : Bool) (state : LifeState) :
    EzdevSdkKernelError × LifeState :=
  if state.myState ≠ .idle0 ∧ state.myState ≠ .idle2 then
    (.invaldCall, state)
  else if paramsValid then
    (.succ, { state with myState := .idle, accessRisk := false })
  else (.paramsInvalid, { state with myState := .idle0, accessRisk := false })

def ezdevSdkKernelFini (state : LifeState) :
    EzdevSdkKernelError × LifeState :=
  if state.myState ≠ .idle ∧ state.myState ≠ .stop then (.invaldCall, state)
  else (.succ, { state with myState := .idle0, accessRisk := false })

def ezdevSdkKernelStart (state : LifeState) :
    EzdevSdkKernelError × LifeState :=
  if state.myState ≠ .idle ∧ state.myState ≠ .stop then (.invaldCall, state)
  else (.succ, { state with myState := .start })

/-- `ezdev_sdk_kernel_stop`; a command handled in its last yields may still
raise the access risk. -/
def ezdevSdkKernelStop (riskRaised : Bool) (state : LifeState) :
    EzdevSdkKernelError × LifeState :=
  if state.myState ≠ .start then (.invaldCall, state)
  else if state.accessRisk then (.dasForceDevRisk, state)
  else (.succ, { state with myState := .stop, accessRisk := riskRaised })

end LifeState

/-! ## The interface -/

/-- How the inner steps of `ez_iot_init` end. -/
structure InitInput where
  paramsValid : Bool
  kvInit : Bool
  kvGet : Bool
  kernelParamsValid : Bool
  extendLoad : EzdevSdkKernelError
  deriving DecidableEq, Repr

/-- All of them succeed. -/
def InitInput.smooth : InitInput := ⟨true, true, true, true, .succ⟩

namespace LifeState

def ezIotInit (input : InitInput) (state : LifeState) :
    EzErr × LifeState :=
  if state.ezIotIsInited then (.inited, state)
  else if !input.paramsValid then (.paramInvalid, state)
  else if !input.kvInit then (.kv, state)
  else if !input.kvGet then (.kv, state)
  else
    let kernel := state.ezdevSdkKernelInit input.kernelParamsValid
    if kernel.1 ≠ .succ then (.internal, kernel.2)
    else if input.extendLoad ≠ .succ then (.internal, kernel.2)
    else (.succ, { kernel.2 with status := .init })

/-- A failed creation stops the kernel again and falls through to the status
`ready`. -/
def ezIotStart (threadCreated riskRaised : Bool) (state : LifeState) :
    EzErr × LifeState :=
  if !state.ezIotIsInited then (.notInit, state)
  else
    let kernel := state.ezdevSdkKernelStart
    if kernel.1 ≠ .succ then (.internal, kernel.2)
    else if threadCreated then
      (.succ, { kernel.2 with
        ezKernelThread := true
        threadRunning := true
        status := .ready })
    else
      let stopped := kernel.2.ezdevSdkKernelStop riskRaised
      (.memory, { stopped.2 with ezKernelThread := false, status := .ready })

/-- `hal_thread_destroy` returns when the thread has. -/
def joinThread (state : LifeState) : LifeState :=
  if state.ezKernelThread then
    { state with ezKernelThread := false, threadRunning := false }
  else state

def ezIotStop (riskRaised : Bool) (state : LifeState) :
    EzErr × LifeState :=
  if !state.ezIotIsInited then (.notInit, state)
  else if !state.ezIotIsReady then (.notReady, state)
  else
    let kernel := state.joinThread.ezdevSdkKernelStop riskRaised
    if kernel.1 ≠ .succ then (.internal, kernel.2)
    else (.succ, { kernel.2 with status := .init })

def ezIotFini (state : LifeState) : LifeState :=
  if !state.ezIotIsInited then state
  else { state.ezdevSdkKernelFini.2 with status := .uninit }

end LifeState

inductive ApiCall where
  | init (input : InitInput)
  | start (threadCreated riskRaised : Bool)
  | stop (riskRaised : Bool)
  | fini
  deriving DecidableEq, Repr

/-- What a running thread does: `ez_kernel_event_notice` sets the status, a
command raises the access risk, and under that the thread ends. -/
inductive ThreadEvent where
  | online
  | disconnect
  | raiseRisk
  | exit
  deriving DecidableEq, Repr

/-- The thread's events before a call, and the call. -/
structure LifeStep where
  between : List ThreadEvent
  call : ApiCall
  deriving DecidableEq, Repr

namespace LifeState

def threadEvent (state : LifeState) (event : ThreadEvent) : LifeState :=
  if state.threadRunning then
    match event with
    | .online => { state with status := .online }
    | .disconnect => { state with status := .disconnect }
    | .raiseRisk => { state with accessRisk := true }
    | .exit =>
        if state.accessRisk then { state with threadRunning := false }
        else state
  else state

def perform (state : LifeState) : ApiCall → EzErr × LifeState
  | .init input => state.ezIotInit input
  | .start threadCreated riskRaised =>
      state.ezIotStart threadCreated riskRaised
  | .stop riskRaised => state.ezIotStop riskRaised
  | .fini => (.succ, state.ezIotFini)

def recorded (before : LifeState) (outcome : EzErr × LifeState) :
    LifeState :=
  { outcome.2 with
    calls := outcome.2.calls ++
      [{ error := outcome.1
         before := (before.status, before.myState)
         after := (outcome.2.status, outcome.2.myState) }] }

/-- The state in which a call begins. -/
def reached (state : LifeState) (between : List ThreadEvent) : LifeState :=
  between.foldl threadEvent state

def step (state : LifeState) (lifeStep : LifeStep) : Option LifeState :=
  let begun := state.reached lifeStep.between
  some (begun.recorded (begun.perform lifeStep.call))

/-! ## Agreement -/

/-- The status says what the kernel and the thread are doing. -/
structure Agree (state : LifeState) : Prop where
  uninit : state.status = .uninit ↔
    state.myState = .idle0 ∨ state.myState = .idle2
  init : state.status = .init ↔
    (state.myState = .idle ∨ state.myState = .stop) ∧
      state.threadRunning = false
  ready : state.ezIotIsReady = true ↔
    state.myState = .start ∧ state.threadRunning = true

structure Sound (state : LifeState) : Prop where
  agree : state.Agree
  undone : ∀ record ∈ state.calls, record.error ≠ .succ →
    record.after = record.before
  initSucceeds : state.status = .uninit →
    (state.ezIotInit InitInput.smooth).1 = .succ
  startSucceeds : state.status = .init →
    ∀ riskRaised, (state.ezIotStart true riskRaised).1 = .succ

/-- What a call must not run into. -/
def CallSound (begun : LifeState) : ApiCall → Prop
  | .init input => begun.status = .uninit → input.paramsValid = true →
      input.kvInit = true → input.kvGet = true →
        input.kernelParamsValid = true → input.extendLoad = .succ
  | .start threadCreated _ => begun.status = .init → threadCreated = true
  | .stop _ => begun.ezIotIsReady = true → begun.accessRisk = false
  | .fini => begun.ezIotIsReady = false

/-- The thread has not ended by itself since the last call, and the call is
one that the interface undoes when it fails. -/
def StepSound (state : LifeState) (lifeStep : LifeStep) : Prop :=
  (state.reached lifeStep.between).threadRunning = state.threadRunning ∧
    (state.reached lifeStep.between).CallSound lifeStep.call

/-! ## Phases -/

/-- The three situations between two calls in which everything agrees. -/
inductive Phase (state : LifeState) : Prop where
  | uninit (status : state.status = .uninit) (kernel : state.myState = .idle0)
      (thread : state.threadRunning = false)
      (handle : state.ezKernelThread = false)
  | init (status : state.status = .init)
      (kernel : state.myState = .idle ∨ state.myState = .stop)
      (thread : state.threadRunning = false)
      (handle : state.ezKernelThread = false)
  | ready (status : state.ezIotIsReady = true)
      (kernel : state.myState = .start)
      (thread : state.threadRunning = true)
      (handle : state.ezKernelThread = true)

/-- The thread has returned and nobody has noticed. -/
structure Ended (state : LifeState) : Prop where
  status : state.ezIotIsReady = true
  kernel : state.myState = .start
  thread : state.threadRunning = false
  risk : state.accessRisk = true

theorem isReady_iff (state : LifeState) :
    state.ezIotIsReady = true ↔
      state.status ≠ .uninit ∧ state.status ≠ .init := by
  simp [ezIotIsReady]

theorem Phase.agree {state : LifeState} (hphase : state.Phase) :
    state.Agree := by
  cases hphase with
  | uninit hstatus hkernel hthread hhandle =>
      constructor <;> simp [hstatus, hkernel, hthread, ezIotIsReady]
  | init hstatus hkernel hthread hhandle =>
      rcases hkernel with hkernel | hkernel <;>
        constructor <;> simp [hstatus, hkernel, hthread, ezIotIsReady]
  | ready hstatus hkernel hthread hhandle =>
      have hstatus' := (isReady_iff state).mp hstatus
      constructor <;> simp [hstatus, hstatus', hkernel, hthread]

theorem Phase.initSucceeds {state : LifeState} (hphase : state.Phase)
    (hstatus : state.status = .uninit) :
    (state.ezIotInit InitInput.smooth).1 = .succ := by
  have hkernel := hphase.agree.uninit.mp hstatus
  rcases hkernel with hkernel | hkernel <;>
    simp [ezIotInit, ezIotIsInited, ezdevSdkKernelInit, InitInput.smooth,
      hstatus, hkernel]

theorem Phase.startSucceeds {state : LifeState} (hphase : state.Phase)
    (hstatus : state.status = .init) (riskRaised : Bool) :
    (state.ezIotStart true riskRaised).1 = .succ := by
  have hkernel := (hphase.agree.init.mp hstatus).1
  rcases hkernel with hkernel | hkernel <;>
    simp [ezIotStart, ezIotIsInited, ezdevSdkKernelStart, hstatus, hkernel]

/-! ## Between two calls -/

theorem threadEvent_of_idle {state : LifeState}
    (hidle : state.threadRunning = false) (event : ThreadEvent) :
    state.threadEvent event = state := by
  simp [LifeState.threadEvent, hidle]

theorem reached_of_idle {state : LifeState}
    (hidle : state.threadRunning = false) (between : List ThreadEvent) :
    state.reached between = state := by
  induction between with
  | nil => rfl
  | cons event rest ih =>
      unfold LifeState.reached at ih ⊢
      rw [List.foldl_cons, threadEvent_of_idle hidle, ih]

theorem Phase.threadEvent {state : LifeState} (hphase : state.Phase)
    (event : ThreadEvent) :
    (state.threadEvent event).Phase ∨ (state.threadEvent event).Ended := by
  cases hphase with
  | uninit hstatus hkernel hthread hhandle =>
      rw [threadEvent_of_idle hthread]
      exact Or.inl (.uninit hstatus hkernel hthread hhandle)
  | init hstatus hkernel hthread hhandle =>
      rw [threadEvent_of_idle hthread]
      exact Or.inl (.init hstatus hkernel hthread hhandle)
  | ready hstatus hkernel hthread hhandle =>
      unfold LifeState.threadEvent
      rw [if_pos hthread]
      cases event with
      | online => exact Or.inl (.ready rfl hkernel hthread hhandle)
      | disconnect => exact Or.inl (.ready rfl hkernel hthread hhandle)
      | raiseRisk => exact Or.inl (.ready hstatus hkernel hthread hhandle)
      | exit =>
          cases hrisk : state.accessRisk with
          | false =>
              exact Or.inl (.ready hstatus hkernel hthread hhandle)
          | true =>
              exact Or.inr ⟨hstatus, hkernel, rfl, rfl⟩

theorem Phase.reached {state : LifeState} (hphase : state.Phase)
    (between : List ThreadEvent) :
    (state.reached between).Phase ∨ (state.reached between).Ended := by
  induction between generalizing state with
  | nil => exact Or.inl hphase
  | cons event rest ih =>
      have hcons : state.reached (event :: rest) =
          (state.threadEvent event).reached rest := rfl
      rw [hcons]
      rcases hphase.threadEvent event with hphase' | hended
      · exact ih hphase'
      · rw [reached_of_idle hended.thread]
        exact Or.inr hended

theorem threadEvent_kept (state : LifeState) (event : ThreadEvent) :
    (state.threadEvent event).calls = state.calls ∧
      (state.threadEvent event).myState = state.myState := by
  unfold LifeState.threadEvent
  cases event <;> dsimp only <;> split_ifs <;> exact ⟨rfl, rfl⟩

theorem reached_kept (state : LifeState) (between : List ThreadEvent) :
    (state.reached between).calls = state.calls ∧
      (state.reached between).myState = state.myState := by
  induction between generalizing state with
  | nil => exact ⟨rfl, rfl⟩
  | cons event rest ih =>
      have hcons : state.reached (event :: rest) =
          (state.threadEvent event).reached rest := rfl
      have hfirst := threadEvent_kept state event
      have hrest := ih (state.threadEvent event)
      rw [hcons]
      exact ⟨hrest.1.trans hfirst.1, hrest.2.trans hfirst.2⟩

theorem Phase.running_iff {state : LifeState} (hphase : state.Phase) :
    state.threadRunning = true ↔ state.myState = .start := by
  cases hphase with
  | uninit hstatus hkernel hthread hhandle => simp [hkernel, hthread]
  | init hstatus hkernel hthread hhandle =>
      rcases hkernel with hkernel | hkernel <;> simp [hkernel, hthread]
  | ready hstatus hkernel hthread hhandle => simp [hkernel, hthread]

/-- The phase lasts exactly as long as the thread does not end by itself. -/
theorem Phase.reached_iff {state : LifeState} (hphase : state.Phase)
    (between : List ThreadEvent) :
    (state.reached between).threadRunning = state.threadRunning ↔
      (state.reached between).Phase := by
  constructor
  · intro hsame
    rcases hphase.reached between with hreached | hended
    · exact hreached
    · rw [hended.thread] at hsame
      rw [reached_of_idle hsame.symm]
      exact hphase
  · intro hreached
    have hkernel := (reached_kept state between).2
    rw [Bool.eq_iff_iff, hreached.running_iff, hphase.running_iff, hkernel]

/-! ## The calls -/

/-- A call that keeps the agreement, and changes nothing when it fails. -/
structure Undoes (begun : LifeState) (outcome : EzErr × LifeState) :
    Prop where
  phase : outcome.2.Phase
  undone : outcome.1 ≠ .succ → outcome.2.status = begun.status ∧
    outcome.2.myState = begun.myState
  calls : outcome.2.calls = begun.calls

theorem Undoes.of_same {begun : LifeState} (hphase : begun.Phase)
    (error : EzErr) : Undoes begun (error, begun) :=
  ⟨hphase, fun _ => ⟨rfl, rfl⟩, rfl⟩

theorem isInited_iff (state : LifeState) :
    state.ezIotIsInited = true ↔ state.status ≠ .uninit := by
  simp [ezIotIsInited]

theorem Phase.ezIotInit {begun : LifeState} (hphase : begun.Phase)
    {input : InitInput} (hsound : begun.CallSound (.init input)) :
    Undoes begun (begun.ezIotInit input) := by
  cases hphase with
  | init hstatus hkernel hthread hhandle =>
      have hinited : begun.ezIotIsInited = true := by
        simp [ezIotIsInited, hstatus]
      rw [LifeState.ezIotInit, if_pos hinited]
      exact Undoes.of_same (.init hstatus hkernel hthread hhandle) _
  | ready hstatus hkernel hthread hhandle =>
      have hinited : begun.ezIotIsInited = true :=
        (isInited_iff begun).mpr ((isReady_iff begun).mp hstatus).1
      rw [LifeState.ezIotInit, if_pos hinited]
      exact Undoes.of_same (.ready hstatus hkernel hthread hhandle) _
  | uninit hstatus hkernel hthread hhandle =>
      have hphase : begun.Phase := .uninit hstatus hkernel hthread hhandle
      have hinited : begun.ezIotIsInited = false := by
        simp [ezIotIsInited, hstatus]
      have hload := hsound hstatus
      unfold LifeState.ezIotInit ezdevSdkKernelInit
      simp only [hinited, Bool.false_eq_true, if_false, hkernel, ne_eq,
        not_true_eq_false, false_and]
      cases hparams : input.paramsValid with
      | false => exact Undoes.of_same hphase _
      | true =>
          cases hkv : input.kvInit with
          | false => exact Undoes.of_same hphase _
          | true =>
              cases hget : input.kvGet with
              | false => exact Undoes.of_same hphase _
              | true =>
                  cases hvalid : input.kernelParamsValid with
                  | false =>
                      exact ⟨.uninit hstatus rfl hthread hhandle,
                        fun _ => ⟨rfl, hkernel.symm⟩, rfl⟩
                  | true =>
                      rw [hload hparams hkv hget hvalid]
                      exact ⟨.init rfl (Or.inl rfl) hthread hhandle,
                        fun herror => absurd rfl herror, rfl⟩

theorem Phase.ezIotStart {begun : LifeState} (hphase : begun.Phase)
    {threadCreated riskRaised : Bool}
    (hsound : begun.CallSound (.start threadCreated riskRaised)) :
    Undoes begun (begun.ezIotStart threadCreated riskRaised) := by
  cases hphase with
  | uninit hstatus hkernel hthread hhandle =>
      have hinited : begun.ezIotIsInited = false := by
        simp [ezIotIsInited, hstatus]
      simp only [LifeState.ezIotStart, hinited]
      exact Undoes.of_same (.uninit hstatus hkernel hthread hhandle) _
  | init hstatus hkernel hthread hhandle =>
      have hinited : begun.ezIotIsInited = true := by
        simp [ezIotIsInited, hstatus]
      rw [hsound hstatus]
      rcases hkernel with hkernel | hkernel <;>
        simp only [LifeState.ezIotStart, ezdevSdkKernelStart, hinited,
          hkernel] <;>
        exact ⟨.ready rfl rfl rfl rfl, fun herror => absurd rfl herror, rfl⟩
  | ready hstatus hkernel hthread hhandle =>
      have hinited : begun.ezIotIsInited = true :=
        (isInited_iff begun).mpr ((isReady_iff begun).mp hstatus).1
      simp only [LifeState.ezIotStart, ezdevSdkKernelStart, hinited, hkernel]
      exact Undoes.of_same (.ready hstatus hkernel hthread hhandle) _

theorem Phase.ezIotStop {begun : LifeState} (hphase : begun.Phase)
    {riskRaised : Bool} (hsound : begun.CallSound (.stop riskRaised)) :
    Undoes begun (begun.ezIotStop riskRaised) := by
  cases hphase with
  | uninit hstatus hkernel hthread hhandle =>
      have hinited : begun.ezIotIsInited = false := by
        simp [ezIotIsInited, hstatus]
      simp only [LifeState.ezIotStop, hinited]
      exact Undoes.of_same (.uninit hstatus hkernel hthread hhandle) _
  | init hstatus hkernel hthread hhandle =>
      have hinited : begun.ezIotIsInited = true := by
        simp [ezIotIsInited, hstatus]
      have hready : begun.ezIotIsReady = false := by
        simp [ezIotIsReady, hstatus]
      simp only [LifeState.ezIotStop, hinited, hready]
      exact Undoes.of_same (.init hstatus hkernel hthread hhandle) _
  | ready hstatus hkernel hthread hhandle =>
      have hinited : begun.ezIotIsInited = true :=
        (isInited_iff begun).mpr ((isReady_iff begun).mp hstatus).1
      simp only [LifeState.ezIotStop, joinThread, ezdevSdkKernelStop,
        hinited, hstatus, hhandle, hkernel, hsound hstatus]
      exact ⟨.init rfl (Or.inr rfl) rfl rfl,
        fun herror => absurd rfl herror, rfl⟩

theorem Phase.ezIotFini {begun : LifeState} (hphase : begun.Phase)
    (hsound : begun.CallSound .fini) :
    Undoes begun (.succ, begun.ezIotFini) := by
  cases hphase with
  | uninit hstatus hkernel hthread hhandle =>
      have hinited : begun.ezIotIsInited = false := by
        simp [ezIotIsInited, hstatus]
      simp only [LifeState.ezIotFini, hinited]
      exact Undoes.of_same (.uninit hstatus hkernel hthread hhandle) _
  | init hstatus hkernel hthread hhandle =>
      have hinited : begun.ezIotIsInited = true := by
        simp [ezIotIsInited, hstatus]
      rcases hkernel with hkernel | hkernel <;>
        simp only [LifeState.ezIotFini, ezdevSdkKernelFini, hinited,
          hkernel] <;>
        exact ⟨.uninit rfl rfl hthread hhandle,
          fun herror => absurd rfl herror, rfl⟩
  | ready hstatus hkernel hthread hhandle =>
      have hnot : begun.ezIotIsReady = false := hsound
      rw [hstatus] at hnot
      cases hnot

theorem Phase.perform {begun : LifeState} (hphase : begun.Phase)
    {call : ApiCall} (hsound : begun.CallSound call) :
    Undoes begun (begun.perform call) := by
  cases call with
  | init input => exact hphase.ezIotInit hsound
  | start threadCreated riskRaised => exact hphase.ezIotStart hsound
  | stop riskRaised => exact hphase.ezIotStop hsound
  | fini => exact hphase.ezIotFini hsound

/-! ## Where the agreement is lost -/

theorem not_agree_of_ready_idle {state : LifeState}
    (hready : state.ezIotIsReady = true)
    (hthread : state.threadRunning = false) : ¬ state.Agree := by
  intro hagree
  have hrunning := (hagree.ready.mp hready).2
  rw [hthread] at hrunning
  cases hrunning

theorem not_agree_of_uninit {state : LifeState}
    (hstatus : state.status = .uninit)
    (hzero : state.myState ≠ .idle0) (htwo : state.myState ≠ .idle2) :
    ¬ state.Agree := by
  intro hagree
  rcases hagree.uninit.mp hstatus with hkernel | hkernel
  · exact hzero hkernel
  · exact htwo hkernel

theorem kernelFini_refused {state : LifeState}
    (hkernel : state.myState = .start) :
    state.ezdevSdkKernelFini = (.invaldCall, state) := by
  simp [ezdevSdkKernelFini, hkernel]

theorem kernelStop_refused {state : LifeState}
    (hrisk : state.accessRisk = true) (riskRaised : Bool) :
    (state.ezdevSdkKernelStop riskRaised).1 ≠ .succ ∧
      (state.ezdevSdkKernelStop riskRaised).2 = state := by
  by_cases hkernel : state.myState = .start
  · simp [ezdevSdkKernelStop, hkernel, hrisk]
  · simp [ezdevSdkKernelStop, hkernel]

theorem joinThread_kept (state : LifeState) :
    state.joinThread.status = state.status ∧
      state.joinThread.accessRisk = state.accessRisk := by
  unfold joinThread
  split_ifs <;> exact ⟨rfl, rfl⟩

theorem not_agree_of_fini {state : LifeState}
    (hready : state.ezIotIsReady = true)
    (hkernel : state.myState = .start) : ¬ state.ezIotFini.Agree := by
  have hinited : state.ezIotIsInited = true :=
    (isInited_iff state).mpr ((isReady_iff state).mp hready).1
  have hstart : state.ezIotFini = { state with status := .uninit } := by
    simp [LifeState.ezIotFini, hinited, kernelFini_refused hkernel]
  have hkernel' : ({ state with status := .uninit } : LifeState).myState =
      .start := hkernel
  rw [hstart]
  apply not_agree_of_uninit rfl <;> rw [hkernel'] <;> nofun

/-- The thread is gone before the kernel refuses to stop. -/
theorem not_agree_of_stop {state : LifeState}
    (hready : state.ezIotIsReady = true)
    (hrisk : state.accessRisk = true)
    (hthread : state.joinThread.threadRunning = false)
    (riskRaised : Bool) : ¬ (state.ezIotStop riskRaised).2.Agree := by
  have hinited : state.ezIotIsInited = true :=
    (isInited_iff state).mpr ((isReady_iff state).mp hready).1
  have hkept := joinThread_kept state
  have hrefused := kernelStop_refused (hkept.2.trans hrisk) riskRaised
  have hstop : (state.ezIotStop riskRaised).2 = state.joinThread := by
    simp [LifeState.ezIotStop, hinited, hready, hrefused.1, hrefused.2]
  have hready' : state.joinThread.ezIotIsReady = true := by
    rw [isReady_iff, hkept.1, ← isReady_iff]
    exact hready
  rw [hstop]
  exact not_agree_of_ready_idle hready' hthread

theorem Phase.not_agree {begun : LifeState} (hphase : begun.Phase)
    {call : ApiCall} (hunsound : ¬ begun.CallSound call) :
    ¬ (begun.perform call).2.Agree := by
  cases call with
  | init input =>
      simp only [CallSound, Classical.not_imp] at hunsound
      obtain ⟨hstatus, hparams, hkv, hget, hvalid, hload⟩ := hunsound
      have hkernel : begun.myState = .idle0 ∨ begun.myState = .idle2 :=
        hphase.agree.uninit.mp hstatus
      have hinited : begun.ezIotIsInited = false := by
        simp [ezIotIsInited, hstatus]
      rcases hkernel with hkernel | hkernel <;>
        simp only [LifeState.perform, LifeState.ezIotInit, hinited, hparams,
          hkv, hget, ezdevSdkKernelInit, hkernel, hvalid, if_pos hload] <;>
        exact not_agree_of_uninit hstatus nofun nofun
  | start threadCreated riskRaised =>
      simp only [CallSound, Classical.not_imp, Bool.not_eq_true] at hunsound
      have hinit := hphase.agree.init.mp hunsound.1
      have hinited : begun.ezIotIsInited = true := by
        simp [ezIotIsInited, hunsound.1]
      have hstop : ∀ state : LifeState, ∀ riskRaised,
          (state.ezdevSdkKernelStop riskRaised).2.threadRunning =
            state.threadRunning := by
        intro state riskRaised
        unfold ezdevSdkKernelStop
        split_ifs <;> rfl
      rcases hinit.1 with hkernel | hkernel <;>
        simp only [LifeState.perform, LifeState.ezIotStart, hinited,
          ezdevSdkKernelStart, hkernel, hunsound.2] <;>
        exact not_agree_of_ready_idle rfl ((hstop _ _).trans hinit.2)
  | stop riskRaised =>
      simp only [CallSound, Classical.not_imp, Bool.not_eq_false] at hunsound
      cases hphase with
      | uninit hstatus hkernel hthread hhandle =>
          exact absurd hstatus ((isReady_iff begun).mp hunsound.1).1
      | init hstatus hkernel hthread hhandle =>
          exact absurd hstatus ((isReady_iff begun).mp hunsound.1).2
      | ready hstatus hkernel hthread hhandle =>
          have hjoined : begun.joinThread.threadRunning = false := by
            simp [joinThread, hhandle]
          exact not_agree_of_stop hstatus hunsound.2 hjoined riskRaised
  | fini =>
      simp only [CallSound, Bool.not_eq_false] at hunsound
      have hkernel := (hphase.agree.ready.mp hunsound).1
      exact not_agree_of_fini hunsound hkernel

/-- No call notices that the thread has ended, and none restores the
agreement. -/
theorem Ended.not_agree {begun : LifeState} (hended : begun.Ended)
    (call : ApiCall) : ¬ (begun.perform call).2.Agree := by
  have hinited : begun.ezIotIsInited = true :=
    (isInited_iff begun).mpr ((isReady_iff begun).mp hended.status).1
  have hready := hended.status
  have hkernel := hended.kernel
  have hunchanged := not_agree_of_ready_idle hready hended.thread
  cases call with
  | init input =>
      simp only [LifeState.perform, LifeState.ezIotInit, hinited]
      exact hunchanged
  | start threadCreated riskRaised =>
      simp only [LifeState.perform, LifeState.ezIotStart,
        ezdevSdkKernelStart, hinited, hkernel]
      exact hunchanged
  | stop riskRaised =>
      have hjoined : begun.joinThread.threadRunning = false := by
        unfold joinThread
        split_ifs
        · rfl
        · exact hended.thread
      exact not_agree_of_stop hready hended.risk hjoined riskRaised
  | fini => exact not_agree_of_fini hready hkernel

/-! ## Runs -/

/-- What every call keeps, as long as the condition on steps is met. -/
structure Invariant (state : LifeState) : Prop where
  phase : state.Phase
  undone : ∀ record ∈ state.calls, record.error ≠ .succ →
    record.after = record.before

theorem invariant_fresh : fresh.Invariant :=
  ⟨.uninit rfl rfl rfl rfl, fun _ hrecord => nomatch hrecord⟩

theorem Invariant.sound {state : LifeState} (hinv : state.Invariant) :
    state.Sound :=
  ⟨hinv.phase.agree, hinv.undone, hinv.phase.initSucceeds,
    fun hstatus riskRaised => hinv.phase.startSucceeds hstatus riskRaised⟩

theorem Phase.recorded {before : LifeState} {outcome : EzErr × LifeState}
    (hphase : outcome.2.Phase) : (before.recorded outcome).Phase := by
  cases hphase with
  | uninit hstatus hkernel hthread hhandle =>
      exact .uninit hstatus hkernel hthread hhandle
  | init hstatus hkernel hthread hhandle =>
      exact .init hstatus hkernel hthread hhandle
  | ready hstatus hkernel hthread hhandle =>
      exact .ready hstatus hkernel hthread hhandle

theorem Undoes.invariant {begun : LifeState} {outcome : EzErr × LifeState}
    (hundoes : Undoes begun outcome)
    (hundone : ∀ record ∈ begun.calls, record.error ≠ .succ →
      record.after = record.before) :
    (begun.recorded outcome).Invariant := by
  refine ⟨hundoes.phase.recorded, ?_⟩
  intro record hrecord herror
  simp only [LifeState.recorded, hundoes.calls, List.mem_append,
    List.mem_singleton] at hrecord
  rcases hrecord with hold | rfl
  · exact hundone record hold herror
  · have hsame := hundoes.undone herror
    exact Prod.ext hsame.1 hsame.2

theorem Invariant.step {state next : LifeState} {lifeStep : LifeStep}
    (hinv : state.Invariant) (hsound : state.StepSound lifeStep)
    (hstep : state.step lifeStep = some next) : next.Invariant := by
  simp only [LifeState.step, Option.some.injEq] at hstep
  have hbegun := (hinv.phase.reached_iff lifeStep.between).mp hsound.1
  have hcalls := (reached_kept state lifeStep.between).1
  rw [← hstep]
  apply (hbegun.perform hsound.2).invariant
  rw [hcalls]
  exact hinv.undone

theorem Invariant.not_sound {state : LifeState} {lifeStep : LifeStep}
    (hinv : state.Invariant) (hunsound : ¬ state.StepSound lifeStep) :
    ∃ next, state.step lifeStep = some next ∧ ¬ next.Sound := by
  refine ⟨_, rfl, ?_⟩
  have hlost : ¬ ((state.reached lifeStep.between).perform
      lifeStep.call).2.Agree := by
    rcases hinv.phase.reached lifeStep.between with hbegun | hended
    · have hthread := (hinv.phase.reached_iff lifeStep.between).mpr hbegun
      exact hbegun.not_agree fun hcall => hunsound ⟨hthread, hcall⟩
    · exact hended.not_agree lifeStep.call
  intro hsound
  have hagree := hsound.agree
  exact hlost ⟨hagree.uninit, hagree.init, hagree.ready⟩

/-- Status, kernel and thread agree after every call of a run, and every
failed call has been undone, exactly if each call of the run meets a thread
that has not ended by itself and is one that the interface undoes. -/
theorem sound_iff_stepSound (steps : List LifeStep) :
    StepSystem.Along LifeState.step LifeState.Sound fresh steps ↔
      StepSystem.StepsMeet LifeState.step StepSound fresh steps :=
  StepSystem.along_iff_stepsMeet
    (fun _ hinv => hinv.sound)
    (fun _ _ _ hinv hsound hstep => hinv.step hsound hstep)
    (fun _ _ hinv hunsound => hinv.not_sound hunsound)
    invariant_fresh

/-- Initialised, then started while no thread can be created: the call fails
with `ez_errno_memory`, the kernel is stopped and the status is `ready`. -/
theorem start_fails_ready :
    ¬ StepSystem.Along LifeState.step LifeState.Sound fresh
      [⟨[], .init InitInput.smooth⟩, ⟨[], .start false false⟩] := by
  intro halong
  have hsound := halong _ [] _ (List.append_nil _).symm rfl
  exact not_agree_of_ready_idle rfl rfl hsound.agree

end LifeState

end EziotSdk

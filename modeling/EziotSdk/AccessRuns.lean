import EziotSdk.AccessMachine

/-!
# Observing runs of the access state machine

A step is one call of a server function: the messages that arrive during it
and its result are determined by the input and by the state before it, and the
rest of the step is a function of the result.  Two observers of the trace are
followed through a step: the redirect that waits for the LBS, and the last
connectivity event.
-/

namespace EziotSdk

/-! ## Messages and results of a step -/

def Registration.submsgs (reg : Registration) : List KernelSubmsg :=
  if reg.login.result ≠ .succ then reg.login.submsgs
  else reg.login.submsgs ++ reg.subscribe.submsgs

def Registration.result (reg : Registration) : MkernelInternalError :=
  if reg.login.result ≠ .succ then reg.login.result else reg.subscribe.result

theorem deliver_append
    (lib : AccessLibraries) (first second : List KernelSubmsg)
    (kernel : AccessKernel) :
    deliver lib (first ++ second) kernel =
      deliver lib second (deliver lib first kernel) := by
  simp [deliver]

theorem Registration.perform_eq
    (lib : AccessLibraries) (reg : Registration) (kernel : AccessKernel) :
    reg.perform lib kernel = (reg.result, deliver lib reg.submsgs kernel) := by
  by_cases hlogin : reg.login.result = .succ
  · simp [Registration.perform, Registration.result, Registration.submsgs,
      DasCall.perform, hlogin, deliver_append]
  · simp [Registration.perform, Registration.result, Registration.submsgs,
      DasCall.perform, hlogin]

namespace YieldInput

/-- The messages and the result of the calls of `cnt_das_reg_do`. -/
def regSubmsgs (input : YieldInput) : List KernelSubmsg :=
  input.unreg ++ input.reg.submsgs ++
    if input.reg.result = mqttSessionExist then (input.fastReg 0).submsgs
    else []

def regResult (input : YieldInput) : MkernelInternalError :=
  if input.reg.result = mqttSessionExist then (input.fastReg 0).result
  else input.reg.result

/-- `das_yield` does not get to its send queue. -/
def broken (input : YieldInput) : Bool :=
  input.socketError || input.connectTimerExpired

def workSubmsgs (input : YieldInput) : List KernelSubmsg :=
  if input.broken then input.mqttYield
  else input.mqttYield ++ input.messageSend.submsgs

def workResult (input : YieldInput) : MkernelInternalError :=
  if input.broken ∨ input.messageSend.result = .dasNeedReconnect then
    .dasNeedReconnect
  else .succ

def fastSubmsgs (input : YieldInput) : ℕ → ℕ → List KernelSubmsg
  | 0, _ => []
  | count + 1, index =>
      if (input.fastReg index).result = .succ then
        (input.fastReg index).submsgs
      else (input.fastReg index).submsgs ++ input.fastSubmsgs count (index + 1)

def fastResult (input : YieldInput) :
    ℕ → ℕ → MkernelInternalError → MkernelInternalError
  | 0, _, last => last
  | count + 1, index, _ =>
      if (input.fastReg index).result = .succ then .succ
      else
        input.fastResult count (index + 1) (input.fastReg index).result

/-- What arrives while the step's handler talks to the DAS. -/
def submsgs (input : YieldInput) (kernel : AccessKernel) :
    List KernelSubmsg :=
  match kernel.cntState with
  | .unredirect => []
  | .redirected =>
      if waits kernel.dasRetryTimes input.timerExpired then []
      else input.regSubmsgs
  | .dasReged => input.workSubmsgs
  | .dasBreak =>
      if waits kernel.dasRetryTimes input.timerExpired then []
      else input.lightReg.submsgs
  | .dasFastReg | .dasFastRegV3 => input.fastSubmsgs 3 0

/-- What the step's handler is answered; `succ` where it makes no call. -/
def answer (input : YieldInput) (kernel : AccessKernel) :
    Option MkernelInternalError :=
  match kernel.cntState with
  | .unredirect =>
      if lbsWaits input kernel then some .succ
      else (cntStateLbsRedirect input kernel).map Prod.fst
  | .redirected =>
      some (if waits kernel.dasRetryTimes input.timerExpired then .succ
        else input.regResult)
  | .dasReged => some input.workResult
  | .dasBreak =>
      some (if waits kernel.dasRetryTimes input.timerExpired then .succ
        else input.lightReg.result)
  | .dasFastReg | .dasFastRegV3 => some (input.fastResult 3 0 .succ)

end YieldInput

theorem dasYield_eq
    (lib : AccessLibraries) (input : YieldInput) (kernel : AccessKernel) :
    dasYield lib input kernel =
      (input.workResult, deliver lib input.workSubmsgs kernel) := by
  unfold dasYield YieldInput.workResult YieldInput.workSubmsgs
  cases hsocket : input.socketError with
  | true => simp [YieldInput.broken, hsocket]
  | false =>
      cases htimer : input.connectTimerExpired with
      | true => simp [YieldInput.broken, hsocket, htimer]
      | false =>
          by_cases hsend : input.messageSend.result = .dasNeedReconnect <;>
            simp [YieldInput.broken, hsocket, htimer, hsend,
              DasCall.perform, deliver_append]

theorem cntDasRegDo_eq
    (lib : AccessLibraries) (input : YieldInput) (kernel : AccessKernel)
    (hcall : waits kernel.dasRetryTimes input.timerExpired = false) :
    cntDasRegDo lib input kernel =
      (input.regResult,
        dasRegDone input.regResult
          (deliver lib input.regSubmsgs kernel)) := by
  unfold cntDasRegDo cntStateDasReged dasUnreg YieldInput.regResult
    YieldInput.regSubmsgs
  by_cases hsession : input.reg.result = mqttSessionExist <;>
    simp [hcall, hsession, Registration.perform_eq, deliver_append]

theorem fastAttempts_eq
    (lib : AccessLibraries) (input : YieldInput) (count index : ℕ)
    (reached : MkernelInternalError × AccessKernel) :
    fastAttempts lib input.fastReg count index reached =
      (input.fastResult count index reached.1,
        deliver lib (input.fastSubmsgs count index) reached.2) := by
  induction count generalizing index reached with
  | zero => rfl
  | succ count ih =>
      unfold fastAttempts YieldInput.fastResult YieldInput.fastSubmsgs
      by_cases hsucc : (input.fastReg index).result = .succ
      · simp [Registration.perform_eq, hsucc]
      · simp [Registration.perform_eq, hsucc, ih, deliver_append]

/-! ## The observers -/

inductive Connectivity where
  | online
  | offline
  deriving DecidableEq, Repr

/-- The connectivity that a mark announces to the application. -/
def AccessMark.connectivity : AccessMark → Option Connectivity
  | .broadcast (.eventOnline _) => some .online
  | .broadcast (.eventSwitchover _) => some .online
  | .broadcast (.eventFastRegOnline _) => some .online
  | .broadcast .eventReconnectSuccess => some .online
  | .broadcast (.eventBreak _) => some .offline
  | _ => none

def lastConnectivity (trace : List AccessMark) : Option Connectivity :=
  trace.findSome? AccessMark.connectivity

/-- Every break was broadcast when the last connectivity event was of the
online type. -/
def BreaksTruthful : List AccessMark → Prop
  | [] => True
  | seen :: earlier =>
      (seen.connectivity = some .offline →
        lastConnectivity earlier = some .online) ∧ BreaksTruthful earlier

/-- The server of the last redirect command, as long as no LBS redirect has
succeeded against it. -/
def pendingRedirect : List AccessMark → Option CString
  | [] => none
  | .redirectHandled serverName :: _ => some serverName
  | .lbsRedirected serverName :: earlier =>
      (pendingRedirect earlier).filter (· ≠ serverName)
  | .broadcast _ :: earlier => pendingRedirect earlier
  | .registered :: earlier => pendingRedirect earlier

/-- The device never entered the registered state while a redirect was
pending. -/
def RedirectsEffective : List AccessMark → Prop
  | [] => True
  | seen :: earlier =>
      (seen = .registered → pendingRedirect earlier = none) ∧
        RedirectsEffective earlier

instance RedirectsEffective.decidable :
    (trace : List AccessMark) → Decidable (RedirectsEffective trace)
  | [] => isTrue trivial
  | _ :: earlier =>
      have := RedirectsEffective.decidable earlier
      inferInstanceAs (Decidable (_ ∧ _))

instance BreaksTruthful.decidable :
    (trace : List AccessMark) → Decidable (BreaksTruthful trace)
  | [] => isTrue trivial
  | _ :: earlier =>
      have := BreaksTruthful.decidable earlier
      inferInstanceAs (Decidable (_ ∧ _))

/-! ## What one message does -/

/-- The server to which a message redirects the device. -/
def redirectTarget (lib : AccessLibraries) (kernel : AccessKernel)
    (submsg : KernelSubmsg) : Option CString :=
  if submsg.msgDomainId = dasCmdDomain ∧
      (submsg.msgCommandId = 0x3479 ∨ submsg.msgCommandId = 0x491F) then
    match cenplt2pusetlbsdomainnamebydasreqXmlParser lib submsg.buf with
    | .ok domainName =>
        if kernel.serverName = domainName then none else some domainName
    | .error _ => none
  else none

/-- The state that `bus_handle_dev_redirect` leaves. -/
def redirectedTo (domainName : CString) (kernel : AccessKernel) :
    AccessKernel :=
  mark (.redirectHandled domainName)
    { kernel with
      serverName := domainName
      lbs := { kernel.lbs with
        serverIp := []
        masterKey := List.replicate 16 0 }
      entrState := .switchover
      cntState := .unredirect }

/-- A change that neither observer sees and that leaves the fields alone which
the handlers branch on. -/
structure Quiet (before after : AccessKernel) : Prop where
  cntState : after.cntState = before.cntState
  dasRetryTimes : after.dasRetryTimes = before.dasRetryTimes
  serverName : after.serverName = before.serverName
  connectivity :
    lastConnectivity after.trace = lastConnectivity before.trace
  truthful : BreaksTruthful after.trace ↔ BreaksTruthful before.trace
  pending : pendingRedirect after.trace = pendingRedirect before.trace
  effective :
    RedirectsEffective after.trace ↔ RedirectsEffective before.trace

theorem Quiet.refl (kernel : AccessKernel) : Quiet kernel kernel :=
  ⟨rfl, rfl, rfl, rfl, Iff.rfl, rfl, Iff.rfl⟩

theorem quiet_of_broadcast
    {before after : AccessKernel} {event : SdkKernelEvent}
    (hsilent : AccessMark.connectivity (.broadcast event) = none)
    (hcnt : after.cntState = before.cntState)
    (hretry : after.dasRetryTimes = before.dasRetryTimes)
    (hname : after.serverName = before.serverName)
    (htrace : after.trace = .broadcast event :: before.trace) :
    Quiet before after where
  cntState := hcnt
  dasRetryTimes := hretry
  serverName := hname
  connectivity := by simp [lastConnectivity, htrace, hsilent]
  truthful := by simp [BreaksTruthful, htrace, hsilent]
  pending := by simp [pendingRedirect, htrace]
  effective := by simp [RedirectsEffective, htrace]

theorem quiet_broadcastRuntimeErr
    (error : MkernelInternalError) (kernel : AccessKernel) :
    Quiet kernel (broadcastRuntimeErr error kernel) :=
  quiet_of_broadcast rfl rfl rfl rfl rfl

theorem quiet_setKeepaliveInterval
    (interval : ℕ) (announced : ℤ) (kernel : AccessKernel) :
    Quiet kernel (setKeepaliveInterval interval announced kernel) :=
  quiet_of_broadcast rfl rfl rfl rfl rfl

theorem quiet_busHandleDomainconfig
    (lib : AccessLibraries) (submsg : KernelSubmsg) (kernel : AccessKernel) :
    Quiet kernel (busHandleDomainconfig lib submsg kernel).2 := by
  unfold busHandleDomainconfig busHandleDomainconfigKeepalive
  split
  · exact Quiet.refl kernel
  · split
    · exact Quiet.refl kernel
    · split
      · exact Quiet.refl kernel
      · split
        · exact Quiet.refl kernel
        · exact quiet_setKeepaliveInterval _ _ kernel

theorem quiet_busHandleSetKeepliveTimeRsp
    (lib : AccessLibraries) (submsg : KernelSubmsg) (kernel : AccessKernel) :
    Quiet kernel (busHandleSetKeepliveTimeRsp lib submsg kernel).2 := by
  unfold busHandleSetKeepliveTimeRsp
  split
  · exact Quiet.refl kernel
  · split
    · split
      · exact quiet_setKeepaliveInterval _ _ kernel
      · exact Quiet.refl kernel
    · exact Quiet.refl kernel

theorem busHandleDevRedirect_cases
    (lib : AccessLibraries) (submsg : KernelSubmsg) (kernel : AccessKernel)
    (hdomain : submsg.msgDomainId = dasCmdDomain)
    (hcommand : submsg.msgCommandId = 0x3479 ∨
      submsg.msgCommandId = 0x491F) :
    (∃ domainName, redirectTarget lib kernel submsg = some domainName ∧
        (busHandleDevRedirect lib submsg kernel).2 =
          redirectedTo domainName kernel) ∨
      redirectTarget lib kernel submsg = none ∧
        (busHandleDevRedirect lib submsg kernel).2 = kernel := by
  unfold redirectTarget busHandleDevRedirect
  rw [if_pos ⟨hdomain, hcommand⟩]
  cases cenplt2pusetlbsdomainnamebydasreqXmlParser lib submsg.buf with
  | error error => exact Or.inr ⟨rfl, rfl⟩
  | ok domainName =>
      by_cases hsame : kernel.serverName = domainName
      · exact Or.inr (by simp [hsame])
      · exact Or.inl ⟨domainName, by simp [hsame, redirectedTo]⟩

/-- Everything that the handling of one message can do. -/
theorem accessHandleSubMsg_cases
    (lib : AccessLibraries) (kernel : AccessKernel) (submsg : KernelSubmsg) :
    (∃ domainName, redirectTarget lib kernel submsg = some domainName ∧
        accessHandleSubMsg lib kernel submsg =
          redirectedTo domainName kernel) ∨
      redirectTarget lib kernel submsg = none ∧
        Quiet kernel (accessHandleSubMsg lib kernel submsg) := by
  unfold accessHandleSubMsg
  by_cases hdomain : submsg.msgDomainId = dasCmdDomain
  · rw [if_pos hdomain]
    by_cases hcommand :
        submsg.msgCommandId = 0x3479 ∨ submsg.msgCommandId = 0x491F
    · have hhandle : accessDomainBusHandle lib submsg kernel =
          busHandleDevRedirect lib submsg kernel := by
        rcases hcommand with hcommand | hcommand <;>
          simp [accessDomainBusHandle, hcommand]
      rw [hhandle]
      rcases busHandleDevRedirect_cases lib submsg kernel hdomain hcommand with
        hredirect | ⟨hnone, hsame⟩
      · exact Or.inl hredirect
      · rw [hsame]
        exact Or.inr ⟨hnone, Quiet.refl kernel⟩
    · have hnone : redirectTarget lib kernel submsg = none := by
        unfold redirectTarget
        rw [if_neg (fun hboth => hcommand hboth.2)]
      refine Or.inr ⟨hnone, ?_⟩
      unfold accessDomainBusHandle
      rw [if_neg hcommand]
      split_ifs
      · exact quiet_busHandleDomainconfig lib submsg kernel
      · exact ⟨rfl, rfl, rfl, rfl, Iff.rfl, rfl, Iff.rfl⟩
      · exact quiet_of_broadcast rfl rfl rfl rfl rfl
      · exact quiet_busHandleSetKeepliveTimeRsp lib submsg kernel
      · exact Quiet.refl kernel
  · rw [if_neg hdomain]
    have hnone : redirectTarget lib kernel submsg = none := by
      unfold redirectTarget
      rw [if_neg (fun hboth => hdomain hboth.1)]
    exact Or.inr ⟨hnone, Quiet.refl kernel⟩

/-! ## What the messages of a call do -/

/-- Some message of the list redirects the device when its turn comes. -/
def redirectHandled (lib : AccessLibraries) :
    List KernelSubmsg → AccessKernel → Bool
  | [], _ => false
  | submsg :: rest, kernel =>
      (redirectTarget lib kernel submsg).isSome ||
        redirectHandled lib rest (accessHandleSubMsg lib kernel submsg)

theorem deliver_cons
    (lib : AccessLibraries) (submsg : KernelSubmsg)
    (rest : List KernelSubmsg) (kernel : AccessKernel) :
    deliver lib (submsg :: rest) kernel =
      deliver lib rest (accessHandleSubMsg lib kernel submsg) := rfl

/-- The connectivity observer does not see the messages of a call. -/
structure Unseen (before after : AccessKernel) : Prop where
  cntState : after.cntState = before.cntState ∨ after.cntState = .unredirect
  dasRetryTimes : after.dasRetryTimes = before.dasRetryTimes
  connectivity :
    lastConnectivity after.trace = lastConnectivity before.trace
  truthful : BreaksTruthful after.trace ↔ BreaksTruthful before.trace

theorem unseen_accessHandleSubMsg
    (lib : AccessLibraries) (kernel : AccessKernel) (submsg : KernelSubmsg) :
    Unseen kernel (accessHandleSubMsg lib kernel submsg) := by
  rcases accessHandleSubMsg_cases lib kernel submsg with
    ⟨domainName, _, hafter⟩ | ⟨_, hquiet⟩
  · rw [hafter]
    constructor
    · exact Or.inr rfl
    · rfl
    · rfl
    · simp [redirectedTo, mark, BreaksTruthful, AccessMark.connectivity]
  · exact ⟨Or.inl hquiet.cntState, hquiet.dasRetryTimes,
      hquiet.connectivity, hquiet.truthful⟩

theorem unseen_deliver
    (lib : AccessLibraries) (submsgs : List KernelSubmsg)
    (kernel : AccessKernel) :
    Unseen kernel (deliver lib submsgs kernel) := by
  induction submsgs generalizing kernel with
  | nil => exact ⟨Or.inl rfl, rfl, rfl, Iff.rfl⟩
  | cons submsg rest ih =>
      have hfirst := unseen_accessHandleSubMsg lib kernel submsg
      have hrest := ih (accessHandleSubMsg lib kernel submsg)
      rw [deliver_cons]
      constructor
      · rcases hrest.cntState with hsame | hredirect
        · rw [hsame]
          exact hfirst.cntState
        · exact Or.inr hredirect
      · rw [hrest.dasRetryTimes, hfirst.dasRetryTimes]
      · rw [hrest.connectivity, hfirst.connectivity]
      · rw [hrest.truthful, hfirst.truthful]

/-- A pending redirect keeps the machine in front of the LBS, with the server
that it named. -/
def Pends (kernel : AccessKernel) : Prop :=
  ∀ serverName, pendingRedirect kernel.trace = some serverName →
    kernel.cntState = .unredirect ∧ kernel.serverName = serverName

structure RedirectInvariant (kernel : AccessKernel) : Prop where
  effective : RedirectsEffective kernel.trace
  pends : Pends kernel

theorem redirectInvariant_redirectedTo
    (domainName : CString) {kernel : AccessKernel}
    (heffective : RedirectsEffective kernel.trace) :
    RedirectInvariant (redirectedTo domainName kernel) where
  effective := by
    simpa [redirectedTo, mark, RedirectsEffective] using heffective
  pends := by
    intro serverName hpending
    have hname : domainName = serverName := by
      simpa [redirectedTo, mark, pendingRedirect] using hpending
    exact ⟨rfl, hname⟩

theorem RedirectInvariant.quiet
    {before after : AccessKernel} (hquiet : Quiet before after)
    (hinv : RedirectInvariant before) : RedirectInvariant after where
  effective := hquiet.effective.mpr hinv.effective
  pends := by
    intro serverName hpending
    rw [hquiet.pending] at hpending
    rw [hquiet.cntState, hquiet.serverName]
    exact hinv.pends serverName hpending

/-- Handling messages keeps the invariant, whatever they are. -/
theorem RedirectInvariant.deliver
    (lib : AccessLibraries) (submsgs : List KernelSubmsg)
    {kernel : AccessKernel} (hinv : RedirectInvariant kernel) :
    RedirectInvariant (deliver lib submsgs kernel) := by
  induction submsgs generalizing kernel with
  | nil => exact hinv
  | cons submsg rest ih =>
      rw [deliver_cons]
      apply ih
      rcases accessHandleSubMsg_cases lib kernel submsg with
        ⟨domainName, _, hafter⟩ | ⟨_, hquiet⟩
      · rw [hafter]
        exact redirectInvariant_redirectedTo domainName hinv.effective
      · exact hinv.quiet hquiet

/-- Without a redirect among the messages they stay unnoticed. -/
theorem pendingRedirect_deliver
    (lib : AccessLibraries) (submsgs : List KernelSubmsg)
    (kernel : AccessKernel)
    (hnone : redirectHandled lib submsgs kernel = false) :
    pendingRedirect (deliver lib submsgs kernel).trace =
      pendingRedirect kernel.trace := by
  induction submsgs generalizing kernel with
  | nil => rfl
  | cons submsg rest ih =>
      simp only [redirectHandled, Bool.or_eq_false_iff,
        Option.isSome_eq_false_iff, Option.isNone_iff_eq_none] at hnone
      rcases accessHandleSubMsg_cases lib kernel submsg with
        ⟨domainName, htarget, _⟩ | ⟨_, hquiet⟩
      · rw [hnone.1] at htarget
        cases htarget
      · rw [deliver_cons, ih _ hnone.2, hquiet.pending]

/-! ## The LBS exchange -/

theorem lbsAttempt_left
    {input : YieldInput} {nUpper : Bool} {kernel : AccessKernel}
    {outcome : MkernelInternalError × AccessKernel}
    (hattempt : lbsAttempt input nUpper kernel = some outcome) :
    ∃ left, outcome.2 = { kernel with lbs := left } := by
  unfold lbsAttempt at hattempt
  obtain ⟨result, _, houtcome⟩ := Option.map_eq_some_iff.mp hattempt
  exact ⟨forgetRefused result.1 result.2, by rw [← houtcome]⟩

/-- An LBS exchange changes the LBS part of the kernel only. -/
theorem cntStateLbsRedirect_left
    {input : YieldInput} {kernel : AccessKernel}
    {outcome : MkernelInternalError × AccessKernel}
    (hexchange : cntStateLbsRedirect input kernel = some outcome) :
    ∃ left, outcome.2 = { kernel with lbs := left } := by
  unfold cntStateLbsRedirect at hexchange
  cases hfirst : lbsAttempt input true kernel with
  | none => simp [hfirst] at hexchange
  | some first =>
      obtain ⟨left, hleft⟩ := lbsAttempt_left hfirst
      rw [hfirst] at hexchange
      by_cases hsign : first.1 = platformLbsSigncheckError
      · simp only [hsign, if_true] at hexchange
        obtain ⟨again, hagain⟩ := lbsAttempt_left hexchange
        exact ⟨again, by rw [hagain, hleft]⟩
      · simp only [hsign, if_false, Option.some.injEq] at hexchange
        exact ⟨left, by rw [← hexchange, hleft]⟩

/-! ## A device on which nothing fails -/

/-- Libraries for which the buffer of a redirect command is the name of the
server. -/
def plainAccessLibraries : AccessLibraries where
  parse := fun _ => none
  domainNameText := fun buf => some (some (textOfBytes buf))

/-- A step in which every call succeeds and no message arrives. -/
def smoothInput : YieldInput where
  timerExpired := true
  lbs := fun _ kernel => some (.succ, kernel)
  unreg := []
  reg := ⟨⟨[], .succ⟩, ⟨[], .succ⟩⟩
  lightReg := ⟨[], .succ⟩
  fastReg := fun _ => ⟨⟨[], .succ⟩, ⟨[], .succ⟩⟩
  mqttYield := []
  socketError := false
  connectTimerExpired := false
  messageSend := ⟨[], .queueEmpty⟩

/-- A device with its keys, in front of the LBS `a`. -/
def freshKernel : AccessKernel :=
  AccessKernel.init "a".toList ⟨0, 0, [], []⟩ (List.replicate 32 0x41)
    (List.replicate 16 0x42) []

end EziotSdk

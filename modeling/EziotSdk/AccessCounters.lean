import EziotSdk.AccessRuns

/-!
# The counters of the access state machine

`lbs_redirect_times` and `das_retry_times` are 8-bit fields that schedule the
attempts.  Handlers increase, cap and reset them, and the messages of the
platform, the network option and `stop_yield` move the machine between the
handlers without touching them.
-/

namespace EziotSdk

/-- The bounds of the counters, with room for one increment in 8 bits. -/
structure CountersBounded (kernel : AccessKernel) : Prop where
  lbsRedirectTimes : kernel.lbsRedirectTimes ≤ 60
  dasRetryTimes : kernel.dasRetryTimes ≤ 5
  lbsFits : kernel.lbsRedirectTimes + 1 < 2 ^ 8
  dasFits : kernel.dasRetryTimes + 1 < 2 ^ 8
  reged : kernel.cntState = .dasReged →
    kernel.lbsRedirectTimes = 0 ∧ kernel.dasRetryTimes = 0

theorem CountersBounded.of_le
    {kernel : AccessKernel} (hlbs : kernel.lbsRedirectTimes ≤ 60)
    (hdas : kernel.dasRetryTimes ≤ 5)
    (hreged : kernel.cntState = .dasReged →
      kernel.lbsRedirectTimes = 0 ∧ kernel.dasRetryTimes = 0) :
    CountersBounded kernel where
  lbsRedirectTimes := hlbs
  dasRetryTimes := hdas
  lbsFits := by omega
  dasFits := by omega
  reged := hreged

/-- Both counters are reset. -/
theorem CountersBounded.of_reset
    {kernel : AccessKernel} (hlbs : kernel.lbsRedirectTimes = 0)
    (hdas : kernel.dasRetryTimes = 0) : CountersBounded kernel := by
  apply CountersBounded.of_le
  · omega
  · omega
  · intro _
    exact ⟨hlbs, hdas⟩

/-! ## Changes that leave the counters alone -/

/-- The counters stay, and the machine does not become registered. -/
structure CountersKept (before after : AccessKernel) : Prop where
  lbsRedirectTimes : after.lbsRedirectTimes = before.lbsRedirectTimes
  dasRetryTimes : after.dasRetryTimes = before.dasRetryTimes
  reged : after.cntState = .dasReged → before.cntState = .dasReged

theorem CountersKept.refl (kernel : AccessKernel) :
    CountersKept kernel kernel :=
  ⟨rfl, rfl, id⟩

theorem CountersKept.trans
    {before middle after : AccessKernel}
    (hfirst : CountersKept before middle)
    (hsecond : CountersKept middle after) : CountersKept before after where
  lbsRedirectTimes :=
    hsecond.lbsRedirectTimes.trans hfirst.lbsRedirectTimes
  dasRetryTimes := hsecond.dasRetryTimes.trans hfirst.dasRetryTimes
  reged := fun hafter => hfirst.reged (hsecond.reged hafter)

theorem CountersBounded.kept
    {before after : AccessKernel} (hbounded : CountersBounded before)
    (hkept : CountersKept before after) : CountersBounded after := by
  apply CountersBounded.of_le
  · rw [hkept.lbsRedirectTimes]
    exact hbounded.lbsRedirectTimes
  · rw [hkept.dasRetryTimes]
    exact hbounded.dasRetryTimes
  · intro hafter
    rw [hkept.lbsRedirectTimes, hkept.dasRetryTimes]
    exact hbounded.reged (hkept.reged hafter)

theorem countersKept_busHandleDevRedirect
    (lib : AccessLibraries) (submsg : KernelSubmsg) (kernel : AccessKernel) :
    CountersKept kernel (busHandleDevRedirect lib submsg kernel).2 := by
  unfold busHandleDevRedirect
  split
  · exact CountersKept.refl kernel
  · split
    · exact CountersKept.refl kernel
    · exact ⟨rfl, rfl, by simp [mark]⟩

theorem countersKept_busHandleDomainconfig
    (lib : AccessLibraries) (submsg : KernelSubmsg) (kernel : AccessKernel) :
    CountersKept kernel (busHandleDomainconfig lib submsg kernel).2 := by
  unfold busHandleDomainconfig busHandleDomainconfigKeepalive
  split
  · exact CountersKept.refl kernel
  · split
    · exact CountersKept.refl kernel
    · split
      · exact CountersKept.refl kernel
      · split
        · exact CountersKept.refl kernel
        · exact ⟨rfl, rfl, id⟩

theorem countersKept_busHandleSetKeepliveTimeRsp
    (lib : AccessLibraries) (submsg : KernelSubmsg) (kernel : AccessKernel) :
    CountersKept kernel (busHandleSetKeepliveTimeRsp lib submsg kernel).2 := by
  unfold busHandleSetKeepliveTimeRsp
  split
  · exact CountersKept.refl kernel
  · split
    · split
      · exact ⟨rfl, rfl, id⟩
      · exact CountersKept.refl kernel
    · exact CountersKept.refl kernel

theorem countersKept_accessHandleSubMsg
    (lib : AccessLibraries) (kernel : AccessKernel) (submsg : KernelSubmsg) :
    CountersKept kernel (accessHandleSubMsg lib kernel submsg) := by
  unfold accessHandleSubMsg accessDomainBusHandle
  split_ifs
  · exact countersKept_busHandleDomainconfig lib submsg kernel
  · exact ⟨rfl, rfl, id⟩
  · exact ⟨rfl, rfl, id⟩
  · exact countersKept_busHandleSetKeepliveTimeRsp lib submsg kernel
  · exact countersKept_busHandleDevRedirect lib submsg kernel
  · exact CountersKept.refl kernel
  · exact CountersKept.refl kernel

theorem countersKept_deliver
    (lib : AccessLibraries) (submsgs : List KernelSubmsg)
    (kernel : AccessKernel) :
    CountersKept kernel (deliver lib submsgs kernel) := by
  induction submsgs generalizing kernel with
  | nil => exact CountersKept.refl kernel
  | cons submsg rest ih =>
      rw [deliver_cons]
      exact (countersKept_accessHandleSubMsg lib kernel submsg).trans
        (ih (accessHandleSubMsg lib kernel submsg))

theorem CountersBounded.deliver
    (lib : AccessLibraries) (submsgs : List KernelSubmsg)
    {kernel : AccessKernel} (hbounded : CountersBounded kernel) :
    CountersBounded (deliver lib submsgs kernel) :=
  hbounded.kept (countersKept_deliver lib submsgs kernel)

/-! ## What the handlers make of their results -/

theorem CountersBounded.lbsRedirectDone
    {kernel : AccessKernel} (hbounded : CountersBounded kernel)
    (hstate : kernel.cntState ≠ .dasReged)
    (sdkError : MkernelInternalError) :
    CountersBounded (lbsRedirectDone sdkError kernel) := by
  unfold EziotSdk.lbsRedirectDone
  dsimp only
  split_ifs
  · exact CountersBounded.of_reset rfl rfl
  · apply CountersBounded.of_le
    · simp
    · exact hbounded.dasRetryTimes
    · intro hreged
      exact absurd hreged hstate
  · apply CountersBounded.of_le
    · exact min_le_right _ 60
    · exact hbounded.dasRetryTimes
    · intro hreged
      exact absurd hreged hstate

/-- A failed attempt at the DAS is counted, up to the limit that sends the
machine back to the LBS. -/
theorem CountersBounded.retried
    {kernel : AccessKernel} (hbounded : CountersBounded kernel)
    (hstate : kernel.cntState ≠ .dasReged)
    (hlimit : kernel.dasRetryTimes < 5) :
    CountersBounded { kernel with
      dasRetryTimes := kernel.dasRetryTimes + 1 } := by
  apply CountersBounded.of_le
  · exact hbounded.lbsRedirectTimes
  · exact hlimit
  · intro hreged
    exact absurd hreged hstate

theorem CountersBounded.dasRegDone
    {kernel : AccessKernel} (hbounded : CountersBounded kernel)
    (hstate : kernel.cntState ≠ .dasReged)
    (sdkError : MkernelInternalError) :
    CountersBounded (dasRegDone sdkError kernel) := by
  unfold EziotSdk.dasRegDone
  dsimp only
  split_ifs with hsucc hswitchover hgives
  · exact CountersBounded.of_reset rfl rfl
  · exact CountersBounded.of_reset rfl rfl
  · exact CountersBounded.of_reset rfl rfl
  · have hwarned : CountersBounded (broadcastRuntimeErr sdkError kernel) :=
      hbounded.kept ⟨rfl, rfl, id⟩
    exact hwarned.retried hstate (Nat.lt_of_not_le hgives)

theorem CountersBounded.dasRetryDone
    {kernel : AccessKernel} (hbounded : CountersBounded kernel)
    (hstate : kernel.cntState ≠ .dasReged)
    (sdkError : MkernelInternalError) :
    CountersBounded (dasRetryDone sdkError kernel) := by
  unfold EziotSdk.dasRetryDone
  dsimp only
  split_ifs with hsucc hgives
  · exact CountersBounded.of_reset rfl rfl
  · exact CountersBounded.of_reset rfl rfl
  · have hwarned : CountersBounded (broadcastRuntimeErr sdkError kernel) :=
      hbounded.kept ⟨rfl, rfl, id⟩
    have hbelow := Nat.lt_of_not_le hgives
    exact hwarned.retried hstate (Nat.lt_trans hbelow (by decide))

theorem CountersBounded.dasWorkDone
    {kernel : AccessKernel} (hbounded : CountersBounded kernel)
    (sdkError : MkernelInternalError) :
    CountersBounded (dasWorkDone sdkError kernel) := by
  unfold EziotSdk.dasWorkDone
  dsimp only
  split_ifs
  · exact hbounded.kept ⟨rfl, rfl, by simp⟩
  · exact hbounded.kept ⟨rfl, rfl, id⟩
  · exact hbounded

theorem countersBounded_fastRegDone
    (sdkError : MkernelInternalError) (kernel : AccessKernel) :
    CountersBounded (fastRegDone sdkError kernel) := by
  unfold fastRegDone
  dsimp only
  split_ifs
  · exact CountersBounded.of_reset rfl rfl
  · exact CountersBounded.of_reset rfl rfl

/-! ## Steps and runs -/

theorem CountersBounded.cntLbsRedirectDo
    {input : YieldInput} {kernel : AccessKernel}
    {outcome : MkernelInternalError × AccessKernel}
    (hbounded : CountersBounded kernel)
    (hstate : kernel.cntState = .unredirect)
    (hrun : cntLbsRedirectDo input kernel = some outcome) :
    CountersBounded outcome.2 := by
  unfold EziotSdk.cntLbsRedirectDo at hrun
  split_ifs at hrun
  · cases hrun
    exact hbounded
  · obtain ⟨reached, hexchange, houtcome⟩ :=
      Option.map_eq_some_iff.mp hrun
    obtain ⟨left, hleft⟩ := cntStateLbsRedirect_left hexchange
    rw [← houtcome]
    apply CountersBounded.lbsRedirectDone
    · rw [hleft]
      exact hbounded.kept ⟨rfl, rfl, id⟩
    · simp [hleft, hstate]

/-- The messages of a call do not make the machine registered. -/
theorem not_reged_of_deliver
    (lib : AccessLibraries) (submsgs : List KernelSubmsg)
    {kernel : AccessKernel} (hstate : kernel.cntState ≠ .dasReged) :
    (deliver lib submsgs kernel).cntState ≠ .dasReged := by
  intro hreged
  exact hstate ((countersKept_deliver lib submsgs kernel).reged hreged)

theorem CountersBounded.cntStateHandler
    {lib : AccessLibraries} {input : YieldInput} {kernel : AccessKernel}
    {outcome : MkernelInternalError × AccessKernel}
    (hbounded : CountersBounded kernel)
    (hrun : cntStateHandler lib input kernel = some outcome) :
    CountersBounded outcome.2 := by
  unfold EziotSdk.cntStateHandler at hrun
  cases hstate : kernel.cntState with
  | unredirect =>
      simp only [hstate] at hrun
      exact hbounded.cntLbsRedirectDo hstate hrun
  | redirected =>
      simp only [hstate, Option.some.injEq] at hrun
      subst hrun
      cases hwaits : waits kernel.dasRetryTimes input.timerExpired with
      | true =>
          have hsame : cntDasRegDo lib input kernel = (.succ, kernel) := by
            simp [cntDasRegDo, hwaits]
          rw [hsame]
          exact hbounded
      | false =>
          rw [cntDasRegDo_eq lib input kernel hwaits]
          apply CountersBounded.dasRegDone
          · exact hbounded.deliver lib input.regSubmsgs
          · exact not_reged_of_deliver lib _ (by simp [hstate])
  | dasReged =>
      simp only [hstate, Option.some.injEq] at hrun
      subst hrun
      unfold cntDasWorkDo
      rw [dasYield_eq]
      exact (hbounded.deliver lib input.workSubmsgs).dasWorkDone
        input.workResult
  | dasBreak =>
      simp only [hstate, Option.some.injEq] at hrun
      subst hrun
      unfold cntDasRetryDo
      cases hwaits : waits kernel.dasRetryTimes input.timerExpired with
      | true => exact hbounded
      | false =>
          simp only [Bool.false_eq_true, if_false]
          apply CountersBounded.dasRetryDone
          · exact hbounded.deliver lib _
          · exact not_reged_of_deliver lib _ (by simp [hstate])
  | dasFastReg =>
      simp only [hstate, Option.some.injEq] at hrun
      subst hrun
      exact countersBounded_fastRegDone _ _
  | dasFastRegV3 =>
      simp only [hstate, Option.some.injEq] at hrun
      subst hrun
      exact countersBounded_fastRegDone _ _

theorem CountersBounded.afterHandler
    {kernel : AccessKernel} (hbounded : CountersBounded kernel)
    (sdkError : MkernelInternalError) :
    CountersBounded (afterHandler sdkError kernel) := by
  unfold EziotSdk.afterHandler
  split_ifs
  · exact hbounded.kept ⟨rfl, rfl, id⟩
  · exact CountersBounded.of_reset rfl rfl
  · exact hbounded

theorem CountersBounded.accessStep
    {lib : AccessLibraries} {kernel next : AccessKernel}
    {event : AccessEvent} (hbounded : CountersBounded kernel)
    (hstep : accessStep lib kernel event = some next) :
    CountersBounded next := by
  cases event with
  | yield input =>
      obtain ⟨outcome, hyield, rfl⟩ := Option.map_eq_some_iff.mp hstep
      unfold cntStateYield at hyield
      split_ifs at hyield
      · cases hyield
        exact hbounded
      · obtain ⟨handled, hhandler, rfl⟩ := Option.map_eq_some_iff.mp hyield
        exact (hbounded.cntStateHandler hhandler).afterHandler handled.1
  | setNetOption optname optval =>
      cases hstep
      unfold ezdevSdkKernelSetNetOption
      split
      · split
        · exact hbounded
        · split
          · exact hbounded
          · exact hbounded
      · split
        · split
          · exact hbounded.kept ⟨rfl, rfl, by simp⟩
          · exact hbounded
        · exact hbounded
  | stop submsgs =>
      cases hstep
      exact (hbounded.deliver lib submsgs).kept
        ⟨rfl, rfl, fun hreged => by cases hreged⟩

/-- The counters of every reachable state. -/
theorem accessKernel_countersBounded
    (lib : AccessLibraries) (serverName : CString) (devInfo : DevBasicInfo)
    (devId masterKey : Bytes) (kernelDomains : List DomainInfo)
    (events : List AccessEvent) :
    StepSystem.Along (accessStep lib) CountersBounded
      (AccessKernel.init serverName devInfo devId masterKey kernelDomains)
      events := by
  have hkeep : ∀ kernel event next, CountersBounded kernel →
      accessStep lib kernel event = some next → CountersBounded next :=
    fun _ _ _ hbounded hstep => hbounded.accessStep hstep
  exact StepSystem.along_of_invariant hkeep events
    (CountersBounded.of_reset rfl rfl)

end EziotSdk

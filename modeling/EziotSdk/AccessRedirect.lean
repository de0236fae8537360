import EziotSdk.AccessRuns

/-!
# Redirects of the platform take effect

A redirect command resets `cnt_state` to `sdk_cnt_unredirect` in the middle of
a call into the MQTT client.  The handler that made the call then writes
`cnt_state` from the call's result, and where it writes the registered or the
broken state the redirect is lost.  In runs without such a step the device
does not register again before the LBS has redirected it.
-/

namespace EziotSdk

/-- The answers upon which a handler writes `cnt_state` without going back to
the LBS. -/
def overwritesState (answer : MkernelInternalError) :
    SdkCloudCntState → Prop
  | .unredirect => False
  | .dasReged => answer = .dasNeedReconnect
  | .redirected | .dasBreak | .dasFastReg | .dasFastRegV3 => answer = .succ

instance (answer : MkernelInternalError) :
    (cntState : SdkCloudCntState) →
      Decidable (overwritesState answer cntState)
  | .unredirect => isFalse id
  | .dasReged => inferInstanceAs (Decidable (answer = .dasNeedReconnect))
  | .redirected | .dasBreak | .dasFastReg | .dasFastRegV3 =>
      inferInstanceAs (Decidable (answer = .succ))

/-- No redirect command is handled during a call after which the handler
overwrites the connection state. -/
def RedirectKept (lib : AccessLibraries) (kernel : AccessKernel) :
    AccessEvent → Prop
  | .yield input =>
      checkAccessRiskControl kernel = false →
        redirectHandled lib (input.submsgs kernel) kernel = true →
          ∀ answer ∈ input.answer kernel,
            ¬ overwritesState answer kernel.cntState
  | .setNetOption _ _ => True
  | .stop _ => True

instance (lib : AccessLibraries) (kernel : AccessKernel)
    (event : AccessEvent) : Decidable (RedirectKept lib kernel event) :=
  match event with
  | .yield _ => inferInstanceAs (Decidable (_ → _ → _))
  | .setNetOption _ _ => isTrue trivial
  | .stop _ => isTrue trivial

/-! ## Keeping the invariant -/

theorem RedirectInvariant.of_none
    {kernel : AccessKernel} (heffective : RedirectsEffective kernel.trace)
    (hnone : pendingRedirect kernel.trace = none) :
    RedirectInvariant kernel where
  effective := heffective
  pends := by
    intro serverName hpending
    rw [hnone] at hpending
    cases hpending

/-- A change that the observer does not see and that moves the machine, if at
all, in front of the LBS. -/
structure Withdraws (before after : AccessKernel) : Prop where
  cntState : after.cntState = before.cntState ∨ after.cntState = .unredirect
  serverName : after.serverName = before.serverName
  pending : pendingRedirect after.trace = pendingRedirect before.trace
  effective :
    RedirectsEffective after.trace ↔ RedirectsEffective before.trace

theorem RedirectInvariant.withdraws
    {before after : AccessKernel} (hinv : RedirectInvariant before)
    (hchange : Withdraws before after) : RedirectInvariant after where
  effective := hchange.effective.mpr hinv.effective
  pends := by
    intro serverName hpending
    rw [hchange.pending] at hpending
    have hbefore := hinv.pends serverName hpending
    constructor
    · rcases hchange.cntState with hsame | hback
      · rw [hsame]
        exact hbefore.1
      · exact hback
    · rw [hchange.serverName]
      exact hbefore.2

theorem RedirectInvariant.none_of_ne
    {kernel : AccessKernel} (hinv : RedirectInvariant kernel)
    (hstate : kernel.cntState ≠ .unredirect) :
    pendingRedirect kernel.trace = none := by
  cases hpending : pendingRedirect kernel.trace with
  | none => rfl
  | some serverName => exact absurd (hinv.pends serverName hpending).1 hstate

/-- A registration that finds nothing pending. -/
theorem RedirectInvariant.registered
    {before after : AccessKernel} {event : SdkKernelEvent}
    (hinv : RedirectInvariant before)
    (hnone : pendingRedirect before.trace = none)
    (htrace : after.trace = .broadcast event :: .registered :: before.trace) :
    RedirectInvariant after := by
  apply RedirectInvariant.of_none
  · rw [htrace]
    simp [RedirectsEffective, hnone, hinv.effective]
  · rw [htrace]
    exact hnone

/-- Where a handler overwrites the state, nothing is pending. -/
theorem none_deliver
    {lib : AccessLibraries} {kernel : AccessKernel}
    {submsgs : List KernelSubmsg} (hinv : RedirectInvariant kernel)
    (hstate : kernel.cntState ≠ .unredirect)
    (hkept : redirectHandled lib submsgs kernel = true → False) :
    pendingRedirect (deliver lib submsgs kernel).trace = none := by
  have hquiet : redirectHandled lib submsgs kernel = false := by
    simpa using hkept
  rw [pendingRedirect_deliver lib submsgs kernel hquiet]
  exact hinv.none_of_ne hstate

/-! ## The handlers -/

theorem RedirectInvariant.dasRegDone
    {sdkError : MkernelInternalError} {kernel : AccessKernel}
    (hinv : RedirectInvariant kernel)
    (hnone : sdkError = .succ → pendingRedirect kernel.trace = none) :
    RedirectInvariant (dasRegDone sdkError kernel) := by
  unfold EziotSdk.dasRegDone
  by_cases hsucc : sdkError = .succ
  · rw [if_pos hsucc]
    dsimp only
    split_ifs
    · exact hinv.registered (hnone hsucc) rfl
    · exact hinv.registered (hnone hsucc) rfl
  · rw [if_neg hsucc]
    dsimp only
    have hwarned := hinv.quiet (quiet_broadcastRuntimeErr sdkError kernel)
    split_ifs
    · exact hwarned.withdraws ⟨Or.inr rfl, rfl, rfl, Iff.rfl⟩
    · exact hwarned.withdraws ⟨Or.inl rfl, rfl, rfl, Iff.rfl⟩

theorem RedirectInvariant.dasWorkDone
    {sdkError : MkernelInternalError} {kernel : AccessKernel}
    (hinv : RedirectInvariant kernel)
    (hnone : sdkError = .dasNeedReconnect →
      pendingRedirect kernel.trace = none) :
    RedirectInvariant (dasWorkDone sdkError kernel) := by
  unfold EziotSdk.dasWorkDone
  dsimp only
  have hwarned := hinv.quiet (quiet_broadcastRuntimeErr sdkError kernel)
  split_ifs with hfail hreconnect
  · have hpending := hnone hreconnect
    exact RedirectInvariant.of_none hwarned.effective hpending
  · exact hwarned
  · exact hinv

theorem RedirectInvariant.dasRetryDone
    {sdkError : MkernelInternalError} {kernel : AccessKernel}
    (hinv : RedirectInvariant kernel)
    (hnone : sdkError = .succ → pendingRedirect kernel.trace = none) :
    RedirectInvariant (dasRetryDone sdkError kernel) := by
  unfold EziotSdk.dasRetryDone
  by_cases hsucc : sdkError = .succ
  · rw [if_pos hsucc]
    exact hinv.registered (hnone hsucc) rfl
  · rw [if_neg hsucc]
    dsimp only
    have hwarned := hinv.quiet (quiet_broadcastRuntimeErr sdkError kernel)
    split_ifs
    · exact hwarned.withdraws
        ⟨Or.inr rfl, rfl, rfl, by
          simp [backToLbs, broadcastBreak, broadcastUserEvent, mark,
            RedirectsEffective]⟩
    · exact hwarned.withdraws ⟨Or.inl rfl, rfl, rfl, Iff.rfl⟩

theorem RedirectInvariant.fastRegDone
    {sdkError : MkernelInternalError} {kernel : AccessKernel}
    (hinv : RedirectInvariant kernel)
    (hnone : sdkError = .succ → pendingRedirect kernel.trace = none) :
    RedirectInvariant (fastRegDone sdkError kernel) := by
  unfold EziotSdk.fastRegDone
  by_cases hsucc : sdkError = .succ
  · rw [if_pos hsucc]
    exact hinv.registered (hnone hsucc) rfl
  · rw [if_neg hsucc]
    have hwarned := hinv.quiet (quiet_broadcastRuntimeErr sdkError kernel)
    exact hwarned.withdraws ⟨Or.inr rfl, rfl, rfl, Iff.rfl⟩

/-- A successful LBS redirect goes to the server that is pending. -/
theorem RedirectInvariant.lbsRedirectDone
    {sdkError : MkernelInternalError} {kernel : AccessKernel}
    (hinv : RedirectInvariant kernel) :
    RedirectInvariant (lbsRedirectDone sdkError kernel) := by
  unfold EziotSdk.lbsRedirectDone
  by_cases hsucc : sdkError = .succ
  · rw [if_pos hsucc]
    apply RedirectInvariant.of_none
    · simp [mark, RedirectsEffective, hinv.effective]
    · change (pendingRedirect kernel.trace).filter
        (· ≠ kernel.serverName) = none
      cases hpending : pendingRedirect kernel.trace with
      | none => rfl
      | some serverName =>
          have hname := (hinv.pends serverName hpending).2
          simp [Option.filter, hname]
  · rw [if_neg hsucc]
    dsimp only
    have hwarned := hinv.quiet (quiet_broadcastRuntimeErr sdkError kernel)
    split_ifs
    · exact hwarned.withdraws ⟨Or.inl rfl, rfl, rfl, Iff.rfl⟩
    · exact hwarned.withdraws ⟨Or.inl rfl, rfl, rfl, Iff.rfl⟩

theorem RedirectInvariant.cntLbsRedirectDo
    {input : YieldInput} {kernel : AccessKernel}
    {outcome : MkernelInternalError × AccessKernel}
    (hinv : RedirectInvariant kernel)
    (hrun : cntLbsRedirectDo input kernel = some outcome) :
    RedirectInvariant outcome.2 := by
  unfold EziotSdk.cntLbsRedirectDo at hrun
  split_ifs at hrun
  · cases hrun
    exact hinv
  · obtain ⟨reached, hexchange, houtcome⟩ :=
      Option.map_eq_some_iff.mp hrun
    obtain ⟨left, hleft⟩ := cntStateLbsRedirect_left hexchange
    have hreached : RedirectInvariant reached.2 := by
      rw [hleft]
      exact ⟨hinv.effective, hinv.pends⟩
    rw [← houtcome]
    exact hreached.lbsRedirectDone

theorem RedirectInvariant.cntStateHandler
    {lib : AccessLibraries} {input : YieldInput} {kernel : AccessKernel}
    {outcome : MkernelInternalError × AccessKernel}
    (hinv : RedirectInvariant kernel)
    (hkept : redirectHandled lib (input.submsgs kernel) kernel = true →
      ∀ answer ∈ input.answer kernel,
        ¬ overwritesState answer kernel.cntState)
    (hrun : cntStateHandler lib input kernel = some outcome) :
    RedirectInvariant outcome.2 := by
  unfold EziotSdk.cntStateHandler at hrun
  unfold YieldInput.submsgs YieldInput.answer at hkept
  cases hstate : kernel.cntState with
  | unredirect =>
      simp only [hstate] at hrun
      exact hinv.cntLbsRedirectDo hrun
  | redirected =>
      simp only [hstate, Option.some.injEq] at hrun hkept
      subst hrun
      cases hwaits : waits kernel.dasRetryTimes input.timerExpired with
      | true =>
          simpa [cntDasRegDo, hwaits] using hinv
      | false =>
          rw [cntDasRegDo_eq lib input kernel hwaits]
          apply (hinv.deliver lib input.regSubmsgs).dasRegDone
          intro hsucc
          apply none_deliver hinv (by simp [hstate])
          intro hhandled
          simp only [hwaits] at hkept
          exact hkept hhandled _ rfl hsucc
  | dasReged =>
      simp only [hstate, Option.some.injEq] at hrun hkept
      subst hrun
      unfold cntDasWorkDo
      rw [dasYield_eq]
      apply (hinv.deliver lib input.workSubmsgs).dasWorkDone
      intro hreconnect
      apply none_deliver hinv (by simp [hstate])
      intro hhandled
      exact hkept hhandled _ rfl hreconnect
  | dasBreak =>
      simp only [hstate, Option.some.injEq] at hrun hkept
      subst hrun
      unfold cntDasRetryDo
      cases hwaits : waits kernel.dasRetryTimes input.timerExpired with
      | true => simpa using hinv
      | false =>
          apply (hinv.deliver lib input.lightReg.submsgs).dasRetryDone
          intro hsucc
          apply none_deliver hinv (by simp [hstate])
          intro hhandled
          simp only [hwaits] at hkept
          exact hkept hhandled _ rfl hsucc
  | dasFastReg | dasFastRegV3 =>
      simp only [hstate, Option.some.injEq] at hrun hkept
      subst hrun
      unfold cntDasRegFastDo
      rw [fastAttempts_eq]
      apply (hinv.deliver lib (input.fastSubmsgs 3 0)).fastRegDone
      intro hsucc
      apply none_deliver hinv (by simp [hstate])
      intro hhandled
      exact hkept hhandled _ rfl hsucc

theorem RedirectInvariant.afterHandler
    {kernel : AccessKernel} (hinv : RedirectInvariant kernel)
    (sdkError : MkernelInternalError) :
    RedirectInvariant (afterHandler sdkError kernel) := by
  unfold EziotSdk.afterHandler
  split_ifs
  · exact hinv.withdraws ⟨Or.inl rfl, rfl, rfl, Iff.rfl⟩
  · apply hinv.withdraws
    exact ⟨Or.inr rfl, rfl, rfl, by
      simp [backToLbs, broadcastBreak, broadcastUserEvent, mark,
        RedirectsEffective]⟩
  · exact hinv

/-! ## Steps and runs -/

/-- The step lemma. -/
theorem RedirectInvariant.accessStep
    {lib : AccessLibraries} {kernel next : AccessKernel}
    {event : AccessEvent} (hinv : RedirectInvariant kernel)
    (hkept : RedirectKept lib kernel event)
    (hstep : accessStep lib kernel event = some next) :
    RedirectInvariant next := by
  cases event with
  | yield input =>
      obtain ⟨outcome, hyield, hnext⟩ := Option.map_eq_some_iff.mp hstep
      subst hnext
      unfold cntStateYield at hyield
      cases hrisk : checkAccessRiskControl kernel with
      | true =>
          simp only [hrisk, if_true, Option.some.injEq] at hyield
          rw [← hyield]
          exact hinv
      | false =>
          simp only [hrisk, Bool.false_eq_true, if_false] at hyield
          obtain ⟨handled, hrun, houtcome⟩ :=
            Option.map_eq_some_iff.mp hyield
          rw [← houtcome]
          exact (hinv.cntStateHandler (hkept hrisk) hrun).afterHandler _
  | setNetOption optname optval =>
      simp only [EziotSdk.accessStep, Option.some.injEq] at hstep
      subst hstep
      unfold ezdevSdkKernelSetNetOption
      split_ifs with hnic hforce hreged
      · cases optval with
        | none => exact hinv
        | some value => dsimp only; split_ifs <;> exact hinv
      · have hnone := hinv.none_of_ne (by simp [hreged])
        exact RedirectInvariant.of_none hinv.effective hnone
      · exact hinv
      · exact hinv
  | stop submsgs =>
      simp only [EziotSdk.accessStep, Option.some.injEq] at hstep
      subst hstep
      have hreached := hinv.deliver lib submsgs
      exact hreached.withdraws ⟨Or.inr rfl, rfl, rfl, Iff.rfl⟩

theorem redirectInvariant_init
    (serverName : CString) (devInfo : DevBasicInfo)
    (devId masterKey : Bytes) (kernelDomains : List DomainInfo) :
    RedirectInvariant
      (AccessKernel.init serverName devInfo devId masterKey
        kernelDomains) :=
  RedirectInvariant.of_none trivial rfl

/-- In runs in which no handler overwrites the state that a redirect command
has just set, the device registers again only after a redirect by the LBS of
the server that the command named. -/
theorem redirects_effective_of_kept
    (lib : AccessLibraries) (serverName : CString) (devInfo : DevBasicInfo)
    (devId masterKey : Bytes) (kernelDomains : List DomainInfo)
    (events : List AccessEvent)
    (hkept : StepSystem.StepsMeet (accessStep lib) (RedirectKept lib)
      (AccessKernel.init serverName devInfo devId masterKey kernelDomains)
      events) :
    StepSystem.Along (accessStep lib)
      (fun kernel => RedirectsEffective kernel.trace)
      (AccessKernel.init serverName devInfo devId masterKey kernelDomains)
      events := by
  have hinv := StepSystem.along_of_stepsMeet
    (fun state event next hinv hkept hstep =>
      RedirectInvariant.accessStep hinv hkept hstep)
    (redirectInvariant_init serverName devInfo devId masterKey
      kernelDomains)
    hkept
  exact hinv.mono fun kernel hkernel => hkernel.effective

/-! ## A run with a redirect, and one that loses it -/

def redirectSubmsg : KernelSubmsg where
  msgSeq := 0
  buf := some (bytesOfText "b".toList)
  msgDomainId := 1000
  msgCommandId := 0x3479
  commandVer := []

/-- A step in which a redirect command arrives. -/
def redirectInput : YieldInput :=
  { smoothInput with mqttYield := [redirectSubmsg] }

theorem redirects_effective_of_kept_smooth :
    StepSystem.Along (accessStep plainAccessLibraries)
      (fun kernel => RedirectsEffective kernel.trace) freshKernel
      [.yield smoothInput, .yield smoothInput, .yield redirectInput,
        .yield smoothInput, .yield smoothInput] :=
  redirects_effective_of_kept plainAccessLibraries "a".toList ⟨0, 0, [], []⟩
    (List.replicate 32 0x41) (List.replicate 16 0x42) [] _
    (by decide +kernel)

/-- The command arrives in the step in which sending a message fails: the
device reconnects to the DAS that it should leave. -/
theorem redirect_lost_by_reconnect :
    ¬ StepSystem.Along (accessStep plainAccessLibraries)
      (fun kernel => RedirectsEffective kernel.trace) freshKernel
      [.yield smoothInput, .yield smoothInput,
        .yield { redirectInput with
          messageSend := ⟨[], .dasNeedReconnect⟩ },
        .yield smoothInput] :=
  StepSystem.not_along_of_exec (by decide +kernel)

end EziotSdk

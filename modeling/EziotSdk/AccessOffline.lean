import EziotSdk.AccessRuns

/-!
# Offline events are truthful

A break is broadcast by a retry that gives up and, after any handler, upon the
answer `mqtt_redirect`.  The invariant is that a registered or broken machine
has announced itself as online last; the answer `mqtt_redirect` breaks the
alternation where the device has not come online yet, and where the retry that
receives it has already broadcast the break.
-/

namespace EziotSdk

/-- The retry of this state broadcasts a break when it fails. -/
def givesUp (kernel : AccessKernel) : Prop :=
  kernel.cntState = .dasBreak ∧ 3 ≤ kernel.dasRetryTimes

instance (kernel : AccessKernel) : Decidable (givesUp kernel) :=
  inferInstanceAs (Decidable (_ ∧ _))

/-- The answer `mqtt_redirect` comes only to a device that has announced
itself as online last, and not to its last retry. -/
def RefusedOnline (kernel : AccessKernel) : AccessEvent → Prop
  | .yield input =>
      checkAccessRiskControl kernel = false →
        input.answer kernel = some mqttRedirect →
          lastConnectivity kernel.trace = some .online ∧ ¬ givesUp kernel
  | .setNetOption _ _ => True
  | .stop _ => True

/-! ## The invariant -/

structure OnlineInvariant (kernel : AccessKernel) : Prop where
  truthful : BreaksTruthful kernel.trace
  online : kernel.cntState = .dasReged ∨ kernel.cntState = .dasBreak →
    lastConnectivity kernel.trace = some .online
  notFast : kernel.cntState ≠ .dasFastReg ∧ kernel.cntState ≠ .dasFastRegV3

/-- What a handler leaves, in a step that began with `kernel`. -/
structure Handled (kernel : AccessKernel) (sdkError : MkernelInternalError)
    (after : AccessKernel) : Prop where
  invariant : OnlineInvariant after
  refused : sdkError = mqttRedirect →
    lastConnectivity after.trace =
      if givesUp kernel then some .offline else lastConnectivity kernel.trace

theorem OnlineInvariant.of_online
    {kernel : AccessKernel} (htruthful : BreaksTruthful kernel.trace)
    (honline : lastConnectivity kernel.trace = some .online)
    (hfast : kernel.cntState ≠ .dasFastReg ∧
      kernel.cntState ≠ .dasFastRegV3) :
    OnlineInvariant kernel :=
  ⟨htruthful, fun _ => honline, hfast⟩

/-- A change that the observer does not see and that leaves the connection
state alone or moves it in front of a registration. -/
theorem OnlineInvariant.unseen
    {before after : AccessKernel} (hinv : OnlineInvariant before)
    (hconnectivity :
      lastConnectivity after.trace = lastConnectivity before.trace)
    (htruthful : BreaksTruthful after.trace ↔ BreaksTruthful before.trace)
    (hstate : after.cntState = before.cntState ∨
      after.cntState = .unredirect ∨ after.cntState = .redirected) :
    OnlineInvariant after where
  truthful := htruthful.mpr hinv.truthful
  online := by
    intro hafter
    rw [hconnectivity]
    rcases hstate with hsame | hback | hback
    · rw [hsame] at hafter
      exact hinv.online hafter
    · simp [hback] at hafter
    · simp [hback] at hafter
  notFast := by
    rcases hstate with hsame | hback | hback
    · rw [hsame]
      exact hinv.notFast
    · simp [hback]
    · simp [hback]

theorem OnlineInvariant.deliver
    (lib : AccessLibraries) (submsgs : List KernelSubmsg)
    {kernel : AccessKernel} (hinv : OnlineInvariant kernel) :
    OnlineInvariant (deliver lib submsgs kernel) := by
  have hunseen := unseen_deliver lib submsgs kernel
  apply hinv.unseen hunseen.connectivity hunseen.truthful
  rcases hunseen.cntState with hsame | hback
  · exact Or.inl hsame
  · exact Or.inr (Or.inl hback)

theorem OnlineInvariant.warned
    {kernel : AccessKernel} (hinv : OnlineInvariant kernel)
    (sdkError : MkernelInternalError) :
    OnlineInvariant (broadcastRuntimeErr sdkError kernel) := by
  have hquiet := quiet_broadcastRuntimeErr sdkError kernel
  exact hinv.unseen hquiet.connectivity hquiet.truthful
    (Or.inl hquiet.cntState)

theorem OnlineInvariant.registered
    {before after : AccessKernel} {event : SdkKernelEvent}
    (hinv : OnlineInvariant before)
    (htrace : after.trace = .broadcast event :: .registered :: before.trace)
    (hevent : AccessMark.connectivity (.broadcast event) = some .online)
    (hstate : after.cntState = .dasReged) :
    OnlineInvariant after := by
  apply OnlineInvariant.of_online
  · have hnot : ¬ AccessMark.connectivity (.broadcast event) =
        some .offline := by simp [hevent]
    have hregistered : BreaksTruthful (.registered :: before.trace) := by
      simp [BreaksTruthful, AccessMark.connectivity, hinv.truthful]
    rw [htrace]
    exact ⟨fun hoffline => absurd hoffline hnot, hregistered⟩
  · simp [htrace, lastConnectivity, hevent]
  · simp [hstate]

/-- A break broadcast by a device that was online. -/
theorem OnlineInvariant.broken
    {before after : AccessKernel} {context : SdkOfflineContext}
    (hinv : OnlineInvariant before)
    (honline : lastConnectivity before.trace = some .online)
    (htrace : after.trace = .broadcast (.eventBreak context) :: before.trace)
    (hstate : after.cntState = .unredirect) :
    OnlineInvariant after where
  truthful := by
    rw [htrace]
    exact ⟨fun _ => honline, hinv.truthful⟩
  online := by simp [hstate]
  notFast := by simp [hstate]

/-! ## The handlers -/

/-- A handler that keeps the invariant and the last event, in a state whose
retry does not give up. -/
theorem Handled.of_same
    {kernel after : AccessKernel} {sdkError : MkernelInternalError}
    (hinv : OnlineInvariant after) (hgives : ¬ givesUp kernel)
    (hsame : sdkError = mqttRedirect →
      lastConnectivity after.trace = lastConnectivity kernel.trace) :
    Handled kernel sdkError after where
  invariant := hinv
  refused := by
    intro hredirect
    rw [if_neg hgives]
    exact hsame hredirect

theorem mqttRedirect_ne_succ : mqttRedirect ≠ .succ := by decide

theorem handled_waiting
    {kernel : AccessKernel} (hinv : OnlineInvariant kernel) :
    Handled kernel .succ kernel where
  invariant := hinv
  refused := fun hredirect => absurd hredirect.symm mqttRedirect_ne_succ

theorem lbsRedirectDone_spec
    (sdkError : MkernelInternalError) {kernel : AccessKernel}
    (hinv : OnlineInvariant kernel) :
    OnlineInvariant (lbsRedirectDone sdkError kernel) ∧
      lastConnectivity (lbsRedirectDone sdkError kernel).trace =
        lastConnectivity kernel.trace := by
  have hwarned := hinv.warned sdkError
  have hquiet := (quiet_broadcastRuntimeErr sdkError kernel).connectivity
  unfold lbsRedirectDone
  dsimp only
  split_ifs
  · constructor
    · exact hinv.unseen rfl
        (by simp [mark, BreaksTruthful, AccessMark.connectivity])
        (Or.inr (Or.inr rfl))
    · rfl
  · exact ⟨hwarned.unseen rfl Iff.rfl (Or.inl rfl), hquiet⟩
  · exact ⟨hwarned.unseen rfl Iff.rfl (Or.inl rfl), hquiet⟩

theorem cntLbsRedirectDo_handled
    {input : YieldInput} {kernel : AccessKernel}
    {outcome : MkernelInternalError × AccessKernel}
    (hinv : OnlineInvariant kernel) (hgives : ¬ givesUp kernel)
    (hrun : cntLbsRedirectDo input kernel = some outcome) :
    Handled kernel outcome.1 outcome.2 := by
  unfold cntLbsRedirectDo at hrun
  split_ifs at hrun
  · cases hrun
    exact handled_waiting hinv
  · obtain ⟨reached, hexchange, houtcome⟩ :=
      Option.map_eq_some_iff.mp hrun
    obtain ⟨left, hleft⟩ := cntStateLbsRedirect_left hexchange
    have hreached : OnlineInvariant reached.2 := by
      rw [hleft]
      exact hinv.unseen rfl Iff.rfl (Or.inl rfl)
    have hdone := lbsRedirectDone_spec reached.1 hreached
    rw [← houtcome]
    apply Handled.of_same hdone.1 hgives
    intro _
    rw [hdone.2, hleft]

theorem dasRegDone_spec
    (sdkError : MkernelInternalError) {kernel : AccessKernel}
    (hinv : OnlineInvariant kernel) :
    OnlineInvariant (dasRegDone sdkError kernel) ∧
      (sdkError = mqttRedirect →
        lastConnectivity (dasRegDone sdkError kernel).trace =
          lastConnectivity kernel.trace) := by
  unfold dasRegDone
  by_cases hsucc : sdkError = .succ
  · have hnot : sdkError ≠ mqttRedirect := by
      rw [hsucc]
      exact mqttRedirect_ne_succ.symm
    rw [if_pos hsucc]
    dsimp only
    constructor
    · split_ifs
      · exact hinv.registered rfl rfl rfl
      · exact hinv.registered rfl rfl rfl
    · intro hredirect
      exact absurd hredirect hnot
  · have hwarned := hinv.warned sdkError
    have hquiet := (quiet_broadcastRuntimeErr sdkError kernel).connectivity
    rw [if_neg hsucc]
    dsimp only
    split_ifs
    · exact ⟨hwarned.unseen rfl Iff.rfl (Or.inr (Or.inl rfl)),
        fun _ => hquiet⟩
    · exact ⟨hwarned.unseen rfl Iff.rfl (Or.inl rfl), fun _ => hquiet⟩

theorem dasWorkDone_spec
    (sdkError : MkernelInternalError) {kernel : AccessKernel}
    (hinv : OnlineInvariant kernel)
    (honline : lastConnectivity kernel.trace = some .online) :
    OnlineInvariant (dasWorkDone sdkError kernel) ∧
      lastConnectivity (dasWorkDone sdkError kernel).trace =
        lastConnectivity kernel.trace := by
  have hwarned := hinv.warned sdkError
  have hquiet := (quiet_broadcastRuntimeErr sdkError kernel).connectivity
  unfold dasWorkDone
  dsimp only
  split_ifs
  · constructor
    · exact ⟨hwarned.truthful, fun _ => hquiet.trans honline, by simp⟩
    · exact hquiet
  · exact ⟨hwarned, hquiet⟩
  · exact ⟨hinv, rfl⟩

/-- The retry, which began with the broken state and this many failures. -/
theorem dasRetryDone_spec
    (sdkError : MkernelInternalError) {kernel : AccessKernel}
    (hinv : OnlineInvariant kernel)
    (honline : lastConnectivity kernel.trace = some .online) :
    OnlineInvariant (dasRetryDone sdkError kernel) ∧
      (sdkError = mqttRedirect →
        lastConnectivity (dasRetryDone sdkError kernel).trace =
          if 3 ≤ kernel.dasRetryTimes then some .offline
          else some .online) := by
  unfold dasRetryDone
  by_cases hsucc : sdkError = .succ
  · have hnot : sdkError ≠ mqttRedirect := by
      rw [hsucc]
      exact mqttRedirect_ne_succ.symm
    rw [if_pos hsucc]
    exact ⟨hinv.registered rfl rfl rfl,
      fun hredirect => absurd hredirect hnot⟩
  · have hwarned := hinv.warned sdkError
    have hquiet := (quiet_broadcastRuntimeErr sdkError kernel).connectivity
    have htimes : (broadcastRuntimeErr sdkError kernel).dasRetryTimes =
        kernel.dasRetryTimes := rfl
    rw [if_neg hsucc]
    dsimp only
    rw [htimes]
    split_ifs
    · constructor
      · exact hwarned.broken (hquiet.trans honline) rfl rfl
      · intro _
        rfl
    · exact ⟨hwarned.unseen rfl Iff.rfl (Or.inl rfl),
        fun _ => hquiet.trans honline⟩

theorem OnlineInvariant.cntStateHandler
    {lib : AccessLibraries} {input : YieldInput} {kernel : AccessKernel}
    {outcome : MkernelInternalError × AccessKernel}
    (hinv : OnlineInvariant kernel)
    (hrun : cntStateHandler lib input kernel = some outcome) :
    Handled kernel outcome.1 outcome.2 := by
  unfold EziotSdk.cntStateHandler at hrun
  cases hstate : kernel.cntState with
  | unredirect =>
      simp only [hstate] at hrun
      exact cntLbsRedirectDo_handled hinv (by simp [givesUp, hstate]) hrun
  | redirected =>
      simp only [hstate, Option.some.injEq] at hrun
      subst hrun
      cases hwaits : waits kernel.dasRetryTimes input.timerExpired with
      | true =>
          have hsame : cntDasRegDo lib input kernel = (.succ, kernel) := by
            simp [cntDasRegDo, hwaits]
          rw [hsame]
          exact handled_waiting hinv
      | false =>
          have hunseen := unseen_deliver lib input.regSubmsgs kernel
          have hdone := dasRegDone_spec input.regResult
            (hinv.deliver lib input.regSubmsgs)
          rw [cntDasRegDo_eq lib input kernel hwaits]
          apply Handled.of_same hdone.1 (by simp [givesUp, hstate])
          intro hredirect
          rw [hdone.2 hredirect, hunseen.connectivity]
  | dasReged =>
      simp only [hstate, Option.some.injEq] at hrun
      subst hrun
      have hunseen := unseen_deliver lib input.workSubmsgs kernel
      have honline := hinv.online (Or.inl hstate)
      have hdone := dasWorkDone_spec input.workResult
        (hinv.deliver lib input.workSubmsgs)
        (hunseen.connectivity.trans honline)
      unfold cntDasWorkDo
      rw [dasYield_eq]
      apply Handled.of_same hdone.1 (by simp [givesUp, hstate])
      intro _
      rw [hdone.2, hunseen.connectivity]
  | dasBreak =>
      simp only [hstate, Option.some.injEq] at hrun
      subst hrun
      unfold cntDasRetryDo
      cases hwaits : waits kernel.dasRetryTimes input.timerExpired with
      | true => exact handled_waiting hinv
      | false =>
          have hunseen := unseen_deliver lib input.lightReg.submsgs kernel
          have honline := hinv.online (Or.inr hstate)
          have hdone := dasRetryDone_spec input.lightReg.result
            (hinv.deliver lib input.lightReg.submsgs)
            (hunseen.connectivity.trans honline)
          constructor
          · exact hdone.1
          · intro hredirect
            refine (hdone.2 hredirect).trans ?_
            simp [givesUp, hstate, hunseen.dasRetryTimes, honline]
  | dasFastReg => exact absurd hstate hinv.notFast.1
  | dasFastRegV3 => exact absurd hstate hinv.notFast.2

/-- The step's input determines what its handler returns. -/
theorem cntStateHandler_answer
    (lib : AccessLibraries) (input : YieldInput) (kernel : AccessKernel) :
    (cntStateHandler lib input kernel).map Prod.fst =
      input.answer kernel := by
  unfold cntStateHandler YieldInput.answer
  cases kernel.cntState with
  | unredirect =>
      dsimp only
      unfold cntLbsRedirectDo
      split_ifs
      · rfl
      · rw [Option.map_map]
        rfl
  | redirected =>
      dsimp only
      cases hwaits : waits kernel.dasRetryTimes input.timerExpired with
      | true => simp [cntDasRegDo, hwaits]
      | false => simp [cntDasRegDo_eq lib input kernel hwaits]
  | dasReged => simp [cntDasWorkDo, dasYield_eq]
  | dasBreak =>
      dsimp only
      unfold cntDasRetryDo
      cases waits kernel.dasRetryTimes input.timerExpired <;> rfl
  | dasFastReg | dasFastRegV3 => simp [cntDasRegFastDo, fastAttempts_eq]

/-! ## Steps and runs -/

theorem afterHandler_redirect (kernel : AccessKernel) :
    afterHandler mqttRedirect kernel =
      backToLbs (broadcastBreak mqttRedirect kernel) := by
  have hnot : mqttRedirect ≠ mqttBlacklist := by decide
  simp [afterHandler, hnot]

theorem OnlineInvariant.afterHandler
    {kernel after : AccessKernel} {sdkError : MkernelInternalError}
    (hhandled : Handled kernel sdkError after)
    (hrefused : sdkError = mqttRedirect →
      lastConnectivity kernel.trace = some .online ∧ ¬ givesUp kernel) :
    OnlineInvariant (afterHandler sdkError after) := by
  by_cases hredirect : sdkError = mqttRedirect
  · have hcond := hrefused hredirect
    have honline := hhandled.refused hredirect
    rw [if_neg hcond.2, hcond.1] at honline
    rw [hredirect, afterHandler_redirect]
    exact hhandled.invariant.broken honline rfl rfl
  · unfold EziotSdk.afterHandler
    rw [if_neg hredirect]
    split_ifs
    · exact hhandled.invariant.unseen rfl Iff.rfl (Or.inl rfl)
    · exact hhandled.invariant

/-- The step lemma. -/
theorem OnlineInvariant.accessStep
    {lib : AccessLibraries} {kernel next : AccessKernel}
    {event : AccessEvent} (hinv : OnlineInvariant kernel)
    (hcond : RefusedOnline kernel event)
    (hstep : accessStep lib kernel event = some next) :
    OnlineInvariant next := by
  cases event with
  | yield input =>
      obtain ⟨outcome, hyield, hnext⟩ := Option.map_eq_some_iff.mp hstep
      subst hnext
      unfold cntStateYield at hyield
      cases hrisk : checkAccessRiskControl kernel with
      | true =>
          simp only [hrisk, if_true, Option.some.injEq] at hyield
          rw [← hyield]
          exact hinv
      | false =>
          simp only [hrisk, Bool.false_eq_true, if_false] at hyield
          obtain ⟨handled, hrun, houtcome⟩ :=
            Option.map_eq_some_iff.mp hyield
          rw [← houtcome]
          apply OnlineInvariant.afterHandler (hinv.cntStateHandler hrun)
          intro hredirect
          apply hcond hrisk
          rw [← cntStateHandler_answer lib, hrun, ← hredirect]
          rfl
  | setNetOption optname optval =>
      simp only [EziotSdk.accessStep, Option.some.injEq] at hstep
      subst hstep
      unfold ezdevSdkKernelSetNetOption
      split_ifs with hnic hforce hreged
      · cases optval with
        | none => exact hinv
        | some value => dsimp only; split_ifs <;> exact hinv
      · have honline := hinv.online (Or.inl hreged)
        exact ⟨hinv.truthful, fun _ => honline, by simp⟩
      · exact hinv
      · exact hinv
  | stop submsgs =>
      simp only [EziotSdk.accessStep, Option.some.injEq] at hstep
      subst hstep
      have hreached := hinv.deliver lib submsgs
      exact hreached.unseen rfl Iff.rfl (Or.inr (Or.inl rfl))

/-- A step outside the condition broadcasts a break to a device that is not
online. -/
theorem untruthful_of_refused
    {lib : AccessLibraries} {kernel : AccessKernel} {event : AccessEvent}
    (hinv : OnlineInvariant kernel) (hcond : ¬ RefusedOnline kernel event) :
    ∃ next, accessStep lib kernel event = some next ∧
      ¬ BreaksTruthful next.trace := by
  cases event with
  | setNetOption optname optval => exact absurd trivial hcond
  | stop submsgs => exact absurd trivial hcond
  | yield input =>
      simp only [RefusedOnline, Classical.not_imp] at hcond
      obtain ⟨hrisk, hanswer, hoffline⟩ := hcond
      rw [← cntStateHandler_answer lib] at hanswer
      obtain ⟨outcome, hrun, hredirect⟩ :=
        Option.map_eq_some_iff.mp hanswer
      refine ⟨afterHandler outcome.1 outcome.2, ?_, ?_⟩
      · simp [accessStep, cntStateYield, hrisk, hrun]
      · have hlast := (hinv.cntStateHandler hrun).refused hredirect
        rw [hredirect, afterHandler_redirect]
        intro htruthful
        have honline : lastConnectivity outcome.2.trace = some .online :=
          htruthful.1 rfl
        rw [hlast] at honline
        apply hoffline
        by_cases hgives : givesUp kernel
        · simp [hgives] at honline
        · rw [if_neg hgives] at honline
          exact ⟨honline, hgives⟩

theorem onlineInvariant_init
    (serverName : CString) (devInfo : DevBasicInfo)
    (devId masterKey : Bytes) (kernelDomains : List DomainInfo) :
    OnlineInvariant
      (AccessKernel.init serverName devInfo devId masterKey
        kernelDomains) :=
  ⟨trivial, by simp [AccessKernel.init], by simp [AccessKernel.init]⟩

/-- Along a run every break is broadcast to an application that saw the device
online, exactly if the answer `mqtt_redirect` comes only to a device that is
online and not to its last retry. -/
theorem breaksTruthful_iff_refusedOnline
    (lib : AccessLibraries) (serverName : CString) (devInfo : DevBasicInfo)
    (devId masterKey : Bytes) (kernelDomains : List DomainInfo)
    (events : List AccessEvent) :
    StepSystem.Along (accessStep lib)
        (fun kernel => BreaksTruthful kernel.trace)
        (AccessKernel.init serverName devInfo devId masterKey kernelDomains)
        events ↔
      StepSystem.StepsMeet (accessStep lib) RefusedOnline
        (AccessKernel.init serverName devInfo devId masterKey kernelDomains)
        events := by
  apply StepSystem.along_iff_stepsMeet
    (fun kernel hinv => OnlineInvariant.truthful hinv)
  · intro kernel event next hinv hcond hstep
    exact hinv.accessStep hcond hstep
  · intro kernel event hinv hcond
    exact untruthful_of_refused hinv hcond
  · exact onlineInvariant_init serverName devInfo devId masterKey
      kernelDomains

/-- The DAS refuses the first registration with `mqtt_redirect`. -/
theorem break_before_online :
    ¬ StepSystem.Along (accessStep plainAccessLibraries)
      (fun kernel => BreaksTruthful kernel.trace) freshKernel
      [.yield smoothInput,
        .yield { smoothInput with
          reg := ⟨⟨[], mqttRedirect⟩, ⟨[], .succ⟩⟩ }] :=
  StepSystem.not_along_of_exec (by decide +kernel)

end EziotSdk

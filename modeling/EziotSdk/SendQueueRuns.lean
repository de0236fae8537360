import EziotSdk.SendQueueAccounting

/-!
# Accounting along a run of the send path

The step lemma lifts the accounting of one channel to the whole send path, and
the run theorem says for which runs the observed property holds whenever the
kernel thread is between two passes: exactly those in which every push back
to the head of a queue finds room and gets its element.
-/

namespace EziotSdk

namespace SendState

def carriedV2 (state : SendState) : Option (Carried KernelPubmsg) :=
  match state.pass with
  | .v2 carried => some carried
  | _ => none

def carriedV3 (state : SendState) : Option (Carried KernelPubmsgV3) :=
  match state.pass with
  | .v3 carried => some carried
  | _ => none

/-- The kernel thread is between two of its send functions. -/
def BetweenPasses (state : SendState) : Prop :=
  state.carriedV2 = none ∧ state.carriedV3 = none

/-- The observed property of the whole send path. -/
def SettledBetweenPasses (state : SendState) : Prop :=
  state.BetweenPasses → state.v2.Settled ∧ state.v3.Settled

/-- The condition on a step: when a message has to be pushed back, its queue
has room and the queue element is allocated. -/
def RequeueFits (state : SendState) (event : SendEvent) : Prop :=
  match event, state.pass with
  | .settle allocated, .v2 (.published exchange sdkError) =>
      Channel.Retries exchange sdkError →
        ¬ state.v2.queue.Full ∧ allocated = true
  | .settle allocated, .v3 (.published exchange sdkError) =>
      Channel.Retries exchange sdkError →
        ¬ state.v3.queue.Full ∧ allocated = true
  | _, _ => True

structure Accounted (state : SendState) : Prop where
  v2 : state.v2.Accounted state.carriedV2 state.nextAddress
  v3 : state.v3.Accounted state.carriedV3 state.nextAddress

theorem Accounted.settledBetweenPasses
    {state : SendState} (hinv : state.Accounted) :
    state.SettledBetweenPasses := by
  rintro ⟨hv2, hv3⟩
  constructor
  · have haccounted := hinv.v2
    rw [hv2] at haccounted
    exact haccounted.settled
  · have haccounted := hinv.v3
    rw [hv3] at haccounted
    exact haccounted.settled

theorem started_accounted
    (kernelDomains : List DomainInfo) (dasTransportSeq : ℕ)
    (pubMaxSize : Fin (2 ^ 16)) :
    (started kernelDomains dasTransportSeq pubMaxSize).Accounted :=
  ⟨Channel.Accounted.init pubMaxSize 0, Channel.Accounted.init pubMaxSize 0⟩

/-! ## Sends -/

@[simp] theorem assignSeq_frame
    (state : SendState) (msgResponse msgSeq : ℕ) :
    (assignSeq state msgResponse msgSeq).2.v2 = state.v2 ∧
      (assignSeq state msgResponse msgSeq).2.v3 = state.v3 ∧
      (assignSeq state msgResponse msgSeq).2.pass = state.pass ∧
      (assignSeq state msgResponse msgSeq).2.nextAddress =
        state.nextAddress := by
  unfold assignSeq genaralSeq
  split <;> simp

/-- What the shared part of a send does to its channel and to the rest of the
state. -/
structure Pushed {Msg Context : Type}
    (state : SendState) (channel : Channel Msg Context)
    (error : EzdevSdkKernelError) (next : SendState)
    (nextChannel : Channel Msg Context) : Prop where
  v2_eq : next.v2 = state.v2
  v3_eq : next.v3 = state.v3
  pass_eq : next.pass = state.pass
  outcome :
    (error ≠ .succ ∧ nextChannel = channel ∧
      state.nextAddress ≤ next.nextAddress) ∨
    (error = .succ ∧ next.nextAddress = state.nextAddress + 1 ∧
      ∃ queue exchange,
        nextChannel = { channel with queue := queue } ∧
        queue.items = channel.queue.items ++ [exchange] ∧
        exchange.address = state.nextAddress ∧
        exchange.maxSendCount = ezdevSdkMaxPublishCount)

theorem pushCopied_pushed {Msg Context : Type}
    (state : SendState) (channel : Channel Msg Context) (malloc : SendMalloc)
    (msgResponse msgSeq : ℕ) (externelCtx : Option (List UInt8))
    (copied : ℕ → Msg) :
    ∃ error seq next nextChannel,
      pushCopied state channel malloc msgResponse msgSeq externelCtx copied =
        (error, seq, next, nextChannel) ∧
      Pushed state channel error next nextChannel := by
  have hframe := assignSeq_frame state msgResponse msgSeq
  unfold pushCopied
  split
  · exact ⟨_, _, _, _, rfl, rfl, rfl, rfl, Or.inl ⟨by simp, rfl, le_rfl⟩⟩
  · generalize assignSeq state msgResponse msgSeq = assigned at hframe
    obtain ⟨seq, numbered⟩ := assigned
    obtain ⟨hv2, hv3, hpass, hnext⟩ := hframe
    dsimp only at hv2 hv3 hpass hnext ⊢
    split
    · exact ⟨_, _, _, _, rfl, hv2, hv3, hpass,
        Or.inl ⟨by simp, rfl, hnext.ge⟩⟩
    · let exchange : PubmsgExchange Msg :=
        { address := numbered.nextAddress
          maxSendCount := ezdevSdkMaxPublishCount
          msgConntext := copied seq }
      refine ⟨_, _, _, _, rfl, hv2, hv3, hpass, ?_⟩
      rcases channel.queue.push_cases exchange malloc.element with
        ⟨herror, hitems, -, -⟩ | ⟨herror, hqueue, -⟩
      · right
        exact ⟨(mkiE2ezE_eq_succ _).mpr herror, by simp [hnext], _, exchange,
          rfl, hitems, hnext, rfl⟩
      · left
        refine ⟨fun hsucc => herror ((mkiE2ezE_eq_succ _).mp hsucc), ?_,
          by simp [hnext]⟩
        rw [hqueue]

theorem ezdevSdkKernelSend_cases
    (state : SendState) (pubmsg : KernelPubmsg) (malloc : SendMalloc) :
    (∃ error, error ≠ .succ ∧
      ezdevSdkKernelSend state pubmsg malloc = (error, pubmsg, state)) ∨
    ∃ error seq next v2,
      Pushed state state.v2 error next v2 ∧
      ezdevSdkKernelSend state pubmsg malloc =
        (error, { pubmsg with msgSeq := seq }, { next with v2 := v2 }) := by
  unfold ezdevSdkKernelSend
  split
  · exact Or.inl ⟨_, by simp, rfl⟩
  split
  · exact Or.inl ⟨_, by simp, rfl⟩
  split
  · exact Or.inl ⟨_, by simp, rfl⟩
  split
  · exact Or.inl ⟨_, by simp, rfl⟩
  cases hrisk : checkCmdRiskControl state.kernelDomains pubmsg.msgDomainId
      pubmsg.msgCommandId with
  | allowed =>
      obtain ⟨error, seq, next, v2, heq, hpushed⟩ :=
        pushCopied_pushed state state.v2 malloc pubmsg.msgResponse
          pubmsg.msgSeq pubmsg.externelCtx pubmsg.copied
      right
      refine ⟨error, seq, next, v2, hpushed, ?_⟩
      simp only [RiskResult.error]
      rw [heq]
  | domainNotFound => exact Or.inl ⟨_, by simp [mkiE2ezE], rfl⟩
  | domainRisk => exact Or.inl ⟨_, by simp [mkiE2ezE], rfl⟩
  | cmdRisk => exact Or.inl ⟨_, by simp [mkiE2ezE], rfl⟩

theorem ezdevSdkKernelSendV3_cases
    (state : SendState) (pubmsg : KernelPubmsgV3) (malloc : SendMalloc) :
    (∃ error, error ≠ .succ ∧
      ezdevSdkKernelSendV3 state pubmsg malloc = (error, pubmsg, state)) ∨
    ∃ error seq next v3,
      Pushed state state.v3 error next v3 ∧
      ezdevSdkKernelSendV3 state pubmsg malloc =
        (error, { pubmsg with msgSeq := seq }, { next with v3 := v3 }) := by
  unfold ezdevSdkKernelSendV3
  split
  · exact Or.inl ⟨_, by simp, rfl⟩
  split
  · exact Or.inl ⟨_, by simp, rfl⟩
  split
  · exact Or.inl ⟨_, by simp, rfl⟩
  obtain ⟨error, seq, next, v3, heq, hpushed⟩ :=
    pushCopied_pushed state state.v3 malloc pubmsg.msgResponse
      pubmsg.msgSeq pubmsg.externelCtx pubmsg.copied
  right
  refine ⟨error, seq, next, v3, hpushed, ?_⟩
  rw [heq]

/-- The channel that a send worked on, after its call is accepted or not. -/
theorem Pushed.accounted {Msg Context : Type}
    {state next : SendState} {channel nextChannel : Channel Msg Context}
    {error : EzdevSdkKernelError} {carried : Option (Carried Msg)}
    (hpushed : Pushed state channel error next nextChannel)
    (hinv : channel.Accounted carried state.nextAddress) :
    (nextChannel.accept state.nextAddress error).Accounted carried
      next.nextAddress := by
  rcases hpushed.outcome with
    ⟨herror, rfl, hle⟩ | ⟨rfl, hnext, queue, exchange, rfl, hitems, haddress,
      hcount⟩
  · simpa [Channel.accept, herror] using hinv.mono hle
  · rw [hnext]
    simpa [Channel.accept] using hinv.accepted hitems haddress hcount

theorem Pushed.nextAddress_le {Msg Context : Type}
    {state next : SendState} {channel nextChannel : Channel Msg Context}
    {error : EzdevSdkKernelError}
    (hpushed : Pushed state channel error next nextChannel) :
    state.nextAddress ≤ next.nextAddress := by
  rcases hpushed.outcome with ⟨-, -, hle⟩ | ⟨-, hnext, -⟩
  · exact hle
  · omega

theorem Accounted.kernelSend
    {state next : SendState} (hinv : state.Accounted)
    {pubmsg : KernelPubmsg} {malloc : SendMalloc}
    (hstep : state.step (.kernelSend pubmsg malloc) = some next) :
    next.Accounted := by
  simp only [step] at hstep
  rcases ezdevSdkKernelSend_cases state pubmsg malloc with
    ⟨error, herror, heq⟩ | ⟨error, seq, pushed, v2, hpushed, heq⟩
  · rw [heq] at hstep
    simp only [Channel.accept, if_neg herror, Option.some.injEq] at hstep
    exact hstep ▸ hinv
  · rw [heq] at hstep
    simp only [Option.some.injEq] at hstep
    subst hstep
    have hcarriedV2 : pushed.carriedV2 = state.carriedV2 := by
      simp [carriedV2, hpushed.pass_eq]
    have hcarriedV3 : pushed.carriedV3 = state.carriedV3 := by
      simp [carriedV3, hpushed.pass_eq]
    constructor
    · have haccounted := hpushed.accounted hinv.v2
      rw [← hcarriedV2] at haccounted
      exact haccounted
    · have haccounted := hinv.v3.mono hpushed.nextAddress_le
      rw [← hcarriedV3, ← hpushed.v3_eq] at haccounted
      exact haccounted

theorem Accounted.kernelSendV3
    {state next : SendState} (hinv : state.Accounted)
    {pubmsg : KernelPubmsgV3} {malloc : SendMalloc}
    (hstep : state.step (.kernelSendV3 pubmsg malloc) = some next) :
    next.Accounted := by
  simp only [step] at hstep
  rcases ezdevSdkKernelSendV3_cases state pubmsg malloc with
    ⟨error, herror, heq⟩ | ⟨error, seq, pushed, v3, hpushed, heq⟩
  · rw [heq] at hstep
    simp only [Channel.accept, if_neg herror, Option.some.injEq] at hstep
    exact hstep ▸ hinv
  · rw [heq] at hstep
    simp only [Option.some.injEq] at hstep
    subst hstep
    have hcarriedV2 : pushed.carriedV2 = state.carriedV2 := by
      simp [carriedV2, hpushed.pass_eq]
    have hcarriedV3 : pushed.carriedV3 = state.carriedV3 := by
      simp [carriedV3, hpushed.pass_eq]
    constructor
    · have haccounted := hinv.v2.mono hpushed.nextAddress_le
      rw [← hcarriedV2, ← hpushed.v2_eq] at haccounted
      exact haccounted
    · have haccounted := hpushed.accounted hinv.v3
      rw [← hcarriedV3] at haccounted
      exact haccounted

/-! ## The kernel thread -/

theorem afterV2_eq (sdkError : MkernelInternalError) :
    afterV2 sdkError = .between ∨ afterV2 sdkError = .beforeV3 := by
  unfold afterV2
  split <;> simp

theorem betweenPasses_of_afterV2
    (state : SendState) {sdkError : MkernelInternalError}
    (hpass : state.pass = afterV2 sdkError) : state.BetweenPasses := by
  rcases afterV2_eq sdkError with heq | heq <;>
    simp [BetweenPasses, carriedV2, carriedV3, hpass, heq]

theorem Accounted.popPubmsgExchange
    {state next : SendState} (hinv : state.Accounted)
    (hstep : state.popPubmsgExchange = some next) : next.Accounted := by
  obtain ⟨hv2, hv3⟩ := hinv
  unfold SendState.popPubmsgExchange at hstep
  cases hpass : state.pass with
  | between =>
      simp only [carriedV2, carriedV3, hpass] at hv2 hv3
      rw [hpass] at hstep
      cases hpop : state.v2.queue.pop with
      | error sdkError =>
          simp only [hpop, Option.some.injEq] at hstep
          subst hstep
          have hbetween := betweenPasses_of_afterV2
            { state with pass := afterV2 sdkError } rfl
          exact ⟨hbetween.1 ▸ hv2, hbetween.2 ▸ hv3⟩
      | ok popped =>
          simp only [hpop, Option.some.injEq] at hstep
          subst hstep
          exact ⟨hv2.popped hpop, hv3⟩
  | beforeV3 =>
      simp only [carriedV2, carriedV3, hpass] at hv2 hv3
      rw [hpass] at hstep
      cases hpop : state.v3.queue.pop with
      | error sdkError =>
          simp only [hpop, Option.some.injEq] at hstep
          subst hstep
          exact ⟨hv2, hv3⟩
      | ok popped =>
          simp only [hpop, Option.some.injEq] at hstep
          subst hstep
          exact ⟨hv2, hv3.popped hpop⟩
  | v2 carried => simp [hpass] at hstep
  | v3 carried => simp [hpass] at hstep

theorem Accounted.dasSendPubmsg
    {state next : SendState} (hinv : state.Accounted)
    {sdkError : MkernelInternalError}
    (hstep : state.dasSendPubmsg sdkError = some next) : next.Accounted := by
  obtain ⟨hv2, hv3⟩ := hinv
  unfold SendState.dasSendPubmsg at hstep
  cases hpass : state.pass with
  | between => simp [hpass] at hstep
  | beforeV3 => simp [hpass] at hstep
  | v2 carried =>
      simp only [carriedV2, carriedV3, hpass] at hv2 hv3
      rw [hpass] at hstep
      cases carried with
      | published exchange previous => simp at hstep
      | popped exchange =>
          cases hblocked : (checkCmdRiskControl state.kernelDomains
              exchange.msgConntext.msgDomainId
              exchange.msgConntext.msgCommandId).error with
          | none =>
              simp only [hblocked, Option.some.injEq] at hstep
              subst hstep
              exact ⟨hv2.published sdkError, hv3⟩
          | some blocked =>
              simp only [hblocked, Option.some.injEq] at hstep
              subst hstep
              exact ⟨hv2.blocked blocked, hv3⟩
  | v3 carried =>
      simp only [carriedV2, carriedV3, hpass] at hv2 hv3
      rw [hpass] at hstep
      cases carried with
      | published exchange previous => simp at hstep
      | popped exchange =>
          simp only [Option.some.injEq] at hstep
          subst hstep
          exact ⟨hv2, hv3.published sdkError⟩

end SendState

/-- After the publish the channel is accounted for again, or the message was
to be pushed back and was dropped instead. -/
theorem Channel.Accounted.settle_cases {Msg Context : Type}
    {channel : Channel Msg Context} {exchange : PubmsgExchange Msg}
    {sdkError : MkernelInternalError} {nextAddress : ℕ}
    (hinv : channel.Accounted (some (.published exchange sdkError))
      nextAddress)
    (ackContext : Msg → Context) (allocated : Bool) :
    ((channel.settle ackContext exchange sdkError allocated).2.Accounted none
        nextAddress ∧
      (Channel.Retries exchange sdkError →
        ¬ channel.queue.Full ∧ allocated = true)) ∨
    ((channel.settle ackContext exchange sdkError allocated).2 = channel ∧
      ¬ (Channel.Retries exchange sdkError →
        ¬ channel.queue.Full ∧ allocated = true)) := by
  unfold Channel.settle
  by_cases hretries : Channel.Retries exchange sdkError
  · rw [if_pos hretries]
    rcases channel.queue.pushHead_cases
        { exchange with maxSendCount := exchange.maxSendCount - 1 }
        allocated with
      ⟨-, hitems, hroom, halloc⟩ | ⟨-, hsame, hfail⟩
    · left
      exact ⟨hinv.requeued hretries.2 hitems, fun _ => ⟨hroom, halloc⟩⟩
    · right
      refine ⟨by rw [hsame], ?_⟩
      intro hfits
      obtain ⟨hroom, halloc⟩ := hfits hretries
      rcases hfail with hfull | hnone
      · exact hroom hfull
      · simp [halloc] at hnone
  · rw [if_neg hretries]
    left
    exact ⟨hinv.acknowledged _ rfl, fun hpos => absurd hpos hretries⟩

namespace SendState

/-- The settle step either keeps the accounting, under the condition, or
breaks the observed property, without it. -/
theorem Accounted.settle_cases
    {state next : SendState} (hinv : state.Accounted) {allocated : Bool}
    (hstep : state.settle allocated = some next) :
    (next.Accounted ∧ state.RequeueFits (.settle allocated)) ∨
    (¬ next.SettledBetweenPasses ∧
      ¬ state.RequeueFits (.settle allocated)) := by
  obtain ⟨hv2, hv3⟩ := hinv
  unfold SendState.settle at hstep
  cases hpass : state.pass with
  | between => simp [hpass] at hstep
  | beforeV3 => simp [hpass] at hstep
  | v2 carried =>
      simp only [carriedV2, carriedV3, hpass] at hv2 hv3
      rw [hpass] at hstep
      cases carried with
      | popped exchange => simp at hstep
      | published exchange sdkError =>
          simp only [Option.some.injEq] at hstep
          subst hstep
          simp only [RequeueFits, hpass]
          have hbetween : BetweenPasses
              { state with
                v2 := (state.v2.settle KernelPubmsg.ackContext exchange
                  sdkError allocated).2
                pass := afterV2 (state.v2.settle KernelPubmsg.ackContext
                  exchange sdkError allocated).1 } :=
            betweenPasses_of_afterV2 _ rfl
          rcases hv2.settle_cases KernelPubmsg.ackContext allocated with
            ⟨hkept, hfits⟩ | ⟨hsame, hnot⟩
          · left
            exact ⟨⟨hbetween.1 ▸ hkept, hbetween.2 ▸ hv3⟩, hfits⟩
          · right
            refine ⟨?_, hnot⟩
            intro hsettled
            have hchannel := (hsettled hbetween).1
            rw [show (_ : Channel _ _) = state.v2 from hsame] at hchannel
            exact hv2.not_settled_of_dropped hchannel
  | v3 carried =>
      simp only [carriedV2, carriedV3, hpass] at hv2 hv3
      rw [hpass] at hstep
      cases carried with
      | popped exchange => simp at hstep
      | published exchange sdkError =>
          simp only [Option.some.injEq] at hstep
          subst hstep
          simp only [RequeueFits, hpass]
          rcases hv3.settle_cases KernelPubmsgV3.ackContext allocated with
            ⟨hkept, hfits⟩ | ⟨hsame, hnot⟩
          · left
            exact ⟨⟨hv2, hkept⟩, hfits⟩
          · right
            refine ⟨?_, hnot⟩
            intro hsettled
            have hchannel := (hsettled ⟨rfl, rfl⟩).2
            rw [show (_ : Channel _ _) = state.v3 from hsame] at hchannel
            exact hv3.not_settled_of_dropped hchannel

theorem Accounted.step
    {state next : SendState} (hinv : state.Accounted) {event : SendEvent}
    (hfits : state.RequeueFits event)
    (hstep : state.step event = some next) : next.Accounted := by
  cases event with
  | kernelSend pubmsg malloc => exact hinv.kernelSend hstep
  | kernelSendV3 pubmsg malloc => exact hinv.kernelSendV3 hstep
  | riskControl kernelDomains =>
      simp only [SendState.step, Option.some.injEq] at hstep
      subst hstep
      exact ⟨hinv.v2, hinv.v3⟩
  | popPubmsgExchange => exact hinv.popPubmsgExchange hstep
  | dasSendPubmsg sdkError => exact hinv.dasSendPubmsg hstep
  | settle allocated =>
      rcases hinv.settle_cases hstep with ⟨hkept, -⟩ | ⟨-, hnot⟩
      · exact hkept
      · exact absurd hfits hnot

/-- A step outside the condition is a settle step, and it is enabled. -/
theorem Accounted.breaks
    {state : SendState} (hinv : state.Accounted) {event : SendEvent}
    (hnot : ¬ state.RequeueFits event) :
    ∃ next, state.step event = some next ∧ ¬ next.SettledBetweenPasses := by
  cases event with
  | settle allocated =>
      have henabled : ∃ next, state.settle allocated = some next := by
        cases hpass : state.pass with
        | between => simp [RequeueFits, hpass] at hnot
        | beforeV3 => simp [RequeueFits, hpass] at hnot
        | v2 carried =>
            cases carried with
            | popped exchange => simp [RequeueFits, hpass] at hnot
            | published exchange sdkError => simp [SendState.settle, hpass]
        | v3 carried =>
            cases carried with
            | popped exchange => simp [RequeueFits, hpass] at hnot
            | published exchange sdkError => simp [SendState.settle, hpass]
      obtain ⟨next, hstep⟩ := henabled
      refine ⟨next, hstep, ?_⟩
      rcases hinv.settle_cases hstep with ⟨-, hfits⟩ | ⟨hbad, -⟩
      · exact absurd hfits hnot
      · exact hbad
  | _ => exact absurd (by simp [RequeueFits]) hnot

/-- Along every run from a started kernel, whatever the order of calls and
kernel steps, the results of the publishes and the outcomes of allocations:
between passes each accepted message is in its queue or acknowledged once,
and within its publish budget, exactly if every push back fits. -/
theorem settledBetweenPasses_iff_requeueFits
    (kernelDomains : List DomainInfo) (dasTransportSeq : ℕ)
    (pubMaxSize : Fin (2 ^ 16)) (events : List SendEvent) :
    StepSystem.Along step SettledBetweenPasses
        (started kernelDomains dasTransportSeq pubMaxSize) events ↔
      StepSystem.StepsMeet step RequeueFits
        (started kernelDomains dasTransportSeq pubMaxSize) events :=
  StepSystem.along_iff_stepsMeet
    (fun _ hinv => hinv.settledBetweenPasses)
    (fun _ _ _ hinv hfits hstep => hinv.step hfits hstep)
    (fun _ _ hinv hnot => hinv.breaks hnot)
    (started_accounted kernelDomains dasTransportSeq pubMaxSize)

/-- A 2.0 request of one byte to the device domain. -/
def deviceRequest : KernelPubmsg where
  msgResponse := 0
  msgQos := 1
  msgSeq := 0
  msgBody := some [0x7b]
  msgDomainId := dasCmdDomain
  msgCommandId := 0x2801
  externelCtx := none
  commandVer := "v1.0.0".toList

/-- Another thread sends sixteen requests while the first one is being
published, and that publish fails. -/
def refillEvents : List SendEvent :=
  let send : SendEvent := .kernelSend deviceRequest ⟨true, true, true, true⟩
  [send, .popPubmsgExchange, .dasSendPubmsg .callMqttPubError] ++
    List.replicate ezdevSdkQueueMax send ++ [.settle true]

/-- With the queue length of the build the first request is lost in that run,
although every allocation succeeds. -/
theorem refill_loses_request :
    ¬ StepSystem.Along step SettledBetweenPasses
        (started [] 0 (Fin.ofNat _ ezdevSdkQueueMax)) refillEvents := by
  have hlost :
      (StepSystem.exec step (started [] 0 (Fin.ofNat _ ezdevSdkQueueMax))
        refillEvents).any (fun next =>
          next.carriedV2.isNone && next.carriedV3.isNone &&
            next.v2.accepted.contains 0 &&
            !next.v2.queuedAddresses.contains 0 &&
            next.v2.ackedAddresses.count 0 == 0) = true := by
    decide +kernel
  intro halong
  rw [Option.any_eq_true] at hlost
  obtain ⟨next, hexec, hnext⟩ := hlost
  simp only [Bool.and_eq_true, Option.isNone_iff_eq_none, List.contains_iff_mem,
    Bool.not_eq_true', beq_iff_eq] at hnext
  obtain ⟨⟨⟨⟨hv2, hv3⟩, haccepted⟩, hqueued⟩, hacked⟩ := hnext
  have hsettled := (halong refillEvents [] next (by simp) hexec ⟨hv2, hv3⟩).1
  rcases hsettled.oneOf 0 haccepted with ⟨hmem, -⟩ | ⟨-, hone⟩
  · simp [hmem] at hqueued
  · omega

end SendState

end EziotSdk

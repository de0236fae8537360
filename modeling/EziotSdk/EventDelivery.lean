import EziotSdk.AccessMachine
import EziotSdk.ScanLoops
import EziotSdk.SendQueue

/-!
# Delivery of kernel events

`consume_extend_event` takes one notice from its queue and walks through the
table of the 2.0 domains.  Its loops stop at the first slot that is free or
has no callback, and the table of the 3.0 extensions is not walked through at
all.  An event reaches everybody it is owed to exactly in the states that the
condition below describes.
-/

namespace EziotSdk

/-! ## Notices -/

/-- What `cb_event` carries: an event of the access code, or a runtime error
with one of the tags of a send acknowledgement. -/
inductive CbEvent where
  | kernel (event : SdkKernelEvent)
  | msgAck (errCode : EzdevSdkKernelError) (errCtx : SendMsgAckContext)
  | msgAckV3 (errCode : EzdevSdkKernelError) (errCtx : SendMsgAckContextV3)
  deriving DecidableEq

/-- `ezdev_sdk_kernel_inner_cb_notic`, by its `cb_type`. -/
inductive InnerCbNotic where
  | extendCbStart
  | extendCbStop
  | extendCbEvent (event : CbEvent)
  deriving DecidableEq

/-- A call of a callback; its function pointer and `pUser` are those of the
record. -/
inductive EventCall where
  | extendStart (external : KernelExtend)
  | extendStop (external : KernelExtend)
  | extendEvent (external : KernelExtend) (event : CbEvent)
  | extendEventV3 (external : KernelExtendV3) (event : CbEvent)
  | eventNotice (event : CbEvent)
  deriving DecidableEq

/-- The domain that `ptr_ack_ctx` names, if it is set. -/
def CbEvent.ackDomain : CbEvent → Option ℕ
  | .msgAck _ errCtx => some errCtx.msgDomainId
  | _ => none

/-- The loop does not skip this domain. -/
def CbEvent.addresses (event : CbEvent) (external : KernelExtend) : Bool :=
  event.ackDomain.all (external.domainId = ·)

/-- The domains that a loop gets to before it breaks. -/
def visitedDomains (callback : KernelExtend → FunctionPointer)
    (kernelDomains : List DomainInfo) : List KernelExtend :=
  (kernelDomains.map DomainInfo.kernelExtend).takeWhile fun external =>
    external.domainId ≠ 0 && (callback external).isSome

/-- `consume_extend_event` with the notice it popped. -/
def consumeExtendEvent (kernelDomains : List DomainInfo) :
    InnerCbNotic → List EventCall
  | .extendCbStart =>
      (visitedDomains KernelExtend.extendStart kernelDomains).map
        EventCall.extendStart
  | .extendCbStop =>
      (visitedDomains KernelExtend.extendStop kernelDomains).map
        EventCall.extendStop
  | .extendCbEvent event =>
      ((visitedDomains KernelExtend.extendEvent kernelDomains).filter
          event.addresses).map (EventCall.extendEvent · event) ++
        if event.ackDomain = none then [.eventNotice event] else []

/-! ## The system -/

/-- The texts of a message fit the members of
`ezdev_sdk_kernel_pubmsg_v3`. -/
structure HeldPubmsgV3 where
  pubmsg : KernelPubmsgV3
  domainId_lt : pubmsg.domainId.length < 64
  resourceId_lt : pubmsg.resourceId.length < 64
  resourceType_lt : pubmsg.resourceType.length < 64
  businessType_lt : pubmsg.businessType.length < 64
  identifier_lt : pubmsg.identifier.length < 64
  subSerial_lt : pubmsg.subSerial.length < 72

/-- A notice that was consumed, the calls that it led to, and the modules that
were registered then. -/
structure Consumption where
  notic : InnerCbNotic
  calls : List EventCall
  registeredDomains : List KernelExtend
  registeredExtends : List KernelExtendV3

/-- The tables and the queue, with the record of a run: the accepted
registrations, the queued notices, the acknowledgements of 3.0 messages, and
what was consumed. -/
structure EventState where
  kernelDomains : List DomainInfo
  kernelExtends : List KernelExtendV3
  queue : KernelQueue InnerCbNotic
  registeredDomains : List KernelExtend
  registeredExtends : List KernelExtendV3
  queued : List InnerCbNotic
  acknowledged : List (KernelPubmsgV3 × SendMsgAckContextV3)
  consumed : List Consumption

namespace EventState

def init (extendCount cmdMax : ℕ) (maxsize : Fin (2 ^ 16)) : EventState where
  kernelDomains := (extendInit extendCount cmdMax).kernelDomains
  kernelExtends := (extendInit extendCount cmdMax).kernelExtends
  queue := KernelQueue.init maxsize
  registeredDomains := []
  registeredExtends := []
  queued := []
  acknowledged := []
  consumed := []

def load (state : EventState) (external : KernelExtend) : EventState :=
  let outcome := EziotSdk.extendLoad external state.kernelDomains
  if outcome.1 = .succ then
    { state with
      kernelDomains := outcome.2
      registeredDomains := state.registeredDomains ++ [external] }
  else state

def loadV3 (state : EventState) (external : KernelExtendV3) : EventState :=
  let outcome := EziotSdk.extendLoadV3 external state.kernelExtends
  if outcome.1 = .succ then
    { state with
      kernelExtends := outcome.2
      registeredExtends := state.registeredExtends ++ [external] }
  else state

/-- The `broadcast_*` functions push a notice. -/
def broadcast (state : EventState) (notic : InnerCbNotic)
    (allocated : Bool) : EventState :=
  let outcome := state.queue.push notic allocated
  if outcome.1 = .succ then
    { state with queue := outcome.2, queued := state.queued ++ [notic] }
  else state

/-- The end of `send_message_to_das_v3`. -/
def acknowledgeV3 (state : EventState) (errCode : EzdevSdkKernelError)
    (held : HeldPubmsgV3) (allocated : Bool) : EventState :=
  let context := held.pubmsg.ackContext
  broadcast
    { state with
      acknowledged := state.acknowledged ++ [(held.pubmsg, context)] }
    (.extendCbEvent (.msgAckV3 errCode context)) allocated

def consume (state : EventState) : EventState :=
  match state.queue.pop with
  | .error _ => state
  | .ok (notic, queue) =>
      { state with
        queue := queue
        consumed := state.consumed ++
          [{ notic := notic
             calls := consumeExtendEvent state.kernelDomains notic
             registeredDomains := state.registeredDomains
             registeredExtends := state.registeredExtends }] }

end EventState

inductive EventStep where
  | load (external : KernelExtend)
  | loadV3 (external : KernelExtendV3)
  | broadcast (notic : InnerCbNotic) (allocated : Bool)
  | acknowledgeV3 (errCode : EzdevSdkKernelError) (held : HeldPubmsgV3)
      (allocated : Bool)
  | consume

def eventStep (state : EventState) : EventStep → Option EventState
  | .load external => some (state.load external)
  | .loadV3 external => some (state.loadV3 external)
  | .broadcast notic allocated => some (state.broadcast notic allocated)
  | .acknowledgeV3 errCode held allocated =>
      some (state.acknowledgeV3 errCode held allocated)
  | .consume => some state.consume

/-! ## What is owed -/

def wantsEvent (external : KernelExtend) : Bool :=
  external.extendEvent.isSome

def wantsEventV3 (external : KernelExtendV3) : Bool :=
  external.extendEvent.isSome

/-- The calls owed to the registered domains that an event addresses. -/
def owedDomains (registered : List KernelExtend) (event : CbEvent) :
    List EventCall :=
  (registered.filter fun external =>
    wantsEvent external && event.addresses external).map
      (EventCall.extendEvent · event)

def owedExtends (registered : List KernelExtendV3) (event : CbEvent) :
    List EventCall :=
  (registered.filter wantsEventV3).map (EventCall.extendEventV3 · event)

/-- The calls of a consumed notice are those that it owes. -/
def Consumption.Right (consumption : Consumption) : Prop :=
  match consumption.notic with
  | .extendCbStart | .extendCbStop => True
  | .extendCbEvent (.kernel event) =>
      consumption.calls.Perm
        (owedDomains consumption.registeredDomains (.kernel event) ++
          owedExtends consumption.registeredExtends (.kernel event) ++
          [.eventNotice (.kernel event)])
  | .extendCbEvent (.msgAck errCode errCtx) =>
      consumption.calls.Perm
        (owedDomains consumption.registeredDomains (.msgAck errCode errCtx))
  | .extendCbEvent (.msgAckV3 errCode errCtx) =>
      ∀ external ∈ consumption.registeredExtends,
        external.extendId = errCtx.extendId → wantsEventV3 external = true →
          .extendEventV3 external (.msgAckV3 errCode errCtx) ∈
            consumption.calls

/-- The context of an acknowledgement has the fields of its message. -/
structure SendMsgAckContextV3.Carries (context : SendMsgAckContextV3)
    (pubmsg : KernelPubmsgV3) : Prop where
  resourceId : context.resourceId = pubmsg.resourceId
  resourceType : context.resourceType = pubmsg.resourceType
  businessType : context.businessType = pubmsg.businessType
  domainId : context.domainId = pubmsg.domainId
  identifier : context.identifier = pubmsg.identifier
  subSerial : context.subSerial = pubmsg.subSerial
  msgSeq : context.msgSeq = pubmsg.msgSeq

structure EventState.Delivers (state : EventState) : Prop where
  fifo : state.queued =
    state.consumed.map Consumption.notic ++ state.queue.items
  right : ∀ consumption ∈ state.consumed, consumption.Right
  carries : ∀ pair ∈ state.acknowledged, pair.2.Carries pair.1

/-! ## The condition -/

/-- The addressed domains with a callback have an id other than `0`, and no
domain without a callback was registered before them. -/
def Unhindered (registered : List KernelExtend) (event : CbEvent) : Prop :=
  (∀ external ∈ registered, event.addresses external = true →
    wantsEvent external = true → external.domainId ≠ 0) ∧
  (registered.filter fun external => external.domainId ≠ 0).Pairwise
    fun earlier later => event.addresses later = true →
      wantsEvent later = true → wantsEvent earlier = true

def EventState.Reaches (state : EventState) : EventStep → Prop
  | .load _ | .loadV3 _ | .broadcast _ _ => True
  | .acknowledgeV3 _ held _ => held.pubmsg.subSerial.length ≤ 63
  | .consume =>
      match state.queue.items with
      | .extendCbEvent (.kernel event) :: _ =>
          Unhindered state.registeredDomains (.kernel event) ∧
            ∀ external ∈ state.registeredExtends,
              wantsEventV3 external = false
      | .extendCbEvent (.msgAck errCode errCtx) :: _ =>
          Unhindered state.registeredDomains (.msgAck errCode errCtx)
      | .extendCbEvent (.msgAckV3 _ errCtx) :: _ =>
          ∀ external ∈ state.registeredExtends,
            external.extendId = errCtx.extendId →
              wantsEventV3 external = false
      | _ => True

end EziotSdk

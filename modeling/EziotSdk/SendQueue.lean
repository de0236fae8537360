import EziotSdk.KernelQueue
import EziotSdk.RiskControl

/-!
# The send path

Applications call `ezdev_sdk_kernel_send` and `ezdev_sdk_kernel_send_v3` from
any thread; each call that succeeds leaves one exchange record in a bounded
queue.  The kernel thread runs `das_message_send`, which takes one message
from the 2.0 queue and then one from the 3.0 queue, publishes it without the
queue's lock and afterwards either pushes it back to the head or hands an
acknowledgement event to `broadcast_runtime_err`.

The queue operations are atomic and the publish is not, so the kernel thread
is given as one step for the pop, one for the publish and one for what
follows, and calls of other threads may come between any two of them.
-/

namespace EziotSdk

/-- `ezdev_sdk_kernel_pubmsg`.  A buffer and its length field are one list,
`none` for the NULL pointer. -/
structure KernelPubmsg where
  msgResponse : ℕ
  msgQos : ℕ
  msgSeq : ℕ
  msgBody : Option (List UInt8)
  msgDomainId : ℕ
  msgCommandId : ℕ
  externelCtx : Option (List UInt8)
  commandVer : CString
  deriving DecidableEq, Repr

structure KernelPubmsgV3 where
  msgQos : ℕ
  msgResponse : ℕ
  msgSeq : ℕ
  externelCtx : Option (List UInt8)
  extendId : ℕ
  msgBody : Option (List UInt8)
  commandVer : CString
  domainId : CString
  resourceId : CString
  resourceType : CString
  businessType : CString
  identifier : CString
  subSerial : CString
  deriving DecidableEq, Repr

/-- The exchange record of either protocol.  The address identifies the heap
block, and with it the message, for as long as the message exists. -/
structure PubmsgExchange (Msg : Type) where
  address : ℕ
  maxSendCount : ℕ
  msgConntext : Msg
  deriving DecidableEq, Repr

structure SendMsgAckContext where
  msgDomainId : ℕ
  msgCommandId : ℕ
  msgSeq : ℕ
  msgQos : ℕ
  externelCtx : Option (List UInt8)
  deriving DecidableEq, Repr

structure SendMsgAckContextV3 where
  msgQos : ℕ
  extendId : ℕ
  msgSeq : ℕ
  externelCtx : Option (List UInt8)
  domainId : CString
  resourceId : CString
  resourceType : CString
  businessType : CString
  identifier : CString
  subSerial : CString
  deriving DecidableEq, Repr

/-- An event handed to `broadcast_runtime_err` for the message at an
address. -/
structure AckEvent (Context : Type) where
  address : ℕ
  errCode : EzdevSdkKernelError
  errCtx : Context
  deriving DecidableEq, Repr

/-- One queue with the record of what has happened to its messages: the
accepted ones, one entry for each call of the publish function, and the
acknowledgement events. -/
structure Channel (Msg Context : Type) where
  queue : KernelQueue (PubmsgExchange Msg)
  accepted : List ℕ
  handed : List ℕ
  acked : List (AckEvent Context)
  deriving DecidableEq

/-- The message in the hands of the kernel thread. -/
inductive Carried (Msg : Type) where
  | popped (exchange : PubmsgExchange Msg)
  | published (exchange : PubmsgExchange Msg) (sdkError : MkernelInternalError)
  deriving DecidableEq, Repr

/-- Where the kernel thread is in `das_message_send`. -/
inductive Pass where
  | between
  | v2 (carried : Carried KernelPubmsg)
  | beforeV3
  | v3 (carried : Carried KernelPubmsgV3)
  deriving DecidableEq, Repr

structure SendState where
  myState : SdkState
  kernelDomains : List DomainInfo
  dasTransportSeq : ℕ
  nextAddress : ℕ
  v2 : Channel KernelPubmsg SendMsgAckContext
  v3 : Channel KernelPubmsgV3 SendMsgAckContextV3
  pass : Pass
  deriving DecidableEq

def Channel.init {Msg Context : Type} (maxsize : Fin (2 ^ 16)) :
    Channel Msg Context where
  queue := KernelQueue.init maxsize
  accepted := []
  handed := []
  acked := []

/-- A started kernel with empty queues. -/
def SendState.started
    (kernelDomains : List DomainInfo) (dasTransportSeq : ℕ)
    (pubMaxSize : Fin (2 ^ 16)) : SendState where
  myState := .start
  kernelDomains := kernelDomains
  dasTransportSeq := dasTransportSeq
  nextAddress := 0
  v2 := Channel.init pubMaxSize
  v3 := Channel.init pubMaxSize
  pass := .between

/-! ## The callers' side -/

/-- The outcomes of the allocations a send makes, in the order it makes
them. -/
structure SendMalloc where
  exchange : Bool
  body : Bool
  externelCtx : Bool
  element : Bool
  deriving DecidableEq, Repr

/-- `NULL == msg_body || 0 == msg_body_len`. -/
def bodyMissing (msgBody : Option (List UInt8)) : Prop :=
  msgBody = none ∨ msgBody = some []

instance (msgBody : Option (List UInt8)) : Decidable (bodyMissing msgBody) :=
  inferInstanceAs (Decidable (_ ∨ _))

def bodyLen (msgBody : Option (List UInt8)) : ℕ :=
  (msgBody.getD []).length

/-- An empty external context is not copied. -/
def copyExternelCtx (externelCtx : Option (List UInt8)) :
    Option (List UInt8) :=
  if externelCtx = some [] then none else externelCtx

def genaralSeq (state : SendState) : ℕ × SendState :=
  let seq := (state.dasTransportSeq + 1) % 2 ^ 32
  (seq, { state with dasTransportSeq := seq })

/-- A request gets the next sequence number, a response keeps its own. -/
def assignSeq (state : SendState) (msgResponse msgSeq : ℕ) : ℕ × SendState :=
  if msgResponse = 0 then genaralSeq state else (msgSeq, state)

def KernelPubmsg.copied (pubmsg : KernelPubmsg) (msgSeq : ℕ) :
    KernelPubmsg :=
  { pubmsg with
    msgSeq := msgSeq
    commandVer := CString.strncpy pubmsg.commandVer 31
    externelCtx := copyExternelCtx pubmsg.externelCtx }

def KernelPubmsgV3.copied (pubmsg : KernelPubmsgV3) (msgSeq : ℕ) :
    KernelPubmsgV3 :=
  { pubmsg with
    msgSeq := msgSeq
    commandVer := CString.strncpy pubmsg.commandVer 31
    domainId := CString.strncpy pubmsg.domainId 63
    resourceId := CString.strncpy pubmsg.resourceId 63
    resourceType := CString.strncpy pubmsg.resourceType 63
    businessType := CString.strncpy pubmsg.businessType 63
    identifier := CString.strncpy pubmsg.identifier 63
    subSerial := CString.strncpy pubmsg.subSerial 71
    externelCtx := copyExternelCtx pubmsg.externelCtx }

/-- The part both send functions share, from the first allocation to the
push: the error, the sequence number written back to the caller's message and
the state with the channel after the push. -/
def pushCopied {Msg Context : Type} (state : SendState)
    (channel : Channel Msg Context) (malloc : SendMalloc)
    (msgResponse msgSeq : ℕ) (externelCtx : Option (List UInt8))
    (copied : ℕ → Msg) :
    EzdevSdkKernelError × ℕ × SendState × Channel Msg Context :=
  if ¬ (malloc.exchange ∧ malloc.body) then
    (.memory, msgSeq, state, channel)
  else
    let (seq, state) := assignSeq state msgResponse msgSeq
    if copyExternelCtx externelCtx ≠ none ∧ ¬ malloc.externelCtx then
      (.memory, seq, state, channel)
    else
      let exchange : PubmsgExchange Msg :=
        { address := state.nextAddress
          maxSendCount := ezdevSdkMaxPublishCount
          msgConntext := copied seq }
      let (error, queue) := channel.queue.push exchange malloc.element
      (mkiE2ezE error, seq,
        { state with nextAddress := state.nextAddress + 1 },
        { channel with queue := queue })

def ezdevSdkKernelSend
    (state : SendState) (pubmsg : KernelPubmsg) (malloc : SendMalloc) :
    EzdevSdkKernelError × KernelPubmsg × SendState :=
  if state.myState ≠ .start then (.invaldCall, pubmsg, state)
  else if bodyMissing pubmsg.msgBody then (.paramsInvalid, pubmsg, state)
  else if pubmsg.msgCommandId ∉ sendISAPICommands ∧
      ezdevSdkComMsgMaxBuf < bodyLen pubmsg.msgBody then
    (.dataLenRange, pubmsg, state)
  else if ezdevSdkSendBufMax < bodyLen pubmsg.msgBody then
    (.dataLenRange, pubmsg, state)
  else
    match (checkCmdRiskControl state.kernelDomains pubmsg.msgDomainId
        pubmsg.msgCommandId).error with
    | some error => (mkiE2ezE error, pubmsg, state)
    | none =>
        let (error, seq, state, v2) :=
          pushCopied state state.v2 malloc pubmsg.msgResponse pubmsg.msgSeq
            pubmsg.externelCtx pubmsg.copied
        (error, { pubmsg with msgSeq := seq }, { state with v2 := v2 })

def ezdevSdkKernelSendV3
    (state : SendState) (pubmsg : KernelPubmsgV3) (malloc : SendMalloc) :
    EzdevSdkKernelError × KernelPubmsgV3 × SendState :=
  if state.myState ≠ .start then (.invaldCall, pubmsg, state)
  else if bodyMissing pubmsg.msgBody then (.paramsInvalid, pubmsg, state)
  else if ezdevSdkSendBufMax < bodyLen pubmsg.msgBody then
    (.dataLenRange, pubmsg, state)
  else
    let (error, seq, state, v3) :=
      pushCopied state state.v3 malloc pubmsg.msgResponse pubmsg.msgSeq
        pubmsg.externelCtx pubmsg.copied
    (error, { pubmsg with msgSeq := seq }, { state with v3 := v3 })

/-! ## The kernel thread's side -/

def KernelPubmsg.ackContext (pubmsg : KernelPubmsg) : SendMsgAckContext where
  msgDomainId := pubmsg.msgDomainId
  msgCommandId := pubmsg.msgCommandId
  msgSeq := pubmsg.msgSeq
  msgQos := pubmsg.msgQos
  externelCtx := pubmsg.externelCtx

def KernelPubmsgV3.ackContext (pubmsg : KernelPubmsgV3) :
    SendMsgAckContextV3 where
  msgQos := pubmsg.msgQos
  extendId := pubmsg.extendId
  msgSeq := pubmsg.msgSeq
  externelCtx := pubmsg.externelCtx
  domainId := CString.strncpy pubmsg.domainId 63
  resourceId := CString.strncpy pubmsg.resourceId 63
  resourceType := CString.strncpy pubmsg.resourceType 63
  businessType := CString.strncpy pubmsg.businessType 63
  identifier := CString.strncpy pubmsg.identifier 63
  subSerial := CString.strncpy pubmsg.subSerial 63

namespace Channel

variable {Msg Context : Type}

/-- The publish function is called with the message. -/
def hand (channel : Channel Msg Context) (exchange : PubmsgExchange Msg) :
    Channel Msg Context :=
  { channel with handed := channel.handed ++ [exchange.address] }

/-- `max_send_count-- > 1` after a publish error. -/
def Retries (exchange : PubmsgExchange Msg)
    (sdkError : MkernelInternalError) : Prop :=
  sdkError = .callMqttPubError ∧ 1 < exchange.maxSendCount

instance (exchange : PubmsgExchange Msg) (sdkError : MkernelInternalError) :
    Decidable (Retries exchange sdkError) :=
  inferInstanceAs (Decidable (_ ∧ _))

/-- What follows the publish.  The result of `push_queue_head` is not looked
at: the function returns `das_need_reconnect` whether the message went back
into the queue or not. -/
def settle (ackContext : Msg → Context) (channel : Channel Msg Context)
    (exchange : PubmsgExchange Msg) (sdkError : MkernelInternalError)
    (allocated : Bool) : MkernelInternalError × Channel Msg Context :=
  if Retries exchange sdkError then
    (.dasNeedReconnect,
      { channel with
        queue := (channel.queue.pushHead
          { exchange with maxSendCount := exchange.maxSendCount - 1 }
          allocated).2 })
  else
    (sdkError,
      { channel with
        acked := channel.acked ++
          [{ address := exchange.address
             errCode := mkiE2ezE sdkError
             errCtx := ackContext exchange.msgConntext }] })

/-- The call returned success: its message is an accepted one. -/
def accept (channel : Channel Msg Context) (address : ℕ)
    (error : EzdevSdkKernelError) : Channel Msg Context :=
  if error = .succ then
    { channel with accepted := channel.accepted ++ [address] }
  else channel

end Channel

/-- The steps of the system.  `riskControl` is a risk message of the cloud
handled in between. -/
inductive SendEvent where
  | kernelSend (pubmsg : KernelPubmsg) (malloc : SendMalloc)
  | kernelSendV3 (pubmsg : KernelPubmsgV3) (malloc : SendMalloc)
  | riskControl (kernelDomains : List DomainInfo)
  | popPubmsgExchange
  | dasSendPubmsg (sdkError : MkernelInternalError)
  | settle (allocated : Bool)
  deriving DecidableEq

namespace SendState

/-- `das_message_send` goes on to the 3.0 queue only after success or an
empty 2.0 queue. -/
def afterV2 (sdkError : MkernelInternalError) : Pass :=
  if sdkError ≠ .succ ∧ sdkError ≠ .queueEmpty then .between else .beforeV3

def popPubmsgExchange (state : SendState) : Option SendState :=
  match state.pass with
  | .between =>
      match state.v2.queue.pop with
      | .error sdkError => some { state with pass := afterV2 sdkError }
      | .ok (exchange, queue) =>
          some { state with
            v2 := { state.v2 with queue := queue }
            pass := .v2 (.popped exchange) }
  | .beforeV3 =>
      match state.v3.queue.pop with
      | .error _ => some { state with pass := .between }
      | .ok (exchange, queue) =>
          some { state with
            v3 := { state.v3 with queue := queue }
            pass := .v3 (.popped exchange) }
  | _ => none

/-- The publish of the message in hand.  A 2.0 message is checked once more
for risk control and is not published when it is blocked. -/
def dasSendPubmsg (state : SendState) (sdkError : MkernelInternalError) :
    Option SendState :=
  match state.pass with
  | .v2 (.popped exchange) =>
      match (checkCmdRiskControl state.kernelDomains
          exchange.msgConntext.msgDomainId
          exchange.msgConntext.msgCommandId).error with
      | none =>
          some { state with
            v2 := state.v2.hand exchange
            pass := .v2 (.published exchange sdkError) }
      | some blocked =>
          some { state with pass := .v2 (.published exchange blocked) }
  | .v3 (.popped exchange) =>
      some { state with
        v3 := state.v3.hand exchange
        pass := .v3 (.published exchange sdkError) }
  | _ => none

def settle (state : SendState) (allocated : Bool) : Option SendState :=
  match state.pass with
  | .v2 (.published exchange sdkError) =>
      let (result, v2) :=
        state.v2.settle KernelPubmsg.ackContext exchange sdkError allocated
      some { state with v2 := v2, pass := afterV2 result }
  | .v3 (.published exchange sdkError) =>
      let (_, v3) :=
        state.v3.settle KernelPubmsgV3.ackContext exchange sdkError allocated
      some { state with v3 := v3, pass := .between }
  | _ => none

def step (state : SendState) : SendEvent → Option SendState
  | .kernelSend pubmsg malloc =>
      let (error, _, next) := ezdevSdkKernelSend state pubmsg malloc
      some { next with v2 := next.v2.accept state.nextAddress error }
  | .kernelSendV3 pubmsg malloc =>
      let (error, _, next) := ezdevSdkKernelSendV3 state pubmsg malloc
      some { next with v3 := next.v3.accept state.nextAddress error }
  | .riskControl kernelDomains =>
      some { state with kernelDomains := kernelDomains }
  | .popPubmsgExchange => state.popPubmsgExchange
  | .dasSendPubmsg sdkError => state.dasSendPubmsg sdkError
  | .settle allocated => state.settle allocated

end SendState

end EziotSdk

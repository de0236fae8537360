import EziotSdk.MqttRoundTrips
import EziotSdk.MqttStream
import EziotSdk.MqttTopics

/-!
# The MQTT client

`cycle` reads a packet, hands a publication to the handlers of the
subscriptions and answers it.  The network below it is given by the socket's
events and by what becomes of each write; the part of the read buffer behind a
packet is whatever earlier packets have left there.
-/

namespace EziotSdk

/-! ## State -/

/-- What a write comes to: so many bytes, and whether the timer has expired
after them, or an error. -/
inductive WriteOutcome where
  | wrote (count : ℕ) (expired : Bool)
  | failed (error : NetTcpErr)
  deriving DecidableEq, Repr

variable {Handler : Type}

structure MqttClient (Handler : Type) where
  net : MqttNet
  bufSize : ℕ
  readbufSize : ℕ
  /-- The slots: a filter, empty where none is subscribed, and the
  callback. -/
  messageHandlers : List (Bytes × Option Handler)
  keepAliveInterval : ℕ
  pingOutstanding : Bool
  /-- The calls of the callbacks so far. -/
  delivered : List (Handler × PublishOut)
  /-- The packets that `sendPacket` was called for, with the bytes that went
  out. -/
  written : List (MqttMsgType × Bytes)

/-- What one call of `cycle` meets. -/
structure CycleInput where
  stale : Bytes
  writes : List WriteOutcome
  pingDue : Bool
  pingWrites : List WriteOutcome

/-! ## Sending -/

/-- The loop of `sendPacket`: the bytes that went out, whether they are all,
and the last error. -/
def sendLoop : List WriteOutcome → Bytes → Bytes × Bool × NetTcpErr
  | [], _ => ([], false, .socketErr)
  | .failed error :: _, _ => ([], false, error)
  | .wrote count expired :: writes, packet =>
      if count = 0 then ([], false, .succ)
      else if packet.drop count = [] then (packet, true, .succ)
      else if expired then (packet.take count, false, .succ)
      else
        let (sent, whole, error) := sendLoop writes (packet.drop count)
        (packet.take count ++ sent, whole, error)

def sendPacket (writes : List WriteOutcome) (packettype : MqttMsgType)
    (packet : Bytes) (client : MqttClient Handler) :
    Bool × MqttClient Handler :=
  let (sent, whole, error) := sendLoop writes packet
  (whole, { client with
    net := { client.net with lastError := error }
    written := client.written ++ [(packettype, sent)] })

/-! ## Delivery -/

/-- `MQTTPacket_equals` for a string with a length; nothing when it compares
through a null pointer. -/
def packetEquals (a : MqttLenString) (bptr : Bytes) : Option Bool :=
  if a.len ≠ bptr.length then some false
  else if a.len = 0 then some true
  else a.data.map fun _ => decide (a.text = bptr)

def handlerTakes (topicFilter : Bytes) (topicName : MqttLenString) :
    Option Bool := do
  let equal ← packetEquals topicName topicFilter
  pure (equal || isTopicMatched topicFilter topicName)

/-- The calls of `deliverMessage`. -/
def deliverMessage (message : PublishOut) :
    List (Bytes × Option Handler) → Option (List (Handler × PublishOut))
  | [] => some []
  | (topicFilter, fp) :: handlers => do
      let taken ← handlerTakes topicFilter message.topicName
      let calls ← deliverMessage message handlers
      pure ((if taken then fp.toList.map (·, message) else []) ++ calls)

/-! ## The cycle -/

def keepalive (input : CycleInput) (client : MqttClient Handler) :
    MqttClient Handler :=
  if client.keepAliveInterval = 0 ∨ input.pingDue = false then client
  else
    match serializePingreq client.bufSize with
    | .error _ => client
    | .ok packet =>
        let (whole, client) :=
          sendPacket input.pingWrites .pingreq packet client
        if whole then { client with pingOutstanding := true } else client

/-- An acknowledgement by `MQTTSerialize_ack` and `sendPacket`. -/
def sendAck (input : CycleInput) (packettype : MqttMsgType) (packetid : ℕ)
    (client : MqttClient Handler) : Bool × MqttClient Handler :=
  match serializeAck client.bufSize packettype 0 packetid with
  | .error _ => (false, client)
  | .ok packet => sendPacket input.writes packettype packet client

/-- What `cycle` sends for a publication; `false` is its failure. -/
def answerPublish (input : CycleInput) (message : PublishOut)
    (client : MqttClient Handler) : Bool × MqttClient Handler :=
  if message.qos = 0 then (true, client)
  else if message.qos = 1 then
    sendAck input .puback message.packetid client
  else if message.qos = 2 then
    sendAck input .pubrec message.packetid client
  else (false, client)

/-- `FAILURE`. -/
def mqttFailure : ℤ := -1

/-- The end of `cycle` after its `switch`. -/
def cycleEnd (input : CycleInput) (packetType : ℕ)
    (answered : Bool × MqttClient Handler) : ℤ × MqttClient Handler :=
  if answered.1 then (packetType, keepalive input answered.2)
  else (mqttFailure, answered.2)

/-- The case of a publication; nothing when the memory that is read is not
the packet's. -/
def cyclePublish (input : CycleInput) (buf : Bytes)
    (client : MqttClient Handler) : Option (ℤ × MqttClient Handler) := do
  let (rc, message) ← deserializePublish buf
  if rc ≠ 1 then pure (MqttMsgType.publish.code, client)
  else do
    let calls ← deliverMessage message client.messageHandlers
    pure (cycleEnd input MqttMsgType.publish.code
      (answerPublish input message
        { client with delivered := client.delivered ++ calls }))

/-- The case of a first answer to a publication of quality two; nothing when
it acknowledges with a packet id that was never set. -/
def cyclePubrec (input : CycleInput) (buf : Bytes)
    (client : MqttClient Handler) : Option (ℤ × MqttClient Handler) := do
  let (rc, ack) ← deserializeAck buf
  if rc ≠ 1 then pure (mqttFailure, client)
  else do
    let mypacketid ← ack.packetid
    pure (cycleEnd input MqttMsgType.pubrec.code
      (sendAck input .pubrel mypacketid client))

/-- `cycle`, with the type of the packet as its result. -/
def cycle (input : CycleInput) (client : MqttClient Handler) :
    Option (ℤ × MqttClient Handler) :=
  let (packet, net) := readPacket client.readbufSize client.net
  let client := { client with net := net }
  match packet with
  | none =>
      if net.Broken then some (65535, client)
      else some (cycleEnd input 65535 (true, client))
  | some packet =>
      let packetType := (MqttHeader.ofByte (packet.headD 0)).type
      if net.Broken then some (packetType, client)
      else if packetType = MqttMsgType.publish.code then
        cyclePublish input (packet ++ input.stale) client
      else if packetType = MqttMsgType.pubrec.code then
        cyclePubrec input (packet ++ input.stale) client
      else if packetType = MqttMsgType.pingresp.code then
        some (cycleEnd input packetType
          (true, { client with pingOutstanding := false }))
      else some (cycleEnd input packetType (true, client))

/-- Calls of `cycle` up to the first after which the connection is given
up. -/
def runCycles : List CycleInput → MqttClient Handler →
    Option (MqttClient Handler)
  | [], client => some client
  | input :: inputs, client => do
      let (_, client) ← cycle input client
      if client.net.Broken then pure client else runCycles inputs client

end EziotSdk

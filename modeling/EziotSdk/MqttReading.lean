import EziotSdk.MqttBuffers

/-!
# Reading MQTT packets

The deserializers of `paho.mqtt.embedded/src` on the read buffer.  Whatever
the caller's variables hold when a deserializer gives up stays there, and the
code it then returns is the number of length bytes: one, the code of success,
for every packet of less than 128 bytes.
-/

namespace EziotSdk

open ErrorState

/-! ## The pointer -/

/-- The read buffer from `curdata` on, `enddata - curdata`, and the variables
of the caller. -/
structure MqttReading (Out : Type) where
  curdata : Bytes
  left : ℤ
  out : Out

/-- A return before the end, or a read from beyond the buffer. -/
inductive MqttAbort where
  | returned (rc : ℤ)
  | outOfBounds
  deriving DecidableEq, Repr

abbrev MqttStep (Out Value : Type) :=
  EStateM MqttAbort (MqttReading Out) Value

variable {Out : Type}

def modifyOut (change : Out → Out) : MqttStep Out Unit :=
  modify fun reading => { reading with out := change reading.out }

/-- `curdata += count`. -/
def advance (count : ℕ) : MqttStep Out Unit :=
  modify fun reading =>
    { reading with
      curdata := reading.curdata.drop count
      left := reading.left - count }

def readChar : MqttStep Out UInt8 := do
  let reading ← get
  let byte ← required .outOfBounds reading.curdata.head?
  advance 1
  pure byte

def readInt : MqttStep Out ℕ := do
  let high ← readChar
  let low ← readChar
  pure (256 * high.toNat + low.toNat)

/-- The loop of `MQTTPacket_decode`, which counts a fifth byte without reading
it: the number of bytes, and the value. -/
def decodeRounds : ℕ → ℕ → ℕ → MqttStep Out (ℕ × ℕ)
  | 0, _, value => do
      advance 1
      pure (1, value)
  | rounds + 1, multiplier, value => do
      let c ← readChar
      let value := value + c.toNat % 128 * multiplier
      if c.toNat < 128 then pure (1, value)
      else do
        let (len, value) ← decodeRounds rounds (multiplier * 128) value
        pure (len + 1, value)

/-- `MQTTPacket_decodeBuf` and the assignment of `enddata`. -/
def decodeBuf : MqttStep Out ℕ := do
  let (len, mylen) ← decodeRounds 4 1 0
  modify fun reading => { reading with left := mylen }
  pure len

/-- `readMQTTLenString` into one of the caller's variables.  The bytes are
only pointed at; where they leave the buffer, whoever looks at them reads
beyond it. -/
def readMqttLenString (store : MqttLenString → Out → Out) :
    MqttStep Out Bool := do
  let reading ← get
  if reading.left > 1 then do
    let len ← readInt
    let reading ← get
    if (len : ℤ) ≤ reading.left then do
      reject (reading.curdata.length < len) .outOfBounds
      modifyOut (store ⟨len, some reading.curdata⟩)
      advance len
      pure true
    else do
      modifyOut (store ⟨len, none⟩)
      pure false
  else pure false

/-- The return code and the variables of the caller; nothing when the function
reads beyond the buffer. -/
def MqttStep.run (step : MqttStep Out Unit) (out : Out) (buf : Bytes) :
    Option (ℤ × Out) :=
  match step ⟨buf, 0, out⟩ with
  | .ok _ reading => some (1, reading.out)
  | .error (.returned rc) reading => some (rc, reading.out)
  | .error .outOfBounds _ => none

/-! ## Deserializers -/

/-- The variables of `cycle` that `MQTTDeserialize_publish` fills. -/
structure PublishOut where
  dup : ℕ
  qos : ℕ
  retained : ℕ
  packetid : ℕ
  topicName : MqttLenString
  payload : Option Bytes
  payloadlen : ℤ
  deriving DecidableEq, Repr

/-- `MQTTString_initializer` and a zeroed message. -/
def PublishOut.init : PublishOut := ⟨0, 0, 0, 0, ⟨0, none⟩, none, 0⟩

def readPublish : MqttStep PublishOut Unit := do
  let byte ← readChar
  let header := MqttHeader.ofByte byte
  reject (header.type ≠ MqttMsgType.publish.code) (.returned 0)
  modifyOut fun out =>
    { out with dup := header.dup, qos := header.qos, retained := header.retain }
  let rc ← decodeBuf
  let found ← readMqttLenString fun string out =>
    { out with topicName := string }
  reject (found = false) (.returned rc)
  if header.qos > 0 then do
    let packetid ← readInt
    modifyOut fun out => { out with packetid := packetid }
  let reading ← get
  modifyOut fun out =>
    { out with payload := some reading.curdata, payloadlen := reading.left }

def deserializePublish (buf : Bytes) : Option (ℤ × PublishOut) :=
  readPublish.run .init buf

/-- The variables that `MQTTDeserialize_ack` fills; the callers leave
`packetid` without a value. -/
structure AckOut where
  packettype : ℕ
  dup : ℕ
  packetid : Option ℕ
  deriving DecidableEq, Repr

def readAck : MqttStep AckOut Unit := do
  let byte ← readChar
  let header := MqttHeader.ofByte byte
  modifyOut fun out =>
    { out with dup := header.dup, packettype := header.type }
  let rc ← decodeBuf
  let reading ← get
  reject (reading.left < 2) (.returned rc)
  let packetid ← readInt
  modifyOut fun out => { out with packetid := some packetid }

def deserializeAck (buf : Bytes) : Option (ℤ × AckOut) :=
  readAck.run ⟨0, 0, none⟩ buf

end EziotSdk

import EziotSdk.LbsHeaders

/-!
# Packets of the MQTT client

The serializers and deserializers of `paho.mqtt.embedded/src`.  A serializer
compares an estimate of the packet's length with the size of its buffer and
then writes without looking.  A deserializer walks over the read buffer with a
pointer, and where it gives up it returns the number of length bytes that it
has read, which for a short packet is the code of success.
-/

namespace EziotSdk

open ErrorState

/-! ## Types -/

/-- `enum msgTypes`. -/
inductive MqttMsgType where
  | connect
  | connack
  | publish
  | puback
  | pubrec
  | pubrel
  | pubcomp
  | subscribe
  | suback
  | unsubscribe
  | unsuback
  | pingreq
  | pingresp
  | disconnect
  deriving DecidableEq, Repr

def MqttMsgType.code : MqttMsgType → ℕ
  | connect => 1
  | connack => 2
  | publish => 3
  | puback => 4
  | pubrec => 5
  | pubrel => 6
  | pubcomp => 7
  | subscribe => 8
  | suback => 9
  | unsubscribe => 10
  | unsuback => 11
  | pingreq => 12
  | pingresp => 13
  | disconnect => 14

/-- The bit fields of the header byte, each cut to its width by `byte`. -/
structure MqttHeader where
  type : ℕ
  dup : ℕ
  qos : ℕ
  retain : ℕ
  deriving DecidableEq, Repr

namespace MqttHeader

def byte (header : MqttHeader) : UInt8 :=
  UInt8.ofNat (header.type % 16 * 16 + header.dup % 2 * 8 +
    header.qos % 4 * 2 + header.retain % 2)

def ofByte (byte : UInt8) : MqttHeader where
  type := byte.toNat / 16
  dup := byte.toNat / 8 % 2
  qos := byte.toNat / 2 % 4
  retain := byte.toNat % 2

theorem ofByte_byte (header : MqttHeader) :
    ofByte header.byte =
      ⟨header.type % 16, header.dup % 2, header.qos % 4,
        header.retain % 2⟩ := by
  have hbyte : header.byte.toNat = header.type % 16 * 16 +
      header.dup % 2 * 8 + header.qos % 4 * 2 + header.retain % 2 := by
    rw [byte, UInt8.toNat_ofNat']
    omega
  rw [ofByte, hbyte, mk.injEq]
  omega

end MqttHeader

/-- A length and the memory that the pointer leads to. -/
structure MqttLenString where
  len : ℕ
  data : Option Bytes
  deriving DecidableEq, Repr

def MqttLenString.text (string : MqttLenString) : Bytes :=
  (string.data.getD []).take string.len

/-- A C string without its NUL, or a string with its length. -/
structure MqttString where
  cstring : Option Bytes
  lenstring : MqttLenString
  deriving DecidableEq, Repr

namespace MqttString

/-- `MQTTString_initializer` with a C string. -/
def ofCString (text : Bytes) : MqttString := ⟨some text, 0, none⟩

def strlen (string : MqttString) : ℕ :=
  match string.cstring with
  | some text => text.length
  | none => string.lenstring.len

/-- Whether either of the pointers is set. -/
def isSupplied (string : MqttString) : Bool :=
  string.cstring.isSome || string.lenstring.data.isSome

end MqttString

/-! ## Writing -/

/-- `MQTTPacket_encode`; an `int` takes five bytes at most. -/
def mqttPacketEncode (length : ℕ) : Bytes := lengthBytes 5 length

/-- The estimate of a packet's length, with one byte too many for some
lengths. -/
def mqttPacketLen (remLen : ℕ) : ℕ :=
  if remLen + 1 < 128 then remLen + 1 + 1
  else if remLen + 1 < 16384 then remLen + 1 + 2
  else if remLen + 1 < 2097151 then remLen + 1 + 3
  else remLen + 1 + 4

def writeInt (anInt : ℕ) : Bytes :=
  [UInt8.ofNat (anInt / 256), UInt8.ofNat (anInt % 256)]

def writeCString (text : Bytes) : Bytes := writeInt text.length ++ text

/-- `writeMQTTString`, which looks at the string with a length first. -/
def writeMqttString (string : MqttString) : Bytes :=
  if string.lenstring.len > 0 then
    writeInt string.lenstring.len ++ string.lenstring.text
  else
    match string.cstring with
    | some text => writeCString text
    | none => writeInt 0

def mqttpacketBufferTooShort : ℤ := -2

/-- A packet at the start of a buffer that has passed the check for the given
size. -/
def writePacket (buflen needed : ℕ) (header : MqttHeader) (remLen : ℕ)
    (body : Bytes) : Except ℤ Bytes :=
  if buflen < needed then .error mqttpacketBufferTooShort
  else .ok (header.byte :: mqttPacketEncode remLen ++ body)

/-! ## Serializers -/

structure MqttPublish where
  dup : ℕ
  qos : ℕ
  retained : ℕ
  packetid : ℕ
  topicName : MqttString
  payload : Bytes
  deriving DecidableEq, Repr

def serializePublishLength (qos : ℕ) (topicName : MqttString)
    (payloadlen : ℕ) : ℕ :=
  2 + topicName.strlen + payloadlen + if qos > 0 then 2 else 0

def publishBody (message : MqttPublish) : Bytes :=
  writeMqttString message.topicName ++
    (if message.qos > 0 then writeInt message.packetid else []) ++
    message.payload

def serializePublish (buflen : ℕ) (message : MqttPublish) : Except ℤ Bytes :=
  let remLen := serializePublishLength message.qos message.topicName
    message.payload.length
  writePacket buflen (mqttPacketLen remLen)
    ⟨MqttMsgType.publish.code, message.dup, message.qos, message.retained⟩
    remLen (publishBody message)

def serializeAck (buflen : ℕ) (packettype : MqttMsgType)
    (dup packetid : ℕ) : Except ℤ Bytes :=
  writePacket buflen 4
    ⟨packettype.code, dup, if packettype = .pubrel then 1 else 0, 0⟩ 2
    (writeInt packetid)

def serializeZero (buflen : ℕ) (packettype : MqttMsgType) : Except ℤ Bytes :=
  writePacket buflen 2 ⟨packettype.code, 0, 0, 0⟩ 0 []

def serializePingreq (buflen : ℕ) : Except ℤ Bytes :=
  serializeZero buflen .pingreq

/-- A topic filter and the quality of service that is asked for it. -/
structure MqttFilter where
  topicFilter : MqttString
  requestedQos : ℕ
  deriving DecidableEq, Repr

def serializeSubscribeLength (filters : List MqttFilter) : ℕ :=
  2 + (filters.map fun filter => 2 + filter.topicFilter.strlen + 1).sum

def writeFilter (filter : MqttFilter) : Bytes :=
  writeMqttString filter.topicFilter ++ [UInt8.ofNat filter.requestedQos]

def serializeSubscribe (buflen dup packetid : ℕ)
    (filters : List MqttFilter) : Except ℤ Bytes :=
  let remLen := serializeSubscribeLength filters
  writePacket buflen (mqttPacketLen remLen)
    ⟨MqttMsgType.subscribe.code, dup, 1, 0⟩ remLen
    (writeInt packetid ++ filters.flatMap writeFilter)

def serializeUnsubscribeLength (topicFilters : List MqttString) : ℕ :=
  2 + (topicFilters.map fun topicFilter => 2 + topicFilter.strlen).sum

def serializeUnsubscribe (buflen dup packetid : ℕ)
    (topicFilters : List MqttString) : Except ℤ Bytes :=
  let remLen := serializeUnsubscribeLength topicFilters
  writePacket buflen (mqttPacketLen remLen)
    ⟨MqttMsgType.unsubscribe.code, dup, 1, 0⟩ remLen
    (writeInt packetid ++ topicFilters.flatMap writeMqttString)

structure MqttWillOptions where
  topicName : MqttString
  message : MqttString
  retained : ℕ
  qos : ℕ
  deriving DecidableEq, Repr

/-- The options of a connect packet; `will` is there when `willFlag` is
set. -/
structure MqttConnectData where
  mqttVersion : ℕ
  clientID : MqttString
  keepAliveInterval : ℕ
  cleansession : ℕ
  will : Option MqttWillOptions
  username : MqttString
  password : MqttString
  deriving DecidableEq, Repr

/-- The length of a string that is only written when it is supplied. -/
def suppliedLength (string : MqttString) : ℕ :=
  if string.isSupplied then string.strlen + 2 else 0

def writeSupplied (string : MqttString) : Bytes :=
  if string.isSupplied then writeMqttString string else []

/-- Other versions count nothing for the protocol's name, the version, the
flags and the interval. -/
def serializeConnectLength (options : MqttConnectData) : ℕ :=
  (if options.mqttVersion = 3 then 12
    else if options.mqttVersion = 4 then 10 else 0) +
    (options.clientID.strlen + 2) +
    (match options.will with
      | some will => will.topicName.strlen + 2 + will.message.strlen + 2
      | none => 0) +
    suppliedLength options.username + suppliedLength options.password

/-- `MQTTConnectFlags`. -/
def connectFlags (options : MqttConnectData) : UInt8 :=
  UInt8.ofNat (options.cleansession % 2 * 2 +
    (match options.will with
      | some will => 4 + will.qos % 4 * 8 + will.retained % 2 * 32
      | none => 0) +
    (if options.password.isSupplied then 64 else 0) +
    if options.username.isSupplied then 128 else 0)

/-- `MQTT`. -/
def mqttName : Bytes := [77, 81, 84, 84]

/-- `MQIsdp`. -/
def mqisdpName : Bytes := [77, 81, 73, 115, 100, 112]

/-- The name and the version of the protocol. -/
def writeProtocol (mqttVersion : ℕ) : Bytes :=
  if mqttVersion = 4 then writeCString mqttName ++ [4]
  else writeCString mqisdpName ++ [3]

def writeWill : Option MqttWillOptions → Bytes
  | some will => writeMqttString will.topicName ++ writeMqttString will.message
  | none => []

def connectBody (options : MqttConnectData) : Bytes :=
  writeProtocol options.mqttVersion ++ [connectFlags options] ++
    writeInt options.keepAliveInterval ++ writeMqttString options.clientID ++
    writeWill options.will ++ writeSupplied options.username ++
    writeSupplied options.password

def serializeConnect (buflen : ℕ) (options : MqttConnectData) :
    Except ℤ Bytes :=
  let remLen := serializeConnectLength options
  writePacket buflen (mqttPacketLen remLen)
    ⟨MqttMsgType.connect.code, 0, 0, 0⟩ remLen (connectBody options)

/-- `MQTTSerialize_connack`, whose flag is the highest bit of its byte. -/
def serializeConnack (buflen : ℕ) (connackRc : UInt8)
    (sessionPresent : ℕ) : Except ℤ Bytes :=
  writePacket buflen 2 ⟨MqttMsgType.connack.code, 0, 0, 0⟩ 2
    [UInt8.ofNat (sessionPresent % 2 * 128), connackRc]

def serializeSuback (buflen packetid : ℕ) (grantedQoSs : List ℕ) :
    Except ℤ Bytes :=
  writePacket buflen (2 + grantedQoSs.length)
    ⟨MqttMsgType.suback.code, 0, 0, 0⟩ (2 + grantedQoSs.length)
    (writeInt packetid ++ grantedQoSs.map UInt8.ofNat)

end EziotSdk

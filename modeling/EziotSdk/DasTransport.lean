import EziotSdk.BscJsonPrint
import EziotSdk.ExtendDispatch
import EziotSdk.LbsTransport
import EziotSdk.Scanf
import EziotSdk.SendQueue

/-!
# Frames and topics of the DAS

`das_transport.c` publishes a message under a topic that spells the extension
and the addressed resource, with a payload of a two byte length, a JSON header
of that length and the body, padded and encrypted.  The receiver takes the
topic apart with `sscanf` and the payload in the opposite order.  The 2.0
protocol has a topic of its own and the same payload.
-/

namespace EziotSdk

open Scanf

/-! ## State -/

/-- The fields of `ezdev_sdk_kernel` that the transport reads. -/
structure DasKernel where
  devSubserial : CString
  hubRegStatus : ℕ
  sessionKey : Bytes

structure DasLibraries where
  aes : AesCipher
  parse : Bytes → Option BscJson

/-- What is handed to `MQTTPublish`. -/
structure MqttMessage where
  topicName : CString
  qos : ℕ
  retained : ℕ
  dup : ℕ
  payload : Bytes
  deriving DecidableEq, Repr

/-- What becomes of a received message; `outOfBounds` is a copy from beyond
the payload buffer. -/
inductive Receipt (Msg : Type) where
  | delivered (submsg : Msg)
  | dropped (error : MkernelInternalError)
  | outOfBounds
  deriving DecidableEq, Repr

def versionMaxLen : ℕ := 32

def ezdevSdkRecvTopicLen : ℕ := 256

def ezdevSdkDevserialMaxlen : ℕ := 72

/-! ## Payloads -/

def commonMembers (msgType : ℕ) (cmdVersion : CString) (msgSeq : ℕ) :
    List (CString × BscJson) :=
  [("CmdVer".toList, .string cmdVersion), ("Seq".toList, .number msgSeq),
    ("MsgType".toList, .number msgType)]

def serializePayloadCommon (msgType : ℕ) (cmdVersion : CString)
    (msgSeq : ℕ) : Except MkernelInternalError CString :=
  match BscJson.printUnformatted (commonMembers msgType cmdVersion msgSeq) with
  | none => .error .jsonFormatError
  | some text => .ok text

def serializeShort (srcShort : ℕ) : Bytes :=
  [UInt8.ofNat (srcShort / 256), UInt8.ofNat (srcShort % 256)]

def deserializeShort (buf : Bytes) : ℕ :=
  (buf.headD 0).toNat * 256 + ((buf.drop 1).headD 0).toNat

/-- `ezdev_sdk_msg_type_req` or `ezdev_sdk_msg_type_rsp`. -/
def msgTypeOf (msgResponse : ℕ) : ℕ := if msgResponse = 0 then 1 else 2

/-- The payload that both senders build, where `payload_buf_len` has the given
number of bits. -/
def payloadBufEnc (aes : AesCipher) (sessionKey : Bytes) (lenBits : ℕ)
    (msgType : ℕ) (commandVer : CString) (msgSeq : ℕ) (msgBody : Bytes) :
    Except MkernelInternalError Bytes :=
  match serializePayloadCommon msgType commandVer msgSeq with
  | .error error => .error error
  | .ok common =>
      let commonLen := common.length % 2 ^ 16
      let inputLength := commonLen + 2 + msgBody.length
      aesCbc128EncPadding aes sessionKey
        (serializeShort commonLen ++ bytesOfText common ++ msgBody)
        inputLength (calculatePaddingLen inputLength % 2 ^ lenBits)

/-- `deserialize_common_v3` and `deserialize_common`: the version and the
sequence number, which takes the value of an `int`. -/
def deserializeCommon (parse : Bytes → Option BscJson) (commonBuf : Bytes) :
    Except MkernelInternalError (CString × ℕ) :=
  match parse commonBuf with
  | none => .error .jsonParseError
  | some jsonItem =>
      match jsonItem.getObjectItem "Seq".toList,
          jsonItem.getObjectItem "CmdVer".toList with
      | some jsonSeqItem, some jsonCmdverItem =>
          match isNumber jsonSeqItem, jsonCmdverItem.valuestring with
          | true, some cmdver =>
              let commandVer :=
                if versionMaxLen ≤ CString.strlen cmdver then
                  CString.strncpy cmdver (versionMaxLen - 1)
                else CString.strncpy cmdver (CString.strlen cmdver)
              .ok (commandVer, (jsonSeqItem.valueint % 2 ^ 32).toNat)
          | _, _ => .error .jsonParseError
      | _, _ => .error .jsonParseError

/-- What a payload carries. -/
structure DasContent where
  commandVer : CString
  msgSeq : ℕ
  buf : Option Bytes
  deriving DecidableEq, Repr

/-- The part of the two receivers behind the topic. -/
def receivePayload (lib : DasLibraries) (sessionKey payload : Bytes) :
    Receipt DasContent :=
  match aesCbc128DecPadding lib.aes sessionKey payload payload.length with
  | .error error => .dropped error
  | .ok plain =>
      let commonLen := deserializeShort plain.written
      if plain.length ≤ commonLen then .dropped .revInvalidPacket
      else
        match deserializeCommon lib.parse (plain.written.drop 2) with
        | .error error => .dropped error
        | .ok (commandVer, msgSeq) =>
            -- an unsigned difference, which can wrap around
            let bufLen := (plain.length + 2 ^ 32 - 2 - commonLen) % 2 ^ 32
            if bufLen = 0 then .delivered ⟨commandVer, msgSeq, none⟩
            else if plain.written.length < 2 + commonLen + bufLen then
              .outOfBounds
            else
              .delivered ⟨commandVer, msgSeq,
                some ((plain.written.drop (2 + commonLen)).take bufLen)⟩

/-! ## Topics of protocol 3.0 -/

/-- `/iot/%72[^/]/%72[^/]/%64[^-]-%64[^/]`, the head of every format. -/
def topicHead : List Item :=
  [⟨"/iot/".toList, .set 72 '/'⟩, ⟨"/".toList, .set 72 '/'⟩,
    ⟨"/".toList, .set 64 '-'⟩, ⟨"-".toList, .set 64 '/'⟩]

/-- The head and `/%64[^/]/%64[^/]`. -/
def topicFormat : List Item :=
  topicHead ++ [⟨"/".toList, .set 64 '/'⟩, ⟨"/".toList, .set 64 '/'⟩]

/-- The head and `/model/%64[^/]/%64[^/]/%64[^/]/%s`. -/
def modelFormat : List Item :=
  topicHead ++ [⟨"/model/".toList, .set 64 '/'⟩, ⟨"/".toList, .set 64 '/'⟩,
    ⟨"/".toList, .set 64 '/'⟩, ⟨"/".toList, .word⟩]

/-- The head and `/basic/%64[^/]/%64[^/]`. -/
def basicFormat : List Item :=
  topicHead ++
    [⟨"/basic/".toList, .set 64 '/'⟩, ⟨"/".toList, .set 64 '/'⟩]

/-- The head and `/ota/%64[^/]/%64[^/]`. -/
def otaFormat : List Item :=
  topicHead ++ [⟨"/ota/".toList, .set 64 '/'⟩, ⟨"/".toList, .set 64 '/'⟩]

/-- The arrays that a topic is scanned into: the members of
`ezdev_sdk_kernel_submsg_v3`, and three arrays of the function itself. -/
inductive TopicField where
  | devSerial
  | subSerial
  | resourceId
  | resourceType
  | modelName
  | modelType
  | businessType
  | domainId
  | identifier
  deriving DecidableEq, Repr

namespace TopicField

/-- The bytes of the array, the NUL included. -/
def size : TopicField → ℕ
  | .devSerial => 72
  | .subSerial => 72
  | _ => 64

def inSubmsg : TopicField → Bool
  | .devSerial => false
  | .modelName => false
  | .modelType => false
  | _ => true

def head : List TopicField :=
  [.devSerial, .subSerial, .resourceId, .resourceType]

end TopicField

/-- The texts stored so far, the last one of an array being the one it
holds. -/
abbrev Stored := List (TopicField × CString)

def Stored.value (stored : Stored) (field : TopicField) : CString :=
  ((stored.reverse.find? fun entry => entry.1 = field).map Prod.snd).getD []

def sscanfTopic (format : List Item) (fields : List TopicField)
    (msgTopic : CString) : Stored :=
  fields.zip (scan format msgTopic)

/-- A further scan into some arrays, which must store into each of them. -/
def rescanTopic (stored : Stored) (format : List Item)
    (fields : List TopicField) (msgTopic : CString)
    (accept : Stored → ℕ) : Stored × Except MkernelInternalError ℕ :=
  let scanned := sscanfTopic format fields msgTopic
  let stored := stored ++ scanned
  if scanned.length ≠ fields.length then
    (stored, .error .platformAppointError)
  else (stored, .ok (accept stored))

/-- The extend id of a `model` topic; the structure was zeroed, and a type
that is none of the two leaves it so. -/
def modelExtendId (stored : Stored) : ℕ :=
  if stored.value .modelType = "service".toList then sdkService
  else if stored.value .modelType = "attribute".toList then sdkAttribution
  else 0

/-- The topic part of `das_message_receive_v3`: what is stored, and the extend
id. -/
def scanTopicV3 (msgTopic : CString) :
    Stored × Except MkernelInternalError ℕ :=
  if ezdevSdkRecvTopicLen ≤ CString.strlen msgTopic then
    ([], .error .platformAppointError)
  else
    let stored := sscanfTopic topicFormat
      (TopicField.head ++ [.modelName, .modelType]) msgTopic
    if stored.length ≠ 6 then (stored, .error .platformAppointError)
    else if stored.value .modelName = "model".toList then
      rescanTopic stored modelFormat
        (TopicField.head ++
          [.modelType, .businessType, .domainId, .identifier])
        msgTopic modelExtendId
    else if stored.value .modelName = "basic".toList ∧
        stored.value .modelType = "shadow".toList then
      rescanTopic stored basicFormat
        (TopicField.head ++ [.modelType, .businessType]) msgTopic
        fun _ => sdkShadow
    else if stored.value .modelName = "ota".toList then
      rescanTopic stored otaFormat
        (TopicField.head ++ [.identifier, .businessType]) msgTopic
        fun _ => sdkOta
    else (stored, .error .platformAppointError)

/-- The texts of the message's own fields. -/
def submsgV3Of (stored : Stored) (extendId : ℕ) (content : DasContent) :
    KernelSubmsgV3 where
  buf := content.buf
  msgResponse := 0
  msgSeq := content.msgSeq
  extendId := extendId
  commandVer := content.commandVer
  domainId := stored.value .domainId
  resourceId := stored.value .resourceId
  resourceType := stored.value .resourceType
  businessType := stored.value .businessType
  identifier := stored.value .identifier
  subSerial := stored.value .subSerial

def dasMessageReceiveV3 (lib : DasLibraries) (sessionKey : Bytes)
    (msgTopic : CString) (payload : Bytes) : Receipt KernelSubmsgV3 :=
  match scanTopicV3 msgTopic with
  | (_, .error error) => .dropped error
  | (stored, .ok extendId) =>
      match receivePayload lib sessionKey payload with
      | .delivered content => .delivered (submsgV3Of stored extendId content)
      | .dropped error => .dropped error
      | .outOfBounds => .outOfBounds

/-- The serial of the sub device, or `global`. -/
def topicSubserial (kernel : DasKernel) (subSerial : CString) : CString :=
  if kernel.hubRegStatus = 1 ∧ 0 < CString.strlen subSerial then
    CString.strncpy subSerial (ezdevSdkDevserialMaxlen - 1)
  else "global".toList

/-- The topic of a message before `snprintf` cuts it. -/
def topicTextV3 (kernel : DasKernel) (pubmsg : KernelPubmsgV3) : CString :=
  let head := "/iot/".toList ++ kernel.devSubserial ++ "/".toList ++
    topicSubserial kernel pubmsg.subSerial ++ "/".toList ++
    pubmsg.resourceId ++ "-".toList ++ pubmsg.resourceType
  let model (modelType : CString) := head ++ "/model/".toList ++ modelType ++
    "/".toList ++ pubmsg.businessType ++ "/".toList ++ pubmsg.domainId ++
    "/".toList ++ pubmsg.identifier
  if pubmsg.extendId = sdkAttribution then model "attribute".toList
  else if pubmsg.extendId = sdkEvent then model "event".toList
  else if pubmsg.extendId = sdkService then model "service".toList
  else if pubmsg.extendId = sdkShadow then
    head ++ "/basic/".toList ++ "shadow".toList ++ "/".toList ++
      pubmsg.businessType
  else if pubmsg.extendId = sdkOta then
    head ++ "/ota/".toList ++ pubmsg.identifier ++ "/".toList ++
      pubmsg.businessType
  else []

def dasSendPubmsgV3 (lib : DasLibraries) (kernel : DasKernel)
    (pubmsg : KernelPubmsgV3) : Except MkernelInternalError MqttMessage :=
  match payloadBufEnc lib.aes kernel.sessionKey 32
      (msgTypeOf pubmsg.msgResponse) pubmsg.commandVer pubmsg.msgSeq
      (pubmsg.msgBody.getD []) with
  | .error error => .error error
  | .ok payload =>
      .ok ⟨CString.strncpy (topicTextV3 kernel pubmsg)
        (ezdevSdkRecvTopicLen - 1), pubmsg.msgQos, 1, 0, payload⟩

/-! ## Topics of protocol 2.0 -/

/-- `%d` of an unsigned argument. -/
def printUint32 (value : ℕ) : CString :=
  BscJson.printInt (Int.bmod value (2 ^ 32))

def dasSendPubmsg (lib : DasLibraries) (kernel : DasKernel)
    (pubmsg : KernelPubmsg) : Except MkernelInternalError MqttMessage :=
  let topic := "/".toList ++ printUint32 pubmsg.msgDomainId ++
    "/".toList ++ printUint32 pubmsg.msgCommandId
  match payloadBufEnc lib.aes kernel.sessionKey 16
      (msgTypeOf pubmsg.msgResponse) pubmsg.commandVer pubmsg.msgSeq
      (pubmsg.msgBody.getD []) with
  | .error error => .error error
  | .ok payload =>
      .ok ⟨CString.strncpy topic 127, pubmsg.msgQos, 1, 0, payload⟩

/-- The domain and the command id of a 2.0 topic. -/
def scanTopic (msgTopic : CString) :
    Except MkernelInternalError (ℤ × ℤ) :=
  if 128 ≤ CString.strlen msgTopic then .error .platformAppointError
  else
    match scan [⟨"/".toList, .set 72 '/'⟩, ⟨"/".toList, .decimal⟩,
        ⟨"/".toList, .decimal⟩] msgTopic with
    | [_, msgDomainId, msgCommandId] =>
        .ok (CString.atoi msgDomainId, CString.atoi msgCommandId)
    | _ => .error .platformAppointError

def dasMessageReceive (lib : DasLibraries) (sessionKey : Bytes)
    (msgTopic : CString) (payload : Bytes) : Receipt KernelSubmsg :=
  match scanTopic msgTopic with
  | .error error => .dropped error
  | .ok (msgDomainId, msgCommandId) =>
      match receivePayload lib sessionKey payload with
      | .delivered content =>
          .delivered ⟨content.msgSeq, content.buf, msgDomainId, msgCommandId,
            content.commandVer⟩
      | .dropped error => .dropped error
      | .outOfBounds => .outOfBounds

end EziotSdk

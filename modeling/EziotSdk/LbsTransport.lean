import EziotSdk.LbsProtocol

/-!
# The exchanges with the LBS server

The messages of `lbs_transport.c` and the three exchanges made of them:
`lbs_redirect_with_auth` and `lbs_redirect_createdevid_with_auth` derive a new
master key, `lbs_redirect` refreshes the session key under the one it has.
The values of an exchange are collected in the affair and installed in the
kernel at its end.

Allocations are taken to succeed.  A buffer is the list of its bytes, so a
write past its end is not represented; the plain text of a device id and of a
session key is written with its padding, which the buffers of the source do
not have the room for.
-/

namespace EziotSdk

open ErrorState

variable {Context : Type}

/-! ## Set-up -/

def hexDigit (upper : Bool) (value : ℕ) : UInt8 :=
  if value < 10 then UInt8.ofNat (0x30 + value)
  else UInt8.ofNat ((if upper then 0x41 else 0x61) + (value - 10))

def hexDump (upper : Bool) (data : Bytes) : Bytes :=
  data.flatMap fun byte =>
    [hexDigit upper (byte.toNat / 16), hexDigit upper (byte.toNat % 16)]

def bytesOfText (text : CString) : Bytes :=
  text.map fun char => UInt8.ofNat char.toNat

/-- The characters of a buffer up to its first NUL. -/
def textOfBytes (data : Bytes) : CString :=
  (data.takeWhile (· ≠ 0)).map fun byte => Char.ofNat byte.toNat

def sharekeySalt : Bytes := bytesOfText "www.88075998.com".toList

def generateSharekey (lib : LbsLibraries Context) (devInfo : DevBasicInfo)
    (nUpper : Bool) : Bytes :=
  let first := hexDump nUpper
    (lib.md5 (devInfo.devVerificationCode ++ devInfo.devSubserial))
  let second := hexDump true (lib.md5 (first.take 32 ++ sharekeySalt))
  (hexDump true (lib.md5 (second.take 32))).take 32

/-- A packet with nothing written to it. -/
def LbsOutPacket.empty : LbsOutPacket := ⟨[], []⟩

/-- A receive buffer of zeros. -/
def LbsInPacket.zero : LbsInPacket :=
  ⟨List.replicate ezdevSdkRecvBufMax 0, 0⟩

/-- The affair after `memset` with zero. -/
def LbsAffair.zero : LbsAffair where
  random1 := 0
  random2 := 0
  devAccessMode := 0
  devAuthMode := 0
  devSubserial := []
  masterKey := List.replicate 16 0
  devId := List.replicate 32 0
  sessionKey := List.replicate 16 0
  shareKey := List.replicate 32 0
  globalOutPacket := LbsOutPacket.empty
  globalInPacket := LbsInPacket.zero

/-- `rand index` is the result of the call of `rand` with that number. -/
def initLbsAffair (lib : LbsLibraries Context) (rand : ℕ → ℕ)
    (nUpper : Bool) : LbsStep Context Unit := do
  let session ← get
  let kernel := session.kernel
  modifyAffair fun _ =>
    { LbsAffair.zero with
      random1 := UInt8.ofNat (rand 0 % 256)
      random2 := UInt8.ofNat (rand 1 % 256)
      devAuthMode := kernel.devInfo.devAuthMode
      devSubserial := kernel.devInfo.devSubserial
      devId := kernel.devId
      masterKey := kernel.masterKey
      devAccessMode := kernel.devInfo.devAccessMode
      shareKey := generateSharekey lib kernel.devInfo nUpper }

def clearLbsAffairBuf : LbsStep Context Unit :=
  modifyAffair fun affair =>
    { affair with
      globalOutPacket := LbsOutPacket.empty
      globalInPacket := LbsInPacket.zero }

/-! ## Parts of a message -/

/-- The HMAC of the digest of the sub-serial. -/
def digitalSign (lib : LbsLibraries Context) (signSrc masterKey : Bytes) :
    Except MkernelInternalError Bytes :=
  match lib.mdHmacSha384 masterKey (lib.sha384 signSrc) with
  | .error _ => .error .hmacError
  | .ok sign => .ok sign

def digitalSignSerializeSha384 (lib : LbsLibraries Context) :
    LbsStep Context Unit := do
  let session ← get
  let affair := session.affair
  reject (ezdevSdkSendBufMax < affair.globalOutPacket.payloadBuf.length + 64)
    (.code .memLack)
  reject (128 < affair.devSubserial.length) (.code .inputParamInvalid)
  let sign ← reported (digitalSign lib affair.devSubserial affair.masterKey)
  appendPayload sign

def digitalSignSerializeAndCheckSha384 (lib : LbsLibraries Context)
    (targetSign : Bytes) (targetSignLen : ℕ) (signSrc masterKey : Bytes) :
    LbsStep Context Unit := do
  reject (128 < signSrc.length) (.code .inputParamInvalid)
  reject (targetSignLen ≠ 48) (.code .signCheckError)
  let sign ← reported (digitalSign lib signSrc masterKey)
  reject (targetSign.take 48 ≠ sign) (.code .hmacCompareError)

def generatePublicKey (lib : LbsLibraries Context) (ctxClient : Context) :
    Except MkernelInternalError (Bytes × Context) :=
  match lib.ecpGroupLoad ctxClient with
  | .error _ => .error .ecpGroupLoadErr
  | .ok loaded =>
      match lib.ecdhMakePublic loaded with
      | .error _ => .error .ecdhReadPublicErr
      | .ok (public_, made) => .ok (public_.drop 1, made)

def ezdevSdkEcdhKeyLen : ℕ := 97

def generateMasterKey (lib : LbsLibraries Context) (ctxClient : Context)
    (peerPubkey : Bytes) : Except MkernelInternalError Bytes :=
  if peerPubkey.length ≠ ezdevSdkEcdhKeyLen then .error .inputParamInvalid
  else
    match lib.ecdhReadPublic ctxClient (0x61 :: peerPubkey) with
    | .error _ => .error .ecdhReadPublicErr
    | .ok read =>
        match lib.ecdhCalcSecret read with
        | .error _ => .error .ecdhCalcSecretErr
        | .ok secret => .ok secret

/-- The unread part of the receive buffer. -/
def LbsAffair.unread (affair : LbsAffair) : Bytes :=
  affair.globalInPacket.payloadBuf.drop affair.globalInPacket.payloadBufOff

/-- The difference of the announced length and the offset in `bits` bits. -/
def LbsAffair.remaining (affair : LbsAffair) (remainLen bits : ℕ) : ℕ :=
  (remainLen + 2 ^ 32 - affair.globalInPacket.payloadBufOff) % 2 ^ bits

def skipPayload (count : ℕ) : LbsStep Context Unit :=
  modifyAffair fun affair =>
    { affair with globalInPacket := { affair.globalInPacket with
        payloadBufOff := affair.globalInPacket.payloadBufOff + count } }

def takePayloadByte : LbsStep Context UInt8 := do
  let session ← get
  skipPayload 1
  pure (session.affair.unread.headD 0)

/-- The start of every response: three bytes of versions and the result
code, a `char`. -/
def takeResultCode : LbsStep Context Unit := do
  skipPayload 3
  let resultCode ← takePayloadByte
  reject (resultCode ≠ 0) (.code (.platformError resultCode.toInt8.toInt))

/-! ## Authentication -/

def authenticationISerialize : LbsStep Context Unit := do
  let session ← get
  let devSubserial := session.affair.devSubserial
  appendPayload (session.affair.devAuthMode ::
    UInt8.ofNat devSubserial.length ::
      devSubserial.take (devSubserial.length % 256))

def aes128EncryptPubkey (lib : LbsLibraries Context) (pubkey : Bytes) :
    LbsStep Context Bytes := do
  reject (pubkey.length = 0) (.code .inputParamInvalid)
  let session ← get
  reported (aesCbc128EncPadding lib.aes (session.affair.shareKey.take 16)
    pubkey pubkey.length (calculatePaddingLen pubkey.length))

def sendAuthenticationI (lib : LbsLibraries Context) :
    LbsStep Context Unit := do
  commonSerialize 1 2 0
  authenticationISerialize
  let session ← get
  let (pubkey, ctxClient) ←
    reported (generatePublicKey lib session.ctxClient)
  modify fun session => { session with ctxClient := ctxClient }
  let encryptData ← aes128EncryptPubkey lib pubkey
  appendPayload encryptData
  headerSerialize 0x1
  sendLbsMsg

def aes128DecryptPeerPubkey (lib : LbsLibraries Context) (remainLen : ℕ) :
    LbsStep Context Bytes := do
  reject (remainLen = 0) (.code .inputParamInvalid)
  let session ← get
  let plain ← reported (aesCbc128DecPadding lib.aes
    (session.affair.shareKey.take 16) session.affair.unread
    (session.affair.remaining remainLen 8))
  pure plain.text

/-- Eight bytes of the digest of the shared secret, in hexadecimal. -/
def masterKeyOf (lib : LbsLibraries Context) (secret : Bytes) : Bytes :=
  hexDump true ((lib.md5 secret).take 8)

def parseAuthenticationII (lib : LbsLibraries Context) (remainLen : ℕ) :
    LbsStep Context Unit := do
  takeResultCode
  let peerPubkey ← aes128DecryptPeerPubkey lib remainLen
  let session ← get
  let secret ← reported (generateMasterKey lib session.ctxClient peerPubkey)
  modifyAffair fun affair =>
    { affair with masterKey := masterKeyOf lib secret }

def waitAuthenticationII (lib : LbsLibraries Context) :
    LbsStep Context Unit := do
  let (revCmd, remainLen) ← waitAssignResponse
  reject (revCmd ≠ 0x2) (.code .netReadErrorRequest)
  parseAuthenticationII lib remainLen

def sendUpdateSessionkeyReq (lib : LbsLibraries Context) :
    LbsStep Context Unit := do
  commonSerialize 1 1 0
  let session ← get
  appendPayload (32 :: session.affair.devId)
  digitalSignSerializeSha384 lib
  headerSerialize 0x4
  ignoreError sendLbsMsg

def sendAuthenticationCreatDevId (lib : LbsLibraries Context) :
    LbsStep Context Unit := do
  commonSerialize 1 1 0
  digitalSignSerializeSha384 lib
  headerSerialize 0x7
  ignoreError sendLbsMsg

def parseAuthenticationCreateDevId (lib : LbsLibraries Context)
    (remainLen : ℕ) : LbsStep Context Unit := do
  takeResultCode
  let enDevIdLen ← takePayloadByte
  reject (enDevIdLen ≠ 48) (.code .platformAppointError)
  let session ← get
  let devId ← reported (aesCbc128DecPadding lib.aes
    session.affair.masterKey session.affair.unread 48)
  reject (devId.length ≠ 32) (.code .platformAppointError)
  modifyAffair fun affair => { affair with devId := devId.text }
  skipPayload 48
  let enSessionkeyLen ← takePayloadByte
  reject (enSessionkeyLen ≠ 32) (.code .platformAppointError)
  let session ← get
  let sessionkey ← reported (aesCbc128DecPadding lib.aes
    session.affair.masterKey session.affair.unread 32)
  reject (sessionkey.length ≠ 16) (.code .platformAppointError)
  modifyAffair fun affair => { affair with sessionKey := sessionkey.text }
  skipPayload 32
  let session ← get
  digitalSignSerializeAndCheckSha384 lib session.affair.unread
    (session.affair.remaining remainLen 16) session.affair.devSubserial
    session.affair.masterKey

/-- The response that both kinds of request for a session key wait for, under
the command that answers the request. -/
def waitSessionkeyRsp (lib : LbsLibraries Context) (cmd : ℕ) :
    LbsStep Context Unit := do
  let (revCmd, remainLen) ← waitAssignResponse
  reject (revCmd ≠ cmd) (.code .netReadErrorRequest)
  parseAuthenticationCreateDevId lib remainLen

def waitUpdateSessionkeyRsp (lib : LbsLibraries Context) :
    LbsStep Context Unit :=
  waitSessionkeyRsp lib 0x6

def waitAuthenticationCreatDevId (lib : LbsLibraries Context) :
    LbsStep Context Unit :=
  waitSessionkeyRsp lib 0x8

/-! ## Refreshing the session key -/

/-- One random byte, encrypted under the master key. -/
def encryptRandom (lib : LbsLibraries Context) (masterKey : Bytes)
    (random : UInt8) : LbsStep Context Bytes :=
  reported (aesCbc128EncPadding lib.aes masterKey
    (random :: List.replicate 15 0) 1 16)

def refreshsessionkeyISerialize (lib : LbsLibraries Context) :
    LbsStep Context Unit := do
  let session ← get
  let affair := session.affair
  appendPayload (UInt8.ofNat affair.devSubserial.length ::
    affair.devSubserial.take (affair.devSubserial.length % 256))
  appendPayload (32 :: affair.devId)
  let enDst ← encryptRandom lib affair.masterKey affair.random1
  appendPayload enDst

def sendRefreshsessionkeyI (lib : LbsLibraries Context) :
    LbsStep Context Unit := do
  commonSerialize 1 1 0
  refreshsessionkeyISerialize lib
  headerSerializeOld 0x7
  ignoreError sendLbsMsg

def parseRefreshsessionkeyII (lib : LbsLibraries Context) (remainLen : ℕ) :
    LbsStep Context Unit := do
  takeResultCode
  let session ← get
  reject (session.affair.remaining remainLen 8 ≠ 32)
    (.code .platformAppointError)
  let aseDst ← reported (aesCbc128DecPadding lib.aes
    session.affair.masterKey session.affair.unread 32)
  skipPayload 32
  reject (aseDst.written.headD 0 ≠ session.affair.random1)
    (.code .random1CheckError)
  -- the reported length is not looked at
  modifyAffair fun affair =>
    { affair with
      random2 := aseDst.written.getD 1 0
      sessionKey := (aseDst.written.drop 2).take 16 }

def waitRefreshsessionkeyII (lib : LbsLibraries Context) :
    LbsStep Context Unit := do
  let (revCmd, remainLen) ← waitAssignResponse
  reject (revCmd ≠ 0x8) (.code .netReadErrorRequest)
  parseRefreshsessionkeyII lib remainLen

def sendRefreshsessionkeyIII (lib : LbsLibraries Context) :
    LbsStep Context Unit := do
  commonSerialize 1 1 0
  let session ← get
  let enDst ← encryptRandom lib session.affair.masterKey
    session.affair.random2
  appendPayload enDst
  headerSerializeOld 0x9
  ignoreError sendLbsMsg

/-! ## The DAS server -/

/-- The document that asks for the DAS server. -/
def dasRequest (affair : LbsAffair) : BscJson :=
  .object [
    ("DevSerial".toList, .string (textOfBytes affair.devSubserial)),
    ("Type".toList, .string "DAS".toList),
    ("Mode".toList, .number affair.devAccessMode)]

def cryptoDataReqDasSerialize (lib : LbsLibraries Context) :
    LbsStep Context Unit := do
  let session ← get
  let jsonBuf ← required (.code .jsonFormatError)
    (lib.printBuffered (dasRequest session.affair))
  let jsonLen := jsonBuf.length
  let outBuf ← reported (aesCbc128EncPadding lib.aes
    session.affair.sessionKey (bytesOfText jsonBuf) jsonLen
    (calculatePaddingLen jsonLen))
  appendPayload outBuf

def sendCryptoDataReq (lib : LbsLibraries Context) :
    LbsStep Context Unit := do
  commonSerialize 1 1 0
  cryptoDataReqDasSerialize lib
  headerSerializeOld 0xA
  ignoreError sendLbsMsg

/-- The text of a response that carries encrypted data. -/
def decryptCryptoData (lib : LbsLibraries Context) (remainLen : ℕ) :
    LbsStep Context CString := do
  takeResultCode
  let session ← get
  let deDst ← reported (aesCbc128DecPadding lib.aes
    session.affair.sessionKey session.affair.unread
    (session.affair.remaining remainLen 32))
  pure (textOfBytes deDst.written)

/-- `json_parse_das_server_info` on a structure of zeros. -/
def parseDasServerInfo (lib : LbsLibraries Context) (text : CString) :
    LbsStep Context DasInfo :=
  fun session =>
    match jsonParseDasServerInfo (lib.parse text) DasInfo.zero with
    | .ok _ info => .ok info session
    | .error error _ => .error error session

def parseCryptoDataRspDas (lib : LbsLibraries Context) (remainLen : ℕ) :
    LbsStep Context DasInfo := do
  let text ← decryptCryptoData lib remainLen
  parseDasServerInfo lib text

def waitCryptoDataRspDas (lib : LbsLibraries Context) :
    LbsStep Context DasInfo := do
  let (revCmd, remainLen) ← waitAssignResponse
  reject (revCmd ≠ 0xB) (.code .netReadErrorRequest)
  parseCryptoDataRspDas lib remainLen

/-! ## The exchanges -/

def modifyKernel (change : LbsKernel → LbsKernel) :
    LbsStep Context Unit :=
  modify fun session => { session with kernel := change session.kernel }

/-- `platform_handle.key_value_save`, which is taken to succeed. -/
def keyValueSave (type : SdkKeyvalueType) (value : Bytes) :
    LbsStep Context Unit :=
  modify fun session =>
    { session with keyValues := Function.update session.keyValues type value }

/-- The keys of the affair become those of the kernel. -/
def copyKeys : LbsStep Context Unit := do
  let session ← get
  let affair := session.affair
  modifyKernel fun kernel => { kernel with devId := affair.devId }
  modifyKernel fun kernel => { kernel with masterKey := affair.masterKey }
  modifyKernel fun kernel => { kernel with sessionKey := affair.sessionKey }

def saveKeyValue : LbsStep Context Unit := do
  copyKeys
  let session ← get
  keyValueSave .devid session.affair.devId
  keyValueSave .masterkey session.affair.masterKey

def saveDasInfo (recvDasInfo : DasInfo) : LbsStep Context Unit :=
  modifyKernel fun kernel => { kernel with redirectDasInfo := recvDasInfo }

/-- `lbs_close` and `fini_lbs_affair`, which every returning path of an
exchange runs through. -/
def finiLbsAffair (exchange : LbsStep Context Unit) :
    LbsStep Context Unit :=
  fun session =>
    match exchange session with
    | .ok _ reached => .ok () { reached with affair := LbsAffair.zero }
    | .error (.code error) reached =>
        .error (.code error) { reached with affair := LbsAffair.zero }
    | .error .nullDereference reached => .error .nullDereference reached

def lbsRedirectWithAuth (lib : LbsLibraries Context) (rand : ℕ → ℕ)
    (nUpper : Bool) : LbsStep Context Unit := finiLbsAffair do
  initLbsAffair lib rand nUpper
  lbsConnect
  sendAuthenticationI lib
  waitAuthenticationII lib
  clearLbsAffairBuf
  sendUpdateSessionkeyReq lib
  waitUpdateSessionkeyRsp lib
  clearLbsAffairBuf
  sendCryptoDataReq lib
  let revcDasInfo ← waitCryptoDataRspDas lib
  saveKeyValue
  saveDasInfo revcDasInfo

def lbsRedirectCreatedevidWithAuth (lib : LbsLibraries Context)
    (rand : ℕ → ℕ) (nUpper : Bool) : LbsStep Context Unit :=
  finiLbsAffair do
    initLbsAffair lib rand nUpper
    lbsConnect
    sendAuthenticationI lib
    waitAuthenticationII lib
    clearLbsAffairBuf
    sendAuthenticationCreatDevId lib
    waitAuthenticationCreatDevId lib
    clearLbsAffairBuf
    sendCryptoDataReq lib
    let revcDasInfo ← waitCryptoDataRspDas lib
    saveKeyValue
    saveDasInfo revcDasInfo

def lbsRedirect (lib : LbsLibraries Context) (rand : ℕ → ℕ) :
    LbsStep Context Unit := finiLbsAffair do
  initLbsAffair lib rand true
  lbsConnect
  sendRefreshsessionkeyI lib
  waitRefreshsessionkeyII lib
  clearLbsAffairBuf
  sendRefreshsessionkeyIII lib
  clearLbsAffairBuf
  sendCryptoDataReq lib
  let revcDasInfo ← waitCryptoDataRspDas lib
  copyKeys
  saveDasInfo revcDasInfo

inductive LbsFlow where
  | withAuth (nUpper : Bool)
  | createdevidWithAuth (nUpper : Bool)
  | refresh
  deriving DecidableEq, Repr

def LbsFlow.run (lib : LbsLibraries Context) (rand : ℕ → ℕ) :
    LbsFlow → LbsStep Context Unit
  | .withAuth nUpper => lbsRedirectWithAuth lib rand nUpper
  | .createdevidWithAuth nUpper =>
      lbsRedirectCreatedevidWithAuth lib rand nUpper
  | .refresh => lbsRedirect lib rand

end EziotSdk

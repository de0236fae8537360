import EziotSdk.AseSupport
import EziotSdk.JsonParser

/-!
# Frames of the LBS protocol

The state of one exchange with the LBS server, and the framing part of
`lbs_transport.c`: sending a packet and waiting for a response.

The network is given by what it does in a run: the code that each call
returns in turn, and the bytes that the server sends.  A read delivers as many
bytes as it asks for or fails.
-/

namespace EziotSdk

open ErrorState

/-! ## State -/

/-- The vendored libraries that the exchange calls, over the type of the key
exchange contexts. -/
structure LbsLibraries (Context : Type) where
  aes : AesCipher
  md5 : Bytes → Bytes
  sha384 : Bytes → Bytes
  mdHmacSha384 : Bytes → Bytes → Except ℤ Bytes
  length_mdHmacSha384 :
    ∀ {key message digest : Bytes},
      mdHmacSha384 key message = .ok digest → digest.length = 48
  ecpGroupLoad : Context → Except ℤ Context
  ecdhMakePublic : Context → Except ℤ (Bytes × Context)
  ecdhReadPublic : Context → Bytes → Except ℤ Context
  ecdhCalcSecret : Context → Except ℤ Bytes
  parse : CString → Option BscJson
  printBuffered : BscJson → Option CString

structure DevBasicInfo where
  devAccessMode : ℕ
  devAuthMode : UInt8
  devSubserial : Bytes
  devVerificationCode : Bytes

/-- The fields of `ezdev_sdk_kernel` that the transport reads or writes. -/
structure LbsKernel where
  devInfo : DevBasicInfo
  serverIp : CString
  devId : Bytes
  masterKey : Bytes
  sessionKey : Bytes
  redirectDasInfo : DasInfo

/-- What a completed exchange installs. -/
structure LbsCredentials where
  devId : Bytes
  masterKey : Bytes
  sessionKey : Bytes
  dasInfo : DasInfo
  deriving DecidableEq

def LbsKernel.credentials (kernel : LbsKernel) : LbsCredentials where
  devId := kernel.devId
  masterKey := kernel.masterKey
  sessionKey := kernel.sessionKey
  dasInfo := kernel.redirectDasInfo

inductive SdkKeyvalueType where
  | devid
  | masterkey
  deriving DecidableEq, Repr

/-- The bytes written to a packet that is to be sent. -/
structure LbsOutPacket where
  headBuf : Bytes
  payloadBuf : Bytes

/-- The receive buffer and the offset up to which it has been read. -/
structure LbsInPacket where
  payloadBuf : Bytes
  payloadBufOff : ℕ

structure LbsAffair where
  random1 : UInt8
  random2 : UInt8
  devAccessMode : ℕ
  devAuthMode : UInt8
  devSubserial : Bytes
  masterKey : Bytes
  devId : Bytes
  sessionKey : Bytes
  shareKey : Bytes
  globalOutPacket : LbsOutPacket
  globalInPacket : LbsInPacket

structure LbsNetwork where
  /-- The code that each call returns in turn, success when none is left. -/
  outcomes : List MkernelInternalError
  /-- The address that a completed connect reports. -/
  realIp : CString
  /-- What the server sends and the transport has not read yet. -/
  incoming : Bytes
  sent : Bytes

structure LbsSession (Context : Type) where
  kernel : LbsKernel
  keyValues : SdkKeyvalueType → Bytes
  affair : LbsAffair
  ctxClient : Context
  network : LbsNetwork

/-- A function of the transport: it returns a value, or ends early. -/
abbrev LbsStep (Context Value : Type) :=
  EStateM Abort (LbsSession Context) Value

variable {Context Value : Type}

def modifyAffair (change : LbsAffair → LbsAffair) :
    LbsStep Context Unit :=
  modify fun session => { session with affair := change session.affair }

def modifyNetwork (change : LbsNetwork → LbsNetwork) :
    LbsStep Context Unit :=
  modify fun session => { session with network := change session.network }

/-- A call whose error code is handed on. -/
def reported (outcome : Except MkernelInternalError Value) :
    LbsStep Context Value :=
  fromExcept (outcome.mapError Abort.code)

theorem reported_ok_iff
    {outcome : Except MkernelInternalError Value}
    {session reached : LbsSession Context} {value : Value} :
    reported outcome session = .ok value reached ↔
      outcome = .ok value ∧ session = reached := by
  rw [reported, fromExcept_ok_iff]
  cases outcome with
  | error error => simp [Except.mapError]
  | ok value => simp [Except.mapError]

/-! ## The network -/

/-- The code that the next call of the network returns. -/
def nextOutcome : LbsStep Context MkernelInternalError := do
  let session ← get
  modifyNetwork fun network =>
    { network with outcomes := network.outcomes.tail }
  pure (session.network.outcomes.headD .succ)

def netWorkRead (size : ℕ) : LbsStep Context Bytes := do
  let outcome ← nextOutcome
  reject (outcome ≠ .succ) (.code outcome)
  let session ← get
  reject (session.network.incoming.length < size) (.code .netReadError)
  modifyNetwork fun network =>
    { network with incoming := network.incoming.drop size }
  pure (session.network.incoming.take size)

def netWorkReadByte : LbsStep Context UInt8 := do
  let data ← netWorkRead 1
  pure (data.headD 0)

def netWorkWrite (data : Bytes) : LbsStep Context Unit := do
  let outcome ← nextOutcome
  reject (outcome ≠ .succ) (.code outcome)
  modifyNetwork fun network => { network with sent := network.sent ++ data }

/-- The second attempt of `lbs_connect`, by the address that an earlier
connect had reported. -/
def lbsConnectByIp (byName : MkernelInternalError) :
    LbsStep Context Unit := do
  let created ← nextOutcome
  reject (created ≠ .succ) (.code .netConnectError)
  let session ← get
  reject (session.kernel.serverIp = []) (.code byName)
  let byIp ← nextOutcome
  reject (byIp ≠ .succ ∧ byIp ≠ .netGethostbynameError)
    (.code .netConnectError)
  reject (byIp ≠ .succ) (.code byIp)

def lbsConnectRetry (byName : MkernelInternalError) :
    LbsStep Context Unit :=
  if byName = .succ then pure () else lbsConnectByIp byName

def lbsConnect : LbsStep Context Unit := do
  let created ← nextOutcome
  reject (created ≠ .succ) (.code .netConnectError)
  let byName ← nextOutcome
  lbsConnectRetry byName
  modify fun session =>
    { session with
      kernel := { session.kernel with
        serverIp := session.network.realIp.take (ezdevSdkIpMaxLen - 1) } }

/-! ## Frames -/

/-- The length bytes of `header_serialize`: seven bits each, the lowest
first, at most `count` of them. -/
def lengthBytes : ℕ → ℕ → Bytes
  | 0, _ => []
  | count + 1, payloadLen =>
      if payloadLen / 128 > 0 then
        UInt8.ofNat (payloadLen % 128 + 0x80) ::
          lengthBytes count (payloadLen / 128)
      else [UInt8.ofNat (payloadLen % 128)]

def appendHead (data : Bytes) : LbsStep Context Unit :=
  modifyAffair fun affair =>
    { affair with globalOutPacket := { affair.globalOutPacket with
        headBuf := affair.globalOutPacket.headBuf ++ data } }

def appendPayload (data : Bytes) : LbsStep Context Unit :=
  modifyAffair fun affair =>
    { affair with globalOutPacket := { affair.globalOutPacket with
        payloadBuf := affair.globalOutPacket.payloadBuf ++ data } }

/-- The header with the flags of the protocol's version in its low bits. -/
def serializeHead (low cmd : ℕ) : LbsStep Context Unit := do
  let session ← get
  appendHead (UInt8.ofNat (cmd % 16 * 16 + low) ::
    lengthBytes 4 session.affair.globalOutPacket.payloadBuf.length)

def headerSerialize (cmd : ℕ) : LbsStep Context Unit := serializeHead 0x2 cmd

def headerSerializeOld (cmd : ℕ) : LbsStep Context Unit := serializeHead 0 cmd

def commonSerialize (proFormVersion proTypeLowVersion
    proTypeHighVersion : UInt8) : LbsStep Context Unit := do
  let session ← get
  reject (ezdevSdkSendBufMax <
    session.affair.globalOutPacket.payloadBuf.length + 3) (.code .memLack)
  appendPayload [proFormVersion, proTypeLowVersion, proTypeHighVersion]

def sendLbsMsg : LbsStep Context Unit := do
  let session ← get
  netWorkWrite session.affair.globalOutPacket.headBuf
  netWorkWrite session.affair.globalOutPacket.payloadBuf

/-- The loop over the length bytes, which reads on while a byte has its high
bit.  Each round takes a byte, so the fuel of the caller lasts. -/
def readRemainLen : ℕ → ℕ → ℕ → LbsStep Context ℕ
  | 0, _, _ => throw (.code .netReadError)
  | fuel + 1, remainMult, remainLen => do
      let byte2 ← netWorkReadByte
      let remainLen :=
        (remainLen + byte2.toNat % 128 * remainMult) % 2 ^ 32
      if byte2.toNat < 0x80 then pure remainLen
      else readRemainLen fuel (remainMult * 128 % 2 ^ 32) remainLen

/-- The data at the start of the receive buffer. -/
def LbsAffair.receive (affair : LbsAffair) (data : Bytes) : LbsAffair :=
  { affair with globalInPacket := { affair.globalInPacket with
      payloadBuf :=
        data ++ affair.globalInPacket.payloadBuf.drop data.length } }

/-- The command and the length of the response, whose payload is left in the
receive buffer. -/
def waitAssignResponse : LbsStep Context (ℕ × ℕ) := do
  let byte1 ← netWorkReadByte
  let session ← get
  let remainLen ←
    readRemainLen (session.network.incoming.length + 1) 1 0
  reject (ezdevSdkRecvBufMax < remainLen) (.code .memLack)
  let data ← netWorkRead remainLen
  modifyAffair fun affair => affair.receive data
  pure (byte1.toNat / 16, remainLen)

/-! ## What has been read -/

/-- The bytes that led from one state to another: nothing but the network has
changed, and the server's bytes have been taken off it. -/
structure Reads (session : LbsSession Context) (data : Bytes)
    (reached : LbsSession Context) : Prop where
  same : reached = { session with network := reached.network }
  incoming : session.network.incoming = data ++ reached.network.incoming

theorem Reads.append
    {session middle reached : LbsSession Context} {data rest : Bytes}
    (hdata : Reads session data middle) (hrest : Reads middle rest reached) :
    Reads session (data ++ rest) reached where
  same := by
    have hsame := hrest.same
    rw [hdata.same] at hsame
    exact hsame
  incoming := by
    rw [hdata.incoming, hrest.incoming, List.append_assoc]

theorem reads_of_nextOutcome
    {session reached : LbsSession Context} {outcome : MkernelInternalError}
    (hok : nextOutcome session = .ok outcome reached) :
    Reads session [] reached := by
  simp only [nextOutcome, modifyNetwork, bind_ok_iff, get_ok_iff,
    modify_ok_iff, pure_ok_iff] at hok
  obtain ⟨_, _, ⟨rfl, rfl⟩, _, _, rfl, _, rfl⟩ := hok
  exact ⟨rfl, rfl⟩

theorem reads_of_netWorkRead
    {session reached : LbsSession Context} {size : ℕ} {data : Bytes}
    (hok : netWorkRead size session = .ok data reached) :
    Reads session data reached ∧ data.length = size := by
  simp only [netWorkRead, modifyNetwork, bind_ok_iff, get_ok_iff,
    modify_ok_iff, pure_ok_iff, reject_ok_iff] at hok
  obtain ⟨_, middle, houtcome, _, _, ⟨_, rfl⟩, _, _, ⟨rfl, rfl⟩, _, _,
    ⟨hlength, rfl⟩, _, _, rfl, rfl, rfl⟩ := hok
  have hread : Reads middle (middle.network.incoming.take size)
      { middle with network := { middle.network with
          incoming := middle.network.incoming.drop size } } :=
    ⟨rfl, (List.take_append_drop size _).symm⟩
  refine ⟨(reads_of_nextOutcome houtcome).append hread, ?_⟩
  rw [List.length_take]
  omega

theorem reads_of_netWorkReadByte
    {session reached : LbsSession Context} {byte : UInt8}
    (hok : netWorkReadByte session = .ok byte reached) :
    Reads session [byte] reached := by
  rw [netWorkReadByte, bind_ok_iff] at hok
  obtain ⟨data, middle, hdata, hbyte⟩ := hok
  obtain ⟨hreads, hlength⟩ := reads_of_netWorkRead hdata
  obtain ⟨first, rfl⟩ := List.length_eq_one_iff.mp hlength
  obtain ⟨rfl, rfl⟩ := pure_ok_iff.mp hbyte
  exact hreads

/-- A length field ends with its first byte below `0x80`. -/
def LengthFieldEnds : Bytes → Prop
  | [] => False
  | byte :: rest =>
      if byte.toNat < 0x80 then rest = [] else LengthFieldEnds rest

/-- The length that the loop computes from a field. -/
def remainLenOf (remainMult remainLen : ℕ) : Bytes → ℕ
  | [] => remainLen
  | byte :: rest =>
      remainLenOf (remainMult * 128 % 2 ^ 32)
        ((remainLen + byte.toNat % 128 * remainMult) % 2 ^ 32) rest

/-- A response as the server sends it. -/
structure LbsFrame where
  head : UInt8
  lengthField : Bytes
  body : Bytes
  ends : LengthFieldEnds lengthField
  announces : remainLenOf 1 0 lengthField = body.length

namespace LbsFrame

def bytes (frame : LbsFrame) : Bytes :=
  frame.head :: frame.lengthField ++ frame.body

def cmd (frame : LbsFrame) : ℕ := frame.head.toNat / 16

end LbsFrame

/-- Of two fields at the start of the same bytes, neither goes on after the
other has ended. -/
theorem lengthField_unique
    {field other rest otherRest : Bytes}
    (hfield : LengthFieldEnds field) (hother : LengthFieldEnds other)
    (heq : field ++ rest = other ++ otherRest) : field = other := by
  induction field generalizing other with
  | nil => exact hfield.elim
  | cons byte field ih =>
      cases other with
      | nil => exact hother.elim
      | cons otherByte other =>
          rw [List.cons_append, List.cons_append, List.cons.injEq] at heq
          obtain ⟨rfl, htail⟩ := heq
          by_cases hlast : byte.toNat < 0x80
          · rw [LengthFieldEnds, if_pos hlast] at hfield hother
            rw [hfield, hother]
          · rw [LengthFieldEnds, if_neg hlast] at hfield hother
            rw [ih hfield hother htail]

/-- The bytes that a server sends start with one frame at most. -/
theorem LbsFrame.eq_of_prefix
    {frame other : LbsFrame} {incoming : Bytes}
    (hframe : frame.bytes <+: incoming) (hother : other.bytes <+: incoming) :
    frame = other := by
  obtain ⟨rest, rfl⟩ := hframe
  obtain ⟨otherRest, heq⟩ := hother
  simp only [LbsFrame.bytes, List.cons_append, List.append_assoc,
    List.cons.injEq] at heq
  obtain ⟨hhead, htail⟩ := heq
  have hfield := lengthField_unique other.ends frame.ends htail
  rw [hfield, List.append_cancel_left_eq] at htail
  have hlength : other.body.length = frame.body.length := by
    rw [← frame.announces, ← other.announces, hfield]
  have hbody := (List.append_inj htail hlength).1
  cases frame
  cases other
  simp_all

theorem reads_of_readRemainLen
    {session reached : LbsSession Context} {fuel remainMult remainLen : ℕ}
    {result : ℕ}
    (hok : readRemainLen fuel remainMult remainLen session =
      .ok result reached) :
    ∃ field, LengthFieldEnds field ∧ Reads session field reached ∧
      remainLenOf remainMult remainLen field = result := by
  induction fuel generalizing session remainMult remainLen with
  | zero => cases hok
  | succ fuel ih =>
      rw [readRemainLen, bind_ok_iff] at hok
      obtain ⟨byte, middle, hbyte, hrest⟩ := hok
      have hreads := reads_of_netWorkReadByte hbyte
      by_cases hlast : byte.toNat < 0x80
      · rw [if_pos hlast] at hrest
        obtain ⟨rfl, rfl⟩ := pure_ok_iff.mp hrest
        exact ⟨[byte], by simp [LengthFieldEnds, hlast], hreads, rfl⟩
      · rw [if_neg hlast] at hrest
        obtain ⟨field, hends, hfield, hresult⟩ := ih hrest
        refine ⟨byte :: field, ?_, hreads.append hfield, hresult⟩
        rw [LengthFieldEnds, if_neg hlast]
        exact hends

theorem frame_of_waitAssignResponse
    {session reached : LbsSession Context} {cmd remainLen : ℕ}
    (hok : waitAssignResponse session = .ok (cmd, remainLen) reached) :
    ∃ frame : LbsFrame, frame.cmd = cmd ∧ frame.body.length = remainLen ∧
      remainLen ≤ ezdevSdkRecvBufMax ∧
      session.network.incoming = frame.bytes ++ reached.network.incoming ∧
      reached = { session with
        affair := session.affair.receive frame.body
        network := reached.network } := by
  simp only [waitAssignResponse, modifyAffair, bind_ok_iff, get_ok_iff,
    modify_ok_iff, pure_ok_iff, reject_ok_iff] at hok
  obtain ⟨head, _, hhead, _, _, ⟨rfl, rfl⟩, _, _, hfield, _, _,
    ⟨hlimit, rfl⟩, body, middle, hbody, _, _, rfl, hresult, rfl⟩ := hok
  have hreadHead := reads_of_netWorkReadByte hhead
  obtain ⟨field, hends, hreadField, hremain⟩ := reads_of_readRemainLen hfield
  obtain ⟨hreadBody, hlength⟩ := reads_of_netWorkRead hbody
  have hreads := (hreadHead.append hreadField).append hreadBody
  cases hresult
  refine ⟨⟨head, field, body, hends, hremain.trans hlength.symm⟩, rfl,
    hlength, by omega, hreads.incoming, ?_⟩
  have hsame := hreads.same
  rw [hsame]

end EziotSdk

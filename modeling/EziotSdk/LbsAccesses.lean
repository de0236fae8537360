import EziotSdk.BufferTraces
import EziotSdk.LbsResponses
import EziotSdk.TracedState

/-!
# What the parsers of LBS responses touch

Each parser of `lbs_transport.c` with the reads it makes of the receive
buffer, the lengths it derives, the bytes that its decryptions write and the
text that it hands to the JSON parser.  Without these events it is the parser
itself.
-/

namespace EziotSdk

open ErrorState
open ErrorState.Traced

variable {Context : Type}

/-! ## Events -/

inductive ParserEvent where
  | read (access : Access)
  | derived (length : DerivedLength)
  | written (count capacity : ℕ)
  | text (block : Bytes)
  deriving DecidableEq, Repr

abbrev LbsTraced (Context Value : Type) :=
  Traced Abort (LbsSession Context) ParserEvent Value

/-- The bytes of a buffer that `ezdev_sdk_total_len` declares. -/
def ezdevSdkTotalLen : ℕ := 128

/-- The difference that `LbsAffair.remaining` takes in `bits` bits. -/
def LbsAffair.remainingLength (affair : LbsAffair) (remainLen bits : ℕ) :
    DerivedLength :=
  ⟨affair.remaining remainLen bits,
    remainLen - affair.globalInPacket.payloadBufOff⟩

/-- `aes_cbc_128_dec_padding` reaches the block cipher. -/
def AesCipher.Crypts (cipher : AesCipher) (key : Bytes) (inputLength : ℕ) :
    Prop :=
  ¬ (inputLength = 0 ∨ inputLength % 16 ≠ 0) ∧ cipher.setkeyDec key = 0

instance (cipher : AesCipher) (key : Bytes) (inputLength : ℕ) :
    Decidable (cipher.Crypts key inputLength) :=
  inferInstanceAs (Decidable (_ ∧ _))

/-- The block cipher reads all of the input, and writes as much where it does
not fail. -/
def decryptionEvents (cipher : AesCipher) (key : Bytes)
    (affair : LbsAffair) (inputLength capacity : ℕ) : List ParserEvent :=
  if cipher.Crypts key inputLength then
    .read ⟨affair.globalInPacket.payloadBufOff, inputLength⟩ ::
      match cipher.cryptCbcDecrypt key aesIv
          (affair.unread.take inputLength) with
      | .ok _ => [.written inputLength capacity]
      | .error _ => []
  else []

/-! ## The parsers -/

def tracedPayloadByte : LbsTraced Context UInt8 := do
  record fun session =>
    [.read ⟨session.affair.globalInPacket.payloadBufOff, 1⟩]
  quietly takePayloadByte

def tracedResultCode : LbsTraced Context Unit := do
  quietly (skipPayload 3)
  let resultCode ← tracedPayloadByte
  quietly (reject (resultCode ≠ 0)
    (.code (.platformError resultCode.toInt8.toInt)))

def tracedDecPadding (lib : LbsLibraries Context) (key : Bytes)
    (affair : LbsAffair) (inputLength capacity : ℕ) :
    LbsTraced Context AesPlain := do
  record fun _ =>
    decryptionEvents lib.aes key affair inputLength capacity
  quietly (reported
    (aesCbc128DecPadding lib.aes key affair.unread inputLength))

def tracedDecryptPeerPubkey (lib : LbsLibraries Context) (remainLen : ℕ) :
    LbsTraced Context Bytes := do
  quietly (reject (remainLen = 0) (.code .inputParamInvalid))
  let session ← quietly get
  record fun _ => [.derived (session.affair.remainingLength remainLen 8)]
  let plain ← tracedDecPadding lib (session.affair.shareKey.take 16)
    session.affair (session.affair.remaining remainLen 8) ezdevSdkTotalLen
  pure plain.text

def tracedAuthenticationII (lib : LbsLibraries Context) (remainLen : ℕ) :
    LbsTraced Context Unit := do
  tracedResultCode
  let peerPubkey ← tracedDecryptPeerPubkey lib remainLen
  quietly do
    let session ← get
    let secret ← reported (generateMasterKey lib session.ctxClient peerPubkey)
    modifyAffair fun affair =>
      { affair with masterKey := masterKeyOf lib secret }

/-- The comparison reads the signature if it has been computed. -/
def signEvents (lib : LbsLibraries Context) (affair : LbsAffair)
    (targetSignLen : ℕ) : List ParserEvent :=
  if affair.devSubserial.length ≤ 128 ∧ targetSignLen = 48 then
    match digitalSign lib affair.devSubserial affair.masterKey with
    | .ok _ => [.read ⟨affair.globalInPacket.payloadBufOff, 48⟩]
    | .error _ => []
  else []

def tracedSignCheck (lib : LbsLibraries Context) (remainLen : ℕ) :
    LbsTraced Context Unit := do
  let session ← quietly get
  record fun _ =>
    .derived (session.affair.remainingLength remainLen 16) ::
      signEvents lib session.affair (session.affair.remaining remainLen 16)
  quietly (digitalSignSerializeAndCheckSha384 lib session.affair.unread
    (session.affair.remaining remainLen 16) session.affair.devSubserial
    session.affair.masterKey)

def tracedAuthenticationCreateDevId (lib : LbsLibraries Context)
    (remainLen : ℕ) : LbsTraced Context Unit := do
  tracedResultCode
  let enDevIdLen ← tracedPayloadByte
  quietly (reject (enDevIdLen ≠ 48) (.code .platformAppointError))
  let session ← quietly get
  let devId ← tracedDecPadding lib session.affair.masterKey session.affair
    48 32
  quietly (reject (devId.length ≠ 32) (.code .platformAppointError))
  quietly (modifyAffair fun affair => { affair with devId := devId.text })
  quietly (skipPayload 48)
  let enSessionkeyLen ← tracedPayloadByte
  quietly (reject (enSessionkeyLen ≠ 32) (.code .platformAppointError))
  let session ← quietly get
  let sessionkey ← tracedDecPadding lib session.affair.masterKey
    session.affair 32 16
  quietly (reject (sessionkey.length ≠ 16) (.code .platformAppointError))
  quietly (modifyAffair fun affair =>
    { affair with sessionKey := sessionkey.text })
  quietly (skipPayload 32)
  tracedSignCheck lib remainLen

def tracedRefreshsessionkeyII (lib : LbsLibraries Context)
    (remainLen : ℕ) : LbsTraced Context Unit := do
  tracedResultCode
  let session ← quietly get
  record fun _ => [.derived (session.affair.remainingLength remainLen 8)]
  quietly (reject (session.affair.remaining remainLen 8 ≠ 32)
    (.code .platformAppointError))
  let aseDst ← tracedDecPadding lib session.affair.masterKey session.affair
    32 32
  quietly do
    skipPayload 32
    reject (aseDst.written.headD 0 ≠ session.affair.random1)
      (.code .random1CheckError)
    modifyAffair fun affair =>
      { affair with
        random2 := aseDst.written.getD 1 0
        sessionKey := (aseDst.written.drop 2).take 16 }

/-- The block of the decrypted data is allocated in its exact length. -/
def tracedCryptoDataRspDas (lib : LbsLibraries Context) (remainLen : ℕ) :
    LbsTraced Context DasInfo := do
  tracedResultCode
  let session ← quietly get
  record fun _ => [.derived (session.affair.remainingLength remainLen 32)]
  let deDst ← tracedDecPadding lib session.affair.sessionKey session.affair
    (session.affair.remaining remainLen 32)
    (session.affair.remaining remainLen 32)
  record fun _ => [.text deDst.written]
  quietly (parseDasServerInfo lib (textOfBytes deDst.written))

/-! ## The events are an observation only -/

theorem run_tracedPayloadByte :
    (tracedPayloadByte : LbsTraced Context UInt8).run =
      takePayloadByte := rfl

theorem run_tracedResultCode :
    (tracedResultCode : LbsTraced Context Unit).run = takeResultCode := rfl

theorem run_tracedDecPadding (lib : LbsLibraries Context) (key : Bytes)
    (affair : LbsAffair) (inputLength capacity : ℕ) :
    (tracedDecPadding lib key affair inputLength capacity).run =
      reported
        (aesCbc128DecPadding lib.aes key affair.unread inputLength) := by
  rw [tracedDecPadding, run_bind, run_record, pure_bind, run_quietly]

theorem run_tracedAuthenticationII
    (lib : LbsLibraries Context) (remainLen : ℕ) :
    (tracedAuthenticationII lib remainLen).run =
      parseAuthenticationII lib remainLen := by
  simp only [tracedAuthenticationII, tracedDecryptPeerPubkey,
    parseAuthenticationII, aes128DecryptPeerPubkey, run_bind, run_quietly,
    run_record, run_pure, run_tracedResultCode, run_tracedDecPadding,
    pure_bind]

theorem run_tracedAuthenticationCreateDevId
    (lib : LbsLibraries Context) (remainLen : ℕ) :
    (tracedAuthenticationCreateDevId lib remainLen).run =
      parseAuthenticationCreateDevId lib remainLen := by
  simp only [tracedAuthenticationCreateDevId, tracedSignCheck,
    parseAuthenticationCreateDevId, run_bind, run_quietly, run_record,
    run_tracedResultCode, run_tracedPayloadByte, run_tracedDecPadding,
    pure_bind]

theorem run_tracedRefreshsessionkeyII
    (lib : LbsLibraries Context) (remainLen : ℕ) :
    (tracedRefreshsessionkeyII lib remainLen).run =
      parseRefreshsessionkeyII lib remainLen := by
  simp only [tracedRefreshsessionkeyII, parseRefreshsessionkeyII,
    run_bind, run_quietly, run_record, run_tracedResultCode,
    run_tracedDecPadding, pure_bind]

theorem run_tracedCryptoDataRspDas
    (lib : LbsLibraries Context) (remainLen : ℕ) :
    (tracedCryptoDataRspDas lib remainLen).run =
      parseCryptoDataRspDas lib remainLen := by
  simp only [tracedCryptoDataRspDas, parseCryptoDataRspDas,
    decryptCryptoData, run_bind, run_quietly, run_record,
    run_tracedResultCode, run_tracedDecPadding, bind_assoc, pure_bind]

/-! ## Where the parsers are -/

/-- The session when its receive buffer has been read up to an offset. -/
def LbsSession.readUpTo (session : LbsSession Context) (buf : Bytes)
    (off : ℕ) : LbsSession Context :=
  { session with affair := session.affair.readUpTo buf off }

@[simp] theorem readUpTo_payloadBufOff
    (session : LbsSession Context) (buf : Bytes) (off : ℕ) :
    (session.readUpTo buf off).affair.globalInPacket.payloadBufOff =
      off := rfl

@[simp] theorem readUpTo_unread
    (session : LbsSession Context) (buf : Bytes) (off : ℕ) :
    (session.readUpTo buf off).affair.unread = buf.drop off := rfl

@[simp] theorem readUpTo_masterKey
    (session : LbsSession Context) (buf : Bytes) (off : ℕ) :
    (session.readUpTo buf off).affair.masterKey =
      session.affair.masterKey := rfl

theorem takePayloadByte_ok_iff
    {session reached : LbsSession Context} {buf : Bytes} {off : ℕ}
    {byte : UInt8} :
    takePayloadByte (session.readUpTo buf off) = .ok byte reached ↔
      buf.getD off 0 = byte ∧ session.readUpTo buf (off + 1) = reached := by
  constructor
  · intro hok
    obtain ⟨rfl, rfl⟩ := ok_of_takePayloadByte rfl hok
    exact ⟨rfl, rfl⟩
  · rintro ⟨rfl, rfl⟩
    rw [← headD_drop]
    rfl

theorem skipPayload_ok_iff
    {session reached : LbsSession Context} {buf : Bytes} {off count : ℕ}
    {result : Unit} :
    skipPayload count (session.readUpTo buf off) = .ok result reached ↔
      session.readUpTo buf (off + count) = reached :=
  modify_ok_iff

theorem takeResultCode_ok_iff
    {session reached : LbsSession Context} {buf : Bytes} {result : Unit} :
    takeResultCode (session.readUpTo buf 0) = .ok result reached ↔
      buf.getD 3 0 = 0 ∧ session.readUpTo buf 4 = reached := by
  simp only [takeResultCode, bind_ok_iff, skipPayload_ok_iff,
    exists_const, exists_eq_left', takePayloadByte_ok_iff, reject_ok_iff,
    not_not]
  simp

theorem always_tracedPayloadByte_bind_iff
    {Value : Type} {holds : ParserEvent → Prop}
    {next : UInt8 → LbsTraced Context Value} {session : LbsSession Context}
    {buf : Bytes} {off : ℕ} :
    (tracedPayloadByte >>= next).Always holds (session.readUpTo buf off) ↔
      holds (.read ⟨off, 1⟩) ∧
        (next (buf.getD off 0)).Always holds
          (session.readUpTo buf (off + 1)) := by
  rw [always_bind_iff, tracedPayloadByte, always_record_bind_iff,
    List.forall_mem_singleton, and_iff_left (always_quietly _ _ _)]
  apply and_congr_right
  intro _
  rw [run_bind, run_record, pure_bind, run_quietly]
  simp only [takePayloadByte_ok_iff, and_imp, forall_eq',
    forall_apply_eq_imp_iff]

/-- The first read of every parser is that of the result code. -/
theorem always_tracedResultCode_bind_iff
    {Value : Type} {holds : ParserEvent → Prop}
    {next : Unit → LbsTraced Context Value} {session : LbsSession Context}
    {buf : Bytes} :
    (tracedResultCode >>= next).Always holds (session.readUpTo buf 0) ↔
      holds (.read ⟨3, 1⟩) ∧
        (buf.getD 3 0 = 0 →
          (next ()).Always holds (session.readUpTo buf 4)) := by
  rw [always_bind_iff, run_tracedResultCode]
  have hread : (tracedResultCode : LbsTraced Context Unit).Always holds
      (session.readUpTo buf 0) ↔ holds (.read ⟨3, 1⟩) := by
    simp only [tracedResultCode, always_quietly_bind_iff,
      skipPayload_ok_iff, forall_eq', forall_const,
      always_tracedPayloadByte_bind_iff, always_quietly, and_true]
  rw [hread, forall_ok_iff fun _ _ => takeResultCode_ok_iff]
  exact and_congr_right fun _ => Unique.forall_iff

theorem always_skipPayload_bind_iff
    {Value : Type} {holds : ParserEvent → Prop} {count : ℕ}
    {next : Unit → LbsTraced Context Value} {session : LbsSession Context}
    {buf : Bytes} {off : ℕ} :
    (quietly (skipPayload count) >>= next).Always holds
        (session.readUpTo buf off) ↔
      (next ()).Always holds (session.readUpTo buf (off + count)) := by
  simp only [always_quietly_bind_iff, skipPayload_ok_iff, forall_eq',
    Unique.forall_iff]

/-- A change of the affair that leaves the receive buffer alone. -/
theorem always_modifyAffair_bind_iff
    {Value : Type} {holds : ParserEvent → Prop}
    {change : LbsAffair → LbsAffair} {next : Unit → LbsTraced Context Value}
    {session : LbsSession Context} {buf : Bytes} {off : ℕ}
    (hbuf : ∀ affair, change (affair.readUpTo buf off) =
      (change affair).readUpTo buf off) :
    (quietly (modifyAffair change) >>= next).Always holds
        (session.readUpTo buf off) ↔
      (next ()).Always holds (LbsSession.readUpTo
        { session with affair := change session.affair } buf off) := by
  have hreached : ({ session.readUpTo buf off with
      affair := change (session.readUpTo buf off).affair } :
        LbsSession Context) = LbsSession.readUpTo
          { session with affair := change session.affair } buf off := by
    rw [LbsSession.readUpTo, LbsSession.readUpTo, hbuf]
  simp only [always_quietly_bind_iff, modifyAffair, modify_ok_iff,
    forall_eq', Unique.forall_iff]
  rw [hreached]

theorem always_setDevId_bind_iff
    {Value : Type} {holds : ParserEvent → Prop} {devId : Bytes}
    {next : Unit → LbsTraced Context Value} {session : LbsSession Context}
    {buf : Bytes} {off : ℕ} :
    (quietly (modifyAffair fun affair => { affair with devId := devId }) >>=
        next).Always holds (session.readUpTo buf off) ↔
      (next ()).Always holds (LbsSession.readUpTo
        { session with affair := { session.affair with devId := devId } }
        buf off) :=
  always_modifyAffair_bind_iff fun _ => rfl

theorem always_setSessionKey_bind_iff
    {Value : Type} {holds : ParserEvent → Prop} {sessionKey : Bytes}
    {next : Unit → LbsTraced Context Value} {session : LbsSession Context}
    {buf : Bytes} {off : ℕ} :
    (quietly (modifyAffair fun affair =>
        { affair with sessionKey := sessionKey }) >>= next).Always holds
        (session.readUpTo buf off) ↔
      (next ()).Always holds (LbsSession.readUpTo
        { session with
          affair := { session.affair with sessionKey := sessionKey } }
        buf off) :=
  always_modifyAffair_bind_iff fun _ => rfl

theorem always_tracedDecPadding_bind_iff
    {Value : Type} {holds : ParserEvent → Prop}
    {lib : LbsLibraries Context} {key : Bytes} {affair : LbsAffair}
    {inputLength capacity : ℕ} {next : AesPlain → LbsTraced Context Value}
    {session : LbsSession Context} :
    (tracedDecPadding lib key affair inputLength capacity >>=
        next).Always holds session ↔
      (∀ event ∈ decryptionEvents lib.aes key affair inputLength capacity,
          holds event) ∧
        ∀ plain,
          aesCbc128DecPadding lib.aes key affair.unread inputLength =
              .ok plain →
            (next plain).Always holds session := by
  rw [always_bind_iff, run_tracedDecPadding, tracedDecPadding,
    always_record_bind_iff, and_iff_left (always_quietly _ _ _),
    forall_ok_iff fun _ _ => reported_ok_iff]

end EziotSdk

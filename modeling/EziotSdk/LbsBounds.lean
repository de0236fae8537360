import EziotSdk.LbsAccesses
import EziotSdk.LbsCredentials

/-!
# Responses that are read within their bounds

No parser compares the announced length with what it reads.  Two of them
subtract the offset in eight bits; the one for a device id looks at the
announced length only when all of it should have been read.
-/

namespace EziotSdk

open ErrorState
open ErrorState.Traced

variable {Context Value : Type}

/-! ## What a parser should do -/

/-- The body of a response that `wait_assign_response` accepts. -/
structure LbsBody where
  bytes : Bytes
  fits : bytes.length ≤ ezdevSdkRecvBufMax

namespace LbsBody

def length (body : LbsBody) : ℕ := body.bytes.length

/-- A byte of the receive buffer. -/
def byte (body : LbsBody) (off : ℕ) : UInt8 :=
  (receiveBuffer body.bytes).getD off 0

/-- The receive buffer from an offset on. -/
def from_ (body : LbsBody) (off : ℕ) : Bytes :=
  (receiveBuffer body.bytes).drop off

end LbsBody

def LbsSession.received (session : LbsSession Context) (body : LbsBody) :
    LbsSession Context :=
  session.readUpTo (receiveBuffer body.bytes) 0

def ParserEvent.Inside (remainLen : ℕ) : ParserEvent → Prop
  | .read access => access.Within remainLen
  | .derived length => length.Exact
  | .written _ _ => True
  | .text _ => True

/-- All reads are of received bytes, all lengths are what they should be, and
a response that is accepted has been read to its end. -/
structure BoundedParse {parser : LbsStep Context Value}
    (observed : Observation ParserEvent parser)
    (session : LbsSession Context) (remainLen : ℕ) : Prop where
  inside : observed.traced.Always (ParserEvent.Inside remainLen) session
  whole : ∀ value reached, parser session = .ok value reached →
    ∃ access, .read access ∈ observed.traced.events session ∧
      access.offset + access.count = remainLen

def authenticationII (lib : LbsLibraries Context) (remainLen : ℕ) :
    Observation ParserEvent (parseAuthenticationII lib remainLen) :=
  ⟨tracedAuthenticationII lib remainLen,
    run_tracedAuthenticationII lib remainLen⟩

def authenticationCreateDevId (lib : LbsLibraries Context)
    (remainLen : ℕ) :
    Observation ParserEvent (parseAuthenticationCreateDevId lib remainLen) :=
  ⟨tracedAuthenticationCreateDevId lib remainLen,
    run_tracedAuthenticationCreateDevId lib remainLen⟩

def refreshsessionkeyII (lib : LbsLibraries Context) (remainLen : ℕ) :
    Observation ParserEvent (parseRefreshsessionkeyII lib remainLen) :=
  ⟨tracedRefreshsessionkeyII lib remainLen,
    run_tracedRefreshsessionkeyII lib remainLen⟩

def cryptoDataRspDas (lib : LbsLibraries Context) (remainLen : ℕ) :
    Observation ParserEvent (parseCryptoDataRspDas lib remainLen) :=
  ⟨tracedCryptoDataRspDas lib remainLen,
    run_tracedCryptoDataRspDas lib remainLen⟩

/-! ## Single events -/

theorem inside_decryptionEvents_iff
    {cipher : AesCipher} {key : Bytes} {affair : LbsAffair}
    {inputLength capacity remainLen : ℕ} :
    (∀ event ∈ decryptionEvents cipher key affair inputLength capacity,
        event.Inside remainLen) ↔
      (cipher.Crypts key inputLength →
        affair.globalInPacket.payloadBufOff + inputLength ≤ remainLen) := by
  unfold decryptionEvents
  by_cases hcrypts : cipher.Crypts key inputLength
  · rw [if_pos hcrypts, List.forall_mem_cons, imp_iff_right hcrypts]
    apply and_iff_left
    split
    · intro event hevent
      rw [List.mem_singleton.mp hevent]
      trivial
    · intro event hevent
      cases hevent
  · rw [if_neg hcrypts]
    simp [hcrypts]

/-- A decryption that succeeds has read all of its input. -/
theorem AesCipher.Crypts.of_ok
    {cipher : AesCipher} {key input : Bytes} {inputLength : ℕ}
    {plain : AesPlain}
    (hplain : aesCbc128DecPadding cipher key input inputLength =
      .ok plain) :
    cipher.Crypts key inputLength := by
  unfold aesCbc128DecPadding at hplain
  split_ifs at hplain with hlength hkey
  exact ⟨hlength, not_not.mp hkey⟩

theorem read_mem_decryptionEvents
    {cipher : AesCipher} {key : Bytes} {affair : LbsAffair}
    {inputLength : ℕ} (capacity : ℕ)
    (hcrypts : cipher.Crypts key inputLength) :
    .read ⟨affair.globalInPacket.payloadBufOff, inputLength⟩ ∈
      decryptionEvents cipher key affair inputLength capacity := by
  rw [decryptionEvents, if_pos hcrypts]
  exact List.mem_cons_self

/-- A difference is exact in `bits` bits if it is not negative and fits. -/
theorem remainingLength_exact_iff
    {affair : LbsAffair} {remainLen bits : ℕ} (hbits : bits ≤ 32) :
    (affair.remainingLength remainLen bits).Exact ↔
      affair.globalInPacket.payloadBufOff ≤ remainLen ∧
        remainLen - affair.globalInPacket.payloadBufOff < 2 ^ bits := by
  change (((remainLen + 2 ^ 32 - affair.globalInPacket.payloadBufOff) %
    2 ^ bits : ℕ) : ℤ) = remainLen - affair.globalInPacket.payloadBufOff ↔ _
  generalize affair.globalInPacket.payloadBufOff = off
  by_cases hle : off ≤ remainLen
  · obtain ⟨multiple, hmultiple⟩ : 2 ^ bits ∣ 2 ^ 32 :=
      pow_dvd_pow 2 hbits
    have hsum : remainLen + 2 ^ 32 - off =
        (remainLen - off) + 2 ^ bits * multiple := by omega
    rw [hsum, Nat.add_mul_mod_self_left, ← Nat.cast_sub hle, Nat.cast_inj,
      Nat.mod_eq_iff_lt (Nat.two_pow_pos bits).ne', and_iff_right hle]
  · have hnegative : (remainLen : ℤ) - off < 0 := by omega
    constructor
    · intro hexact
      omega
    · rintro ⟨hbound, -⟩
      exact (hle hbound).elim

/-! ## The parsers that subtract in eight bits -/

/-- The announced length covers the result code, and what follows it fits one
byte if the result is success. -/
def FitsOneByte (body : LbsBody) : Prop :=
  4 ≤ body.length ∧ (body.byte 3 = 0 → body.length - 4 < 2 ^ 8)

/-- The event of a length at offset four. -/
theorem inside_derived_iff
    (session : LbsSession Context) (body : LbsBody) {bits : ℕ}
    (hbits : bits ≤ 32) :
    (∀ event ∈ [.derived (LbsAffair.remainingLength
        (session.readUpTo (receiveBuffer body.bytes) 4).affair
          body.length bits)], ParserEvent.Inside body.length event) ↔
      4 ≤ body.length ∧ body.length - 4 < 2 ^ bits := by
  rw [List.forall_mem_singleton]
  exact remainingLength_exact_iff hbits

/-- An exact difference is what is left of the response. -/
theorem remaining_received
    (session : LbsSession Context) (body : LbsBody) {bits : ℕ}
    (hbits : bits ≤ 32) (hle : 4 ≤ body.length)
    (hfits : body.length - 4 < 2 ^ bits) :
    4 + LbsAffair.remaining
        (session.readUpTo (receiveBuffer body.bytes) 4).affair
          body.length bits = body.length := by
  have hexact : (LbsAffair.remainingLength
      (session.readUpTo (receiveBuffer body.bytes) 4).affair
        body.length bits).Exact :=
    (remainingLength_exact_iff hbits).mpr ⟨hle, hfits⟩
  change ((LbsAffair.remaining _ _ _ : ℕ) : ℤ) = body.length - (4 : ℕ)
    at hexact
  omega

theorem inside_authenticationII_iff
    (lib : LbsLibraries Context) (session : LbsSession Context)
    (body : LbsBody) :
    (tracedAuthenticationII lib body.length).Always
        (ParserEvent.Inside body.length) (session.received body) ↔
      FitsOneByte body := by
  rw [tracedAuthenticationII, LbsSession.received,
    always_tracedResultCode_bind_iff, always_bind_iff,
    and_iff_left fun _ _ _ => always_quietly _ _ _, tracedDecryptPeerPubkey]
  simp only [always_reject_bind_iff, always_get_bind_iff,
    always_record_bind_iff, always_tracedDecPadding_bind_iff, always_pure,
    inside_derived_iff session body (show 8 ≤ 32 by omega),
    inside_decryptionEvents_iff, implies_true, and_true]
  change 3 + 1 ≤ body.length ∧ (body.byte 3 = 0 → _) ↔ _
  unfold FitsOneByte
  apply and_congr_right
  intro hfour
  apply imp_congr_right
  intro _
  constructor
  · intro hinside
    exact (hinside (by omega)).1.2
  · intro hfits _
    refine ⟨⟨hfour, hfits⟩, fun _ => ?_⟩
    exact (remaining_received session body (show 8 ≤ 32 by omega)
      hfour hfits).le

theorem inside_refreshsessionkeyII_iff
    (lib : LbsLibraries Context) (session : LbsSession Context)
    (body : LbsBody) :
    (tracedRefreshsessionkeyII lib body.length).Always
        (ParserEvent.Inside body.length) (session.received body) ↔
      FitsOneByte body := by
  rw [tracedRefreshsessionkeyII, LbsSession.received,
    always_tracedResultCode_bind_iff]
  simp only [always_reject_bind_iff, always_get_bind_iff,
    always_record_bind_iff, always_tracedDecPadding_bind_iff,
    always_quietly, inside_derived_iff session body (show 8 ≤ 32 by omega),
    inside_decryptionEvents_iff, implies_true, and_true]
  change 3 + 1 ≤ body.length ∧ (body.byte 3 = 0 → _) ↔ _
  unfold FitsOneByte
  apply and_congr_right
  intro hfour
  apply imp_congr_right
  intro _
  constructor
  · intro hinside
    exact hinside.1.2
  · intro hfits
    refine ⟨⟨hfour, hfits⟩, fun hlength _ => ?_⟩
    have hwhole := remaining_received session body (show 8 ≤ 32 by omega)
      hfour hfits
    rw [not_not.mp hlength] at hwhole
    exact hwhole.le

theorem inside_text (block : Bytes) (remainLen : ℕ) :
    ∀ event ∈ [ParserEvent.text block], event.Inside remainLen := by
  intro event hevent
  rw [List.mem_singleton.mp hevent]
  trivial

theorem inside_cryptoDataRspDas_iff
    (lib : LbsLibraries Context) (session : LbsSession Context)
    (body : LbsBody) :
    (tracedCryptoDataRspDas lib body.length).Always
        (ParserEvent.Inside body.length) (session.received body) ↔
      4 ≤ body.length := by
  have hsmall : body.length ≤ 2048 := body.fits
  rw [tracedCryptoDataRspDas, LbsSession.received,
    always_tracedResultCode_bind_iff]
  simp only [always_get_bind_iff, always_record_bind_iff,
    always_tracedDecPadding_bind_iff, always_quietly,
    inside_derived_iff session body (show 32 ≤ 32 by omega),
    inside_decryptionEvents_iff, and_true]
  change 3 + 1 ≤ body.length ∧ (body.byte 3 = 0 → _) ↔ _
  apply and_iff_left_of_imp
  intro hfour _
  have hfits : body.length - 4 < 2 ^ 32 := by omega
  refine ⟨⟨hfour, hfits⟩, fun _ => ?_, fun plain _ => ?_⟩
  · exact (remaining_received session body le_rfl hfour hfits).le
  · exact inside_text plain.written body.length

/-! ## The parser that takes the lengths from the response -/

/-- The announced length covers each field that the bytes before it lead the
parser to. -/
def CoversFields (lib : LbsLibraries Context) (masterKey : Bytes)
    (body : LbsBody) : Prop :=
  4 ≤ body.length ∧ (body.byte 3 = 0 →
    5 ≤ body.length ∧ (body.byte 4 = 48 →
      (lib.aes.setkeyDec masterKey = 0 → 53 ≤ body.length) ∧
        ∀ devId, aesCbc128DecPadding lib.aes masterKey (body.from_ 5) 48 =
            .ok devId → devId.length = 32 →
          54 ≤ body.length ∧ (body.byte 53 = 32 →
            86 ≤ body.length)))

theorem crypts_48 (cipher : AesCipher) (key : Bytes) :
    cipher.Crypts key 48 ↔ cipher.setkeyDec key = 0 :=
  and_iff_right (by decide)

theorem crypts_32 (cipher : AesCipher) (key : Bytes) :
    cipher.Crypts key 32 ↔ cipher.setkeyDec key = 0 :=
  and_iff_right (by decide)

/-- The announced length is at last compared with that of a signature. -/
theorem inside_tracedSignCheck_iff
    (lib : LbsLibraries Context) (session : LbsSession Context)
    (body : LbsBody) :
    (tracedSignCheck lib body.length).Always
        (ParserEvent.Inside body.length)
        (session.readUpTo (receiveBuffer body.bytes) 86) ↔
      86 ≤ body.length := by
  have hsmall : body.length ≤ 2048 := body.fits
  have hexact := @remainingLength_exact_iff
    (session.readUpTo (receiveBuffer body.bytes) 86).affair body.length 16
    (by omega)
  rw [readUpTo_payloadBufOff] at hexact
  rw [tracedSignCheck, always_get_bind_iff, always_record_bind_iff,
    and_iff_left (always_quietly _ _ _), List.forall_mem_cons]
  constructor
  · intro hinside
    exact (hexact.mp hinside.1).1
  · intro hle
    have hderived := hexact.mpr ⟨hle, by omega⟩
    refine ⟨hderived, ?_⟩
    change ((LbsAffair.remaining _ _ _ : ℕ) : ℤ) = body.length - (86 : ℕ)
      at hderived
    unfold signEvents
    split_ifs with hsigned
    · rw [hsigned.2] at hderived
      split
      · intro event hevent
        rw [List.mem_singleton.mp hevent]
        change 86 + 48 ≤ body.length
        omega
      · intro event hevent
        cases hevent
    · intro event hevent
      cases hevent

theorem inside_authenticationCreateDevId_iff
    (lib : LbsLibraries Context) (session : LbsSession Context)
    (body : LbsBody) :
    (tracedAuthenticationCreateDevId lib body.length).Always
        (ParserEvent.Inside body.length) (session.received body) ↔
      CoversFields lib session.affair.masterKey body := by
  rw [tracedAuthenticationCreateDevId, LbsSession.received,
    always_tracedResultCode_bind_iff]
  simp only [always_tracedPayloadByte_bind_iff, always_reject_bind_iff,
    always_get_bind_iff, always_tracedDecPadding_bind_iff,
    always_skipPayload_bind_iff, always_setDevId_bind_iff,
    always_setSessionKey_bind_iff, inside_decryptionEvents_iff,
    inside_tracedSignCheck_iff, readUpTo_masterKey,
    readUpTo_payloadBufOff, readUpTo_unread, not_not, Nat.reduceAdd,
    crypts_48, crypts_32]
  apply and_congr_right
  intro _
  apply imp_congr_right
  intro _
  apply and_congr_right
  intro _
  apply imp_congr_right
  intro _
  apply and_congr_right
  intro _
  apply forall_congr'
  intro devId
  apply imp_congr_right
  intro hdevId
  apply imp_congr_right
  intro _
  apply and_congr_right
  intro _
  apply imp_congr_right
  intro _
  have hkey := (AesCipher.Crypts.of_ok hdevId).2
  constructor
  · intro hinside
    exact hinside.1 hkey
  · intro hle
    exact ⟨fun _ => hle, fun _ _ _ => hle⟩

/-! ## Accepted responses -/

theorem read_mem_tracedDecPadding
    {lib : LbsLibraries Context} {key : Bytes} {session : LbsSession Context}
    {affair : LbsAffair} {inputLength : ℕ} {plain : AesPlain}
    (capacity : ℕ)
    (hplain : aesCbc128DecPadding lib.aes key affair.unread inputLength =
      .ok plain) :
    .read ⟨affair.globalInPacket.payloadBufOff, inputLength⟩ ∈
      (tracedDecPadding lib key affair inputLength capacity).events
        session :=
  mem_events_bind_left _
    (read_mem_decryptionEvents capacity (AesCipher.Crypts.of_ok hplain))

theorem read_of_authenticationII
    {lib : LbsLibraries Context} {session reached : LbsSession Context}
    {body : LbsBody} {value : Unit}
    (hok : parseAuthenticationII lib body.length (session.received body) =
      .ok value reached) :
    body.byte 3 = 0 ∧
      .read ⟨4, LbsAffair.remaining
          (session.readUpTo (receiveBuffer body.bytes) 4).affair
            body.length 8⟩ ∈
        (tracedAuthenticationII lib body.length).events
          (session.received body) := by
  rw [parseAuthenticationII, bind_ok_iff] at hok
  obtain ⟨_, _, hcode, hrest⟩ := hok
  obtain ⟨hzero, rfl⟩ := takeResultCode_ok_iff.mp hcode
  simp only [aes128DecryptPeerPubkey, bind_ok_iff, reject_ok_iff,
    get_ok_iff, reported_ok_iff] at hrest
  obtain ⟨_, _, ⟨_, _, ⟨hnonzero, rfl⟩, _, _, ⟨rfl, rfl⟩, plain, _,
    ⟨hplain, -⟩, -⟩, -⟩ := hrest
  refine ⟨hzero, mem_events_bind hcode (mem_events_bind_left _ ?_)⟩
  apply mem_events_reject_bind _ hnonzero
  apply mem_events_bind rfl
  apply mem_events_record_bind
  apply mem_events_bind_left
  exact read_mem_tracedDecPadding _ hplain

theorem read_of_refreshsessionkeyII
    {lib : LbsLibraries Context} {session reached : LbsSession Context}
    {body : LbsBody} {value : Unit}
    (hok : parseRefreshsessionkeyII lib body.length (session.received body) =
      .ok value reached) :
    body.byte 3 = 0 ∧
      LbsAffair.remaining
        (session.readUpTo (receiveBuffer body.bytes) 4).affair
          body.length 8 = 32 ∧
      .read ⟨4, 32⟩ ∈ (tracedRefreshsessionkeyII lib body.length).events
        (session.received body) := by
  rw [parseRefreshsessionkeyII, bind_ok_iff] at hok
  obtain ⟨_, _, hcode, hrest⟩ := hok
  obtain ⟨hzero, rfl⟩ := takeResultCode_ok_iff.mp hcode
  simp only [bind_ok_iff, reject_ok_iff, get_ok_iff, reported_ok_iff]
    at hrest
  obtain ⟨_, _, ⟨rfl, rfl⟩, _, _, ⟨hlength, rfl⟩, plain, _,
    ⟨hplain, rfl⟩, -⟩ := hrest
  refine ⟨hzero, not_not.mp hlength, mem_events_bind hcode ?_⟩
  apply mem_events_bind rfl
  apply mem_events_record_bind
  apply mem_events_reject_bind _ hlength
  apply mem_events_bind_left
  exact read_mem_tracedDecPadding _ hplain

theorem read_of_cryptoDataRspDas
    {lib : LbsLibraries Context} {session reached : LbsSession Context}
    {body : LbsBody} {value : DasInfo}
    (hok : parseCryptoDataRspDas lib body.length (session.received body) =
      .ok value reached) :
    .read ⟨4, LbsAffair.remaining
        (session.readUpTo (receiveBuffer body.bytes) 4).affair
          body.length 32⟩ ∈
      (tracedCryptoDataRspDas lib body.length).events
        (session.received body) := by
  simp only [parseCryptoDataRspDas, decryptCryptoData, bind_ok_iff,
    get_ok_iff, reported_ok_iff] at hok
  obtain ⟨_, _, ⟨_, _, hcode, _, _, ⟨rfl, rfl⟩, plain, _, ⟨hplain, -⟩, -⟩,
    -⟩ := hok
  obtain ⟨-, rfl⟩ := takeResultCode_ok_iff.mp hcode
  apply mem_events_bind hcode
  apply mem_events_bind rfl
  apply mem_events_record_bind
  apply mem_events_bind_left
  exact read_mem_tracedDecPadding _ hplain

theorem read_mem_signEvents
    {lib : LbsLibraries Context} {session reached : LbsSession Context}
    {affair : LbsAffair} {targetSignLen : ℕ} {targetSign : Bytes}
    (hok : digitalSignSerializeAndCheckSha384 lib targetSign targetSignLen
      affair.devSubserial affair.masterKey session = .ok () reached) :
    .read ⟨affair.globalInPacket.payloadBufOff, 48⟩ ∈
      signEvents lib affair targetSignLen := by
  simp only [digitalSignSerializeAndCheckSha384, bind_ok_iff,
    reject_ok_iff, reported_ok_iff] at hok
  obtain ⟨_, _, ⟨hsource, rfl⟩, _, _, ⟨hlength, rfl⟩, sign, _,
    ⟨hsign, rfl⟩, -⟩ := hok
  rw [signEvents, if_pos ⟨Nat.le_of_not_lt hsource, not_not.mp hlength⟩,
    hsign]
  exact List.mem_cons_self

theorem read_of_authenticationCreateDevId
    {lib : LbsLibraries Context} {session reached : LbsSession Context}
    {body : LbsBody} {value : Unit}
    (hok : parseAuthenticationCreateDevId lib body.length
      (session.received body) = .ok value reached) :
    .read ⟨86, 48⟩ ∈
      (tracedAuthenticationCreateDevId lib body.length).events
        (session.received body) := by
  unfold parseAuthenticationCreateDevId at hok
  rcases bind_ok_iff.mp hok with ⟨_, _, hcode, hok⟩
  rcases takeResultCode_ok_iff.mp hcode with ⟨-, rfl⟩
  rcases bind_ok_iff.mp hok with ⟨_, _, hsize, hok⟩
  rcases takePayloadByte_ok_iff.mp hsize with ⟨-, rfl⟩
  rcases bind_ok_iff.mp hok with ⟨_, _, hreject, hok⟩
  rcases reject_ok_iff.mp hreject with ⟨hidLen, rfl⟩
  rcases bind_ok_iff.mp hok with ⟨_, _, hget, hok⟩
  rcases get_ok_iff.mp hget with ⟨rfl, rfl⟩
  rcases bind_ok_iff.mp hok with ⟨devPlain, _, hplain, hok⟩
  rcases reported_ok_iff.mp hplain with ⟨hdevPlain, rfl⟩
  rcases bind_ok_iff.mp hok with ⟨_, _, hreject, hok⟩
  rcases reject_ok_iff.mp hreject with ⟨hdevLength, rfl⟩
  rcases bind_ok_iff.mp hok with ⟨_, _, hmodify, hok⟩
  rcases modify_ok_iff.mp hmodify with rfl
  rcases bind_ok_iff.mp hok with ⟨_, skipped, hskip, hok⟩
  have hskipped := @ok_of_skipPayload _ _ _ (receiveBuffer body.bytes) 5 _
    { session.affair with devId := devPlain.text } _ rfl hskip
  subst hskipped
  rcases bind_ok_iff.mp hok with ⟨_, _, hkeySize, hok⟩
  rcases ok_of_takePayloadByte rfl hkeySize with ⟨_, rfl⟩
  rcases bind_ok_iff.mp hok with ⟨_, _, hreject, hok⟩
  rcases reject_ok_iff.mp hreject with ⟨hkeyLen, rfl⟩
  rcases bind_ok_iff.mp hok with ⟨_, _, hget, hok⟩
  rcases get_ok_iff.mp hget with ⟨rfl, rfl⟩
  rcases bind_ok_iff.mp hok with ⟨keyPlain, _, hplain, hok⟩
  rcases reported_ok_iff.mp hplain with ⟨hkeyPlain, rfl⟩
  rcases bind_ok_iff.mp hok with ⟨_, _, hreject, hok⟩
  rcases reject_ok_iff.mp hreject with ⟨hkeyLength, rfl⟩
  rcases bind_ok_iff.mp hok with ⟨_, _, hmodify, hok⟩
  rcases modify_ok_iff.mp hmodify with rfl
  rcases bind_ok_iff.mp hok with ⟨_, final, hfinal, hok⟩
  have hfinished := @ok_of_skipPayload _ _ _ (receiveBuffer body.bytes) 54 _
    { session.affair with
      devId := devPlain.text, sessionKey := keyPlain.text } _ rfl hfinal
  subst hfinished
  rcases bind_ok_iff.mp hok with ⟨_, _, hget, hsign⟩
  rcases get_ok_iff.mp hget with ⟨rfl, rfl⟩
  apply mem_events_bind hcode
  apply mem_events_bind hsize
  apply mem_events_reject_bind _ hidLen
  apply mem_events_bind rfl
  apply mem_events_bind (reported_ok_iff.mpr ⟨hdevPlain, rfl⟩)
  apply mem_events_reject_bind _ hdevLength
  apply mem_events_bind rfl
  apply mem_events_bind hskip
  apply mem_events_bind hkeySize
  apply mem_events_reject_bind _ hkeyLen
  apply mem_events_bind rfl
  apply mem_events_bind (reported_ok_iff.mpr ⟨hkeyPlain, rfl⟩)
  apply mem_events_reject_bind _ hkeyLength
  apply mem_events_bind rfl
  apply mem_events_bind hfinal
  apply mem_events_bind rfl
  apply mem_events_bind_left
  exact List.mem_cons_of_mem _ (read_mem_signEvents hsign)

/-! ## The bounds -/

theorem boundedParse_authenticationII_iff
    (lib : LbsLibraries Context) (session : LbsSession Context)
    (body : LbsBody) :
    BoundedParse (authenticationII lib body.length) (session.received body)
        body.length ↔ FitsOneByte body := by
  constructor
  · intro hbounded
    exact (inside_authenticationII_iff lib session body).mp hbounded.inside
  · intro hfits
    constructor
    · exact (inside_authenticationII_iff lib session body).mpr hfits
    · intro value reached hok
      obtain ⟨hzero, hread⟩ := read_of_authenticationII hok
      exact ⟨_, hread, remaining_received session body
        (show 8 ≤ 32 by omega) hfits.1 (hfits.2 hzero)⟩

theorem boundedParse_refreshsessionkeyII_iff
    (lib : LbsLibraries Context) (session : LbsSession Context)
    (body : LbsBody) :
    BoundedParse (refreshsessionkeyII lib body.length)
        (session.received body) body.length ↔ FitsOneByte body := by
  constructor
  · intro hbounded
    exact (inside_refreshsessionkeyII_iff lib session body).mp
      hbounded.inside
  · intro hfits
    constructor
    · exact (inside_refreshsessionkeyII_iff lib session body).mpr hfits
    · intro value reached hok
      obtain ⟨hzero, hlength, hread⟩ := read_of_refreshsessionkeyII hok
      have hwhole := remaining_received session body
        (show 8 ≤ 32 by omega) hfits.1 (hfits.2 hzero)
      rw [hlength] at hwhole
      exact ⟨_, hread, hwhole⟩

theorem boundedParse_cryptoDataRspDas_iff
    (lib : LbsLibraries Context) (session : LbsSession Context)
    (body : LbsBody) :
    BoundedParse (cryptoDataRspDas lib body.length) (session.received body)
        body.length ↔ 4 ≤ body.length := by
  have hsmall : body.length ≤ 2048 := body.fits
  constructor
  · intro hbounded
    exact (inside_cryptoDataRspDas_iff lib session body).mp hbounded.inside
  · intro hfour
    constructor
    · exact (inside_cryptoDataRspDas_iff lib session body).mpr hfour
    · intro value reached hok
      exact ⟨_, read_of_cryptoDataRspDas hok,
        remaining_received session body le_rfl hfour (by omega)⟩

theorem boundedParse_authenticationCreateDevId_iff
    (lib : LbsLibraries Context) (session : LbsSession Context)
    (body : LbsBody) :
    BoundedParse (authenticationCreateDevId lib body.length)
        (session.received body) body.length ↔
      CoversFields lib session.affair.masterKey body := by
  constructor
  · intro hbounded
    exact (inside_authenticationCreateDevId_iff lib session body).mp
      hbounded.inside
  · intro hcovers
    constructor
    · exact (inside_authenticationCreateDevId_iff lib session body).mpr
        hcovers
    · intro value reached hok
      obtain ⟨_, _, hanswer, -⟩ := sessionkeyAnswer_of_parse rfl body.fits hok
      exact ⟨_, read_of_authenticationCreateDevId hok, hanswer.length.symm⟩

/-- Each parser keeps within a response, and takes no response of another
length, exactly under its condition on the announced length. -/
theorem lbsParsers_bounded_iff
    (lib : LbsLibraries Context) (session : LbsSession Context)
    (body : LbsBody) :
    (BoundedParse (authenticationII lib body.length)
        (session.received body) body.length ↔ FitsOneByte body) ∧
    (BoundedParse (authenticationCreateDevId lib body.length)
        (session.received body) body.length ↔
      CoversFields lib session.affair.masterKey body) ∧
    (BoundedParse (refreshsessionkeyII lib body.length)
        (session.received body) body.length ↔ FitsOneByte body) ∧
    (BoundedParse (cryptoDataRspDas lib body.length)
        (session.received body) body.length ↔ 4 ≤ body.length) :=
  ⟨boundedParse_authenticationII_iff lib session body,
    boundedParse_authenticationCreateDevId_iff lib session body,
    boundedParse_refreshsessionkeyII_iff lib session body,
    boundedParse_cryptoDataRspDas_iff lib session body⟩

/-- A refresh message, padded to 32 bytes, and 256 bytes more. -/
def overlongRefresh : LbsBody where
  bytes := List.replicate 22 0 ++ List.replicate 14 14 ++
    List.replicate 256 0
  fits := by decide +kernel

/-- The eight bits of the length hide the rest of the response. -/
theorem overlongRefresh_accepted :
    overlongRefresh.length = 292 ∧
      (∃ reached,
        parseRefreshsessionkeyII servingLibraries overlongRefresh.length
            ((restingSession []).received overlongRefresh) =
          .ok () reached) ∧
      ¬ BoundedParse
        (refreshsessionkeyII servingLibraries overlongRefresh.length)
        ((restingSession []).received overlongRefresh)
        overlongRefresh.length := by
  have hlength : overlongRefresh.length = 292 := by decide +kernel
  have haccepted : (match parseRefreshsessionkeyII servingLibraries
      overlongRefresh.length ((restingSession []).received overlongRefresh)
        with
      | .ok _ _ => true
      | .error _ _ => false) = true := by decide +kernel
  refine ⟨hlength, ?_, ?_⟩
  · split at haccepted
    · next reached hok => exact ⟨reached, hok⟩
    · cases haccepted
  · intro hbounded
    have hfits := (inside_refreshsessionkeyII_iff _ _ _).mp hbounded.inside
    have hshort := hfits.2 (by decide +kernel)
    rw [hlength] at hshort
    omega

end EziotSdk

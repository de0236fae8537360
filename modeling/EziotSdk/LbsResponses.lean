import EziotSdk.LbsTransport

/-!
# What an accepted response contains

Each response has a relation between its body and the values the device takes
from it.  The waiting functions succeed only on a frame whose body is so
related to what they leave in the affair.
-/

namespace EziotSdk

open ErrorState

variable {Context : Type}

/-! ## The relations -/

/-- The receive buffer after a body, with the zeros that follow it. -/
def receiveBuffer (body : Bytes) : Bytes :=
  body ++ LbsInPacket.zero.payloadBuf.drop body.length

/-- The key that both sides derive, from the decrypted public key of the
server. -/
structure AuthenticationAnswer (lib : LbsLibraries Context)
    (shareKey : Bytes) (ctxClient : Context) (body masterKey : Bytes) :
    Prop where
  accepted : (receiveBuffer body).getD 3 0 = 0
  derived : ∃ plain secret,
    aesCbc128DecPadding lib.aes (shareKey.take 16)
        ((receiveBuffer body).drop 4) ((body.length + 2 ^ 32 - 4) % 2 ^ 8) =
      .ok plain ∧
    generateMasterKey lib ctxClient plain.text = .ok secret ∧
    masterKey = masterKeyOf lib secret

/-- A device id and a session key under the master key, signed. -/
structure SessionkeyAnswer (lib : LbsLibraries Context)
    (devSubserial masterKey body devId sessionKey : Bytes) : Prop where
  length : body.length = 134
  accepted : body.getD 3 0 = 0
  devId : ∃ plain,
    aesCbc128DecPadding lib.aes masterKey (body.drop 5) 48 = .ok plain ∧
      plain.length = 32 ∧ devId = plain.text
  sessionKey : ∃ plain,
    aesCbc128DecPadding lib.aes masterKey (body.drop 54) 32 = .ok plain ∧
      plain.length = 16 ∧ sessionKey = plain.text
  signed : lib.mdHmacSha384 masterKey (lib.sha384 devSubserial) =
    .ok (body.drop 86)

/-- Two random bytes and a session key under the master key; `plain` is the
decrypted message. -/
structure RefreshAnswer (lib : LbsLibraries Context) (masterKey : Bytes)
    (random1 : UInt8) (body : Bytes) (plain : AesPlain) (sessionKey : Bytes) :
    Prop where
  accepted : body.getD 3 0 = 0
  decrypted :
    aesCbc128DecPadding lib.aes masterKey (body.drop 4) 32 = .ok plain
  echoed : plain.written.headD 0 = random1
  sessionKey : sessionKey = (plain.written.drop 2).take 16

/-- A text under the session key. -/
structure CryptoDataAnswer (lib : LbsLibraries Context) (sessionKey : Bytes)
    (body : Bytes) (text : CString) : Prop where
  accepted : body.getD 3 0 = 0
  decrypted : ∃ plain,
    aesCbc128DecPadding lib.aes sessionKey (body.drop 4) (body.length - 4) =
        .ok plain ∧
      text = textOfBytes plain.written

/-! ## Reading the receive buffer -/

theorem aesCbc128DecPadding_congr
    (cipher : AesCipher) (key : Bytes) {input other : Bytes}
    {inputLength : ℕ}
    (htake : input.take inputLength = other.take inputLength) :
    aesCbc128DecPadding cipher key input inputLength =
      aesCbc128DecPadding cipher key other inputLength := by
  unfold aesCbc128DecPadding
  rw [htake]

/-- Within the body the buffer is the body. -/
theorem take_drop_receiveBuffer
    {body : Bytes} {off count : ℕ} (hinside : off + count ≤ body.length) :
    ((receiveBuffer body).drop off).take count =
      (body.drop off).take count := by
  rw [receiveBuffer, List.drop_append_of_le_length (by omega),
    List.take_append_of_le_length (by rw [List.length_drop]; omega)]

theorem getD_receiveBuffer
    {body : Bytes} {off : ℕ} (hinside : off < body.length) :
    (receiveBuffer body).getD off 0 = body.getD off 0 := by
  rw [receiveBuffer, List.getD_eq_getElem?_getD,
    List.getElem?_append_left hinside, ← List.getD_eq_getElem?_getD]

theorem headD_drop (data : Bytes) (off : ℕ) :
    (data.drop off).headD 0 = data.getD off 0 := by
  rw [List.headD_eq_head?_getD, List.head?_drop, List.getD_eq_getElem?_getD]

/-- The affair when its buffer has been read up to an offset. -/
def LbsAffair.readUpTo (affair : LbsAffair) (buf : Bytes) (off : ℕ) :
    LbsAffair :=
  { affair with globalInPacket := ⟨buf, off⟩ }

theorem ok_of_takePayloadByte
    {session reached : LbsSession Context} {buf : Bytes} {off : ℕ}
    {affair : LbsAffair} {byte : UInt8}
    (haffair : session.affair = affair.readUpTo buf off)
    (hok : takePayloadByte session = .ok byte reached) :
    byte = buf.getD off 0 ∧
      reached = { session with affair := affair.readUpTo buf (off + 1) } := by
  simp only [takePayloadByte, skipPayload, modifyAffair, bind_ok_iff,
    get_ok_iff, modify_ok_iff, pure_ok_iff] at hok
  obtain ⟨_, _, ⟨rfl, rfl⟩, _, _, rfl, rfl, rfl⟩ := hok
  rw [LbsAffair.unread, haffair]
  exact ⟨headD_drop buf off, rfl⟩

theorem ok_of_skipPayload
    {session reached : LbsSession Context} {buf : Bytes} {off count : ℕ}
    {affair : LbsAffair} {result : Unit}
    (haffair : session.affair = affair.readUpTo buf off)
    (hok : skipPayload count session = .ok result reached) :
    reached =
      { session with affair := affair.readUpTo buf (off + count) } := by
  simp only [skipPayload, modifyAffair, modify_ok_iff] at hok
  rw [← hok, haffair]
  rfl

theorem ok_of_takeResultCode
    {session reached : LbsSession Context} {buf : Bytes}
    {affair : LbsAffair} {result : Unit}
    (haffair : session.affair = affair.readUpTo buf 0)
    (hok : takeResultCode session = .ok result reached) :
    buf.getD 3 0 = 0 ∧
      reached = { session with affair := affair.readUpTo buf 4 } := by
  simp only [takeResultCode, bind_ok_iff, reject_ok_iff] at hok
  obtain ⟨_, skipped, hskip, code, taken, htake, hcode, rfl⟩ := hok
  have hskipped := ok_of_skipPayload haffair hskip
  have hskippedAffair : skipped.affair = affair.readUpTo buf 3 := by
    rw [hskipped]
  obtain ⟨rfl, htaken⟩ := ok_of_takePayloadByte hskippedAffair htake
  rw [not_not] at hcode
  refine ⟨hcode, ?_⟩
  rw [htaken, hskipped]

/-! ## The parsers -/

theorem aligned_of_aesCbc128DecPadding
    {cipher : AesCipher} {key input : Bytes} {inputLength : ℕ}
    {plain : AesPlain}
    (hplain : aesCbc128DecPadding cipher key input inputLength =
      .ok plain) :
    inputLength % 16 = 0 := by
  by_contra haligned
  unfold aesCbc128DecPadding at hplain
  rw [if_pos (Or.inr haligned)] at hplain
  cases hplain

theorem authenticationAnswer_of_parse
    {lib : LbsLibraries Context} {session reached : LbsSession Context}
    {affair : LbsAffair} {body : Bytes}
    (haffair : session.affair = affair.readUpTo (receiveBuffer body) 0)
    (hok : parseAuthenticationII lib body.length session =
      .ok () reached) :
    ∃ masterKey,
      AuthenticationAnswer lib affair.shareKey session.ctxClient body
        masterKey ∧
      reached = { session with
        affair := { affair with masterKey := masterKey }.readUpTo
          (receiveBuffer body) 4 } := by
  simp only [parseAuthenticationII, aes128DecryptPeerPubkey, modifyAffair,
    bind_ok_iff, get_ok_iff, modify_ok_iff, pure_ok_iff, reject_ok_iff,
    reported_ok_iff] at hok
  obtain ⟨_, coded, hcode, _, _, ⟨_, _, ⟨_, rfl⟩, _, _, ⟨rfl, rfl⟩, plain,
    _, ⟨hplain, rfl⟩, rfl, rfl⟩, _, _, ⟨rfl, rfl⟩, secret, _,
    ⟨hsecret, rfl⟩, rfl⟩ := hok
  obtain ⟨haccepted, rfl⟩ := ok_of_takeResultCode haffair hcode
  exact ⟨_, ⟨haccepted, plain, secret, hplain, hsecret, rfl⟩, rfl⟩

theorem signed_of_check
    {lib : LbsLibraries Context} {session reached : LbsSession Context}
    {targetSign signSrc masterKey : Bytes} {targetSignLen : ℕ}
    (hok : digitalSignSerializeAndCheckSha384 lib targetSign targetSignLen
      signSrc masterKey session = .ok () reached) :
    targetSignLen = 48 ∧
      lib.mdHmacSha384 masterKey (lib.sha384 signSrc) =
        .ok (targetSign.take 48) ∧
      reached = session := by
  simp only [digitalSignSerializeAndCheckSha384, bind_ok_iff,
    reject_ok_iff, reported_ok_iff] at hok
  obtain ⟨_, _, ⟨_, rfl⟩, _, _, ⟨hlength, rfl⟩, sign, _, ⟨hsign, rfl⟩,
    hcompare, rfl⟩ := hok
  rw [not_not] at hlength hcompare
  refine ⟨hlength, ?_, rfl⟩
  rw [hcompare]
  unfold digitalSign at hsign
  split at hsign
  · cases hsign
  · next hmac =>
      cases hsign
      exact hmac

theorem sessionkeyAnswer_of_parse
    {lib : LbsLibraries Context} {session reached : LbsSession Context}
    {affair : LbsAffair} {body : Bytes}
    (haffair : session.affair = affair.readUpTo (receiveBuffer body) 0)
    (hlimit : body.length ≤ ezdevSdkRecvBufMax)
    (hok : parseAuthenticationCreateDevId lib body.length session =
      .ok () reached) :
    ∃ devId sessionKey,
      SessionkeyAnswer lib affair.devSubserial affair.masterKey body devId
        sessionKey ∧
      reached = { session with
        affair := { affair with
          devId := devId, sessionKey := sessionKey }.readUpTo
            (receiveBuffer body) 86 } := by
  unfold parseAuthenticationCreateDevId at hok
  rcases bind_ok_iff.mp hok with ⟨_, coded, hcode, hok⟩
  rcases ok_of_takeResultCode haffair hcode with ⟨haccepted, rfl⟩
  rcases bind_ok_iff.mp hok with ⟨_, sized, hsize, hok⟩
  rcases ok_of_takePayloadByte rfl hsize with ⟨_, rfl⟩
  rcases bind_ok_iff.mp hok with ⟨_, _, hreject, hok⟩
  rcases reject_ok_iff.mp hreject with ⟨_, rfl⟩
  rcases bind_ok_iff.mp hok with ⟨_, _, hget, hok⟩
  rcases get_ok_iff.mp hget with ⟨rfl, rfl⟩
  rcases bind_ok_iff.mp hok with ⟨devPlain, _, hplain, hok⟩
  rcases reported_ok_iff.mp hplain with ⟨hdevPlain, rfl⟩
  rcases bind_ok_iff.mp hok with ⟨_, _, hreject, hok⟩
  rcases reject_ok_iff.mp hreject with ⟨hdevLength, rfl⟩
  rcases bind_ok_iff.mp hok with ⟨_, _, hmodify, hok⟩
  rcases modify_ok_iff.mp hmodify with rfl
  rcases bind_ok_iff.mp hok with ⟨_, skipped, hskip, hok⟩
  have hskipped := @ok_of_skipPayload _ _ _ (receiveBuffer body) 5 _
    { affair with devId := devPlain.text } _ rfl hskip
  subst hskipped
  rcases bind_ok_iff.mp hok with ⟨_, keySized, hkeySize, hok⟩
  rcases ok_of_takePayloadByte rfl hkeySize with ⟨_, rfl⟩
  rcases bind_ok_iff.mp hok with ⟨_, _, hreject, hok⟩
  rcases reject_ok_iff.mp hreject with ⟨_, rfl⟩
  rcases bind_ok_iff.mp hok with ⟨_, _, hget, hok⟩
  rcases get_ok_iff.mp hget with ⟨rfl, rfl⟩
  rcases bind_ok_iff.mp hok with ⟨keyPlain, _, hplain, hok⟩
  rcases reported_ok_iff.mp hplain with ⟨hkeyPlain, rfl⟩
  rcases bind_ok_iff.mp hok with ⟨_, _, hreject, hok⟩
  rcases reject_ok_iff.mp hreject with ⟨hkeyLength, rfl⟩
  rcases bind_ok_iff.mp hok with ⟨_, _, hmodify, hok⟩
  rcases modify_ok_iff.mp hmodify with rfl
  rcases bind_ok_iff.mp hok with ⟨_, final, hfinal, hok⟩
  have hfinished := @ok_of_skipPayload _ _ _ (receiveBuffer body) 54 _
    { affair with
      devId := devPlain.text, sessionKey := keyPlain.text } _ rfl hfinal
  subst hfinished
  rcases bind_ok_iff.mp hok with ⟨_, _, hget, hsign⟩
  rcases get_ok_iff.mp hget with ⟨rfl, rfl⟩
  obtain ⟨hremaining, hsigned, rfl⟩ := signed_of_check hsign
  rw [not_not] at hdevLength hkeyLength
  have hlength : body.length = 134 := by
    simp only [LbsAffair.remaining, LbsAffair.readUpTo,
      ezdevSdkRecvBufMax] at hremaining hlimit
    omega
  have hinside : ∀ off count : ℕ, off + count ≤ 134 →
      ((receiveBuffer body).drop off).take count =
        (body.drop off).take count := by
    intro off count hoff
    exact take_drop_receiveBuffer (by omega)
  refine ⟨devPlain.text, keyPlain.text, ?_, rfl⟩
  exact {
    length := hlength
    accepted := by
      rw [← getD_receiveBuffer (by omega)]
      exact haccepted
    devId := by
      refine ⟨devPlain, ?_, hdevLength, rfl⟩
      rw [← hdevPlain]
      exact aesCbc128DecPadding_congr _ _ (hinside _ _ (by omega)).symm
    sessionKey := by
      refine ⟨keyPlain, ?_, hkeyLength, rfl⟩
      rw [← hkeyPlain]
      exact aesCbc128DecPadding_congr _ _ (hinside _ _ (by omega)).symm
    signed := by
      refine hsigned.trans ?_
      have hlast := hinside 86 48 (by omega)
      rw [@List.take_of_length_le _ 48 (body.drop 86)
        (by rw [List.length_drop]; omega)] at hlast
      exact congrArg Except.ok hlast }

theorem refreshAnswer_of_parse
    {lib : LbsLibraries Context} {session reached : LbsSession Context}
    {affair : LbsAffair} {body : Bytes}
    (haffair : session.affair = affair.readUpTo (receiveBuffer body) 0)
    (hok : parseRefreshsessionkeyII lib body.length session =
      .ok () reached) :
    ∃ plain sessionKey,
      RefreshAnswer lib affair.masterKey affair.random1 body plain
        sessionKey ∧
      reached = { session with
        affair := { affair with
          random2 := plain.written.getD 1 0
          sessionKey := sessionKey }.readUpTo (receiveBuffer body) 36 } := by
  simp only [parseRefreshsessionkeyII, modifyAffair, bind_ok_iff,
    get_ok_iff, modify_ok_iff, reject_ok_iff, reported_ok_iff] at hok
  obtain ⟨_, coded, hcode, _, _, ⟨rfl, rfl⟩, _, _, ⟨hremaining, rfl⟩, plain,
    _, ⟨hplain, rfl⟩, _, skipped, hskip, _, _, ⟨hecho, rfl⟩, rfl⟩ := hok
  obtain ⟨haccepted, rfl⟩ := ok_of_takeResultCode haffair hcode
  have hskipped := @ok_of_skipPayload _ _ _ (receiveBuffer body) 4 _
    affair _ rfl hskip
  subst hskipped
  rw [not_not] at hremaining hecho
  have hlength : 36 ≤ body.length := by
    simp only [LbsAffair.remaining, LbsAffair.readUpTo] at hremaining
    omega
  refine ⟨plain, _, ?_, rfl⟩
  exact {
    accepted := by
      rw [← getD_receiveBuffer (by omega)]
      exact haccepted
    decrypted := by
      rw [← hplain]
      exact aesCbc128DecPadding_congr _ _
        (take_drop_receiveBuffer (by omega)).symm
    echoed := hecho
    sessionKey := rfl }

theorem cryptoDataAnswer_of_decrypt
    {lib : LbsLibraries Context} {session reached : LbsSession Context}
    {affair : LbsAffair} {body : Bytes} {text : CString}
    (haffair : session.affair = affair.readUpTo (receiveBuffer body) 0)
    (hlimit : body.length ≤ ezdevSdkRecvBufMax)
    (hok : decryptCryptoData lib body.length session = .ok text reached) :
    CryptoDataAnswer lib affair.sessionKey body text ∧
      reached = { session with
        affair := affair.readUpTo (receiveBuffer body) 4 } := by
  simp only [decryptCryptoData, bind_ok_iff, get_ok_iff, pure_ok_iff,
    reported_ok_iff] at hok
  obtain ⟨_, coded, hcode, _, _, ⟨rfl, rfl⟩, plain, _, ⟨hplain, rfl⟩, rfl,
    rfl⟩ := hok
  obtain ⟨haccepted, rfl⟩ := ok_of_takeResultCode haffair hcode
  -- the length that a shorter response would wrap to is not aligned
  have hfour : 4 ≤ body.length := by
    have haligned := aligned_of_aesCbc128DecPadding hplain
    simp only [LbsAffair.remaining, LbsAffair.readUpTo] at haligned
    omega
  have hremaining :
      (body.length + 2 ^ 32 - 4) % 2 ^ 32 = body.length - 4 := by
    simp only [ezdevSdkRecvBufMax] at hlimit
    omega
  simp only [LbsAffair.remaining, LbsAffair.readUpTo, LbsAffair.unread,
    hremaining] at hplain
  refine ⟨⟨?_, plain, ?_, rfl⟩, rfl⟩
  · by_cases hbody : 3 < body.length
    · rw [← getD_receiveBuffer hbody]
      exact haccepted
    · omega
  · rw [← hplain]
    exact aesCbc128DecPadding_congr _ _
      (take_drop_receiveBuffer (by omega)).symm

end EziotSdk

import EziotSdk.DasTransport

/-!
# Payloads of the DAS, there and back

The receivers undo what the senders build for every body that a sender
accepts, as long as the header can be printed.  The number that the header
takes for the sequence is signed, and larger ones have no printed form.
-/

namespace EziotSdk

/-- `bscJSON_Parse` reads the printed header back, whatever follows it. -/
def ParsesHeader (parse : Bytes → Option BscJson) (msgType : ℕ)
    (commandVer : CString) (msgSeq : ℕ) : Prop :=
  ∀ text rest,
    BscJson.printUnformatted (commonMembers msgType commandVer msgSeq) =
        some text →
      parse (bytesOfText text ++ rest) =
        some (.object (commonMembers msgType commandVer msgSeq))

/-! ## The header -/

theorem printUnformatted_commonMembers
    (msgType : ℕ) (commandVer : CString) (msgSeq : ℕ) :
    BscJson.printUnformatted (commonMembers msgType commandVer msgSeq) =
      (BscJson.printNumber msgSeq).bind fun seq =>
        (BscJson.printNumber msgType).map fun type =>
          "\x7b\"CmdVer\":".toList ++ BscJson.printStringPtr commandVer ++
            ",\"Seq\":".toList ++ seq ++ ",\"MsgType\":".toList ++ type ++
            ['}'] := by
  simp only [BscJson.printUnformatted, commonMembers, List.mapM_cons,
    List.mapM_nil, BscJson.printMember, BscJson.printLeaf]
  cases BscJson.printNumber msgSeq with
  | none => rfl
  | some seq =>
      cases BscJson.printNumber msgType with
      | none => rfl
      | some type =>
          simp [BscJson.printStringPtr, BscJson.printChar]

theorem serializePayloadCommon_ok
    {msgType msgSeq : ℕ} {commandVer : CString}
    (htype : msgType < 2 ^ 31) (hver : commandVer.length < versionMaxLen)
    (hseq : msgSeq < 2 ^ 31) :
    ∃ text, serializePayloadCommon msgType commandVer msgSeq = .ok text ∧
      BscJson.printUnformatted (commonMembers msgType commandVer msgSeq) =
        some text ∧ text.length < 2 ^ 10 := by
  obtain ⟨seq, hseqText⟩ := BscJson.printNumber_natCast hseq
  obtain ⟨type, htypeText⟩ := BscJson.printNumber_natCast htype
  have hprint := printUnformatted_commonMembers msgType commandVer msgSeq
  rw [hseqText, htypeText, Option.bind_some, Option.map_some] at hprint
  refine ⟨_, by rw [serializePayloadCommon, hprint], hprint, ?_⟩
  have hseqLength := BscJson.printNumber_length hseqText
  have htypeLength := BscJson.printNumber_length htypeText
  have hverLength := BscJson.printStringPtr_length commandVer
  have hfirst : "\x7b\"CmdVer\":".toList.length = 10 := by decide
  have hsecond : ",\"Seq\":".toList.length = 7 := by decide
  have hthird : ",\"MsgType\":".toList.length = 11 := by decide
  simp only [versionMaxLen] at hver
  simp only [List.length_append, List.length_cons, List.length_nil, hfirst,
    hsecond, hthird]
  omega

theorem serializePayloadCommon_error
    (msgType : ℕ) (commandVer : CString) {msgSeq : ℕ}
    (hseq : 2 ^ 31 ≤ msgSeq) :
    serializePayloadCommon msgType commandVer msgSeq =
      .error .jsonFormatError := by
  rw [serializePayloadCommon, printUnformatted_commonMembers,
    BscJson.printNumber_eq_none hseq]
  rfl

theorem deserializeCommon_ok
    {parse : Bytes → Option BscJson} {commonBuf : Bytes}
    {msgType msgSeq : ℕ} {commandVer : CString}
    (hparse : parse commonBuf =
      some (.object (commonMembers msgType commandVer msgSeq)))
    (hver : commandVer.length < versionMaxLen) (hseq : msgSeq < 2 ^ 31) :
    deserializeCommon parse commonBuf = .ok (commandVer, msgSeq) := by
  have hseqItem : (BscJson.object (commonMembers msgType commandVer
      msgSeq)).getObjectItem "Seq".toList = some (.number msgSeq) := by
    have hskip : CString.caseInsensitiveEq "Seq".toList "CmdVer".toList =
        false := by decide
    have htake : CString.caseInsensitiveEq "Seq".toList "Seq".toList =
        true := by decide
    rw [commonMembers, BscJson.getObjectItem_object_cons, hskip,
      BscJson.getObjectItem_object_cons, htake]
    rfl
  have hverItem : (BscJson.object (commonMembers msgType commandVer
      msgSeq)).getObjectItem "CmdVer".toList = some (.string commandVer) := by
    have htake : CString.caseInsensitiveEq "CmdVer".toList "CmdVer".toList =
        true := by decide
    rw [commonMembers, BscJson.getObjectItem_object_cons, htake]
    rfl
  have hint : BscJson.saturate (msgSeq : ℚ) = msgSeq := by
    have hmin : BscJson.intMin ≤ (msgSeq : ℤ) := by
      unfold BscJson.intMin
      omega
    have hmax : (msgSeq : ℤ) ≤ BscJson.intMax := by
      unfold BscJson.intMax
      omega
    have hcast := BscJson.saturate_intCast hmin hmax
    simpa using hcast
  have hunsigned : ((msgSeq : ℤ) % 2 ^ 32).toNat = msgSeq := by omega
  have hshort : ¬ (versionMaxLen ≤ CString.strlen commandVer) := by
    rw [CString.strlen_eq_length]
    omega
  have hcopy : CString.strncpy commandVer (CString.strlen commandVer) =
      commandVer := CString.strncpy_of_length_le le_rfl
  simp only [deserializeCommon, hparse, hseqItem, hverItem, isNumber,
    BscJson.valuestring, BscJson.valueint, hint, hunsigned, if_neg hshort,
    hcopy]

theorem deserializeShort_serializeShort
    {value : ℕ} (hvalue : value < 2 ^ 16) (rest : Bytes) :
    deserializeShort (serializeShort value ++ rest) = value := by
  simp only [deserializeShort, serializeShort, List.cons_append,
    List.headD_cons, List.drop_succ_cons, List.drop_zero,
    UInt8.toNat_ofNat']
  omega

/-! ## The payload -/

/-- The common part of the two round trips. -/
theorem receivePayload_payloadBufEnc
    {lib : DasLibraries} {sessionKey : Bytes} (lenBits : ℕ) {msgType msgSeq : ℕ}
    {commandVer : CString} {msgBody : Bytes}
    (hinverts : lib.aes.Inverts sessionKey)
    (hparses : ParsesHeader lib.parse msgType commandVer msgSeq)
    (hbits : 16 ≤ lenBits) (htype : msgType < 2 ^ 31)
    (hver : commandVer.length < versionMaxLen) (hseq : msgSeq < 2 ^ 31)
    (hbody : 0 < msgBody.length)
    (hmax : msgBody.length ≤ ezdevSdkSendBufMax) :
    ∃ payload,
      payloadBufEnc lib.aes sessionKey lenBits msgType commandVer msgSeq
          msgBody = .ok payload ∧
        receivePayload lib sessionKey payload =
          .delivered ⟨commandVer, msgSeq, some msgBody⟩ := by
  obtain ⟨common, hcommon, hprint, hshort⟩ :=
    serializePayloadCommon_ok htype hver hseq
  have hcommonLen : common.length % 2 ^ 16 = common.length := by omega
  have hbodyMax : msgBody.length ≤ 2048 := hmax
  have hbytes : (bytesOfText common).length = common.length := by
    simp [bytesOfText]
  let text := serializeShort common.length ++ bytesOfText common ++ msgBody
  have htext : text =
      serializeShort common.length ++ bytesOfText common ++ msgBody := rfl
  have htextLen : text.length = common.length + 2 + msgBody.length := by
    simp only [htext, serializeShort, List.length_append, hbytes,
      List.length_cons, List.length_nil]
    omega
  have hpadding : calculatePaddingLen text.length % 2 ^ lenBits =
      text.length + (16 - text.length % 16) := by
    rw [calculatePaddingLen_eq (by omega)]
    apply Nat.mod_eq_of_lt
    have hpow : 2 ^ 16 ≤ 2 ^ lenBits :=
      Nat.pow_le_pow_right (by decide) hbits
    omega
  obtain ⟨payload, hencrypt, hdecrypt⟩ := aesCbc128_roundTrip hinverts text
  refine ⟨payload, ?_, ?_⟩
  · simp only [payloadBufEnc, hcommon, hcommonLen]
    rw [← htext, ← htextLen, hpadding]
    exact hencrypt
  · have hlength : deserializeShort (paddedText text) = common.length := by
      rw [paddedText, htext, List.append_assoc, List.append_assoc]
      exact deserializeShort_serializeShort (by omega) _
    let padding := List.replicate (16 - text.length % 16)
      (UInt8.ofNat (16 - text.length % 16))
    have hdrop : (paddedText text).drop 2 =
        bytesOfText common ++ (msgBody ++ padding) := by
      have hparts : paddedText text = serializeShort common.length ++
          (bytesOfText common ++ (msgBody ++ padding)) := by
        simp [paddedText, htext, padding]
      rw [hparts]
      exact List.drop_left' rfl
    have hheader := deserializeCommon_ok
      (hparses common (msgBody ++ padding) hprint) hver hseq
    have hbuf : ((paddedText text).drop (2 + common.length)).take
        msgBody.length = msgBody := by
      rw [← List.drop_drop, hdrop, List.drop_left' hbytes, List.take_left]
    have hlonger : ¬ (text.length ≤ common.length) := by omega
    have hbufLen : (text.length + 2 ^ 32 - 2 - common.length) % 2 ^ 32 =
        msgBody.length := by omega
    have hpaddedLen := paddedText_length text
    have hnonempty : ¬ (msgBody.length = 0) := by omega
    have hinside : ¬ ((paddedText text).length <
        2 + common.length + msgBody.length) := by omega
    simp only [receivePayload, hdecrypt, hlength, if_neg hlonger, hdrop,
      hheader, hbufLen, if_neg hnonempty, if_neg hinside, hbuf]

/-! ## Messages -/

/-- The payload of a 3.0 message is received as its version, sequence number
and body under every topic that the receiver accepts. -/
def RoundTripsV3 (lib : DasLibraries) (kernel : DasKernel)
    (pubmsg : KernelPubmsgV3) : Prop :=
  ∃ message, dasSendPubmsgV3 lib kernel pubmsg = .ok message ∧
    ∀ topic stored extendId, scanTopicV3 topic = (stored, .ok extendId) →
      ∃ submsg,
        dasMessageReceiveV3 lib kernel.sessionKey topic message.payload =
            .delivered submsg ∧
          submsg.commandVer = pubmsg.commandVer ∧
          submsg.msgSeq = pubmsg.msgSeq ∧ submsg.buf = pubmsg.msgBody

def RoundTrips (lib : DasLibraries) (kernel : DasKernel)
    (pubmsg : KernelPubmsg) : Prop :=
  ∃ message, dasSendPubmsg lib kernel pubmsg = .ok message ∧
    ∀ topic ids, scanTopic topic = .ok ids →
      ∃ submsg,
        dasMessageReceive lib kernel.sessionKey topic message.payload =
            .delivered submsg ∧
          submsg.commandVer = pubmsg.commandVer ∧
          submsg.msgSeq = pubmsg.msgSeq ∧ submsg.buf = pubmsg.msgBody

theorem msgTypeOf_lt (msgResponse : ℕ) : msgTypeOf msgResponse < 2 ^ 31 := by
  unfold msgTypeOf
  split_ifs <;> decide

/-- A sender that cannot print the header has nothing to publish. -/
theorem payloadBufEnc_error
    (aes : AesCipher) (sessionKey : Bytes) (lenBits msgType : ℕ)
    (commandVer : CString) {msgSeq : ℕ} (msgBody : Bytes)
    (hseq : 2 ^ 31 ≤ msgSeq) :
    payloadBufEnc aes sessionKey lenBits msgType commandVer msgSeq msgBody =
      .error .jsonFormatError := by
  rw [payloadBufEnc, serializePayloadCommon_error msgType commandVer hseq]

theorem dasSendPubmsgV3_error
    (lib : DasLibraries) (kernel : DasKernel) {pubmsg : KernelPubmsgV3}
    (hseq : 2 ^ 31 ≤ pubmsg.msgSeq) :
    dasSendPubmsgV3 lib kernel pubmsg = .error .jsonFormatError := by
  rw [dasSendPubmsgV3, payloadBufEnc_error _ _ _ _ _ _ hseq]

theorem dasSendPubmsg_error
    (lib : DasLibraries) (kernel : DasKernel) {pubmsg : KernelPubmsg}
    (hseq : 2 ^ 31 ≤ pubmsg.msgSeq) :
    dasSendPubmsg lib kernel pubmsg = .error .jsonFormatError := by
  simp only [dasSendPubmsg, payloadBufEnc_error _ _ _ _ _ _ hseq]

theorem roundTripsV3_iff
    {lib : DasLibraries} {kernel : DasKernel}
    (hinverts : lib.aes.Inverts kernel.sessionKey)
    {pubmsg : KernelPubmsgV3} {body : Bytes}
    (hparses : ParsesHeader lib.parse (msgTypeOf pubmsg.msgResponse)
      pubmsg.commandVer pubmsg.msgSeq)
    (hver : pubmsg.commandVer.length < versionMaxLen)
    (hmsgBody : pubmsg.msgBody = some body) (hbody : 0 < body.length)
    (hmax : body.length ≤ ezdevSdkSendBufMax) :
    RoundTripsV3 lib kernel pubmsg ↔ pubmsg.msgSeq < 2 ^ 31 := by
  constructor
  · rintro ⟨message, hsend, -⟩
    by_contra hseq
    rw [dasSendPubmsgV3_error lib kernel (Nat.le_of_not_lt hseq)] at hsend
    cases hsend
  · intro hseq
    obtain ⟨payload, hsend, hreceive⟩ :=
      receivePayload_payloadBufEnc 32 hinverts hparses
        (by decide) (msgTypeOf_lt _) hver hseq hbody hmax
    refine ⟨_, by rw [dasSendPubmsgV3, hmsgBody, Option.getD_some, hsend], ?_⟩
    intro topic stored extendId htopic
    refine ⟨_, by rw [dasMessageReceiveV3, htopic, hreceive], rfl, rfl, ?_⟩
    exact hmsgBody.symm

theorem roundTrips_iff
    {lib : DasLibraries} {kernel : DasKernel}
    (hinverts : lib.aes.Inverts kernel.sessionKey)
    {pubmsg : KernelPubmsg} {body : Bytes}
    (hparses : ParsesHeader lib.parse (msgTypeOf pubmsg.msgResponse)
      pubmsg.commandVer pubmsg.msgSeq)
    (hver : pubmsg.commandVer.length < versionMaxLen)
    (hmsgBody : pubmsg.msgBody = some body) (hbody : 0 < body.length)
    (hmax : body.length ≤ ezdevSdkSendBufMax) :
    RoundTrips lib kernel pubmsg ↔ pubmsg.msgSeq < 2 ^ 31 := by
  constructor
  · rintro ⟨message, hsend, -⟩
    by_contra hseq
    rw [dasSendPubmsg_error lib kernel (Nat.le_of_not_lt hseq)] at hsend
    cases hsend
  · intro hseq
    obtain ⟨payload, hsend, hreceive⟩ :=
      receivePayload_payloadBufEnc 16 hinverts hparses
        (by decide) (msgTypeOf_lt _) hver hseq hbody hmax
    refine ⟨_, by rw [dasSendPubmsg, hmsgBody, Option.getD_some, hsend], ?_⟩
    intro topic ids htopic
    refine ⟨_, by rw [dasMessageReceive, htopic, hreceive], rfl, rfl, ?_⟩
    exact hmsgBody.symm

/-- What a sender accepts: a version that fits its member, a body within the
limit, and a header that the JSON library reads back. -/
structure Sendable (lib : DasLibraries) (msgResponse : ℕ)
    (commandVer : CString) (msgSeq : ℕ) (msgBody : Option Bytes) : Prop where
  commandVer_lt : commandVer.length < versionMaxLen
  msgBody_some : ∃ body, msgBody = some body ∧ 0 < body.length ∧
    body.length ≤ ezdevSdkSendBufMax
  parses : ParsesHeader lib.parse (msgTypeOf msgResponse) commandVer msgSeq

/-- Both protocols carry a message exactly if its sequence number is in the
positive range of an `int`. -/
theorem frames_roundTrip_iff
    {lib : DasLibraries} {kernel : DasKernel}
    (hinverts : lib.aes.Inverts kernel.sessionKey) :
    (∀ pubmsg : KernelPubmsgV3,
      Sendable lib pubmsg.msgResponse pubmsg.commandVer pubmsg.msgSeq
          pubmsg.msgBody →
        (RoundTripsV3 lib kernel pubmsg ↔ pubmsg.msgSeq < 2 ^ 31)) ∧
    ∀ pubmsg : KernelPubmsg,
      Sendable lib pubmsg.msgResponse pubmsg.commandVer pubmsg.msgSeq
          pubmsg.msgBody →
        (RoundTrips lib kernel pubmsg ↔ pubmsg.msgSeq < 2 ^ 31) := by
  constructor
  · intro pubmsg hsendable
    obtain ⟨body, hmsgBody, hbody, hmax⟩ := hsendable.msgBody_some
    exact roundTripsV3_iff hinverts hsendable.parses
      hsendable.commandVer_lt hmsgBody hbody hmax
  · intro pubmsg hsendable
    obtain ⟨body, hmsgBody, hbody, hmax⟩ := hsendable.msgBody_some
    exact roundTrips_iff hinverts hsendable.parses
      hsendable.commandVer_lt hmsgBody hbody hmax

/-! ## A message -/

/-- A cipher that copies, and a JSON library that knows one header. -/
def copyingDasLibraries (msgType : ℕ) (commandVer : CString) (msgSeq : ℕ) :
    DasLibraries where
  aes := {
    setkeyEnc := fun _ => 0
    setkeyDec := fun _ => 0
    cryptCbcEncrypt := fun _ _ input => .ok input
    cryptCbcDecrypt := fun _ _ input => .ok input
    length_cryptCbcEncrypt := @length_of_copied
    length_cryptCbcDecrypt := @length_of_copied }
  parse := fun _ => some (.object (commonMembers msgType commandVer msgSeq))

def freshDasKernel : DasKernel := ⟨"D1".toList, 0, List.replicate 16 0⟩

/-- An event report of one byte. -/
def eventReport (msgSeq : ℕ) : KernelPubmsgV3 where
  msgQos := 1
  msgResponse := 0
  msgSeq := msgSeq
  externelCtx := none
  extendId := sdkEvent
  msgBody := some [0x7b]
  commandVer := "3.0".toList
  domainId := "Power".toList
  resourceId := "0".toList
  resourceType := "global".toList
  businessType := "report".toList
  identifier := "low".toList
  subSerial := []

theorem frames_roundTrip_iff_report :
    RoundTripsV3 (copyingDasLibraries 1 "3.0".toList 7) freshDasKernel
      (eventReport 7) :=
  ((frames_roundTrip_iff
    ⟨rfl, rfl, fun input _ => ⟨input, rfl, rfl⟩⟩).1 (eventReport 7)
      ⟨by decide, ⟨[0x7b], rfl, by decide, by decide⟩,
        fun _ _ _ => rfl⟩).mpr (by decide)

/-- The first number without a printed form. -/
theorem report_unsent :
    (copyingDasLibraries 1 "3.0".toList (2 ^ 31)).aes.Inverts
        freshDasKernel.sessionKey ∧
      Sendable (copyingDasLibraries 1 "3.0".toList (2 ^ 31)) 0 "3.0".toList
        (2 ^ 31) (some [0x7b]) ∧
      ¬ RoundTripsV3 (copyingDasLibraries 1 "3.0".toList (2 ^ 31))
        freshDasKernel (eventReport (2 ^ 31)) := by
  refine ⟨⟨rfl, rfl, fun input _ => ⟨input, rfl, rfl⟩⟩,
    ⟨by decide, ⟨[0x7b], rfl, by decide, by decide⟩, fun _ _ _ => rfl⟩, ?_⟩
  rintro ⟨message, hsend, -⟩
  rw [dasSendPubmsgV3_error _ _ le_rfl] at hsend
  cases hsend

end EziotSdk

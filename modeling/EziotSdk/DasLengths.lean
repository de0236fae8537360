import EziotSdk.BufferTraces
import EziotSdk.DasFrames

/-!
# The lengths of a received DAS payload

The length of the header comes from the payload.  The receivers compare it
with the decrypted length alone, although two more bytes precede the header,
and the JSON library takes no length: it measures the header and all that
follows it with `strlen`.
-/

namespace EziotSdk

/-! ## What the receivers touch -/

/-- The bytes of the decrypted buffer that are read or copied, and the length
of the body. -/
def payloadTrace (lib : DasLibraries)
    (decrypted : Except MkernelInternalError AesPlain) : BufferTrace :=
  match decrypted with
  | .error _ => ⟨[], []⟩
  | .ok plain =>
      let commonLen := deserializeShort plain.written
      if plain.length ≤ commonLen then ⟨[⟨0, 2⟩], []⟩
      else
        match deserializeCommon lib.parse (plain.written.drop 2) with
        | .error _ => ⟨[⟨0, 2⟩, strlenAccess plain.written 2], []⟩
        | .ok _ =>
            let bufLen := (plain.length + 2 ^ 32 - 2 - commonLen) % 2 ^ 32
            ⟨[⟨0, 2⟩, strlenAccess plain.written 2] ++
                (if bufLen = 0 then [] else [⟨2 + commonLen, bufLen⟩]),
              [⟨bufLen, plain.length - 2 - commonLen⟩]⟩

def decryptedPayload (lib : DasLibraries) (sessionKey payload : Bytes) :
    Except MkernelInternalError AesPlain :=
  aesCbc128DecPadding lib.aes sessionKey payload payload.length

/-- A receiver decrypts nothing under a topic that it does not accept. -/
def behindTopic {Topic : Type}
    (topic : Except MkernelInternalError Topic) (trace : BufferTrace) :
    BufferTrace :=
  match topic with
  | .error _ => ⟨[], []⟩
  | .ok _ => trace

def dasMessageReceiveV3Trace (lib : DasLibraries) (sessionKey : Bytes)
    (msgTopic : CString) (payload : Bytes) : BufferTrace :=
  behindTopic (scanTopicV3 msgTopic).2
    (payloadTrace lib (decryptedPayload lib sessionKey payload))

def dasMessageReceiveTrace (lib : DasLibraries) (sessionKey : Bytes)
    (msgTopic : CString) (payload : Bytes) : BufferTrace :=
  behindTopic (scanTopic msgTopic)
    (payloadTrace lib (decryptedPayload lib sessionKey payload))

/-! ## What they should do -/

/-- The decrypted data is not left, and what is delivered is its part behind
the header. -/
@[mk_iff]
structure BoundedReceipt {Msg : Type} (buf : Msg → Option Bytes)
    (decrypted : Except MkernelInternalError AesPlain) (trace : BufferTrace)
    (receipt : Receipt Msg) : Prop where
  sound : ∀ plain, decrypted = .ok plain → trace.Sound plain.length
  exact : ∀ msg, receipt = .delivered msg →
    ∃ plain, decrypted = .ok plain ∧
      2 + deserializeShort plain.written ≤ plain.length ∧
      ((buf msg).getD []).length =
        plain.length - 2 - deserializeShort plain.written
  inside : receipt ≠ .outOfBounds

/-- The length is there, and a header that is looked at ends in a NUL and
leaves a body of a length that 32 bits hold. -/
def PayloadFits (lib : DasLibraries)
    (decrypted : Except MkernelInternalError AesPlain) : Prop :=
  ∀ plain, decrypted = .ok plain →
    2 ≤ plain.length ∧
      (plain.length ≤ deserializeShort plain.written ∨
        0 ∈ plain.text.drop 2 ∧
          ∀ header,
            deserializeCommon lib.parse (plain.written.drop 2) =
                .ok header →
              2 + deserializeShort plain.written ≤ plain.length ∧
                plain.length <
                  2 + deserializeShort plain.written + 2 ^ 32)

/-- The difference of the lengths wraps around exactly where there is no
body, or one too long for its type. -/
theorem bufLen_exact_iff (length commonLen : ℕ) :
    (((length + 2 ^ 32 - 2 - commonLen) % 2 ^ 32 : ℕ) : ℤ) =
        length - 2 - commonLen ↔
      2 + commonLen ≤ length ∧ length < 2 + commonLen + 2 ^ 32 := by
  omega

theorem boundedReceipt_error
    {Msg : Type} (buf : Msg → Option Bytes) (trace : BufferTrace)
    (error : MkernelInternalError) :
    BoundedReceipt buf (.error error) trace (.dropped error) := by
  constructor
  · intro plain hplain
    cases hplain
  · intro msg hmsg
    cases hmsg
  · intro hreceipt
    cases hreceipt

theorem boundedReceipt_dropped_iff
    {Msg : Type} (buf : Msg → Option Bytes) (plain : AesPlain)
    (trace : BufferTrace) (error : MkernelInternalError) :
    BoundedReceipt buf (.ok plain) trace (.dropped error) ↔
      trace.Sound plain.length := by
  simp [boundedReceipt_iff]

/-- The header is measured inside the decrypted data. -/
theorem headerReads_within_iff
    {plain : AesPlain} (hinside : plain.length ≤ plain.written.length) :
    (∀ access ∈ [⟨0, 2⟩, strlenAccess plain.written 2],
        access.Within plain.length) ↔
      2 ≤ plain.length ∧ 0 ∈ plain.text.drop 2 := by
  rw [List.forall_mem_cons, List.forall_mem_singleton]
  change 0 + 2 ≤ plain.length ∧ _ ↔ _
  rw [Nat.zero_add]
  apply and_congr_right
  intro htwo
  exact strlenAccess_within_iff htwo hinside

/-- The part of a receiver behind a header that it accepts. -/
theorem boundedReceipt_header_iff
    {plain : AesPlain} (hinside : plain.length ≤ plain.written.length)
    (commonLen : ℕ) (hcommonLen : deserializeShort plain.written = commonLen)
    (commandVer : CString) (msgSeq bufLen : ℕ)
    (hbufLen : bufLen = (plain.length + 2 ^ 32 - 2 - commonLen) % 2 ^ 32) :
    BoundedReceipt DasContent.buf (.ok plain)
        ⟨[⟨0, 2⟩, strlenAccess plain.written 2] ++
            (if bufLen = 0 then [] else [⟨2 + commonLen, bufLen⟩]),
          [⟨bufLen, plain.length - 2 - commonLen⟩]⟩
        (if bufLen = 0 then .delivered ⟨commandVer, msgSeq, none⟩
        else if plain.written.length < 2 + commonLen + bufLen then
          .outOfBounds
        else
          .delivered ⟨commandVer, msgSeq,
            some ((plain.written.drop (2 + commonLen)).take bufLen)⟩) ↔
      (2 ≤ plain.length ∧ 0 ∈ plain.text.drop 2) ∧
        2 + commonLen ≤ plain.length ∧
          plain.length < 2 + commonLen + 2 ^ 32 := by
  have hexact := bufLen_exact_iff plain.length commonLen
  rw [← hbufLen] at hexact
  rw [← headerReads_within_iff hinside, ← hexact]
  constructor
  · intro hbounded
    have hsound := hbounded.sound plain rfl
    have hlength := List.forall_mem_singleton.mp hsound.exact
    refine ⟨fun access haccess => ?_, hlength⟩
    exact hsound.within access (List.mem_append_left _ haccess)
  · rintro ⟨hreads, hlength⟩
    obtain ⟨hheader, hlong⟩ := hexact.mp hlength
    have hbody : bufLen = plain.length - 2 - commonLen := by omega
    have hcopied : ¬ plain.written.length < 2 + commonLen + bufLen := by
      omega
    rw [if_neg hcopied]
    constructor
    · intro other hother
      cases hother
      constructor
      · intro access haccess
        rcases List.mem_append.mp haccess with hread | hcopy
        · exact hreads access hread
        · split_ifs at hcopy
          · cases hcopy
          · rw [List.mem_singleton.mp hcopy]
            change 2 + commonLen + bufLen ≤ plain.length
            omega
      · exact List.forall_mem_singleton.mpr hlength
    · intro msg hmsg
      refine ⟨plain, rfl, by omega, ?_⟩
      rw [hcommonLen, ← hbody]
      split_ifs at hmsg with hnone
      · cases hmsg
        rw [hnone]
        rfl
      · cases hmsg
        rw [Option.getD_some, List.length_take, List.length_drop]
        omega
    · split_ifs
      · simp
      · simp

theorem boundedReceipt_payload_iff
    (lib : DasLibraries) (sessionKey payload : Bytes) :
    BoundedReceipt DasContent.buf (decryptedPayload lib sessionKey payload)
        (payloadTrace lib (decryptedPayload lib sessionKey payload))
        (receivePayload lib sessionKey payload) ↔
      PayloadFits lib (decryptedPayload lib sessionKey payload) := by
  cases hdecrypted : decryptedPayload lib sessionKey payload with
  | error error =>
      have hdropped : receivePayload lib sessionKey payload =
          .dropped error := by
        rw [decryptedPayload] at hdecrypted
        rw [receivePayload, hdecrypted]
      have hfits : PayloadFits lib (.error error) := by
        intro plain hplain
        cases hplain
      rw [hdropped]
      exact iff_of_true (boundedReceipt_error _ _ _) hfits
  | ok plain =>
      have hwritten := aesCbc128DecPadding_length_written hdecrypted
      have hlength := aesCbc128DecPadding_length hdecrypted
      rw [List.take_length] at hwritten
      have hinside : plain.length ≤ plain.written.length := by omega
      rw [decryptedPayload] at hdecrypted
      rw [PayloadFits]
      simp only [receivePayload, hdecrypted, payloadTrace,
        Except.ok.injEq, forall_eq']
      by_cases hshort : plain.length ≤ deserializeShort plain.written
      · simp only [if_pos hshort]
        rw [boundedReceipt_dropped_iff]
        constructor
        · intro hsound
          exact ⟨hsound.within _ List.mem_cons_self, .inl hshort⟩
        · intro hfits
          constructor
          · intro access haccess
            rw [List.mem_singleton.mp haccess]
            exact hfits.1
          · intro length hmem
            cases hmem
      · simp only [if_neg hshort]
        rw [or_iff_right hshort]
        cases hheader :
            deserializeCommon lib.parse (plain.written.drop 2) with
        | error error =>
            have hreads := headerReads_within_iff hinside
            simp only [reduceCtorEq, false_implies, implies_true, and_true]
            rw [boundedReceipt_dropped_iff, ← hreads]
            constructor
            · intro hsound
              exact hsound.within
            · intro hwithin
              constructor
              · exact hwithin
              · intro length hmem
                cases hmem
        | ok header =>
            obtain ⟨commandVer, msgSeq⟩ := header
            simp only [Except.ok.injEq, forall_eq']
            rw [← and_assoc]
            exact boundedReceipt_header_iff hinside _ rfl _ _ _ rfl

/-! ## The receivers -/

/-- A receiver that hands the content on in its own message. -/
theorem boundedReceipt_delivered
    {Msg : Type} {buf : Msg → Option Bytes} {message : DasContent → Msg}
    (hbuf : ∀ content, buf (message content) = content.buf)
    {decrypted : Except MkernelInternalError AesPlain} {trace : BufferTrace}
    {receipt : Receipt DasContent} {handed : Receipt Msg}
    (hdelivered : ∀ content, receipt = .delivered content →
      handed = .delivered (message content))
    (hdropped : ∀ error, receipt = .dropped error → handed = .dropped error)
    (houtside : receipt = .outOfBounds → handed = .outOfBounds) :
    BoundedReceipt buf decrypted trace handed ↔
      BoundedReceipt DasContent.buf decrypted trace receipt := by
  rw [boundedReceipt_iff, boundedReceipt_iff]
  cases hreceipt : receipt with
  | delivered content =>
      rw [hdelivered content hreceipt]
      simp [hbuf]
  | dropped error =>
      rw [hdropped error hreceipt]
      simp
  | outOfBounds =>
      rw [houtside hreceipt]
      simp

theorem boundedReceipt_untouched
    {Msg : Type} (buf : Msg → Option Bytes)
    (decrypted : Except MkernelInternalError AesPlain)
    (error : MkernelInternalError) :
    BoundedReceipt buf decrypted ⟨[], []⟩ (.dropped error) := by
  constructor
  · intro plain _
    constructor
    · intro access haccess
      cases haccess
    · intro length hlength
      cases hlength
  · intro msg hmsg
    cases hmsg
  · intro hreceipt
    cases hreceipt

theorem boundedReceipt_v3_iff
    (lib : DasLibraries) (sessionKey : Bytes) (msgTopic : CString)
    (payload : Bytes) :
    BoundedReceipt KernelSubmsgV3.buf
        (decryptedPayload lib sessionKey payload)
        (dasMessageReceiveV3Trace lib sessionKey msgTopic payload)
        (dasMessageReceiveV3 lib sessionKey msgTopic payload) ↔
      ∀ extendId, (scanTopicV3 msgTopic).2 = .ok extendId →
        PayloadFits lib (decryptedPayload lib sessionKey payload) := by
  rw [dasMessageReceiveV3Trace, dasMessageReceiveV3]
  cases scanTopicV3 msgTopic with
  | mk stored topic =>
      cases topic with
      | error error =>
          apply iff_of_true (boundedReceipt_untouched _ _ _)
          intro extendId hextendId
          cases hextendId
      | ok extendId =>
          simp only [Except.ok.injEq, forall_eq']
          rw [← boundedReceipt_payload_iff]
          have hbuf : ∀ content,
              (submsgV3Of stored extendId content).buf = content.buf :=
            fun _ => rfl
          apply boundedReceipt_delivered hbuf
          · intro content hcontent
            rw [hcontent]
          · intro error herror
            rw [herror]
          · intro houtside
            rw [houtside]

theorem boundedReceipt_v2_iff
    (lib : DasLibraries) (sessionKey : Bytes) (msgTopic : CString)
    (payload : Bytes) :
    BoundedReceipt KernelSubmsg.buf
        (decryptedPayload lib sessionKey payload)
        (dasMessageReceiveTrace lib sessionKey msgTopic payload)
        (dasMessageReceive lib sessionKey msgTopic payload) ↔
      ∀ ids, scanTopic msgTopic = .ok ids →
        PayloadFits lib (decryptedPayload lib sessionKey payload) := by
  rw [dasMessageReceiveTrace, dasMessageReceive]
  cases scanTopic msgTopic with
  | error error =>
      apply iff_of_true (boundedReceipt_untouched _ _ _)
      intro ids hids
      cases hids
  | ok ids =>
      obtain ⟨msgDomainId, msgCommandId⟩ := ids
      simp only [Except.ok.injEq, forall_eq']
      rw [← boundedReceipt_payload_iff]
      let message (content : DasContent) : KernelSubmsg :=
        ⟨content.msgSeq, content.buf, msgDomainId, msgCommandId,
          content.commandVer⟩
      have hbuf : ∀ content, (message content).buf = content.buf :=
        fun _ => rfl
      apply boundedReceipt_delivered hbuf
      · intro content hcontent
        rw [hcontent]
      · intro error herror
        rw [herror]
      · intro houtside
        rw [houtside]

/-- Under a topic that it accepts, each receiver keeps to the decrypted data
exactly if the payload fits. -/
theorem dasReceivers_bounded_iff
    (lib : DasLibraries) (sessionKey : Bytes) (msgTopic : CString)
    (payload : Bytes) :
    (BoundedReceipt KernelSubmsgV3.buf
        (decryptedPayload lib sessionKey payload)
        (dasMessageReceiveV3Trace lib sessionKey msgTopic payload)
        (dasMessageReceiveV3 lib sessionKey msgTopic payload) ↔
      ∀ extendId, (scanTopicV3 msgTopic).2 = .ok extendId →
        PayloadFits lib (decryptedPayload lib sessionKey payload)) ∧
    (BoundedReceipt KernelSubmsg.buf
        (decryptedPayload lib sessionKey payload)
        (dasMessageReceiveTrace lib sessionKey msgTopic payload)
        (dasMessageReceive lib sessionKey msgTopic payload) ↔
      ∀ ids, scanTopic msgTopic = .ok ids →
        PayloadFits lib (decryptedPayload lib sessionKey payload)) :=
  ⟨boundedReceipt_v3_iff lib sessionKey msgTopic payload,
    boundedReceipt_v2_iff lib sessionKey msgTopic payload⟩

/-- The header that the library of `copyingDasLibraries` knows, and a NUL,
under a length that is one less than all of it. -/
def wrappingPayload : Bytes :=
  paddedText (serializeShort 38 ++ bytesOfText
    "\x7b\"CmdVer\":\"3.0\",\"Seq\":7,\"MsgType\":1\x7d".toList ++ [0])

theorem wrappingPayload_outOfBounds :
    ∃ plain,
      decryptedPayload (copyingDasLibraries 1 "3.0".toList 7) []
          wrappingPayload = .ok plain ∧
        plain.length = 39 ∧ deserializeShort plain.written = 38 ∧
        dasMessageReceive (copyingDasLibraries 1 "3.0".toList 7) []
          "/D1/1/2".toList wrappingPayload = .outOfBounds ∧
        ¬ BoundedReceipt KernelSubmsg.buf
          (decryptedPayload (copyingDasLibraries 1 "3.0".toList 7) []
            wrappingPayload)
          (dasMessageReceiveTrace (copyingDasLibraries 1 "3.0".toList 7) []
            "/D1/1/2".toList wrappingPayload)
          (dasMessageReceive (copyingDasLibraries 1 "3.0".toList 7) []
            "/D1/1/2".toList wrappingPayload) := by
  have houtside : dasMessageReceive (copyingDasLibraries 1 "3.0".toList 7)
      [] "/D1/1/2".toList wrappingPayload = .outOfBounds := by
    decide +kernel
  refine ⟨⟨wrappingPayload, 39⟩, by decide +kernel, rfl, by decide +kernel,
    houtside, ?_⟩
  intro hbounded
  exact hbounded.inside houtside

end EziotSdk

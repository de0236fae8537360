import EziotSdk.LbsBounds

/-!
# Where the LBS parsers decrypt to

A decryption writes as many bytes as it reads, the padding included.  The
buffers of the device id and of the session key have room for the text only,
the length of a public key is bounded by one byte and not by its buffer, and
the block that the JSON parser reads as a text is exactly as long as the
decrypted data.
-/

namespace EziotSdk

open ErrorState
open ErrorState.Traced

variable {Context Value : Type}

/-! ## What a decryption writes -/

/-- The block cipher is reached and does not fail. -/
def AesCipher.Writes (cipher : AesCipher) (key input : Bytes)
    (inputLength : ℕ) : Prop :=
  cipher.Crypts key inputLength ∧
    ∃ output, cipher.cryptCbcDecrypt key aesIv (input.take inputLength) =
      .ok output

/-- What is written fits, and a text ends inside its block. -/
def ParserEvent.Fits : ParserEvent → Prop
  | .read _ => True
  | .derived _ => True
  | .written count capacity => count ≤ capacity
  | .text block => 0 ∈ block

def FitsDestinations {parser : LbsStep Context Value}
    (observed : Observation ParserEvent parser)
    (session : LbsSession Context) : Prop :=
  observed.traced.Always ParserEvent.Fits session

theorem fits_decryptionEvents_iff
    {cipher : AesCipher} {key : Bytes} {affair : LbsAffair}
    {inputLength capacity : ℕ} :
    (∀ event ∈ decryptionEvents cipher key affair inputLength capacity,
        event.Fits) ↔
      (cipher.Writes key affair.unread inputLength →
        inputLength ≤ capacity) := by
  unfold decryptionEvents AesCipher.Writes
  by_cases hcrypts : cipher.Crypts key inputLength
  · have hread : ParserEvent.Fits
        (.read ⟨affair.globalInPacket.payloadBufOff, inputLength⟩) := trivial
    rw [if_pos hcrypts, List.forall_mem_cons, and_iff_right hread,
      and_iff_right hcrypts]
    cases cipher.cryptCbcDecrypt key aesIv
        (affair.unread.take inputLength) with
    | error code => simp
    | ok output =>
        rw [List.forall_mem_singleton, imp_iff_right ⟨output, rfl⟩]
        rfl
  · rw [if_neg hcrypts]
    simp [hcrypts]

theorem AesCipher.Writes.of_ok
    {cipher : AesCipher} {key input : Bytes} {inputLength : ℕ}
    {plain : AesPlain}
    (hplain : aesCbc128DecPadding cipher key input inputLength =
      .ok plain) :
    cipher.Writes key input inputLength := by
  have hcrypts := AesCipher.Crypts.of_ok hplain
  refine ⟨hcrypts, ?_⟩
  unfold aesCbc128DecPadding at hplain
  rw [if_neg hcrypts.1, if_neg (not_not.mpr hcrypts.2)] at hplain
  split at hplain
  · cases hplain
  · next output houtput => exact ⟨output, houtput⟩

/-! ## The parsers -/

/-- The bytes after the first four, in `bits` bits. -/
def LbsBody.left (body : LbsBody) (bits : ℕ) : ℕ :=
  (body.length + 2 ^ 32 - 4) % 2 ^ bits

/-- The announced length, in eight bits, is not beyond the buffer of the
public key, or nothing is decrypted. -/
def PubkeyFits (lib : LbsLibraries Context) (shareKey : Bytes)
    (body : LbsBody) : Prop :=
  body.byte 3 = 0 →
    lib.aes.Writes (shareKey.take 16) (body.from_ 4) (body.left 8) →
      body.left 8 ≤ ezdevSdkTotalLen

theorem fitsDestinations_authenticationII_iff
    (lib : LbsLibraries Context) (session : LbsSession Context)
    (body : LbsBody) :
    FitsDestinations (authenticationII lib body.length)
        (session.received body) ↔
      PubkeyFits lib session.affair.shareKey body := by
  change (tracedAuthenticationII lib body.length).Always _ _ ↔ _
  rw [tracedAuthenticationII, LbsSession.received,
    always_tracedResultCode_bind_iff, always_bind_iff,
    and_iff_left fun _ _ _ => always_quietly _ _ _, tracedDecryptPeerPubkey]
  simp only [always_reject_bind_iff, always_get_bind_iff,
    always_record_bind_iff, always_tracedDecPadding_bind_iff, always_pure,
    fits_decryptionEvents_iff, implies_true, and_true,
    List.forall_mem_singleton]
  change True ∧ (body.byte 3 = 0 → ¬ body.length = 0 → True ∧
    (lib.aes.Writes (session.affair.shareKey.take 16) (body.from_ 4)
      (body.left 8) → body.left 8 ≤ ezdevSdkTotalLen)) ↔ _
  rw [true_and]
  apply imp_congr_right
  intro _
  rw [true_and]
  constructor
  · intro hfits hwrites
    -- an empty body would leave 252 bytes, which is not a multiple of 16
    have hnonempty : ¬ body.length = 0 := by
      intro hempty
      apply hwrites.1.1
      right
      rw [LbsBody.left, hempty]
      decide
    exact hfits hnonempty hwrites
  · intro hfits _
    exact hfits

/-- The device id is never decrypted: its buffer has no room for it. -/
def NoDevId (lib : LbsLibraries Context) (masterKey : Bytes)
    (body : LbsBody) : Prop :=
  body.byte 3 = 0 → body.byte 4 = 48 →
    ¬ lib.aes.Writes masterKey (body.from_ 5) 48

theorem fitsDestinations_authenticationCreateDevId_iff
    (lib : LbsLibraries Context) (session : LbsSession Context)
    (body : LbsBody) :
    FitsDestinations (authenticationCreateDevId lib body.length)
        (session.received body) ↔
      NoDevId lib session.affair.masterKey body := by
  change (tracedAuthenticationCreateDevId lib body.length).Always _ _ ↔ _
  rw [tracedAuthenticationCreateDevId, LbsSession.received,
    always_tracedResultCode_bind_iff]
  simp only [always_tracedPayloadByte_bind_iff, always_reject_bind_iff,
    always_get_bind_iff, always_tracedDecPadding_bind_iff,
    fits_decryptionEvents_iff, readUpTo_masterKey, readUpTo_unread, not_not,
    Nat.reduceAdd]
  constructor
  · intro hfits hcode hlength hwrites
    have hroom := ((hfits.2 hcode).2 hlength).1 hwrites
    omega
  · intro hnone
    refine ⟨trivial, fun hcode => ⟨trivial, fun hlength => ⟨?_, ?_⟩⟩⟩
    · intro hwrites
      exact (hnone hcode hlength hwrites).elim
    · intro plain hplain
      exact (hnone hcode hlength (AesCipher.Writes.of_ok hplain)).elim

theorem fitsDestinations_refreshsessionkeyII
    (lib : LbsLibraries Context) (session : LbsSession Context)
    (body : LbsBody) :
    FitsDestinations (refreshsessionkeyII lib body.length)
      (session.received body) := by
  change (tracedRefreshsessionkeyII lib body.length).Always _ _
  rw [tracedRefreshsessionkeyII, LbsSession.received,
    always_tracedResultCode_bind_iff]
  simp only [always_reject_bind_iff, always_get_bind_iff,
    always_record_bind_iff, always_tracedDecPadding_bind_iff,
    always_quietly, fits_decryptionEvents_iff, le_refl, implies_true,
    and_true, List.forall_mem_singleton]
  exact ⟨trivial, fun _ => trivial⟩

/-- The decrypted data have a NUL. -/
def TextEnds (lib : LbsLibraries Context) (sessionKey : Bytes)
    (body : LbsBody) : Prop :=
  body.byte 3 = 0 → ∀ plain,
    aesCbc128DecPadding lib.aes sessionKey (body.from_ 4) (body.left 32) =
        .ok plain →
      0 ∈ plain.written

theorem fitsDestinations_cryptoDataRspDas_iff
    (lib : LbsLibraries Context) (session : LbsSession Context)
    (body : LbsBody) :
    FitsDestinations (cryptoDataRspDas lib body.length)
        (session.received body) ↔
      TextEnds lib session.affair.sessionKey body := by
  change (tracedCryptoDataRspDas lib body.length).Always _ _ ↔ _
  rw [tracedCryptoDataRspDas, LbsSession.received,
    always_tracedResultCode_bind_iff]
  simp only [always_get_bind_iff, always_record_bind_iff,
    always_tracedDecPadding_bind_iff, always_quietly,
    fits_decryptionEvents_iff, le_refl, implies_true, and_true, true_and,
    List.forall_mem_singleton]
  change True ∧ (body.byte 3 = 0 → True ∧ _) ↔ _
  rw [true_and]
  apply imp_congr_right
  intro _
  exact Iff.of_eq (true_and _)

/-- Of the four parsers the one for a refresh alone keeps to its buffers
whatever it receives. -/
theorem lbsDestinations_fit_iff
    (lib : LbsLibraries Context) (session : LbsSession Context)
    (body : LbsBody) :
    (FitsDestinations (authenticationII lib body.length)
        (session.received body) ↔
      PubkeyFits lib session.affair.shareKey body) ∧
    (FitsDestinations (authenticationCreateDevId lib body.length)
        (session.received body) ↔
      NoDevId lib session.affair.masterKey body) ∧
    FitsDestinations (refreshsessionkeyII lib body.length)
      (session.received body) ∧
    (FitsDestinations (cryptoDataRspDas lib body.length)
        (session.received body) ↔
      TextEnds lib session.affair.sessionKey body) :=
  ⟨fitsDestinations_authenticationII_iff lib session body,
    fitsDestinations_authenticationCreateDevId_iff lib session body,
    fitsDestinations_refreshsessionkeyII lib session body,
    fitsDestinations_cryptoDataRspDas_iff lib session body⟩

/-- A response that carries a device id and a session key, both padded. -/
def deviceIdResponse : LbsBody where
  bytes := [1, 1, 0, 0, 48] ++ List.replicate 32 7 ++
    List.replicate 16 16 ++ [32] ++ List.replicate 16 9 ++
    List.replicate 16 16 ++ List.replicate 48 0
  fits := by decide +kernel

/-- The device accepts it, having written 48 bytes to a buffer of 32. -/
theorem deviceIdResponse_overflows :
    (∃ reached,
      parseAuthenticationCreateDevId servingLibraries
          deviceIdResponse.length
          ((restingSession []).received deviceIdResponse) =
        .ok () reached) ∧
      ¬ FitsDestinations
        (authenticationCreateDevId servingLibraries deviceIdResponse.length)
        ((restingSession []).received deviceIdResponse) := by
  have haccepted : (match parseAuthenticationCreateDevId servingLibraries
      deviceIdResponse.length ((restingSession []).received deviceIdResponse)
        with
      | .ok _ _ => true
      | .error _ _ => false) = true := by decide +kernel
  constructor
  · split at haccepted
    · next reached hok => exact ⟨reached, hok⟩
    · cases haccepted
  · rw [fitsDestinations_authenticationCreateDevId_iff]
    intro hnone
    apply hnone (by decide) (by decide)
    exact ⟨(crypts_48 _ _).mpr rfl, _, rfl⟩

end EziotSdk

import EziotSdk.AseSupport

/-!
# The padding of the AES layer

What the sender pads and encrypts the receiver decrypts and cuts, and the
receiver accepts exactly the texts that end in a padding.
-/

namespace EziotSdk

/-- The text ends in as many bytes as each of them says, one block at most. -/
def EndsInPadding (decrypted : Bytes) : Prop :=
  ∃ count, 1 ≤ count ∧ count ≤ 16 ∧
    List.replicate count (UInt8.ofNat count) <:+ decrypted

theorem toNat_paddingChar {count : ℕ} (hcount : count ≤ 16) :
    (UInt8.ofNat count).toNat = count := by
  rw [UInt8.toNat_ofNat']
  omega

/-- The loop over the last bytes compares all that the last one counts. -/
theorem endsInPadding_iff
    {decrypted : Bytes} (hblock : 16 ≤ decrypted.length) :
    EndsInPadding decrypted ↔
      ¬ ((decrypted.getLastD 0).toNat > 16 ∨ decrypted.getLastD 0 = 0) ∧
        (decrypted.drop (decrypted.length - (decrypted.getLastD 0).toNat)).all
          (· == decrypted.getLastD 0) = true := by
  constructor
  · rintro ⟨count, hpositive, hle, front, rfl⟩
    obtain ⟨before, rfl⟩ : ∃ before, count = before + 1 :=
      ⟨count - 1, by omega⟩
    have hlast : (front ++ List.replicate (before + 1)
        (UInt8.ofNat (before + 1))).getLastD 0 =
          UInt8.ofNat (before + 1) := by
      rw [List.replicate_succ', ← List.append_assoc, List.getLastD_concat]
    have hcount := toNat_paddingChar hle
    have hstart : front.length + (before + 1) - (before + 1) =
        front.length := by omega
    rw [hlast, hcount, List.length_append, List.length_replicate, hstart,
      List.drop_left]
    constructor
    · rintro (hlarge | hzero)
      · omega
      · rw [hzero] at hcount
        cases hcount
    · simp
  · rintro ⟨hrange, htail⟩
    have hle : (decrypted.getLastD 0).toNat ≤ 16 := by omega
    have hpositive : 1 ≤ (decrypted.getLastD 0).toNat := by
      by_contra hsmall
      apply hrange
      right
      apply UInt8.toNat_inj.mp
      exact Nat.lt_one_iff.mp (Nat.lt_of_not_le hsmall)
    refine ⟨(decrypted.getLastD 0).toNat, hpositive, hle, ?_⟩
    have hlength : (decrypted.drop
        (decrypted.length - (decrypted.getLastD 0).toNat)).length =
          (decrypted.getLastD 0).toNat := by
      rw [List.length_drop]
      omega
    have hreplicate := List.eq_replicate_of_mem (fun byte hbyte => by
      exact eq_of_beq (List.all_eq_true.mp htail byte hbyte))
    rw [hlength] at hreplicate
    rw [UInt8.ofNat_toNat, ← hreplicate]
    exact List.drop_suffix _ decrypted

theorem aesCbc128DecPadding_isOk_iff
    {cipher : AesCipher} {key : Bytes} (hkey : cipher.setkeyDec key = 0)
    (ciphertext : Bytes) :
    (∃ plain, aesCbc128DecPadding cipher key ciphertext ciphertext.length =
        .ok plain) ↔
      (0 < ciphertext.length ∧ 16 ∣ ciphertext.length) ∧
        ∃ decrypted, cipher.cryptCbcDecrypt key aesIv ciphertext =
          .ok decrypted ∧ EndsInPadding decrypted := by
  unfold aesCbc128DecPadding
  rw [List.take_length]
  by_cases hlength : ciphertext.length = 0 ∨ ciphertext.length % 16 ≠ 0
  · rw [if_pos hlength]
    have hnot : ¬ (0 < ciphertext.length ∧ 16 ∣ ciphertext.length) := by
      rintro ⟨hpositive, hdvd⟩
      have hmod := Nat.mod_eq_zero_of_dvd hdvd
      omega
    simp [hnot]
  · have hblocks : 0 < ciphertext.length ∧ 16 ∣ ciphertext.length :=
      ⟨by omega, Nat.dvd_of_mod_eq_zero (by omega)⟩
    rw [if_neg hlength, if_neg (not_not.mpr hkey)]
    cases hcrypt : cipher.cryptCbcDecrypt key aesIv ciphertext with
    | error code => simp
    | ok decrypted =>
        have hsame := cipher.length_cryptCbcDecrypt hcrypt
        have hblock : 16 ≤ decrypted.length := by
          have hle := Nat.le_of_dvd hblocks.1 hblocks.2
          omega
        have hends := endsInPadding_iff hblock
        rw [hsame] at hends
        simp only [hblocks, and_self, true_and, Except.ok.injEq,
          exists_eq_left', hends]
        constructor
        · rintro ⟨plain, hplain⟩
          split at hplain
          · cases hplain
          · next hrange =>
              split at hplain
              · cases hplain
              · next htail => exact ⟨hrange, not_not.mp htail⟩
        · rintro ⟨hrange, htail⟩
          rw [if_neg hrange, if_neg (not_not.mpr htail)]
          exact ⟨_, rfl⟩

/-- A padded and encrypted text comes back with its length, and exactly the
ciphertexts of a padded text are accepted. -/
theorem aesCbc128Padding_exact
    {cipher : AesCipher} {key : Bytes} (hinverts : cipher.Inverts key) :
    (∀ text : Bytes, text.length < 2 ^ 31 - 16 →
      ∃ ciphertext plain,
        aesCbc128EncPadding cipher key text text.length
            (calculatePaddingLen text.length) = .ok ciphertext ∧
          ciphertext.length = calculatePaddingLen text.length ∧
          aesCbc128DecPadding cipher key ciphertext ciphertext.length =
            .ok plain ∧
          plain.text = text ∧ plain.length = text.length) ∧
      ∀ ciphertext : Bytes,
        (∃ plain, aesCbc128DecPadding cipher key ciphertext
            ciphertext.length = .ok plain) ↔
          (0 < ciphertext.length ∧ 16 ∣ ciphertext.length) ∧
            ∃ decrypted, cipher.cryptCbcDecrypt key aesIv ciphertext =
              .ok decrypted ∧ EndsInPadding decrypted := by
  constructor
  · intro text hshort
    have hpadding : calculatePaddingLen text.length =
        text.length + (16 - text.length % 16) :=
      calculatePaddingLen_eq (by omega)
    obtain ⟨ciphertext, hencrypt, hdecrypt⟩ :=
      aesCbc128_roundTrip hinverts text
    have hcipherLength : ciphertext.length =
        (paddedText text).length := by
      have hwritten := aesCbc128DecPadding_length_written hdecrypt
      rw [List.take_length] at hwritten
      exact hwritten.symm
    refine ⟨ciphertext, _, ?_, ?_, hdecrypt, ?_, rfl⟩
    · rw [hpadding]
      exact hencrypt
    · rw [hcipherLength, paddedText_length, hpadding]
    · rw [AesPlain.text, paddedText, List.take_left]
  · exact aesCbc128DecPadding_isOk_iff hinverts.setkeyDec

/-- A cipher that flips the same bits of every byte. -/
def maskingCipher : AesCipher where
  setkeyEnc _ := 0
  setkeyDec _ := 0
  cryptCbcEncrypt _ _ input := .ok (input.map (· ^^^ 0x5a))
  cryptCbcDecrypt _ _ input := .ok (input.map (· ^^^ 0x5a))
  length_cryptCbcEncrypt := by
    intro key iv input output houtput
    cases houtput
    simp
  length_cryptCbcDecrypt := by
    intro key iv input output houtput
    cases houtput
    simp

theorem maskingCipher_inverts (key : Bytes) :
    maskingCipher.Inverts key where
  setkeyEnc := rfl
  setkeyDec := rfl
  crypt := by
    intro input _
    refine ⟨input.map (· ^^^ 0x5a), rfl, ?_⟩
    have hmask : ∀ byte : UInt8, byte ^^^ 0x5a ^^^ 0x5a = byte := by
      intro byte
      rw [UInt8.xor_assoc, UInt8.xor_self, UInt8.xor_zero]
    simp [maskingCipher, Function.comp_def, hmask]

theorem aesCbc128Padding_exact_masking :
    (∃ ciphertext plain,
      aesCbc128EncPadding maskingCipher [] [1, 2, 3] 3
          (calculatePaddingLen 3) = .ok ciphertext ∧
        ciphertext.length = calculatePaddingLen 3 ∧
        aesCbc128DecPadding maskingCipher [] ciphertext ciphertext.length =
          .ok plain ∧
        plain.text = [1, 2, 3] ∧ plain.length = 3) :=
  (aesCbc128Padding_exact (maskingCipher_inverts [])).1 [1, 2, 3]
    (by decide)

end EziotSdk

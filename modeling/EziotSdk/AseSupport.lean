import EziotSdk.KernelDefs

/-!
# AES with padding

`ase_support.c` over the block cipher of the vendored library.  A buffer is
padded to the next multiple of 16 by bytes that hold the number of padding
bytes; decryption writes the padding out with the text and only subtracts it
from the reported length.
-/

namespace EziotSdk

/-- The contents of a buffer of `unsigned char`. -/
abbrev Bytes := List UInt8

/-- `bscomptls_aes_setkey_enc`, `bscomptls_aes_setkey_dec` and the two modes
of `bscomptls_aes_crypt_cbc`, which takes the key, the initial vector and the
input. -/
structure AesCipher where
  setkeyEnc : Bytes → ℤ
  setkeyDec : Bytes → ℤ
  cryptCbcEncrypt : Bytes → Bytes → Bytes → Except ℤ Bytes
  cryptCbcDecrypt : Bytes → Bytes → Bytes → Except ℤ Bytes
  length_cryptCbcEncrypt :
    ∀ {key iv input output : Bytes},
      cryptCbcEncrypt key iv input = .ok output →
        output.length = input.length
  length_cryptCbcDecrypt :
    ∀ {key iv input output : Bytes},
      cryptCbcDecrypt key iv input = .ok output →
        output.length = input.length

/-- A cipher that copies keeps the length. -/
theorem length_of_copied :
    ∀ {key iv input output : Bytes},
      (fun _ _ copied => .ok copied : Bytes → Bytes → Bytes → Except ℤ Bytes)
          key iv input = .ok output →
        output.length = input.length := by
  intro key iv input output hcopied
  cases hcopied
  rfl

def aesIv : Bytes :=
  (List.range 8).map (fun index => UInt8.ofNat (index + 0x30)) ++
    List.replicate 8 0

def calculatePaddingLen (len : ℕ) : ℕ :=
  (0x10 - len % 0x10 + len) % 2 ^ 32

/-- What a decryption leaves in the output buffer, and the length it
reports. -/
structure AesPlain where
  written : Bytes
  length : ℕ
  deriving DecidableEq, Repr

namespace AesPlain

def paddingChar (plain : AesPlain) : UInt8 := plain.written.getLastD 0

/-- The part of the buffer that the reported length covers. -/
def text (plain : AesPlain) : Bytes := plain.written.take plain.length

end AesPlain

def aesCbc128DecPadding
    (cipher : AesCipher) (key input : Bytes) (inputLength : ℕ) :
    Except MkernelInternalError AesPlain :=
  if inputLength = 0 ∨ inputLength % 16 ≠ 0 then .error .aesInputLen
  else if cipher.setkeyDec key ≠ 0 then .error .aesSetdeckeyError
  else
    match cipher.cryptCbcDecrypt key aesIv (input.take inputLength) with
    | .error _ => .error .aesCryptError
    | .ok output =>
        let paddingChar := output.getLastD 0
        if paddingChar.toNat > 16 ∨ paddingChar = 0 then
          .error .aesPaddingUnmatched
        else if ¬ (output.drop (inputLength - paddingChar.toNat)).all
            (· == paddingChar) then
          .error .aesPaddingUnmatched
        else .ok ⟨output, inputLength - paddingChar.toNat⟩

def aesCbc128EncPadding
    (cipher : AesCipher) (key input : Bytes)
    (inputLength inputLengthPadding : ℕ) :
    Except MkernelInternalError Bytes :=
  let paddingChar := UInt8.ofNat (inputLengthPadding - inputLength)
  let padded :=
    input.take inputLength ++
      List.replicate (inputLengthPadding - inputLength) paddingChar
  if cipher.setkeyEnc key ≠ 0 then .error .aesSetdeckeyError
  else
    match cipher.cryptCbcEncrypt key aesIv padded with
    | .error _ => .error .aesCryptError
    | .ok output => .ok output

/-- Neither direction fails with the code of success. -/
theorem aesCbc128DecPadding_ne_succ
    {cipher : AesCipher} {key input : Bytes} {inputLength : ℕ}
    {error : MkernelInternalError}
    (herror : aesCbc128DecPadding cipher key input inputLength =
      .error error) :
    error ≠ .succ := by
  unfold aesCbc128DecPadding at herror
  split_ifs at herror
  · cases herror
    decide
  · cases herror
    decide
  · cases hcrypt :
        cipher.cryptCbcDecrypt key aesIv (input.take inputLength) with
    | error code =>
        rw [hcrypt] at herror
        cases herror
        decide
    | ok output =>
        simp only [hcrypt] at herror
        split_ifs at herror
        all_goals
          cases herror
          decide

theorem aesCbc128EncPadding_ne_succ
    {cipher : AesCipher} {key input : Bytes}
    {inputLength inputLengthPadding : ℕ} {error : MkernelInternalError}
    (herror : aesCbc128EncPadding cipher key input inputLength
      inputLengthPadding = .error error) :
    error ≠ .succ := by
  simp only [aesCbc128EncPadding] at herror
  split_ifs at herror
  · cases herror
    decide
  · split at herror
    · cases herror
      decide
    · cases herror

/-- The reported length and the last written byte make up the length of the
input, and the last byte counts between one and sixteen padding bytes. -/
theorem aesCbc128DecPadding_length
    {cipher : AesCipher} {key input : Bytes} {inputLength : ℕ}
    {plain : AesPlain}
    (hplain : aesCbc128DecPadding cipher key input inputLength =
      .ok plain) :
    plain.length + plain.paddingChar.toNat = inputLength ∧
      1 ≤ plain.paddingChar.toNat ∧ plain.paddingChar.toNat ≤ 16 := by
  unfold aesCbc128DecPadding at hplain
  split_ifs at hplain with hlength hkey
  cases hcrypt :
      cipher.cryptCbcDecrypt key aesIv (input.take inputLength) with
  | error code =>
      rw [hcrypt] at hplain
      cases hplain
  | ok output =>
      simp only [hcrypt] at hplain
      split_ifs at hplain with hpadding htail
      cases hplain
      have hpositive : (output.getLastD 0).toNat ≠ 0 := by
        intro hzero
        apply hpadding
        right
        exact UInt8.toNat_inj.mp hzero
      simp only [AesPlain.paddingChar]
      omega

/-- A decryption writes the output as long as its input. -/
theorem aesCbc128DecPadding_length_written
    {cipher : AesCipher} {key input : Bytes} {inputLength : ℕ}
    {plain : AesPlain}
    (hplain : aesCbc128DecPadding cipher key input inputLength =
      .ok plain) :
    plain.written.length = (input.take inputLength).length := by
  unfold aesCbc128DecPadding at hplain
  split_ifs at hplain with hlength hkey
  cases hcrypt :
      cipher.cryptCbcDecrypt key aesIv (input.take inputLength) with
  | error code =>
      rw [hcrypt] at hplain
      cases hplain
  | ok output =>
      simp only [hcrypt] at hplain
      split_ifs at hplain
      cases hplain
      exact cipher.length_cryptCbcDecrypt hcrypt

/-- The cipher takes the key, and decryption under it undoes encryption. -/
structure AesCipher.Inverts (cipher : AesCipher) (key : Bytes) : Prop where
  setkeyEnc : cipher.setkeyEnc key = 0
  setkeyDec : cipher.setkeyDec key = 0
  crypt : ∀ input : Bytes, input.length % 16 = 0 →
    ∃ output, cipher.cryptCbcEncrypt key aesIv input = .ok output ∧
      cipher.cryptCbcDecrypt key aesIv output = .ok input

/-- The text with the padding that the sender adds. -/
def paddedText (text : Bytes) : Bytes :=
  text ++ List.replicate (16 - text.length % 16)
    (UInt8.ofNat (16 - text.length % 16))

theorem calculatePaddingLen_eq {len : ℕ} (hlen : len + 16 < 2 ^ 32) :
    calculatePaddingLen len = len + (16 - len % 16) := by
  unfold calculatePaddingLen
  rw [Nat.mod_eq_of_lt (by omega)]
  omega

theorem paddedText_length (text : Bytes) :
    (paddedText text).length = text.length + (16 - text.length % 16) := by
  simp [paddedText]

/-- A decryption of what the sender encrypted gives the padded text and the
length of the text. -/
theorem aesCbc128_roundTrip
    {cipher : AesCipher} {key : Bytes} (hinverts : cipher.Inverts key)
    (text : Bytes) :
    ∃ output,
      aesCbc128EncPadding cipher key text text.length
          (text.length + (16 - text.length % 16)) = .ok output ∧
        aesCbc128DecPadding cipher key output output.length =
          .ok ⟨paddedText text, text.length⟩ := by
  have hpadded := paddedText_length text
  obtain ⟨output, hencrypt, hdecrypt⟩ :=
    hinverts.crypt (paddedText text) (by omega)
  have houtput := cipher.length_cryptCbcEncrypt hencrypt
  have hcount : (UInt8.ofNat (16 - text.length % 16)).toNat =
      16 - text.length % 16 := by
    rw [UInt8.toNat_ofNat']
    omega
  have hlast : (paddedText text).getLastD 0 =
      UInt8.ofNat (16 - text.length % 16) := by
    obtain ⟨count, hpad⟩ : ∃ count, 16 - text.length % 16 = count + 1 :=
      ⟨15 - text.length % 16, by omega⟩
    rw [paddedText, hpad, List.replicate_succ', ← List.append_assoc,
      List.getLastD_concat]
  refine ⟨output, ?_, ?_⟩
  · have hpad : text.length + (16 - text.length % 16) - text.length =
        16 - text.length % 16 := by omega
    simp only [aesCbc128EncPadding, hinverts.setkeyEnc, hpad,
      List.take_length]
    rw [paddedText] at hencrypt
    rw [hencrypt]
    rfl
  · have hlength : output.length - (16 - text.length % 16) =
        text.length := by omega
    have htail : ((paddedText text).drop text.length).all
        (· == UInt8.ofNat (16 - text.length % 16)) = true := by
      rw [paddedText, List.drop_left]
      simp
    have hblock : ¬ (output.length = 0 ∨ output.length % 16 ≠ 0) := by
      omega
    have hrange : ¬ (16 - text.length % 16 > 16 ∨
        UInt8.ofNat (16 - text.length % 16) = 0) := by
      intro hbad
      rcases hbad with hbad | hbad
      · omega
      · rw [hbad] at hcount
        simp at hcount
        omega
    simp only [aesCbc128DecPadding, if_neg hblock, hinverts.setkeyDec,
      List.take_length, hdecrypt, hlast, hcount, if_neg hrange, hlength,
      htail]
    rfl

end EziotSdk

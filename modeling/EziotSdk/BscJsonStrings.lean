import EziotSdk.BscJsonParse
import Mathlib.Tactic

/-!
# String literals of any text

What holds of `parse_string` for every text, well formed or not: the second
pass stays inside the memory that the first one measures, and the escape of a
character of the basic plane or of a surrogate pair becomes the UTF-8 encoding
of the character.  An invalid digit makes the second pass lose step with the
pairs of the first; the count below follows the pairs of the first.
-/

namespace BscJson

/-! ## Memory -/

/-- Whether the first pass stands inside a pair after the character. -/
def insidePair (inside : Bool) (char : Char) : Bool :=
  !inside && char == '\\'

/-- The pairs that the first pass begins. -/
def pairsFrom : Bool → CString → ℕ
  | _, [] => 0
  | inside, char :: rest =>
      (if insidePair inside char then 1 else 0) +
        pairsFrom (insidePair inside char) rest

/-- Whether the first pass ends inside a pair. -/
def endsInside : Bool → CString → Bool
  | inside, [] => inside
  | inside, char :: rest => endsInside (insidePair inside char) rest

theorem scanLiteral_pairs
    {text literal rest : CString} {escapes : ℕ}
    (hscan : scanLiteral text = some (literal, escapes, rest)) :
    pairsFrom false literal = escapes ∧ endsInside false literal = false := by
  fun_induction scanLiteral text generalizing literal escapes with
  | case1 => cases hscan
  | case2 => cases hscan
  | case3 escaped tail ih =>
      rw [Option.map_eq_some_iff] at hscan
      rcases hscan with ⟨⟨inner, count, more⟩, hinner, hpair⟩
      cases hpair
      rcases ih hinner with ⟨hcount, hends⟩
      have hopen : insidePair false '\\' = true := by decide
      have hclose : insidePair true escaped = false := rfl
      constructor
      · rw [pairsFrom, pairsFrom, hopen, hclose, hcount]
        simp only [if_true, Bool.false_eq_true, if_false]
        omega
      · rw [endsInside, endsInside, hopen, hclose, hends]
  | case4 tail hback =>
      cases hscan
      exact ⟨rfl, rfl⟩
  | case5 char tail hnil hback hquote ih =>
      rw [Option.map_eq_some_iff] at hscan
      rcases hscan with ⟨⟨inner, count, more⟩, hinner, hpair⟩
      cases hpair
      rcases ih hinner with ⟨hcount, hends⟩
      have hplain : insidePair false char = false := by
        simp only [insidePair, Bool.not_false, Bool.true_and,
          beq_eq_false_iff_ne]
        rintro rfl
        cases tail with
        | nil => exact hnil rfl rfl
        | cons escaped tail => exact hback escaped tail rfl rfl
      constructor
      · rw [pairsFrom, hplain, hcount]
        simp
      · rw [endsInside, hplain, hends]

theorem pairsFrom_cons_le (inside : Bool) (char : Char) (rest : CString) :
    pairsFrom inside (char :: rest) ≤
      1 + pairsFrom (insidePair inside char) rest := by
  rw [pairsFrom]
  split_ifs <;> omega

theorem pairsFrom_le_length (inside : Bool) (text : CString) :
    pairsFrom inside text ≤ text.length := by
  induction text generalizing inside with
  | nil => exact le_rfl
  | cons char rest ih =>
      have hcons := pairsFrom_cons_le inside char rest
      have hrest := ih (insidePair inside char)
      rw [List.length_cons]
      omega

theorem pairsFrom_plain {inside : Bool} {char : Char} (hback : char ≠ '\\')
    (rest : CString) :
    pairsFrom inside (char :: rest) = pairsFrom false rest ∧
      endsInside inside (char :: rest) = endsInside false rest := by
  have hplain : insidePair inside char = false := by
    simp [insidePair, hback]
  rw [pairsFrom, endsInside, hplain]
  simp

theorem hexDigit_plain {char : Char} {value : ℕ}
    (hdigit : hexDigit char = some value) : char ≠ '\\' ∧ char ≠ '"' := by
  constructor
  · rintro rfl
    cases hdigit
  · rintro rfl
    cases hdigit

theorem hexDigit_lt {char : Char} {value : ℕ}
    (hdigit : hexDigit char = some value) : value < 16 := by
  unfold hexDigit at hdigit
  split_ifs at hdigit with hdecimal hupper hlower
  · cases hdigit
    have hbound : char.toNat ≤ 57 := hdecimal.2
    have hzero : '0'.toNat = 48 := rfl
    omega
  · cases hdigit
    have hbound : char.toNat ≤ 70 := hupper.2
    have hzero : 'A'.toNat = 65 := rfl
    omega
  · cases hdigit
    have hbound : char.toNat ≤ 102 := hlower.2
    have hzero : 'a'.toNat = 97 := rfl
    omega

theorem parseHex4_lt (a b c d : Char) : parseHex4 a b c d < 0x10000 := by
  unfold parseHex4
  split
  · next ha hb hc hd =>
      have hfirst := hexDigit_lt ha
      have hsecond := hexDigit_lt hb
      have hthird := hexDigit_lt hc
      have hfourth := hexDigit_lt hd
      simp only [Nat.shiftLeft_eq]
      omega
  · decide

/-- Four hexadecimal digits have no pair among them. -/
theorem parseHex4_plain {a b c d : Char} (hcode : parseHex4 a b c d ≠ 0)
    (inside : Bool) (rest : CString) :
    pairsFrom inside (a :: b :: c :: d :: rest) = pairsFrom false rest ∧
      endsInside inside (a :: b :: c :: d :: rest) =
        endsInside false rest := by
  unfold parseHex4 at hcode
  split at hcode
  · next ha hb hc hd =>
      have hfirst := @pairsFrom_plain inside a (hexDigit_plain ha).1
        (b :: c :: d :: rest)
      have hsecond := @pairsFrom_plain false b (hexDigit_plain hb).1
        (c :: d :: rest)
      have hthird := @pairsFrom_plain false c (hexDigit_plain hc).1
        (d :: rest)
      have hfourth := @pairsFrom_plain false d (hexDigit_plain hd).1 rest
      rw [hfirst.1, hfirst.2, hsecond.1, hsecond.2, hthird.1, hthird.2]
      exact hfourth
  · exact absurd rfl hcode

theorem utf8Bytes_length {codepoint : ℕ} {bytes : CString}
    (hbytes : utf8Bytes codepoint = some bytes) :
    bytes.length ≤ 4 ∧ (codepoint < 0x10000 → bytes.length ≤ 3) ∧
      (codepoint = 0 → bytes.length = 1) := by
  unfold utf8Bytes at hbytes
  split_ifs at hbytes with hone htwo hthree hfour
  · cases hbytes
    simp
  · cases hbytes
    simp only [List.length_cons, List.length_nil]
    omega
  · cases hbytes
    simp only [List.length_cons, List.length_nil]
    omega
  · cases hbytes
    simp only [List.length_cons, List.length_nil]
    omega

/-- The mark of a literal opens or closes a pair of the first pass, and the
letter after it begins none. -/
theorem pairsFrom_mark (inside : Bool) {letter : Char} (hletter : letter = 'u')
    (rest : CString) :
    pairsFrom inside ('\\' :: letter :: rest) ≤ 1 + pairsFrom false rest ∧
      endsInside inside ('\\' :: letter :: rest) = endsInside false rest := by
  subst hletter
  have hplain := @pairsFrom_plain (insidePair inside '\\') 'u' (by decide) rest
  constructor
  · have hfirst := pairsFrom_cons_le inside '\\' ('u' :: rest)
    rw [hplain.1] at hfirst
    exact hfirst
  · rw [endsInside]
    exact hplain.2

/-- What a literal of the second pass costs, measured in pairs of the
first. -/
theorem utf16LiteralToUtf8_fits
    {text bytes more : CString}
    (hliteral : utf16LiteralToUtf8 text = some (bytes, more))
    (hends : endsInside false text = false) :
    ∃ after, endsInside after more = false ∧
      bytes.length + pairsFrom false text + more.length ≤
        text.length + pairsFrom after more + 1 := by
  unfold utf16LiteralToUtf8 at hliteral
  split at hliteral
  · next a b c d rest =>
      dsimp only at hliteral
      split_ifs at hliteral with hlow hhigh
      · have hfirst : parseHex4 a b c d ≠ 0 := by
          intro hzero
          rw [hzero] at hhigh
          cases hhigh
        split at hliteral
        · next e f g h tail =>
            split_ifs at hliteral with hsecondLow
            have hsecond : parseHex4 e f g h ≠ 0 := by
              intro hzero
              rw [hzero] at hsecondLow
              cases hsecondLow
            rw [Option.map_eq_some_iff] at hliteral
            rcases hliteral with ⟨written, hwritten, hpair⟩
            cases hpair
            have hbytes := (utf8Bytes_length hwritten).1
            have hhead := parseHex4_plain hfirst false
              ('\\' :: 'u' :: e :: f :: g :: h :: more)
            have hmark := pairsFrom_mark false rfl (e :: f :: g :: h :: more)
            have hlast := parseHex4_plain hsecond false more
            refine ⟨false, ?_, ?_⟩
            · rw [← hlast.2, ← hmark.2, ← hhead.2]
              exact hends
            · rw [hhead.1]
              simp only [List.length_cons]
              omega
        · cases hliteral
      · rw [Option.map_eq_some_iff] at hliteral
        rcases hliteral with ⟨written, hwritten, hpair⟩
        cases hpair
        have hbytes := utf8Bytes_length hwritten
        by_cases hzero : parseHex4 a b c d = 0
        · have hone := hbytes.2.2 hzero
          have hfirst := pairsFrom_cons_le false a (b :: c :: d :: more)
          have hsecond := pairsFrom_cons_le (insidePair false a) b
            (c :: d :: more)
          have hthird := pairsFrom_cons_le
            (insidePair (insidePair false a) b) c (d :: more)
          have hfourth := pairsFrom_cons_le
            (insidePair (insidePair (insidePair false a) b) c) d more
          refine ⟨_, hends, ?_⟩
          simp only [List.length_cons]
          omega
        · have hplain := parseHex4_plain hzero false more
          have hthree := hbytes.2.1 (parseHex4_lt a b c d)
          refine ⟨false, ?_, ?_⟩
          · rw [← hplain.2]
            exact hends
          · rw [hplain.1]
            simp only [List.length_cons]
            omega
  · cases hliteral

/-- The bytes of the second pass and the pairs of the first share the
literal. -/
theorem unescape_fits
    {literal : CString} {inside : Bool}
    (hends : endsInside inside literal = false) :
    (unescape literal).1.length + pairsFrom inside literal ≤
      literal.length := by
  fun_induction unescape literal generalizing inside with
  | case1 => simp [pairsFrom]
  | case2 =>
      cases inside with
      | true => decide
      | false => cases hends
  | case3 rest bytes more hliteral ih =>
      have hmark := pairsFrom_mark inside rfl rest
      rw [hmark.2] at hends
      rcases utf16LiteralToUtf8_fits hliteral hends with
        ⟨after, hafter, hfits⟩
      have hmore := ih hafter
      simp only [Prod.map_fst, List.length_append, List.length_cons]
      omega
  | case4 rest hliteral =>
      rw [List.length_nil, Nat.zero_add]
      exact pairsFrom_le_length inside _
  | case5 escaped rest hletter char hshort ih =>
      have hfirst := pairsFrom_cons_le inside '\\' (escaped :: rest)
      rw [endsInside] at hends
      cases hinside : insidePair inside '\\' with
      | true =>
          have hclose : insidePair true escaped = false := rfl
          rw [hinside] at hfirst hends
          rw [endsInside, hclose] at hends
          have hsecond : pairsFrom true (escaped :: rest) =
              pairsFrom false rest := by
            rw [pairsFrom, hclose]
            simp
          have hrest := ih hends
          simp only [Prod.map_fst, List.length_cons]
          omega
      | false =>
          rw [pairsFrom, hinside]
          rw [hinside, endsInside] at hends
          have hsecond := pairsFrom_cons_le false escaped rest
          have hrest := ih hends
          simp only [Prod.map_fst, List.length_cons, Bool.false_eq_true,
            if_false]
          omega
  | case6 escaped rest hletter hshort =>
      rw [List.length_nil, Nat.zero_add]
      exact pairsFrom_le_length inside _
  | case7 char rest hnil hback ih =>
      have hplain : char ≠ '\\' := by
        rintro rfl
        cases rest with
        | nil => exact hnil rfl rfl
        | cons escaped rest => exact hback escaped rest rfl rfl
      rcases @pairsFrom_plain inside char hplain rest with ⟨hpairs, hafter⟩
      rw [hafter] at hends
      have hrest := ih hends
      simp only [Prod.map_fst, List.length_cons, hpairs]
      omega

/-- `parse_string` writes, its NUL included, within the memory that it has
measured and allocated, whatever the text is and wherever the second pass
stops. -/
theorem parseString_within_allocation
    {text literal rest : CString} {escapes : ℕ}
    (hscan : scanLiteral text = some (literal, escapes, rest)) :
    (unescape literal).1.length + 1 ≤ allocationLength literal escapes := by
  rcases scanLiteral_pairs hscan with ⟨hpairs, hends⟩
  have hfits := unescape_fits hends
  rw [hpairs] at hfits
  unfold allocationLength
  omega

/-- A literal whose invalid digits are escapes for the first pass. -/
theorem parseString_within_allocation_lost_step :
    (unescape "\\u1\\\\\\\"".toList).1.length + 1 ≤
      allocationLength "\\u1\\\\\\\"".toList 3 :=
  @parseString_within_allocation
    "\\u1\\\\\\\"\"".toList _ [] 3 (by decide +kernel)

/-! ## Characters -/

/-- The UTF-8 encoding of a character, one character per byte. -/
def utf8 (char : Char) : CString :=
  (String.utf8EncodeChar char).map fun byte => Char.ofNat byte.toNat

theorem continuationByte_eq (codepoint : ℕ) :
    continuationByte codepoint = Char.ofNat (codepoint % 64 + 0x80) := by
  have hbyte : ∀ byte < 256,
      ((byte ||| 0x80) &&& 0xBF) = byte % 64 + 0x80 := by decide +kernel
  have hmask : ∀ value, value &&& 0xBF = (value % 2 ^ 8) &&& 0xBF := by
    intro value
    have hlt : (value &&& 0xBF) < 2 ^ 8 := Nat.and_lt_two_pow _ (by decide)
    rw [← Nat.mod_eq_of_lt hlt, Nat.and_mod_two_pow]
  have hlow : ((codepoint ||| 0x80) &&& 0xBF) =
      ((codepoint % 2 ^ 8 ||| 0x80) &&& 0xBF) := by
    rw [hmask, Nat.or_mod_two_pow]
  rw [continuationByte, hlow,
    hbyte (codepoint % 2 ^ 8) (Nat.mod_lt _ (by decide))]
  congr 2
  omega

theorem toNat_uint8_ofNat {value : ℕ} (hvalue : value < 256) :
    (UInt8.ofNat value).toNat = value := by
  rw [UInt8.toNat_ofNat']
  exact Nat.mod_eq_of_lt hvalue

theorem char_toNat_lt (char : Char) : char.toNat ≤ 0x10FFFF := by
  have hchar := char.valid
  simp only [UInt32.isValidChar, Nat.isValidChar] at hchar
  have hval : char.toNat = char.val.toNat := rfl
  omega

/-- The loop of `utf16_literal_to_utf8` encodes UTF-8. -/
theorem utf8Bytes_eq (char : Char) :
    utf8Bytes char.toNat = some (utf8 char) := by
  have hvalid := char_toNat_lt char
  have htwo : ∀ low < 32, ((low ||| 0xC0) &&& 0xFF) = low + 0xC0 := by
    decide +kernel
  have hthree : ∀ low < 16, ((low ||| 0xE0) &&& 0xFF) = low + 0xE0 := by
    decide +kernel
  have hfour : ∀ low < 8, ((low ||| 0xF0) &&& 0xFF) = low + 0xF0 := by
    decide +kernel
  have hone : ∀ low < 128, (low &&& 0x7F) = low := by decide +kernel
  have hval : char.val.toNat = char.toNat := rfl
  unfold utf8Bytes utf8 String.utf8EncodeChar
  rw [hval]
  generalize char.toNat = code at *
  dsimp only
  simp only [Nat.shiftRight_eq_div_pow, continuationByte_eq]
  by_cases hascii : code < 0x80
  · rw [if_pos hascii, if_pos (show code ≤ 0x7f by omega), hone code hascii]
    simp only [List.map_cons, List.map_nil,
      toNat_uint8_ofNat (show code < 256 by omega)]
  · rw [if_neg hascii, if_neg (show ¬ code ≤ 0x7f by omega)]
    by_cases hshort : code < 0x800
    · rw [if_pos hshort, if_pos (show code ≤ 0x7ff by omega),
        htwo (code / 2 ^ 6) (by omega)]
      simp only [List.map_cons, List.map_nil]
      rw [toNat_uint8_ofNat (by omega), toNat_uint8_ofNat (by omega),
        Nat.mod_eq_of_lt (show code / 64 < 0x20 by omega)]
    · rw [if_neg hshort, if_neg (show ¬ code ≤ 0x7ff by omega)]
      by_cases hbasic : code < 0x10000
      · rw [if_pos hbasic, if_pos (show code ≤ 0xffff by omega),
          hthree (code / 2 ^ 12) (by omega)]
        simp only [List.map_cons, List.map_nil]
        rw [toNat_uint8_ofNat (by omega), toNat_uint8_ofNat (by omega),
          toNat_uint8_ofNat (by omega),
          Nat.mod_eq_of_lt (show code / 4096 < 0x10 by omega)]
      · rw [if_neg hbasic, if_pos hvalid,
          if_neg (show ¬ code ≤ 0xffff by omega),
          hfour (code / 2 ^ 18) (by omega)]
        simp only [List.map_cons, List.map_nil]
        rw [toNat_uint8_ofNat (by omega), toNat_uint8_ofNat (by omega),
          toNat_uint8_ofNat (by omega), toNat_uint8_ofNat (by omega),
          Nat.mod_eq_of_lt (show code / 262144 < 0x08 by omega)]

/-! ## Escapes of characters -/

/-- The code unit that four hexadecimal digits spell. -/
def SpellsUnit (digits : CString) (code : ℕ) : Prop :=
  ∃ a b c d, digits = [a, b, c, d] ∧
    ∃ first second third fourth, hexDigit a = some first ∧
      hexDigit b = some second ∧ hexDigit c = some third ∧
      hexDigit d = some fourth ∧
      code = 0x1000 * first + 0x100 * second + 0x10 * third + fourth

theorem SpellsUnit.parseHex4 {digits : CString} {code : ℕ}
    (hunit : SpellsUnit digits code) :
    ∃ a b c d, digits = [a, b, c, d] ∧ BscJson.parseHex4 a b c d = code := by
  rcases hunit with ⟨a, b, c, d, hdigits, first, second, third, fourth, ha, hb,
    hc, hd, hcode⟩
  refine ⟨a, b, c, d, hdigits, ?_⟩
  simp only [BscJson.parseHex4, ha, hb, hc, hd, Nat.shiftLeft_eq]
  omega

theorem SpellsUnit.plain {digits : CString} {code : ℕ}
    (hunit : SpellsUnit digits code) :
    ∀ char ∈ digits, char ≠ '\\' ∧ char ≠ '"' := by
  rcases hunit with ⟨a, b, c, d, rfl, first, second, third, fourth, ha, hb, hc,
    hd, -⟩
  intro char hchar
  simp only [List.mem_cons, List.not_mem_nil, or_false] at hchar
  rcases hchar with rfl | rfl | rfl | rfl
  · exact hexDigit_plain ha
  · exact hexDigit_plain hb
  · exact hexDigit_plain hc
  · exact hexDigit_plain hd

/-- How a JSON text may spell a character: by its bytes, by an escape of two,
by the four digits of its code or by those of its surrogate pair. -/
inductive Spells : Char → CString → Prop where
  | bytes {char : Char} (hquote : char ≠ '"') (hback : char ≠ '\\') :
      Spells char (utf8 char)
  | short {char mark : Char} (hshort : shortEscape mark = some char) :
      Spells char ['\\', mark]
  | basic {char : Char} {digits : CString}
      (hunit : SpellsUnit digits char.toNat) :
      Spells char ('\\' :: 'u' :: digits)
  | pair {char : Char} {high low : CString} (hbeyond : 0x10000 ≤ char.toNat)
      (hhigh : SpellsUnit high (0xD800 + (char.toNat - 0x10000) / 0x400))
      (hlow : SpellsUnit low (0xDC00 + (char.toNat - 0x10000) % 0x400)) :
      Spells char ('\\' :: 'u' :: high ++ '\\' :: 'u' :: low)

theorem surrogatePair_eq {code : ℕ} (hbeyond : 0x10000 ≤ code)
    (hcode : code ≤ 0x10FFFF) :
    surrogatePair (0xD800 + (code - 0x10000) / 0x400)
      (0xDC00 + (code - 0x10000) % 0x400) = code := by
  have hlow : ∀ value, value &&& 0x3FF = value % 2 ^ 10 := by
    intro value
    exact Nat.and_two_pow_sub_one_eq_mod value 10
  rw [surrogatePair, hlow, hlow, Nat.shiftLeft_eq, Nat.mul_comm,
    ← Nat.two_pow_add_eq_or_of_lt (Nat.mod_lt _ (by decide))]
  omega

/-- A character is no surrogate. -/
theorem not_surrogate (char : Char) :
    isLowSurrogate char.toNat = false ∧
      isHighSurrogate char.toNat = false := by
  have hchar := char.valid
  simp only [UInt32.isValidChar, Nat.isValidChar] at hchar
  have hval : char.toNat = char.val.toNat := rfl
  simp only [isLowSurrogate, isHighSurrogate, Bool.and_eq_false_iff,
    decide_eq_false_iff_not]
  omega

theorem utf16LiteralToUtf8_basic {char : Char} {digits : CString}
    (hunit : SpellsUnit digits char.toNat) (rest : CString) :
    utf16LiteralToUtf8 (digits ++ rest) = some (utf8 char, rest) := by
  rcases hunit.parseHex4 with ⟨a, b, c, d, rfl, hcode⟩
  rcases not_surrogate char with ⟨hlow, hhigh⟩
  simp only [List.cons_append, List.nil_append, utf16LiteralToUtf8, hcode,
    hlow, hhigh, Bool.false_eq_true, if_false, utf8Bytes_eq, Option.map_some]

theorem utf16LiteralToUtf8_pair {char : Char} {high low : CString}
    (hbeyond : 0x10000 ≤ char.toNat)
    (hhigh : SpellsUnit high (0xD800 + (char.toNat - 0x10000) / 0x400))
    (hlow : SpellsUnit low (0xDC00 + (char.toNat - 0x10000) % 0x400))
    (rest : CString) :
    utf16LiteralToUtf8 (high ++ '\\' :: 'u' :: (low ++ rest)) =
      some (utf8 char, rest) := by
  have hcode := char_toNat_lt char
  rcases hhigh.parseHex4 with ⟨a, b, c, d, rfl, hfirst⟩
  rcases hlow.parseHex4 with ⟨e, f, g, h, rfl, hsecond⟩
  have hnotLow : isLowSurrogate (0xD800 + (char.toNat - 0x10000) / 0x400) =
      false := by
    simp only [isLowSurrogate, Bool.and_eq_false_iff, decide_eq_false_iff_not]
    omega
  have hisHigh : isHighSurrogate
      (0xD800 + (char.toNat - 0x10000) / 0x400) = true := by
    simp only [isHighSurrogate, Bool.and_eq_true, decide_eq_true_eq]
    omega
  have hisLow : isLowSurrogate
      (0xDC00 + (char.toNat - 0x10000) % 0x400) = true := by
    simp only [isLowSurrogate, Bool.and_eq_true, decide_eq_true_eq]
    omega
  simp only [List.cons_append, List.nil_append, utf16LiteralToUtf8, hfirst,
    hsecond, hnotLow, hisHigh, hisLow, Bool.false_eq_true, if_false, if_true,
    surrogatePair_eq hbeyond hcode, utf8Bytes_eq, Option.map_some]

/-! ## Strings of characters -/

theorem scanLiteral_plain {chars : CString}
    (hplain : ∀ char ∈ chars, char ≠ '\\' ∧ char ≠ '"') (tail : CString) :
    scanLiteral (chars ++ tail) =
      (scanLiteral tail).map fun scanned =>
        (chars ++ scanned.1, scanned.2.1, scanned.2.2) := by
  induction chars with
  | nil => exact Option.map_id'.symm
  | cons char chars ih =>
      have hchar := hplain char List.mem_cons_self
      rw [List.cons_append, scanLiteral_char hchar.1 hchar.2,
        ih fun other hother => hplain other (List.mem_cons_of_mem _ hother),
        Option.map_map]
      rfl

theorem unescape_plain {chars : CString}
    (hplain : ∀ char ∈ chars, char ≠ '\\' ∧ char ≠ '"') (tail : CString) :
    unescape (chars ++ tail) = (unescape tail).map (chars ++ ·) id := by
  induction chars with
  | nil => rfl
  | cons char chars ih =>
      have hchar := hplain char List.mem_cons_self
      rw [List.cons_append, unescape_char hchar.1,
        ih fun other hother => hplain other (List.mem_cons_of_mem _ hother)]
      rfl

theorem utf8_of_ascii {char : Char} (hascii : char.toNat < 0x80) :
    utf8 char = [char] := by
  have hbytes := utf8Bytes_eq char
  have hand : (char.toNat &&& 0x7F) = char.toNat := by
    have hone : ∀ low < 128, (low &&& 0x7F) = low := by decide +kernel
    exact hone char.toNat hascii
  rw [utf8Bytes, if_pos hascii, Option.some.injEq, hand,
    Char.ofNat_toNat] at hbytes
  exact hbytes.symm

theorem ofNat_plain {code : ℕ} (hmin : 0x80 ≤ code) (hmax : code < 0x100) :
    Char.ofNat code ≠ '\\' ∧ Char.ofNat code ≠ '"' := by
  have hcode : (Char.ofNat code).toNat = code := by
    rw [Char.ofNat, dif_pos (Or.inl (by omega))]
    rfl
  constructor
  · intro heq
    rw [heq] at hcode
    have hback : '\\'.toNat = 92 := rfl
    omega
  · intro heq
    rw [heq] at hcode
    have hquote : '"'.toNat = 34 := rfl
    omega

/-- The bytes of a character beyond ASCII have their top bit set. -/
theorem utf8_plain {char : Char} (hquote : char ≠ '"') (hback : char ≠ '\\') :
    ∀ byte ∈ utf8 char, byte ≠ '\\' ∧ byte ≠ '"' := by
  by_cases hascii : char.toNat < 0x80
  · rw [utf8_of_ascii hascii]
    intro byte hbyte
    rw [List.mem_singleton.mp hbyte]
    exact ⟨hback, hquote⟩
  · intro byte hbyte
    have hmark : ∀ value mark, 0x80 ≤ mark → value + mark < 0x100 →
        Char.ofNat (UInt8.ofNat (value + mark)).toNat ≠ '\\' ∧
          Char.ofNat (UInt8.ofNat (value + mark)).toNat ≠ '"' := by
      intro value mark hmark hfits
      rw [toNat_uint8_ofNat hfits]
      exact ofNat_plain (by omega) hfits
    have hval : char.val.toNat = char.toNat := rfl
    unfold utf8 String.utf8EncodeChar at hbyte
    rw [hval] at hbyte
    dsimp only at hbyte
    rw [if_neg (show ¬ char.toNat ≤ 0x7f by omega)] at hbyte
    split_ifs at hbyte
    · simp only [List.map_cons, List.map_nil, List.mem_cons,
        List.not_mem_nil, or_false] at hbyte
      rcases hbyte with rfl | rfl
      · exact hmark _ _ (by decide) (by omega)
      · exact hmark _ _ (by decide) (by omega)
    · simp only [List.map_cons, List.map_nil, List.mem_cons,
        List.not_mem_nil, or_false] at hbyte
      rcases hbyte with rfl | rfl | rfl
      · exact hmark _ _ (by decide) (by omega)
      · exact hmark _ _ (by decide) (by omega)
      · exact hmark _ _ (by decide) (by omega)
    · simp only [List.map_cons, List.map_nil, List.mem_cons,
        List.not_mem_nil, or_false] at hbyte
      rcases hbyte with rfl | rfl | rfl | rfl
      · exact hmark _ _ (by decide) (by omega)
      · exact hmark _ _ (by decide) (by omega)
      · exact hmark _ _ (by decide) (by omega)
      · exact hmark _ _ (by decide) (by omega)

theorem shortEscape_ascii {char mark : Char}
    (hshort : shortEscape mark = some char) :
    mark ≠ 'u' ∧ char.toNat < 0x80 := by
  unfold shortEscape at hshort
  split_ifs at hshort with hb hf hn hr ht hown
  · cases hshort
    exact ⟨by rw [hb]; decide, by decide⟩
  · cases hshort
    exact ⟨by rw [hf]; decide, by decide⟩
  · cases hshort
    exact ⟨by rw [hn]; decide, by decide⟩
  · cases hshort
    exact ⟨by rw [hr]; decide, by decide⟩
  · cases hshort
    exact ⟨by rw [ht]; decide, by decide⟩
  · cases hshort
    rcases hown with rfl | rfl | rfl
    · decide
    · decide
    · decide

theorem Spells.scan {char : Char} {piece : CString}
    (hspells : Spells char piece) (tail : CString) :
    ∃ escapes, scanLiteral (piece ++ tail) =
      (scanLiteral tail).map fun scanned =>
        (piece ++ scanned.1, scanned.2.1 + escapes, scanned.2.2) := by
  cases hspells with
  | bytes hquote hback =>
      exact ⟨0, scanLiteral_plain (utf8_plain hquote hback) tail⟩
  | short hshort => exact ⟨1, scanLiteral_escape _ tail⟩
  | basic hunit =>
      refine ⟨1, ?_⟩
      rw [List.cons_append, List.cons_append, scanLiteral_escape,
        scanLiteral_plain hunit.plain, Option.map_map]
      rfl
  | pair hbeyond hhigh hlow =>
      refine ⟨2, ?_⟩
      simp only [List.cons_append, List.append_assoc]
      rw [scanLiteral_escape, scanLiteral_plain hhigh.plain,
        scanLiteral_escape, scanLiteral_plain hlow.plain]
      simp only [Option.map_map]
      rfl

theorem unescape_literal {rest bytes more : CString}
    (hliteral : utf16LiteralToUtf8 rest = some (bytes, more)) :
    unescape ('\\' :: 'u' :: rest) = (unescape more).map (bytes ++ ·) id := by
  rw [unescape, if_pos rfl]
  split
  · next written left heq =>
      rw [hliteral] at heq
      cases heq
      rfl
  · next heq =>
      rw [hliteral] at heq
      cases heq

theorem Spells.unescape {char : Char} {piece : CString}
    (hspells : Spells char piece) (tail : CString) :
    BscJson.unescape (piece ++ tail) =
      (BscJson.unescape tail).map (utf8 char ++ ·) id := by
  cases hspells with
  | bytes hquote hback => exact unescape_plain (utf8_plain hquote hback) tail
  | short hshort =>
      rcases shortEscape_ascii hshort with ⟨hmark, hascii⟩
      rw [utf8_of_ascii hascii]
      exact unescape_short hmark hshort tail
  | basic hunit =>
      exact unescape_literal (utf16LiteralToUtf8_basic hunit tail)
  | pair hbeyond hhigh hlow =>
      have hliteral := utf16LiteralToUtf8_pair hbeyond hhigh hlow tail
      simp only [List.cons_append, List.append_assoc]
      exact unescape_literal hliteral

theorem scanLiteral_spelled {pieces : List (Char × CString)}
    (hspells : ∀ piece ∈ pieces, Spells piece.1 piece.2) (rest : CString) :
    ∃ escapes, scanLiteral (pieces.flatMap Prod.snd ++ '"' :: rest) =
      some (pieces.flatMap Prod.snd, escapes, rest) := by
  induction pieces with
  | nil => exact ⟨0, rfl⟩
  | cons piece pieces ih =>
      rcases ih fun other hother =>
        hspells other (List.mem_cons_of_mem _ hother) with ⟨escapes, hscan⟩
      rcases (hspells piece List.mem_cons_self).scan
        (pieces.flatMap Prod.snd ++ '"' :: rest) with ⟨more, hpiece⟩
      refine ⟨escapes + more, ?_⟩
      rw [List.flatMap_cons, List.append_assoc, hpiece, hscan]
      rfl

theorem unescape_spelled {pieces : List (Char × CString)}
    (hspells : ∀ piece ∈ pieces, Spells piece.1 piece.2) :
    unescape (pieces.flatMap Prod.snd) =
      (pieces.flatMap fun piece => utf8 piece.1, true) := by
  induction pieces with
  | nil => rw [List.flatMap_nil, unescape, List.flatMap_nil]
  | cons piece pieces ih =>
      have hrest := ih fun other hother =>
        hspells other (List.mem_cons_of_mem _ hother)
      rw [List.flatMap_cons, (hspells piece List.mem_cons_self).unescape,
        hrest]
      rfl

/-- A string literal stands for the UTF-8 encoding of the characters that it
spells, each in any of its spellings, up to the first NUL. -/
theorem parseString_spelled {pieces : List (Char × CString)}
    (hspells : ∀ piece ∈ pieces, Spells piece.1 piece.2) (rest : CString) :
    parseString ('"' :: (pieces.flatMap Prod.snd ++ '"' :: rest)) =
      some ((pieces.flatMap fun piece => utf8 piece.1).takeWhile
        (· ≠ '\x00'), rest) := by
  rcases scanLiteral_spelled hspells rest with ⟨escapes, hscan⟩
  rw [parseString, hscan]
  simp only [Option.bind_eq_bind, Option.bind_some, unescape_spelled hspells,
    if_true]

/-- A letter, and a character beyond the basic plane by its surrogates. -/
theorem parseString_spelled_pair :
    parseString "\"Z\\uD83D\\uDE00\"".toList =
      some (['Z', '\xF0', '\x9F', '\x98', '\x80'], []) :=
  @parseString_spelled
    [('Z', ['Z']), (Char.ofNat 0x1F600, "\\uD83D\\uDE00".toList)] (by
      intro piece hpiece
      simp only [List.mem_cons, List.not_mem_nil, or_false] at hpiece
      rcases hpiece with rfl | rfl
      · exact Spells.bytes (by decide) (by decide)
      · exact Spells.pair (by decide)
          ⟨'D', '8', '3', 'D', rfl, 13, 8, 3, 13, by decide⟩
          ⟨'D', 'E', '0', '0', rfl, 13, 14, 0, 0, by decide⟩) []

end BscJson

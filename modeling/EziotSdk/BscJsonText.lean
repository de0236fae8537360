import EziotSdk.BscJsonPrint
import EziotSdk.BscJsonParse
import Mathlib.Data.List.TakeWhile

/-!
# Texts of JSON documents

`bscJSON_Print` and `bscJSON_PrintUnformatted` of a whole tree, and what the
parser makes of the texts of strings and numbers.  A number comes back as the
decimal that is printed for it.
-/

namespace BscJson

mutual

/-- `print_value`; the depth is the number of containers around the value, and
the print buffer always grows. -/
def printValue (format : Bool) (depth : ℕ) : BscJson → Option CString
  | .null => some "null".toList
  | .bool true => some "true".toList
  | .bool false => some "false".toList
  | .number value => printNumber value
  | .string value => some (printStringPtr value)
  | .array items =>
      (printElements format (depth + 1) items).map fun body =>
        '[' :: body ++ [']']
  | .object members =>
      (printMembers format (depth + 1) members).map fun body =>
        '{' :: (if format then ['\n'] else []) ++ body ++
          (if format then List.replicate depth '\t' else []) ++ ['}']

/-- The loop of `print_array`. -/
def printElements (format : Bool) (depth : ℕ) :
    List BscJson → Option CString
  | [] => some []
  | item :: rest => do
      let text ← printValue format depth item
      let more ← printElements format depth rest
      pure (text ++ (if rest.isEmpty then []
        else ',' :: if format then [' '] else []) ++ more)

/-- The loop of `print_object`. -/
def printMembers (format : Bool) (depth : ℕ) :
    List (CString × BscJson) → Option CString
  | [] => some []
  | member :: rest => do
      let text ← printValue format depth member.2
      let more ← printMembers format depth rest
      pure ((if format then List.replicate depth '\t' else []) ++
        printStringPtr member.1 ++ ':' :: (if format then ['\t'] else []) ++
        text ++ (if rest.isEmpty then [] else [',']) ++
        (if format then ['\n'] else []) ++ more)

end

mutual

/-- The containers around the innermost value, its own counted. -/
def nesting : BscJson → ℕ
  | .array items => nestingElements items + 1
  | .object members => nestingMembers members + 1
  | _ => 0

def nestingElements : List BscJson → ℕ
  | [] => 0
  | item :: rest => max (nesting item) (nestingElements rest)

def nestingMembers : List (CString × BscJson) → ℕ
  | [] => 0
  | member :: rest => max (nesting member.2) (nestingMembers rest)

end

/-- The decimal number that `print_number` writes. -/
def printedNumber (value : ℚ) : ℚ :=
  if |(saturate value : ℚ) - value| ≤ dblEpsilon ∧ value ≤ intMax ∧
      intMin ≤ value then value.num.tdiv value.den
  else
    let scaled : ℚ := roundHalfEven (|value| * 10 ^ 15) / 10 ^ 15
    if value < 0 then -scaled else scaled

mutual

/-- The tree with another value for every number. -/
def mapNumbers (f : ℚ → ℚ) : BscJson → BscJson
  | .null => .null
  | .bool value => .bool value
  | .number value => .number (f value)
  | .string value => .string value
  | .array items => .array (mapNumbersElements f items)
  | .object members => .object (mapNumbersMembers f members)

def mapNumbersElements (f : ℚ → ℚ) : List BscJson → List BscJson
  | [] => []
  | item :: rest => mapNumbers f item :: mapNumbersElements f rest

def mapNumbersMembers (f : ℚ → ℚ) :
    List (CString × BscJson) → List (CString × BscJson)
  | [] => []
  | member :: rest =>
      (member.1, mapNumbers f member.2) :: mapNumbersMembers f rest

end

mutual

/-- Every string and every name is a C string, without a NUL. -/
def NulFree : BscJson → Prop
  | .string value => '\x00' ∉ value
  | .array items => NulFreeElements items
  | .object members => NulFreeMembers members
  | _ => True

def NulFreeElements : List BscJson → Prop
  | [] => True
  | item :: rest => NulFree item ∧ NulFreeElements rest

def NulFreeMembers : List (CString × BscJson) → Prop
  | [] => True
  | member :: rest =>
      ('\x00' ∉ member.1 ∧ NulFree member.2) ∧ NulFreeMembers rest

end

mutual

def AllNumbers (P : ℚ → Prop) : BscJson → Prop
  | .number value => P value
  | .array items => AllNumbersElements P items
  | .object members => AllNumbersMembers P members
  | _ => True

def AllNumbersElements (P : ℚ → Prop) : List BscJson → Prop
  | [] => True
  | item :: rest => AllNumbers P item ∧ AllNumbersElements P rest

def AllNumbersMembers (P : ℚ → Prop) : List (CString × BscJson) → Prop
  | [] => True
  | member :: rest => AllNumbers P member.2 ∧ AllNumbersMembers P rest

end

mutual

/-- A tree is kept by a map that keeps its numbers. -/
theorem mapNumbers_eq_self_iff (f : ℚ → ℚ) :
    (json : BscJson) →
      (json.mapNumbers f = json ↔ json.AllNumbers fun value => f value = value)
  | .null => by simp [mapNumbers, AllNumbers]
  | .bool value => by simp [mapNumbers, AllNumbers]
  | .number value => by simp [mapNumbers, AllNumbers]
  | .string value => by simp [mapNumbers, AllNumbers]
  | .array items => by
      simp [mapNumbers, AllNumbers, mapNumbersElements_eq_self_iff f items]
  | .object members => by
      simp [mapNumbers, AllNumbers, mapNumbersMembers_eq_self_iff f members]

theorem mapNumbersElements_eq_self_iff (f : ℚ → ℚ) :
    (items : List BscJson) → (mapNumbersElements f items = items ↔
      AllNumbersElements (fun value => f value = value) items)
  | [] => by simp [mapNumbersElements, AllNumbersElements]
  | item :: rest => by
      simp [mapNumbersElements, AllNumbersElements,
        mapNumbers_eq_self_iff f item, mapNumbersElements_eq_self_iff f rest]

theorem mapNumbersMembers_eq_self_iff (f : ℚ → ℚ) :
    (members : List (CString × BscJson)) →
      (mapNumbersMembers f members = members ↔
        AllNumbersMembers (fun value => f value = value) members)
  | [] => by simp [mapNumbersMembers, AllNumbersMembers]
  | (name, item) :: rest => by
      simp [mapNumbersMembers, AllNumbersMembers,
        mapNumbers_eq_self_iff f item, mapNumbersMembers_eq_self_iff f rest]

end

mutual

/-- The print fails when a number does not fit its buffer, and only then. -/
theorem printValue_isSome_iff (format : Bool) :
    (json : BscJson) → (depth : ℕ) →
      ((printValue format depth json).isSome = true ↔
        json.AllNumbers fun value => (printNumber value).isSome = true)
  | .null, _ => by simp [printValue, AllNumbers]
  | .bool true, _ => by simp [printValue, AllNumbers]
  | .bool false, _ => by simp [printValue, AllNumbers]
  | .number value, _ => by simp [printValue, AllNumbers]
  | .string value, _ => by simp [printValue, AllNumbers]
  | .array items, depth => by
      simp [printValue, AllNumbers,
        printElements_isSome_iff format items (depth + 1)]
  | .object members, depth => by
      simp [printValue, AllNumbers,
        printMembers_isSome_iff format members (depth + 1)]

theorem printElements_isSome_iff (format : Bool) :
    (items : List BscJson) → (depth : ℕ) →
      ((printElements format depth items).isSome = true ↔
        AllNumbersElements
          (fun value => (printNumber value).isSome = true) items)
  | [], _ => by simp [printElements, AllNumbersElements]
  | item :: rest, depth => by
      rw [AllNumbersElements, ← printValue_isSome_iff format item depth,
        ← printElements_isSome_iff format rest depth, printElements]
      cases printValue format depth item with
      | none => simp
      | some text => cases printElements format depth rest <;> simp

theorem printMembers_isSome_iff (format : Bool) :
    (members : List (CString × BscJson)) → (depth : ℕ) →
      ((printMembers format depth members).isSome = true ↔
        AllNumbersMembers
          (fun value => (printNumber value).isSome = true) members)
  | [], _ => by simp [printMembers, AllNumbersMembers]
  | member :: rest, depth => by
      rw [AllNumbersMembers, ← printValue_isSome_iff format member.2 depth,
        ← printMembers_isSome_iff format rest depth, printMembers]
      cases printValue format depth member.2 with
      | none => simp
      | some text => cases printMembers format depth rest <;> simp

end

/-! ## Strings -/

/-- What `printChar` can write for a character. -/
theorem printChar_cases (char : Char) :
    (∃ mark, printChar char = ['\\', mark] ∧ mark ≠ 'u' ∧
      shortEscape mark = some char) ∨
    (∃ high low, printChar char = ['\\', 'u', '0', '0', high, low] ∧
      char.toNat < 32 ∧ high = Nat.digitChar (char.toNat / 16) ∧
      low = Nat.digitChar (char.toNat % 16)) ∨
    (printChar char = [char] ∧ char ≠ '\\' ∧ char ≠ '"' ∧
      32 ≤ char.toNat) := by
  unfold printChar
  split_ifs with hback hquote hbell hfeed hnewline hreturn htab hcontrol
  · exact Or.inl ⟨'\\', rfl, by decide, by rw [hback]; rfl⟩
  · exact Or.inl ⟨'"', rfl, by decide, by rw [hquote]; rfl⟩
  · exact Or.inl ⟨'b', rfl, by decide, by rw [hbell]; rfl⟩
  · exact Or.inl ⟨'f', rfl, by decide, by rw [hfeed]; rfl⟩
  · exact Or.inl ⟨'n', rfl, by decide, by rw [hnewline]; rfl⟩
  · exact Or.inl ⟨'r', rfl, by decide, by rw [hreturn]; rfl⟩
  · exact Or.inl ⟨'t', rfl, by decide, by rw [htab]; rfl⟩
  · exact Or.inr (Or.inl ⟨_, _, rfl, hcontrol, rfl, rfl⟩)
  · exact Or.inr (Or.inr ⟨rfl, hback, hquote, by omega⟩)

theorem parseHex4_control :
    ∀ code < 32, parseHex4 '0' '0' (Nat.digitChar (code / 16))
      (Nat.digitChar (code % 16)) = code := by
  decide

theorem utf8Bytes_control :
    ∀ code < 32, utf8Bytes code = some [Char.ofNat code] := by
  decide

theorem unescape_control {code : ℕ} (hcode : code < 32) (rest : CString) :
    unescape ('\\' :: 'u' :: '0' :: '0' :: Nat.digitChar (code / 16) ::
        Nat.digitChar (code % 16) :: rest) =
      (unescape rest).map (Char.ofNat code :: ·) id := by
  have hhex := parseHex4_control code hcode
  have hlow : isLowSurrogate code = false := by
    simp only [isLowSurrogate, Bool.and_eq_false_iff, decide_eq_false_iff_not]
    omega
  have hhigh : isHighSurrogate code = false := by
    simp only [isHighSurrogate, Bool.and_eq_false_iff,
      decide_eq_false_iff_not]
    omega
  have hliteral :
      utf16LiteralToUtf8 ('0' :: '0' :: Nat.digitChar (code / 16) ::
        Nat.digitChar (code % 16) :: rest) =
        some ([Char.ofNat code], rest) := by
    simp only [utf16LiteralToUtf8, hhex, hlow, hhigh, Bool.false_eq_true,
      if_false, utf8Bytes_control code hcode, Option.map_some]
  rw [unescape, if_pos rfl]
  split
  · next bytes more heq =>
      rw [hliteral] at heq
      cases heq
      rfl
  · next heq =>
      rw [hliteral] at heq
      cases heq

/-- The first pass over the text of a character. -/
theorem scanLiteral_printChar (char : Char) (tail : CString) :
    ∃ escapes, scanLiteral (printChar char ++ tail) =
      (scanLiteral tail).map fun scanned =>
        (printChar char ++ scanned.1, scanned.2.1 + escapes,
          scanned.2.2) := by
  rcases printChar_cases char with
    ⟨mark, htext, -, -⟩ | ⟨high, low, htext, hcontrol, rfl, rfl⟩ |
      ⟨htext, hback, hquote, -⟩
  · exact ⟨1, by rw [htext]; exact scanLiteral_escape mark tail⟩
  · refine ⟨1, ?_⟩
    have hplain : ∀ code < 16, Nat.digitChar code ≠ '\\' ∧
        Nat.digitChar code ≠ '"' := by decide
    have hhigh := hplain (char.toNat / 16) (by omega)
    have hlow := hplain (char.toNat % 16) (by omega)
    rw [htext]
    simp only [List.cons_append, List.nil_append]
    rw [scanLiteral_escape, scanLiteral_char (by decide) (by decide),
      scanLiteral_char (by decide) (by decide),
      scanLiteral_char hhigh.1 hhigh.2, scanLiteral_char hlow.1 hlow.2]
    simp only [Option.map_map]
    rfl
  · exact ⟨0, by rw [htext]; exact scanLiteral_char hback hquote tail⟩

/-- The second pass over the text of a character. -/
theorem unescape_printChar (char : Char) (tail : CString) :
    unescape (printChar char ++ tail) =
      (unescape tail).map (char :: ·) id := by
  rcases printChar_cases char with
    ⟨mark, htext, hmark, hshort⟩ | ⟨high, low, htext, hcontrol, rfl, rfl⟩ |
      ⟨htext, hback, -, -⟩
  · rw [htext]
    exact unescape_short hmark hshort tail
  · rw [htext]
    simp only [List.cons_append, List.nil_append]
    rw [unescape_control hcontrol, Char.ofNat_toNat]
  · rw [htext]
    exact unescape_char hback tail

theorem scanLiteral_flatMap (text rest : CString) :
    ∃ escapes, scanLiteral (text.flatMap printChar ++ '"' :: rest) =
      some (text.flatMap printChar, escapes, rest) := by
  induction text with
  | nil => exact ⟨0, rfl⟩
  | cons char text ih =>
      rcases ih with ⟨escapes, hscan⟩
      rcases scanLiteral_printChar char
        (text.flatMap printChar ++ '"' :: rest) with ⟨more, hchar⟩
      refine ⟨escapes + more, ?_⟩
      rw [List.flatMap_cons, List.append_assoc, hchar, hscan]
      rfl

theorem unescape_flatMap (text : CString) :
    unescape (text.flatMap printChar) = (text, true) := by
  induction text with
  | nil => rw [List.flatMap_nil, unescape]
  | cons char text ih =>
      rw [List.flatMap_cons, unescape_printChar, ih]
      rfl

/-- A printed string is read back, whatever follows it. -/
theorem parseString_printStringPtr {text : CString} (hnul : '\x00' ∉ text)
    (rest : CString) :
    parseString (printStringPtr text ++ rest) = some (text, rest) := by
  rcases scanLiteral_flatMap text rest with ⟨escapes, hscan⟩
  have hkept : text.takeWhile (· ≠ '\x00') = text := by
    rw [List.takeWhile_eq_self_iff]
    intro char hchar
    rw [decide_eq_true_eq]
    rintro rfl
    exact hnul hchar
  have hshape : printStringPtr text ++ rest =
      '"' :: (text.flatMap printChar ++ '"' :: rest) := by
    simp [printStringPtr]
  rw [hshape, parseString, hscan]
  simp only [Option.bind_eq_bind, Option.bind_some, unescape_flatMap, if_true,
    hkept]

/-! ## Numbers -/

/-- A text that no number goes on into. -/
def NoNumberChar (rest : CString) : Prop :=
  ∀ char ∈ rest.head?, isNumberChar char = false

theorem takeWhile_append_of_stop {p : Char → Bool} {text rest : CString}
    (htext : ∀ char ∈ text, p char = true)
    (hrest : ∀ char ∈ rest.head?, p char = false) :
    (text ++ rest).takeWhile p = text := by
  rw [List.takeWhile_append_of_pos htext]
  cases rest with
  | nil => simp
  | cons char rest =>
      have hchar : p char = false := hrest char rfl
      rw [List.takeWhile_cons_of_neg (by simp [hchar]), List.append_nil]

theorem dropWhile_append_of_stop {p : Char → Bool} {text rest : CString}
    (htext : ∀ char ∈ text, p char = true)
    (hrest : ∀ char ∈ rest.head?, p char = false) :
    (text ++ rest).dropWhile p = rest := by
  rw [List.dropWhile_append_of_pos htext]
  cases rest with
  | nil => rfl
  | cons char rest =>
      have hchar : p char = false := hrest char rfl
      rw [List.dropWhile_cons_of_neg (by simp [hchar])]

/-- The parts of a decimal number as it is printed. -/
structure Decimal where
  negative : Bool
  whole : CString
  /-- `none` without a point. -/
  fraction : Option CString

namespace Decimal

def fractionText (fraction : Option CString) : CString :=
  fraction.elim [] fun digits => '.' :: digits

def text (decimal : Decimal) : CString :=
  (if decimal.negative then ['-'] else []) ++ decimal.whole ++
    fractionText decimal.fraction

def digits (decimal : Decimal) : CString :=
  decimal.whole ++ decimal.fraction.getD []

def value (decimal : Decimal) : ℚ :=
  let value : ℚ := Nat.ofDigitChars 10 decimal.digits 0 /
    10 ^ (decimal.fraction.getD []).length
  if decimal.negative then -value else value

structure WellFormed (decimal : Decimal) : Prop where
  whole_ne_nil : decimal.whole ≠ []
  digits_isDigit : ∀ char ∈ decimal.digits, char.isDigit = true

variable {decimal : Decimal}

theorem WellFormed.whole_isDigit (hformed : decimal.WellFormed) :
    ∀ char ∈ decimal.whole, char.isDigit = true := by
  intro char hchar
  exact hformed.digits_isDigit char (List.mem_append_left _ hchar)

theorem strtodSign_of_digits {negative : Bool} {whole tail : CString}
    (hwhole : ∀ char ∈ whole, char.isDigit = true) (hne : whole ≠ []) :
    strtodSign ((if negative then ['-'] else []) ++ (whole ++ tail)) =
      (negative, whole ++ tail) := by
  cases negative with
  | true => rfl
  | false =>
      cases whole with
      | nil => exact absurd rfl hne
      | cons first more =>
          have hfirst := hwhole first List.mem_cons_self
          simp only [Bool.false_eq_true, if_false, List.nil_append,
            List.cons_append]
          unfold strtodSign
          split
          · next heq =>
              cases heq
              exact absurd hfirst (by decide)
          · next heq =>
              cases heq
              exact absurd hfirst (by decide)
          · rfl

theorem strtodFraction_of_digits {fraction : Option CString}
    (hfraction : ∀ char ∈ fraction.getD [], char.isDigit = true) :
    strtodFraction (fractionText fraction) = (fraction.getD [], []) := by
  cases fraction with
  | none => rfl
  | some digits =>
      have htake := @takeWhile_append_of_stop Char.isDigit digits [] hfraction
        (by simp)
      have hdrop := @dropWhile_append_of_stop Char.isDigit digits [] hfraction
        (by simp)
      rw [List.append_nil] at htake hdrop
      exact Prod.ext htake hdrop

theorem strtod_text (hformed : decimal.WellFormed) :
    strtod decimal.text = some (decimal.value, []) := by
  have hwhole := hformed.whole_isDigit
  have hfraction : ∀ char ∈ decimal.fraction.getD [],
      char.isDigit = true := by
    intro char hchar
    exact hformed.digits_isDigit char (List.mem_append_right _ hchar)
  have hstop : ∀ char ∈ (fractionText decimal.fraction).head?,
      char.isDigit = false := by
    cases decimal.fraction with
    | none => simp [fractionText]
    | some digits =>
        intro char hchar
        cases hchar
        decide
  have hne : decimal.whole ++ decimal.fraction.getD [] ≠ [] := by
    simp [hformed.whole_ne_nil]
  simp only [strtod, text, List.append_assoc,
    strtodSign_of_digits hwhole hformed.whole_ne_nil,
    takeWhile_append_of_stop hwhole hstop,
    dropWhile_append_of_stop hwhole hstop,
    strtodFraction_of_digits hfraction, strtodExponent, if_neg hne]
  simp [value, digits]

theorem WellFormed.isNumberChar (hformed : decimal.WellFormed) :
    ∀ char ∈ decimal.text, isNumberChar char = true := by
  have hdigit : ∀ char : Char, char.isDigit = true →
      BscJson.isNumberChar char = true := by
    intro char hchar
    simp [BscJson.isNumberChar, hchar]
  obtain ⟨negative, whole, fraction⟩ := decimal
  have hwhole := hformed.whole_isDigit
  intro char hchar
  simp only [text, List.mem_append] at hchar
  rcases hchar with (hsign | hchar) | hchar
  · cases negative with
    | true =>
        rw [List.mem_singleton.mp hsign]
        decide
    | false => cases hsign
  · exact hdigit char (hwhole char hchar)
  · cases fraction with
    | none => cases hchar
    | some places =>
        rcases List.mem_cons.mp hchar with rfl | hplace
        · decide
        · exact hdigit char (hformed.digits_isDigit char
            (List.mem_append_right _ hplace))

end Decimal

theorem isDigit_toDigits (value : ℕ) :
    ∀ char ∈ Nat.toDigits 10 value, char.isDigit = true := by
  intro char hchar
  exact Nat.isDigit_of_mem_toDigits (by decide) (by decide) hchar

/-- `%d` -/
theorem printInt_eq_text (value : ℤ) :
    ∃ decimal : Decimal, decimal.WellFormed ∧
      printInt value = decimal.text ∧ decimal.value = value := by
  refine ⟨⟨value < 0, Nat.toDigits 10 value.natAbs, none⟩,
    ⟨Nat.toDigits_ne_nil, ?_⟩, ?_, ?_⟩
  · intro char hchar
    rw [Decimal.digits, Option.getD_none, List.append_nil] at hchar
    exact isDigit_toDigits _ char hchar
  · simp [printInt, Decimal.text, Decimal.fractionText]
  · have habs : ((value.natAbs : ℕ) : ℚ) = |(value : ℚ)| := by
      rw [Nat.cast_natAbs, Int.cast_abs]
    simp only [Decimal.value, Decimal.digits, Option.getD_none,
      List.append_nil, Nat.ofDigitChars_ten_toDigits, List.length_nil,
      pow_zero, div_one, decide_eq_true_eq, habs]
    by_cases hneg : value < 0
    · rw [if_pos hneg, abs_of_neg (by exact_mod_cast hneg), neg_neg]
    · rw [if_neg hneg, abs_of_nonneg (by exact_mod_cast not_lt.mp hneg)]

/-- `%1.15f` -/
theorem printFixed15_eq_text (value : ℚ) :
    ∃ decimal : Decimal, decimal.WellFormed ∧
      printFixed15 value = decimal.text ∧
      decimal.value =
        if value < 0 then
          -((roundHalfEven (|value| * 10 ^ 15) : ℚ) / 10 ^ 15)
        else (roundHalfEven (|value| * 10 ^ 15) : ℚ) / 10 ^ 15 := by
  generalize hscaled : roundHalfEven (|value| * 10 ^ 15) = scaled
  generalize hplaces : Nat.toDigits 10 (scaled % 10 ^ 15) = places
  have hshort : places.length ≤ 15 := by
    rw [← hplaces, Nat.length_toDigits_le_iff (by decide) (by decide)]
    exact Nat.mod_lt _ (by positivity)
  refine ⟨⟨value < 0, Nat.toDigits 10 (scaled / 10 ^ 15),
    some (List.replicate (15 - places.length) '0' ++ places)⟩,
    ⟨Nat.toDigits_ne_nil, ?_⟩, ?_, ?_⟩
  · intro char hchar
    simp only [Decimal.digits, Option.getD_some, List.mem_append,
      List.mem_replicate] at hchar
    rcases hchar with hchar | ⟨-, rfl⟩ | hchar
    · exact isDigit_toDigits _ char hchar
    · decide
    · rw [← hplaces] at hchar
      exact isDigit_toDigits _ char hchar
  · simp only [printFixed15, Decimal.text, Decimal.fractionText, hscaled,
      hplaces, Option.elim_some, decide_eq_true_eq, List.append_assoc,
      List.cons_append]
  · have hlength :
        (List.replicate (15 - places.length) '0' ++ places).length = 15 := by
      rw [List.length_append, List.length_replicate]
      omega
    have hdigits : Nat.ofDigitChars 10 (Nat.toDigits 10 (scaled / 10 ^ 15) ++
        (List.replicate (15 - places.length) '0' ++ places)) 0 =
        scaled := by
      rw [Nat.ofDigitChars_append, Nat.ofDigitChars_eq_ofDigitChars_zero,
        hlength, Nat.ofDigitChars_append, Nat.ofDigitChars_replicate_zero,
        Nat.mul_zero, ← hplaces, Nat.ofDigitChars_ten_toDigits,
        Nat.ofDigitChars_ten_toDigits, Nat.div_add_mod]
    simp only [Decimal.value, Decimal.digits, Option.getD_some, hlength,
      hdigits, decide_eq_true_eq]

theorem printNumber_eq_text
    {value : ℚ} {text : CString} (hprint : printNumber value = some text) :
    ∃ decimal : Decimal, decimal.WellFormed ∧ text = decimal.text ∧
      decimal.value = printedNumber value := by
  simp only [printNumber, Option.ite_none_right_eq_some,
    Option.some.injEq] at hprint
  rcases hprint with ⟨-, rfl⟩
  unfold printedNumber
  split_ifs with hint hneg
  · exact printInt_eq_text _
  · rcases printFixed15_eq_text value with ⟨decimal, hformed, htext, hvalue⟩
    rw [if_pos hneg] at hvalue
    exact ⟨decimal, hformed, htext, hvalue⟩
  · rcases printFixed15_eq_text value with ⟨decimal, hformed, htext, hvalue⟩
    rw [if_neg hneg] at hvalue
    exact ⟨decimal, hformed, htext, hvalue⟩

/-- A printed number is read back as the decimal that was printed. -/
theorem parseNumber_printNumber (nearest : ℚ → ℚ)
    {value : ℚ} {text rest : CString}
    (hprint : printNumber value = some text) (hrest : NoNumberChar rest) :
    parseNumber nearest (text ++ rest) =
      some (.number (nearest (printedNumber value)), rest) := by
  have hlength := printNumber_length hprint
  rcases printNumber_eq_text hprint with ⟨decimal, hformed, rfl, hvalue⟩
  have hnumber : ((decimal.text ++ rest).takeWhile isNumberChar).take 63 =
      decimal.text := by
    rw [takeWhile_append_of_stop hformed.isNumberChar hrest]
    exact List.take_of_length_le (by omega)
  simp only [parseNumber, hnumber, Decimal.strtod_text hformed,
    Option.map_some, hvalue, List.length_nil, Nat.sub_zero,
    List.drop_left]

end BscJson

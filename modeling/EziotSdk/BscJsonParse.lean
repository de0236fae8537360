import EziotSdk.BscJson
import Mathlib.Tactic

/-!
# The parser of JSON documents

`bscJSON_Parse` on the characters before the NUL of its text: what is left to
read is a suffix of the text, the empty one when the buffer stands at the NUL.
A number has the decimal value of its text, rounded to a `double` by a
parameter; allocations succeed.
-/

namespace BscJson

/-- `bscJSON_NESTING_LIMIT`. -/
def nestingLimit : ℕ := 1000

/-! ## Numbers -/

/-- The characters that `parse_number` copies. -/
def isNumberChar (char : Char) : Bool :=
  char.isDigit || char == '+' || char == '-' || char == 'e' ||
    char == 'E' || char == '.'

/-- A sign and what follows it. -/
def strtodSign (text : CString) : Bool × CString :=
  match text with
  | '-' :: more => (true, more)
  | '+' :: more => (false, more)
  | _ => (false, text)

/-- The digits after a point and what follows them. -/
def strtodFraction (text : CString) : CString × CString :=
  match text with
  | '.' :: more => (more.takeWhile Char.isDigit, more.dropWhile Char.isDigit)
  | _ => ([], text)

/-- An exponent is read when it has a digit. -/
def strtodExponent (text : CString) : ℤ × CString :=
  match text with
  | [] => (0, [])
  | mark :: rest =>
      if mark = 'e' ∨ mark = 'E' then
        let signed := strtodSign rest
        let digits := signed.2.takeWhile Char.isDigit
        if digits = [] then (0, text)
        else
          let value : ℤ := Nat.ofDigitChars 10 digits 0
          (if signed.1 then -value else value,
            signed.2.dropWhile Char.isDigit)
      else (0, text)

/-- `strtod` on a text of number characters: the decimal value and what it
leaves. -/
def strtod (text : CString) : Option (ℚ × CString) :=
  let signed := strtodSign text
  let whole := signed.2.takeWhile Char.isDigit
  let fraction := strtodFraction (signed.2.dropWhile Char.isDigit)
  let exponent := strtodExponent fraction.2
  if whole ++ fraction.1 = [] then none
  else
    let value : ℚ := Nat.ofDigitChars 10 (whole ++ fraction.1) 0 /
      10 ^ fraction.1.length * (10 : ℚ) ^ exponent.1
    some (if signed.1 then -value else value, exponent.2)

/-- At most 63 characters are copied for `strtod`. -/
def parseNumber (nearest : ℚ → ℚ) (text : CString) :
    Option (BscJson × CString) :=
  let number := (text.takeWhile isNumberChar).take 63
  (strtod number).map fun parsed =>
    (.number (nearest parsed.1),
      text.drop (number.length - parsed.2.length))

/-! ## Strings -/

/-- `none` for a character that is no hexadecimal digit. -/
def hexDigit (char : Char) : Option ℕ :=
  if '0' ≤ char ∧ char ≤ '9' then some (char.toNat - '0'.toNat)
  else if 'A' ≤ char ∧ char ≤ 'F' then some (10 + char.toNat - 'A'.toNat)
  else if 'a' ≤ char ∧ char ≤ 'f' then some (10 + char.toNat - 'a'.toNat)
  else none

/-- `parse_hex4`; zero when a digit is invalid. -/
def parseHex4 (first second third fourth : Char) : ℕ :=
  match hexDigit first, hexDigit second, hexDigit third, hexDigit fourth with
  | some a, some b, some c, some d =>
      (((a <<< 4 + b) <<< 4 + c) <<< 4) + d
  | _, _, _, _ => 0

/-- The last six bits of a code point as a byte `10xxxxxx`. -/
def continuationByte (codepoint : ℕ) : Char :=
  Char.ofNat ((codepoint ||| 0x80) &&& 0xBF)

/-- The loop of `utf16_literal_to_utf8` that encodes the code point, unrolled
for each length. -/
def utf8Bytes (codepoint : ℕ) : Option CString :=
  if codepoint < 0x80 then some [Char.ofNat (codepoint &&& 0x7F)]
  else if codepoint < 0x800 then
    some [Char.ofNat ((codepoint >>> 6 ||| 0xC0) &&& 0xFF),
      continuationByte codepoint]
  else if codepoint < 0x10000 then
    some [Char.ofNat ((codepoint >>> 12 ||| 0xE0) &&& 0xFF),
      continuationByte (codepoint >>> 6), continuationByte codepoint]
  else if codepoint ≤ 0x10FFFF then
    some [Char.ofNat ((codepoint >>> 18 ||| 0xF0) &&& 0xFF),
      continuationByte (codepoint >>> 12),
      continuationByte (codepoint >>> 6), continuationByte codepoint]
  else none

def isLowSurrogate (code : ℕ) : Bool := 0xDC00 ≤ code && code ≤ 0xDFFF

def isHighSurrogate (code : ℕ) : Bool := 0xD800 ≤ code && code ≤ 0xDBFF

/-- The code point of a surrogate pair. -/
def surrogatePair (first second : ℕ) : ℕ :=
  0x10000 + (((first &&& 0x3FF) <<< 10) ||| (second &&& 0x3FF))

/-- `utf16_literal_to_utf8` on what follows `\u`: the bytes it writes and what
it leaves up to the end of the literal. -/
def utf16LiteralToUtf8 : CString → Option (CString × CString)
  | a :: b :: c :: d :: rest =>
      let firstCode := parseHex4 a b c d
      if isLowSurrogate firstCode then none
      else if isHighSurrogate firstCode then
        match rest with
        | '\\' :: 'u' :: e :: f :: g :: h :: more =>
            let secondCode := parseHex4 e f g h
            if isLowSurrogate secondCode then
              (utf8Bytes (surrogatePair firstCode secondCode)).map
                fun bytes => (bytes, more)
            else none
        | _ => none
      else (utf8Bytes firstCode).map fun bytes => (bytes, rest)
  | _ => none

/-- The character of an escape of two. -/
def shortEscape (char : Char) : Option Char :=
  if char = 'b' then some '\x08'
  else if char = 'f' then some '\x0c'
  else if char = 'n' then some '\n'
  else if char = 'r' then some '\r'
  else if char = 't' then some '\t'
  else if char = '"' ∨ char = '\\' ∨ char = '/' then some char
  else none

/-- The first pass of `parse_string` over what follows the opening quote: the
literal, the number of its escapes and what follows the closing quote. -/
def scanLiteral : CString → Option (CString × ℕ × CString)
  | [] => none
  | ['\\'] => none
  | '\\' :: escaped :: rest =>
      (scanLiteral rest).map fun scanned =>
        ('\\' :: escaped :: scanned.1, scanned.2.1 + 1, scanned.2.2)
  | char :: rest =>
      if char = '"' then some ([], 0, rest)
      else
        (scanLiteral rest).map fun scanned =>
          (char :: scanned.1, scanned.2.1, scanned.2.2)

theorem utf16LiteralToUtf8_length
    {text bytes rest : CString}
    (hliteral : utf16LiteralToUtf8 text = some (bytes, rest)) :
    rest.length < text.length := by
  unfold utf16LiteralToUtf8 at hliteral
  split at hliteral
  · dsimp only at hliteral
    split_ifs at hliteral
    · split at hliteral
      · split_ifs at hliteral
        rw [Option.map_eq_some_iff] at hliteral
        rcases hliteral with ⟨written, -, hpair⟩
        cases hpair
        simp only [List.length_cons]
        omega
      · cases hliteral
    · rw [Option.map_eq_some_iff] at hliteral
      rcases hliteral with ⟨written, -, hpair⟩
      cases hpair
      simp only [List.length_cons]
      omega
  · cases hliteral

/-- The second pass of `parse_string`: the bytes that are written for a
literal, and whether its end is reached.  A backslash that is left at the end
is read with the closing quote. -/
def unescape : CString → CString × Bool
  | [] => ([], true)
  | ['\\'] => (['"'], true)
  | '\\' :: escaped :: rest =>
      if escaped = 'u' then
        match _hliteral : utf16LiteralToUtf8 rest with
        | some (bytes, more) => ((unescape more).map (bytes ++ ·) id)
        | none => ([], false)
      else
        match shortEscape escaped with
        | some char => (unescape rest).map (char :: ·) id
        | none => ([], false)
  | char :: rest => (unescape rest).map (char :: ·) id
termination_by text => text.length
decreasing_by
  · have hlength := utf16LiteralToUtf8_length _hliteral
    simp only [List.length_cons]
    omega
  · simp only [List.length_cons]
    omega
  · simp

theorem scanLiteral_escape (escaped : Char) (rest : CString) :
    scanLiteral ('\\' :: escaped :: rest) =
      (scanLiteral rest).map fun scanned =>
        ('\\' :: escaped :: scanned.1, scanned.2.1 + 1, scanned.2.2) := by
  rw [scanLiteral]

theorem scanLiteral_char {char : Char} (hback : char ≠ '\\')
    (hquote : char ≠ '"') (rest : CString) :
    scanLiteral (char :: rest) =
      (scanLiteral rest).map fun scanned =>
        (char :: scanned.1, scanned.2.1, scanned.2.2) := by
  rw [scanLiteral.eq_def]
  split
  · next heq => cases heq
  · next heq =>
      cases heq
      exact absurd rfl hback
  · next heq =>
      cases heq
      exact absurd rfl hback
  · next heq =>
      cases heq
      rw [if_neg hquote]

theorem unescape_short {mark char : Char} (hmark : mark ≠ 'u')
    (hshort : shortEscape mark = some char) (rest : CString) :
    unescape ('\\' :: mark :: rest) = (unescape rest).map (char :: ·) id := by
  rw [unescape, if_neg hmark, hshort]

theorem unescape_char {char : Char} (hback : char ≠ '\\')
    (rest : CString) :
    unescape (char :: rest) = (unescape rest).map (char :: ·) id := by
  rw [unescape]
  · intro hchar _
    exact hback hchar
  · intro _ _ hchar _
    exact hback hchar

/-- The bytes that `parse_string` allocates for a literal with this many
escapes, the opening quote counted. -/
def allocationLength (literal : CString) (escapes : ℕ) : ℕ :=
  literal.length + 1 - escapes + 1

/-- `parse_string`.  The string ends at the first NUL that is written. -/
def parseString : CString → Option (CString × CString)
  | '"' :: rest => do
      let (literal, _, more) ← scanLiteral rest
      let (written, complete) := unescape literal
      if complete then some (written.takeWhile (· ≠ '\x00'), more) else none
  | _ => none

/-! ## Values -/

/-- `buffer_skip_whitespace`; the NUL is passed and stepped back to. -/
def skipWhitespace (text : CString) : CString :=
  text.dropWhile fun char => char.toNat ≤ 32

/-- The loop of `parse_array`, once for each element. -/
def parseElements (value : CString → Option (BscJson × CString)) :
    ℕ → CString → Option (List BscJson × CString)
  | 0, _ => none
  | fuel + 1, text => do
      let (item, rest) ← value (skipWhitespace text)
      match skipWhitespace rest with
      | ',' :: more => do
          let (items, rest) ← parseElements value fuel more
          pure (item :: items, rest)
      | ']' :: more => pure ([item], more)
      | _ => none

/-- `parse_array` after the opening bracket. -/
def parseArray (value : CString → Option (BscJson × CString))
    (text : CString) : Option (BscJson × CString) :=
  match skipWhitespace text with
  | ']' :: more => some (.array [], more)
  | first => (parseElements value (first.length + 1) first).map fun parsed =>
      (.array parsed.1, parsed.2)

/-- The loop of `parse_object`, once for each member. -/
def parseMembers (value : CString → Option (BscJson × CString)) :
    ℕ → CString → Option (List (CString × BscJson) × CString)
  | 0, _ => none
  | fuel + 1, text => do
      let (name, rest) ← parseString (skipWhitespace text)
      match skipWhitespace rest with
      | ':' :: afterName => do
          let (item, rest) ← value (skipWhitespace afterName)
          match skipWhitespace rest with
          | ',' :: more => do
              let (members, rest) ← parseMembers value fuel more
              pure ((name, item) :: members, rest)
          | '}' :: more => pure ([(name, item)], more)
          | _ => none
      | _ => none

/-- `parse_object` after the opening brace. -/
def parseObject (value : CString → Option (BscJson × CString))
    (text : CString) : Option (BscJson × CString) :=
  match skipWhitespace text with
  | '}' :: more => some (.object [], more)
  | first => (parseMembers value (first.length + 1) first).map fun parsed =>
      (.object parsed.1, parsed.2)

/-- `parse_value` where this many containers may still be opened. -/
def parseValue (nearest : ℚ → ℚ) (budget : ℕ) (text : CString) :
    Option (BscJson × CString) :=
  if "null".toList.isPrefixOf text then some (.null, text.drop 4)
  else if "false".toList.isPrefixOf text then
    some (.bool false, text.drop 5)
  else if "true".toList.isPrefixOf text then some (.bool true, text.drop 4)
  else
    match text with
    | [] => none
    | first :: rest =>
        if first = '"' then
          (parseString text).map fun parsed => (.string parsed.1, parsed.2)
        else if first = '-' ∨ first.isDigit then parseNumber nearest text
        else if first = '[' then
          match budget with
          | 0 => none
          | below + 1 => parseArray (parseValue nearest below) rest
        else if first = '{' then
          match budget with
          | 0 => none
          | below + 1 => parseObject (parseValue nearest below) rest
        else none

/-- `skip_utf8_bom` -/
def skipUtf8Bom (text : CString) : CString :=
  if 4 ≤ text.length ∧
      ['\xEF', '\xBB', '\xBF'].isPrefixOf text then text.drop 3
  else text

/-- `bscJSON_Parse`; what follows the value is not looked at. -/
def parse (nearest : ℚ → ℚ) (text : CString) : Option BscJson :=
  (parseValue nearest nestingLimit
    (skipWhitespace (skipUtf8Bom text))).map Prod.fst

example :
    (parse id "[1, \"a\\u0041\", \x7b\"b\": -2.5e1\x7d] rest".toList).isSome := by
  decide +kernel

end BscJson

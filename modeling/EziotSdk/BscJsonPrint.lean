import EziotSdk.BscJson

/-!
# Printed JSON documents

`bscJSON_PrintUnformatted` of an object whose members are no containers.  A
number is rendered into a buffer of 26 bytes, and a text that does not fit
fails the whole print.
-/

namespace BscJson

/-- `DBL_EPSILON`. -/
def dblEpsilon : ℚ := 1 / 2 ^ 52

/-- The nearest natural number, the even one of two. -/
def roundHalfEven (value : ℚ) : ℕ :=
  let whole := ⌊value⌋₊
  let fraction := value - whole
  if fraction < 1 / 2 then whole
  else if 1 / 2 < fraction then whole + 1
  else whole + whole % 2

/-- `%1.15f`. -/
def printFixed15 (value : ℚ) : CString :=
  let scaled := roundHalfEven (|value| * 10 ^ 15)
  let decimals := Nat.toDigits 10 (scaled % 10 ^ 15)
  (if value < 0 then ['-'] else []) ++ Nat.toDigits 10 (scaled / 10 ^ 15) ++
    '.' :: List.replicate (15 - decimals.length) '0' ++ decimals

/-- `%d`. -/
def printInt (value : ℤ) : CString :=
  (if value < 0 then ['-'] else []) ++ Nat.toDigits 10 value.natAbs

def printNumber (value : ℚ) : Option CString :=
  let text :=
    if |(saturate value : ℚ) - value| ≤ dblEpsilon ∧ value ≤ intMax ∧
        intMin ≤ value then
      printInt (value.num.tdiv value.den)
    else printFixed15 value
  if text.length ≤ 25 then some text else none

def printChar (char : Char) : CString :=
  if char = '\\' then ['\\', '\\']
  else if char = '"' then ['\\', '"']
  else if char = '\x08' then ['\\', 'b']
  else if char = '\x0c' then ['\\', 'f']
  else if char = '\n' then ['\\', 'n']
  else if char = '\r' then ['\\', 'r']
  else if char = '\t' then ['\\', 't']
  else if char.toNat < 32 then
    ['\\', 'u', '0', '0', Nat.digitChar (char.toNat / 16),
      Nat.digitChar (char.toNat % 16)]
  else [char]

def printStringPtr (text : CString) : CString :=
  '"' :: text.flatMap printChar ++ ['"']

/-- `print_value`; containers are not rendered here. -/
def printLeaf : BscJson → Option CString
  | .null => some "null".toList
  | .bool true => some "true".toList
  | .bool false => some "false".toList
  | .number value => printNumber value
  | .string value => some (printStringPtr value)
  | .array _ => none
  | .object _ => none

def printMember (member : CString × BscJson) : Option CString :=
  (printLeaf member.2).map fun value =>
    printStringPtr member.1 ++ ':' :: value

/-- `bscJSON_PrintUnformatted` of an object with these members. -/
def printUnformatted (members : List (CString × BscJson)) :
    Option CString :=
  (members.mapM printMember).map fun printed =>
    '{' :: [','].intercalate printed ++ ['}']

/-! ## Numbers -/

theorem printNumber_length
    {value : ℚ} {text : CString} (hprint : printNumber value = some text) :
    text.length ≤ 25 := by
  simp only [printNumber, Option.ite_none_right_eq_some,
    Option.some.injEq] at hprint
  rcases hprint with ⟨hlength, htext⟩
  rw [← htext]
  exact hlength

/-- A whole number of the `int` range is printed. -/
theorem printNumber_natCast
    {value : ℕ} (hvalue : value < 2 ^ 31) :
    ∃ text, printNumber value = some text := by
  have hmin : intMin ≤ (value : ℤ) := by
    unfold intMin
    omega
  have hmax : (value : ℤ) ≤ intMax := by
    unfold intMax
    omega
  have hsaturate : saturate (value : ℚ) = value := by
    have hcast := saturate_intCast hmin hmax
    simpa using hcast
  have hinside : |(saturate (value : ℚ) : ℚ) - value| ≤ dblEpsilon ∧
      (value : ℚ) ≤ intMax ∧ (intMin : ℚ) ≤ value := by
    refine ⟨?_, by exact_mod_cast hmax, by exact_mod_cast hmin⟩
    rw [hsaturate]
    norm_num [dblEpsilon]
  have hlength : (printInt value).length ≤ 25 := by
    have hdigits : (Nat.toDigits 10 value).length ≤ 25 :=
      (Nat.length_toDigits_le_iff (by decide) (by decide)).mpr (by omega)
    have hnonneg : ¬ ((value : ℤ) < 0) := by omega
    simpa [printInt, hnonneg] using hdigits
  refine ⟨printInt value, ?_⟩
  simp only [printNumber, if_pos hinside]
  simpa using hlength

theorem roundHalfEven_natCast (value : ℕ) :
    roundHalfEven (value : ℚ) = value := by
  simp [roundHalfEven]

/-- The text of a larger whole number has at least ten digits, the point and
fifteen decimals. -/
theorem printNumber_eq_none
    {value : ℕ} (hvalue : 2 ^ 31 ≤ value) : printNumber value = none := by
  have hmax : ¬ ((value : ℚ) ≤ intMax) := by
    have hlt : intMax < (value : ℤ) := by
      unfold intMax
      omega
    have hcast : (intMax : ℚ) < ((value : ℤ) : ℚ) := by exact_mod_cast hlt
    simpa using hcast
  have houtside : ¬ (|(saturate (value : ℚ) : ℚ) - value| ≤ dblEpsilon ∧
      (value : ℚ) ≤ intMax ∧ (intMin : ℚ) ≤ value) :=
    fun hinside => hmax hinside.2.1
  have hround : roundHalfEven (|(value : ℚ)| * 10 ^ 15) =
      value * 10 ^ 15 := by
    have habs : |(value : ℚ)| * 10 ^ 15 = ((value * 10 ^ 15 : ℕ) : ℚ) := by
      rw [abs_of_nonneg (by positivity)]
      push_cast
      rfl
    rw [habs, roundHalfEven_natCast]
  have hdigits : 10 ≤ (Nat.toDigits 10 value).length := by
    by_contra hshort
    have hle : (Nat.toDigits 10 value).length ≤ 9 := by omega
    have hlt := (Nat.length_toDigits_le_iff (by decide) (by decide)).mp hle
    omega
  have hlong : 26 ≤ (printFixed15 value).length := by
    simp only [printFixed15, hround]
    rw [Nat.mul_div_cancel _ (by positivity), Nat.mul_mod_left]
    simp only [List.length_append, List.length_cons]
    have hzero : (Nat.toDigits 10 0).length = 1 := by decide
    simp only [List.length_replicate, hzero]
    omega
  have hfail : ¬ ((printFixed15 value).length ≤ 25) := by omega
  simp only [printNumber, if_neg houtside, if_neg hfail]

/-! ## Lengths -/

theorem printChar_length (char : Char) : (printChar char).length ≤ 6 := by
  unfold printChar
  split_ifs <;> simp

theorem printStringPtr_length (text : CString) :
    (printStringPtr text).length ≤ 6 * text.length + 2 := by
  have hbody : (text.flatMap printChar).length ≤ 6 * text.length := by
    induction text with
    | nil => simp
    | cons char rest ih =>
        have hchar := printChar_length char
        simp only [List.flatMap_cons, List.length_append, List.length_cons]
        omega
  simp only [printStringPtr, List.length_append, List.length_cons,
    List.length_nil]
  omega

end BscJson

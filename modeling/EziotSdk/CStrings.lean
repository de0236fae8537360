import Mathlib.Data.List.Basic
import Mathlib.Tactic

/-!
# C strings

A C string is the list of its characters before the terminating NUL, one
character per byte.  The functions of `string.h` are given on that
representation, with the truncation that a copy into a fixed buffer makes.
-/

/-- The characters of a C string before its NUL. -/
abbrev CString := List Char

namespace CString

def strlen (text : CString) : ℕ := text.length

/-- The string which `strncpy(dest, text, bound)` leaves in a zeroed buffer
of more than `bound` bytes. -/
def strncpy (text : CString) (bound : ℕ) : CString := text.take bound

/-- The strings that an array of this many bytes holds with its NUL. -/
abbrev Buffer (size : ℕ) := { text : CString // text.length < size }

/-- Equality of strings up to the case of ASCII letters. -/
def caseInsensitiveEq (left right : CString) : Bool :=
  left.map Char.toLower == right.map Char.toLower

/-- The value of a run of decimal digits, continued from `value`. -/
def digitsValue : CString → ℕ → ℕ
  | [], value => value
  | digit :: rest, value =>
      if digit.isDigit then
        digitsValue rest (10 * value + (digit.toNat - '0'.toNat))
      else value

/-- `atoi` of a number in the range of `int`. -/
def atoi (text : CString) : ℤ :=
  match text.dropWhile Char.isWhitespace with
  | '-' :: digits => -(digitsValue digits 0 : ℤ)
  | '+' :: digits => digitsValue digits 0
  | digits => digitsValue digits 0

@[simp] theorem strlen_eq_length (text : CString) :
    strlen text = text.length := rfl

theorem strncpy_of_length_le
    {text : CString} {bound : ℕ} (hfits : text.length ≤ bound) :
    strncpy text bound = text :=
  List.take_of_length_le hfits

theorem strncpy_eq_self
    (text : CString) (bound : ℕ) :
    strncpy text bound = text ↔ text.length ≤ bound := by
  simp [strncpy]

@[simp] theorem strncpy_length (text : CString) (bound : ℕ) :
    (strncpy text bound).length = min bound text.length := by
  simp [strncpy]

/-- A bound one below the size leaves room for the NUL. -/
theorem strncpy_length_lt {size : ℕ} (hsize : 0 < size) (text : CString) :
    (strncpy text (size - 1)).length < size := by
  rw [strncpy_length]
  omega

/-- `strncpy` of a text into a cleared array, all but its last byte. -/
def Buffer.copied {size : ℕ} (hsize : 0 < size) (text : CString) :
    Buffer size :=
  ⟨strncpy text (size - 1), strncpy_length_lt hsize text⟩

theorem strncpy_idem (text : CString) (bound : ℕ) :
    strncpy (strncpy text bound) bound = strncpy text bound := by
  simp [strncpy]

/-- Bytes of memory; `none` is the NUL byte. -/
abbrev Cells := List (Option Char)

namespace Cells

/-- The C string that starts at an offset. -/
def readString : Cells → CString
  | some char :: rest => char :: readString rest
  | _ => []

/-- What `strncpy(dest, text, bound)` writes: all `bound` bytes, padded with
NULs. -/
def padded (text : CString) (bound : ℕ) : Cells :=
  (strncpy text bound).map some ++
    List.replicate (bound - text.length) none

/-- `strncpy` to an offset of a block; `none` when it leaves the block. -/
def writeString (cells : Cells) (offset : ℕ) (text : CString) (bound : ℕ) :
    Option Cells :=
  if offset + bound ≤ cells.length then
    some (cells.take offset ++ padded text bound ++
      cells.drop (offset + bound))
  else none

theorem readString_map_some_append (text : CString) (rest : Cells)
    (hrest : rest.readString = []) :
    readString (text.map some ++ rest) = text := by
  induction text with
  | nil => exact hrest
  | cons char text ih => simp [readString, ih]

@[simp] theorem readString_replicate_none (count : ℕ) :
    readString (List.replicate count none) = [] := by
  cases count <;> rfl

/-- A string with NULs around it, read from any offset. -/
theorem readString_drop_block
    (before after offset : ℕ) (text : CString) :
    readString
        ((List.replicate before none ++ text.map some ++
          List.replicate after none).drop offset) =
      if before ≤ offset then text.drop (offset - before) else [] := by
  by_cases hle : before ≤ offset
  · rw [if_pos hle, List.append_assoc, List.drop_append,
      List.drop_of_length_le (by simpa using hle), List.nil_append,
      List.length_replicate, List.drop_append, ← List.map_drop]
    apply readString_map_some_append
    rw [List.drop_replicate]
    exact readString_replicate_none _
  · rw [if_neg hle]
    obtain ⟨more, hmore⟩ := Nat.exists_eq_add_of_lt (Nat.lt_of_not_le hle)
    rw [List.append_assoc, List.drop_append, List.drop_replicate, hmore]
    have hsub : offset + more + 1 - offset = more + 1 := by omega
    rw [hsub, List.replicate_succ]
    rfl

theorem padded_length (text : CString) (bound : ℕ) :
    (padded text bound).length = bound := by
  simp [padded]
  omega

/-- A block with one string copied over it. -/
def overwritten (cells : Cells) (offset : ℕ) (text : CString) (bound : ℕ) :
    Cells :=
  cells.take offset ++ padded text bound ++ cells.drop (offset + bound)

theorem writeString_of_le
    {cells : Cells} {offset bound : ℕ} (text : CString)
    (hfits : offset + bound ≤ cells.length) :
    cells.writeString offset text bound =
      some (cells.overwritten offset text bound) :=
  if_pos hfits

theorem overwritten_length
    {cells : Cells} {offset bound : ℕ} (text : CString)
    (hfits : offset + bound ≤ cells.length) :
    (cells.overwritten offset text bound).length = cells.length := by
  simp only [overwritten, List.length_append, List.length_take,
    List.length_drop, padded_length]
  omega

/-- The second of two copies to one place is what stays. -/
theorem overwritten_overwritten
    {cells : Cells} {offset bound : ℕ} (first second : CString)
    (hfits : offset + bound ≤ cells.length) :
    (cells.overwritten offset first bound).overwritten offset second bound =
      cells.overwritten offset second bound := by
  have htake : (cells.take offset).length = offset := by
    rw [List.length_take]
    omega
  have hhead :
      (cells.overwritten offset first bound).take offset =
        cells.take offset := by
    rw [overwritten, List.append_assoc, List.take_left' htake]
  have htail :
      (cells.overwritten offset first bound).drop (offset + bound) =
        cells.drop (offset + bound) := by
    rw [overwritten, List.drop_left']
    rw [List.length_append, htake, padded_length]
  rw [overwritten, hhead, htail, overwritten]

/-- What is read from a zeroed block with one string in it. -/
theorem readString_drop_overwritten
    {size offset bound : ℕ} (position : ℕ) (text : CString)
    (hfits : offset + bound ≤ size) :
    readString
        ((overwritten (List.replicate size none) offset text bound).drop
          position) =
      if offset ≤ position then
        (strncpy text bound).drop (position - offset)
      else [] := by
  have hblock :
      overwritten (List.replicate size none) offset text bound =
        List.replicate offset none ++ (strncpy text bound).map some ++
          List.replicate (bound - text.length + (size - (offset + bound)))
            none := by
    have hmin : min offset size = offset := by omega
    rw [overwritten, padded, List.take_replicate, List.drop_replicate, hmin,
      List.replicate_add]
    simp only [List.append_assoc]
  rw [hblock, readString_drop_block]

end Cells

end CString

import EziotSdk.BscJsonRoundTrip
import EziotSdk.DasFrames

/-!
# Frames of the DAS with the JSON library of the kernel

The header of a frame is printed and parsed by `bscJSON.c`.  The parser is run
on the whole decrypted payload behind the length, so the body follows the
header in its text.
-/

namespace BscJson

end BscJson

namespace EziotSdk

/-- The characters stand for bytes other than NUL. -/
def IsByteText (text : CString) : Prop :=
  ∀ char ∈ text, char ≠ '\x00' ∧ char.toNat < 256

instance (text : CString) : Decidable (IsByteText text) :=
  List.decidableBAll (fun char => char ≠ '\x00' ∧ char.toNat < 256) text

namespace IsByteText

theorem append {left right : CString} (hleft : IsByteText left)
    (hright : IsByteText right) : IsByteText (left ++ right) := by
  intro char hchar
  rcases List.mem_append.mp hchar with hmem | hmem
  · exact hleft char hmem
  · exact hright char hmem

theorem printChar {char : Char} (hchar : char ≠ '\x00' ∧ char.toNat < 256) :
    IsByteText (BscJson.printChar char) := by
  have hcontrol : ∀ code < 32, IsByteText ['\\', 'u', '0', '0',
      Nat.digitChar (code / 16), Nat.digitChar (code % 16)] := by decide
  unfold BscJson.printChar
  split_ifs with _ _ _ _ _ _ _ hlow
  · decide
  · decide
  · decide
  · decide
  · decide
  · decide
  · decide
  · exact hcontrol char.toNat hlow
  · intro own hown
    rw [List.mem_singleton.mp hown]
    exact hchar

theorem printStringPtr {text : CString} (htext : IsByteText text) :
    IsByteText (BscJson.printStringPtr text) := by
  have hbody : IsByteText (text.flatMap BscJson.printChar) := by
    intro char hchar
    rcases List.mem_flatMap.mp hchar with ⟨own, hown, hprinted⟩
    exact printChar (htext own hown) char hprinted
  have hquote : IsByteText ['"'] := by decide
  exact append (append hquote hbody) hquote

theorem printNumber {value : ℚ} {text : CString}
    (hprint : BscJson.printNumber value = some text) : IsByteText text := by
  rcases BscJson.printNumber_eq_text hprint with ⟨decimal, hformed, rfl, -⟩
  intro char hchar
  have hnumber := hformed.isNumberChar char hchar
  simp only [BscJson.isNumberChar, Bool.or_eq_true, beq_iff_eq] at hnumber
  rcases hnumber with ((((hdigit | rfl) | rfl) | rfl) | rfl) | rfl
  · have hbounds := BscJson.isDigit_toNat hdigit
    refine ⟨?_, by omega⟩
    rintro rfl
    exact absurd hbounds.1 (by decide)
  · decide
  · decide
  · decide
  · decide
  · decide

end IsByteText

end EziotSdk

import EziotSdk.AseSupport

/-!
# Accesses to a buffer

What a function does to the memory it parses: the ranges it touches, and the
lengths it computes beside the numbers that they should be.
-/

namespace EziotSdk

/-- A read or a copy of `count` bytes from `offset` on. -/
structure Access where
  offset : ℕ
  count : ℕ
  deriving DecidableEq, Repr

def Access.Within (access : Access) (size : ℕ) : Prop :=
  access.offset + access.count ≤ size

instance (access : Access) (size : ℕ) : Decidable (access.Within size) :=
  inferInstanceAs (Decidable (_ ≤ size))

/-- A length as it is computed in a machine integer, and its true value. -/
structure DerivedLength where
  computed : ℕ
  actual : ℤ
  deriving DecidableEq, Repr

def DerivedLength.Exact (length : DerivedLength) : Prop :=
  length.computed = length.actual

instance (length : DerivedLength) : Decidable length.Exact :=
  inferInstanceAs (Decidable (_ = _))

structure BufferTrace where
  accesses : List Access
  lengths : List DerivedLength
  deriving DecidableEq, Repr

/-- Every access stays inside a buffer of the given size, and every length is
what it should be. -/
structure BufferTrace.Sound (trace : BufferTrace) (size : ℕ) : Prop where
  within : ∀ access ∈ trace.accesses, access.Within size
  exact : ∀ length ∈ trace.lengths, length.Exact

/-- The least that `strlen` reads of a text at `offset`: it goes on to the
first NUL, and past the end of the data where there is none. -/
def strlenAccess (data : Bytes) (offset : ℕ) : Access :=
  ⟨offset, ((data.drop offset).takeWhile (· ≠ 0)).length + 1⟩

theorem length_takeWhile_lt_iff (data : Bytes) (size : ℕ) :
    (data.takeWhile (· ≠ 0)).length < size ∧
        (data.takeWhile (· ≠ 0)).length < data.length ↔
      0 ∈ data.take size := by
  induction data generalizing size with
  | nil => simp
  | cons byte data ih =>
      cases size with
      | zero => simp
      | succ size =>
          by_cases hzero : byte = 0
          · simp [hzero]
          · have hother : ¬ 0 = byte := fun heq => hzero heq.symm
            have hkeep : (byte :: data).takeWhile (· ≠ 0) =
                byte :: data.takeWhile (· ≠ 0) :=
              List.takeWhile_cons_of_pos (decide_eq_true hzero)
            rw [hkeep, List.take_succ_cons, List.mem_cons,
              or_iff_right hother, ← ih size, List.length_cons,
              List.length_cons]
            omega

/-- A text is read inside the first `size` bytes if and only if it ends in a
NUL there. -/
theorem strlenAccess_within_iff
    {data : Bytes} {offset size : ℕ} (hoffset : offset ≤ size)
    (hsize : size ≤ data.length) :
    (strlenAccess data offset).Within size ↔
      0 ∈ (data.take size).drop offset := by
  have hdrop : (data.take size).drop offset =
      (data.drop offset).take (size - offset) := List.drop_take
  rw [hdrop, ← length_takeWhile_lt_iff, List.length_drop]
  change offset + (((data.drop offset).takeWhile _).length + 1) ≤ size ↔ _
  omega

end EziotSdk

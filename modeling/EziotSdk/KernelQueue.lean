import EziotSdk.KernelDefs

/-!
# The bounded queues of the kernel

The queue macros of `ezdev_sdk_kerne_queuel.h` keep a linked list and two
16-bit counters under a lock.  The list is given by its messages from head to
tail; that `size` counts them and stays below `maxsize` is part of the type.
Each push needs one element from the heap, and the outcome of that allocation
is an argument.
-/

namespace EziotSdk

structure KernelQueue (Msg : Type*) where
  maxsize : ℕ
  size : ℕ
  items : List Msg
  size_eq : size = items.length
  size_le : size ≤ maxsize
  maxsize_lt : maxsize < 2 ^ 16
  deriving DecidableEq

namespace KernelQueue

variable {Msg : Type*}

/-- `init_queue_MSGTYPE`; the argument is a 16-bit integer. -/
def init (maxsize : Fin (2 ^ 16)) : KernelQueue Msg where
  maxsize := maxsize
  size := 0
  items := []
  size_eq := rfl
  size_le := Nat.zero_le _
  maxsize_lt := maxsize.isLt

/-- The test that makes a push return `mkernel_internal_queue_full`. -/
def Full (queue : KernelQueue Msg) : Prop :=
  queue.maxsize ≤ queue.size

instance (queue : KernelQueue Msg) : Decidable queue.Full :=
  inferInstanceAs (Decidable (queue.maxsize ≤ queue.size))

/-- The queue with one more message; `size++` does not wrap. -/
def grow (queue : KernelQueue Msg) (hroom : ¬ queue.Full)
    (items : List Msg) (hitems : items.length = queue.items.length + 1) :
    KernelQueue Msg where
  maxsize := queue.maxsize
  size := queue.size + 1
  items := items
  size_eq := by rw [hitems, queue.size_eq]
  size_le := Nat.lt_of_not_ge hroom
  maxsize_lt := queue.maxsize_lt

def push (queue : KernelQueue Msg) (message : Msg) (allocated : Bool) :
    MkernelInternalError × KernelQueue Msg :=
  if hfull : queue.Full then (.queueFull, queue)
  else if allocated then
    (.succ, queue.grow hfull (queue.items ++ [message]) (by simp))
  else (.mallocError, queue)

def pushHead (queue : KernelQueue Msg) (message : Msg) (allocated : Bool) :
    MkernelInternalError × KernelQueue Msg :=
  if hfull : queue.Full then (.queueFull, queue)
  else if allocated then
    (.succ, queue.grow hfull (message :: queue.items) (by simp))
  else (.mallocError, queue)

/-- The queue after its first message was unlinked: an empty list resets
`size`, otherwise `size--`. -/
def unlink (queue : KernelQueue Msg) (rest : List Msg)
    (hrest : queue.items.length = rest.length + 1) : KernelQueue Msg where
  maxsize := queue.maxsize
  size := if rest = [] then 0 else queue.size - 1
  items := rest
  size_eq := by
    have hsize := queue.size_eq
    split
    · next hnil => simp [hnil]
    · omega
  size_le := by
    have hle := queue.size_le
    split <;> omega
  maxsize_lt := queue.maxsize_lt

def pop (queue : KernelQueue Msg) :
    Except MkernelInternalError (Msg × KernelQueue Msg) :=
  match hitems : queue.items with
  | [] => .error .queueEmpty
  | message :: rest => .ok (message, queue.unlink rest (by simp [hitems]))

@[simp] theorem init_items (maxsize : Fin (2 ^ 16)) :
    (init maxsize : KernelQueue Msg).items = [] := rfl

/-- What a push at the tail does. -/
theorem push_cases (queue : KernelQueue Msg) (message : Msg)
    (allocated : Bool) :
    ((queue.push message allocated).1 = .succ ∧
      (queue.push message allocated).2.items = queue.items ++ [message] ∧
      ¬ queue.Full ∧ allocated = true) ∨
    ((queue.push message allocated).1 ≠ .succ ∧
      (queue.push message allocated).2 = queue ∧
      (queue.Full ∨ allocated = false)) := by
  unfold push
  by_cases hfull : queue.Full
  · simp [hfull]
  · cases allocated <;> simp [hfull, grow]

/-- What a push at the head does. -/
theorem pushHead_cases (queue : KernelQueue Msg) (message : Msg)
    (allocated : Bool) :
    ((queue.pushHead message allocated).1 = .succ ∧
      (queue.pushHead message allocated).2.items = message :: queue.items ∧
      ¬ queue.Full ∧ allocated = true) ∨
    ((queue.pushHead message allocated).1 ≠ .succ ∧
      (queue.pushHead message allocated).2 = queue ∧
      (queue.Full ∨ allocated = false)) := by
  unfold pushHead
  by_cases hfull : queue.Full
  · simp [hfull]
  · cases allocated <;> simp [hfull, grow]

theorem pop_eq_error_iff (queue : KernelQueue Msg)
    (error : MkernelInternalError) :
    queue.pop = .error error ↔ queue.items = [] ∧ error = .queueEmpty := by
  unfold pop
  split
  · next hitems => simp [hitems, eq_comm]
  · next message rest hitems => simp [hitems]

theorem items_of_pop {queue next : KernelQueue Msg} {message : Msg}
    (hpop : queue.pop = .ok (message, next)) :
    queue.items = message :: next.items := by
  unfold pop at hpop
  split at hpop
  · simp at hpop
  · next first rest hitems =>
      simp only [Except.ok.injEq, Prod.mk.injEq] at hpop
      rcases hpop with ⟨rfl, rfl⟩
      simpa [unlink] using hitems

end KernelQueue

end EziotSdk

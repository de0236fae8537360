import EziotSdk.KernelQueue
import EziotSdk.LinkedChain

/-!
# The queue macros on the heap

`QUEUE_PUSH`, `QUEUE_PUSH_HEAD`, `QUEUE_POP` and `QUEUE_GET` as they are
written: elements on the heap, the pointers `head` and `tail`, and a 16-bit
`size`.  They refine the queue that is given by its messages, and a bounded
FIFO of the elements.
-/

namespace EziotSdk

/-- `queque_MSGTYPE` with the elements it has on the heap. -/
structure QueueMemory (Msg : Type*) where
  heap : CellHeap ℕ Msg
  maxsize : ℕ
  size : ℕ
  head : Option ℕ
  tail : Option ℕ

/-- The operations; a push comes with the address that the allocator has for
the element, `none` where it has no memory. -/
inductive QueueOp (Msg : Type*) where
  | push (submsg : Msg) (memory : Option ℕ)
  | pushHead (submsg : Msg) (memory : Option ℕ)
  | pop
  | get

/-- The code an operation returns, and the message it hands out. -/
abbrev QueueOutcome (Msg : Type*) := MkernelInternalError × Option Msg

namespace QueueMemory

variable {Msg : Type*}

def init (maxsize : Fin (2 ^ 16)) : QueueMemory Msg where
  heap := fun _ => none
  maxsize := maxsize
  size := 0
  head := none
  tail := none

/-- An allocator hands out no address that is in use. -/
def malloc (memory : Option ℕ) (queue : QueueMemory Msg) : Option ℕ :=
  memory.filter fun address => (queue.heap address).isNone

/-- `QUEUE_PUSH`; `none` is an access through a dangling pointer. -/
def push (submsg : Msg) (memory : Option ℕ) (queue : QueueMemory Msg) :
    Option (QueueOutcome Msg × QueueMemory Msg) :=
  if queue.maxsize ≤ queue.size then some ((.queueFull, none), queue)
  else
    match queue.malloc memory with
    | none => some ((.mallocError, none), queue)
    | some element =>
        let heap := queue.heap.store element ⟨submsg, none⟩
        let size := (queue.size + 1) % 2 ^ 16
        match queue.tail, queue.head with
        | some tail, some head =>
            (heap tail).map fun last =>
              ((.succ, none),
                { heap := heap.store tail { last with next := some element }
                  maxsize := queue.maxsize
                  size := size
                  head := some head
                  tail := some element })
        | _, _ =>
            some ((.succ, none),
              { heap := heap
                maxsize := queue.maxsize
                size := size
                head := some element
                tail := some element })

/-- `QUEUE_PUSH_HEAD`. -/
def pushHead (submsg : Msg) (memory : Option ℕ) (queue : QueueMemory Msg) :
    Option (QueueOutcome Msg × QueueMemory Msg) :=
  if queue.maxsize ≤ queue.size then some ((.queueFull, none), queue)
  else
    match queue.malloc memory with
    | none => some ((.mallocError, none), queue)
    | some element =>
        let size := (queue.size + 1) % 2 ^ 16
        match queue.tail, queue.head with
        | some tail, some head =>
            some ((.succ, none),
              { heap := queue.heap.store element ⟨submsg, some head⟩
                maxsize := queue.maxsize
                size := size
                head := some element
                tail := some tail })
        | _, _ =>
            some ((.succ, none),
              { heap := queue.heap.store element ⟨submsg, none⟩
                maxsize := queue.maxsize
                size := size
                head := some element
                tail := some element })

/-- `QUEUE_POP`. -/
def pop (queue : QueueMemory Msg) :
    Option (QueueOutcome Msg × QueueMemory Msg) :=
  match queue.head with
  | none =>
      some ((.queueEmpty, none), { queue with tail := none, size := 0 })
  | some element =>
      (queue.heap element).map fun first =>
        ((.succ, some first.value),
          { heap := queue.heap.free element
            maxsize := queue.maxsize
            size := if first.next = none then 0
              else (queue.size + (2 ^ 16 - 1)) % 2 ^ 16
            head := first.next
            tail := if first.next = none then none else queue.tail })

/-- `QUEUE_GET`. -/
def get (queue : QueueMemory Msg) :
    Option (QueueOutcome Msg × QueueMemory Msg) :=
  match queue.head with
  | none =>
      some ((.queueEmpty, none), { queue with tail := none, size := 0 })
  | some element =>
      (queue.heap element).map fun first => ((.succ, some first.value), queue)

def perform (queue : QueueMemory Msg) :
    QueueOp Msg → Option (QueueOutcome Msg × QueueMemory Msg)
  | .push submsg memory => queue.push submsg memory
  | .pushHead submsg memory => queue.pushHead submsg memory
  | .pop => queue.pop
  | .get => queue.get

/-- A sequence of operations: what each answers, and the queue that is
left. -/
def run (queue : QueueMemory Msg) :
    List (QueueOp Msg) → Option (List (QueueOutcome Msg) × QueueMemory Msg)
  | [] => some ([], queue)
  | op :: rest =>
      (queue.perform op).bind fun performed =>
        (performed.2.run rest).map fun ran =>
          (performed.1 :: ran.1, ran.2)

end QueueMemory

/-! ## The bounded FIFO -/

/-- The allocator has this address for an element, and no item has it. -/
def UsableFor {Msg : Type*} (items : List (ℕ × Msg)) (memory : Option ℕ)
    (element : ℕ) : Prop :=
  memory = some element ∧ element ∉ items.map Prod.fst

/-- What a FIFO of the capacity may do: the messages before and after an
operation, each with the address of its element, and the answer.  A push is
refused by a full FIFO, and by an allocator that has no element for it. -/
inductive FifoStep {Msg : Type*} (capacity : ℕ) :
    List (ℕ × Msg) → QueueOp Msg → QueueOutcome Msg → List (ℕ × Msg) → Prop
  | pushed {items submsg memory element} (hroom : items.length < capacity)
      (husable : UsableFor items memory element) :
      FifoStep capacity items (.push submsg memory) (.succ, none)
        (items ++ [(element, submsg)])
  | pushedHead {items submsg memory element}
      (hroom : items.length < capacity)
      (husable : UsableFor items memory element) :
      FifoStep capacity items (.pushHead submsg memory) (.succ, none)
        ((element, submsg) :: items)
  | pushFull {items submsg memory} (hfull : items.length = capacity) :
      FifoStep capacity items (.push submsg memory) (.queueFull, none) items
  | pushHeadFull {items submsg memory} (hfull : items.length = capacity) :
      FifoStep capacity items (.pushHead submsg memory) (.queueFull, none)
        items
  | pushFailed {items submsg memory} (hroom : items.length < capacity)
      (hnone : ∀ element, ¬ UsableFor items memory element) :
      FifoStep capacity items (.push submsg memory) (.mallocError, none) items
  | pushHeadFailed {items submsg memory} (hroom : items.length < capacity)
      (hnone : ∀ element, ¬ UsableFor items memory element) :
      FifoStep capacity items (.pushHead submsg memory) (.mallocError, none)
        items
  | popped {items element submsg} :
      FifoStep capacity ((element, submsg) :: items) .pop
        (.succ, some submsg) items
  | got {items element submsg} :
      FifoStep capacity ((element, submsg) :: items) .get
        (.succ, some submsg) ((element, submsg) :: items)
  | popEmpty : FifoStep capacity [] .pop (.queueEmpty, none) []
  | getEmpty : FifoStep capacity [] .get (.queueEmpty, none) []

inductive FifoRun {Msg : Type*} (capacity : ℕ) :
    List (ℕ × Msg) → List (QueueOp Msg) → List (QueueOutcome Msg) →
      List (ℕ × Msg) → Prop
  | nil {items} : FifoRun capacity items [] [] items
  | cons {items middle last op ops outcome outcomes}
      (hstep : FifoStep capacity items op outcome middle)
      (hrun : FifoRun capacity middle ops outcomes last) :
      FifoRun capacity items (op :: ops) (outcome :: outcomes) last

/-! ## The queue of messages -/

namespace KernelQueue

variable {Msg : Type*}

/-- `QUEUE_GET`. -/
def get (queue : KernelQueue Msg) : Except MkernelInternalError Msg :=
  match queue.items with
  | [] => .error .queueEmpty
  | message :: _ => .ok message

/-- An operation, with the outcome of the allocation it may need. -/
def perform (queue : KernelQueue Msg) (allocated : Bool) :
    QueueOp Msg → QueueOutcome Msg × KernelQueue Msg
  | .push submsg _ =>
      let pushed := queue.push submsg allocated
      ((pushed.1, none), pushed.2)
  | .pushHead submsg _ =>
      let pushed := queue.pushHead submsg allocated
      ((pushed.1, none), pushed.2)
  | .pop =>
      match queue.pop with
      | .error error => ((error, none), queue)
      | .ok popped => ((.succ, some popped.1), popped.2)
  | .get =>
      match queue.get with
      | .error error => ((error, none), queue)
      | .ok message => ((.succ, some message), queue)

theorem full_iff (queue : KernelQueue Msg) :
    queue.Full ↔ queue.items.length = queue.maxsize := by
  have hsize := queue.size_eq
  have hle := queue.size_le
  unfold Full
  omega

theorem length_lt_of_not_full {queue : KernelQueue Msg}
    (hroom : ¬ queue.Full) : queue.items.length < queue.maxsize := by
  have hsize := queue.size_eq
  unfold Full at hroom
  omega

theorem maxsize_of_pop {queue next : KernelQueue Msg} {message : Msg}
    (hpop : queue.pop = .ok (message, next)) :
    next.maxsize = queue.maxsize := by
  unfold pop at hpop
  split at hpop
  · cases hpop
  · cases hpop
    rfl

theorem perform_maxsize (queue : KernelQueue Msg) (allocated : Bool)
    (op : QueueOp Msg) :
    (queue.perform allocated op).2.maxsize = queue.maxsize := by
  cases op with
  | push submsg memory =>
      unfold perform push
      split_ifs <;> rfl
  | pushHead submsg memory =>
      unfold perform pushHead
      split_ifs <;> rfl
  | pop =>
      simp only [perform]
      cases hpop : queue.pop with
      | error error => rfl
      | ok popped => exact maxsize_of_pop hpop
  | get =>
      simp only [perform]
      cases queue.get <;> rfl

end KernelQueue

/-! ## The macros refine the queue of messages -/

namespace QueueMemory

variable {Msg : Type*}

/-- The linked elements hold the messages and are all that is in use, and the
fields agree. -/
structure Abstracts (memory : QueueMemory Msg) (queue : KernelQueue Msg)
    (nodes : List (ℕ × Msg)) : Prop where
  linked : memory.heap.Linked memory.head memory.tail nodes
  used : ∀ address,
    memory.heap address = none ↔ address ∉ nodes.map Prod.fst
  items : nodes.map Prod.snd = queue.items
  size : memory.size = queue.size
  maxsize : memory.maxsize = queue.maxsize

theorem abstracts_init (maxsize : Fin (2 ^ 16)) :
    (init maxsize : QueueMemory Msg).Abstracts (KernelQueue.init maxsize) []
    where
  linked := CellHeap.linked_nil _
  used := fun _ => iff_of_true rfl List.not_mem_nil
  items := rfl
  size := rfl
  maxsize := rfl

theorem Abstracts.full_iff {memory : QueueMemory Msg}
    {queue : KernelQueue Msg} {nodes : List (ℕ × Msg)}
    (habstracts : memory.Abstracts queue nodes) :
    memory.maxsize ≤ memory.size ↔ queue.Full := by
  rw [habstracts.maxsize, habstracts.size]
  exact Iff.rfl

theorem Abstracts.length {memory : QueueMemory Msg}
    {queue : KernelQueue Msg} {nodes : List (ℕ × Msg)}
    (habstracts : memory.Abstracts queue nodes) :
    nodes.length = queue.items.length := by
  rw [← habstracts.items, List.length_map]

theorem Abstracts.malloc_iff {memory : QueueMemory Msg}
    {queue : KernelQueue Msg} {nodes : List (ℕ × Msg)}
    (habstracts : memory.Abstracts queue nodes) (wanted : Option ℕ)
    (element : ℕ) :
    memory.malloc wanted = some element ↔
      UsableFor nodes wanted element := by
  unfold malloc UsableFor
  rw [Option.filter_eq_some_iff, Option.isNone_iff_eq_none, habstracts.used]

/-- An operation of the macros is one of the queue that they describe, and one
of the FIFO of their elements. -/
def Simulates (memory : QueueMemory Msg) (queue : KernelQueue Msg)
    (nodes : List (ℕ × Msg)) (op : QueueOp Msg) : Prop :=
  ∃ allocated next after,
    memory.perform op = some ((queue.perform allocated op).1, next) ∧
      FifoStep queue.maxsize nodes op (queue.perform allocated op).1 after ∧
        next.Abstracts (queue.perform allocated op).2 after

theorem Abstracts.push_full {memory : QueueMemory Msg}
    {queue : KernelQueue Msg} {nodes : List (ℕ × Msg)}
    (habstracts : memory.Abstracts queue nodes) (hroom : queue.Full)
    (submsg : Msg) (wanted : Option ℕ) :
    memory.Simulates queue nodes (.push submsg wanted) ∧
      memory.Simulates queue nodes (.pushHead submsg wanted) := by
  have hfull := habstracts.full_iff
  have hlength : nodes.length = queue.maxsize :=
    habstracts.length.trans (queue.full_iff.mp hroom)
  constructor
  · refine ⟨false, memory, nodes, ?_, ?_, ?_⟩
    · simp [perform, push, KernelQueue.perform, KernelQueue.push, hfull,
        hroom]
    · simpa [KernelQueue.perform, KernelQueue.push, hroom] using
        FifoStep.pushFull hlength
    · simpa [KernelQueue.perform, KernelQueue.push, hroom] using habstracts
  · refine ⟨false, memory, nodes, ?_, ?_, ?_⟩
    · simp [perform, pushHead, KernelQueue.perform, KernelQueue.pushHead,
        hfull, hroom]
    · simpa [KernelQueue.perform, KernelQueue.pushHead, hroom] using
        FifoStep.pushHeadFull hlength
    · simpa [KernelQueue.perform, KernelQueue.pushHead, hroom] using
        habstracts

theorem Abstracts.push_failed {memory : QueueMemory Msg}
    {queue : KernelQueue Msg} {nodes : List (ℕ × Msg)}
    (habstracts : memory.Abstracts queue nodes) (hroom : ¬ queue.Full)
    (submsg : Msg) {wanted : Option ℕ}
    (hfailed : memory.malloc wanted = none) :
    memory.Simulates queue nodes (.push submsg wanted) ∧
      memory.Simulates queue nodes (.pushHead submsg wanted) := by
  have hfull := habstracts.full_iff
  have hlength : nodes.length < queue.maxsize := by
    rw [habstracts.length]
    exact KernelQueue.length_lt_of_not_full hroom
  have hnone : ∀ element, ¬ UsableFor nodes wanted element := by
    intro element husable
    rw [← habstracts.malloc_iff, hfailed] at husable
    cases husable
  constructor
  · refine ⟨false, memory, nodes, ?_, ?_, ?_⟩
    · simp [perform, push, KernelQueue.perform, KernelQueue.push, hfull,
        hroom, hfailed]
    · simpa [KernelQueue.perform, KernelQueue.push, hroom] using
        FifoStep.pushFailed hlength hnone
    · simpa [KernelQueue.perform, KernelQueue.push, hroom] using habstracts
  · refine ⟨false, memory, nodes, ?_, ?_, ?_⟩
    · simp [perform, pushHead, KernelQueue.perform, KernelQueue.pushHead,
        hfull, hroom, hfailed]
    · simpa [KernelQueue.perform, KernelQueue.pushHead, hroom] using
        FifoStep.pushHeadFailed hlength hnone
    · simpa [KernelQueue.perform, KernelQueue.pushHead, hroom] using
        habstracts

/-- The counter of a queue with room does not wrap. -/
theorem Abstracts.size_succ {memory : QueueMemory Msg}
    {queue : KernelQueue Msg} {nodes : List (ℕ × Msg)}
    (habstracts : memory.Abstracts queue nodes) (hroom : ¬ queue.Full) :
    (memory.size + 1) % 2 ^ 16 = queue.size + 1 := by
  have hsize := habstracts.size
  have hmaxsize := queue.maxsize_lt
  unfold KernelQueue.Full at hroom
  omega

theorem Abstracts.empty {memory : QueueMemory Msg} {queue : KernelQueue Msg}
    (habstracts : memory.Abstracts queue []) :
    memory.head = none ∧ memory.tail = none ∧ queue.items = [] :=
  ⟨habstracts.linked.chain, habstracts.linked.tail, habstracts.items.symm⟩

/-- Of a queue that is not empty both pointers are set. -/
theorem Abstracts.nonempty {memory : QueueMemory Msg}
    {queue : KernelQueue Msg} {node : ℕ × Msg} {rest : List (ℕ × Msg)}
    (habstracts : memory.Abstracts queue (node :: rest)) :
    memory.head = some node.1 ∧ ∃ tail, memory.tail = some tail := by
  have htail := habstracts.linked.tail
  rw [List.getLast?_cons, Option.map_some] at htail
  exact ⟨habstracts.linked.chain.1, _, htail⟩

theorem Abstracts.push {memory : QueueMemory Msg} {queue : KernelQueue Msg}
    {nodes : List (ℕ × Msg)} (habstracts : memory.Abstracts queue nodes)
    (submsg : Msg) (wanted : Option ℕ) :
    memory.Simulates queue nodes (.push submsg wanted) := by
  by_cases hroom : queue.Full
  · exact (habstracts.push_full hroom submsg wanted).1
  cases hmalloc : memory.malloc wanted with
  | none => exact (habstracts.push_failed hroom submsg hmalloc).1
  | some element =>
      have husable := (habstracts.malloc_iff wanted element).mp hmalloc
      have hunused := (habstracts.used element).mpr husable.2
      have hlength : nodes.length < queue.maxsize := by
        rw [habstracts.length]
        exact KernelQueue.length_lt_of_not_full hroom
      have hfull : ¬ memory.maxsize ≤ memory.size :=
        fun hle => hroom (habstracts.full_iff.mp hle)
      have hsize := habstracts.size_succ hroom
      have hpushed : queue.push submsg true =
          (.succ, queue.grow hroom (queue.items ++ [submsg]) (by simp)) := by
        simp [KernelQueue.push, hroom]
      unfold Simulates
      refine ⟨true, ?_⟩
      simp only [KernelQueue.perform, hpushed, perform, QueueMemory.push,
        if_neg hfull, hmalloc]
      cases nodes with
      | nil =>
          obtain ⟨hhead, htail, hitems⟩ := habstracts.empty
          rw [hhead, htail]
          refine ⟨_, [(element, submsg)], rfl, .pushed hlength husable, ?_, ?_,
            ?_, hsize, habstracts.maxsize⟩
          · exact CellHeap.linked_singleton memory.heap element submsg
          · intro address
            rw [CellHeap.store_eq_none_iff, habstracts.used]
            simp
          · simp [KernelQueue.grow, hitems]
      | cons node rest =>
          obtain ⟨hhead, tail, htail⟩ := habstracts.nonempty
          have hlinked := habstracts.linked
          rw [htail] at hlinked
          obtain ⟨last, hlast, hnext⟩ := hlinked.pushTail hunused submsg
          have hne : tail ≠ element := by
            intro hsame
            rw [hsame, hunused] at hlast
            cases hlast
          rw [hhead] at hnext
          rw [hhead, htail]
          simp only [CellHeap.store_of_ne _ _ hne, hlast, Option.map_some]
          refine ⟨_, _, rfl, .pushed hlength husable, hnext, ?_, ?_, hsize,
            habstracts.maxsize⟩
          · intro address
            have hold := habstracts.used address
            have hother : memory.heap address = none → address ≠ tail := by
              intro hnull hsame
              rw [hsame, hlast] at hnull
              cases hnull
            simp only [CellHeap.store_eq_none_iff, List.map_append,
              List.mem_append, List.map_singleton, List.mem_singleton, not_or]
            tauto
          · rw [List.map_append, habstracts.items]
            rfl

theorem Abstracts.pushHead {memory : QueueMemory Msg}
    {queue : KernelQueue Msg} {nodes : List (ℕ × Msg)}
    (habstracts : memory.Abstracts queue nodes) (submsg : Msg)
    (wanted : Option ℕ) :
    memory.Simulates queue nodes (.pushHead submsg wanted) := by
  by_cases hroom : queue.Full
  · exact (habstracts.push_full hroom submsg wanted).2
  cases hmalloc : memory.malloc wanted with
  | none => exact (habstracts.push_failed hroom submsg hmalloc).2
  | some element =>
      have husable := (habstracts.malloc_iff wanted element).mp hmalloc
      have hunused := (habstracts.used element).mpr husable.2
      have hlength : nodes.length < queue.maxsize := by
        rw [habstracts.length]
        exact KernelQueue.length_lt_of_not_full hroom
      have hfull : ¬ memory.maxsize ≤ memory.size :=
        fun hle => hroom (habstracts.full_iff.mp hle)
      have hsize := habstracts.size_succ hroom
      have hpushed : queue.pushHead submsg true =
          (.succ, queue.grow hroom (submsg :: queue.items) (by simp)) := by
        simp [KernelQueue.pushHead, hroom]
      have hused : ∀ (cell : Cell ℕ Msg) (address : ℕ),
          memory.heap.store element cell address = none ↔
            address ∉ ((element, submsg) :: nodes).map Prod.fst := by
        intro cell address
        rw [CellHeap.store_eq_none_iff, habstracts.used, List.map_cons,
          List.mem_cons, not_or]
      unfold Simulates
      refine ⟨true, ?_⟩
      simp only [KernelQueue.perform, hpushed, perform, QueueMemory.pushHead,
        if_neg hfull, hmalloc]
      cases nodes with
      | nil =>
          obtain ⟨hhead, htail, hitems⟩ := habstracts.empty
          rw [hhead, htail]
          refine ⟨_, [(element, submsg)], rfl, .pushedHead hlength husable,
            ?_, hused _, ?_, hsize, habstracts.maxsize⟩
          · exact CellHeap.linked_singleton memory.heap element submsg
          · simp [KernelQueue.grow, hitems]
      | cons node rest =>
          obtain ⟨hhead, tail, htail⟩ := habstracts.nonempty
          have hnext := habstracts.linked.pushHead (List.cons_ne_nil _ _)
            hunused submsg
          rw [hhead, htail] at hnext
          rw [hhead, htail]
          refine ⟨_, _, rfl, .pushedHead hlength husable, hnext, hused _, ?_,
            hsize, habstracts.maxsize⟩
          rw [List.map_cons, habstracts.items]
          rfl

/-- On an empty queue `pop` and `get` only reset what is reset already. -/
theorem Abstracts.reset {memory : QueueMemory Msg} {queue : KernelQueue Msg}
    (habstracts : memory.Abstracts queue []) :
    ({ memory with
      head := none
      tail := none
      size := 0 } : QueueMemory Msg).Abstracts queue [] := by
  refine ⟨CellHeap.linked_nil memory.heap, habstracts.used,
    habstracts.items, ?_, habstracts.maxsize⟩
  rw [queue.size_eq, habstracts.empty.2.2]
  rfl

theorem Abstracts.pop {memory : QueueMemory Msg} {queue : KernelQueue Msg}
    {nodes : List (ℕ × Msg)} (habstracts : memory.Abstracts queue nodes) :
    memory.Simulates queue nodes .pop := by
  refine ⟨true, ?_⟩
  cases nodes with
  | nil =>
      obtain ⟨hhead, htail, hitems⟩ := habstracts.empty
      have hpop : queue.pop = .error .queueEmpty :=
        (queue.pop_eq_error_iff _).mpr ⟨hitems, rfl⟩
      simp only [KernelQueue.perform, hpop, perform, QueueMemory.pop, hhead]
      exact ⟨_, [], rfl, .popEmpty, habstracts.reset⟩
  | cons node rest =>
      obtain ⟨hhead, tail, htail⟩ := habstracts.nonempty
      obtain ⟨next, hcell, hlinked⟩ := habstracts.linked.pop
      have hitems := habstracts.items
      cases hpop : queue.pop with
      | error error =>
          have hnil := ((queue.pop_eq_error_iff error).mp hpop).1
          rw [hnil] at hitems
          cases hitems
      | ok popped =>
          have hunlinked := KernelQueue.items_of_pop hpop
          rw [hunlinked, List.map_cons, List.cons.injEq] at hitems
          simp only [KernelQueue.perform, hpop, perform, QueueMemory.pop,
            hhead, hcell, Option.map_some]
          refine ⟨_, rest, by rw [hitems.1], ?_, hlinked, ?_, hitems.2, ?_,
            ?_⟩
          · rw [← hitems.1]
            exact .popped
          · intro address
            have hold := habstracts.used address
            have hfirst := habstracts.linked.nodup
            rw [List.map_cons, List.nodup_cons] at hfirst
            rw [CellHeap.free_eq_none_iff, hold, List.map_cons,
              List.mem_cons]
            by_cases hsame : address = node.1
            · simp [hsame, hfirst.1]
            · simp [hsame]
          · have hold := queue.size_eq
            have hnew := popped.2.size_eq
            have hmemory := habstracts.size
            have hle := queue.size_le
            have hmaxsize := queue.maxsize_lt
            have hlength := congrArg List.length hitems.2
            rw [hunlinked, List.length_cons] at hold
            rw [List.length_map] at hlength
            have hnull : next = none ↔ rest.length = 0 := by
              have hchain := hlinked.chain
              cases rest with
              | nil =>
                  have hnext : next = none := hchain
                  simp [hnext]
              | cons second more => simp [hchain.1]
            dsimp only
            split
            · next hend =>
                have hempty := hnull.mp hend
                omega
            · next hmore =>
                have hfurther := mt hnull.mpr hmore
                omega
          · rw [KernelQueue.maxsize_of_pop hpop]
            exact habstracts.maxsize

theorem Abstracts.get {memory : QueueMemory Msg} {queue : KernelQueue Msg}
    {nodes : List (ℕ × Msg)} (habstracts : memory.Abstracts queue nodes) :
    memory.Simulates queue nodes .get := by
  refine ⟨true, ?_⟩
  have hitems := habstracts.items
  cases nodes with
  | nil =>
      have hhead := habstracts.empty.1
      simp only [KernelQueue.perform, KernelQueue.get, ← hitems, List.map_nil,
        perform, QueueMemory.get, hhead]
      exact ⟨_, [], rfl, .getEmpty, habstracts.reset⟩
  | cons node rest =>
      obtain ⟨hhead, tail, htail⟩ := habstracts.nonempty
      obtain ⟨next, hcell, -⟩ := habstracts.linked.pop
      simp only [KernelQueue.perform, KernelQueue.get, ← hitems,
        List.map_cons, perform, QueueMemory.get, hhead, hcell,
        Option.map_some]
      exact ⟨memory, node :: rest, rfl, .got, habstracts⟩

theorem Abstracts.simulates {memory : QueueMemory Msg}
    {queue : KernelQueue Msg} {nodes : List (ℕ × Msg)}
    (habstracts : memory.Abstracts queue nodes) (op : QueueOp Msg) :
    memory.Simulates queue nodes op := by
  cases op with
  | push submsg wanted => exact habstracts.push submsg wanted
  | pushHead submsg wanted => exact habstracts.pushHead submsg wanted
  | pop => exact habstracts.pop
  | get => exact habstracts.get

theorem Abstracts.run {memory : QueueMemory Msg} {queue : KernelQueue Msg}
    {nodes : List (ℕ × Msg)} (habstracts : memory.Abstracts queue nodes)
    (ops : List (QueueOp Msg)) :
    ∃ outcomes last lastQueue lastNodes,
      memory.run ops = some (outcomes, last) ∧
        FifoRun queue.maxsize nodes ops outcomes lastNodes ∧
          last.Abstracts lastQueue lastNodes ∧
            lastQueue.maxsize = queue.maxsize := by
  induction ops generalizing memory queue nodes with
  | nil => exact ⟨[], memory, queue, nodes, rfl, .nil, habstracts, rfl⟩
  | cons op rest ih =>
      obtain ⟨allocated, next, middle, hperform, hstep, hnext⟩ :=
        habstracts.simulates op
      obtain ⟨outcomes, last, lastQueue, lastNodes, hrun, hfifo, hlast,
        hmaxsize⟩ := ih hnext
      rw [queue.perform_maxsize] at hfifo hmaxsize
      refine ⟨_, last, lastQueue, lastNodes, ?_, .cons hstep hfifo, hlast,
        hmaxsize⟩
      simp [QueueMemory.run, hperform, hrun]

/-- Every sequence of operations is answered like a bounded FIFO answers it,
and leaves the messages of the FIFO in the elements of the queue, the only ones
that are not freed. -/
theorem run_refines_fifo (maxsize : Fin (2 ^ 16)) (ops : List (QueueOp Msg)) :
    ∃ outcomes last nodes,
      (init maxsize : QueueMemory Msg).run ops = some (outcomes, last) ∧
        FifoRun maxsize [] ops outcomes nodes ∧
          last.heap.Linked last.head last.tail nodes ∧
            (∀ address, last.heap address = none ↔
              address ∉ nodes.map Prod.fst) ∧
              last.size = nodes.length ∧ nodes.length ≤ maxsize := by
  obtain ⟨outcomes, last, lastQueue, nodes, hrun, hfifo, hlast, hmaxsize⟩ :=
    (abstracts_init maxsize).run ops
  have hlength := hlast.length
  have hsize := lastQueue.size_eq
  refine ⟨outcomes, last, nodes, hrun, hfifo, hlast.linked, hlast.used, ?_, ?_⟩
  · rw [hlast.size, hlength, hsize]
  · have hle := lastQueue.size_le
    rw [hmaxsize] at hle
    rw [hlength, ← hsize]
    exact hle

end QueueMemory

end EziotSdk

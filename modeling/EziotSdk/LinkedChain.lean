import Mathlib.Data.List.Basic
import Mathlib.Tactic

/-!
# Linked lists in a heap

A heap maps the addresses in use to cells with a value and a pointer to the
next cell, `none` being the null pointer.  A list of nodes describes what is
reached from a head pointer; the lemmas say how the description changes when a
cell is linked in at either end or the first one is freed.
-/

structure Cell (Address Value : Type*) where
  value : Value
  next : Option Address
  deriving DecidableEq, Repr

abbrev CellHeap (Address Value : Type*) :=
  Address → Option (Cell Address Value)

namespace CellHeap

variable {Address Value : Type*} [DecidableEq Address]

/-- Write the cell at the address. -/
def store (heap : CellHeap Address Value) (address : Address)
    (cell : Cell Address Value) : CellHeap Address Value :=
  Function.update heap address (some cell)

def free (heap : CellHeap Address Value) (address : Address) :
    CellHeap Address Value :=
  Function.update heap address none

@[simp] theorem store_self
    (heap : CellHeap Address Value) (address : Address)
    (cell : Cell Address Value) :
    heap.store address cell address = some cell := by
  simp [store]

theorem store_of_ne
    (heap : CellHeap Address Value) {address other : Address}
    (cell : Cell Address Value) (hne : other ≠ address) :
    heap.store address cell other = heap other := by
  simp [store, hne]

theorem free_of_ne
    (heap : CellHeap Address Value) {address other : Address}
    (hne : other ≠ address) : heap.free address other = heap other := by
  simp [free, hne]

theorem store_eq_none_iff
    (heap : CellHeap Address Value) (address other : Address)
    (cell : Cell Address Value) :
    heap.store address cell other = none ↔
      other ≠ address ∧ heap other = none := by
  by_cases hsame : other = address
  · simp [hsame]
  · simp [store_of_ne heap cell hsame, hsame]

theorem free_eq_none_iff
    (heap : CellHeap Address Value) (address other : Address) :
    heap.free address other = none ↔
      other = address ∨ heap other = none := by
  by_cases hsame : other = address
  · simp [free, hsame]
  · simp [free_of_ne heap hsame, hsame]

omit [DecidableEq Address] in
/-- The nodes that are reached from the head, in their order. -/
def Chain (heap : CellHeap Address Value) :
    Option Address → List (Address × Value) → Prop
  | head, [] => head = none
  | head, (address, value) :: rest =>
      head = some address ∧
        ∃ next, heap address = some ⟨value, next⟩ ∧ Chain heap next rest

omit [DecidableEq Address] in
theorem Chain.congr
    {heap changed : CellHeap Address Value} {head : Option Address}
    {nodes : List (Address × Value)} (hchain : heap.Chain head nodes)
    (hsame : ∀ node ∈ nodes, changed node.1 = heap node.1) :
    changed.Chain head nodes := by
  induction nodes generalizing head with
  | nil => exact hchain
  | cons node rest ih =>
      obtain ⟨hhead, next, hcell, hrest⟩ := hchain
      have hnode := hsame node List.mem_cons_self
      have hothers : ∀ other ∈ rest, changed other.1 = heap other.1 :=
        fun other hother => hsame other (List.mem_cons_of_mem node hother)
      exact ⟨hhead, next, hnode.trans hcell, ih hrest hothers⟩

omit [DecidableEq Address] in
/-- The nodes of a chain are cells in use. -/
theorem Chain.ne_of_unused
    {heap : CellHeap Address Value} {head : Option Address}
    {nodes : List (Address × Value)} (hchain : heap.Chain head nodes)
    {unused : Address} (hunused : heap unused = none) :
    ∀ node ∈ nodes, node.1 ≠ unused := by
  induction nodes generalizing head with
  | nil => exact fun _ hmem => absurd hmem List.not_mem_nil
  | cons first rest ih =>
      obtain ⟨hhead, next, hcell, hrest⟩ := hchain
      intro node hmem
      rcases List.mem_cons.mp hmem with heq | hlater
      · intro hsame
        rw [heq] at hsame
        rw [hsame, hunused] at hcell
        cases hcell
      · exact ih hrest node hlater

omit [DecidableEq Address] in
/-- A head pointer determines its nodes. -/
theorem Chain.unique
    {heap : CellHeap Address Value} {head : Option Address}
    {nodes others : List (Address × Value)}
    (hchain : heap.Chain head nodes) (hothers : heap.Chain head others) :
    nodes = others := by
  induction nodes generalizing head others with
  | nil =>
      have hnull : head = none := hchain
      cases others with
      | nil => rfl
      | cons other rest =>
          have hhead := hothers.1
          rw [hnull] at hhead
          cases hhead
  | cons node rest ih =>
      obtain ⟨hhead, next, hcell, hrest⟩ := hchain
      cases others with
      | nil =>
          have hnull : head = none := hothers
          rw [hhead] at hnull
          cases hnull
      | cons other more =>
          obtain ⟨hhead', next', hcell', hmore⟩ := hothers
          have haddress : node.1 = other.1 :=
            Option.some.inj (hhead.symm.trans hhead')
          rw [haddress, hcell', Option.some.injEq, Cell.mk.injEq] at hcell
          have hnode : node = other := Prod.ext haddress hcell.1.symm
          rw [hcell.2] at hmore
          rw [hnode, ih hrest hmore]

omit [DecidableEq Address] in
theorem Chain.last_cell
    {heap : CellHeap Address Value} {head : Option Address}
    {front : List (Address × Value)} {last : Address} {value : Value}
    (hchain : heap.Chain head (front ++ [(last, value)])) :
    ∃ next, heap last = some ⟨value, next⟩ := by
  induction front generalizing head with
  | nil =>
      obtain ⟨-, next, hcell, -⟩ := hchain
      exact ⟨next, hcell⟩
  | cons first rest ih =>
      obtain ⟨-, next, -, hrest⟩ := hchain
      exact ih hrest

/-- The last cell of a chain is made to point to a new one. -/
theorem Chain.snoc
    {heap : CellHeap Address Value} {head : Option Address}
    {front : List (Address × Value)} {last fresh : Address}
    {value : Value}
    (hchain : heap.Chain head (front ++ [(last, value)]))
    (hnodup : ((front ++ [(last, value)]).map Prod.fst).Nodup)
    (hfresh : ∀ node ∈ front ++ [(last, value)], node.1 ≠ fresh)
    (added : Value) :
    ((heap.store fresh ⟨added, none⟩).store last ⟨value, some fresh⟩).Chain
      head (front ++ [(last, value), (fresh, added)]) := by
  have hlast : fresh ≠ last := by
    have hne := hfresh (last, value) (by simp)
    exact fun hsame => hne hsame.symm
  induction front generalizing head with
  | nil =>
      refine ⟨hchain.1, some fresh, store_self _ last _, rfl, none, ?_, rfl⟩
      rw [store_of_ne _ _ hlast, store_self]
  | cons node rest ih =>
      obtain ⟨hhead, next, hcell, hrest⟩ := hchain
      rw [List.cons_append, List.map_cons, List.nodup_cons] at hnodup
      have hnode : node.1 ≠ last := by
        intro hsame
        exact hnodup.1 (List.mem_map.mpr ⟨(last, value), by simp, hsame.symm⟩)
      have hnew : node.1 ≠ fresh := hfresh node (by simp)
      have hothers : ∀ other ∈ rest ++ [(last, value)], other.1 ≠ fresh :=
        fun other hother => hfresh other (List.mem_cons_of_mem node hother)
      refine ⟨hhead, next, ?_, ih hrest hnodup.2 hothers⟩
      rw [store_of_ne _ _ hnode, store_of_ne _ _ hnew]
      exact hcell

/-! ## Chains with a pointer to their last cell -/

omit [DecidableEq Address] in
structure Linked (heap : CellHeap Address Value) (head tail : Option Address)
    (nodes : List (Address × Value)) : Prop where
  chain : heap.Chain head nodes
  nodup : (nodes.map Prod.fst).Nodup
  tail : tail = nodes.getLast?.map Prod.fst

omit [DecidableEq Address] in
theorem linked_nil (heap : CellHeap Address Value) :
    heap.Linked none none [] :=
  ⟨rfl, List.nodup_nil, rfl⟩

theorem linked_singleton
    (heap : CellHeap Address Value) (fresh : Address) (added : Value) :
    (heap.store fresh ⟨added, none⟩).Linked (some fresh) (some fresh)
      [(fresh, added)] where
  chain := ⟨rfl, none, store_self heap fresh _, rfl⟩
  nodup := List.nodup_singleton fresh
  tail := rfl

/-- The nodes of a chain that is not empty end in the cell of the tail
pointer. -/
theorem Linked.pushTail
    {heap : CellHeap Address Value} {head : Option Address}
    {last fresh : Address} {nodes : List (Address × Value)}
    (hlinked : heap.Linked head (some last) nodes)
    (hunused : heap fresh = none) (added : Value) :
    ∃ cell, heap last = some cell ∧
      ((heap.store fresh ⟨added, none⟩).store last
        { cell with next := some fresh }).Linked head (some fresh)
        (nodes ++ [(fresh, added)]) := by
  have hne := hlinked.chain.ne_of_unused hunused
  rcases List.eq_nil_or_concat nodes with hnil | ⟨front, node, hnodes⟩
  · have htail := hlinked.tail
    rw [hnil] at htail
    cases htail
  · rw [hnodes, List.concat_eq_append] at hlinked hne ⊢
    have htail := hlinked.tail
    rw [List.getLast?_concat, Option.map_some, Option.some.injEq] at htail
    have hlast : node = (last, node.2) := Prod.ext htail.symm rfl
    rw [hlast] at hlinked hne ⊢
    obtain ⟨next, hcell⟩ := hlinked.chain.last_cell
    refine ⟨⟨node.2, next⟩, hcell, ?_, ?_, ?_⟩
    · have hsnoc := hlinked.chain.snoc hlinked.nodup hne added
      rwa [List.append_assoc]
    · rw [List.map_append, List.nodup_append]
      refine ⟨hlinked.nodup, List.nodup_singleton fresh, ?_⟩
      intro address hmem other hother
      obtain ⟨old, hold, rfl⟩ := List.mem_map.mp hmem
      rw [List.mem_singleton.mp hother]
      exact hne old hold
    · rw [List.getLast?_concat]
      rfl

theorem Linked.pushHead
    {heap : CellHeap Address Value} {head tail : Option Address}
    {fresh : Address} {nodes : List (Address × Value)}
    (hlinked : heap.Linked head tail nodes) (hnodes : nodes ≠ [])
    (hunused : heap fresh = none) (added : Value) :
    (heap.store fresh ⟨added, head⟩).Linked (some fresh) tail
      ((fresh, added) :: nodes) := by
  have hne := hlinked.chain.ne_of_unused hunused
  refine ⟨⟨rfl, head, store_self heap fresh _, ?_⟩, ?_, ?_⟩
  · apply hlinked.chain.congr
    intro node hmem
    exact store_of_ne heap _ (hne node hmem)
  · rw [List.map_cons, List.nodup_cons]
    refine ⟨?_, hlinked.nodup⟩
    intro hmem
    obtain ⟨node, hnode, hsame⟩ := List.mem_map.mp hmem
    exact hne node hnode hsame
  · rw [hlinked.tail, List.getLast?_cons]
    cases hlast : nodes.getLast? with
    | none => exact absurd (List.getLast?_eq_none_iff.mp hlast) hnodes
    | some last => rfl

theorem Linked.pop
    {heap : CellHeap Address Value} {head tail : Option Address}
    {address : Address} {value : Value} {rest : List (Address × Value)}
    (hlinked : heap.Linked head tail ((address, value) :: rest)) :
    ∃ next, heap address = some ⟨value, next⟩ ∧
      (heap.free address).Linked next
        (if next = none then none else tail) rest := by
  obtain ⟨hhead, next, hcell, hrest⟩ := hlinked.chain
  have hnodup := hlinked.nodup
  rw [List.map_cons, List.nodup_cons] at hnodup
  refine ⟨next, hcell, ?_, hnodup.2, ?_⟩
  · apply hrest.congr
    intro node hmem
    apply free_of_ne
    intro hsame
    exact hnodup.1 (List.mem_map.mpr ⟨node, hmem, hsame⟩)
  · rw [hlinked.tail]
    cases rest with
    | nil =>
        have hnull : next = none := hrest
        rw [if_pos hnull]
        rfl
    | cons second more =>
        have hsome : next ≠ none := by
          rw [hrest.1]
          exact Option.some_ne_none _
        rw [if_neg hsome, List.getLast?_cons_cons]

end CellHeap

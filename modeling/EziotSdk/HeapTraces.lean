import Mathlib.Data.List.Basic
import Mathlib.Data.List.Perm.Basic
import Mathlib.Data.List.Range
import Mathlib.Data.List.Count
import Mathlib.Tactic

/-!
# Constructors and destructors

A constructor hands out numbered blocks and records, in order, the blocks and
the nodes that it makes.  A destructor is a walk over what was built, which
lists the blocks and nodes that it comes to.  The lists are compared by how
often an item stands in them.
-/

namespace HeapTraces

/-- A node at an address, or a block. -/
inductive Item (Address : Type) where
  | node (address : Address)
  | block (id : ℕ)
  deriving DecidableEq, Repr

variable {Address : Type} {Value Result Element Placed : Type}

def Item.blockId : Item Address → Option ℕ
  | .node _ => none
  | .block id => some id

/-! ## Building -/

/-- A value, what was made for it, and the number of the next block. -/
structure Built (Address Value : Type) where
  value : Value
  items : List (Item Address)
  next : ℕ

def Builder (Address Value : Type) : Type := ℕ → Built Address Value

instance Builder.monad : Monad (Builder Address) where
  pure value := fun next => ⟨value, [], next⟩
  bind builder rest := fun next =>
    let first := builder next
    let second := rest first.value first.next
    ⟨second.value, first.items ++ second.items, second.next⟩

namespace Builder

def malloc : Builder Address ℕ :=
  fun next => ⟨next, [.block next], next + 1⟩

def mallocIf (wanted : Prop) [Decidable wanted] :
    Builder Address (Option ℕ) :=
  if wanted then do
    let id ← malloc
    pure (some id)
  else pure none

def place (address : Address) : Builder Address Unit :=
  fun next => ⟨(), [.node address], next⟩

@[simp] theorem pure_apply (value : Value) (next : ℕ) :
    (pure value : Builder Address Value) next = ⟨value, [], next⟩ := rfl

@[simp] theorem bind_apply (builder : Builder Address Value)
    (rest : Value → Builder Address Result) (next : ℕ) :
    (builder >>= rest) next =
      ⟨(rest (builder next).value (builder next).next).value,
        (builder next).items ++
          (rest (builder next).value (builder next).next).items,
        (rest (builder next).value (builder next).next).next⟩ := rfl

@[simp] theorem malloc_apply (next : ℕ) :
    (malloc : Builder Address ℕ) next = ⟨next, [.block next], next + 1⟩ := rfl

@[simp] theorem mallocIf_apply (wanted : Prop) [Decidable wanted] (next : ℕ) :
    (mallocIf wanted : Builder Address (Option ℕ)) next =
      if wanted then ⟨some next, [.block next], next + 1⟩
      else ⟨none, [], next⟩ := by
  unfold mallocIf
  split <;> rfl

@[simp] theorem place_apply (address : Address) (next : ℕ) :
    place address next = ⟨(), [.node address], next⟩ := rfl

/-- A loop over an array, with the index. -/
def eachAt (build : ℕ → Element → Builder Address Placed) :
    ℕ → List Element → Builder Address (List Placed)
  | _, [] => pure []
  | index, element :: rest => do
      let placed ← build index element
      let others ← eachAt build (index + 1) rest
      pure (placed :: others)

end Builder

/-- The same loop in a destructor. -/
def walkAt (free : ℕ → Placed → List (Item Address)) :
    ℕ → List Placed → List (Item Address)
  | _, [] => []
  | index, placed :: rest => free index placed ++ walkAt free (index + 1) rest

/-- What is released for a pointer that may be null. -/
def released : Option ℕ → List (Item Address)
  | none => []
  | some id => [.block id]

/-! ## What a builder makes -/

/-- The blocks are the numbers from the next one on, in order, and every item
is of some kind. -/
structure Makes (holds : Item Address → Prop)
    (builder : Builder Address Value) (next : ℕ) : Prop where
  fresh : ∃ count, (builder next).next = next + count ∧
    (builder next).items.filterMap Item.blockId = List.range' next count
  all : ∀ item ∈ (builder next).items, holds item

/-- The builder does so from any block on. -/
def Builder.Sound (holds : Item Address → Prop)
    (builder : Builder Address Value) : Prop :=
  ∀ next, Makes holds builder next

section Sound

variable {holds : Item Address → Prop}

theorem sound_pure (value : Value) :
    Builder.Sound holds (pure value : Builder Address Value) := by
  intro next
  constructor
  · exact ⟨0, rfl, rfl⟩
  · intro item hitem
    cases hitem

theorem sound_bind
    {builder : Builder Address Value}
    {rest : Value → Builder Address Result}
    (hbuilder : builder.Sound holds)
    (hrest : ∀ value, (rest value).Sound holds) :
    Builder.Sound holds (builder >>= rest) := by
  intro next
  have hfirst := hbuilder next
  have hsecond := hrest (builder next).value (builder next).next
  constructor
  · obtain ⟨first, hnext, hblocks⟩ := hfirst.fresh
    obtain ⟨second, hlast, hothers⟩ := hsecond.fresh
    refine ⟨first + second, ?_, ?_⟩
    · change (rest (builder next).value (builder next).next).next = _
      rw [hlast, hnext]
      omega
    · change ((builder next).items ++ (rest _ _).items).filterMap _ = _
      rw [List.filterMap_append, hblocks, hothers, hnext]
      simp
  · intro item hitem
    rcases List.mem_append.mp hitem with hmem | hmem
    · exact hfirst.all item hmem
    · exact hsecond.all item hmem

theorem sound_malloc (hblock : ∀ id, holds (.block id)) :
    Builder.Sound holds Builder.malloc := by
  intro next
  constructor
  · exact ⟨1, rfl, rfl⟩
  · intro item hitem
    rw [List.mem_singleton.mp hitem]
    exact hblock next

theorem sound_place {address : Address} (hnode : holds (.node address)) :
    (Builder.place address).Sound holds := by
  intro next
  constructor
  · exact ⟨0, rfl, rfl⟩
  · intro item hitem
    rw [List.mem_singleton.mp hitem]
    exact hnode

theorem sound_mallocIf (hblock : ∀ id, holds (.block id))
    (wanted : Prop) [Decidable wanted] :
    (Builder.mallocIf wanted).Sound holds := by
  unfold Builder.mallocIf
  split
  · exact sound_bind (sound_malloc hblock) fun id => sound_pure (some id)
  · exact sound_pure none

theorem sound_eachAt
    {build : ℕ → Element → Builder Address Placed}
    (hbuild : ∀ index element, (build index element).Sound holds)
    (index : ℕ) (elements : List Element) :
    (Builder.eachAt build index elements).Sound holds := by
  induction elements generalizing index with
  | nil => exact sound_pure []
  | cons element rest ih =>
      apply sound_bind (hbuild index element)
      intro placed
      apply sound_bind (ih (index + 1))
      intro others
      exact sound_pure (placed :: others)

/-- No block is handed out twice. -/
theorem Makes.nodup
    {builder : Builder Address Value} {next : ℕ}
    (hmakes : Makes holds builder next) :
    ((builder next).items.filterMap Item.blockId).Nodup := by
  obtain ⟨count, -, hblocks⟩ := hmakes.fresh
  rw [hblocks]
  exact List.nodup_range'

end Sound

/-! ## Values of a loop -/

/-- A property of the placed values, from one of the elements. -/
theorem forall_eachAt_iff
    {build : ℕ → Element → Builder Address Placed}
    {placedHolds : Placed → Prop} {elementHolds : Element → Prop}
    (hbuild : ∀ index element next,
      placedHolds (build index element next).value ↔ elementHolds element)
    (index : ℕ) (elements : List Element) (next : ℕ) :
    (∀ placed ∈ (Builder.eachAt build index elements next).value,
        placedHolds placed) ↔
      ∀ element ∈ elements, elementHolds element := by
  induction elements generalizing index next with
  | nil =>
      constructor
      · intro _ element hmem
        cases hmem
      · intro _ placed hmem
        cases hmem
  | cons element rest ih =>
      change (∀ placed ∈ (build index element next).value ::
        (Builder.eachAt build (index + 1) rest
          (build index element next).next).value, placedHolds placed) ↔ _
      rw [List.forall_mem_cons, List.forall_mem_cons, hbuild, ih]

/-- What holds of all that a walk comes to says something of every element. -/
theorem forall_of_walkAt_eachAt
    {build : ℕ → Element → Builder Address Placed}
    {free : ℕ → Placed → List (Item Address)}
    {holds : Item Address → Prop} {elementHolds : Element → Prop}
    (hfree : ∀ index element next,
      (∀ item ∈ free index (build index element next).value, holds item) →
        elementHolds element)
    {index : ℕ} {elements : List Element} {next : ℕ}
    (hwalk : ∀ item ∈
      walkAt free index (Builder.eachAt build index elements next).value,
      holds item) :
    ∀ element ∈ elements, elementHolds element := by
  induction elements generalizing index next with
  | nil =>
      intro element hmem
      cases hmem
  | cons element rest ih =>
      change ∀ item ∈ free index (build index element next).value ++
        walkAt free (index + 1) (Builder.eachAt build (index + 1) rest
          (build index element next).next).value, holds item at hwalk
      rw [List.forall_mem_append] at hwalk
      rw [List.forall_mem_cons]
      exact ⟨hfree index element next hwalk.1, ih hwalk.2⟩

/-! ## Accounts -/

variable [DecidableEq Address]

/-- What is built is what the destructor comes to and what it leaves behind,
each as often. -/
def Builder.Accounts (builder : Builder Address Value)
    (freed lost : Value → List (Item Address)) : Prop :=
  ∀ next item, (builder next).items.count item =
    (freed (builder next).value).count item +
      (lost (builder next).value).count item

theorem accounts_eachAt
    {build : ℕ → Element → Builder Address Placed}
    {free : ℕ → Placed → List (Item Address)}
    {lost : Placed → List (Item Address)} {elements : List Element}
    (hbuild : ∀ element ∈ elements, ∀ index,
      (build index element).Accounts (free index) lost) (index : ℕ) :
    (Builder.eachAt build index elements).Accounts (walkAt free index)
      fun placed => placed.flatMap lost := by
  induction elements generalizing index with
  | nil =>
      intro next item
      rfl
  | cons element rest ih =>
      intro next item
      have hfirst := hbuild element List.mem_cons_self index next item
      have hrest := ih (fun other hother =>
        hbuild other (List.mem_cons_of_mem element hother)) (index + 1)
        (build index element next).next item
      change ((build index element next).items ++
        ((Builder.eachAt build (index + 1) rest
          (build index element next).next).items ++ [])).count item =
        (free index _ ++ walkAt free (index + 1) _).count item +
          (lost _ ++ List.flatMap lost _).count item
      simp only [List.count_append, List.append_nil] at hrest ⊢
      omega

/-- Everything is released once when nothing is left behind. -/
theorem Builder.Accounts.perm_iff
    {builder : Builder Address Value} {freed lost : Value → List (Item Address)}
    (haccounts : builder.Accounts freed lost) (next : ℕ) :
    (freed (builder next).value).Perm (builder next).items ↔
      lost (builder next).value = [] := by
  rw [List.perm_iff_count]
  constructor
  · intro hsame
    apply List.eq_nil_iff_forall_not_mem.mpr
    intro item hitem
    have hpositive := List.count_pos_iff.mpr hitem
    have hcount := haccounts next item
    rw [← hsame item] at hcount
    omega
  · intro hnone item
    have hcount := haccounts next item
    rw [hnone, List.count_nil, Nat.add_zero] at hcount
    exact hcount.symm

end HeapTraces

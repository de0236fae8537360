import Mathlib.Data.List.Basic
import Mathlib.Tactic

/-!
# Fixed tables with an in-band empty marker

A table of fixed length holds one record a slot, and the key `0` marks a slot
as free.  The two loops that register a record and the loop that looks one up
are given over any type of slot with a key.  Nothing forbids a record whose
own key is `0`: such a record always sits in the last occupied slot, and the
registration loops stop there as if the slot were free.

A table represents a partial map from keys to handlers.  The results below
say when a registration extends the represented map, and when it destroys the
entry of key `0` instead.
-/

namespace SlotTable

variable {Slot : Type*} (key : Slot → ℕ)

/-- The slot a lookup by key stops at: the first one with that key, free or
not. -/
def find (id : ℕ) (table : List Slot) : Option Slot :=
  table.find? fun slot => key slot == id

/-- Change the slot a lookup by key stops at. -/
def update (id : ℕ) (change : Slot → Slot) : List Slot → List Slot
  | [] => []
  | slot :: rest =>
      if key slot = id then change slot :: rest
      else slot :: update id change rest

/-- Where a registration that refuses a key already present ends. -/
inductive Place where
  | at (index : ℕ)
  | ready
  | full
  deriving DecidableEq, Repr

/-- The place seen from one slot earlier. -/
def Place.next : Place → Place
  | .at index => .at (index + 1)
  | .ready => .ready
  | .full => .full

/-- Scan for the first free slot, and stop at an equal key before it. -/
def placeUnique (id : ℕ) : List Slot → Place
  | [] => .full
  | slot :: rest =>
      if key slot = 0 then .at 0
      else if key slot = id then .ready
      else (placeUnique id rest).next

/-- Scan for the first slot that is free or already has the key. -/
def placeReplace (id : ℕ) (table : List Slot) : Option ℕ :=
  table.findIdx? fun slot => key slot == 0 || key slot == id

variable {key}

/-! ## Lookup -/

theorem find_append (id : ℕ) (left right : List Slot) :
    find key id (left ++ right) =
      (find key id left).or (find key id right) := by
  simp [find, List.find?_append]

theorem find_eq_none_iff (id : ℕ) (table : List Slot) :
    find key id table = none ↔ ∀ slot ∈ table, key slot ≠ id := by
  simp [find, List.find?_eq_none]

theorem key_of_find {id : ℕ} {table : List Slot} {slot : Slot}
    (hfind : find key id table = some slot) : key slot = id := by
  simpa using List.find?_some hfind

theorem mem_of_find {id : ℕ} {table : List Slot} {slot : Slot}
    (hfind : find key id table = some slot) : slot ∈ table :=
  List.mem_of_find?_eq_some hfind

theorem find_cons_of_eq {id : ℕ} {slot : Slot} (hkey : key slot = id)
    (rest : List Slot) : find key id (slot :: rest) = some slot := by
  simp [find, hkey]

theorem find_cons_of_ne {id : ℕ} {slot : Slot} (hkey : key slot ≠ id)
    (rest : List Slot) : find key id (slot :: rest) = find key id rest := by
  simp [find, hkey]

theorem find_map {Source : Type*} (record : Source → Slot) (id : ℕ)
    (sources : List Source) :
    find key id (sources.map record) =
      (find (key ∘ record) id sources).map record := by
  simp only [find, List.find?_map]
  rfl

/-- A change that keeps the key is seen by the lookup of that key only. -/
theorem find_update
    {change : Slot → Slot} (hkeep : ∀ slot, key (change slot) = key slot)
    (id other : ℕ) (table : List Slot) :
    find key other (update key id change table) =
      if other = id then (find key id table).map change
      else find key other table := by
  induction table with
  | nil => simp [find, update]
  | cons slot rest ih =>
      by_cases hslot : key slot = id
      · have hchange : key (change slot) = id := by rw [hkeep, hslot]
        by_cases hother : other = id
        · subst hother
          simp [update, hslot, find_cons_of_eq hslot, find_cons_of_eq hchange]
        · have hne : key slot ≠ other := fun heq => hother (heq ▸ hslot)
          have hneChange : key (change slot) ≠ other := by rwa [hkeep]
          simp [update, hslot, hother, find_cons_of_ne hne,
            find_cons_of_ne hneChange]
      · rw [update, if_neg hslot]
        by_cases hkey : key slot = other
        · have hother : other ≠ id := fun heq => hslot (hkey.trans heq)
          rw [find_cons_of_eq hkey, find_cons_of_eq hkey, if_neg hother]
        · rw [find_cons_of_ne hkey, find_cons_of_ne hkey,
            find_cons_of_ne hslot, ih]

/-! ## Registration scans -/

/-- Slots whose keys are neither the marker nor the requested key are passed
over. -/
theorem placeUnique_append
    {id : ℕ} {passed rest : List Slot}
    (hzero : ∀ slot ∈ passed, key slot ≠ 0)
    (hid : ∀ slot ∈ passed, key slot ≠ id) :
    placeUnique key id (passed ++ rest) =
      Place.next^[passed.length] (placeUnique key id rest) := by
  induction passed with
  | nil => rfl
  | cons slot more ih =>
      have hslotZero : key slot ≠ 0 := hzero slot (by simp)
      have hslotId : key slot ≠ id := hid slot (by simp)
      rw [List.cons_append, placeUnique, if_neg hslotZero, if_neg hslotId,
        ih (fun other hmem => hzero other (by simp [hmem]))
          (fun other hmem => hid other (by simp [hmem])),
        List.length_cons, Function.iterate_succ_apply']

@[simp] theorem Place.next_iterate_at (count index : ℕ) :
    Place.next^[count] (.at index) = .at (index + count) := by
  induction count with
  | zero => rfl
  | succ count ih =>
      rw [Function.iterate_succ_apply', ih]
      simp [Place.next, Nat.add_assoc]

@[simp] theorem Place.next_iterate_ready (count : ℕ) :
    Place.next^[count] .ready = .ready := by
  induction count with
  | zero => rfl
  | succ count ih => rw [Function.iterate_succ_apply', ih]; rfl

@[simp] theorem Place.next_iterate_full (count : ℕ) :
    Place.next^[count] .full = .full := by
  induction count with
  | zero => rfl
  | succ count ih => rw [Function.iterate_succ_apply', ih]; rfl

theorem placeReplace_append
    {id : ℕ} {passed rest : List Slot}
    (hzero : ∀ slot ∈ passed, key slot ≠ 0)
    (hid : ∀ slot ∈ passed, key slot ≠ id) :
    placeReplace key id (passed ++ rest) =
      (placeReplace key id rest).map (· + passed.length) := by
  have hnone :
      passed.findIdx? (fun slot => key slot == 0 || key slot == id) = none := by
    rw [List.findIdx?_eq_none_iff]
    intro slot hslot
    simp [hzero slot hslot, hid slot hslot]
  simp [placeReplace, List.findIdx?_append, hnone]

theorem modify_append_length
    (before after : List Slot) (slot : Slot) (change : Slot → Slot) :
    (before ++ slot :: after).modify before.length change =
      before ++ change slot :: after := by
  induction before with
  | nil => simp
  | cons first rest ih => simp [ih]

/-! ## The represented map -/

variable {Handler : Type*} {route : Slot → Option Handler}

/-- An occupied prefix and the free slots after it. -/
structure Split (key : Slot → ℕ) (route : Slot → Option Handler)
    (occupied free : List Slot) : Prop where
  free_key : ∀ slot ∈ free, key slot = 0
  free_route : ∀ slot ∈ free, route slot = none
  occupied_route : ∀ slot ∈ occupied, route slot ≠ none
  keys_nodup : (occupied.map key).Nodup
  zero_last : 0 ∉ (occupied.map key).dropLast

/-- The table holds exactly the given registrations. -/
def Represents (key : Slot → ℕ) (route : Slot → Option Handler)
    (table : List Slot) (bound : ℕ → Option Handler) : Prop :=
  ∃ occupied free, table = occupied ++ free ∧
    Split key route occupied free ∧
    ∀ id, bound id = (find key id occupied).bind route

/-- What a user of the table relies on: every registration is present, and
the registrations have distinct keys and lie before the free slots. -/
structure Consistent (key : Slot → ℕ) (route : Slot → Option Handler)
    (table : List Slot) (bound : ℕ → Option Handler) : Prop where
  kept : ∀ id handler, bound id = some handler →
    ∃ slot ∈ table, key slot = id ∧ route slot = some handler
  layout : ∃ occupied free, table = occupied ++ free ∧
    (∀ slot ∈ occupied, route slot ≠ none) ∧ (occupied.map key).Nodup ∧
    ∀ slot ∈ free, key slot = 0 ∧ route slot = none

theorem Represents.consistent
    {table : List Slot} {bound : ℕ → Option Handler}
    (hrep : Represents key route table bound) :
    Consistent key route table bound := by
  obtain ⟨occupied, free, rfl, hsplit, hbound⟩ := hrep
  constructor
  · intro id handler hid
    rw [hbound, Option.bind_eq_some_iff] at hid
    obtain ⟨slot, hfind, hroute⟩ := hid
    exact ⟨slot, by simp [mem_of_find hfind], key_of_find hfind, hroute⟩
  · exact ⟨occupied, free, rfl, hsplit.occupied_route, hsplit.keys_nodup,
      fun slot hmem => ⟨hsplit.free_key slot hmem, hsplit.free_route slot hmem⟩⟩

theorem represents_replicate
    {blank : Slot} (hkey : key blank = 0) (hroute : route blank = none)
    (count : ℕ) :
    Represents key route (List.replicate count blank) fun _ => none := by
  refine ⟨[], List.replicate count blank, rfl, ?_, fun _ => rfl⟩
  constructor
  · intro slot hmem
    rw [List.eq_of_mem_replicate hmem, hkey]
  · intro slot hmem
    rw [List.eq_of_mem_replicate hmem, hroute]
  · simp
  · simp
  · simp

namespace Split

variable {occupied free : List Slot}

theorem bind_find_eq_none_iff
    (hsplit : Split key route occupied free) (id : ℕ) :
    (find key id occupied).bind route = none ↔
      ∀ slot ∈ occupied, key slot ≠ id := by
  rw [← find_eq_none_iff]
  cases hfind : find key id occupied with
  | none => simp
  | some slot => simpa using hsplit.occupied_route slot (mem_of_find hfind)

/-- Whatever precedes an occupied slot is passed over by both scans, when
they look for the slot's key. -/
theorem before_of_eq
    (hsplit : Split key route occupied free)
    {before after : List Slot} {slot : Slot}
    (heq : occupied = before ++ slot :: after) :
    (∀ other ∈ before, key other ≠ 0) ∧
      (∀ other ∈ before, key other ≠ key slot) := by
  subst heq
  constructor
  · intro other hmem hzero
    refine hsplit.zero_last ?_
    rw [List.map_append, List.dropLast_append_of_ne_nil (by simp)]
    exact List.mem_append_left _ (hzero ▸ List.mem_map_of_mem hmem)
  · intro other hmem hsame
    have hnodup := hsplit.keys_nodup
    rw [List.map_append, List.map_cons, List.nodup_append] at hnodup
    exact hnodup.2.2 (key other) (List.mem_map_of_mem hmem) (key slot)
      (by simp) hsame

/-- A record under the marker key is the last occupied one. -/
theorem zero_eq_concat
    (hsplit : Split key route occupied free)
    {slot : Slot} (hmem : slot ∈ occupied) (hzero : key slot = 0) :
    ∃ before, occupied = before ++ [slot] := by
  obtain ⟨before, after, heq⟩ := List.append_of_mem hmem
  cases after with
  | nil => exact ⟨before, heq⟩
  | cons next rest =>
      refine absurd ?_ hsplit.zero_last
      rw [heq, List.map_append, List.dropLast_append_of_ne_nil (by simp)]
      simp [hzero]

/-- Registering into the first free slot. -/
theorem fill
    {slot changed : Slot} {rest : List Slot}
    (hsplit : Split key route occupied (slot :: rest))
    (hzero : ∀ other ∈ occupied, key other ≠ 0)
    (hfresh : ∀ other ∈ occupied, key other ≠ key changed)
    (hroute : route changed ≠ none) :
    Split key route (occupied ++ [changed]) rest := by
  constructor
  · exact fun other hmem => hsplit.free_key other (by simp [hmem])
  · exact fun other hmem => hsplit.free_route other (by simp [hmem])
  · intro other hmem
    rcases List.mem_append.mp hmem with hold | hnew
    · exact hsplit.occupied_route other hold
    · rw [List.mem_singleton.mp hnew]
      exact hroute
  · rw [List.map_append]
    refine List.Nodup.append hsplit.keys_nodup (by simp) ?_
    simpa [List.disjoint_right] using hfresh
  · simpa using hzero

/-- Registering over the record with the same key. -/
theorem replace
    {before after : List Slot} {slot changed : Slot}
    (hsplit : Split key route (before ++ slot :: after) free)
    (hkey : key changed = key slot) (hroute : route changed ≠ none) :
    Split key route (before ++ changed :: after) free := by
  have hkeys : (before ++ changed :: after).map key =
      (before ++ slot :: after).map key := by
    simp [hkey]
  constructor
  · exact hsplit.free_key
  · exact hsplit.free_route
  · intro other hmem
    rcases List.mem_append.mp hmem with hold | htail
    · exact hsplit.occupied_route other (by simp [hold])
    · rcases List.mem_cons.mp htail with rfl | hold
      · exact hroute
      · exact hsplit.occupied_route other (by simp [hold])
  · rw [hkeys]
    exact hsplit.keys_nodup
  · rw [hkeys]
    exact hsplit.zero_last

end Split

/-- The map after a registration. -/
def bind (bound : ℕ → Option Handler) (id : ℕ) (handler : Handler) :
    ℕ → Option Handler :=
  Function.update bound id (some handler)

section Load

variable {table : List Slot} {bound : ℕ → Option Handler}
  {id : ℕ}

/-- The registration does not meet the record of key `0` on its way. -/
def LoadSafe (bound : ℕ → Option Handler) (id : ℕ) : Prop :=
  id = 0 ∨ bound 0 = none ∨ bound id ≠ none

private theorem represents_fill
    {occupied rest : List Slot} {slot : Slot}
    {change : Slot → Slot} {handler : Handler}
    (hsplit : Split key route occupied (slot :: rest))
    (hbound : ∀ other, bound other = (find key other occupied).bind route)
    (hzero : ∀ other ∈ occupied, key other ≠ 0)
    (hfresh : ∀ other ∈ occupied, key other ≠ id)
    (hkey : key (change slot) = id)
    (hroute : route (change slot) = some handler) :
    Represents key route (occupied ++ change slot :: rest)
      (bind bound id handler) := by
  refine ⟨occupied ++ [change slot], rest, by simp, ?_, ?_⟩
  · exact hsplit.fill hzero (hkey ▸ hfresh) (by simp [hroute])
  · intro other
    rw [find_append]
    by_cases heq : other = id
    · have hnone : find key id occupied = none :=
        (find_eq_none_iff id occupied).mpr hfresh
      rw [heq, hnone, Option.none_or, find_cons_of_eq hkey]
      simp [bind, hroute]
    · have hne : key (change slot) ≠ other := fun hsame =>
        heq (hsame.symm.trans hkey)
      rw [find_cons_of_ne hne]
      simp [bind, heq, hbound, find]

private theorem represents_replace
    {before after free : List Slot} {slot : Slot}
    {change : Slot → Slot} {handler : Handler}
    (hsplit : Split key route (before ++ slot :: after) free)
    (hbound : ∀ other,
      bound other = (find key other (before ++ slot :: after)).bind route)
    (hslot : key slot = id)
    (hkey : key (change slot) = id)
    (hroute : route (change slot) = some handler) :
    Represents key route (before ++ change slot :: after ++ free)
      (bind bound id handler) := by
  refine ⟨before ++ change slot :: after, free, by simp, ?_, ?_⟩
  · exact hsplit.replace (hkey.trans hslot.symm) (by simp [hroute])
  · intro other
    by_cases heq : other = id
    · have hnone : find key id before = none :=
        (find_eq_none_iff id before).mpr
          (hslot ▸ (hsplit.before_of_eq rfl).2)
      rw [heq, find_append, hnone, Option.none_or, find_cons_of_eq hkey]
      simp [bind, hroute]
    · have hne : key slot ≠ other := fun hsame =>
        heq (hsame.symm.trans hslot)
      have hneChange : key (change slot) ≠ other := fun hsame =>
        heq (hsame.symm.trans hkey)
      rw [find_append, find_cons_of_ne hneChange]
      simp only [bind, Function.update_of_ne heq, hbound]
      rw [find_append, find_cons_of_ne hne]

/-- After the record of key `0` was overwritten by another key, its handler
is in no slot with that key. -/
private theorem not_consistent_overwrite
    {before free : List Slot} {slot : Slot}
    {change : Slot → Slot} {handler : Handler}
    (hsplit : Split key route (before ++ [slot]) free) (hid : id ≠ 0)
    (hzero : bound 0 ≠ none)
    (hkey : key (change slot) = id) :
    ¬ Consistent key route (before ++ change slot :: free)
      (bind bound id handler) := by
  intro hconsistent
  obtain ⟨lost, hlost⟩ := Option.ne_none_iff_exists'.mp hzero
  obtain ⟨other, hmem, hother, hroute⟩ := hconsistent.kept 0 lost
    (by simp [bind, Function.update_of_ne hid.symm, hlost])
  rcases List.mem_append.mp hmem with hbefore | htail
  · exact (hsplit.before_of_eq rfl).1 other hbefore hother
  · rcases List.mem_cons.mp htail with rfl | hfree
    · exact hid (hkey.symm.trans hother)
    · simp [hsplit.free_route other hfree] at hroute

/-- What the scan of a safe registration meets: the record of the key, the
first free slot, or the end of the table. -/
private theorem scan_cases
    (hrep : Represents key route table bound) (hsafe : LoadSafe bound id)
    {change : Slot → Slot} {handler : Handler}
    (hkey : ∀ slot, key (change slot) = id)
    (hroute : ∀ slot, route (change slot) = some handler) :
    (∃ before slot after, table = before ++ slot :: after ∧
      (∀ other ∈ before, key other ≠ 0) ∧
      (∀ other ∈ before, key other ≠ id) ∧
      ((id ≠ 0 ∧ key slot = id ∧ bound id ≠ none) ∨ key slot = 0) ∧
      Represents key route (before ++ change slot :: after)
        (bind bound id handler)) ∨
    ((∀ other ∈ table, key other ≠ 0) ∧ ∀ other ∈ table, key other ≠ id) := by
  obtain ⟨occupied, free, rfl, hsplit, hbound⟩ := hrep
  by_cases hpresent : bound id = none
  · have hzero : bound 0 = none := by
      rcases hsafe with rfl | hzero | hne
      · exact hpresent
      · exact hzero
      · exact absurd hpresent hne
    rw [hbound, hsplit.bind_find_eq_none_iff] at hpresent hzero
    cases free with
    | nil => exact Or.inr (by simpa using ⟨hzero, hpresent⟩)
    | cons slot rest =>
        left
        refine ⟨occupied, slot, rest, rfl, hzero, hpresent,
          Or.inr (hsplit.free_key slot (by simp)), ?_⟩
        exact represents_fill hsplit hbound hzero hpresent (hkey slot)
          (hroute slot)
  · left
    have hbind := hpresent
    rw [hbound, hsplit.bind_find_eq_none_iff] at hbind
    push Not at hbind
    obtain ⟨slot, hmem, hslot⟩ := hbind
    obtain ⟨before, after, rfl⟩ := List.append_of_mem hmem
    obtain ⟨hbeforeZero, hbeforeKey⟩ := hsplit.before_of_eq rfl
    have hrepresents : Represents key route
        (before ++ change slot :: (after ++ free)) (bind bound id handler) := by
      simpa using represents_replace hsplit hbound hslot (hkey slot)
        (hroute slot)
    refine ⟨before, slot, after ++ free, by simp, hbeforeZero,
      hslot ▸ hbeforeKey, ?_, hrepresents⟩
    by_cases hid : id = 0
    · exact Or.inr (hslot.trans hid)
    · exact Or.inl ⟨hid, hslot, hpresent⟩

/-- A safe registration that refuses a present key. -/
theorem Represents.placeUnique
    (hrep : Represents key route table bound) (hsafe : LoadSafe bound id)
    (change : Slot → Slot) {handler : Handler}
    (hkey : ∀ slot, key (change slot) = id)
    (hroute : ∀ slot, route (change slot) = some handler) :
    placeUnique key id table = .ready ∨ placeUnique key id table = .full ∨
      ∃ index, SlotTable.placeUnique key id table = .at index ∧
        Represents key route (table.modify index change)
          (bind bound id handler) := by
  rcases scan_cases hrep hsafe hkey hroute with
    ⟨before, slot, after, rfl, hzero, hid, hslot, hnext⟩ | ⟨hzero, hid⟩
  · rw [placeUnique_append hzero hid]
    rcases hslot with ⟨hne, hslot, -⟩ | hslot
    · left
      have hnonzero : key slot ≠ 0 := hslot ▸ hne
      simp [SlotTable.placeUnique, hslot, hne]
    · right
      right
      refine ⟨before.length, by simp [SlotTable.placeUnique, hslot], ?_⟩
      rw [modify_append_length]
      exact hnext
  · right
    left
    rw [← List.append_nil table, placeUnique_append hzero hid]
    simp [SlotTable.placeUnique]

/-- A safe registration that replaces a present key. -/
theorem Represents.placeReplace
    (hrep : Represents key route table bound) (hsafe : LoadSafe bound id)
    (change : Slot → Slot) {handler : Handler}
    (hkey : ∀ slot, key (change slot) = id)
    (hroute : ∀ slot, route (change slot) = some handler) :
    placeReplace key id table = none ∨
      ∃ index, SlotTable.placeReplace key id table = some index ∧
        Represents key route (table.modify index change)
          (bind bound id handler) := by
  rcases scan_cases hrep hsafe hkey hroute with
    ⟨before, slot, after, rfl, hzero, hid, hslot, hnext⟩ | ⟨hzero, hid⟩
  · right
    refine ⟨before.length, ?_, ?_⟩
    · rw [placeReplace_append hzero hid]
      rcases hslot with ⟨-, hslot, -⟩ | hslot <;>
        simp [SlotTable.placeReplace, List.findIdx?_cons, hslot]
    · rw [modify_append_length]
      exact hnext
  · left
    rw [← List.append_nil table, placeReplace_append hzero hid]
    simp [SlotTable.placeReplace]

/-- Where any other registration ends: at the record of key `0`. -/
private theorem overwrite_cases
    (hrep : Represents key route table bound) (hmeets : ¬ LoadSafe bound id)
    {change : Slot → Slot} (hkey : ∀ slot, key (change slot) = id) (handler : Handler) :
    ∃ before slot free, table = before ++ slot :: free ∧
      (∀ other ∈ before, key other ≠ 0) ∧
      (∀ other ∈ before, key other ≠ id) ∧ key slot = 0 ∧
      ¬ Consistent key route (before ++ change slot :: free)
        (bind bound id handler) := by
  obtain ⟨occupied, free, rfl, hsplit, hbound⟩ := hrep
  unfold LoadSafe at hmeets
  push Not at hmeets
  obtain ⟨hid, hzero, hfresh⟩ := hmeets
  have hpresent := hzero
  rw [hbound] at hfresh
  rw [hsplit.bind_find_eq_none_iff] at hfresh
  rw [hbound, ne_eq, hsplit.bind_find_eq_none_iff] at hpresent
  push Not at hpresent
  obtain ⟨slot, hmem, hslot⟩ := hpresent
  obtain ⟨before, rfl⟩ := hsplit.zero_eq_concat hmem hslot
  refine ⟨before, slot, free, by simp, (hsplit.before_of_eq rfl).1, ?_, hslot,
    not_consistent_overwrite hsplit hid hzero (hkey slot)⟩
  exact fun other hother => hfresh other (by simp [hother])

theorem Represents.placeUnique_overwrites
    (hrep : Represents key route table bound) (hmeets : ¬ LoadSafe bound id)
    (change : Slot → Slot) (hkey : ∀ slot, key (change slot) = id)
    (handler : Handler) :
    ∃ index, SlotTable.placeUnique key id table = .at index ∧
      ¬ Consistent key route (table.modify index change)
        (bind bound id handler) := by
  obtain ⟨before, slot, free, rfl, hzero, hid, hslot, hbad⟩ :=
    overwrite_cases hrep hmeets hkey handler
  refine ⟨before.length, ?_, ?_⟩
  · rw [placeUnique_append hzero hid]
    simp [SlotTable.placeUnique, hslot]
  · rw [modify_append_length]
    exact hbad

theorem Represents.placeReplace_overwrites
    (hrep : Represents key route table bound) (hmeets : ¬ LoadSafe bound id)
    (change : Slot → Slot) (hkey : ∀ slot, key (change slot) = id)
    (handler : Handler) :
    ∃ index, SlotTable.placeReplace key id table = some index ∧
      ¬ Consistent key route (table.modify index change)
        (bind bound id handler) := by
  obtain ⟨before, slot, free, rfl, hzero, hid, hslot, hbad⟩ :=
    overwrite_cases hrep hmeets hkey handler
  refine ⟨before.length, ?_, ?_⟩
  · rw [placeReplace_append hzero hid]
    simp [SlotTable.placeReplace, List.findIdx?_cons, hslot]
  · rw [modify_append_length]
    exact hbad

end Load

section Lookup

variable {table : List Slot} {bound : ℕ → Option Handler} {id : ℕ}

/-- A registered key is found with its handler. -/
theorem Represents.find_bound
    (hrep : Represents key route table bound) {handler : Handler}
    (hbound : bound id = some handler) :
    ∃ slot, find key id table = some slot ∧ route slot = some handler := by
  obtain ⟨occupied, free, rfl, -, hall⟩ := hrep
  rw [hall, Option.bind_eq_some_iff] at hbound
  obtain ⟨slot, hfind, hroute⟩ := hbound
  exact ⟨slot, by rw [find_append, hfind, Option.some_or], hroute⟩

/-- A key that is not registered is not found, unless it is the marker and
the table has a free slot; then that slot is found. -/
theorem Represents.find_unbound
    (hrep : Represents key route table bound) (hbound : bound id = none) :
    (find key id table = none ∧
      (id ≠ 0 ∨ ∀ slot ∈ table, key slot ≠ 0)) ∨
    (id = 0 ∧ ∃ slot ∈ table, key slot = 0 ∧
      find key id table = some slot ∧ route slot = none) := by
  obtain ⟨occupied, free, rfl, hsplit, hall⟩ := hrep
  rw [hall, hsplit.bind_find_eq_none_iff] at hbound
  have hoccupied : find key id occupied = none :=
    (find_eq_none_iff id occupied).mpr hbound
  rw [find_append, hoccupied, Option.none_or]
  by_cases hid : id = 0
  · subst hid
    cases free with
    | nil => exact Or.inl ⟨rfl, Or.inr (by simpa using hbound)⟩
    | cons slot rest =>
        have hslot : key slot = 0 := hsplit.free_key slot (by simp)
        right
        exact ⟨rfl, slot, by simp, hslot, find_cons_of_eq hslot rest,
          hsplit.free_route slot (by simp)⟩
  · left
    refine ⟨?_, Or.inl hid⟩
    rw [find_eq_none_iff]
    intro slot hmem heq
    exact hid (heq ▸ hsplit.free_key slot hmem)

end Lookup

end SlotTable

import EziotSdk.CStrings

/-!
# Parsed JSON documents

The tree that `bscJSON_Parse` builds and the accessors of `bscJSON.c` that
the modelled functions use.  A node's own name is kept with its parent.  A
number is the value of its `double`; `valueint` is derived from it with the
saturation of `parse_number`.
-/

/-- A node of the tree. -/
inductive BscJson where
  | null
  | bool (value : Bool)
  | number (value : ℚ)
  | string (value : CString)
  | array (items : List BscJson)
  | object (members : List (CString × BscJson))
  deriving Repr

namespace BscJson

def intMax : ℤ := 2 ^ 31 - 1

def intMin : ℤ := -2 ^ 31

/-- The children in order, each with its name; the elements of an array have
none. -/
def children : BscJson → List (Option CString × BscJson)
  | .array items => items.map fun item => (none, item)
  | .object members => members.map fun member => (some member.1, member.2)
  | _ => []

def getArraySize (json : BscJson) : ℕ := json.children.length

def getArrayItem (json : BscJson) (index : ℕ) :
    Option (Option CString × BscJson) :=
  json.children[index]?

/-- The first child whose name matches up to case; children without a name
are passed over. -/
def getObjectItem (name : CString) (json : BscJson) : Option BscJson :=
  (json.children.find? fun child =>
    match child.1 with
    | some own => CString.caseInsensitiveEq name own
    | none => false).map Prod.snd

/-- The conversion of a `double` to `int` by truncation, with saturation. -/
def saturate (value : ℚ) : ℤ :=
  if (intMax : ℚ) ≤ value then intMax
  else if value ≤ (intMin : ℚ) then intMin
  else value.num.tdiv value.den

def valueint : BscJson → ℤ
  | .number value => saturate value
  | .bool true => 1
  | _ => 0

def valuedouble : BscJson → ℚ
  | .number value => value
  | _ => 0

/-- `none` for the NULL pointer of a node that is not a string. -/
def valuestring : BscJson → Option CString
  | .string value => some value
  | _ => none

@[simp] theorem children_array (items : List BscJson) :
    (array items).children = items.map fun item => (none, item) := rfl

@[simp] theorem children_object (members : List (CString × BscJson)) :
    (object members).children =
      members.map fun member => (some member.1, member.2) := rfl

@[simp] theorem getArraySize_array (items : List BscJson) :
    (array items).getArraySize = items.length := by
  simp [getArraySize]

@[simp] theorem getArraySize_object (members : List (CString × BscJson)) :
    (object members).getArraySize = members.length := by
  simp [getArraySize]

@[simp] theorem getArrayItem_array (items : List BscJson) (index : ℕ) :
    (array items).getArrayItem index =
      items[index]?.map fun item => (none, item) := by
  simp [getArrayItem]

@[simp] theorem getArrayItem_object
    (members : List (CString × BscJson)) (index : ℕ) :
    (object members).getArrayItem index =
      members[index]?.map fun member => (some member.1, member.2) := by
  simp [getArrayItem]

@[simp] theorem getObjectItem_object_nil (name : CString) :
    (object []).getObjectItem name = none := rfl

theorem getObjectItem_object_cons
    (name own : CString) (value : BscJson)
    (rest : List (CString × BscJson)) :
    (object ((own, value) :: rest)).getObjectItem name =
      if CString.caseInsensitiveEq name own then some value
      else (object rest).getObjectItem name := by
  simp only [getObjectItem, children_object, List.map_cons, List.find?_cons]
  cases CString.caseInsensitiveEq name own <;> simp

theorem getObjectItem_object_eq_none_iff
    (name : CString) (members : List (CString × BscJson)) :
    (object members).getObjectItem name = none ↔
      ∀ member ∈ members, ¬CString.caseInsensitiveEq name member.1 := by
  simp [getObjectItem]

/-- Only the members of an object have names. -/
theorem getObjectItem_of_not_object
    (name : CString) {json : BscJson}
    (hother : ∀ members, json ≠ object members) :
    json.getObjectItem name = none := by
  cases json with
  | object members => exact absurd rfl (hother members)
  | array items => simp [getObjectItem]
  | null => rfl
  | bool value => rfl
  | number value => rfl
  | string value => rfl

theorem children_name_eq_none
    {json : BscJson} (hother : ∀ members, json ≠ object members)
    {child : Option CString × BscJson} (hmem : child ∈ json.children) :
    child.1 = none := by
  cases json with
  | object members => exact absurd rfl (hother members)
  | array items =>
      rw [children_array, List.mem_map] at hmem
      obtain ⟨item, -, rfl⟩ := hmem
      rfl
  | null => cases hmem
  | bool value => cases hmem
  | number value => cases hmem
  | string value => cases hmem

/-- What a child lookup returns is a child. -/
theorem mem_children_of_getObjectItem
    {name : CString} {json child : BscJson}
    (hitem : json.getObjectItem name = some child) :
    ∃ own, (own, child) ∈ json.children := by
  unfold getObjectItem at hitem
  rw [Option.map_eq_some_iff] at hitem
  obtain ⟨found, hfind, rfl⟩ := hitem
  exact ⟨found.1, List.mem_of_find?_eq_some hfind⟩

theorem sizeOf_child_lt
    {json child : BscJson} {own : Option CString}
    (hmem : (own, child) ∈ json.children) : sizeOf child < sizeOf json := by
  cases json with
  | array items =>
      simp only [children_array, List.mem_map, Prod.mk.injEq] at hmem
      obtain ⟨item, hitem, -, rfl⟩ := hmem
      have hlt := List.sizeOf_lt_of_mem hitem
      simp only [array.sizeOf_spec]
      omega
  | object members =>
      simp only [children_object, List.mem_map, Prod.mk.injEq] at hmem
      obtain ⟨member, hitem, -, rfl⟩ := hmem
      have hlt := List.sizeOf_lt_of_mem hitem
      obtain ⟨name, value⟩ := member
      simp only [object.sizeOf_spec, Prod.mk.sizeOf_spec] at hlt ⊢
      omega
  | null => simp [children] at hmem
  | bool value => simp [children] at hmem
  | number value => simp [children] at hmem
  | string value => simp [children] at hmem

theorem sizeOf_getObjectItem_lt
    {name : CString} {json child : BscJson}
    (hitem : json.getObjectItem name = some child) :
    sizeOf child < sizeOf json := by
  obtain ⟨own, hmem⟩ := mem_children_of_getObjectItem hitem
  exact sizeOf_child_lt hmem

/-- A whole number strictly inside the `int` range is its own `valueint`. -/
theorem saturate_intCast {value : ℤ}
    (hmin : intMin ≤ value) (hmax : value ≤ intMax) :
    saturate value = value := by
  unfold saturate
  split
  · next hle =>
      have hge : intMax ≤ value := by exact_mod_cast hle
      omega
  · split
    · next hle =>
        have hge : value ≤ intMin := by exact_mod_cast hle
        omega
    · simp

theorem saturate_intCast_bounds (value : ℤ) :
    intMin ≤ saturate value ∧ saturate value ≤ intMax := by
  unfold saturate
  split
  · decide
  · next hmax =>
      split
      · decide
      · next hmin =>
          have hlt : value < intMax := by exact_mod_cast lt_of_not_ge hmax
          have hgt : intMin < value := by exact_mod_cast lt_of_not_ge hmin
          have hself : (value : ℚ).num.tdiv (value : ℚ).den = value := by simp
          rw [hself]
          exact ⟨hgt.le, hlt.le⟩

theorem saturate_intCast_iff (value : ℤ) :
    saturate value = value ↔ intMin ≤ value ∧ value ≤ intMax := by
  constructor
  · intro hsame
    rw [← hsame]
    exact saturate_intCast_bounds value
  · rintro ⟨hmin, hmax⟩
    exact saturate_intCast hmin hmax

end BscJson

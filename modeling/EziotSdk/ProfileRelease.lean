import EziotSdk.ProfileMemory

/-!
# When a profile is released

The destructor comes to what the parser made when no array of descriptors has
a second element and no domain a second event with types.
-/

namespace EziotSdk

open HeapTraces

variable {stray : StrayVisit} {layout : SchemaLayout}

/-! ## What the parser makes -/

/-- Bytes from the start of an array are whole descriptors. -/
def Aligned (layout : SchemaLayout) : ProfileItem → Prop
  | .node (.bytes _ offset) => offset % layout.size = 0
  | _ => True

mutual

theorem placeSchema_sound {address : SchemaAddress}
    (haddress : Aligned layout (.node address)) :
    ∀ schema, (placeSchema layout address schema).Sound (Aligned layout)
  | .bool _ | .max _ => by
      rw [placeSchema]
      exact sound_bind (sound_place haddress) fun _ => sound_pure _
  | .integer _ _ | .number _ _ | .string _ _ => by
      rw [placeSchema]
      apply sound_bind (sound_place haddress)
      intro _
      exact sound_bind (sound_mallocIf (fun _ => trivial) _)
        fun _ => sound_pure _
  | .array _ _ _ itemProp => by
      rw [placeSchema]
      apply sound_bind (sound_place haddress)
      intro _
      apply sound_bind (sound_mallocIf (fun _ => trivial) _)
      intro block
      exact sound_bind (placeElements_sound _ 0 itemProp)
        fun _ => sound_pure _
  | .object _ _ _ required property => by
      rw [placeSchema]
      apply sound_bind (sound_place haddress)
      intro _
      apply sound_bind (sound_mallocIf (fun _ => trivial) _)
      intro names
      apply sound_bind (sound_mallocIf (fun _ => trivial) _)
      intro block
      exact sound_bind (placeElements_sound _ 0 property)
        fun _ => sound_pure _

theorem placeElements_sound (block index : ℕ) :
    ∀ schemas,
      (placeElements layout block index schemas).Sound (Aligned layout)
  | [] => by
      rw [placeElements]
      exact sound_pure []
  | schema :: rest => by
      rw [placeElements]
      have haligned :
          Aligned layout (.node (.bytes block (layout.size * index))) :=
        Nat.mul_mod_right layout.size index
      apply sound_bind (placeSchema_sound haligned schema)
      intro node
      exact sound_bind (placeElements_sound block (index + 1) rest)
        fun _ => sound_pure _

end

theorem placeRecord_sound (block index : ℕ) (record : ProfileRecord) :
    (placeRecord layout block index record).Sound (Aligned layout) := by
  apply sound_bind (sound_mallocIf (fun _ => trivial) _)
  intro types
  apply sound_bind
  · apply sound_eachAt
    intro field schema
    have haligned : Aligned layout (.node (.member block index field)) :=
      trivial
    exact placeSchema_sound haligned schema
  · intro schemas
    exact sound_pure _

theorem placeArray_sound (records : List ProfileRecord) :
    (placeArray layout records).Sound (Aligned layout) := by
  cases records with
  | nil => exact sound_pure none
  | cons first rest =>
      apply sound_bind (sound_malloc fun _ => trivial)
      intro block
      exact sound_bind (sound_eachAt (placeRecord_sound block) 0 _)
        fun placed => sound_pure _

theorem placeDomain_sound (domain : TslRscDomain) :
    (placeDomain layout domain).Sound (Aligned layout) := by
  apply sound_bind (placeArray_sound _)
  intro prop
  apply sound_bind (placeArray_sound _)
  intro action
  exact sound_bind (placeArray_sound _) fun event => sound_pure _

theorem placeResource_sound (resource : TslProfileResource) :
    (placeResource layout resource).Sound (Aligned layout) := by
  apply sound_bind (sound_malloc fun _ => trivial)
  intro index
  apply sound_bind (sound_malloc fun _ => trivial)
  intro domainBlock
  exact sound_bind (sound_eachAt (fun _ => placeDomain_sound) 0 _)
    fun domain => sound_pure _

theorem placeCapacity_sound (capacity : TslCapacity) :
    (placeCapacity layout capacity).Sound (Aligned layout) := by
  apply sound_bind (sound_malloc fun _ => trivial)
  intro resourceBlock
  exact sound_bind (sound_eachAt (fun _ => placeResource_sound) 0 _)
    fun resource => sound_pure _

/-! ## Arrays of one descriptor -/

mutual

/-- No array of descriptors in the schema has a second element. -/
def TslSchemaDesc.Single : TslSchemaDesc → Prop
  | .array _ _ _ itemProp => itemProp.length ≤ 1 ∧ AllSingle itemProp
  | .object _ _ _ _ property => property.length ≤ 1 ∧ AllSingle property
  | _ => True

def AllSingle : List TslSchemaDesc → Prop
  | [] => True
  | schema :: rest => schema.Single ∧ AllSingle rest

end

/-- The first element stands where the destructor looks for it. -/
theorem freeElements_singleton (block : ℕ)
    (free : SchemaAddress → List ProfileItem) :
    freeElements stray layout block [free] = free (.bytes block 0) := by
  simp [freeElements, elementAt]

/-- The second one does not. -/
theorem stray_mem_freeElements (block : ℕ)
    (first second : SchemaAddress → List ProfileItem)
    (rest : List (SchemaAddress → List ProfileItem)) :
    .node (.bytes block 1) ∈
      freeElements stray layout block (first :: second :: rest) := by
  have hnone : elementAt layout (first :: second :: rest) 1 = none := by
    unfold elementAt
    rw [Nat.mod_eq_of_lt layout.one_lt, if_neg one_ne_zero]
  apply List.mem_flatMap.mpr
  refine ⟨1, List.mem_range.mpr (by simp), ?_⟩
  rw [hnone]
  exact List.mem_cons_self

theorem not_aligned_stray (block : ℕ) :
    ¬Aligned layout (.node (.bytes block 1)) := by
  change 1 % layout.size ≠ 0
  rw [Nat.mod_eq_of_lt layout.one_lt]
  exact one_ne_zero

/-- The part of `parse_schema` that makes an array of descriptors. -/
def placeNested (layout : SchemaLayout) (schemas : List TslSchemaDesc)
    (wrap : Option ℕ → List SchemaNode → SchemaNode) :
    ProfileBuilder SchemaNode := do
  let block ← Builder.mallocIf (schemas.isEmpty = false)
  let nodes ← placeElements layout (block.getD 0) 0 schemas
  pure (wrap block nodes)

theorem placeSchema_array (address : SchemaAddress) (propKey : CString)
    (minItem maxItem : ℤ) (itemProp : List TslSchemaDesc) :
    placeSchema layout address (.array propKey minItem maxItem itemProp) =
      (do
        Builder.place address
        placeNested layout itemProp SchemaNode.array) := by
  rw [placeSchema]
  rfl

theorem placeSchema_object (address : SchemaAddress) (propKey : CString)
    (maxProps minProps : ℤ) (required : List CString)
    (property : List TslSchemaDesc) :
    placeSchema layout address
        (.object propKey maxProps minProps required property) =
      (do
        Builder.place address
        let names ← Builder.mallocIf (required ≠ [])
        placeNested layout property (SchemaNode.object names)) := by
  rw [placeSchema]
  rfl

/-- An array of at most one descriptor is released as it was made. -/
theorem placeNested_accounts
    {schemas : List TslSchemaDesc} (hlength : schemas.length ≤ 1)
    (hchild : ∀ schema ∈ schemas, ∀ address,
      (placeSchema layout address schema).Accounts
        (fun node => freeSchemaMemory stray layout node address)
        fun _ => [])
    (wrap : Option ℕ → List SchemaNode → SchemaNode) (next : ℕ) :
    ∃ block nodes,
      (placeNested layout schemas wrap next).value = wrap block nodes ∧
        ∀ item, (placeNested layout schemas wrap next).items.count item =
          (freeNested stray layout (freesOf stray layout nodes) block).count
            item := by
  match schemas with
  | [] =>
      refine ⟨none, [], ?_, ?_⟩
      · simp [placeNested, placeElements]
      · simp [placeNested, placeElements, freeNested]
  | [child] =>
      have haccounts := hchild child (List.mem_singleton_self child)
        (.bytes next 0) (next + 1)
      refine ⟨some next,
        [(placeSchema layout (.bytes next 0) child (next + 1)).value], ?_, ?_⟩
      · simp [placeNested, placeElements]
      · intro item
        have hcount := haccounts item
        simp only [List.count_nil, Nat.add_zero] at hcount
        simp only [freesOf, freeNested, freeElements_singleton,
          List.count_append, ← hcount]
        simp [placeNested, placeElements, List.count_cons]
  | _ :: _ :: _ => simp at hlength

/-- The destructor leaves the array only when it has no second descriptor. -/
theorem single_of_placeNested
    {schemas : List TslSchemaDesc}
    (hchild : ∀ schema ∈ schemas, ∀ address next,
      (∀ item ∈ freeSchemaMemory stray layout
          (placeSchema layout address schema next).value address,
        Aligned layout item) → schema.Single)
    (wrap : Option ℕ → List SchemaNode → SchemaNode) (next : ℕ) :
    ∃ block nodes,
      (placeNested layout schemas wrap next).value = wrap block nodes ∧
        ((∀ item ∈ freeNested stray layout (freesOf stray layout nodes) block,
          Aligned layout item) →
          schemas.length ≤ 1 ∧ AllSingle schemas) := by
  match schemas with
  | [] =>
      refine ⟨none, [], ?_, ?_⟩
      · simp [placeNested, placeElements]
      · intro _
        exact ⟨Nat.zero_le 1, trivial⟩
  | [child] =>
      refine ⟨some next,
        [(placeSchema layout (.bytes next 0) child (next + 1)).value], ?_, ?_⟩
      · simp [placeNested, placeElements]
      · intro haligned
        simp only [freesOf, freeNested, freeElements_singleton,
          List.forall_mem_append] at haligned
        have hsingle := hchild child (List.mem_singleton_self child) _ _
          haligned.1
        exact ⟨Nat.le_refl 1, hsingle, trivial⟩
  | first :: second :: rest =>
      let placed := (placeElements layout next 0 (first :: second :: rest)
        (next + 1)).value
      refine ⟨some next, placed, ?_, ?_⟩
      · simp [placeNested, placed]
      · intro haligned
        have hstray := haligned (.node (.bytes next 1)) (by
          apply List.mem_append_left
          simp only [placed, placeElements, Builder.bind_apply,
            Builder.pure_apply, freesOf]
          exact stray_mem_freeElements next _ _ _)
        exact absurd hstray (not_aligned_stray next)

mutual

theorem placeSchema_accounts (stray : StrayVisit) (layout : SchemaLayout) :
    ∀ schema : TslSchemaDesc, schema.Single → ∀ address,
      (placeSchema layout address schema).Accounts
        (fun node => freeSchemaMemory stray layout node address)
        fun _ => []
  | .bool _, _, address | .max _, _, address => by
      intro next item
      simp [placeSchema, freeSchemaMemory]
  | .integer _ _, _, address | .number _ _, _, address
  | .string _ _, _, address => by
      intro next item
      simp only [placeSchema, Builder.bind_apply, Builder.mallocIf_apply]
      split <;> simp [freeSchemaMemory, released]
  | .array _ _ _ itemProp, hsingle, address => by
      intro next item
      obtain ⟨block, nodes, hvalue, hitems⟩ :=
        placeNested_accounts hsingle.1
          (allSchemas_accounts stray layout itemProp hsingle.2)
          SchemaNode.array next
      rw [placeSchema_array, Builder.bind_apply, Builder.place_apply]
      simp only [hvalue, freeSchemaMemory, List.count_append, List.count_cons,
        List.count_nil, hitems item]
      omega
  | .object _ _ _ required property, hsingle, address => by
      intro next item
      have hnested := placeNested_accounts hsingle.1
        (allSchemas_accounts stray layout property hsingle.2)
      rw [placeSchema_object]
      simp only [Builder.bind_apply, Builder.place_apply,
        Builder.mallocIf_apply]
      split
      · obtain ⟨block, nodes, hvalue, hitems⟩ :=
          hnested (SchemaNode.object (some next)) (next + 1)
        simp only [hvalue, freeSchemaMemory, released, List.count_append,
          List.count_cons, List.count_nil, hitems item]
        omega
      · obtain ⟨block, nodes, hvalue, hitems⟩ :=
          hnested (SchemaNode.object none) next
        simp only [hvalue, freeSchemaMemory, released, List.count_append,
          List.count_cons, List.count_nil, hitems item]
        omega

theorem allSchemas_accounts (stray : StrayVisit) (layout : SchemaLayout) :
    ∀ schemas : List TslSchemaDesc, AllSingle schemas →
      ∀ schema ∈ schemas, ∀ address,
        (placeSchema layout address schema).Accounts
          (fun node => freeSchemaMemory stray layout node address)
          fun _ => []
  | [], _, schema, hmem => by cases hmem
  | first :: rest, hsingle, schema, hmem => by
      rcases List.mem_cons.mp hmem with hfirst | hrest
      · rw [hfirst]
        exact placeSchema_accounts stray layout first hsingle.1
      · exact allSchemas_accounts stray layout rest hsingle.2 schema hrest

end

mutual

theorem single_of_aligned (stray : StrayVisit) (layout : SchemaLayout) :
    ∀ (schema : TslSchemaDesc) (address : SchemaAddress) (next : ℕ),
      (∀ item ∈ freeSchemaMemory stray layout
          (placeSchema layout address schema next).value address,
        Aligned layout item) → schema.Single
  | .bool _, _, _, _ | .max _, _, _, _ | .integer _ _, _, _, _
  | .number _ _, _, _, _ | .string _ _, _, _, _ => trivial
  | .array _ _ _ itemProp, address, next, haligned => by
      obtain ⟨block, nodes, hvalue, hsingle⟩ :=
        single_of_placeNested (allSingle_of_aligned stray layout itemProp)
          SchemaNode.array next
      rw [placeSchema_array, Builder.bind_apply, Builder.place_apply] at haligned
      simp only [hvalue, freeSchemaMemory, List.forall_mem_cons] at haligned
      exact hsingle haligned.2
  | .object _ _ _ required property, address, next, haligned => by
      have hnested :=
        single_of_placeNested (allSingle_of_aligned stray layout property)
      rw [placeSchema_object] at haligned
      simp only [Builder.bind_apply, Builder.place_apply] at haligned
      obtain ⟨block, nodes, hvalue, hsingle⟩ :=
        hnested (SchemaNode.object
          ((Builder.mallocIf (required ≠ []) : ProfileBuilder (Option ℕ))
            next).value)
          ((Builder.mallocIf (required ≠ []) : ProfileBuilder (Option ℕ))
            next).next
      rw [hvalue, freeSchemaMemory, List.forall_mem_append] at haligned
      exact hsingle haligned.2

theorem allSingle_of_aligned (stray : StrayVisit) (layout : SchemaLayout) :
    ∀ schemas : List TslSchemaDesc, ∀ schema ∈ schemas, ∀ address next,
      (∀ item ∈ freeSchemaMemory stray layout
          (placeSchema layout address schema next).value address,
        Aligned layout item) → schema.Single
  | [], schema, hmem => by cases hmem
  | first :: rest, schema, hmem => by
      rcases List.mem_cons.mp hmem with hfirst | hrest
      · rw [hfirst]
        exact single_of_aligned stray layout first
      · exact allSingle_of_aligned stray layout rest schema hrest

end

/-! ## Records -/

/-- The schemas of a record have no second descriptors. -/
def ProfileRecord.Single (record : ProfileRecord) : Prop :=
  ∀ schema ∈ record.schemas, schema.Single

theorem placeRecord_accounts (stray : StrayVisit) (layout : SchemaLayout)
    (block index : ℕ) {record : ProfileRecord} (hsingle : record.Single) :
    (placeRecord layout block index record).Accounts
      (freeRecord stray layout block index)
      fun node => released node.types := by
  intro next item
  have hschemas := accounts_eachAt (fun schema hschema field =>
    placeSchema_accounts stray layout schema (hsingle schema hschema)
      (.member block index field)) 0
  have hnone (nodes : List SchemaNode) :
      (nodes.flatMap fun _ => ([] : List ProfileItem)) = [] :=
    List.flatMap_eq_nil_iff.mpr fun _ _ => rfl
  simp only [placeRecord, Builder.bind_apply, Builder.mallocIf_apply]
  split
  · have hcount := hschemas (next + 1) item
    simp only [freeRecord, released, Builder.pure_apply, List.count_append,
      hnone, List.count_nil] at hcount ⊢
    omega
  · have hcount := hschemas next item
    simp only [freeRecord, released, Builder.pure_apply, List.count_append,
      hnone, List.count_nil] at hcount ⊢
    omega

theorem single_of_freeRecord (stray : StrayVisit) (layout : SchemaLayout)
    (block index : ℕ) (record : ProfileRecord) (next : ℕ)
    (haligned : ∀ item ∈ freeRecord stray layout block index
      (placeRecord layout block index record next).value,
      Aligned layout item) : record.Single := by
  intro schema hschema
  have hwalk := forall_of_walkAt_eachAt
    (fun field schema next =>
      single_of_aligned stray layout schema (.member block index field) next)
    haligned
  exact hwalk schema hschema

theorem types_placeRecord_iff (block index : ℕ) (record : ProfileRecord)
    (next : ℕ) :
    (released (placeRecord layout block index record next).value.types :
      List ProfileItem) = [] ↔ record.types = [] := by
  simp only [placeRecord, Builder.bind_apply, Builder.mallocIf_apply]
  split <;> simp_all [released]

/-! ## Arrays of records -/

/-- The types that no record has released. -/
def typesOf (records : List RecordNode) : List ProfileItem :=
  records.flatMap fun node => released node.types

def arrayTypes : Option RecordArray → List ProfileItem
  | none => []
  | some array => typesOf array.records

def laterTypes : Option RecordArray → List ProfileItem
  | none => []
  | some array => typesOf array.records.tail

theorem placeArray_accounts (stray : StrayVisit) (layout : SchemaLayout)
    {records : List ProfileRecord}
    (hsingle : ∀ record ∈ records, record.Single) :
    (placeArray layout records).Accounts
      (freeArray (freeRecords stray layout)) arrayTypes := by
  cases records with
  | nil =>
      intro next item
      rfl
  | cons first rest =>
      intro next item
      have harray : (Builder.eachAt (placeRecord layout next) 0
          (first :: rest)).Accounts
            (walkAt (freeRecord stray layout next) 0) typesOf :=
        accounts_eachAt (fun record hrecord index => placeRecord_accounts
          stray layout next index (hsingle record hrecord)) 0
      have hcount := harray (next + 1) item
      simp only [placeArray, Builder.bind_apply, Builder.malloc_apply,
        Builder.pure_apply, freeArray, freeRecords, arrayTypes, typesOf,
        List.count_append, List.append_nil] at hcount ⊢
      omega

/-- The destructor of events also releases the types of the first one. -/
theorem placeEvents_accounts (stray : StrayVisit) (layout : SchemaLayout)
    {records : List ProfileRecord}
    (hsingle : ∀ record ∈ records, record.Single) :
    (placeArray layout records).Accounts
      (freeArray (freeEventsMemory stray layout)) laterTypes := by
  intro next item
  have hcount := placeArray_accounts stray layout hsingle next item
  rw [hcount]
  cases (placeArray layout records next).value with
  | none => rfl
  | some array =>
      simp only [freeArray, freeEventsMemory, arrayTypes, laterTypes, typesOf]
      cases array.records with
      | nil => simp [released]
      | cons first rest =>
          simp only [List.head?_cons, Option.bind_some, List.flatMap_cons,
            List.tail_cons, List.count_append]
          omega

theorem single_of_freeArray (stray : StrayVisit) (layout : SchemaLayout)
    {records : List ProfileRecord} {next : ℕ}
    (haligned : ∀ item ∈ freeArray (freeRecords stray layout)
      (placeArray layout records next).value, Aligned layout item) :
    ∀ record ∈ records, record.Single := by
  cases records with
  | nil =>
      intro record hmem
      cases hmem
  | cons first rest =>
      apply forall_of_walkAt_eachAt
        (fun index record => single_of_freeRecord stray layout next index record)
      intro item hitem
      exact haligned item (List.mem_append_left _ hitem)

/-- The destructor of events comes to all that the one of records comes to. -/
theorem aligned_of_freeEvents
    {array : Option RecordArray}
    (haligned : ∀ item ∈ freeArray (freeEventsMemory stray layout) array,
      Aligned layout item) :
    ∀ item ∈ freeArray (freeRecords stray layout) array,
      Aligned layout item := by
  cases array with
  | none => exact haligned
  | some array =>
      intro item hitem
      apply haligned item
      rw [freeArray, freeEventsMemory, List.append_assoc]
      exact List.mem_append_right _ hitem

theorem arrayTypes_eq_nil_iff (records : List ProfileRecord) (next : ℕ) :
    arrayTypes (placeArray layout records next).value = [] ↔
      ∀ record ∈ records, record.types = [] := by
  cases records with
  | nil => simp [placeArray, arrayTypes]
  | cons first rest =>
      change typesOf (Builder.eachAt (placeRecord layout next) 0
        (first :: rest) (next + 1)).value = [] ↔ _
      rw [typesOf, List.flatMap_eq_nil_iff]
      exact forall_eachAt_iff (types_placeRecord_iff next) 0 (first :: rest)
        (next + 1)

theorem laterTypes_eq_nil_iff (records : List ProfileRecord) (next : ℕ) :
    laterTypes (placeArray layout records next).value = [] ↔
      ∀ record ∈ records.tail, record.types = [] := by
  cases records with
  | nil => simp [placeArray, laterTypes]
  | cons first rest =>
      change typesOf (Builder.eachAt (placeRecord layout next) 1 rest
        (placeRecord layout next 0 first (next + 1)).next).value = [] ↔ _
      rw [typesOf, List.flatMap_eq_nil_iff]
      exact forall_eachAt_iff (types_placeRecord_iff next) 1 rest _

/-! ## Domains, resources and the capacity -/

def TslRscDomain.records (domain : TslRscDomain) : List ProfileRecord :=
  domain.prop.map TslDomainProp.record ++
    domain.action.map TslDomainAction.record ++
      domain.event.map TslDomainEvent.record

def PlacedDomain.lost (domain : PlacedDomain) : List ProfileItem :=
  arrayTypes domain.prop ++ arrayTypes domain.action ++
    laterTypes domain.event

def PlacedResource.lost (resource : PlacedResource) : List ProfileItem :=
  resource.domain.flatMap PlacedDomain.lost

def PlacedCapacity.lost (capacity : PlacedCapacity) : List ProfileItem :=
  capacity.resource.flatMap PlacedResource.lost

/-- The schemas have no second descriptors anywhere. -/
def TslRscDomain.Single (domain : TslRscDomain) : Prop :=
  ∀ record ∈ domain.records, record.Single

theorem placeDomain_accounts (stray : StrayVisit) (layout : SchemaLayout)
    {domain : TslRscDomain} (hsingle : domain.Single) :
    (placeDomain layout domain).Accounts (freeDomainMemory stray layout)
      PlacedDomain.lost := by
  unfold TslRscDomain.Single TslRscDomain.records at hsingle
  rw [List.forall_mem_append, List.forall_mem_append] at hsingle
  obtain ⟨⟨hprop, haction⟩, hevent⟩ := hsingle
  intro next item
  have hfirst := placeArray_accounts stray layout hprop next item
  have hsecond := placeArray_accounts stray layout haction
    (placeArray layout (domain.prop.map TslDomainProp.record) next).next item
  have hthird := placeEvents_accounts stray layout hevent
    (placeArray layout (domain.action.map TslDomainAction.record)
      (placeArray layout (domain.prop.map TslDomainProp.record) next).next).next
    item
  simp only [placeDomain, Builder.bind_apply, Builder.pure_apply,
    freeDomainMemory, PlacedDomain.lost, List.count_append, List.append_nil]
  omega

theorem placeResource_accounts (stray : StrayVisit) (layout : SchemaLayout)
    {resource : TslProfileResource}
    (hsingle : ∀ domain ∈ resource.domain, domain.Single) :
    (placeResource layout resource).Accounts (freeResource stray layout)
      PlacedResource.lost := by
  intro next item
  have hdomains : (Builder.eachAt (fun _ => placeDomain layout) 0
      resource.domain).Accounts
        (walkAt (fun _ => freeDomainMemory stray layout) 0)
        fun domains => domains.flatMap PlacedDomain.lost :=
    accounts_eachAt (fun domain hdomain _ =>
      placeDomain_accounts stray layout (hsingle domain hdomain)) 0
  have hcount := hdomains (next + 1 + 1) item
  simp only [placeResource, Builder.bind_apply, Builder.malloc_apply,
    Builder.pure_apply, freeResource, PlacedResource.lost, List.count_append,
    List.count_cons, List.count_nil, List.append_nil] at hcount ⊢
  omega

theorem placeCapacity_accounts (stray : StrayVisit) (layout : SchemaLayout)
    {capacity : TslCapacity}
    (hsingle : ∀ resource ∈ capacity.resource,
      ∀ domain ∈ resource.domain, domain.Single) :
    (placeCapacity layout capacity).Accounts (freeProfileMemory stray layout)
      PlacedCapacity.lost := by
  intro next item
  have hresources : (Builder.eachAt (fun _ => placeResource layout) 0
      capacity.resource).Accounts
        (walkAt (fun _ => freeResource stray layout) 0)
        fun resources => resources.flatMap PlacedResource.lost :=
    accounts_eachAt (fun resource hresource _ =>
      placeResource_accounts stray layout (hsingle resource hresource)) 0
  have hcount := hresources (next + 1) item
  simp only [placeCapacity, Builder.bind_apply, Builder.malloc_apply,
    Builder.pure_apply, freeProfileMemory, PlacedCapacity.lost,
    List.count_append, List.append_nil] at hcount ⊢
  omega

theorem single_of_freeDomain (stray : StrayVisit) (layout : SchemaLayout)
    (domain : TslRscDomain) (next : ℕ)
    (haligned : ∀ item ∈ freeDomainMemory stray layout
      (placeDomain layout domain next).value, Aligned layout item) :
    domain.Single := by
  simp only [freeDomainMemory, placeDomain, Builder.bind_apply,
    Builder.pure_apply, List.forall_mem_append] at haligned
  obtain ⟨⟨hprop, haction⟩, hevent⟩ := haligned
  unfold TslRscDomain.Single TslRscDomain.records
  rw [List.forall_mem_append, List.forall_mem_append]
  constructor
  · constructor
    · exact single_of_freeArray stray layout hprop
    · exact single_of_freeArray stray layout haction
  · exact single_of_freeArray stray layout (aligned_of_freeEvents hevent)

theorem single_of_freeResource (stray : StrayVisit) (layout : SchemaLayout)
    (resource : TslProfileResource) (next : ℕ)
    (haligned : ∀ item ∈ freeResource stray layout
      (placeResource layout resource next).value, Aligned layout item) :
    ∀ domain ∈ resource.domain, domain.Single := by
  apply forall_of_walkAt_eachAt
    (fun _ domain => single_of_freeDomain stray layout domain)
  intro item hitem
  apply haligned item
  exact List.mem_append_left _ (List.mem_cons_of_mem _ hitem)

theorem single_of_freeProfile (stray : StrayVisit) (layout : SchemaLayout)
    (capacity : TslCapacity) (next : ℕ)
    (haligned : ∀ item ∈ freeProfileMemory stray layout
      (placeCapacity layout capacity next).value, Aligned layout item) :
    ∀ resource ∈ capacity.resource, ∀ domain ∈ resource.domain,
      domain.Single := by
  apply forall_of_walkAt_eachAt
    (fun _ resource => single_of_freeResource stray layout resource)
  intro item hitem
  exact haligned item (List.mem_append_left _ hitem)

/-- Properties and actions have no types, so what is lost are the types of the
later events. -/
theorem lost_placeDomain_iff (domain : TslRscDomain) (next : ℕ) :
    (placeDomain layout domain next).value.lost = [] ↔
      ∀ event ∈ domain.event.tail, event.eventType = [] := by
  simp only [placeDomain, Builder.bind_apply, Builder.pure_apply,
    PlacedDomain.lost, List.append_eq_nil_iff, arrayTypes_eq_nil_iff,
    laterTypes_eq_nil_iff, ← List.map_tail, List.forall_mem_map]
  simp [TslDomainProp.record, TslDomainAction.record, TslDomainEvent.record]

theorem lost_placeCapacity_iff (capacity : TslCapacity) (next : ℕ) :
    (placeCapacity layout capacity next).value.lost = [] ↔
      ∀ resource ∈ capacity.resource, ∀ domain ∈ resource.domain,
        ∀ event ∈ domain.event.tail, event.eventType = [] := by
  have hresource (resource : TslProfileResource) (next : ℕ) :
      (placeResource layout resource next).value.lost = [] ↔
        ∀ domain ∈ resource.domain,
          ∀ event ∈ domain.event.tail, event.eventType = [] := by
    change (Builder.eachAt (fun _ => placeDomain layout) 0 resource.domain
      (next + 1 + 1)).value.flatMap PlacedDomain.lost = [] ↔ _
    rw [List.flatMap_eq_nil_iff]
    exact forall_eachAt_iff (fun _ => lost_placeDomain_iff) 0 _ _
  change (Builder.eachAt (fun _ => placeResource layout) 0 capacity.resource
    (next + 1)).value.flatMap PlacedResource.lost = [] ↔ _
  rw [List.flatMap_eq_nil_iff]
  exact forall_eachAt_iff (fun _ => hresource) 0 _ _

/-! ## The destructor -/

/-- The destructor comes to what was made, and to no block twice. -/
structure ReleasedOnce (made freed : List ProfileItem) : Prop where
  same : freed.Perm made
  once : (freed.filterMap Item.blockId).Nodup

/-- The destructor finds all descriptors, and all event types belong to first
events. -/
structure TslRscDomain.Releasable (domain : TslRscDomain) : Prop where
  schemas : domain.Single
  types : ∀ event ∈ domain.event.tail, event.eventType = []

/-- A capacity is released as it was made exactly when its domains can be. -/
theorem profile_releasedOnce_iff (stray : StrayVisit) (layout : SchemaLayout)
    (capacity : TslCapacity) (next : ℕ) :
    ReleasedOnce (placeCapacity layout capacity next).items
        (freeProfileMemory stray layout
          (placeCapacity layout capacity next).value) ↔
      ∀ resource ∈ capacity.resource, ∀ domain ∈ resource.domain,
        domain.Releasable := by
  have hmade : Makes (Aligned layout) (placeCapacity layout capacity) next :=
    placeCapacity_sound capacity next
  constructor
  · intro hreleased resource hresource domain hdomain
    have haligned : ∀ item ∈ freeProfileMemory stray layout
        (placeCapacity layout capacity next).value, Aligned layout item := by
      intro item hitem
      exact hmade.all item (hreleased.same.mem_iff.mp hitem)
    have hsingle := single_of_freeProfile stray layout capacity next haligned
    have hlost :=
      ((placeCapacity_accounts stray layout hsingle).perm_iff next).mp
        hreleased.same
    constructor
    · exact hsingle resource hresource domain hdomain
    · exact (lost_placeCapacity_iff capacity next).mp hlost resource hresource
        domain hdomain
  · intro hreleasable
    have hsingle : ∀ resource ∈ capacity.resource,
        ∀ domain ∈ resource.domain, domain.Single := by
      intro resource hresource domain hdomain
      exact (hreleasable resource hresource domain hdomain).schemas
    have hlost : (placeCapacity layout capacity next).value.lost = [] := by
      rw [lost_placeCapacity_iff]
      intro resource hresource domain hdomain
      exact (hreleasable resource hresource domain hdomain).types
    have hsame :=
      ((placeCapacity_accounts stray layout hsingle).perm_iff next).mpr hlost
    constructor
    · exact hsame
    · exact (hsame.filterMap Item.blockId).nodup_iff.mpr hmade.nodup

/-- A lamp with a colour of two members, of which the second has an enum, and
with two events. -/
def colourCapacity : TslCapacity where
  devType := "lamp".toList
  devFwVer := "1.0".toList
  resource := [{
    rscCategory := "global".toList
    indexNum := 1
    index := CString.Cells.padded "0".toList maxLocalIndexLength
    domain := [{
      identifier := "light".toList
      prop := [⟨"colour".toList, accessRead, [],
        .object [] 0 0 []
          [.bool "on".toList, .string "hue".toList ⟨0, 0, ["red".toList]⟩]⟩]
      action := []
      event := ["hot", "dark"].map fun name =>
        ⟨name.toList, [], ["info".toList], .bool [], .bool []⟩
    }]
  }]

def layout64 : SchemaLayout := ⟨96, by decide⟩

/-- The second member is looked for one byte behind the first, so its enum is
never released, and neither are the types of the second event. -/
theorem colour_not_released :
    let built := placeCapacity layout64 colourCapacity 0
    let freed := freeProfileMemory (fun _ => []) layout64 built.value
    .node (.bytes 4 96) ∈ built.items ∧ .node (.bytes 4 96) ∉ freed ∧
      .node (.bytes 4 1) ∉ built.items ∧ .node (.bytes 4 1) ∈ freed ∧
      .block 5 ∈ built.items ∧ .block 5 ∉ freed ∧
      .block 8 ∈ built.items ∧ .block 8 ∉ freed ∧
      ¬ReleasedOnce built.items freed := by
  have hstray : .node (.bytes 4 1) ∉
      (placeCapacity layout64 colourCapacity 0).items := by
    decide +kernel
  have hvisited : .node (.bytes 4 1) ∈ freeProfileMemory (fun _ => []) layout64
      (placeCapacity layout64 colourCapacity 0).value := by
    decide +kernel
  refine ⟨by decide +kernel, by decide +kernel, hstray, hvisited,
    by decide +kernel, by decide +kernel, by decide +kernel,
    by decide +kernel, ?_⟩
  intro hreleased
  exact hstray (hreleased.same.mem_iff.mp hvisited)

end EziotSdk

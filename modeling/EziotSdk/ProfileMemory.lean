import EziotSdk.HeapTraces
import EziotSdk.ProfileParse

/-!
# The memory of a profile

The blocks and descriptors that `profile_parse` makes for a capacity, and those
that `free_profile_memory` comes to.  The parser multiplies an index with the
size of a descriptor before it adds it to a `void` pointer, the destructor does
not; and the destructor releases the types of the first event only.
-/

namespace EziotSdk

open HeapTraces

/-! ## Addresses -/

/-- A descriptor is a member of a record, or stands at a number of bytes from a
`void` pointer. -/
inductive SchemaAddress where
  | member (block index field : ℕ)
  | bytes (block offset : ℕ)
  deriving DecidableEq, Repr

abbrev ProfileItem := Item SchemaAddress

abbrev ProfileBuilder := Builder SchemaAddress

/-- `sizeof(tsl_schema_desc)`, which depends on the platform. -/
structure SchemaLayout where
  size : ℕ
  one_lt : 1 < size

/-- The pointers of a descriptor in memory. -/
inductive SchemaNode where
  | plain
  | enum (block : Option ℕ)
  | array (itemProp : Option ℕ) (nodes : List SchemaNode)
  | object (required property : Option ℕ) (nodes : List SchemaNode)
  deriving Repr

/-! ## The constructor -/

mutual

/-- `parse_schema`, as far as it allocates. -/
def placeSchema (layout : SchemaLayout) (address : SchemaAddress) :
    TslSchemaDesc → ProfileBuilder SchemaNode
  | .bool _ => do
      Builder.place address
      pure .plain
  | .integer _ typeInteger => do
      Builder.place address
      let intEnum ← Builder.mallocIf (typeInteger.intEnum ≠ [])
      pure (.enum intEnum)
  | .number _ typeNumber => do
      Builder.place address
      let numEnum ← Builder.mallocIf (typeNumber.numEnum ≠ [])
      pure (.enum numEnum)
  | .string _ typeString => do
      Builder.place address
      let strEnum ← Builder.mallocIf (typeString.strEnum ≠ [])
      pure (.enum strEnum)
  | .array _ _ _ itemProp => do
      Builder.place address
      let block ← Builder.mallocIf (itemProp.isEmpty = false)
      let nodes ← placeElements layout (block.getD 0) 0 itemProp
      pure (.array block nodes)
  | .object _ _ _ required property => do
      Builder.place address
      let names ← Builder.mallocIf (required ≠ [])
      let block ← Builder.mallocIf (property.isEmpty = false)
      let nodes ← placeElements layout (block.getD 0) 0 property
      pure (.object names block nodes)
  | .max _ => do
      Builder.place address
      pure .plain

/-- Descriptor number `index` is placed `sizeof(tsl_schema_desc) * index` bytes
from the start. -/
def placeElements (layout : SchemaLayout) (block : ℕ) :
    ℕ → List TslSchemaDesc → ProfileBuilder (List SchemaNode)
  | _, [] => pure []
  | index, schema :: rest => do
      let node ← placeSchema layout (.bytes block (layout.size * index)) schema
      let nodes ← placeElements layout block (index + 1) rest
      pure (node :: nodes)

end

/-- A property, an action or an event, with its schemas and event types. -/
structure ProfileRecord where
  types : List CString
  schemas : List TslSchemaDesc

def TslDomainProp.record (prop : TslDomainProp) : ProfileRecord where
  types := []
  schemas := [prop.propDesc]

def TslDomainAction.record (action : TslDomainAction) : ProfileRecord where
  types := []
  schemas := [action.inputSchema, action.outputSchema]

def TslDomainEvent.record (event : TslDomainEvent) : ProfileRecord where
  types := event.eventType
  schemas := [event.inputSchema, event.outputSchema]

structure RecordNode where
  types : Option ℕ
  schemas : List SchemaNode
  deriving Repr

structure RecordArray where
  block : ℕ
  records : List RecordNode
  deriving Repr

/-- The loops of `parse_domain_props`, `parse_domain_actions` and
`parse_domain_events`. -/
def placeRecord (layout : SchemaLayout) (block index : ℕ)
    (record : ProfileRecord) : ProfileBuilder RecordNode := do
  let types ← Builder.mallocIf (record.types ≠ [])
  let schemas ← Builder.eachAt
    (fun field => placeSchema layout (.member block index field)) 0
    record.schemas
  pure ⟨types, schemas⟩

def placeArray (layout : SchemaLayout) (records : List ProfileRecord) :
    ProfileBuilder (Option RecordArray) :=
  match records with
  | [] => pure none
  | first :: rest => do
      let block ← Builder.malloc
      let placed ← Builder.eachAt (placeRecord layout block) 0 (first :: rest)
      pure (some ⟨block, placed⟩)

structure PlacedDomain where
  prop : Option RecordArray
  action : Option RecordArray
  event : Option RecordArray
  deriving Repr

/-- `parse_domain`. -/
def placeDomain (layout : SchemaLayout) (domain : TslRscDomain) :
    ProfileBuilder PlacedDomain := do
  let prop ← placeArray layout (domain.prop.map TslDomainProp.record)
  let action ← placeArray layout (domain.action.map TslDomainAction.record)
  let event ← placeArray layout (domain.event.map TslDomainEvent.record)
  pure ⟨prop, action, event⟩

structure PlacedResource where
  index : ℕ
  domainBlock : ℕ
  domain : List PlacedDomain
  deriving Repr

def placeResource (layout : SchemaLayout) (resource : TslProfileResource) :
    ProfileBuilder PlacedResource := do
  let index ← Builder.malloc
  let domainBlock ← Builder.malloc
  let domain ← Builder.eachAt (fun _ => placeDomain layout) 0 resource.domain
  pure ⟨index, domainBlock, domain⟩

structure PlacedCapacity where
  resourceBlock : ℕ
  resource : List PlacedResource
  deriving Repr

/-- `profile_parse`. -/
def placeCapacity (layout : SchemaLayout) (capacity : TslCapacity) :
    ProfileBuilder PlacedCapacity := do
  let resourceBlock ← Builder.malloc
  let resource ← Builder.eachAt (fun _ => placeResource layout) 0
    capacity.resource
  pure ⟨resourceBlock, resource⟩

/-! ## The destructor -/

/-- The descriptor that stands at a number of bytes, if one starts there. -/
def elementAt {α : Type} (layout : SchemaLayout) (elements : List α)
    (offset : ℕ) : Option α :=
  if offset % layout.size = 0 then elements[offset / layout.size]? else none

/-- What `free_schema_memory` does at an address where no descriptor starts. -/
abbrev StrayVisit := SchemaAddress → List ProfileItem

/-- The loop over `item_prop + i` or `property + i`, both `void` pointers. -/
def freeElements (stray : StrayVisit) (layout : SchemaLayout) (block : ℕ)
    (frees : List (SchemaAddress → List ProfileItem)) : List ProfileItem :=
  (List.range frees.length).flatMap fun index =>
    match elementAt layout frees index with
    | some free => free (.bytes block index)
    | none => .node (.bytes block index) :: stray (.bytes block index)

def freeNested (stray : StrayVisit) (layout : SchemaLayout)
    (frees : List (SchemaAddress → List ProfileItem)) :
    Option ℕ → List ProfileItem
  | none => []
  | some block => freeElements stray layout block frees ++ [.block block]

mutual

def freeSchemaMemory (stray : StrayVisit) (layout : SchemaLayout) :
    SchemaNode → SchemaAddress → List ProfileItem
  | .plain, address => [.node address]
  | .enum block, address => .node address :: released block
  | .array itemProp nodes, address =>
      .node address ::
        freeNested stray layout (freesOf stray layout nodes) itemProp
  | .object required property nodes, address =>
      .node address :: released required ++
        freeNested stray layout (freesOf stray layout nodes) property

def freesOf (stray : StrayVisit) (layout : SchemaLayout) :
    List SchemaNode → List (SchemaAddress → List ProfileItem)
  | [] => []
  | node :: rest =>
      freeSchemaMemory stray layout node :: freesOf stray layout rest

end

section Free

variable (stray : StrayVisit) (layout : SchemaLayout)

def freeRecord (block index : ℕ) (record : RecordNode) : List ProfileItem :=
  walkAt (fun field node =>
    freeSchemaMemory stray layout node (.member block index field)) 0
    record.schemas

/-- `free_props_memory` and `free_actions_memory`. -/
def freeRecords (array : RecordArray) : List ProfileItem :=
  walkAt (freeRecord stray layout array.block) 0 array.records

/-- Only the types of the first event are released. -/
def freeEventsMemory (array : RecordArray) : List ProfileItem :=
  released (array.records.head?.bind RecordNode.types) ++
    freeRecords stray layout array

def freeArray (free : RecordArray → List ProfileItem) :
    Option RecordArray → List ProfileItem
  | none => []
  | some array => free array ++ [.block array.block]

def freeDomainMemory (domain : PlacedDomain) : List ProfileItem :=
  freeArray (freeRecords stray layout) domain.prop ++
    freeArray (freeRecords stray layout) domain.action ++
      freeArray (freeEventsMemory stray layout) domain.event

def freeResource (resource : PlacedResource) : List ProfileItem :=
  .block resource.index ::
    walkAt (fun _ => freeDomainMemory stray layout) 0 resource.domain ++
      [.block resource.domainBlock]

def freeProfileMemory (capacity : PlacedCapacity) : List ProfileItem :=
  walkAt (fun _ => freeResource stray layout) 0 capacity.resource ++
    [.block capacity.resourceBlock]

end Free

end EziotSdk

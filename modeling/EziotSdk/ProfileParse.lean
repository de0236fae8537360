import EziotSdk.TslSchema

/-!
# The profile parser

`profile_parse.c` above the schemas: resources with their local indices,
domains, properties, actions and events.  A parse that stops leaves nothing
behind, since the capacity is freed; it stops with an error number, or because
a local index is copied past the end of its block.
-/

namespace EziotSdk

inductive ParseStop where
  | errno (rv : TslErrno)
  | overrun
  deriving DecidableEq, Repr

structure TslDomainProp where
  identifier : CString
  access : ℕ
  version : CString
  propDesc : TslSchemaDesc
  deriving Repr

structure TslDomainAction where
  identifier : CString
  version : CString
  direction : CString
  inputSchema : TslSchemaDesc
  outputSchema : TslSchemaDesc
  deriving Repr

structure TslDomainEvent where
  identifier : CString
  version : CString
  eventType : List CString
  inputSchema : TslSchemaDesc
  outputSchema : TslSchemaDesc
  deriving Repr

structure TslRscDomain where
  identifier : CString
  prop : List TslDomainProp
  action : List TslDomainAction
  event : List TslDomainEvent
  deriving Repr

/-- `index` is one block for all local indices, of eight bytes each. -/
structure TslProfileResource where
  rscCategory : CString
  indexNum : ℕ
  index : CString.Cells
  domain : List TslRscDomain
  deriving Repr

/-- The type and the version are filled in by the caller of the parser. -/
structure TslCapacity where
  devType : CString
  devFwVer : CString
  resource : List TslProfileResource
  deriving Repr

/-- A domain after `memset`. -/
def TslRscDomain.zero : TslRscDomain := ⟨[], [], [], []⟩

def maxLocalIndexLength : ℕ := 8

/-- The local index at a position, read where its eight bytes start. -/
def TslProfileResource.localIndex
    (resource : TslProfileResource) (position : ℕ) : CString :=
  CString.Cells.readString
    (resource.index.drop (maxLocalIndexLength * position))

/-! ## Keys of a profile document -/

def tslKeyVersion : CString := "version".toList
def tslKeyResources : CString := "resources".toList
def tslKeyIdentifier : CString := "identifier".toList
def tslKeyRscCategory : CString := "resourceCategory".toList
def tslKeyLocalIndex : CString := "localIndex".toList
def tslKeyDomains : CString := "domains".toList
def tslKeyProps : CString := "props".toList
def tslKeyActions : CString := "actions".toList
def tslKeyEvents : CString := "events".toList
def tslKeyAccess : CString := "access".toList
def tslKeySchema : CString := "schema".toList
def tslKeyDirection : CString := "direction".toList
def tslKeyInput : CString := "input".toList
def tslKeyOutput : CString := "output".toList
def tslKeyEventtype : CString := "eventType".toList

def maxVersionLength : ℕ := 8 - 1
def maxDirectionLength : ℕ := 16 - 1

def accessRead : ℕ := 1
def accessWrite : ℕ := 2

/-! ## Members that a part must have -/

/-- A member that is present and of its type, or the error number. -/
def required {α : Type} (found : Option α) (missing : TslErrno) :
    Except ParseStop α :=
  match found with
  | some value => .ok value
  | none => .error (.errno missing)

/-- An array that must not be empty. -/
def requireItems (js : BscJson) (key : CString) :
    Except ParseStop (List BscJson) := do
  let items ← required (memberArray js key) .paramInvalid
  if items.isEmpty then .error (.errno .internal) else .ok items

def runSchema (js : BscJson) : Except ParseStop TslSchemaDesc :=
  match parseSchema js with
  | (.succ, desc) => .ok desc
  | (rv, _) => .error (.errno rv)

/-- The schema below an `input` or `output` object; without the object the
descriptor stays zeroed. -/
def parseBody (js : BscJson) (key : CString) (missing : TslErrno) :
    Except ParseStop TslSchemaDesc :=
  match memberObject js key with
  | some body => do
      let own ← required (memberObject body tslKeySchema) missing
      runSchema own
  | none => .ok .zero

def parseVersion (js : BscJson) : CString :=
  CString.strncpy ((memberString js tslKeyVersion).getD []) maxVersionLength

def parseAccess (text : CString) : ℕ :=
  (if 'r' ∈ text then accessRead else 0) |||
    (if 'w' ∈ text then accessWrite else 0)

/-! ## Properties, actions, events -/

def parseDomainProp (js : BscJson) : Except ParseStop TslDomainProp :=
  match js with
  | .object _ => do
      let identifier ← required (memberString js tslKeyIdentifier) .paramInvalid
      let access ← required (memberString js tslKeyAccess) .paramInvalid
      let own ← required (memberObject js tslKeySchema) .paramInvalid
      let propDesc ← runSchema own
      .ok {
        identifier := CString.strncpy identifier maxNameLength
        access := parseAccess access
        version := parseVersion js
        propDesc := propDesc
      }
  | _ => .error (.errno .paramInvalid)

def parseDomainAction (js : BscJson) : Except ParseStop TslDomainAction :=
  match js with
  | .object _ => do
      let identifier ← required (memberString js tslKeyIdentifier) .paramInvalid
      let direction ← required (memberString js tslKeyDirection) .paramInvalid
      let inputSchema ← parseBody js tslKeyInput .paramInvalid
      let outputSchema ← parseBody js tslKeyOutput .paramInvalid
      .ok {
        identifier := CString.strncpy identifier maxNameLength
        version := parseVersion js
        direction := CString.strncpy direction maxDirectionLength
        inputSchema := inputSchema
        outputSchema := outputSchema
      }
  | _ => .error (.errno .internal)

/-- The loop over the types of event number `index`.  It takes the type at the
position of the event, for every cell. -/
def parseEventTypes (index : ℕ) (types : List BscJson) : List CString :=
  types.map fun _ =>
    CString.strncpy ((types[index]?.bind BscJson.valuestring).getD [])
      maxNameLength

def parseDomainEvent (index : ℕ) (js : BscJson) :
    Except ParseStop TslDomainEvent :=
  match js with
  | .object _ => do
      let identifier ← required (memberString js tslKeyIdentifier) .paramInvalid
      let types ← required (memberArray js tslKeyEventtype) .paramInvalid
      let inputSchema ← parseBody js tslKeyInput .internal
      let outputSchema ← parseBody js tslKeyOutput .internal
      .ok {
        identifier := CString.strncpy identifier maxNameLength
        version := parseVersion js
        eventType := parseEventTypes index types
        inputSchema := inputSchema
        outputSchema := outputSchema
      }
  | _ => .error (.errno .internal)

/-! ## Domains and resources -/

/-- The body of the loop over domains; a list that is absent is empty. -/
def parseOneDomain (js : BscJson) : Except ParseStop TslRscDomain := do
  let identifier ← required (memberString js tslKeyIdentifier) .paramInvalid
  let prop ← ((memberArray js tslKeyProps).getD []).mapM parseDomainProp
  let action ← ((memberArray js tslKeyActions).getD []).mapM parseDomainAction
  let event ← ((memberArray js tslKeyEvents).getD []).zipIdx.mapM
    fun item => parseDomainEvent item.2 item.1
  .ok {
    identifier := CString.strncpy identifier maxNameLength
    prop := prop
    action := action
    event := event
  }

/-- The loop over domains.  An item that is not an object ends it without an
error, and the domains from there on stay zeroed. -/
def parseDomain : List BscJson → Except ParseStop (List TslRscDomain)
  | [] => .ok []
  | .object members :: rest => do
      let domain ← parseOneDomain (.object members)
      let domains ← parseDomain rest
      .ok (domain :: domains)
  | _ :: rest => .ok (.zero :: rest.map fun _ => .zero)

/-- The loop over the local indices of resource number `number`.  Each is
copied to the byte at the position of the resource; an item that is not a
string ends the loop without an error. -/
def storeLocalIndex (number : ℕ) :
    List BscJson → CString.Cells → Except ParseStop CString.Cells
  | .string text :: rest, cells =>
      match cells.writeString number text (maxLocalIndexLength - 1) with
      | some cells => storeLocalIndex number rest cells
      | none => .error .overrun
  | _, cells => .ok cells

def parseResource (number : ℕ) (js : BscJson) :
    Except ParseStop TslProfileResource := do
  let category ← required (memberString js tslKeyRscCategory) .paramInvalid
  let jsIndex ← requireItems js tslKeyLocalIndex
  let index ← storeLocalIndex number jsIndex
    (List.replicate (maxLocalIndexLength * jsIndex.length) none)
  let jsDomain ← requireItems js tslKeyDomains
  let domain ← parseDomain jsDomain
  .ok {
    rscCategory := CString.strncpy category maxNameLength
    indexNum := jsIndex.length
    index := index
    domain := domain
  }

/-- `profile_parse`, over the tree of the profile text. -/
def profileParse (jsRoot : Option BscJson) : Except ParseStop TslCapacity :=
  match jsRoot with
  | none => .error (.errno .memory)
  | some js => do
      let _ ← required (memberString js tslKeyVersion) .paramInvalid
      let jsSrc ← requireItems js tslKeyResources
      let resource ← jsSrc.zipIdx.mapM fun item => parseResource item.2 item.1
      .ok { devType := [], devFwVer := [], resource := resource }

end EziotSdk

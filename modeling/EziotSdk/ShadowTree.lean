import EziotSdk.BscJson
import EziotSdk.NodeLists

/-!
# The shadow tree

The modules that are registered with the shadow: devices, the resource types
of each, the channels of a type, the domains of a channel and the keys of a
domain.  Lists grow at their end and nothing is removed.  A name is cut to the
size of its node when it is stored, and searched for as it is given.
-/

namespace EziotSdk

def shadowDefaultName : CString := "global".toList

/-- A timer, of which the code asks only whether it has expired. -/
inductive ShadowTimer where
  | none
  | running
  | expired
  deriving DecidableEq, Repr

/-- What became of a report.  `acked` says that an acknowledgement with its
number and code 0 arrived after it was sent, `settled` that this was the
acknowledgement which cleared the key. -/
structure ShadowReport where
  seq : ℕ
  json : BscJson
  version : ℕ
  pushes : ℕ
  acked : Bool
  settled : Bool
  deriving Repr

/-- What has happened to a key, in no field of the source: the pushes, the
value which the last one left, the reports in the order they were sent, how
many of them there were at the last reset or repeated registration, and
whether an acknowledgement has cleared the key that belonged to no report of
its last push. -/
structure KeyTrace where
  pushes : ℕ
  value : Option BscJson
  reports : List ShadowReport
  marked : Option ℕ
  misacked : Bool
  deriving Repr

structure NodeKey where
  key : CString.Buffer 32
  cloud2dev : Option ℕ
  dev2cloud : Option ℕ
  statVer : ℕ
  needReport : Bool
  timer : ShadowTimer
  msgSeq : ℕ
  jsonValue : Option BscJson
  trace : KeyTrace
  deriving Repr

structure NodeDomain where
  domainString : CString.Buffer 32
  keyLst : List NodeKey
  deriving Repr

structure NodeIndex where
  index : ℤ
  needSync : Bool
  timer : ShadowTimer
  retryCount : ℕ
  domainLst : List NodeDomain
  deriving Repr

/-- The empty type is stored under the default name. -/
structure NodeIndexSet where
  type : CString.Buffer 32
  type_ne_nil : type.1 ≠ []
  indexLst : List NodeIndex
  deriving Repr

structure NodeDev where
  devSn : CString.Buffer 48
  typeLst : List NodeIndexSet
  deriving Repr

/-- `ez_iot_shadow_res_t`. -/
structure ShadowRes where
  devSerial : CString.Buffer 72
  resType : CString.Buffer 64
  localIndex : ℤ
  deriving Repr

/-- `ez_iot_shadow_business_t`. -/
structure ShadowBusiness where
  key : CString.Buffer 64
  business2dev : Option ℕ
  business2cloud : Option ℕ
  deriving Repr

theorem ShadowRes.devSerial_pos : 0 < 72 := by decide

theorem ShadowRes.resType_pos : 0 < 64 := by decide

theorem ShadowBusiness.key_pos : 0 < 64 := by decide

/-- The part of `ez_iot_shadow_value_t` that its type selects. -/
inductive ShadowData where
  | bool (valueInt : ℤ)
  | int (valueInt : ℤ)
  | double (valueDouble : ℚ)
  | string (value : CString)
  | array (value : CString)
  | object (value : CString)
  | other
  deriving Repr

structure ShadowValue where
  data : ShadowData
  length : ℤ
  deriving Repr

/-- `tlv2json` over the JSON parser. -/
def tlv2json (parse : CString → Option BscJson) (tlv : ShadowValue) :
    Option BscJson :=
  if tlv.length = 0 then none
  else
    match tlv.data with
    | .bool valueInt => some (.bool (valueInt ≠ 0))
    | .int valueInt => some (.number valueInt)
    | .double valueDouble => some (.number valueDouble)
    | .string value => some (.string value)
    | .array value => parse value
    | .object value => parse value
    | .other => none

/-! ## Names -/

/-- A string as a zeroed array of this size stores it. -/
def storedName (size : ℕ) (text : CString) (hsize : 0 < size) :
    CString.Buffer size :=
  ⟨CString.strncpy text (size - 1), CString.strncpy_length_lt hsize text⟩

/-- The type which `shadow_module_add_index_set` stores. -/
def storedType (resType : CString) : CString.Buffer 32 :=
  if CString.strlen resType = 0 then storedName 32 shadowDefaultName (by decide)
  else storedName 32 resType (by decide)

theorem storedType_ne_nil (resType : CString) : (storedType resType).1 ≠ [] := by
  unfold storedType
  split_ifs with hempty
  · decide
  · cases resType with
    | nil => exact absurd rfl hempty
    | cons char rest => exact List.cons_ne_nil _ _

/-- The serial under which a call looks for the device: the device's own one
stands for the default name. -/
def ownSerial (devSubserial sn : CString) : CString :=
  if devSubserial = sn then shadowDefaultName else sn

/-- The names that a search through the tree compares. -/
structure KeyName where
  sn : CString
  type : CString
  index : ℤ
  domain : CString
  key : CString
  deriving DecidableEq, Repr

/-! ## Registration -/

def KeyTrace.start : KeyTrace := ⟨0, none, [], none, false⟩

namespace NodeKey

def create (business : ShadowBusiness) : NodeKey where
  key := storedName 32 business.key.1 (by decide)
  cloud2dev := business.business2dev
  dev2cloud := business.business2cloud
  statVer := 0
  needReport := true
  timer := .none
  msgSeq := 0
  jsonValue := none
  trace := KeyTrace.start

/-- The mark of a reset or of a repeated registration. -/
def markTrace (node : NodeKey) : KeyTrace :=
  { node.trace with marked := some node.trace.reports.length }

/-- A registration that finds the key. -/
def registered (business : ShadowBusiness) (node : NodeKey) : NodeKey :=
  { node with
    cloud2dev := business.business2dev
    dev2cloud := business.business2cloud
    needReport := true
    trace := node.markTrace }

end NodeKey

namespace NodeDomain

def create (domainId : CString) : NodeDomain where
  domainString := storedName 32 domainId (by decide)
  keyLst := []

def addKey (domain : NodeDomain) (business : ShadowBusiness) : NodeDomain :=
  { domain with
    keyLst := FirstMatch.findOrAdd (fun node => node.key.1 = business.key.1)
      (NodeKey.registered business) (NodeKey.create business) domain.keyLst }

def addKeys (props : List ShadowBusiness) (domain : NodeDomain) : NodeDomain :=
  props.foldl addKey domain

@[simp] theorem domainString_addKeys (props : List ShadowBusiness)
    (domain : NodeDomain) :
    (domain.addKeys props).domainString = domain.domainString := by
  induction props generalizing domain with
  | nil => rfl
  | cons business rest ih => exact ih (domain.addKey business)

end NodeDomain

namespace NodeIndex

def create (index : ℤ) : NodeIndex where
  index := index
  needSync := true
  timer := .none
  retryCount := 0
  domainLst := []

/-- `shadow_module_add_domain`; without properties it returns NULL. -/
def addDomain (domainId : CString) (props : List ShadowBusiness)
    (node : NodeIndex) : NodeIndex :=
  if props = [] then node
  else
    { node with
      domainLst := FirstMatch.findOrAdd
        (fun domain => domain.domainString.1 = domainId)
        (NodeDomain.addKeys props)
        ((NodeDomain.create domainId).addKeys props) node.domainLst }

@[simp] theorem index_addDomain (domainId : CString)
    (props : List ShadowBusiness) (node : NodeIndex) :
    (node.addDomain domainId props).index = node.index := by
  unfold addDomain
  split_ifs <;> rfl

theorem addDomain_nil (domainId : CString) (node : NodeIndex) :
    node.addDomain domainId [] = node := if_pos rfl

theorem domainLst_addDomain (domainId : CString)
    {props : List ShadowBusiness} (hprops : props ≠ []) (node : NodeIndex) :
    (node.addDomain domainId props).domainLst = FirstMatch.findOrAdd
      (fun domain => domain.domainString.1 = domainId)
      (NodeDomain.addKeys props)
      ((NodeDomain.create domainId).addKeys props) node.domainLst := by
  unfold addDomain
  rw [if_neg hprops]

end NodeIndex

namespace NodeIndexSet

def create (resType : CString) : NodeIndexSet where
  type := storedType resType
  type_ne_nil := storedType_ne_nil resType
  indexLst := []

def addIndex (index : ℤ) (domainId : CString) (props : List ShadowBusiness)
    (node : NodeIndexSet) : NodeIndexSet :=
  { node with
    indexLst := FirstMatch.findOrAdd (fun child => child.index = index)
      (NodeIndex.addDomain domainId props)
      ((NodeIndex.create index).addDomain domainId props) node.indexLst }

end NodeIndexSet

namespace NodeDev

def create (sn : CString) : NodeDev where
  devSn := storedName 48 sn (by decide)
  typeLst := []

def addIndexSet (resType : CString) (index : ℤ) (domainId : CString)
    (props : List ShadowBusiness) (node : NodeDev) : NodeDev :=
  { node with
    typeLst := FirstMatch.findOrAdd (fun child => child.type.1 = resType)
      (NodeIndexSet.addIndex index domainId props)
      ((NodeIndexSet.create resType).addIndex index domainId props)
      node.typeLst }

end NodeDev

/-- `shadow_core_module_addv3`: whether it succeeds, and the tree. -/
def shadowCoreModuleAddv3 (devSubserial : CString) (res : ShadowRes)
    (domainId : CString) (props : List ShadowBusiness)
    (devs : List NodeDev) : Bool × List NodeDev :=
  let sn := ownSerial devSubserial res.devSerial.1
  (!props.isEmpty,
    FirstMatch.findOrAdd (fun dev => dev.devSn.1 = sn)
      (NodeDev.addIndexSet res.resType.1 res.localIndex domainId props)
      ((NodeDev.create sn).addIndexSet res.resType.1 res.localIndex domainId
        props) devs)

/-! ## The keys of the tree, in its order -/

def NodeIndex.keys (node : NodeIndex) : List NodeKey :=
  node.domainLst.flatMap NodeDomain.keyLst

def NodeIndexSet.keys (node : NodeIndexSet) : List NodeKey :=
  node.indexLst.flatMap NodeIndex.keys

def NodeDev.keys (node : NodeDev) : List NodeKey :=
  node.typeLst.flatMap NodeIndexSet.keys

def treeKeys (devs : List NodeDev) : List NodeKey :=
  devs.flatMap NodeDev.keys
end EziotSdk

import EziotSdk.BscJson
import EziotSdk.ErrorExits
import EziotSdk.HubStore

/-!
# The exits of the hub operations

`hub_func.c` on the stored document itself: every operation takes `g_hlock`,
reads the list, edits the parsed document and writes it back, and each of
these steps can fail.  An operation whose checks all jump to the label before
the unlock releases the lock at every exit; the clean has its unlock before
the label.  A write that fails is called once more by the log line of
`CHECK_COND_DONE`, and may then change the list that the operation reports not
to have written.
-/

namespace EziotSdk

open ErrorState

/-! ## Data -/

inductive HubErrno where
  | storage
  | memory
  | subdevExisted
  | subdevNotFound
  | outOfRange
  | enumEnd
  | internal
  deriving DecidableEq, Repr

/-- An operation stops with an error code, reads through a NULL pointer, waits
for a lock that nobody releases, or goes on without an end. -/
inductive HubStop where
  | errno (rv : HubErrno)
  | crash
  | waits
  | endless
  deriving DecidableEq, Repr

/-- An operation that stops in this way does not return. -/
def HubStop.Fatal (stop : HubStop) : Prop := ∀ rv, stop ≠ .errno rv

structure HubMemory where
  /-- The document under `EZ_HUB_KEY_HUBLIST`; `none` for the empty text. -/
  hublist : Option BscJson
  /-- `g_unauth_count`. -/
  unauthCount : ℤ
  /-- `g_hlock` is taken. -/
  locked : Bool

/-- What fails while the list is read: the two calls of `ez_kv_raw_get`, the
buffer and the parser. -/
structure LoadFaults where
  length : Bool
  buffer : Bool
  text : Bool
  parse : Bool

/-- What fails while a report is made. -/
structure ReportFaults where
  create : Bool
  load : LoadFaults
  print : Bool
  send : Bool

/-- What fails in one call of an operation. -/
structure HubFaults where
  load : LoadFaults
  /-- The array of an empty list. -/
  create : Bool
  /-- The object of a new sub-device. -/
  object : Bool
  /-- A member of that object. -/
  member : CString → Bool
  /-- The value of an update. -/
  value : Bool
  /-- The copy of that value's name. -/
  name : Bool
  print : Bool
  /-- What becomes of `ez_kv_raw_set`. -/
  write : HubWrite
  report : ReportFaults
  /-- The calls of `hub_subdev_next` in `hub_tsl_unreg_all`. -/
  unregAll : ℕ → LoadFaults
  /-- Those in `hub_tsl_clean`. -/
  profiles : ℕ → LoadFaults

abbrev HubAction (Value : Type) := EStateM HubStop HubMemory Value

/-! ## Sub-devices in the document -/

namespace HubMemory

/-- `s2j_struct_get_basic_element_ex` for a string; `none` when it copies from
the NULL pointer of a member of another type. -/
def getString (size : ℕ) (hsize : 0 < size) (name : CString)
    (json : BscJson) : Option (CString.Buffer size) :=
  match json.getObjectItem name with
  | none => some ⟨[], hsize⟩
  | some member =>
      member.valuestring.map fun text =>
        ⟨CString.strncpy text (size - 1), CString.strncpy_length_lt hsize text⟩

/-- The same for an element of type `int8_t`. -/
def getInt8 (name : CString) (json : BscJson) : ℤ :=
  match json.getObjectItem name with
  | none => 0
  | some member => member.valueint.bmod 256

def jsonToSubdev (json : BscJson) : Option HubSubdev := do
  let type ← getString 33 (by decide) "type".toList json
  let sn ← getString 17 (by decide) "sn".toList json
  let vcode ← getString 33 (by decide) "vcode".toList json
  let ver ← getString 33 (by decide) "ver".toList json
  let uuid ← getString 17 (by decide) "uuid".toList json
  return {
    authm := getInt8 "authm".toList json
    type := type
    sn := sn
    vcode := vcode
    ver := ver
    uuid := uuid
    sta := getInt8 "sta".toList json ≠ 0
    access := getInt8 "access".toList json ≠ 0 }

/-- A member that cannot be allocated is left out. -/
def subdevToJson (faults : HubFaults) (subdev : HubSubdev) : Option BscJson :=
  if faults.object then none
  else
    some (.object ([
      ("sta".toList, .bool subdev.sta),
      ("authm".toList, .number subdev.authm),
      ("type".toList, .string subdev.type.1),
      ("sn".toList, .string subdev.sn.1),
      ("vcode".toList, .string subdev.vcode.1),
      ("ver".toList, .string subdev.ver.1),
      ("uuid".toList, .string subdev.uuid.1),
      ("access".toList, .number (if subdev.access then 1 else 0))].filter
        fun member => ¬ faults.member member.1))

/-- Whether `find_dev_by_sn` stops at an item; `none` when `strcmp` reads the
NULL pointer of a serial number that is not a string. -/
def hasSn (sn : Option CString) (item : BscJson) : Option Bool :=
  match item.getObjectItem "sn".toList, sn with
  | none, _ => some false
  | some _, none => some true
  | some member, some sn => member.valuestring.map fun own => own = sn

/-- `find_dev_by_sn` over the children; -1 is the inner `none`. -/
def findDevBySn (sn : Option CString) : List BscJson → Option (Option ℕ)
  | [] => some none
  | item :: rest => do
      if ← hasSn sn item then return some 0
      return (← findDevBySn sn rest).map (· + 1)

def items (root : BscJson) : List BscJson := root.children.map Prod.snd

/-- `bscJSON_AddItemToArray`; what is appended to a scalar is not printed. -/
def addItemToArray (item : BscJson) : BscJson → BscJson
  | .array items => .array (items ++ [item])
  | .object members => .object (members ++ [([], item)])
  | json => json

/-- `bscJSON_DeleteItemFromArray`. -/
def deleteItemFromArray (index : ℕ) : BscJson → BscJson
  | .array items => .array (items.eraseIdx index)
  | .object members => .object (members.eraseIdx index)
  | json => json

/-- A change of the item at this index. -/
def modifyItem (index : ℕ) (change : BscJson → BscJson) :
    BscJson → BscJson
  | .array items => .array (items.modify index change)
  | .object members =>
      .object (members.modify index fun member => (member.1, change member.2))
  | json => json

/-- `bscJSON_ReplaceItemInObject`: the first member of this name gives way to
the new one, whose name is lost when it cannot be copied. -/
def replaceItemInObject (faults : HubFaults) (name : CString)
    (value : BscJson) : BscJson → BscJson
  | .object members =>
      if faults.value then .object members
      else
        .object (FirstMatch.updateFirst
          (fun member => CString.caseInsensitiveEq name member.1)
          (fun _ => (if faults.name then [] else name, value)) members)
  | json => json

/-! ## Reading and writing the list -/

/-- The list as every operation reads it; `none` when its text is empty. -/
def readHublist (faults : LoadFaults) : HubAction (Option BscJson) := do
  reject faults.length (.errno .storage)
  let memory ← get
  match memory.hublist with
  | none => pure none
  | some root => do
      reject faults.buffer (.errno .memory)
      reject faults.text (.errno .storage)
      reject faults.parse (.errno .memory)
      pure (some root)

/-- The list of the operations that fail when its text is empty. -/
def readListed (faults : LoadFaults) (empty : HubErrno) :
    HubAction BscJson := do
  let hublist ← readHublist faults
  ErrorState.required (.errno empty) hublist

/-- The document, and the index and the item of a sub-device. -/
def findListed (faults : LoadFaults) (sn : CString) :
    HubAction (BscJson × ℕ × BscJson) := do
  let root ← readListed faults .subdevNotFound
  let found ← ErrorState.required .crash (findDevBySn (some sn) (items root))
  let index ← ErrorState.required (.errno .subdevNotFound) found
  let item ← ErrorState.required (.errno .subdevNotFound)
    (root.getArrayItem index)
  pure (root, index, item.2)

/-- `ez_kv_raw_set` under its check; the empty text is `none`. -/
def ezKvRawSet (faults : HubFaults) (hublist : Option BscJson) :
    HubAction Unit := do
  reject (faults.write = .failed) (.errno .storage)
  modify fun memory => { memory with hublist := hublist }
  reject (faults.write = .retried) (.errno .storage)

def writeHublist (faults : HubFaults) (root : BscJson) : HubAction Unit := do
  reject faults.print (.errno .memory)
  ezKvRawSet faults (some root)

/-- `hal_thread_mutex_lock` on `g_hlock`. -/
def lock (memory : HubMemory) : HubMemory := { memory with locked := true }

def unlock (memory : HubMemory) : HubMemory := { memory with locked := false }

/-- What is left of a body's outcome past the label `done`. -/
def released {Value : Type} :
    EStateM.Result HubStop HubMemory Value →
      EStateM.Result HubStop HubMemory Value
  | .ok value reached => .ok value reached.unlock
  | .error (.errno rv) reached => .error (.errno rv) reached.unlock
  | .error stop reached => .error stop reached

/-- The lock is taken around the body and released at `done`, which every
check of the body jumps to. -/
def hubCall {Value : Type} (body : HubAction Value) : HubAction Value :=
  fun memory =>
    if memory.locked then .error .waits memory
    else released (body memory.lock)

/-! ## Reports -/

/-- The body of both reports; the lists that they send are not kept. -/
def reportItems (faults : ReportFaults) (whenEmpty : HubAction Unit) :
    HubAction Unit := do
  reject faults.create (.errno .memory)
  let hublist ← readHublist faults.load
  match hublist with
  | none => whenEmpty
  | some root => do
      let _subdevs ← ErrorState.required .crash
        ((items root).mapM jsonToSubdev)
      reject faults.print (.errno .memory)
      reject faults.send (.errno .internal)

/-- An empty list is reported as well. -/
def hubSubdevListReport (faults : ReportFaults) : HubAction Unit :=
  hubCall (reportItems faults (reject faults.send (.errno .internal)))

def hubSubdevStaReport (faults : ReportFaults) : HubAction Unit :=
  hubCall (reportItems faults (throw (.errno .subdevNotFound)))

/-- A call whose error code the caller drops. -/
def dropErrno (action : HubAction Unit) : HubAction Unit := fun memory =>
  match action memory with
  | .error (.errno _) reached => .ok () reached
  | outcome => outcome

/-! ## The operations -/

/-- The list that a sub-device is added to: a new one when none is stored, and
one that does not have its serial number. -/
def listToExtend (faults : HubFaults) (sn : CString) :
    Option BscJson → HubAction BscJson
  | none => do
      reject faults.create (.errno .memory)
      pure (.array [])
  | some root => do
      let found ← ErrorState.required .crash
        (findDevBySn (some sn) (items root))
      reject (found ≠ none) (.errno .subdevExisted)
      pure root

/-- Up to the label `done` of `hub_add_do`. -/
def addBody (sublistMax : ℕ) (faults : HubFaults) (subdev : HubSubdev) :
    HubAction Unit := do
  let hublist ← readHublist faults.load
  let root ← listToExtend faults subdev.sn.1 hublist
  reject (sublistMax ≤ root.getArraySize) (.errno .outOfRange)
  let jsSubdev ← ErrorState.required (.errno .memory)
    (subdevToJson faults subdev)
  writeHublist faults (addItemToArray jsSubdev root)
  modify fun memory => { memory with unauthCount := memory.unauthCount + 1 }

def hubAddDo (sublistMax : ℕ) (faults : HubFaults) (subdev : HubSubdev) :
    HubAction Unit :=
  hubCall (addBody sublistMax faults subdev)

def delBody (faults : HubFaults) (sn : CString) : HubAction Unit := do
  let listed ← findListed faults.load sn
  let subdev ← ErrorState.required .crash (jsonToSubdev listed.2.2)
  writeHublist faults (deleteItemFromArray listed.2.1 listed.1)
  modify fun memory =>
    if subdev.access then memory
    else { memory with unauthCount := memory.unauthCount - 1 }

def hubDelDo (faults : HubFaults) (sn : CString) : HubAction Unit := do
  hubCall (delBody faults sn)
  dropErrno (hubSubdevListReport faults.report)

/-- The new version is read back for the TSL component. -/
def verUpdateBody (faults : HubFaults) (sn ver : CString) :
    HubAction Unit := do
  let listed ← findListed faults.load sn
  let _subdevOld ← ErrorState.required .crash (jsonToSubdev listed.2.2)
  let change := replaceItemInObject faults "ver".toList (.string ver)
  writeHublist faults (modifyItem listed.2.1 change listed.1)
  let _subdevNew ← ErrorState.required .crash
    (jsonToSubdev (change listed.2.2))
  pure ()

def hubVerUpdateDo (faults : HubFaults) (sn ver : CString) :
    HubAction Unit := do
  hubCall (verUpdateBody faults sn ver)
  dropErrno (hubSubdevListReport faults.report)

def statusUpdateBody (faults : HubFaults) (sn : CString) (online : Bool) :
    HubAction Unit := do
  let listed ← findListed faults.load sn
  let change := replaceItemInObject faults "sta".toList (.bool online)
  writeHublist faults (modifyItem listed.2.1 change listed.1)

def hubStatusUpdateDo (faults : HubFaults) (sn : CString) (online : Bool) :
    HubAction Unit := do
  hubCall (statusUpdateBody faults sn online)
  dropErrno (hubSubdevStaReport faults.report)

def queryBody (faults : LoadFaults) (sn : CString) : HubAction HubSubdev := do
  let listed ← findListed faults sn
  ErrorState.required .crash (jsonToSubdev listed.2.2)

def hubSubdevQuery (faults : LoadFaults) (sn : CString) :
    HubAction HubSubdev :=
  hubCall (queryBody faults sn)

/-- The index that `hub_subdev_next` goes to from this serial number, before
it looks at the end of the list. -/
def nextIndex (sn : CString) (root : BscJson) : Option (Option ℕ) :=
  if sn = [] then findDevBySn none (items root)
  else (findDevBySn (some sn) (items root)).map fun found =>
    found.map (· + 1)

/-- The part of `hub_subdev_next` that follows the parse. -/
def nextOf (sn : CString) (root : BscJson) : HubAction HubSubdev := do
  let found ← ErrorState.required .crash (nextIndex sn root)
  let index ← ErrorState.required (.errno .enumEnd) found
  reject (sn ≠ [] ∧ root.getArraySize ≤ index) (.errno .enumEnd)
  let item ← ErrorState.required (.errno .subdevNotFound)
    (root.getArrayItem index)
  ErrorState.required .crash (jsonToSubdev item.2)

def nextBody (faults : LoadFaults) (sn : CString) : HubAction HubSubdev := do
  let root ← readListed faults .enumEnd
  nextOf sn root

def hubSubdevNext (faults : LoadFaults) (sn : CString) : HubAction HubSubdev :=
  hubCall (nextBody faults sn)

/-- The loop of `hub_tsl_unreg_all` and `hub_tsl_clean` over
`hub_subdev_next`, up to a number of calls. -/
def enumSubdevs : ℕ → (ℕ → LoadFaults) → CString → HubAction Unit
  | 0, _, _ => throw .endless
  | calls + 1, faults, sn => fun memory =>
      match hubSubdevNext (faults 0) sn memory with
      | .ok subdev reached =>
          enumSubdevs calls (fun call => faults (call + 1)) subdev.sn.1 reached
      | .error (.errno _) reached => .ok () reached
      | .error stop reached => .error stop reached

def cleanWritten (faults : HubFaults) : HubAction Unit := do
  modify unlock
  dropErrno (hubSubdevListReport faults.report)

/-- The unlock stands before the label `done`, which a failed write jumps
to. -/
def cleanWrite (faults : HubFaults) : HubAction Unit := do
  let memory ← get
  reject memory.locked .waits
  modify lock
  ezKvRawSet faults none
  cleanWritten faults

def hubCleanDo (calls : ℕ) (faults : HubFaults) : HubAction Unit := do
  enumSubdevs calls faults.unregAll []
  enumSubdevs calls faults.profiles []
  cleanWrite faults

end HubMemory
end EziotSdk

import EziotSdk.BscJson
import EziotSdk.ConnSchedule

/-!
# Reading a linkage rule

`connectivity_parse` makes a record of a rule: a plan, an event that triggers
it and the actions that follow.  One variable holds the result of all four
parsers, and it is zero between them.
-/

namespace EziotSdk

/-! ## Data -/

structure ConnBaseInfo where
  enableSwitch : ℤ
  ruleId : ℤ
  plan : ConnPlan
  deriving DecidableEq

/-- `conn_value_t`: the value of a condition or an action. -/
inductive ConnValue where
  | bool (value : ℤ)
  | double (value : ℚ)
  | string (text : CString)
  | array (text : CString)
  | object (text : CString)
  deriving DecidableEq

structure ConnOnInfo where
  eventSource : CString.Buffer 64
  localIndex : CString.Buffer 16
  judgeMethod : CString.Buffer 16
  eventSubType : CString.Buffer 32
  domainIdentifier : CString.Buffer 32
  identifier : CString.Buffer 32
  eventData : Option ConnValue
  deriving DecidableEq

/-- The `id` is an `int8_t`. -/
structure ConnThenInfo where
  id : ℤ
  actionType : CString.Buffer 16
  actionTarget : CString.Buffer 48
  localIndex : CString.Buffer 8
  domainIdentifier : CString.Buffer 32
  identifier : CString.Buffer 32
  connValue : Option ConnValue
  deriving DecidableEq

/-- The number of actions is an `int8_t`. -/
structure ConnInfo where
  baseInfo : ConnBaseInfo
  onInfo : ConnOnInfo
  thenInfoNum : ℤ
  thenInfo : Option (List ConnThenInfo)
  deriving DecidableEq

theorem eight_pos : 0 < 8 := by decide

theorem sixteen_pos : 0 < 16 := by decide

theorem thirtyTwo_pos : 0 < 32 := by decide

theorem fortyEight_pos : 0 < 48 := by decide

theorem sixtyFour_pos : 0 < 64 := by decide

/-! The records as `memset` leaves them. -/

def ConnBaseInfo.cleared : ConnBaseInfo where
  enableSwitch := 0
  ruleId := 0
  plan := ⟨⟨0, 0⟩, ⟨0, 0⟩, fun _ => false⟩

def ConnOnInfo.cleared : ConnOnInfo where
  eventSource := .copied sixtyFour_pos []
  localIndex := .copied sixteen_pos []
  judgeMethod := .copied sixteen_pos []
  eventSubType := .copied thirtyTwo_pos []
  domainIdentifier := .copied thirtyTwo_pos []
  identifier := .copied thirtyTwo_pos []
  eventData := none

def ConnThenInfo.cleared : ConnThenInfo where
  id := 0
  actionType := .copied sixteen_pos []
  actionTarget := .copied fortyEight_pos []
  localIndex := .copied eight_pos []
  domainIdentifier := .copied thirtyTwo_pos []
  identifier := .copied thirtyTwo_pos []
  connValue := none

def ConnInfo.cleared : ConnInfo where
  baseInfo := .cleared
  onInfo := .cleared
  thenInfoNum := 0
  thenInfo := none

inductive ConnFault where
  | nullDereference
  | outOfBounds
  deriving DecidableEq

/-- What the parser allocates for a record. -/
inductive ConnBlock where
  | eventData
  | connValue (index : ℕ)
  | thenInfo
  deriving DecidableEq

/-- `bscJSON_Parse`, `bscJSON_PrintUnformatted` and the serial number of the
device. -/
structure ConnEnv where
  parse : CString → Option BscJson
  print : BscJson → Option CString
  devSubserial : CString

/-! ## Members -/

def stringMember (name : CString) (json : BscJson) : Option CString :=
  (json.getObjectItem name).bind BscJson.valuestring

def numberMember (name : CString) (json : BscJson) : Option ℤ :=
  match json.getObjectItem name with
  | some (.number value) => some (BscJson.number value).valueint
  | _ => none

def objectMember (name : CString) (json : BscJson) : Option BscJson :=
  match json.getObjectItem name with
  | some (.object members) => some (.object members)
  | _ => none

/-! ## The four parsers -/

/-- The members of the base part up to the weekdays, and the text of these. -/
def baseHead (json : BscJson) : Option (ConnBaseInfo × CString) := do
  let ruleId ← numberMember "ruleId".toList json
  let startTime ← stringMember "startTime".toList json
  let endTime ← stringMember "endTime".toList json
  let weekdays ← stringMember "weekdays".toList json
  let info : ConnBaseInfo := {
    ConnBaseInfo.cleared with
    ruleId := ruleId
    plan := {
      planBegin := makeString2Time startTime
      planEnd := makeString2Time endTime
      weekDays := makeString2WeekDays weekdays } }
  return (info, weekdays)

/-- The days are written before there is a look at the switch. -/
def parseBaseInfo (json : BscJson) :
    Except ConnFault (Option ConnBaseInfo) :=
  match baseHead json with
  | none => .ok none
  | some (info, weekdays) =>
      if weekDaysInBounds weekdays then
        .ok ((numberMember "enableSwitch".toList json).map
          fun enableSwitch =>
            { info with enableSwitch := enableSwitch.bmod 256 })
      else .error .outOfBounds

namespace ConnEnv

variable (env : ConnEnv)

/-- `none` for a type that is illegal.  The length of a printed text is taken
without a look at the pointer. -/
def valueOf : BscJson → Except ConnFault (Option ConnValue)
  | .null => .ok none
  | .bool value => .ok (some (.bool (BscJson.bool value).valueint))
  | .number value => .ok (some (.double value))
  | .string text => .ok (some (.string text))
  | .array items =>
      match env.print (.array items) with
      | none => .error .nullDereference
      | some strObj => .ok (some (.array strObj))
  | .object members =>
      match env.print (.object members) with
      | none => .error .nullDereference
      | some strObj => .ok (some (.object strObj))

/-- The type of the member `value` is read before there is a look at the
pointer. -/
def processEventData (value : Option CString) :
    Except ConnFault (Option ConnValue) :=
  match value.bind env.parse with
  | none => .ok none
  | some root =>
      match root.getObjectItem "value".toList with
      | none => .error .nullDereference
      | some param => env.valueOf param

/-- What follows the first `-`, or the own serial number in full. -/
def deviceOf (text : CString) : Option CString :=
  if '-' ∈ text then some (text.dropWhile (· ≠ '-')).tail
  else if text = env.devSubserial then some text
  else none

/-- The members of the event up to the data, and the data. -/
def onHead (json : BscJson) : Option (ConnOnInfo × CString) := do
  let source ← stringMember "eventSource".toList json
  let eventSource ← env.deviceOf source
  let localIndex ← stringMember "localIndex".toList json
  let judgeMethod ← stringMember "judgeMethod".toList json
  let eventData ← stringMember "eventData".toList json
  let info : ConnOnInfo := {
    ConnOnInfo.cleared with
    eventSource := .copied sixtyFour_pos eventSource
    localIndex := .copied sixteen_pos localIndex
    judgeMethod := .copied sixteen_pos judgeMethod }
  return (info, eventData)

/-- The members after the data.  The result is zero by now, and a member that
is missing only ends the reading. -/
def onLabels (json : BscJson) (info : ConnOnInfo) : ConnOnInfo :=
  match stringMember "eventSubType".toList json with
  | none => info
  | some eventSubType =>
      let typed :=
        { info with eventSubType := .copied thirtyTwo_pos eventSubType }
      match stringMember "domainIdentifier".toList json with
      | none => typed
      | some domainIdentifier =>
          let located := {
            typed with
            domainIdentifier := .copied thirtyTwo_pos domainIdentifier }
          match stringMember "identifier".toList json with
          | none => located
          | some identifier =>
              { located with identifier := .copied thirtyTwo_pos identifier }

def parseOnInfo (json : BscJson) : Except ConnFault (Option ConnOnInfo) :=
  match env.onHead json with
  | none => .ok none
  | some (info, eventData) => do
      let data ← env.processEventData (some eventData)
      return data.map fun value =>
        onLabels json { info with eventData := some value }

/-- The members of an action up to its parameters, and these. -/
def thenHead (json : BscJson) : Option (ConnThenInfo × Option CString) := do
  let id ← numberMember "id".toList json
  let target ← stringMember "actionTarget".toList json
  let actionTarget ← env.deviceOf target
  let actionType ← stringMember "actionType".toList json
  let localIndex ← stringMember "localIndex".toList json
  let domainIdentifier ← stringMember "domainIdentifier".toList json
  let identifier ← stringMember "identifier".toList json
  let params ← json.getObjectItem "actionParams".toList
  let info : ConnThenInfo := {
    id := id.bmod 256
    actionType := .copied sixteen_pos actionType
    actionTarget := .copied fortyEight_pos actionTarget
    localIndex := .copied eight_pos localIndex
    domainIdentifier := .copied thirtyTwo_pos domainIdentifier
    identifier := .copied thirtyTwo_pos identifier
    connValue := none }
  return (info, params.valuestring)

def parseThenInfo (json : BscJson) : Except ConnFault (Option ConnThenInfo) :=
  match env.thenHead json with
  | none => .ok none
  | some (info, params) => do
      let value ← env.processEventData params
      return value.map fun value => { info with connValue := some value }

/-- The loop over the actions, with the result that it leaves.  An entry that
is no object ends it with the zero of the parser before. -/
def parseThenInfos :
    List BscJson → Except ConnFault (Bool × List ConnThenInfo)
  | [] => .ok (true, [])
  | item :: rest =>
      match item with
      | .object _ => do
          match ← env.parseThenInfo item with
          | none => return (false, .cleared :: rest.map fun _ => .cleared)
          | some info =>
              let (parsed, infos) ← parseThenInfos rest
              return (parsed, info :: infos)
      | _ => return (true, .cleared :: rest.map fun _ => .cleared)

end ConnEnv

/-! ## A whole rule -/

/-- The blocks of the values of some actions, from an index on. -/
def valueBlocks : ℕ → List ConnThenInfo → List ConnBlock
  | _, [] => []
  | index, info :: rest =>
      (if info.connValue.isSome then [.connValue index] else []) ++
        valueBlocks (index + 1) rest

namespace ConnInfo

def eventBlocks (info : ConnInfo) : List ConnBlock :=
  if info.onInfo.eventData.isSome then [.eventData] else []

/-- All that is allocated for a record. -/
def blocks (info : ConnInfo) : List ConnBlock :=
  info.eventBlocks ++
    match info.thenInfo with
    | none => []
    | some entries => valueBlocks 0 entries ++ [.thenInfo]

end ConnInfo

/-- `free_conn_info`, with the blocks that it frees.  A negative count is
longer than every array as a `size_t`. -/
def freeConnInfo (info : ConnInfo) : Except ConnFault (List ConnBlock) :=
  match info.thenInfo with
  | none => .ok info.eventBlocks
  | some entries =>
      let size := info.thenInfoNum.toNat
      if info.thenInfoNum < 0 ∨ entries.length < size then .error .outOfBounds
      else
        .ok (info.eventBlocks ++
          (valueBlocks 0 (entries.take size) ++ [.thenInfo]))

/-- The result, the record that the caller sees and the blocks that were
freed. -/
structure ConnOutcome where
  success : Bool
  info : ConnInfo
  freed : List ConnBlock
  deriving DecidableEq

namespace ConnOutcome

def passed (info : ConnInfo) : ConnOutcome := ⟨true, info, []⟩

/-- The end of `connectivity_parse` on a failure. -/
def failed (info : ConnInfo) : Except ConnFault ConnOutcome :=
  (freeConnInfo info).map fun freed => ⟨false, info, freed⟩

end ConnOutcome

/-- The base part of a rule, which is not parsed when it is no object. -/
def parseBasePart (json : BscJson) :
    Except ConnFault (Option ConnBaseInfo) :=
  match objectMember "ruleBaseInfoForDeviceTo".toList json with
  | none => .ok none
  | some jsBaseInfo => parseBaseInfo jsBaseInfo

def ConnEnv.connectivityParse (env : ConnEnv) (json : BscJson) :
    Except ConnFault ConnOutcome :=
  match parseBasePart json with
  | .error fault => .error fault
  | .ok none => ConnOutcome.failed .cleared
  | .ok (some baseInfo) =>
      let based := { ConnInfo.cleared with baseInfo := baseInfo }
      match objectMember "onInfoForDeviceTo".toList json with
      | none => .ok (.passed based)
      | some jsOnInfo => do
          match ← env.parseOnInfo jsOnInfo with
          | none => ConnOutcome.failed based
          | some onInfo =>
              let triggered := { based with onInfo := onInfo }
              match json.getObjectItem "thenInfoQos".toList with
              | some (.array items) =>
                  let (parsed, entries) ← env.parseThenInfos items
                  let info := {
                    triggered with
                    thenInfoNum := (items.length : ℤ).bmod 256
                    thenInfo := some entries }
                  if parsed then .ok (.passed info) else ConnOutcome.failed info
              | _ => .ok (.passed triggered)

/-! ## Rules as they are meant -/

def TextAt (name : CString) (json : BscJson) : Prop :=
  ∃ text, json.getObjectItem name = some (.string text)

def NumberAt (name : CString) (json : BscJson) : Prop :=
  ∃ value, json.getObjectItem name = some (.number value)

/-- The members of a base part up to the weekdays. -/
structure BaseHead (json : BscJson) (weekdays : CString) : Prop where
  ruleId : NumberAt "ruleId".toList json
  startTime : TextAt "startTime".toList json
  endTime : TextAt "endTime".toList json
  weekdays : json.getObjectItem "weekdays".toList = some (.string weekdays)

/-- The weekdays of a base part, if they are reached, are in bounds. -/
def DaysFit (json : BscJson) : Prop :=
  ∀ weekdays, BaseHead json weekdays → weekDaysInBounds weekdays = true

structure BaseMembers (json : BscJson) : Prop where
  ruleId : NumberAt "ruleId".toList json
  startTime : TextAt "startTime".toList json
  endTime : TextAt "endTime".toList json
  weekdays : TextAt "weekdays".toList json
  enableSwitch : NumberAt "enableSwitch".toList json

/-- An action as the message has it. -/
structure ConnAction where
  id : ℤ
  actionType : CString
  actionTarget : CString
  localIndex : CString
  domainIdentifier : CString
  identifier : CString

namespace ConnAction

structure HeldBy (action : ConnAction) (value : ConnValue)
    (info : ConnThenInfo) : Prop where
  id : info.id = action.id
  actionType : info.actionType.1 = action.actionType
  actionTarget : info.actionTarget.1 = action.actionTarget
  localIndex : info.localIndex.1 = action.localIndex
  domainIdentifier : info.domainIdentifier.1 = action.domainIdentifier
  identifier : info.identifier.1 = action.identifier
  connValue : info.connValue = some value

/-- The record has room for the action. -/
structure Fits (action : ConnAction) : Prop where
  id_ge : -128 ≤ action.id
  id_lt : action.id < 128
  actionType : action.actionType.length < 16
  actionTarget : action.actionTarget.length < 48
  localIndex : action.localIndex.length < 8
  domainIdentifier : action.domainIdentifier.length < 32
  identifier : action.identifier.length < 32

/-- What the record keeps of an action. -/
def kept (action : ConnAction) (value : Option ConnValue) :
    ConnThenInfo where
  id := action.id.bmod 256
  actionType := .copied sixteen_pos action.actionType
  actionTarget := .copied fortyEight_pos action.actionTarget
  localIndex := .copied eight_pos action.localIndex
  domainIdentifier := .copied thirtyTwo_pos action.domainIdentifier
  identifier := .copied thirtyTwo_pos action.identifier
  connValue := value

end ConnAction

namespace ConnEnv

variable (env : ConnEnv)

/-- A text names a device: behind a first `-`, or by the own serial number. -/
def Names (text device : CString) : Prop :=
  (∃ hub, '-' ∉ hub ∧ text = hub ++ '-' :: device) ∨
    ('-' ∉ text ∧ text = env.devSubserial ∧ device = text)

/-- A text is a document with a `value` of some type. -/
def Reads (text : CString) (value : ConnValue) : Prop :=
  ∃ root param, env.parse text = some root ∧
    root.getObjectItem "value".toList = some param ∧
    env.valueOf param = .ok (some value)

/-- A text is a document without a `value`, or with an array or an object as
its `value` that cannot be printed. -/
def Unvalued (text : CString) : Prop :=
  ∃ root, env.parse text = some root ∧
    ∀ param, root.getObjectItem "value".toList = some param →
      env.print param = none ∧
        ((∃ items, param = .array items) ∨
          ∃ members, param = .object members)

structure EventHead (json : BscJson) (eventData : CString) : Prop where
  eventSource : ∃ text device,
    json.getObjectItem "eventSource".toList = some (.string text) ∧
      env.Names text device
  localIndex : TextAt "localIndex".toList json
  judgeMethod : TextAt "judgeMethod".toList json
  eventData : json.getObjectItem "eventData".toList = some (.string eventData)

structure ActionHead (item : BscJson) (action : ConnAction) : Prop where
  id : ∃ value, item.getObjectItem "id".toList = some (.number value) ∧
    (BscJson.number value).valueint = action.id
  actionTarget : ∃ text,
    item.getObjectItem "actionTarget".toList = some (.string text) ∧
      env.Names text action.actionTarget
  actionType : item.getObjectItem "actionType".toList =
    some (.string action.actionType)
  localIndex : item.getObjectItem "localIndex".toList =
    some (.string action.localIndex)
  domainIdentifier : item.getObjectItem "domainIdentifier".toList =
    some (.string action.domainIdentifier)
  identifier : item.getObjectItem "identifier".toList =
    some (.string action.identifier)

/-- An entry of the list declares an action and its value. -/
def Declares (item : BscJson) (action : ConnAction) (value : ConnValue) :
    Prop :=
  env.ActionHead item action ∧
    ∃ text, item.getObjectItem "actionParams".toList = some (.string text) ∧
      env.Reads text value

/-- An entry has all that comes before the parameters, and parameters without
a `value` that can be had. -/
def Crashes (item : BscJson) : Prop :=
  (∃ action, env.ActionHead item action) ∧
    ∃ text, item.getObjectItem "actionParams".toList = some (.string text) ∧
      env.Unvalued text

end ConnEnv

structure EventLabels (json : BscJson) : Prop where
  eventSubType : TextAt "eventSubType".toList json
  domainIdentifier : TextAt "domainIdentifier".toList json
  identifier : TextAt "identifier".toList json

namespace ConnEnv

variable (env : ConnEnv)

/-- All parts of a rule are there, with all that each of them needs. -/
structure Complete (json : BscJson) : Prop where
  base : ∃ members,
    json.getObjectItem "ruleBaseInfoForDeviceTo".toList =
      some (.object members) ∧ BaseMembers (.object members)
  on : ∃ members text value,
    json.getObjectItem "onInfoForDeviceTo".toList = some (.object members) ∧
      env.EventHead (.object members) text ∧ env.Reads text value ∧
      EventLabels (.object members)
  actions : ∃ items,
    json.getObjectItem "thenInfoQos".toList = some (.array items) ∧
      ∀ item ∈ items, ∃ action value, env.Declares item action value

/-- Exactly the complete rules are parsed, into a record with their actions in
order, and a rule that is not parsed leaves nothing behind. -/
def ParseSound (json : BscJson) : Prop :=
  ∃ outcome, env.connectivityParse json = .ok outcome ∧
    (outcome.success = true ↔ env.Complete json) ∧
    (outcome.success = true → ∃ items entries,
      json.getObjectItem "thenInfoQos".toList = some (.array items) ∧
        outcome.info.thenInfo = some entries ∧
        outcome.info.thenInfoNum = items.length ∧
        List.Forall₂ (fun item info => ∃ action value,
          env.Declares item action value ∧ action.HeldBy value info)
          items entries) ∧
    (outcome.success = false → outcome.freed.Perm outcome.info.blocks)

/-- The list of actions is read to its end, or up to an entry for which the
rule is given up and all actions before it are released. -/
def ActionsFit (labelled : Prop) (items : List BscJson) : Prop :=
  (labelled ∧ items.length ≤ 127 ∧
      ∀ item ∈ items, ∃ action value,
        env.Declares item action value ∧ action.Fits) ∨
    ∃ before item after, items = before ++ item :: after ∧
      (∀ earlier ∈ before, ∃ action value,
        env.Declares earlier action value) ∧
      (∃ members, item = .object members) ∧
      (∀ action value, ¬ env.Declares item action value) ∧
      ¬ env.Crashes item ∧
      (before.length : ℤ) ≤ (items.length : ℤ).bmod 256

/-- The part for the event is given up before its data or for it, or else its
data has a `value` of some type and there is a list of actions that fits. -/
def RestFits (json : BscJson) : Prop :=
  ∃ members,
    json.getObjectItem "onInfoForDeviceTo".toList =
      some (.object members) ∧
    ∀ text, env.EventHead (.object members) text →
      ¬ env.Unvalued text ∧
        ((∃ value, env.Reads text value) → ∃ items,
          json.getObjectItem "thenInfoQos".toList = some (.array items) ∧
            env.ActionsFit (EventLabels (.object members)) items)

/-- The weekdays of the base part are in bounds; and the rule is given up for
its base part, or its other parts fit. -/
def RuleFits (json : BscJson) : Prop :=
  (∀ members,
      json.getObjectItem "ruleBaseInfoForDeviceTo".toList =
        some (.object members) → DaysFit (.object members)) ∧
    ((∀ members,
        json.getObjectItem "ruleBaseInfoForDeviceTo".toList =
          some (.object members) → ¬ BaseMembers (.object members)) ∨
      env.RestFits json)

end ConnEnv

/-! ## The members -/

theorem stringMember_eq_some {name text : CString} {json : BscJson} :
    stringMember name json = some text ↔
      json.getObjectItem name = some (.string text) := by
  unfold stringMember
  constructor
  · intro hmember
    rcases Option.bind_eq_some_iff.mp hmember with ⟨found, hfound, htext⟩
    cases found with
    | string own =>
        rw [hfound]
        exact congrArg (fun known => some (BscJson.string known))
          (Option.some.inj htext)
    | null => cases htext
    | bool value => cases htext
    | number value => cases htext
    | array items => cases htext
    | object members => cases htext
  · intro hfound
    rw [hfound]
    rfl

theorem numberMember_eq_some {name : CString} {json : BscJson} {count : ℤ} :
    numberMember name json = some count ↔
      ∃ value, json.getObjectItem name = some (.number value) ∧
        (BscJson.number value).valueint = count := by
  unfold numberMember
  constructor
  · intro hmember
    split at hmember
    · next value hfound => exact ⟨value, hfound, Option.some.inj hmember⟩
    · cases hmember
  · rintro ⟨value, hfound, rfl⟩
    rw [hfound]

theorem objectMember_eq_some {name : CString} {json found : BscJson} :
    objectMember name json = some found ↔
      ∃ members, json.getObjectItem name = some (.object members) ∧
        found = .object members := by
  unfold objectMember
  constructor
  · intro hmember
    split at hmember
    · next members hfound =>
        exact ⟨members, hfound, (Option.some.inj hmember).symm⟩
    · cases hmember
  · rintro ⟨members, hfound, rfl⟩
    rw [hfound]

theorem textAt_iff {name : CString} {json : BscJson} :
    TextAt name json ↔ ∃ text, stringMember name json = some text := by
  simp only [TextAt, stringMember_eq_some]

theorem numberAt_iff {name : CString} {json : BscJson} :
    NumberAt name json ↔ ∃ count, numberMember name json = some count := by
  constructor
  · rintro ⟨value, hfound⟩
    exact ⟨_, numberMember_eq_some.mpr ⟨value, hfound, rfl⟩⟩
  · rintro ⟨count, hcount⟩
    rcases numberMember_eq_some.mp hcount with ⟨value, hfound, -⟩
    exact ⟨value, hfound⟩

theorem baseHead_eq_some {json : BscJson} {weekdays : CString} :
    (∃ info, baseHead json = some (info, weekdays)) ↔
      BaseHead json weekdays := by
  constructor
  · rintro ⟨info, hhead⟩
    simp only [baseHead, Option.bind_eq_bind,
      Option.bind_eq_some_iff] at hhead
    rcases hhead with ⟨ruleId, hruleId, startTime, hstart, endTime, hend,
      days, hdays, hpair⟩
    cases hpair
    exact {
      ruleId := numberAt_iff.mpr ⟨_, hruleId⟩
      startTime := textAt_iff.mpr ⟨_, hstart⟩
      endTime := textAt_iff.mpr ⟨_, hend⟩
      weekdays := stringMember_eq_some.mp hdays }
  · intro hhead
    rcases numberAt_iff.mp hhead.ruleId with ⟨ruleId, hruleId⟩
    rcases textAt_iff.mp hhead.startTime with ⟨startTime, hstart⟩
    rcases textAt_iff.mp hhead.endTime with ⟨endTime, hend⟩
    rw [baseHead, hruleId, hstart, hend,
      stringMember_eq_some.mpr hhead.weekdays]
    exact ⟨_, rfl⟩

theorem BaseMembers.head {json : BscJson} (hbase : BaseMembers json) :
    ∃ weekdays, BaseHead json weekdays := by
  rcases hbase.weekdays with ⟨weekdays, hweekdays⟩
  exact ⟨weekdays, hbase.ruleId, hbase.startTime, hbase.endTime, hweekdays⟩

/-- What becomes of a base part. -/
theorem parseBaseInfo_cases (json : BscJson) :
    (∃ baseInfo, BaseMembers json ∧ DaysFit json ∧
        parseBaseInfo json = .ok (some baseInfo)) ∨
      (¬ DaysFit json ∧ parseBaseInfo json = .error .outOfBounds) ∨
      (¬ BaseMembers json ∧ DaysFit json ∧
        parseBaseInfo json = .ok none) := by
  cases hhead : baseHead json with
  | none =>
      have hnone : ∀ weekdays, ¬ BaseHead json weekdays := by
        intro weekdays hbase
        rcases baseHead_eq_some.mpr hbase with ⟨info, hinfo⟩
        rw [hhead] at hinfo
        cases hinfo
      right; right
      refine ⟨?_, ?_, by simp only [parseBaseInfo, hhead]⟩
      · intro hbase
        rcases hbase.head with ⟨weekdays, hweekdays⟩
        exact hnone weekdays hweekdays
      · intro weekdays hweekdays
        exact absurd hweekdays (hnone weekdays)
  | some head =>
      rcases head with ⟨info, weekdays⟩
      have hbase := baseHead_eq_some.mp ⟨info, hhead⟩
      have hfit : DaysFit json ↔ weekDaysInBounds weekdays = true := by
        constructor
        · intro hdays
          exact hdays weekdays hbase
        · intro hbounds other hother
          have hsame := hother.weekdays
          rw [hbase.weekdays, Option.some.injEq,
            BscJson.string.injEq] at hsame
          rw [← hsame]
          exact hbounds
      by_cases hbounds : weekDaysInBounds weekdays = true
      · cases henable : numberMember "enableSwitch".toList json with
        | none =>
            right; right
            refine ⟨?_, hfit.mpr hbounds, by
              simp only [parseBaseInfo, hhead, hbounds, henable]; rfl⟩
            intro hmembers
            rcases numberAt_iff.mp hmembers.enableSwitch with ⟨count, hcount⟩
            rw [henable] at hcount
            cases hcount
        | some enableSwitch =>
            left
            exact ⟨_, {
              ruleId := hbase.ruleId
              startTime := hbase.startTime
              endTime := hbase.endTime
              weekdays := ⟨weekdays, hbase.weekdays⟩
              enableSwitch := numberAt_iff.mpr ⟨_, henable⟩ },
              hfit.mpr hbounds, by
                simp only [parseBaseInfo, hhead, hbounds, henable]; rfl⟩
      · right; left
        exact ⟨mt hfit.mp hbounds, by
          simp only [parseBaseInfo, hhead, hbounds]; rfl⟩

/-- What becomes of the base part of a rule. -/
theorem parseBasePart_cases (json : BscJson) :
    (∃ baseInfo members,
        json.getObjectItem "ruleBaseInfoForDeviceTo".toList =
          some (.object members) ∧ BaseMembers (.object members) ∧
        DaysFit (.object members) ∧
        parseBasePart json = .ok (some baseInfo)) ∨
      (∃ members,
        json.getObjectItem "ruleBaseInfoForDeviceTo".toList =
          some (.object members) ∧ ¬ DaysFit (.object members) ∧
        parseBasePart json = .error .outOfBounds) ∨
      ((∀ members,
          json.getObjectItem "ruleBaseInfoForDeviceTo".toList =
            some (.object members) →
          ¬ BaseMembers (.object members) ∧ DaysFit (.object members)) ∧
        parseBasePart json = .ok none) := by
  by_cases hobject : ∃ members,
      json.getObjectItem "ruleBaseInfoForDeviceTo".toList =
        some (.object members)
  · rcases hobject with ⟨members, hmembers⟩
    have hpart : parseBasePart json = parseBaseInfo (.object members) := by
      rw [parseBasePart, objectMember_eq_some.mpr ⟨members, hmembers, rfl⟩]
    rw [hpart]
    rcases parseBaseInfo_cases (.object members) with
      ⟨baseInfo, hbase, hfit, hparse⟩ | ⟨hunfit, hparse⟩ |
        ⟨hbase, hfit, hparse⟩
    · exact Or.inl ⟨baseInfo, members, hmembers, hbase, hfit, hparse⟩
    · exact Or.inr (Or.inl ⟨members, hmembers, hunfit, hparse⟩)
    · right; right
      refine ⟨?_, hparse⟩
      intro other hother
      rw [hmembers, Option.some.injEq, BscJson.object.injEq] at hother
      rw [← hother]
      exact ⟨hbase, hfit⟩
  · right; right
    constructor
    · intro members hmembers
      exact absurd ⟨members, hmembers⟩ hobject
    · rw [parseBasePart]
      cases hmember : objectMember "ruleBaseInfoForDeviceTo".toList json with
      | none => rfl
      | some found =>
          rcases objectMember_eq_some.mp hmember with ⟨members, hmembers, -⟩
          exact absurd ⟨members, hmembers⟩ hobject

/-! ## The parsers of the parts -/

namespace ConnEnv

variable {env : ConnEnv}

theorem deviceOf_eq_some {text device : CString} :
    env.deviceOf text = some device ↔ env.Names text device := by
  unfold deviceOf Names
  split_ifs with hmark hown
  · have hrest : ∃ rest, text.dropWhile (· ≠ '-') = '-' :: rest := by
      cases hdrop : text.dropWhile (· ≠ '-') with
      | nil =>
          have hall := List.dropWhile_eq_nil_iff.mp hdrop '-' hmark
          simp at hall
      | cons first rest =>
          have hfirst := List.head?_dropWhile_not (· ≠ '-') text
          rw [hdrop] at hfirst
          simp only [List.head?_cons, decide_not, Bool.not_eq_false',
            decide_eq_true_eq] at hfirst
          exact ⟨rest, by rw [hfirst]⟩
    rcases hrest with ⟨rest, hrest⟩
    have hsplit : text = text.takeWhile (· ≠ '-') ++ '-' :: rest := by
      rw [← hrest, List.takeWhile_append_dropWhile]
    have hhub : '-' ∉ text.takeWhile (· ≠ '-') := by
      intro hmem
      have hall := List.mem_takeWhile_imp hmem
      simp at hall
    rw [hrest, List.tail_cons, Option.some.injEq]
    constructor
    · rintro rfl
      exact Or.inl ⟨_, hhub, hsplit⟩
    · rintro (⟨hub, hnone, htext⟩ | ⟨hnone, -⟩)
      · rw [htext, List.dropWhile_append_of_pos] at hrest
        · simpa using hrest.symm
        · intro char hchar
          simp only [ne_eq, decide_not, Bool.not_eq_eq_eq_not, Bool.not_true,
            decide_eq_false_iff_not]
          rintro rfl
          exact hnone hchar
      · exact absurd hmark hnone
  · constructor
    · intro hdevice
      exact Or.inr ⟨hmark, hown, (Option.some.inj hdevice).symm⟩
    · rintro (⟨hub, -, htext⟩ | ⟨-, -, rfl⟩)
      · rw [htext] at hmark
        simp at hmark
      · rfl
  · constructor
    · intro hdevice
      cases hdevice
    · rintro (⟨hub, -, htext⟩ | ⟨-, hsame, -⟩)
      · rw [htext] at hmark
        simp at hmark
      · exact absurd hsame hown

theorem reads_iff_of_parse {text : CString} {root : BscJson}
    {value : ConnValue} (hroot : env.parse text = some root) :
    env.Reads text value ↔
      ∃ param, root.getObjectItem "value".toList = some param ∧
        env.valueOf param = .ok (some value) := by
  constructor
  · rintro ⟨other, param, hother, hparam, hvalue⟩
    rw [hroot, Option.some.injEq] at hother
    exact ⟨param, by rw [hother]; exact hparam, hvalue⟩
  · rintro ⟨param, hparam, hvalue⟩
    exact ⟨root, param, hroot, hparam, hvalue⟩

theorem unvalued_iff_of_parse {text : CString} {root : BscJson}
    (hroot : env.parse text = some root) :
    env.Unvalued text ↔
      ∀ param, root.getObjectItem "value".toList = some param →
        env.print param = none ∧
          ((∃ items, param = .array items) ∨
            ∃ members, param = .object members) := by
  constructor
  · rintro ⟨other, hother, hnone⟩
    rw [hroot, Option.some.injEq] at hother
    rw [hother]
    exact hnone
  · intro hnone
    exact ⟨root, hroot, hnone⟩

/-- What becomes of a value. -/
theorem valueOf_cases (param : BscJson) :
    (∃ value, env.valueOf param = .ok (some value)) ∨
      (env.valueOf param = .error .nullDereference ∧
        env.print param = none ∧
        ((∃ items, param = .array items) ∨
          ∃ members, param = .object members)) ∨
      env.valueOf param = .ok none := by
  cases param with
  | null => exact Or.inr (Or.inr rfl)
  | bool value => exact Or.inl ⟨_, rfl⟩
  | number value => exact Or.inl ⟨_, rfl⟩
  | string text => exact Or.inl ⟨_, rfl⟩
  | array items =>
      cases hprint : env.print (.array items) with
      | none =>
          right; left
          exact ⟨by simp only [valueOf, hprint], rfl, Or.inl ⟨items, rfl⟩⟩
      | some strObj =>
          exact Or.inl ⟨.array strObj, by simp only [valueOf, hprint]⟩
  | object members =>
      cases hprint : env.print (.object members) with
      | none =>
          right; left
          exact ⟨by simp only [valueOf, hprint], rfl, Or.inr ⟨members, rfl⟩⟩
      | some strObj =>
          exact Or.inl ⟨.object strObj, by simp only [valueOf, hprint]⟩

/-- A value that is printed to nothing cannot be had. -/
theorem valueOf_of_unprinted {param : BscJson}
    (hprint : env.print param = none)
    (hnested : (∃ items, param = .array items) ∨
      ∃ members, param = .object members) :
    env.valueOf param = .error .nullDereference := by
  rcases hnested with ⟨items, rfl⟩ | ⟨members, rfl⟩
  · simp only [valueOf, hprint]
  · simp only [valueOf, hprint]

/-- What becomes of the text of a value. -/
theorem processEventData_cases (text : CString) :
    (∃ value, env.Reads text value ∧ ¬ env.Unvalued text ∧
        env.processEventData (some text) = .ok (some value)) ∨
      (env.Unvalued text ∧ (∀ value, ¬ env.Reads text value) ∧
        env.processEventData (some text) = .error .nullDereference) ∨
      ((∀ value, ¬ env.Reads text value) ∧ ¬ env.Unvalued text ∧
        env.processEventData (some text) = .ok none) := by
  unfold processEventData
  rw [Option.bind_some]
  cases hroot : env.parse text with
  | none =>
      right; right
      refine ⟨?_, ?_, rfl⟩
      · rintro value ⟨root, param, hother, -⟩
        rw [hroot] at hother
        cases hother
      · rintro ⟨root, hother, -⟩
        rw [hroot] at hother
        cases hother
  | some root =>
      simp only [reads_iff_of_parse hroot, unvalued_iff_of_parse hroot]
      cases hparam : root.getObjectItem "value".toList with
      | none =>
          right; left
          exact ⟨by simp, by simp, rfl⟩
      | some param =>
          simp only [Option.some.injEq, forall_eq', exists_eq_left']
          have hunvalued : (env.print param = none ∧
              ((∃ items, param = .array items) ∨
                ∃ members, param = .object members)) →
                env.valueOf param = .error .nullDereference :=
            fun hfault => valueOf_of_unprinted hfault.1 hfault.2
          rcases @valueOf_cases env param with ⟨value, hvalue⟩ |
            ⟨hvalue, hfault⟩ | hvalue
          · left
            refine ⟨value, hvalue, ?_, hvalue⟩
            intro hfault
            rw [hunvalued hfault] at hvalue
            cases hvalue
          · right; left
            exact ⟨hfault, by simp [hvalue], hvalue⟩
          · right; right
            refine ⟨by simp [hvalue], ?_, hvalue⟩
            intro hfault
            rw [hunvalued hfault] at hvalue
            cases hvalue

theorem onHead_eq_some {json : BscJson} {eventData : CString} :
    (∃ info, env.onHead json = some (info, eventData)) ↔
      env.EventHead json eventData := by
  constructor
  · rintro ⟨info, hhead⟩
    simp only [onHead, Option.bind_eq_bind, Option.bind_eq_some_iff] at hhead
    rcases hhead with ⟨source, hsource, device, hdevice, localIndex, hlocal,
      judgeMethod, hjudge, data, hdata, hpair⟩
    cases hpair
    exact {
      eventSource := ⟨source, device, stringMember_eq_some.mp hsource,
        deviceOf_eq_some.mp hdevice⟩
      localIndex := textAt_iff.mpr ⟨_, hlocal⟩
      judgeMethod := textAt_iff.mpr ⟨_, hjudge⟩
      eventData := stringMember_eq_some.mp hdata }
  · intro hhead
    rcases hhead.eventSource with ⟨source, device, hsource, hdevice⟩
    rcases textAt_iff.mp hhead.localIndex with ⟨localIndex, hlocal⟩
    rcases textAt_iff.mp hhead.judgeMethod with ⟨judgeMethod, hjudge⟩
    rw [onHead, stringMember_eq_some.mpr hsource, Option.bind_eq_bind,
      Option.bind_some, deviceOf_eq_some.mpr hdevice, hlocal, hjudge,
      stringMember_eq_some.mpr hhead.eventData]
    exact ⟨_, rfl⟩

theorem onLabels_eventData (json : BscJson) (info : ConnOnInfo) :
    (onLabels json info).eventData = info.eventData := by
  unfold onLabels
  split
  · rfl
  · split
    · rfl
    · split <;> rfl

/-- What becomes of the event of a rule. -/
theorem parseOnInfo_cases (json : BscJson) :
    (∃ text value info, env.EventHead json text ∧ env.Reads text value ∧
        ¬ env.Unvalued text ∧ info.eventData = some value ∧
        env.parseOnInfo json = .ok (some info)) ∨
      (∃ text, env.EventHead json text ∧ env.Unvalued text ∧
        env.parseOnInfo json = .error .nullDereference) ∨
      ((∀ text, env.EventHead json text →
          ¬ env.Unvalued text ∧ ∀ value, ¬ env.Reads text value) ∧
        env.parseOnInfo json = .ok none) := by
  cases hhead : env.onHead json with
  | none =>
      right; right
      refine ⟨?_, by simp only [parseOnInfo, hhead]⟩
      intro text htext
      rcases onHead_eq_some.mpr htext with ⟨info, hinfo⟩
      rw [hhead] at hinfo
      cases hinfo
  | some head =>
      rcases head with ⟨info, eventData⟩
      have hevent := onHead_eq_some.mp ⟨info, hhead⟩
      rcases @processEventData_cases env eventData with
        ⟨value, hreads, hvalued, hdata⟩ | ⟨hunvalued, -, hdata⟩ |
          ⟨hunread, hvalued, hdata⟩
      · left
        refine ⟨eventData, value, _, hevent, hreads, hvalued, ?_,
          by simp only [parseOnInfo, hhead, hdata]; rfl⟩
        rw [onLabels_eventData]
      · right; left
        exact ⟨eventData, hevent, hunvalued,
          by simp only [parseOnInfo, hhead, hdata]; rfl⟩
      · right; right
        refine ⟨?_, by simp only [parseOnInfo, hhead, hdata]; rfl⟩
        intro text htext
        have hsame := htext.eventData
        rw [hevent.eventData, Option.some.injEq, BscJson.string.injEq] at hsame
        rw [← hsame]
        exact ⟨hvalued, hunread⟩

theorem thenHead_of_actionHead {item member : BscJson} {action : ConnAction}
    (hhead : env.ActionHead item action)
    (hparams : item.getObjectItem "actionParams".toList = some member) :
    env.thenHead item = some (action.kept none, member.valuestring) := by
  rcases hhead.actionTarget with ⟨text, htext, htarget⟩
  rw [thenHead, numberMember_eq_some.mpr hhead.id, Option.bind_eq_bind,
    Option.bind_some, stringMember_eq_some.mpr htext, Option.bind_eq_bind,
    Option.bind_some, deviceOf_eq_some.mpr htarget,
    stringMember_eq_some.mpr hhead.actionType,
    stringMember_eq_some.mpr hhead.localIndex,
    stringMember_eq_some.mpr hhead.domainIdentifier,
    stringMember_eq_some.mpr hhead.identifier, hparams]
  rfl

theorem actionHead_of_thenHead {item : BscJson}
    {head : ConnThenInfo × Option CString}
    (hhead : env.thenHead item = some head) :
    ∃ action member, env.ActionHead item action ∧
      item.getObjectItem "actionParams".toList = some member ∧
      head = (action.kept none, member.valuestring) := by
  simp only [thenHead, Option.bind_eq_bind, Option.bind_eq_some_iff] at hhead
  rcases hhead with ⟨id, hid, target, htarget, device, hdevice, actionType,
    hactionType, localIndex, hlocal, domain, hdomain, identifier, hidentifier,
    params, hparams, hpair⟩
  refine ⟨⟨id, actionType, device, localIndex, domain, identifier⟩, params,
    ?_, hparams, (Option.some.inj hpair).symm⟩
  exact {
    id := numberMember_eq_some.mp hid
    actionTarget := ⟨target, stringMember_eq_some.mp htarget,
      deviceOf_eq_some.mp hdevice⟩
    actionType := stringMember_eq_some.mp hactionType
    localIndex := stringMember_eq_some.mp hlocal
    domainIdentifier := stringMember_eq_some.mp hdomain
    identifier := stringMember_eq_some.mp hidentifier }

/-- What becomes of an entry of the list. -/
theorem parseThenInfo_cases (item : BscJson) :
    (∃ action value, env.Declares item action value ∧
        env.parseThenInfo item = .ok (some (action.kept (some value)))) ∨
      (env.Crashes item ∧ (∀ action value, ¬ env.Declares item action value) ∧
        env.parseThenInfo item = .error .nullDereference) ∨
      ((∀ action value, ¬ env.Declares item action value) ∧
        ¬ env.Crashes item ∧ env.parseThenInfo item = .ok none) := by
  cases hhead : env.thenHead item with
  | none =>
      right; right
      refine ⟨?_, ?_, by simp only [parseThenInfo, hhead]⟩
      · rintro action value ⟨haction, text, htext, -⟩
        rw [thenHead_of_actionHead haction htext] at hhead
        cases hhead
      · rintro ⟨⟨action, haction⟩, text, htext, -⟩
        rw [thenHead_of_actionHead haction htext] at hhead
        cases hhead
  | some head =>
      rcases actionHead_of_thenHead hhead with
        ⟨action, member, haction, hparams, rfl⟩
      cases htext : member.valuestring with
      | none =>
          right; right
          have hother : ∀ text,
              item.getObjectItem "actionParams".toList ≠
                some (.string text) := by
            intro text hsame
            rw [hparams, Option.some.injEq] at hsame
            rw [hsame] at htext
            cases htext
          refine ⟨?_, ?_, by simp only [parseThenInfo, hhead, htext]; rfl⟩
          · rintro _ value ⟨-, text, hsame, -⟩
            exact hother text hsame
          · rintro ⟨-, text, hsame, -⟩
            exact hother text hsame
      | some text =>
          have hstring : item.getObjectItem "actionParams".toList =
              some (.string text) := by
            refine stringMember_eq_some.mp ?_
            rw [stringMember, hparams, Option.bind_some, htext]
          have hunique : ∀ other,
              item.getObjectItem "actionParams".toList =
                some (.string other) → other = text := by
            intro other hother
            rw [hstring, Option.some.injEq, BscJson.string.injEq] at hother
            exact hother.symm
          rcases @processEventData_cases env text with
            ⟨value, hreads, -, hdata⟩ | ⟨hunvalued, hunread, hdata⟩ |
              ⟨hunread, hvalued, hdata⟩
          · left
            exact ⟨action, value, ⟨haction, text, hstring, hreads⟩,
              by simp only [parseThenInfo, hhead, htext, hdata]; rfl⟩
          · right; left
            refine ⟨⟨⟨action, haction⟩, text, hstring, hunvalued⟩, ?_,
              by simp only [parseThenInfo, hhead, htext, hdata]; rfl⟩
            rintro _ value ⟨-, other, hother, hreads⟩
            rw [hunique other hother] at hreads
            exact hunread value hreads
          · right; right
            refine ⟨?_, ?_,
              by simp only [parseThenInfo, hhead, htext, hdata]; rfl⟩
            · rintro _ value ⟨-, other, hother, hreads⟩
              rw [hunique other hother] at hreads
              exact hunread value hreads
            · rintro ⟨-, other, hother, hcrash⟩
              rw [hunique other hother] at hcrash
              exact hvalued hcrash

theorem parseThenInfo_of_declares {item : BscJson} {action : ConnAction}
    {value : ConnValue} (hdeclares : env.Declares item action value) :
    env.parseThenInfo item = .ok (some (action.kept (some value))) := by
  rcases hdeclares with ⟨haction, text, htext, root, param, hroot, hparam,
    hvalue⟩
  simp only [parseThenInfo, thenHead_of_actionHead haction htext,
    BscJson.valuestring, processEventData, Option.bind_some, hroot, hparam,
    hvalue]
  rfl

/-- Only an object has the members of an action. -/
theorem object_of_declares {item : BscJson} {action : ConnAction}
    {value : ConnValue} (hdeclares : env.Declares item action value) :
    ∃ members, item = .object members := by
  rcases hdeclares.1.id with ⟨number, hid, -⟩
  by_contra hother
  rw [BscJson.getObjectItem_of_not_object _
    (fun members hsame => hother ⟨members, hsame⟩)] at hid
  cases hid

end ConnEnv

/-- A rule that has a base part and nothing else. -/
def baseOnly : BscJson :=
  .object [("ruleBaseInfoForDeviceTo".toList, .object [
    ("ruleId".toList, .number 1), ("startTime".toList, .string "00:00".toList),
    ("endTime".toList, .string "00:00".toList),
    ("weekdays".toList, .string "[]".toList),
    ("enableSwitch".toList, .number 1)])]

end EziotSdk

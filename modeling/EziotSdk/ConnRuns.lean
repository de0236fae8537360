import EziotSdk.BscJsonRoundTrip
import EziotSdk.ConnRules
import EziotSdk.KeyedAdds
import EziotSdk.StepSystem

/-!
# The linkage rules over a run

The rules are a list in memory, and the message that they came from is kept as
a text.  A message takes the old rules away before it is read, its text is
stored after the result has been reported, and a restart reads the text again
without the checks.
-/

namespace EziotSdk

/-! ## Checks -/

/-- `ez_iot_tsl_property_value_legal` and `ez_iot_tsl_event_value_legal` of a
device, a local index, a domain and a key. -/
structure ConnLegality where
  property : CString → CString → CString → CString → Bool
  event : CString → CString → CString → CString → Bool

namespace ConnLegality

variable (legality : ConnLegality)

def checkOnInfoValid (info : ConnOnInfo) : Bool :=
  if info.eventSubType.1 = "DEVICE_EVENT_V3_EVENT".toList then
    legality.event info.eventSource.1 info.localIndex.1
      info.domainIdentifier.1 info.identifier.1
  else if info.eventSubType.1 = "DEVICE_EVENT_V3_STATUS".toList then
    legality.property info.eventSource.1 info.localIndex.1
      info.domainIdentifier.1 info.identifier.1
  else false

/-- One pass of the loop of `check_then_info_valid`. -/
def checkThenInfo (info : ConnThenInfo) : Bool :=
  if info.actionType.1 = "V3_STATUS".toList then
    legality.property info.actionTarget.1 info.localIndex.1
      info.domainIdentifier.1 info.identifier.1
  else if info.actionType.1 = "V3_OPERATE".toList then
    legality.event info.actionTarget.1 info.localIndex.1
      info.domainIdentifier.1 info.identifier.1
  else true

/-- `check_then_info_valid` fails without an action.  With a negative count
the loop goes on behind the array, unless an action in it fails. -/
def checkThenInfoValid (rule : ConnInfo) : Except ConnFault Bool :=
  let entries := rule.thenInfo.getD []
  if rule.thenInfoNum < 0 then
    if entries.all legality.checkThenInfo then .error .outOfBounds
    else .ok false
  else
    let checked := entries.take rule.thenInfoNum.toNat
    .ok (decide (0 < rule.thenInfoNum) && checked.all legality.checkThenInfo)

/-- The checks of a rule that comes from the platform. -/
def check (rule : ConnInfo) : Except ConnFault Bool :=
  if legality.checkOnInfoValid rule.onInfo then
    legality.checkThenInfoValid rule
  else .ok false

end ConnLegality

/-! ## The list -/

def ConnInfo.ruleId (rule : ConnInfo) : ℤ := rule.baseInfo.ruleId

/-- `ez_iot_tsl_add_conn`; an id that is there already is left alone. -/
def ezIotTslAddConn (rules : List ConnInfo) (rule : ConnInfo) :
    List ConnInfo :=
  KeyedAdds.addNew ConnInfo.ruleId rules rule

namespace ConnEnv

variable (env : ConnEnv)

/-- The loop of `parse_conn_info_rule_add` over the rules of a message. -/
def addRules (check : ConnInfo → Except ConnFault Bool) :
    List BscJson → List ConnInfo → Except ConnFault (List ConnInfo)
  | [], rules => .ok rules
  | item :: rest, rules =>
      match item with
      | .object _ => do
          let outcome ← env.connectivityParse item
          if outcome.success then
            let valid ← check outcome.info
            addRules check rest
              (if valid then ezIotTslAddConn rules outcome.info else rules)
          else addRules check rest rules
      | _ => addRules check rest rules

/-- The rules of a message, when it is not too long and is an array. -/
def messageRules (value : CString) : Option (List BscJson) :=
  if 4 * 1024 ≤ value.length ∨ value.length = 0 then none
  else
    match env.parse value with
    | some (.array items) => some items
    | _ => none

end ConnEnv

/-! ## Steps -/

/-- What `hal_storage_kv_del` does: an error, a success that leaves the stored
text, or a success that removes it. -/
inductive DelOutcome where
  | failed
  | kept
  | removed
  deriving DecidableEq

inductive ConnEvent where
  | ruleAdd (value : CString) (del : DelOutcome) (legality : ConnLegality)
      (matchReported saved : Bool)
  | ruleDel (del : DelOutcome)
  | restart (read : Bool)

/-- What the last step was and what it found.  A faulted step has read or
written memory that is not its own. -/
inductive ConnStep where
  | start
  | added (accepted : List ConnInfo)
  | rejected (rules : List ConnInfo) (stored : Option CString)
  | deleted
  | restarted (rules : List ConnInfo)
  | faulted

structure ConnRunState where
  rules : List ConnInfo
  stored : Option CString
  last : ConnStep

namespace ConnRunState

def initial : ConnRunState := ⟨[], none, .start⟩

def fault (state : ConnRunState) : ConnRunState :=
  { state with last := .faulted }

def hasFaulted (state : ConnRunState) : Bool :=
  match state.last with
  | .faulted => true
  | _ => false

/-- `parse_conn_info_rule_del`. -/
def ruleDel (state : ConnRunState) : DelOutcome → ConnRunState
  | .failed => state
  | .kept => { state with rules := [] }
  | .removed => { state with rules := [], stored := none }

end ConnRunState

namespace ConnEnv

variable (env : ConnEnv)

/-- The rules of a message that parse and pass the checks. -/
def acceptedRules (check : ConnInfo → Except ConnFault Bool) :
    List BscJson → Except ConnFault (List ConnInfo)
  | [] => .ok []
  | item :: rest =>
      match item with
      | .object _ => do
          let outcome ← env.connectivityParse item
          if outcome.success then
            let valid ← check outcome.info
            let later ← acceptedRules check rest
            return if valid then outcome.info :: later else later
          else acceptedRules check rest
      | _ => acceptedRules check rest

/-- The rules that a restart reads from the stored text. -/
def reload (stored : Option CString) : Except ConnFault (List ConnInfo) :=
  match stored.bind env.messageRules with
  | none => .ok []
  | some items => env.addRules (fun _ => .ok true) items []

def next (state : ConnRunState) : ConnEvent → ConnRunState
  | .ruleAdd value del legality matchReported saved =>
      let cleared := state.ruleDel del
      let reject : ConnStep := .rejected state.rules state.stored
      match env.messageRules value with
      | none => { cleared with last := reject }
      | some items =>
          match env.acceptedRules legality.check items,
              env.addRules legality.check items cleared.rules with
          | .ok accepted, .ok rules =>
              if matchReported && saved then
                ⟨rules, some value, .added accepted⟩
              else ⟨rules, cleared.stored, reject⟩
          | _, _ => cleared.fault
  | .ruleDel del => { state.ruleDel del with last := .deleted }
  | .restart read =>
      match env.reload (if read then state.stored else none) with
      | .error _ => state.fault
      | .ok rules => ⟨rules, state.stored, .restarted state.rules⟩

/-- Nothing is said about what comes after a fault. -/
def step (state : ConnRunState) (event : ConnEvent) : Option ConnRunState :=
  if state.hasFaulted then none else some (env.next state event)

/-- The ids are distinct, what is stored is what is in memory, and the last
step stayed in its memory and did what it is meant to do. -/
structure RulesAgree (state : ConnRunState) : Prop where
  nodup : (state.rules.map ConnInfo.ruleId).Nodup
  synced : env.reload state.stored = .ok state.rules
  step : match state.last with
    | .start => True
    | .added accepted =>
        state.rules = KeyedAdds.firstPerKey ConnInfo.ruleId accepted
    | .rejected rules stored => state.rules = rules ∧ state.stored = stored
    | .deleted => True
    | .restarted rules => state.rules = rules
    | .faulted => False

/-- A step that stays in its memory, for which memory and storage go on to
agree. -/
def StepSound (state : ConnRunState) : ConnEvent → Prop
  | .ruleAdd value del legality matchReported saved =>
      match env.messageRules value with
      | none =>
          del = .failed ∨
            (state.rules = [] ∧ (del = .kept ∨ state.stored = none))
      | some items =>
          ∃ accepted parsed,
            env.acceptedRules legality.check items = .ok accepted ∧
            env.acceptedRules (fun _ => .ok true) items = .ok parsed ∧
              if matchReported && saved then
                (del = .failed → state.rules <+:
                    KeyedAdds.firstPerKey ConnInfo.ruleId accepted) ∧
                  ∀ rule ∈ KeyedAdds.firstPerKey ConnInfo.ruleId parsed,
                    legality.check rule = .ok true
              else
                match del with
                | .failed => ∀ rule ∈ accepted,
                    rule.ruleId ∈ state.rules.map ConnInfo.ruleId
                | .kept =>
                    KeyedAdds.firstPerKey ConnInfo.ruleId accepted =
                      state.rules
                | .removed => state.stored = none ∧ accepted = []
  | .ruleDel del => del = .kept → state.rules = []
  | .restart read => read = true ∨ state.rules = []

/-! ## The rules of a message -/

variable {env : ConnEnv}

/-- One rule of a message, by what is parsed and checked of it. -/
theorem acceptedRules_object (check : ConnInfo → Except ConnFault Bool)
    (members : List (CString × BscJson)) (rest : List BscJson) :
    env.acceptedRules check (.object members :: rest) =
      match env.connectivityParse (.object members) with
      | .error fault => .error fault
      | .ok outcome =>
          if outcome.success then
            match check outcome.info with
            | .error fault => .error fault
            | .ok valid =>
                (env.acceptedRules check rest).map fun later =>
                  if valid then outcome.info :: later else later
          else env.acceptedRules check rest := by
  rw [acceptedRules]
  cases env.connectivityParse (.object members) with
  | error fault => rfl
  | ok outcome =>
      change (if outcome.success = true then _ else _) =
        if outcome.success = true then _ else _
      split_ifs
      · cases check outcome.info with
        | error fault => rfl
        | ok valid => cases env.acceptedRules check rest <;> rfl
      · rfl

theorem addRules_object (check : ConnInfo → Except ConnFault Bool)
    (members : List (CString × BscJson)) (rest : List BscJson)
    (rules : List ConnInfo) :
    env.addRules check (.object members :: rest) rules =
      match env.connectivityParse (.object members) with
      | .error fault => .error fault
      | .ok outcome =>
          if outcome.success then
            match check outcome.info with
            | .error fault => .error fault
            | .ok valid =>
                env.addRules check rest
                  (if valid then ezIotTslAddConn rules outcome.info
                  else rules)
          else env.addRules check rest rules := by
  rw [addRules]
  cases env.connectivityParse (.object members) with
  | error fault => rfl
  | ok outcome =>
      change (if outcome.success = true then _ else _) =
        if outcome.success = true then _ else _
      split_ifs
      · cases check outcome.info <;> rfl
      · rfl

theorem addRules_eq (check : ConnInfo → Except ConnFault Bool)
    (items : List BscJson) (rules : List ConnInfo) :
    env.addRules check items rules =
      (env.acceptedRules check items).map
        (KeyedAdds.addAll ConnInfo.ruleId rules) := by
  induction items generalizing rules with
  | nil => rfl
  | cons item rest ih =>
      cases item with
      | object members =>
          rw [addRules_object, acceptedRules_object]
          cases env.connectivityParse (.object members) with
          | error fault => rfl
          | ok outcome =>
              dsimp only
              split_ifs
              · cases check outcome.info with
                | error fault => rfl
                | ok valid =>
                    dsimp only
                    rw [ih]
                    cases env.acceptedRules check rest with
                    | error fault => rfl
                    | ok later => cases valid <;> rfl
              · exact ih rules
      | null => exact ih rules
      | bool value => exact ih rules
      | number value => exact ih rules
      | string text => exact ih rules
      | array own => exact ih rules

/-- The rules that parse, of which the checks leave some out. -/
theorem exists_parsed {check : ConnInfo → Except ConnFault Bool}
    {items : List BscJson} {accepted : List ConnInfo}
    (haccepted : env.acceptedRules check items = .ok accepted) :
    ∃ parsed, env.acceptedRules (fun _ => .ok true) items = .ok parsed ∧
      accepted = parsed.filter fun rule =>
        decide (check rule = .ok true) := by
  induction items generalizing accepted with
  | nil => exact ⟨[], rfl, (Except.ok.inj haccepted).symm⟩
  | cons item rest ih =>
      cases item with
      | object members =>
          rw [acceptedRules_object] at haccepted ⊢
          cases hparse : env.connectivityParse (.object members) with
          | error fault =>
              rw [hparse] at haccepted
              cases haccepted
          | ok outcome =>
              rw [hparse] at haccepted
              dsimp only at haccepted ⊢
              by_cases hsuccess : outcome.success = true
              · rw [if_pos hsuccess] at haccepted ⊢
                cases hcheck : check outcome.info with
                | error fault =>
                    rw [hcheck] at haccepted
                    cases haccepted
                | ok valid =>
                    rw [hcheck] at haccepted
                    cases hrest : env.acceptedRules check rest with
                    | error fault =>
                        rw [hrest] at haccepted
                        cases haccepted
                    | ok later =>
                        rw [hrest] at haccepted
                        rcases ih hrest with ⟨parsed, hparsed, hlater⟩
                        rw [hparsed]
                        refine ⟨outcome.info :: parsed, rfl, ?_⟩
                        rw [← Except.ok.inj haccepted, hlater,
                          List.filter_cons, hcheck]
                        cases valid <;> simp
              · rw [if_neg hsuccess] at haccepted ⊢
                exact ih haccepted
      | null => exact ih haccepted
      | bool value => exact ih haccepted
      | number value => exact ih haccepted
      | string text => exact ih haccepted
      | array own => exact ih haccepted

theorem reload_message {value : CString} {items : List BscJson}
    {parsed : List ConnInfo} (hitems : env.messageRules value = some items)
    (hparsed : env.acceptedRules (fun _ => .ok true) items = .ok parsed) :
    env.reload (some value) =
      .ok (KeyedAdds.firstPerKey ConnInfo.ruleId parsed) := by
  rw [reload, Option.bind_some, hitems]
  change env.addRules (fun _ => .ok true) items [] = _
  rw [addRules_eq, hparsed]
  rfl

theorem nodup_reload {stored : Option CString} {rules : List ConnInfo}
    (hreload : env.reload stored = .ok rules) :
    (rules.map ConnInfo.ruleId).Nodup := by
  unfold reload at hreload
  split at hreload
  · rw [← Except.ok.inj hreload]
    exact List.nodup_nil
  · next items _ =>
      rw [addRules_eq] at hreload
      cases haccepted : env.acceptedRules (fun _ => .ok true) items with
      | error fault =>
          rw [haccepted] at hreload
          cases hreload
      | ok accepted =>
          rw [haccepted] at hreload
          rw [← Except.ok.inj hreload]
          exact KeyedAdds.nodup_firstPerKey accepted

/-! ## What the steps do -/

variable {state : ConnRunState}

theorem rejected_agrees_iff (hagree : env.RulesAgree state)
    (rules : List ConnInfo) (stored : Option CString) :
    env.RulesAgree ⟨rules, stored, .rejected state.rules state.stored⟩ ↔
      rules = state.rules ∧ stored = state.stored := by
  constructor
  · intro hnext
    exact hnext.step
  · rintro ⟨rfl, rfl⟩
    exact ⟨hagree.nodup, hagree.synced, rfl, rfl⟩

/-- A message that cannot be read. -/
theorem unread_agrees_iff (hagree : env.RulesAgree state)
    (del : DelOutcome) :
    env.RulesAgree { state.ruleDel del with
        last := .rejected state.rules state.stored } ↔
      del = .failed ∨
        (state.rules = [] ∧ (del = .kept ∨ state.stored = none)) := by
  cases del with
  | failed =>
      rw [ConnRunState.ruleDel, rejected_agrees_iff hagree]
      simp
  | kept =>
      rw [ConnRunState.ruleDel, rejected_agrees_iff hagree]
      simp [eq_comm]
  | removed =>
      rw [ConnRunState.ruleDel, rejected_agrees_iff hagree]
      simp [eq_comm]

/-- A message that is read and then rejected. -/
theorem rejected_message_agrees_iff (hagree : env.RulesAgree state)
    (del : DelOutcome) (accepted : List ConnInfo) :
    env.RulesAgree ⟨KeyedAdds.addAll ConnInfo.ruleId
          (state.ruleDel del).rules accepted,
        (state.ruleDel del).stored,
        .rejected state.rules state.stored⟩ ↔
      match del with
      | .failed => ∀ rule ∈ accepted,
          rule.ruleId ∈ state.rules.map ConnInfo.ruleId
      | .kept =>
          KeyedAdds.firstPerKey ConnInfo.ruleId accepted = state.rules
      | .removed => state.stored = none ∧ accepted = [] := by
  rw [rejected_agrees_iff hagree]
  cases del with
  | failed =>
      rw [ConnRunState.ruleDel, KeyedAdds.addAll_eq_self_iff, and_iff_left rfl]
  | kept =>
      simp only [ConnRunState.ruleDel, and_true]
      exact Iff.rfl
  | removed =>
      simp only [ConnRunState.ruleDel]
      constructor
      · rintro ⟨hrules, hstored⟩
        have hempty : state.rules = [] := by
          have hsynced := hagree.synced
          rw [← hstored] at hsynced
          exact (Except.ok.inj hsynced).symm
        rw [hempty, KeyedAdds.addAll_eq_self_iff] at hrules
        refine ⟨hstored.symm, ?_⟩
        rw [List.eq_nil_iff_forall_not_mem]
        intro rule hrule
        cases hrules rule hrule
      · rintro ⟨hstored, rfl⟩
        have hsynced := hagree.synced
        rw [hstored] at hsynced
        exact ⟨Except.ok.inj hsynced, hstored.symm⟩

/-- A message that is read, reported and stored. -/
theorem added_agrees_iff {value : CString} {items : List BscJson}
    {check : ConnInfo → Except ConnFault Bool}
    {accepted parsed : List ConnInfo}
    (hitems : env.messageRules value = some items)
    (haccepted : env.acceptedRules check items = .ok accepted)
    (hparsed : env.acceptedRules (fun _ => .ok true) items = .ok parsed)
    (del : DelOutcome) :
    env.RulesAgree ⟨KeyedAdds.addAll ConnInfo.ruleId
          (state.ruleDel del).rules accepted, some value, .added accepted⟩ ↔
      (del = .failed → state.rules <+:
          KeyedAdds.firstPerKey ConnInfo.ruleId accepted) ∧
        ∀ rule ∈ KeyedAdds.firstPerKey ConnInfo.ruleId parsed,
          check rule = .ok true := by
  have hlist : KeyedAdds.addAll ConnInfo.ruleId (state.ruleDel del).rules
      accepted = KeyedAdds.firstPerKey ConnInfo.ruleId accepted ↔
        (del = .failed → state.rules <+:
          KeyedAdds.firstPerKey ConnInfo.ruleId accepted) := by
    cases del with
    | failed =>
        rw [ConnRunState.ruleDel, KeyedAdds.addAll_eq_firstPerKey_iff]
        simp
    | kept => simp [ConnRunState.ruleDel, KeyedAdds.firstPerKey]
    | removed => simp [ConnRunState.ruleDel, KeyedAdds.firstPerKey]
  have hchecked : KeyedAdds.firstPerKey ConnInfo.ruleId parsed =
      KeyedAdds.firstPerKey ConnInfo.ruleId accepted ↔
        ∀ rule ∈ KeyedAdds.firstPerKey ConnInfo.ruleId parsed,
          check rule = .ok true := by
    rcases exists_parsed haccepted with ⟨others, hothers, hfilter⟩
    rw [hparsed, Except.ok.injEq] at hothers
    rw [hfilter, ← hothers, eq_comm, KeyedAdds.firstPerKey_filter_eq_iff]
    simp only [decide_eq_true_eq]
  rw [← hlist, ← hchecked]
  constructor
  · intro hnext
    have hsynced := hnext.synced
    rw [reload_message hitems hparsed, Except.ok.injEq] at hsynced
    exact ⟨hnext.step, hsynced.trans hnext.step⟩
  · rintro ⟨hrules, hsame⟩
    have hreload := reload_message hitems hparsed
    rw [hsame, ← hrules] at hreload
    exact ⟨nodup_reload hreload, hreload, hrules⟩

theorem deleted_agrees_iff (hagree : env.RulesAgree state)
    (del : DelOutcome) :
    env.RulesAgree { state.ruleDel del with last := .deleted } ↔
      (del = .kept → state.rules = []) := by
  cases del with
  | failed =>
      simp only [reduceCtorEq, false_imp_iff, iff_true]
      exact ⟨hagree.nodup, hagree.synced, trivial⟩
  | kept =>
      constructor
      · intro hnext _
        have hsynced := hagree.synced.symm.trans hnext.synced
        exact Except.ok.inj hsynced
      · intro hrules
        have hsynced := hagree.synced
        rw [hrules rfl] at hsynced
        exact ⟨List.nodup_nil, hsynced, trivial⟩
  | removed =>
      simp only [reduceCtorEq, false_imp_iff, iff_true]
      exact ⟨List.nodup_nil, rfl, trivial⟩

theorem restarted_agrees_iff (hagree : env.RulesAgree state) (read : Bool)
    {rules : List ConnInfo}
    (hreload : env.reload (if read then state.stored else none) =
      .ok rules) :
    env.RulesAgree ⟨rules, state.stored, .restarted state.rules⟩ ↔
      read = true ∨ state.rules = [] := by
  cases read with
  | true =>
      rw [if_pos rfl, hagree.synced, Except.ok.injEq] at hreload
      simp only [true_or, iff_true]
      rw [← hreload]
      exact ⟨hagree.nodup, hagree.synced, rfl⟩
  | false =>
      have hempty : rules = [] := (Except.ok.inj hreload).symm
      simp only [Bool.false_eq_true, false_or]
      rw [hempty]
      constructor
      · intro hnext
        exact hnext.step.symm
      · intro hnone
        have hsynced := hagree.synced
        rw [hnone] at hsynced
        exact ⟨List.nodup_nil, hsynced, hnone.symm⟩

theorem step_of_agree (hagree : env.RulesAgree state) (event : ConnEvent) :
    env.step state event = some (env.next state event) := by
  have hlast := hagree.step
  unfold step ConnRunState.hasFaulted
  cases hcase : state.last with
  | faulted =>
      rw [hcase] at hlast
      exact absurd hlast not_false
  | start => rfl
  | added accepted => rfl
  | rejected rules stored => rfl
  | deleted => rfl
  | restarted rules => rfl

theorem not_agree_fault (state : ConnRunState) :
    ¬ env.RulesAgree state.fault :=
  fun hagree => hagree.step

/-- The loop reads a message exactly when all its rules are parsed. -/
theorem next_ruleAdd_of_accepted {value : CString} {items : List BscJson}
    {legality : ConnLegality} {accepted : List ConnInfo}
    (hitems : env.messageRules value = some items)
    (haccepted : env.acceptedRules legality.check items = .ok accepted)
    (del : DelOutcome) (matchReported saved : Bool) :
    env.next state (.ruleAdd value del legality matchReported saved) =
      if matchReported && saved then
        ⟨KeyedAdds.addAll ConnInfo.ruleId (state.ruleDel del).rules
            accepted, some value, .added accepted⟩
      else
        ⟨KeyedAdds.addAll ConnInfo.ruleId (state.ruleDel del).rules
            accepted, (state.ruleDel del).stored,
          .rejected state.rules state.stored⟩ := by
  simp only [next, hitems, addRules_eq, haccepted]
  rfl

theorem next_ruleAdd_of_fault {value : CString} {items : List BscJson}
    {legality : ConnLegality} {fault : ConnFault}
    (hitems : env.messageRules value = some items)
    (haccepted : env.acceptedRules legality.check items = .error fault)
    (del : DelOutcome) (matchReported saved : Bool) :
    env.next state (.ruleAdd value del legality matchReported saved) =
      (state.ruleDel del).fault := by
  simp only [next, hitems, haccepted]

/-- A step keeps the agreement exactly if it is sound. -/
theorem next_agrees_iff (hagree : env.RulesAgree state) (event : ConnEvent) :
    env.StepSound state event ↔ env.RulesAgree (env.next state event) := by
  cases event with
  | ruleAdd value del legality matchReported saved =>
      cases hitems : env.messageRules value with
      | none =>
          simp only [StepSound, next, hitems]
          exact (unread_agrees_iff hagree del).symm
      | some items =>
          cases haccepted : env.acceptedRules legality.check items with
          | error fault =>
              rw [next_ruleAdd_of_fault hitems haccepted]
              simp only [StepSound, hitems, haccepted, reduceCtorEq,
                false_and, exists_false, false_iff]
              exact not_agree_fault _
          | ok accepted =>
              rcases exists_parsed haccepted with ⟨parsed, hparsed, -⟩
              simp only [StepSound, hitems, haccepted, hparsed,
                Except.ok.injEq, exists_and_left, exists_eq_left',
                next_ruleAdd_of_accepted hitems haccepted]
              split_ifs with hsuccess
              · exact (added_agrees_iff hitems haccepted hparsed del).symm
              · exact (rejected_message_agrees_iff hagree del accepted).symm
  | ruleDel del =>
      simp only [StepSound, next]
      exact (deleted_agrees_iff hagree del).symm
  | restart read =>
      cases hreload : env.reload (if read then state.stored else none) with
      | error fault =>
          -- What is stored has been read, or nothing is.
          exfalso
          cases read with
          | true =>
              rw [if_pos rfl, hagree.synced] at hreload
              cases hreload
          | false => cases hreload
      | ok rules =>
          simp only [StepSound, next, hreload]
          exact (restarted_agrees_iff hagree read hreload).symm

theorem initial_agrees (env : ConnEnv) : env.RulesAgree .initial where
  nodup := List.nodup_nil
  synced := rfl
  step := trivial

end ConnEnv

/-- The rules in memory and in storage agree all along a run exactly if every
step of it is sound. -/
theorem connRules_agree_iff (env : ConnEnv) (events : List ConnEvent) :
    StepSystem.Along env.step env.RulesAgree .initial events ↔
      StepSystem.StepsMeet env.step env.StepSound .initial events := by
  have hsound : ∀ state, env.RulesAgree state → env.RulesAgree state :=
    fun _ hagree => hagree
  refine StepSystem.along_iff_stepsMeet hsound ?_ ?_ env.initial_agrees
  · intro state event next hagree hsound hstep
    rw [ConnEnv.step_of_agree hagree, Option.some.injEq] at hstep
    rw [← hstep]
    exact (ConnEnv.next_agrees_iff hagree event).mp hsound
  · intro state event hagree hunsound
    exact ⟨_, ConnEnv.step_of_agree hagree event,
      mt (ConnEnv.next_agrees_iff hagree event).mpr hunsound⟩

/-- The parser and the printer of the source; a `double` holds the numbers of
the message as they are. -/
def bscJsonEnv : ConnEnv where
  parse := BscJson.parse id
  print := BscJson.printValue false 0
  devSubserial := []

/-- A message with one rule, which has a base part only. -/
def baseMessage : CString :=
  ("[\x7b\"ruleBaseInfoForDeviceTo\":\x7b\"ruleId\":1," ++
    "\"startTime\":\"00:00\",\"endTime\":\"00:00\"," ++
    "\"weekdays\":\"[]\",\"enableSwitch\":1\x7d\x7d]").toList

theorem printValue_baseOnly :
    BscJson.printValue false 0 (.array [baseOnly]) = some baseMessage := by
  decide +kernel

theorem parse_baseMessage :
    BscJson.parse id baseMessage = some (.array [baseOnly]) := by
  have hnul : (BscJson.array [baseOnly]).NulFree := by
    simp [BscJson.NulFree, BscJson.NulFreeElements, BscJson.NulFreeMembers,
      baseOnly]
  have hone : BscJson.printedNumber 1 = 1 := by
    decide +kernel
  rw [BscJson.parse_of_printValue id hnul printValue_baseOnly,
    if_pos (by decide)]
  simp [BscJson.reparsed, BscJson.mapNumbers, BscJson.mapNumbersElements,
    BscJson.mapNumbersMembers, baseOnly, hone]

/-- All keys are legal. -/
def allLegal : ConnLegality where
  property := fun _ _ _ _ => true
  event := fun _ _ _ _ => true

theorem restart_brings_back :
    ¬ StepSystem.Along bscJsonEnv.step bscJsonEnv.RulesAgree .initial
      [.ruleAdd baseMessage .removed allLegal true true, .restart true] := by
  intro halong
  have hlength : ¬ (4 * 1024 ≤ baseMessage.length ∨
      baseMessage.length = 0) := by
    decide +kernel
  have hitems : bscJsonEnv.messageRules baseMessage = some [baseOnly] := by
    simp only [ConnEnv.messageRules, if_neg hlength, bscJsonEnv,
      parse_baseMessage]
  have haccepted : bscJsonEnv.acceptedRules allLegal.check [baseOnly] =
      .ok [] := rfl
  have hparsed : ∃ rule, bscJsonEnv.acceptedRules (fun _ => .ok true)
      [baseOnly] = .ok [rule] := ⟨_, rfl⟩
  rcases hparsed with ⟨rule, hparsed⟩
  have hadded : bscJsonEnv.step .initial
      (.ruleAdd baseMessage .removed allLegal true true) =
        some ⟨[], some baseMessage, .added []⟩ := by
    rw [ConnEnv.step_of_agree bscJsonEnv.initial_agrees,
      ConnEnv.next_ruleAdd_of_accepted hitems haccepted]
    rfl
  have hrestart : bscJsonEnv.step ⟨[], some baseMessage, .added []⟩
      (.restart true) =
        some ⟨[rule], some baseMessage, .restarted []⟩ := by
    have hreload := ConnEnv.reload_message hitems hparsed
    simp only [ConnEnv.step, ConnRunState.hasFaulted, ConnEnv.next, if_true,
      hreload]
    rfl
  have hsame := ((halong.tail hadded).tail hrestart).head.step
  cases hsame

end EziotSdk

import EziotSdk.ExtendTables
import EziotSdk.StepSystem

/-!
# Registration and dispatch of extensions

Modules register themselves through the kernel's interface, at any time
before or after the start, and the kernel thread hands each received message
to the handler registered for the id the message carries.  The state keeps,
beside the tables, the map of accepted registrations of each table and a log
that pairs the handler each message should reach with what was called.
-/

namespace EziotSdk

/-- `ezdev_sdk_kernel_submsg`; the domain id is a signed 32-bit integer. -/
structure KernelSubmsg where
  msgSeq : ℕ
  buf : Option (List UInt8)
  msgDomainId : ℤ
  msgCommandId : ℤ
  commandVer : CString
  deriving DecidableEq, Repr

structure KernelSubmsgV3 where
  buf : Option (List UInt8)
  msgResponse : ℕ
  msgSeq : ℕ
  extendId : ℕ
  commandVer : CString
  domainId : CString
  resourceId : CString
  resourceType : CString
  businessType : CString
  identifier : CString
  subSerial : CString
  deriving DecidableEq, Repr

/-- What a received message makes the kernel thread do.  `nullCall` is a call
through a NULL function pointer; `ignored` is the message that
`consume_extend_data_v3` frees without looking for a handler. -/
inductive Dispatch where
  | called (handler : ℕ)
  | nullCall
  | noFind
  | ignored
  deriving DecidableEq, Repr

def callRoute : FunctionPointer → Dispatch
  | some handler => .called handler
  | none => .nullCall

/-- The conversion of the signed id to the parameter of `extend_get`. -/
def domainIdOf (submsg : KernelSubmsg) : ℕ :=
  (submsg.msgDomainId % 2 ^ 32).toNat

def domainRoute (info : DomainInfo) : FunctionPointer :=
  info.kernelExtend.extendDataRoute

/-- One iteration of `consume_extend_data` with the message it popped. -/
def consumeExtendData (tables : ExtendTables) (submsg : KernelSubmsg) :
    Dispatch :=
  match extendGet (domainIdOf submsg) tables.kernelDomains with
  | none => .noFind
  | some info => callRoute (domainRoute info)

/-- The messages that go to the hub extensions. -/
def TakesHubPath (hubRegStatus : ℕ) (submsg : KernelSubmsgV3) : Prop :=
  sdkShadow ≠ submsg.extendId ∧ hubRegStatus = 1 ∧
    0 < CString.strlen submsg.subSerial ∧
    submsg.subSerial ≠ "global".toList

instance (hubRegStatus : ℕ) (submsg : KernelSubmsgV3) :
    Decidable (TakesHubPath hubRegStatus submsg) :=
  inferInstanceAs (Decidable (_ ∧ _))

/-- One iteration of `consume_extend_data_v3` with the message it popped. -/
def consumeExtendDataV3
    (tables : ExtendTables) (hubRegStatus : ℕ) (submsg : KernelSubmsgV3) :
    Dispatch :=
  if TakesHubPath hubRegStatus submsg then
    match sdkHubExtendGet submsg.extendId tables.kernelHubExtends with
    | none => .noFind
    | some extend => callRoute extend.extendHubDataRoute
  else if submsg.extendId ≠ 0 then
    match extendGetByExtendId submsg.extendId tables.kernelExtends with
    | none => .noFind
    | some extend => callRoute extend.dataRoute
  else .ignored

/-- The pointers that the interface checks. -/
def KernelExtend.Complete (external : KernelExtend) : Prop :=
  external.extendStart ≠ none ∧ external.extendEvent ≠ none ∧
    external.extendStop ≠ none ∧ external.extendDataRoute ≠ none

/-- The accepted registrations of one table, the latest for each id. -/
abbrev Bound := ℕ → Option ℕ

/-- A message that was handled: the handler registered for its id, if any,
and what happened. -/
structure Delivery where
  addressed : Option ℕ
  outcome : Dispatch
  deriving DecidableEq, Repr

/-- The registered handler was called, or none when there is none. -/
def Delivery.Correct (delivery : Delivery) : Prop :=
  match delivery.addressed with
  | some handler => delivery.outcome = .called handler
  | none => delivery.outcome = .noFind ∨ delivery.outcome = .ignored

structure DispatchState where
  myState : SdkState
  hubRegStatus : ℕ
  tables : ExtendTables
  boundDomains : Bound
  boundExtends : Bound
  boundHubExtends : Bound
  deliveries : List Delivery

/-- The kernel after `extend_init`. -/
def DispatchState.init
    (extendCount cmdMax : ℕ) (myState : SdkState) (hubRegStatus : ℕ) :
    DispatchState where
  myState := myState
  hubRegStatus := hubRegStatus
  tables := extendInit extendCount cmdMax
  boundDomains := fun _ => none
  boundExtends := fun _ => none
  boundHubExtends := fun _ => none
  deliveries := []

/-- The steps of the system.  A hub extension is registered with a handler,
which `ezdev_sdk_kernel_hub_extend_load` does not check. -/
inductive DispatchEvent where
  | extendLoad (external : KernelExtend)
  | extendLoadV3 (external : KernelExtendV3)
  | hubExtendLoad (extendId handler : ℕ)
  | sdkState (myState : SdkState)
  | submsg (submsg : KernelSubmsg)
  | submsgV3 (submsg : KernelSubmsgV3)

namespace DispatchState

/-- The state test of the registration functions. -/
def MayLoad (state : DispatchState) : Prop :=
  state.myState = .idle ∨ state.myState = .start

instance (state : DispatchState) : Decidable state.MayLoad :=
  inferInstanceAs (Decidable (_ ∨ _))

def ezdevSdkKernelExtendLoad
    (state : DispatchState) (external : KernelExtend) : DispatchState :=
  if ¬ state.MayLoad ∨ external.extendStart = none ∨
      external.extendEvent = none ∨ external.extendStop = none then state
  else
    match external.extendDataRoute with
    | none => state
    | some handler =>
        match extendLoad external state.tables.kernelDomains with
        | (.succ, kernelDomains) =>
            { state with
              tables := { state.tables with kernelDomains := kernelDomains }
              boundDomains :=
                SlotTable.bind state.boundDomains external.domainId handler }
        | (_, kernelDomains) =>
            { state with
              tables := { state.tables with kernelDomains := kernelDomains } }

def ezdevSdkKernelExtendLoadV3
    (state : DispatchState) (external : KernelExtendV3) : DispatchState :=
  if ¬ state.MayLoad then state
  else
    match external.dataRoute with
    | none => state
    | some handler =>
        match extendLoadV3 external state.tables.kernelExtends with
        | (.succ, kernelExtends) =>
            { state with
              tables := { state.tables with kernelExtends := kernelExtends }
              boundExtends :=
                SlotTable.bind state.boundExtends external.extendId handler }
        | (_, kernelExtends) =>
            { state with
              tables := { state.tables with kernelExtends := kernelExtends } }

/-- The registration status is set whether the registration succeeds or
not. -/
def ezdevSdkKernelHubExtendLoad
    (state : DispatchState) (extendId handler : ℕ) : DispatchState :=
  if ¬ state.MayLoad then state
  else
    match sdkHubExtendLoad ⟨extendId, some handler⟩
        state.tables.kernelHubExtends with
    | (.succ, kernelHubExtends) =>
        { state with
          hubRegStatus := 1
          tables :=
            { state.tables with kernelHubExtends := kernelHubExtends }
          boundHubExtends :=
            SlotTable.bind state.boundHubExtends extendId handler }
    | (_, kernelHubExtends) =>
        { state with
          hubRegStatus := 1
          tables :=
            { state.tables with kernelHubExtends := kernelHubExtends } }

/-- The handler that a 3.0 message addresses. -/
def addressedV3 (state : DispatchState) (submsg : KernelSubmsgV3) :
    Option ℕ :=
  if TakesHubPath state.hubRegStatus submsg then
    state.boundHubExtends submsg.extendId
  else state.boundExtends submsg.extendId

def deliver (state : DispatchState) (delivery : Delivery) : DispatchState :=
  { state with deliveries := state.deliveries ++ [delivery] }

def step (state : DispatchState) : DispatchEvent → Option DispatchState
  | .extendLoad external => some (state.ezdevSdkKernelExtendLoad external)
  | .extendLoadV3 external => some (state.ezdevSdkKernelExtendLoadV3 external)
  | .hubExtendLoad extendId handler =>
      some (state.ezdevSdkKernelHubExtendLoad extendId handler)
  | .sdkState myState => some { state with myState := myState }
  | .submsg submsg =>
      some (state.deliver
        { addressed := state.boundDomains (domainIdOf submsg)
          outcome := consumeExtendData state.tables submsg })
  | .submsgV3 submsg =>
      some (state.deliver
        { addressed := state.addressedV3 submsg
          outcome :=
            consumeExtendDataV3 state.tables state.hubRegStatus submsg })

/-! ## The observed property and the condition on a step -/

/-- Accepted registrations stay bound, ids are distinct and contiguous in
each table, and every message went where its id says. -/
structure Faithful (state : DispatchState) : Prop where
  domains : SlotTable.Consistent DomainInfo.domainId domainRoute
    state.tables.kernelDomains state.boundDomains
  extends_ : SlotTable.Consistent KernelExtendV3.extendId
    KernelExtendV3.dataRoute state.tables.kernelExtends state.boundExtends
  hubExtends : SlotTable.Consistent KernelHubExtend.extendId
    KernelHubExtend.extendHubDataRoute state.tables.kernelHubExtends
    state.boundHubExtends
  delivered : ∀ delivery ∈ state.deliveries, delivery.Correct

/-- No slot of the table is free. -/
def NoFreeSlot {Slot : Type} (key : Slot → ℕ) (table : List Slot) : Prop :=
  ∀ slot ∈ table, key slot ≠ 0

/-- Id `0` is not involved in the step in a way that confuses it with a free
slot: no registration of another new id comes after one of id `0`, no 2.0 or
hub message addresses an unregistered id `0` while the table has a free slot,
and no other message addresses a registered id `0`. -/
def IdZeroSafe (state : DispatchState) : DispatchEvent → Prop
  | .extendLoad external =>
      ¬ (state.MayLoad ∧ external.Complete) ∨
        SlotTable.LoadSafe state.boundDomains external.domainId
  | .extendLoadV3 external =>
      ¬ (state.MayLoad ∧ external.dataRoute ≠ none) ∨
        SlotTable.LoadSafe state.boundExtends external.extendId
  | .hubExtendLoad extendId _ =>
      ¬ state.MayLoad ∨ SlotTable.LoadSafe state.boundHubExtends extendId
  | .sdkState _ => True
  | .submsg submsg =>
      domainIdOf submsg ≠ 0 ∨ state.boundDomains 0 ≠ none ∨
        NoFreeSlot DomainInfo.domainId state.tables.kernelDomains
  | .submsgV3 submsg =>
      submsg.extendId ≠ 0 ∨
        if TakesHubPath state.hubRegStatus submsg then
          state.boundHubExtends 0 ≠ none ∨
            NoFreeSlot KernelHubExtend.extendId state.tables.kernelHubExtends
        else state.boundExtends 0 = none

/-! ## The invariant -/

structure Represented (state : DispatchState) : Prop where
  domains : SlotTable.Represents DomainInfo.domainId domainRoute
    state.tables.kernelDomains state.boundDomains
  extends_ : SlotTable.Represents KernelExtendV3.extendId
    KernelExtendV3.dataRoute state.tables.kernelExtends state.boundExtends
  hubExtends : SlotTable.Represents KernelHubExtend.extendId
    KernelHubExtend.extendHubDataRoute state.tables.kernelHubExtends
    state.boundHubExtends
  delivered : ∀ delivery ∈ state.deliveries, delivery.Correct

theorem Represented.faithful
    {state : DispatchState} (hinv : state.Represented) : state.Faithful :=
  ⟨hinv.domains.consistent, hinv.extends_.consistent,
    hinv.hubExtends.consistent, hinv.delivered⟩

theorem init_represented
    (extendCount cmdMax : ℕ) (myState : SdkState) (hubRegStatus : ℕ) :
    (init extendCount cmdMax myState hubRegStatus).Represented := by
  constructor
  · exact SlotTable.represents_replicate (by rfl) (by rfl) extendCount
  · exact SlotTable.represents_replicate (by rfl) (by rfl) extendCount
  · exact SlotTable.represents_replicate (by rfl) (by rfl) hubExtendMaxNum
  · simp [init]

/-! ## Registrations -/

theorem Represented.extendLoad
    {state : DispatchState} (hinv : state.Represented)
    {external : KernelExtend}
    (hsafe : state.IdZeroSafe (.extendLoad external)) :
    (state.ezdevSdkKernelExtendLoad external).Represented := by
  unfold ezdevSdkKernelExtendLoad
  split
  · exact hinv
  · next hadmitted =>
      push Not at hadmitted
      obtain ⟨hmay, hstart, hevent, hstop⟩ := hadmitted
      cases hroute : external.extendDataRoute with
      | none => exact hinv
      | some handler =>
          have hload : SlotTable.LoadSafe state.boundDomains
              external.domainId := by
            rcases hsafe with hrejected | hload
            · exact absurd ⟨hmay, hstart, hevent, hstop, by simp [hroute]⟩
                hrejected
            · exact hload
          have hplace := hinv.domains.placeUnique hload
            (fun info : DomainInfo =>
              { info with
                kernelExtend := external
                domainRisk := .noRiskControl })
            (fun _ => rfl) (fun _ => hroute)
          rcases hplace with hready | hfull | ⟨index, hat, hnext⟩
          · simpa [EziotSdk.extendLoad, hready] using hinv
          · simpa [EziotSdk.extendLoad, hfull] using hinv
          · simp only [EziotSdk.extendLoad, hat]
            exact { hinv with domains := hnext }

theorem Represented.extendLoadV3
    {state : DispatchState} (hinv : state.Represented)
    {external : KernelExtendV3}
    (hsafe : state.IdZeroSafe (.extendLoadV3 external)) :
    (state.ezdevSdkKernelExtendLoadV3 external).Represented := by
  unfold ezdevSdkKernelExtendLoadV3
  split
  · exact hinv
  · next hmay =>
      rw [not_not] at hmay
      cases hroute : external.dataRoute with
      | none => exact hinv
      | some handler =>
          have hload : SlotTable.LoadSafe state.boundExtends
              external.extendId := by
            rcases hsafe with hrejected | hload
            · exact absurd ⟨hmay, by simp [hroute]⟩ hrejected
            · exact hload
          have hplace := hinv.extends_.placeUnique hload
            (fun _ : KernelExtendV3 => external) (fun _ => rfl) (fun _ => hroute)
          rcases hplace with hready | hfull | ⟨index, hat, hnext⟩
          · simpa [EziotSdk.extendLoadV3, hready] using hinv
          · simpa [EziotSdk.extendLoadV3, hfull] using hinv
          · simp only [EziotSdk.extendLoadV3, hat]
            exact { hinv with extends_ := hnext }

theorem Represented.hubExtendLoad
    {state : DispatchState} (hinv : state.Represented) {extendId handler : ℕ}
    (hsafe : state.IdZeroSafe (.hubExtendLoad extendId handler)) :
    (state.ezdevSdkKernelHubExtendLoad extendId handler).Represented := by
  unfold ezdevSdkKernelHubExtendLoad
  split
  · exact hinv
  · next hmay =>
      rw [not_not] at hmay
      have hload : SlotTable.LoadSafe state.boundHubExtends extendId := by
        rcases hsafe with hrejected | hload
        · exact absurd hmay hrejected
        · exact hload
      have hplace := hinv.hubExtends.placeReplace hload
        (fun _ : KernelHubExtend => ⟨extendId, some handler⟩) (fun _ => rfl) (fun _ => rfl)
      rcases hplace with hfull | ⟨index, hat, hnext⟩
      · simp only [sdkHubExtendLoad, hfull]
        exact { hinv with hubExtends := hinv.hubExtends }
      · simp only [sdkHubExtendLoad, hat]
        exact { hinv with hubExtends := hnext }

/-- A registration outside the condition is accepted and takes the slot of
id `0`. -/
theorem Represented.not_faithful_extendLoad
    {state : DispatchState} (hinv : state.Represented)
    {external : KernelExtend}
    (hmeets : ¬ state.IdZeroSafe (.extendLoad external)) :
    ¬ (state.ezdevSdkKernelExtendLoad external).Faithful := by
  simp only [IdZeroSafe, not_or, not_not] at hmeets
  obtain ⟨⟨hmay, hstart, hevent, hstop, hdata⟩, hload⟩ := hmeets
  obtain ⟨handler, hroute⟩ := Option.ne_none_iff_exists'.mp hdata
  obtain ⟨index, hat, hbad⟩ := hinv.domains.placeUnique_overwrites hload
    (fun info : DomainInfo =>
      { info with
        kernelExtend := external
        domainRisk := .noRiskControl })
    (fun _ => rfl) handler
  intro hfaithful
  refine hbad ?_
  simpa [ezdevSdkKernelExtendLoad, hmay, hstart, hevent, hstop, hroute,
    EziotSdk.extendLoad, hat] using hfaithful.domains

theorem Represented.not_faithful_extendLoadV3
    {state : DispatchState} (hinv : state.Represented)
    {external : KernelExtendV3}
    (hmeets : ¬ state.IdZeroSafe (.extendLoadV3 external)) :
    ¬ (state.ezdevSdkKernelExtendLoadV3 external).Faithful := by
  simp only [IdZeroSafe, not_or, not_not] at hmeets
  obtain ⟨⟨hmay, hdata⟩, hload⟩ := hmeets
  obtain ⟨handler, hroute⟩ := Option.ne_none_iff_exists'.mp hdata
  obtain ⟨index, hat, hbad⟩ := hinv.extends_.placeUnique_overwrites hload
    (fun _ : KernelExtendV3 => external) (fun _ => rfl) handler
  intro hfaithful
  refine hbad ?_
  simpa [ezdevSdkKernelExtendLoadV3, hmay, hroute, EziotSdk.extendLoadV3,
    hat] using hfaithful.extends_

theorem Represented.not_faithful_hubExtendLoad
    {state : DispatchState} (hinv : state.Represented) {extendId handler : ℕ}
    (hmeets : ¬ state.IdZeroSafe (.hubExtendLoad extendId handler)) :
    ¬ (state.ezdevSdkKernelHubExtendLoad extendId handler).Faithful := by
  simp only [IdZeroSafe, not_or, not_not] at hmeets
  obtain ⟨hmay, hload⟩ := hmeets
  obtain ⟨index, hat, hbad⟩ := hinv.hubExtends.placeReplace_overwrites hload
    (fun _ : KernelHubExtend => ⟨extendId, some handler⟩) (fun _ => rfl)
    handler
  intro hfaithful
  refine hbad ?_
  simpa [ezdevSdkKernelHubExtendLoad, hmay, sdkHubExtendLoad, hat]
    using hfaithful.hubExtends

/-! ## Messages -/

/-- The outcome of a lookup that ended with the given route. -/
def routeOutcome : Option FunctionPointer → Dispatch
  | none => .noFind
  | some route => callRoute route

theorem consumeExtendData_eq
    (tables : ExtendTables) (submsg : KernelSubmsg) :
    consumeExtendData tables submsg =
      routeOutcome ((SlotTable.find DomainInfo.domainId (domainIdOf submsg)
        tables.kernelDomains).map domainRoute) := by
  unfold consumeExtendData extendGet
  split <;> simp [routeOutcome, *]

theorem consumeExtendDataV3_eq
    (tables : ExtendTables) (hubRegStatus : ℕ) (submsg : KernelSubmsgV3) :
    consumeExtendDataV3 tables hubRegStatus submsg =
      if TakesHubPath hubRegStatus submsg then
        routeOutcome ((SlotTable.find KernelHubExtend.extendId
          submsg.extendId tables.kernelHubExtends).map
            KernelHubExtend.extendHubDataRoute)
      else if submsg.extendId ≠ 0 then
        routeOutcome ((SlotTable.find KernelExtendV3.extendId
          submsg.extendId tables.kernelExtends).map KernelExtendV3.dataRoute)
      else .ignored := by
  unfold consumeExtendDataV3 sdkHubExtendGet extendGetByExtendId
  congr 1
  · split <;> simp [routeOutcome, *]
  · congr 1
    split <;> simp [routeOutcome, *]

/-- A lookup by an id that the condition admits calls the registered handler
or finds nothing. -/
theorem correct_of_represents {Slot : Type} {key : Slot → ℕ}
    {route : Slot → FunctionPointer} {table : List Slot} {bound : Bound}
    (hrep : SlotTable.Represents key route table bound) {id : ℕ}
    (hsafe : id ≠ 0 ∨ bound 0 ≠ none ∨ NoFreeSlot key table) :
    Delivery.Correct
      { addressed := bound id
        outcome := routeOutcome ((SlotTable.find key id table).map route) } := by
  cases hbound : bound id with
  | some handler =>
      obtain ⟨slot, hfind, hroute⟩ := hrep.find_bound hbound
      simp [Delivery.Correct, routeOutcome, hfind, hroute, callRoute]
  | none =>
      rcases hrep.find_unbound hbound with
        ⟨hfind, -⟩ | ⟨rfl, slot, hmem, hkey, -, -⟩
      · simp [Delivery.Correct, routeOutcome, hfind]
      · rcases hsafe with hid | hzero | hfull
        · exact absurd rfl hid
        · exact absurd hbound hzero
        · exact absurd hkey (hfull slot hmem)

/-- Any other lookup calls through the NULL pointer of a free slot. -/
theorem not_correct_of_represents {Slot : Type} {key : Slot → ℕ}
    {route : Slot → FunctionPointer} {table : List Slot} {bound : Bound}
    (hrep : SlotTable.Represents key route table bound) {id : ℕ}
    (hzero : id = 0) (hbound : bound 0 = none)
    (hfree : ¬ NoFreeSlot key table) :
    ¬ Delivery.Correct
      { addressed := bound id
        outcome := routeOutcome ((SlotTable.find key id table).map route) } := by
  subst hzero
  rcases hrep.find_unbound hbound with
    ⟨-, hid | hfull⟩ | ⟨-, slot, -, -, hfind, hroute⟩
  · exact absurd rfl hid
  · exact absurd hfull hfree
  · simp [Delivery.Correct, routeOutcome, hbound, hfind, hroute, callRoute]

theorem Represented.deliver
    {state : DispatchState} (hinv : state.Represented) {delivery : Delivery}
    (hcorrect : delivery.Correct) : (state.deliver delivery).Represented := by
  refine { hinv with delivered := ?_ }
  intro other hmem
  rcases List.mem_append.mp hmem with hold | hnew
  · exact hinv.delivered other hold
  · rw [List.mem_singleton.mp hnew]
    exact hcorrect

theorem not_faithful_deliver
    {state : DispatchState} {delivery : Delivery}
    (hwrong : ¬ delivery.Correct) : ¬ (state.deliver delivery).Faithful :=
  fun hfaithful => hwrong
    (hfaithful.delivered delivery (by simp [DispatchState.deliver]))

/-- The three branches of `consume_extend_data_v3`: a hub message, another
message with an id, and another message with id `0`. -/
theorem Represented.consumeV3_correct_iff
    {state : DispatchState} (hinv : state.Represented)
    (submsg : KernelSubmsgV3) :
    Delivery.Correct
        { addressed := state.addressedV3 submsg
          outcome :=
            consumeExtendDataV3 state.tables state.hubRegStatus submsg } ↔
      state.IdZeroSafe (.submsgV3 submsg) := by
  rw [consumeExtendDataV3_eq]
  unfold addressedV3 IdZeroSafe
  by_cases hhub : TakesHubPath state.hubRegStatus submsg
  · simp only [if_pos hhub]
    constructor
    · intro hcorrect
      by_contra hnot
      push Not at hnot
      obtain ⟨hid, hbound, hfree⟩ := hnot
      exact not_correct_of_represents hinv.hubExtends hid hbound hfree hcorrect
    · intro hsafe
      exact correct_of_represents hinv.hubExtends hsafe
  · simp only [if_neg hhub]
    by_cases hid : submsg.extendId = 0
    · simp only [hid, ne_eq, not_true_eq_false, if_false, false_or]
      cases hbound : state.boundExtends 0 <;> simp [Delivery.Correct]
    · simp only [ne_eq, hid, not_false_eq_true, if_true, true_or, iff_true]
      exact correct_of_represents hinv.extends_ (Or.inl hid)

theorem Represented.consume_correct_iff
    {state : DispatchState} (hinv : state.Represented)
    (submsg : KernelSubmsg) :
    Delivery.Correct
        { addressed := state.boundDomains (domainIdOf submsg)
          outcome := consumeExtendData state.tables submsg } ↔
      state.IdZeroSafe (.submsg submsg) := by
  rw [consumeExtendData_eq]
  constructor
  · intro hcorrect
    by_contra hnot
    simp only [IdZeroSafe, not_or, not_not] at hnot
    obtain ⟨hid, hbound, hfree⟩ := hnot
    exact not_correct_of_represents hinv.domains hid hbound hfree hcorrect
  · intro hsafe
    exact correct_of_represents hinv.domains hsafe

/-! ## Runs -/

theorem Represented.step
    {state next : DispatchState} (hinv : state.Represented)
    {event : DispatchEvent} (hsafe : state.IdZeroSafe event)
    (hstep : state.step event = some next) : next.Represented := by
  cases event with
  | extendLoad external =>
      simp only [DispatchState.step, Option.some.injEq] at hstep
      exact hstep ▸ hinv.extendLoad hsafe
  | extendLoadV3 external =>
      simp only [DispatchState.step, Option.some.injEq] at hstep
      exact hstep ▸ hinv.extendLoadV3 hsafe
  | hubExtendLoad extendId handler =>
      simp only [DispatchState.step, Option.some.injEq] at hstep
      exact hstep ▸ hinv.hubExtendLoad hsafe
  | sdkState myState =>
      simp only [DispatchState.step, Option.some.injEq] at hstep
      subst hstep
      exact { hinv with }
  | submsg submsg =>
      simp only [DispatchState.step, Option.some.injEq] at hstep
      exact hstep ▸ hinv.deliver ((hinv.consume_correct_iff submsg).mpr hsafe)
  | submsgV3 submsg =>
      simp only [DispatchState.step, Option.some.injEq] at hstep
      exact hstep ▸
        hinv.deliver ((hinv.consumeV3_correct_iff submsg).mpr hsafe)

theorem Represented.breaks
    {state : DispatchState} (hinv : state.Represented)
    {event : DispatchEvent} (hnot : ¬ state.IdZeroSafe event) :
    ∃ next, state.step event = some next ∧ ¬ next.Faithful := by
  cases event with
  | extendLoad external =>
      exact ⟨_, rfl, hinv.not_faithful_extendLoad hnot⟩
  | extendLoadV3 external =>
      exact ⟨_, rfl, hinv.not_faithful_extendLoadV3 hnot⟩
  | hubExtendLoad extendId handler =>
      exact ⟨_, rfl, hinv.not_faithful_hubExtendLoad hnot⟩
  | sdkState myState => exact absurd trivial hnot
  | submsg submsg =>
      refine ⟨_, rfl, not_faithful_deliver ?_⟩
      exact fun hcorrect => hnot ((hinv.consume_correct_iff submsg).mp hcorrect)
  | submsgV3 submsg =>
      refine ⟨_, rfl, not_faithful_deliver ?_⟩
      exact fun hcorrect =>
        hnot ((hinv.consumeV3_correct_iff submsg).mp hcorrect)

/-- Along every run of registrations and messages, registrations stay bound
and every message goes to the handler of its id, exactly if no step confuses
id `0` with a free slot. -/
theorem faithful_iff_idZeroSafe
    (extendCount cmdMax : ℕ) (myState : SdkState) (hubRegStatus : ℕ)
    (events : List DispatchEvent) :
    StepSystem.Along step Faithful
        (init extendCount cmdMax myState hubRegStatus) events ↔
      StepSystem.StepsMeet step IdZeroSafe
        (init extendCount cmdMax myState hubRegStatus) events :=
  StepSystem.along_iff_stepsMeet
    (fun _ hinv => hinv.faithful)
    (fun _ _ _ hinv hsafe hstep => hinv.step hsafe hstep)
    (fun _ _ hinv hnot => hinv.breaks hnot)
    (init_represented extendCount cmdMax myState hubRegStatus)

/-- An extension module with the given id, all of whose messages go to the
given handler. -/
def moduleV3 (extendId handler : ℕ) : KernelExtendV3 where
  extendId := extendId
  dataRoute := some handler
  extendEvent := none
  pUser := none
  extendModuleName := "module".toList

/-- After the event module the shadow module is accepted too, and the
handler of `sdk_event` is gone from the table. -/
theorem shadow_replaces_event :
    ¬ StepSystem.Along step Faithful (init 8 64 .start 0)
        [.extendLoadV3 (moduleV3 sdkEvent 1),
          .extendLoadV3 (moduleV3 sdkShadow 2)] := by
  intro halong
  have hfaithful := halong _ [] _ (List.append_nil _).symm rfl
  obtain ⟨slot, hmem, hkey, hroute⟩ :=
    hfaithful.extends_.kept sdkEvent 1 (by decide)
  have hgone : ∀ other ∈ moduleV3 sdkShadow 2 :: List.replicate 7 .zero,
      ¬ (other.extendId = sdkEvent ∧ other.dataRoute = some 1) := by
    decide
  exact hgone slot hmem ⟨hkey, hroute⟩

end DispatchState

end EziotSdk

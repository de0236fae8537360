import EziotSdk.EventDelivery

/-!
# When every event reaches everybody

The occupied slots of the domain table are the accepted registrations with an
id other than `0`, in their order.  With that a consumption is compared with
what it owes, and the comparison is carried through a run.
-/

namespace EziotSdk

def hasId (external : KernelExtend) : Bool := external.domainId ≠ 0

/-! ## The table -/

/-- The slots before the first free one hold the registrations that have an
id. -/
def Layout (kernelDomains : List DomainInfo)
    (registered : List KernelExtend) : Prop :=
  ∃ occupied free, kernelDomains = occupied ++ free ∧
    occupied.map DomainInfo.kernelExtend = registered.filter hasId ∧
    ∀ info ∈ free, info.domainId = 0

theorem layout_init (extendCount cmdMax : ℕ) :
    Layout (extendInit extendCount cmdMax).kernelDomains [] := by
  refine ⟨[], _, rfl, rfl, ?_⟩
  intro info hmem
  rw [List.eq_of_mem_replicate hmem]
  rfl

theorem hasId_of_occupied
    {occupied : List DomainInfo} {registered : List KernelExtend}
    (hoccupied : occupied.map DomainInfo.kernelExtend =
      registered.filter hasId)
    {info : DomainInfo} (hmem : info ∈ occupied) : info.domainId ≠ 0 := by
  have hlisted : info.kernelExtend ∈ registered.filter hasId := by
    rw [← hoccupied]
    exact List.mem_map_of_mem hmem
  simpa [hasId, DomainInfo.domainId] using (List.mem_filter.mp hlisted).2

/-- Where the scan of `extend_load` ends. -/
theorem placeUnique_layout
    (id : ℕ) {occupied free : List DomainInfo}
    (hoccupied : ∀ info ∈ occupied, info.domainId ≠ 0)
    (hfree : ∀ info ∈ free, info.domainId = 0) :
    SlotTable.placeUnique DomainInfo.domainId id (occupied ++ free) =
        .ready ∨
      SlotTable.placeUnique DomainInfo.domainId id (occupied ++ free) =
        .full ∨
      ∃ slot rest, free = slot :: rest ∧
        SlotTable.placeUnique DomainInfo.domainId id (occupied ++ free) =
          .at occupied.length := by
  by_cases hpresent : ∃ info ∈ occupied, info.domainId = id
  · obtain ⟨info, hmem, hid⟩ := hpresent
    refine Or.inl ?_
    clear hfree
    induction occupied with
    | nil => cases hmem
    | cons first rest ih =>
        have hfirst := hoccupied first (by simp)
        rw [List.cons_append, SlotTable.placeUnique, if_neg hfirst]
        by_cases hsame : first.domainId = id
        · rw [if_pos hsame]
        · have hrest : info ∈ rest := by
            rcases List.mem_cons.mp hmem with rfl | hrest
            · exact absurd hid hsame
            · exact hrest
          rw [if_neg hsame,
            ih (fun other hother => hoccupied other (by simp [hother])) hrest]
          rfl
  · have habsent : ∀ info ∈ occupied, info.domainId ≠ id := by
      intro info hmem hid
      exact hpresent ⟨info, hmem, hid⟩
    rw [SlotTable.placeUnique_append hoccupied habsent]
    cases free with
    | nil => exact Or.inr (Or.inl (by simp [SlotTable.placeUnique]))
    | cons slot rest =>
        have hslot := hfree slot (by simp)
        refine Or.inr (Or.inr ⟨slot, rest, rfl, ?_⟩)
        simp [SlotTable.placeUnique, hslot]

theorem Layout.extendLoad
    {kernelDomains : List DomainInfo} {registered : List KernelExtend}
    (hlayout : Layout kernelDomains registered) (external : KernelExtend)
    (hsucc : (extendLoad external kernelDomains).1 = .succ) :
    Layout (extendLoad external kernelDomains).2
      (registered ++ [external]) := by
  obtain ⟨occupied, free, rfl, hoccupied, hfree⟩ := hlayout
  have hids := fun info => @hasId_of_occupied _ _ hoccupied info
  unfold EziotSdk.extendLoad at hsucc ⊢
  rcases placeUnique_layout external.domainId hids hfree with
    hready | hfull | ⟨slot, rest, rfl, hplace⟩
  · simp [hready] at hsucc
  · simp [hfull] at hsucc
  · rw [hplace]
    dsimp only
    rw [SlotTable.modify_append_length]
    by_cases hid : external.domainId = 0
    · refine ⟨occupied, _, rfl, ?_, ?_⟩
      · simp [hoccupied, hasId, hid]
      · intro info hmem
        rcases List.mem_cons.mp hmem with rfl | hrest
        · exact hid
        · exact hfree info (by simp [hrest])
    · refine ⟨occupied ++ [{ slot with
          kernelExtend := external, domainRisk := .noRiskControl }],
        rest, by simp, ?_, ?_⟩
      · simp [hoccupied, hasId, hid]
      · intro info hmem
        exact hfree info (by simp [hmem])

theorem takeWhile_append_of_free
    (callback : KernelExtend → FunctionPointer)
    (loaded blank : List KernelExtend)
    (hloaded : ∀ external ∈ loaded, external.domainId ≠ 0)
    (hblank : ∀ external ∈ blank, external.domainId = 0) :
    (loaded ++ blank).takeWhile (fun external =>
        external.domainId ≠ 0 && (callback external).isSome) =
      loaded.takeWhile fun external => (callback external).isSome := by
  induction loaded with
  | nil =>
      cases blank with
      | nil => rfl
      | cons first rest => simp [hblank first (by simp)]
  | cons first rest ih =>
      have hfirst := hloaded first (by simp)
      have hrest := ih fun external hmem => hloaded external (by simp [hmem])
      rw [List.cons_append]
      cases hcallback : (callback first).isSome with
      | false => simp [hcallback]
      | true => simpa [hcallback, hfirst] using hrest

theorem visitedDomains_eq
    (callback : KernelExtend → FunctionPointer)
    {kernelDomains : List DomainInfo} {registered : List KernelExtend}
    (hlayout : Layout kernelDomains registered) :
    visitedDomains callback kernelDomains =
      (registered.filter hasId).takeWhile
        fun external => (callback external).isSome := by
  obtain ⟨occupied, free, rfl, hoccupied, hfree⟩ := hlayout
  unfold visitedDomains
  rw [List.map_append, hoccupied]
  apply takeWhile_append_of_free
  · intro external hmem
    simpa [hasId] using (List.mem_filter.mp hmem).2
  · intro external hmem
    obtain ⟨info, hinfo, rfl⟩ := List.mem_map.mp hmem
    exact hfree info hinfo

/-! ## What one consumption serves -/

/-- The domains whose callback an event reaches. -/
def servedDomains (registered : List KernelExtend) (event : CbEvent) :
    List KernelExtend :=
  ((registered.filter hasId).takeWhile wantsEvent).filter event.addresses

def owedTo (registered : List KernelExtend) (event : CbEvent) :
    List KernelExtend :=
  registered.filter fun external =>
    wantsEvent external && event.addresses external

/-- Of the owed calls to registered domains, those to a domain with an id. -/
def owedToIds (registered : List KernelExtend) (event : CbEvent) :
    List KernelExtend :=
  (registered.filter hasId).filter fun external =>
    wantsEvent external && event.addresses external

theorem servedDomains_sublist
    (registered : List KernelExtend) (event : CbEvent) :
    (servedDomains registered event).Sublist (owedToIds registered event) :=
  ScanLoops.filter_takeWhile_sublist wantsEvent event.addresses _

theorem owedToIds_sublist
    (registered : List KernelExtend) (event : CbEvent) :
    (owedToIds registered event).Sublist (owedTo registered event) :=
  List.filter_sublist.filter _

theorem owedToIds_eq_iff
    (registered : List KernelExtend) (event : CbEvent) :
    owedToIds registered event = owedTo registered event ↔
      ∀ external ∈ registered, event.addresses external = true →
        wantsEvent external = true → external.domainId ≠ 0 := by
  constructor
  · intro heq external hmem haddress hwants
    have howed : external ∈ owedTo registered event := by
      simp [owedTo, hmem, haddress, hwants]
    rw [← heq] at howed
    have hid := (List.mem_filter.mp (List.mem_filter.mp howed).1).2
    simpa [hasId] using hid
  · intro hids
    unfold owedToIds owedTo
    rw [List.filter_filter]
    apply List.filter_congr
    intro external hmem
    cases hwants : wantsEvent external with
    | false => simp
    | true =>
        cases haddress : event.addresses external with
        | false => simp
        | true => simpa [hasId] using hids external hmem haddress hwants

/-- Everybody who is owed the event is served exactly if nobody is
hindered. -/
theorem servedDomains_eq_iff
    (registered : List KernelExtend) (event : CbEvent) :
    servedDomains registered event = owedTo registered event ↔
      Unhindered registered event := by
  have hserved := servedDomains_sublist registered event
  have howed := owedToIds_sublist registered event
  have hloop := ScanLoops.filter_takeWhile_eq_iff wantsEvent event.addresses
    (registered.filter hasId)
  constructor
  · intro heq
    have hlength := hserved.length_le
    rw [heq] at hlength
    have hids := howed.eq_of_length (le_antisymm howed.length_le hlength)
    have hprefix : servedDomains registered event =
        owedToIds registered event := by rw [heq, hids]
    exact ⟨(owedToIds_eq_iff registered event).mp hids, hloop.mp hprefix⟩
  · intro hfree
    have hids := (owedToIds_eq_iff registered event).mpr hfree.1
    rw [← hids]
    exact hloop.mpr hfree.2

theorem servedDomains_eq_of_length
    {registered : List KernelExtend} {event : CbEvent}
    (hlength : (owedTo registered event).length ≤
      (servedDomains registered event).length) :
    servedDomains registered event = owedTo registered event := by
  have hsublist := (servedDomains_sublist registered event).trans
    (owedToIds_sublist registered event)
  exact hsublist.eq_of_length (le_antisymm hsublist.length_le hlength)

theorem consumeExtendEvent_event
    {kernelDomains : List DomainInfo} {registered : List KernelExtend}
    (hlayout : Layout kernelDomains registered) (event : CbEvent) :
    consumeExtendEvent kernelDomains (.extendCbEvent event) =
      (servedDomains registered event).map
          (EventCall.extendEvent · event) ++
        if event.ackDomain = none then [.eventNotice event] else [] := by
  have hvisited := visitedDomains_eq KernelExtend.extendEvent hlayout
  simp only [consumeExtendEvent, hvisited]
  rfl

theorem right_kernel_iff
    (registered : List KernelExtend) (extends3 : List KernelExtendV3)
    (event : SdkKernelEvent) :
    ((servedDomains registered (.kernel event)).map
          (EventCall.extendEvent · (.kernel event)) ++
        [EventCall.eventNotice (.kernel event)]).Perm
      (owedDomains registered (.kernel event) ++
        owedExtends extends3 (.kernel event) ++
        [EventCall.eventNotice (.kernel event)]) ↔
      Unhindered registered (.kernel event) ∧
        ∀ external ∈ extends3, wantsEventV3 external = false := by
  rw [← servedDomains_eq_iff]
  constructor
  · intro hperm
    have hlength := hperm.length_eq
    have hserved := ((servedDomains_sublist registered (.kernel event)).trans
      (owedToIds_sublist registered (.kernel event))).length_le
    have howed : (owedDomains registered (.kernel event)).length =
        (owedTo registered (.kernel event)).length := by
      simp [owedDomains, owedTo]
    simp only [List.length_append, List.length_map, howed] at hlength
    have hnone : (owedExtends extends3 (.kernel event)).length = 0 := by
      omega
    constructor
    · apply servedDomains_eq_of_length
      omega
    · intro external hmem
      have hempty : extends3.filter wantsEventV3 = [] := by
        simpa [owedExtends] using hnone
      rw [List.filter_eq_nil_iff] at hempty
      simpa using hempty external hmem
  · intro hright
    have hempty : extends3.filter wantsEventV3 = [] := by
      rw [List.filter_eq_nil_iff]
      intro external hmem
      simp [hright.2 external hmem]
    rw [hright.1]
    simp [owedExtends, hempty, owedDomains, owedTo]

theorem right_msgAck_iff
    (registered : List KernelExtend) (event : CbEvent) :
    ((servedDomains registered event).map
        (EventCall.extendEvent · event)).Perm
      (owedDomains registered event) ↔ Unhindered registered event := by
  rw [← servedDomains_eq_iff]
  constructor
  · intro hperm
    have hlength := hperm.length_eq
    apply servedDomains_eq_of_length
    simpa [owedDomains, owedTo] using hlength.ge
  · intro heq
    rw [heq]
    exact List.Perm.refl _

/-- The condition at a consumption is exact. -/
theorem right_iff_reaches
    {state : EventState} {notic : InnerCbNotic} {rest : List InnerCbNotic}
    (hlayout : Layout state.kernelDomains state.registeredDomains)
    (hitems : state.queue.items = notic :: rest) :
    (Consumption.mk notic (consumeExtendEvent state.kernelDomains notic)
        state.registeredDomains state.registeredExtends).Right ↔
      state.Reaches .consume := by
  unfold Consumption.Right EventState.Reaches
  rw [hitems]
  cases notic with
  | extendCbStart => exact Iff.rfl
  | extendCbStop => exact Iff.rfl
  | extendCbEvent event =>
      rw [consumeExtendEvent_event hlayout]
      cases event with
      | kernel event => exact right_kernel_iff _ _ event
      | msgAck errCode errCtx =>
          simpa [CbEvent.ackDomain] using right_msgAck_iff
            state.registeredDomains (.msgAck errCode errCtx)
      | msgAckV3 errCode errCtx => simp [CbEvent.ackDomain]

/-! ## Acknowledgements -/

theorem carries_iff (held : HeldPubmsgV3) :
    held.pubmsg.ackContext.Carries held.pubmsg ↔
      held.pubmsg.subSerial.length ≤ 63 := by
  constructor
  · intro hcarries
    exact (CString.strncpy_eq_self _ _).mp hcarries.subSerial
  · intro hserial
    have hdomain := Nat.le_of_lt_succ held.domainId_lt
    have hresource := Nat.le_of_lt_succ held.resourceId_lt
    have htype := Nat.le_of_lt_succ held.resourceType_lt
    have hbusiness := Nat.le_of_lt_succ held.businessType_lt
    have hidentifier := Nat.le_of_lt_succ held.identifier_lt
    constructor
    · exact (CString.strncpy_eq_self _ _).mpr hresource
    · exact (CString.strncpy_eq_self _ _).mpr htype
    · exact (CString.strncpy_eq_self _ _).mpr hbusiness
    · exact (CString.strncpy_eq_self _ _).mpr hdomain
    · exact (CString.strncpy_eq_self _ _).mpr hidentifier
    · exact (CString.strncpy_eq_self _ _).mpr hserial
    · rfl

/-! ## Steps and runs -/

structure EventInvariant (state : EventState) : Prop where
  layout : Layout state.kernelDomains state.registeredDomains
  delivers : state.Delivers

theorem delivers_broadcast
    {state : EventState} (hdelivers : state.Delivers)
    (notic : InnerCbNotic) (allocated : Bool) :
    (state.broadcast notic allocated).Delivers := by
  unfold EventState.broadcast
  rcases state.queue.push_cases notic allocated with
    ⟨hsucc, hitems, _⟩ | ⟨hfail, _⟩
  · simp only [hsucc, if_true]
    constructor
    · rw [hitems, hdelivers.fifo, List.append_assoc]
    · exact hdelivers.right
    · exact hdelivers.carries
  · simp only [hfail, if_false]
    exact hdelivers

theorem broadcast_kernelDomains
    (state : EventState) (notic : InnerCbNotic) (allocated : Bool) :
    (state.broadcast notic allocated).kernelDomains = state.kernelDomains ∧
      (state.broadcast notic allocated).registeredDomains =
        state.registeredDomains ∧
      (state.broadcast notic allocated).acknowledged =
        state.acknowledged := by
  unfold EventState.broadcast
  dsimp only
  split_ifs <;> exact ⟨rfl, rfl, rfl⟩

theorem EventInvariant.broadcast
    {state : EventState} (hinv : EventInvariant state)
    (notic : InnerCbNotic) (allocated : Bool) :
    EventInvariant (state.broadcast notic allocated) where
  layout := by
    have hsame := broadcast_kernelDomains state notic allocated
    rw [hsame.1, hsame.2.1]
    exact hinv.layout
  delivers := delivers_broadcast hinv.delivers notic allocated

theorem EventInvariant.load
    {state : EventState} (hinv : EventInvariant state)
    (external : KernelExtend) : EventInvariant (state.load external) := by
  unfold EventState.load
  dsimp only
  split_ifs with hsucc
  · have hdelivers := hinv.delivers
    exact ⟨hinv.layout.extendLoad external hsucc,
      ⟨hdelivers.fifo, hdelivers.right, hdelivers.carries⟩⟩
  · exact hinv

theorem EventInvariant.loadV3
    {state : EventState} (hinv : EventInvariant state)
    (external : KernelExtendV3) :
    EventInvariant (state.loadV3 external) := by
  unfold EventState.loadV3
  dsimp only
  split_ifs
  · have hdelivers := hinv.delivers
    exact ⟨hinv.layout,
      ⟨hdelivers.fifo, hdelivers.right, hdelivers.carries⟩⟩
  · exact hinv

theorem EventInvariant.acknowledgeV3
    {state : EventState} (hinv : EventInvariant state)
    (errCode : EzdevSdkKernelError) (held : HeldPubmsgV3) (allocated : Bool)
    (hserial : held.pubmsg.subSerial.length ≤ 63) :
    EventInvariant (state.acknowledgeV3 errCode held allocated) := by
  apply EventInvariant.broadcast
  have hdelivers := hinv.delivers
  refine ⟨hinv.layout, ⟨hdelivers.fifo, hdelivers.right, ?_⟩⟩
  intro pair hmem
  rcases List.mem_append.mp hmem with hold | hnew
  · exact hdelivers.carries pair hold
  · rw [List.mem_singleton.mp hnew]
    exact (carries_iff held).mpr hserial

/-- A consumption takes the oldest notice. -/
theorem consume_cases (state : EventState) :
    state.queue.items = [] ∧ state.consume = state ∨
      ∃ notic queue, state.queue.items = notic :: queue.items ∧
        state.consume =
          { state with
            queue := queue
            consumed := state.consumed ++
              [{ notic := notic
                 calls := consumeExtendEvent state.kernelDomains notic
                 registeredDomains := state.registeredDomains
                 registeredExtends := state.registeredExtends }] } := by
  unfold EventState.consume
  cases hpop : state.queue.pop with
  | error error =>
      have hempty := (state.queue.pop_eq_error_iff error).mp hpop
      exact Or.inl ⟨hempty.1, rfl⟩
  | ok popped =>
      have hitems := KernelQueue.items_of_pop hpop
      exact Or.inr ⟨popped.1, popped.2, hitems, rfl⟩

theorem EventInvariant.consume
    {state : EventState} (hinv : EventInvariant state)
    (hreaches : state.Reaches .consume) :
    EventInvariant state.consume := by
  rcases consume_cases state with
    ⟨_, hsame⟩ | ⟨notic, queue, hitems, hnext⟩
  · rw [hsame]
    exact hinv
  · have hdelivers := hinv.delivers
    rw [hnext]
    refine ⟨hinv.layout, ⟨?_, ?_, hdelivers.carries⟩⟩
    · rw [hdelivers.fifo, hitems]
      simp
    · intro consumption hmem
      rcases List.mem_append.mp hmem with hold | hnew
      · exact hdelivers.right consumption hold
      · rw [List.mem_singleton.mp hnew]
        exact (right_iff_reaches hinv.layout hitems).mpr hreaches

/-- The step lemma. -/
theorem EventInvariant.step
    {state next : EventState} {event : EventStep}
    (hinv : EventInvariant state) (hreaches : state.Reaches event)
    (hstep : eventStep state event = some next) : EventInvariant next := by
  cases event <;> simp only [eventStep, Option.some.injEq] at hstep <;>
    subst hstep
  case load external => exact hinv.load external
  case loadV3 external => exact hinv.loadV3 external
  case broadcast notic allocated => exact hinv.broadcast notic allocated
  case acknowledgeV3 errCode held allocated =>
    exact hinv.acknowledgeV3 errCode held allocated hreaches
  case consume => exact hinv.consume hreaches

/-- A step outside the condition fails somebody. -/
theorem not_delivers_of_not_reaches
    {state : EventState} {event : EventStep} (hinv : EventInvariant state)
    (hreaches : ¬ state.Reaches event) :
    ∃ next, eventStep state event = some next ∧ ¬ next.Delivers := by
  cases event with
  | load external => exact absurd trivial hreaches
  | loadV3 external => exact absurd trivial hreaches
  | broadcast notic allocated => exact absurd trivial hreaches
  | acknowledgeV3 errCode held allocated =>
      refine ⟨_, rfl, ?_⟩
      intro hdelivers
      apply hreaches
      apply (carries_iff held).mp
      apply hdelivers.carries (held.pubmsg, held.pubmsg.ackContext)
      unfold EventState.acknowledgeV3
      rw [(broadcast_kernelDomains _ _ _).2.2]
      simp
  | consume =>
      refine ⟨_, rfl, ?_⟩
      intro hdelivers
      rcases consume_cases state with
        ⟨hempty, _⟩ | ⟨notic, queue, hitems, hnext⟩
      · apply hreaches
        unfold EventState.Reaches
        rw [hempty]
        trivial
      · rw [hnext] at hdelivers
        apply hreaches
        apply (right_iff_reaches hinv.layout hitems).mp
        exact hdelivers.right _ (by simp)

theorem eventInvariant_init
    (extendCount cmdMax : ℕ) (maxsize : Fin (2 ^ 16)) :
    EventInvariant (EventState.init extendCount cmdMax maxsize) where
  layout := layout_init extendCount cmdMax
  delivers := ⟨rfl, by simp [EventState.init], by simp [EventState.init]⟩

/-- Along a run every event is taken in order and reaches everybody it is owed
to, and every acknowledgement carries its message's fields, exactly if every
step meets the condition. -/
theorem delivers_iff_reaches
    (extendCount cmdMax : ℕ) (maxsize : Fin (2 ^ 16))
    (events : List EventStep) :
    StepSystem.Along eventStep EventState.Delivers
        (EventState.init extendCount cmdMax maxsize) events ↔
      StepSystem.StepsMeet eventStep EventState.Reaches
        (EventState.init extendCount cmdMax maxsize) events := by
  apply StepSystem.along_iff_stepsMeet
    (fun state hinv => EventInvariant.delivers hinv)
  · intro state event next hinv hreaches hstep
    exact hinv.step hreaches hstep
  · intro state event hinv hreaches
    exact not_delivers_of_not_reaches hinv hreaches
  · exact eventInvariant_init extendCount cmdMax maxsize

/-- A 3.0 extension with an event callback. -/
def shadowExtend : KernelExtendV3 where
  extendId := sdkShadow
  dataRoute := some 1
  extendEvent := some 2
  pUser := none
  extendModuleName := "shadow".toList

/-- The extension is never told that the device is back online. -/
theorem extension_misses_event :
    ¬ StepSystem.Along eventStep EventState.Delivers
      (EventState.init 4 1 ⟨16, by decide⟩)
      [.loadV3 shadowExtend,
        .broadcast (.extendCbEvent (.kernel .eventReconnectSuccess)) true,
        .consume] := by
  intro halong
  have hdelivers := halong _ [] _ (List.append_nil _).symm rfl
  have hright := hdelivers.right _ (List.mem_singleton.mpr rfl)
  have hlength := List.Perm.length_eq hright
  revert hlength
  decide

end EziotSdk

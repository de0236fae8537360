import EziotSdk.HubOperations

/-!
# Atomic hub operations

Every error exit of an operation of the hub but that of its write stands before
the write, and the label that the exits jump to before its unlock, with the
exception of the clean.  So an operation is atomic unless it reads an item of a
type that it does not expect, its enumeration of the list does not end, or its
write gets through in the log line of its failure and changes the list.
-/

namespace EziotSdk

open ErrorState

namespace HubMemory

/-! ## The list that is read -/

/-- What a read without a fault finds. -/
def loads (faults : LoadFaults) (hublist : Option BscJson) : Option BscJson :=
  if faults.length ∨ faults.buffer ∨ faults.text ∨ faults.parse then none
  else hublist

theorem loads_eq_some
    {faults : LoadFaults} {hublist : Option BscJson} {root : BscJson}
    (hloads : loads faults hublist = some root) : hublist = some root := by
  unfold loads at hloads
  split at hloads
  · cases hloads
  · exact hloads

theorem not_fatal_errno (rv : HubErrno) : ¬ (HubStop.errno rv).Fatal :=
  fun hfatal => hfatal rv rfl

theorem fatal_crash : HubStop.crash.Fatal := fun _ => nofun

attribute [simp] not_fatal_errno fatal_crash

theorem keeps_readHublist (faults : LoadFaults) :
    Keeps id (fun _ => True) (readHublist faults) := by
  unfold readHublist
  apply keeps_bind (keeps_reject fun _ => trivial)
  intro _
  apply keeps_bind keeps_get
  intro memory
  cases memory.hublist with
  | none => exact keeps_pure none
  | some root =>
  apply keeps_bind (keeps_reject fun _ => trivial)
  intro _
  apply keeps_bind (keeps_reject fun _ => trivial)
  intro _
  apply keeps_bind (keeps_reject fun _ => trivial)
  intro _
  exact keeps_pure (some root)

theorem readHublist_ok_some_iff
    {faults : LoadFaults} {memory reached : HubMemory} {root : BscJson} :
    readHublist faults memory = .ok (some root) reached ↔
      memory = reached ∧ loads faults memory.hublist = some root := by
  unfold readHublist loads
  simp only [bind_ok_iff, reject_ok_iff, get_ok_iff]
  cases hlist : memory.hublist with
  | none =>
      simp [hlist, pure_ok_iff]
  | some root =>
      simp [hlist, bind_ok_iff, reject_ok_iff, pure_ok_iff, -bind_pure_comp]
      tauto

theorem readHublist_ok_none_iff
    {faults : LoadFaults} {memory reached : HubMemory} :
    readHublist faults memory = .ok none reached ↔
      memory = reached ∧ memory.hublist = none ∧ faults.length = false := by
  unfold readHublist
  simp only [bind_ok_iff, reject_ok_iff, get_ok_iff]
  cases hlist : memory.hublist with
  | none =>
      simp [hlist, pure_ok_iff, and_comm]
  | some root =>
      simp [hlist, bind_ok_iff, reject_ok_iff, pure_ok_iff, -bind_pure_comp]

@[simp] theorem not_fails_readHublist
    (faults : LoadFaults) (memory : HubMemory) :
    ¬ Fails HubStop.Fatal (readHublist faults) memory := by
  unfold readHublist
  simp only [fails_bind_iff, fails_reject_iff, not_fatal_errno, and_false,
    not_fails_get, false_or]
  rintro ⟨_, _, _, found, middle, _, hfails⟩
  cases hlist : found.hublist with
  | none => simp [hlist] at hfails
  | some root => simp [hlist, fails_bind_iff, -bind_pure_comp] at hfails

theorem readListed_ok_iff
    {faults : LoadFaults} {empty : HubErrno} {memory reached : HubMemory}
    {root : BscJson} :
    readListed faults empty memory = .ok root reached ↔
      memory = reached ∧ loads faults memory.hublist = some root := by
  unfold readListed
  simp only [bind_ok_iff, required_ok_iff]
  constructor
  · rintro ⟨found, middle, hread, hfound, hreached⟩
    rw [hfound, hreached] at hread
    exact readHublist_ok_some_iff.mp hread
  · intro hread
    exact ⟨some root, reached, readHublist_ok_some_iff.mpr hread, rfl, rfl⟩

@[simp] theorem not_fails_readListed
    (faults : LoadFaults) (empty : HubErrno) (memory : HubMemory) :
    ¬ Fails HubStop.Fatal (readListed faults empty) memory := by
  simp [readListed, fails_bind_iff]

/-- The document, the index and the item that the search arrives at. -/
def Listed (faults : LoadFaults) (sn : CString) (hublist : Option BscJson)
    (listed : BscJson × ℕ × BscJson) : Prop :=
  loads faults hublist = some listed.1 ∧
    findDevBySn (some sn) (items listed.1) = some (some listed.2.1) ∧
      (items listed.1)[listed.2.1]? = some listed.2.2

/-- The search meets no serial number of another type than string. -/
def SearchDefined (faults : LoadFaults) (sn : CString)
    (hublist : Option BscJson) : Prop :=
  ∀ root, loads faults hublist = some root →
    findDevBySn (some sn) (items root) ≠ none

theorem findListed_ok_iff
    {faults : LoadFaults} {sn : CString} {memory reached : HubMemory}
    {listed : BscJson × ℕ × BscJson} :
    findListed faults sn memory = .ok listed reached ↔
      memory = reached ∧ Listed faults sn memory.hublist listed := by
  unfold findListed Listed items BscJson.getArrayItem
  simp only [bind_ok_iff, readListed_ok_iff, required_ok_iff, pure_ok_iff,
    List.getElem?_map, Option.map_eq_some_iff]
  constructor
  · rintro ⟨root, _, ⟨rfl, hloads⟩, _, _, ⟨hfound, rfl⟩, index, _,
      ⟨rfl, rfl⟩, item, _, ⟨hitem, rfl⟩, rfl, rfl⟩
    exact ⟨rfl, hloads, hfound, item, hitem, rfl⟩
  · rintro ⟨rfl, hloads, hfound, item, hitem, heq⟩
    refine ⟨listed.1, memory, ⟨rfl, hloads⟩, some listed.2.1, memory,
      ⟨hfound, rfl⟩, listed.2.1, memory, ⟨rfl, rfl⟩, item, memory,
      ⟨hitem, rfl⟩, ?_, rfl⟩
    rw [heq]

theorem not_fails_findListed_iff
    {faults : LoadFaults} {sn : CString} {memory : HubMemory} :
    ¬ Fails HubStop.Fatal (findListed faults sn) memory ↔
      SearchDefined faults sn memory.hublist := by
  unfold findListed SearchDefined
  simp [fails_bind_iff, readListed_ok_iff, -bind_pure_comp]

/-! ## Calls under the lock -/

/-- The call returns with the lock released, and when it reports an error the
list and the counter are what they were. -/
def ReturnsAtomic {Value : Type} (memory : HubMemory) :
    EStateM.Result HubStop HubMemory Value → Prop
  | .ok _ reached => reached.locked = false
  | .error stop reached =>
      ¬ stop.Fatal ∧ reached.locked = false ∧
        reached.hublist = memory.hublist ∧
          reached.unauthCount = memory.unauthCount

@[simp] theorem lock_hublist (memory : HubMemory) :
    memory.lock.hublist = memory.hublist := rfl

@[simp] theorem lock_unauthCount (memory : HubMemory) :
    memory.lock.unauthCount = memory.unauthCount := rfl

@[simp] theorem unlock_hublist (memory : HubMemory) :
    memory.unlock.hublist = memory.hublist := rfl

@[simp] theorem unlock_unauthCount (memory : HubMemory) :
    memory.unlock.unauthCount = memory.unauthCount := rfl

@[simp] theorem unlock_locked (memory : HubMemory) :
    memory.unlock.locked = false := rfl

@[simp] theorem lock_unlock (memory : HubMemory) :
    memory.unlock.lock = memory.lock := rfl

@[simp] theorem released_ok {Value : Type} (value : Value)
    (reached : HubMemory) :
    released (.ok value reached) = .ok value reached.unlock := rfl

@[simp] theorem released_errno {Value : Type} (rv : HubErrno)
    (reached : HubMemory) :
    released (.error (.errno rv) reached :
      EStateM.Result HubStop HubMemory Value) =
        .error (.errno rv) reached.unlock := rfl

theorem released_fatal {Value : Type} {stop : HubStop} (hfatal : stop.Fatal)
    (reached : HubMemory) :
    released (.error stop reached :
      EStateM.Result HubStop HubMemory Value) = .error stop reached := by
  cases stop with
  | errno rv => exact absurd rfl (hfatal rv)
  | crash | waits | endless => rfl

/-- What an error must not change. -/
def kept (memory : HubMemory) : Option BscJson × ℤ :=
  (memory.hublist, memory.unauthCount)

def ErrorLeaves {Value : Type} (body : HubAction Value) (memory : HubMemory) :
    Prop :=
  ErrorKeeps (fun stop => ¬ stop.Fatal) kept body memory

section Calls

variable {Value : Type} {body : HubAction Value} {memory : HubMemory}

theorem hubCall_of_unlocked (hlocked : memory.locked = false) :
    hubCall body memory = released (body memory.lock) := by
  simp [hubCall, hlocked]

/-- A body whose errors leave the list and the counter alone makes an atomic
call, unless it stops for good. -/
theorem returnsAtomic_hubCall_iff :
    ReturnsAtomic memory (hubCall body memory) ↔
      memory.locked = false ∧ ¬ Fails HubStop.Fatal body memory.lock ∧
        ErrorLeaves body memory.lock := by
  cases hlocked : memory.locked with
  | true => simp [hubCall, ReturnsAtomic, hlocked]
  | false =>
      rw [hubCall_of_unlocked hlocked]
      unfold Fails ErrorLeaves ErrorKeeps
      cases hbody : body memory.lock with
      | ok value reached => simp [ReturnsAtomic]
      | error stop reached =>
          cases stop with
          | errno rv => simp [ReturnsAtomic, kept]
          | crash | waits | endless =>
              simp [ReturnsAtomic, HubStop.Fatal, released]

/-- A report never hands its own error on. -/
theorem returnsAtomic_dropErrno_hubCall_iff
    {report : HubAction Unit} {reached : HubMemory} :
    ReturnsAtomic memory (dropErrno (hubCall report) reached.unlock) ↔
      ¬ Fails HubStop.Fatal report reached.lock := by
  unfold dropErrno Fails
  rw [hubCall_of_unlocked (unlock_locked reached), lock_unlock]
  cases hreport : report reached.lock with
  | ok value after => simp [ReturnsAtomic]
  | error stop after =>
      cases stop with
      | errno rv => simp [ReturnsAtomic]
      | crash | waits | endless =>
          simp [ReturnsAtomic, HubStop.Fatal, released]

theorem returnsAtomic_reported_iff
    {report : HubAction Unit} :
    ReturnsAtomic memory
        ((hubCall body >>= fun _ => dropErrno (hubCall report)) memory) ↔
      memory.locked = false ∧ ¬ Fails HubStop.Fatal body memory.lock ∧
        ErrorLeaves body memory.lock ∧
          ∀ value reached, body memory.lock = .ok value reached →
            ¬ Fails HubStop.Fatal report reached.lock := by
  have hcall : ReturnsAtomic memory (hubCall body memory) ↔
      memory.locked = false ∧ ¬ Fails HubStop.Fatal body memory.lock ∧
        ErrorLeaves body memory.lock := returnsAtomic_hubCall_iff
  cases hlocked : memory.locked with
  | true =>
      have hwaits : hubCall body memory = .error .waits memory := by
        simp [hubCall, hlocked]
      rw [bind_of_error hwaits]
      simp [ReturnsAtomic, hlocked]
  | false =>
      have hrun : hubCall body memory = _ := hubCall_of_unlocked hlocked
      simp only [hlocked, true_and] at hcall ⊢
      cases hbody : body memory.lock with
      | ok value reached =>
          rw [hbody] at hrun
          rw [bind_of_ok hrun, returnsAtomic_dropErrno_hubCall_iff]
          simp [Fails, ErrorLeaves, ErrorKeeps, hbody]
      | error stop reached =>
          have herror : ∃ after, hubCall body memory = .error stop after := by
            rw [hrun, hbody]
            cases stop <;> exact ⟨_, rfl⟩
          obtain ⟨after, herror⟩ := herror
          rw [bind_of_error herror]
          rw [herror] at hcall
          simpa [ReturnsAtomic, hbody] using hcall

end Calls

/-! ## Operations on one sub-device -/

def Written (faults : HubFaults) : Prop :=
  faults.print = false ∧ faults.write = .stored

def Retried (faults : HubFaults) : Prop :=
  faults.print = false ∧ faults.write = .retried

theorem ezKvRawSet_ok_iff
    {faults : HubFaults} {hublist : Option BscJson}
    {memory reached : HubMemory} {value : Unit} :
    ezKvRawSet faults hublist memory = .ok value reached ↔
      faults.write = .stored ∧ { memory with hublist := hublist } = reached := by
  unfold ezKvRawSet
  simp only [bind_ok_iff, reject_ok_iff, modify_ok_iff]
  cases faults.write <;> simp

theorem writeHublist_ok_iff
    {faults : HubFaults} {root : BscJson} {memory reached : HubMemory}
    {value : Unit} :
    writeHublist faults root memory = .ok value reached ↔
      Written faults ∧ { memory with hublist := some root } = reached := by
  unfold writeHublist Written
  simp only [bind_ok_iff, reject_ok_iff, ezKvRawSet_ok_iff]
  constructor
  · rintro ⟨_, _, ⟨hprint, rfl⟩, hwrite, hreached⟩
    exact ⟨⟨Bool.eq_false_of_not_eq_true hprint, hwrite⟩, hreached⟩
  · rintro ⟨⟨hprint, hwrite⟩, hreached⟩
    exact ⟨(), memory, ⟨by simp [hprint], rfl⟩, hwrite, hreached⟩

@[simp] theorem not_fails_writeHublist
    (faults : HubFaults) (root : BscJson) (memory : HubMemory) :
    ¬ Fails HubStop.Fatal (writeHublist faults root) memory := by
  simp [writeHublist, ezKvRawSet, fails_bind_iff]

/-- The one error that may be set once the list has been written. -/
theorem errorLeaves_writeHublist_bind_iff
    {faults : HubFaults} {root : BscJson} {next : Unit → HubAction Unit}
    (hnext : ∀ memory, ¬ Fails (fun stop => ¬ stop.Fatal) (next ()) memory)
    {memory : HubMemory} :
    ErrorLeaves (writeHublist faults root >>= next) memory ↔
      (Retried faults → memory.hublist = some root) := by
  unfold ErrorLeaves writeHublist Retried
  rw [bind_assoc, errorKeeps_reject_bind_iff, and_imp, Bool.not_eq_true]
  apply imp_congr_right
  intro _
  cases hwrite : faults.write with
  | stored =>
      refine iff_of_true ?_ (by simp)
      apply errorKeeps_of_not_fails
      simp [ezKvRawSet, fails_bind_iff, hwrite, hnext]
  | retried =>
      have hrun : (ezKvRawSet faults (some root) >>= next) memory =
          .error (.errno .storage) { memory with hublist := some root } := by
        apply bind_of_error
        unfold ezKvRawSet
        rw [hwrite]
        rfl
      unfold ErrorKeeps
      rw [hrun]
      simp [kept, eq_comm]
  | failed =>
      have hrun : (ezKvRawSet faults (some root) >>= next) memory =
          .error (.errno .storage) memory := by
        apply bind_of_error
        unfold ezKvRawSet
        rw [hwrite]
        rfl
      refine iff_of_true ?_ (by simp)
      unfold ErrorKeeps
      rw [hrun]
      simp

theorem keeps_readListed (faults : LoadFaults) (empty : HubErrno) :
    Keeps id (fun _ => True) (readListed faults empty) := by
  apply keeps_bind (keeps_readHublist faults)
  intro hublist
  exact keeps_required trivial hublist

theorem keeps_findListed (faults : LoadFaults) (sn : CString) :
    Keeps id (fun _ => True) (findListed faults sn) := by
  apply keeps_bind (keeps_readListed faults .subdevNotFound)
  intro root
  apply keeps_bind (keeps_required trivial _)
  intro found
  apply keeps_bind (keeps_required trivial found)
  intro index
  apply keeps_bind (keeps_required trivial _)
  intro item
  exact keeps_pure _

/-- What a report reads can be read. -/
def ReportDefined (faults : ReportFaults) (hublist : Option BscJson) : Prop :=
  faults.create = false → ∀ root, loads faults.load hublist = some root →
    ∀ item ∈ items root, jsonToSubdev item ≠ none

theorem mapM_ne_none_iff {α β : Type} {read : α → Option β} {list : List α} :
    list.mapM read ≠ none ↔ ∀ item ∈ list, read item ≠ none := by
  induction list with
  | nil => simp
  | cons head tail ih =>
      rw [List.mapM_cons, List.forall_mem_cons, ← ih]
      cases read head <;> cases tail.mapM read <;> simp

theorem fails_reportItems_iff
    {faults : ReportFaults} {whenEmpty : HubAction Unit}
    {memory : HubMemory}
    (hempty : ∀ memory, ¬ Fails HubStop.Fatal whenEmpty memory) :
    Fails HubStop.Fatal (reportItems faults whenEmpty) memory ↔
      faults.create = false ∧ ∃ root,
        loads faults.load memory.hublist = some root ∧
          (items root).mapM jsonToSubdev = none := by
  unfold reportItems
  simp only [fails_bind_iff, fails_reject_iff, not_fatal_errno, and_false,
    reject_ok_iff, not_fails_readHublist, false_or, Bool.not_eq_true]
  constructor
  · rintro ⟨_, _, ⟨hcreate, rfl⟩, hublist, middle, hread, hfails⟩
    cases hublist with
    | none => exact absurd hfails (hempty middle)
    | some root =>
        have hloads := (readHublist_ok_some_iff.mp hread).2
        simp [fails_bind_iff] at hfails
        exact ⟨hcreate, root, hloads, hfails⟩
  · rintro ⟨hcreate, root, hloads, hnull⟩
    refine ⟨(), memory, ⟨hcreate, rfl⟩, some root, memory,
      readHublist_ok_some_iff.mpr ⟨rfl, hloads⟩, ?_⟩
    simp [fails_bind_iff, hnull]

theorem not_fails_reportItems_iff
    {faults : ReportFaults} {whenEmpty : HubAction Unit}
    {memory : HubMemory}
    (hempty : ∀ memory, ¬ Fails HubStop.Fatal whenEmpty memory) :
    ¬ Fails HubStop.Fatal (reportItems faults whenEmpty) memory ↔
      ReportDefined faults memory.hublist := by
  rw [fails_reportItems_iff hempty]
  unfold ReportDefined
  simp only [← mapM_ne_none_iff, not_and, not_exists]

/-- The search, the reads of the item that it finds and the report of the
edited list meet nothing of another type than they assume, and an edit that is
written in the log line of a failure changes nothing. -/
def EditSound (faults : HubFaults) (sn : CString)
    (Defined : BscJson × ℕ × BscJson → Prop)
    (edit : BscJson × ℕ × BscJson → BscJson) (hublist : Option BscJson) :
    Prop :=
  SearchDefined faults.load sn hublist ∧
    ∀ listed, Listed faults.load sn hublist listed →
      Defined listed ∧
        (Written faults → ReportDefined faults.report (some (edit listed))) ∧
        (Retried faults → edit listed = listed.1)

section Edits

variable {faults : HubFaults} {sn : CString}
  {rest : BscJson × ℕ × BscJson → HubAction Unit}
  {Defined : BscJson × ℕ × BscJson → Prop}
  {edit : BscJson × ℕ × BscJson → BscJson}
  {report : HubAction Unit}

/-- An operation that finds a sub-device, writes an edited list and reports
it. -/
theorem returnsAtomic_edit_iff
    (hleaves : ∀ listed memory, Defined listed →
      (ErrorLeaves (rest listed) memory ↔
        (Retried faults → memory.hublist = some (edit listed))))
    (hfatal : ∀ listed memory,
      ¬ Fails HubStop.Fatal (rest listed) memory ↔ Defined listed)
    (hok : ∀ listed memory value reached,
      rest listed memory = .ok value reached →
        Written faults ∧ reached.hublist = some (edit listed))
    (hrun : ∀ listed memory, Defined listed → Written faults →
      ∃ reached, rest listed memory = .ok () reached)
    (hreport : ∀ memory, ¬ Fails HubStop.Fatal report memory ↔
      ReportDefined faults.report memory.hublist)
    (memory : HubMemory) :
    ReturnsAtomic memory
        ((hubCall (findListed faults.load sn >>= rest) >>= fun _ =>
          dropErrno (hubCall report)) memory) ↔
      memory.locked = false ∧
        EditSound faults sn Defined edit memory.hublist := by
  rw [returnsAtomic_reported_iff]
  apply and_congr_right
  intro _
  have hsearch : ¬ Fails HubStop.Fatal (findListed faults.load sn)
      memory.lock ↔ SearchDefined faults.load sn memory.hublist :=
    not_fails_findListed_iff
  rw [fails_bind_iff, not_or, hsearch, and_assoc]
  apply and_congr_right
  intro _
  have hleaves' : ErrorLeaves (findListed faults.load sn >>= rest)
      memory.lock ↔ ∀ listed, Listed faults.load sn memory.hublist listed →
        ErrorLeaves (rest listed) memory.lock := by
    refine (errorKeeps_bind_iff (keeps_findListed faults.load sn)).trans ?_
    simp only [findListed_ok_iff, true_and]
    rfl
  have hsame : ∀ listed, Listed faults.load sn memory.hublist listed →
      (memory.lock.hublist = some (edit listed) ↔
        edit listed = listed.1) := by
    intro listed hlisted
    rw [lock_hublist, loads_eq_some hlisted.1, Option.some.injEq, eq_comm]
  rw [hleaves']
  simp only [bind_ok_iff, findListed_ok_iff]
  constructor
  · rintro ⟨hnever, hkept, hreports⟩ listed hlisted
    have hdefined : Defined listed := by
      rw [← hfatal listed memory.lock]
      intro hfails
      exact hnever ⟨listed, memory.lock, ⟨rfl, hlisted⟩, hfails⟩
    refine ⟨hdefined, fun hwritten => ?_, fun hretried => ?_⟩
    · obtain ⟨reached, hreached⟩ :=
        hrun listed memory.lock hdefined hwritten
      have hafter := hreports () reached
        ⟨listed, memory.lock, ⟨rfl, hlisted⟩, hreached⟩
      rwa [hreport, lock_hublist, (hok _ _ _ _ hreached).2] at hafter
    · rw [← hsame listed hlisted]
      exact (hleaves listed memory.lock hdefined).mp (hkept listed hlisted)
        hretried
  · intro hlist
    refine ⟨?_, ?_, ?_⟩
    · rintro ⟨listed, middle, ⟨_, hlisted⟩, hfails⟩
      exact (hfatal listed middle).mpr (hlist listed hlisted).1 hfails
    · intro listed hlisted
      rw [hleaves listed memory.lock (hlist listed hlisted).1,
        hsame listed hlisted]
      exact (hlist listed hlisted).2.2
    · rintro value reached ⟨listed, middle, ⟨_, hlisted⟩, hreached⟩
      obtain ⟨hwritten, hstored⟩ := hok _ _ _ _ hreached
      rw [hreport, lock_hublist, hstored]
      exact (hlist listed hlisted).2.1 hwritten

end Edits

theorem hubSubdevListReport_defined
    (faults : ReportFaults) (memory : HubMemory) :
    ¬ Fails HubStop.Fatal
        (reportItems faults (reject faults.send (.errno .internal)))
        memory ↔
      ReportDefined faults memory.hublist := by
  apply not_fails_reportItems_iff
  simp

theorem hubSubdevStaReport_defined
    (faults : ReportFaults) (memory : HubMemory) :
    ¬ Fails HubStop.Fatal
        (reportItems faults (throw (.errno .subdevNotFound))) memory ↔
      ReportDefined faults memory.hublist := by
  apply not_fails_reportItems_iff
  rintro memory ⟨stop, reached, herror, hfatal⟩
  cases herror
  exact not_fatal_errno _ hfatal

def DelSound (faults : HubFaults) (sn : CString) :
    Option BscJson → Prop :=
  EditSound faults sn (fun listed => jsonToSubdev listed.2.2 ≠ none)
    fun listed => deleteItemFromArray listed.2.1 listed.1

theorem returnsAtomic_hubDelDo_iff
    (faults : HubFaults) (sn : CString) (memory : HubMemory) :
    ReturnsAtomic memory (hubDelDo faults sn memory) ↔
      memory.locked = false ∧ DelSound faults sn memory.hublist := by
  apply returnsAtomic_edit_iff
  case hreport => exact hubSubdevListReport_defined faults.report
  case hleaves =>
    intro listed memory hdefined
    obtain ⟨subdev, hsubdev⟩ := Option.ne_none_iff_exists'.mp hdefined
    refine errorKeeps_required_bind_iff.trans ?_
    rw [hsubdev]
    simp only [Option.some.injEq, forall_eq']
    apply errorLeaves_writeHublist_bind_iff
    exact not_fails_modify _
  case hfatal =>
    intro listed memory
    simp [fails_bind_iff]
  case hok =>
    intro listed memory value reached hreached
    simp only [bind_ok_iff, required_ok_iff, writeHublist_ok_iff,
      modify_ok_iff] at hreached
    obtain ⟨subdev, _, ⟨_, rfl⟩, _, _, ⟨hwritten, rfl⟩, rfl⟩ := hreached
    refine ⟨hwritten, ?_⟩
    cases subdev.access <;> rfl
  case hrun =>
    intro listed memory hdefined hwritten
    obtain ⟨subdev, hsubdev⟩ := Option.ne_none_iff_exists'.mp hdefined
    simp only [bind_ok_iff, required_ok_iff, writeHublist_ok_iff,
      modify_ok_iff]
    exact ⟨_, subdev, memory, ⟨hsubdev, rfl⟩, (), _, ⟨hwritten, rfl⟩, rfl⟩

/-- The version is read back when it has been written. -/
def VerUpdateSound (faults : HubFaults) (sn ver : CString) :
    Option BscJson → Prop :=
  let change := replaceItemInObject faults "ver".toList (.string ver)
  EditSound faults sn
    (fun listed => jsonToSubdev listed.2.2 ≠ none ∧
      (Written faults → jsonToSubdev (change listed.2.2) ≠ none))
    fun listed => modifyItem listed.2.1 change listed.1

theorem returnsAtomic_hubVerUpdateDo_iff
    (faults : HubFaults) (sn ver : CString) (memory : HubMemory) :
    ReturnsAtomic memory (hubVerUpdateDo faults sn ver memory) ↔
      memory.locked = false ∧
        VerUpdateSound faults sn ver memory.hublist := by
  apply returnsAtomic_edit_iff
  case hreport => exact hubSubdevListReport_defined faults.report
  case hleaves =>
    intro listed memory hdefined
    obtain ⟨subdev, hsubdev⟩ := Option.ne_none_iff_exists'.mp hdefined.1
    refine errorKeeps_required_bind_iff.trans ?_
    rw [hsubdev]
    simp only [Option.some.injEq, forall_eq']
    apply errorLeaves_writeHublist_bind_iff
    intro memory
    simp [fails_bind_iff, -bind_pure_comp]
  case hfatal =>
    intro listed memory
    simp only [fails_bind_iff, fails_required_iff, required_ok_iff,
      writeHublist_ok_iff]
    cases jsonToSubdev listed.2.2 <;> simp
  case hok =>
    intro listed memory value reached hreached
    simp only [bind_ok_iff, required_ok_iff, writeHublist_ok_iff,
      pure_ok_iff] at hreached
    obtain ⟨subdev, _, ⟨_, rfl⟩, _, _, ⟨hwritten, rfl⟩, _, _, ⟨_, rfl⟩, _,
      rfl⟩ := hreached
    exact ⟨hwritten, rfl⟩
  case hrun =>
    intro listed memory hdefined hwritten
    obtain ⟨subdev, hsubdev⟩ := Option.ne_none_iff_exists'.mp hdefined.1
    obtain ⟨updated, hupdated⟩ :=
      Option.ne_none_iff_exists'.mp (hdefined.2 hwritten)
    simp only [bind_ok_iff, required_ok_iff, writeHublist_ok_iff,
      pure_ok_iff]
    exact ⟨_, subdev, memory, ⟨hsubdev, rfl⟩, (), _, ⟨hwritten, rfl⟩,
      updated, _, ⟨hupdated, rfl⟩, trivial, rfl⟩

def StatusUpdateSound (faults : HubFaults) (sn : CString) (online : Bool) :
    Option BscJson → Prop :=
  let change := replaceItemInObject faults "sta".toList (.bool online)
  EditSound faults sn (fun _ => True)
    fun listed => modifyItem listed.2.1 change listed.1

theorem returnsAtomic_hubStatusUpdateDo_iff
    (faults : HubFaults) (sn : CString) (online : Bool)
    (memory : HubMemory) :
    ReturnsAtomic memory (hubStatusUpdateDo faults sn online memory) ↔
      memory.locked = false ∧
        StatusUpdateSound faults sn online memory.hublist := by
  apply returnsAtomic_edit_iff
  case hreport => exact hubSubdevStaReport_defined faults.report
  case hleaves =>
    intro listed memory _
    rw [← bind_pure (writeHublist faults _)]
    apply errorLeaves_writeHublist_bind_iff
    exact not_fails_pure ()
  case hfatal =>
    intro listed memory
    simp
  case hok =>
    intro listed memory value reached hreached
    obtain ⟨hwritten, rfl⟩ := writeHublist_ok_iff.mp hreached
    exact ⟨hwritten, rfl⟩
  case hrun =>
    intro listed memory _ hwritten
    exact ⟨_, writeHublist_ok_iff.mpr ⟨hwritten, rfl⟩⟩

/-! ## Adding and reading -/

theorem keeps_listToExtend
    (faults : HubFaults) (sn : CString) (hublist : Option BscJson) :
    Keeps id (fun _ => True) (listToExtend faults sn hublist) := by
  cases hublist with
  | none =>
      apply keeps_bind (keeps_reject fun _ => trivial)
      intro _
      exact keeps_pure (BscJson.array [])
  | some root =>
      apply keeps_bind (keeps_required trivial _)
      intro found
      apply keeps_bind (keeps_reject fun _ => trivial)
      intro _
      exact keeps_pure root

/-- The list that an add extends when it arrives at its write, and the object
that it appends. -/
def Extended (sublistMax : ℕ) (faults : HubFaults) (subdev : HubSubdev)
    (hublist : Option BscJson) (root jsSubdev : BscJson) : Prop :=
  (loads faults.load hublist = some root ∧
      findDevBySn (some subdev.sn.1) (items root) = some none ∨
    hublist = none ∧ root = .array [] ∧
      faults.load.length = false ∧ faults.create = false) ∧
    root.getArraySize < sublistMax ∧
      subdevToJson faults subdev = some jsSubdev

/-- The search reads strings only, and a list that is written in the log line
of a failure is the list that was stored. -/
def AddSound (sublistMax : ℕ) (faults : HubFaults) (subdev : HubSubdev)
    (hublist : Option BscJson) : Prop :=
  SearchDefined faults.load subdev.sn.1 hublist ∧
    (Retried faults → ∀ root jsSubdev,
      Extended sublistMax faults subdev hublist root jsSubdev →
        hublist = some (addItemToArray jsSubdev root))

/-- The list is read and can be extended. -/
theorem read_listToExtend_iff
    {faults : HubFaults} {sn : CString} {memory : HubMemory}
    {root : BscJson} :
    (∃ hublist, readHublist faults.load memory = .ok hublist memory ∧
      listToExtend faults sn hublist memory = .ok root memory) ↔
      loads faults.load memory.hublist = some root ∧
          findDevBySn (some sn) (items root) = some none ∨
        memory.hublist = none ∧ root = .array [] ∧
          faults.load.length = false ∧ faults.create = false := by
  have hnew : listToExtend faults sn none memory = .ok root memory ↔
      faults.create = false ∧ .array [] = root := by
    unfold listToExtend
    simp [bind_ok_iff, reject_ok_iff, pure_ok_iff, -bind_pure_comp]
  have hold : ∀ listed,
      listToExtend faults sn (some listed) memory = .ok root memory ↔
        findDevBySn (some sn) (items listed) = some none ∧ listed = root := by
    intro listed
    unfold listToExtend
    simp only [bind_ok_iff, required_ok_iff, reject_ok_iff, pure_ok_iff]
    constructor
    · rintro ⟨found, _, ⟨hfound, rfl⟩, _, _, ⟨hpassed, _⟩, hlisted, _⟩
      rw [not_not] at hpassed
      exact ⟨hpassed ▸ hfound, hlisted⟩
    · rintro ⟨hfound, hlisted⟩
      exact ⟨none, memory, ⟨hfound, rfl⟩, (), memory, ⟨not_not.mpr rfl, rfl⟩,
        hlisted, rfl⟩
  constructor
  · rintro ⟨hublist, hread, hextend⟩
    cases hublist with
    | none =>
        have hempty := readHublist_ok_none_iff.mp hread
        have hcreated := hnew.mp hextend
        exact Or.inr
          ⟨hempty.2.1, hcreated.2.symm, hempty.2.2, hcreated.1⟩
    | some listed =>
        have hloads := (readHublist_ok_some_iff.mp hread).2
        obtain ⟨hfound, rfl⟩ := (hold listed).mp hextend
        exact Or.inl ⟨hloads, hfound⟩
  · rintro (⟨hloads, hfound⟩ | ⟨hempty, hroot, hlength, hcreate⟩)
    · exact ⟨some root, readHublist_ok_some_iff.mpr ⟨rfl, hloads⟩,
        (hold root).mpr ⟨hfound, rfl⟩⟩
    · exact ⟨none, readHublist_ok_none_iff.mpr ⟨rfl, hempty, hlength⟩,
        hnew.mpr ⟨hcreate, hroot.symm⟩⟩

theorem errorLeaves_addBody_iff
    (sublistMax : ℕ) (faults : HubFaults) (subdev : HubSubdev)
    (memory : HubMemory) :
    ErrorLeaves (addBody sublistMax faults subdev) memory ↔
      (Retried faults → ∀ root jsSubdev,
        Extended sublistMax faults subdev memory.hublist root jsSubdev →
          memory.hublist = some (addItemToArray jsSubdev root)) := by
  have hwritten : ∀ root, ErrorLeaves (do
      reject (sublistMax ≤ root.getArraySize) (.errno .outOfRange)
      let jsSubdev ← ErrorState.required (.errno .memory)
        (subdevToJson faults subdev)
      writeHublist faults (addItemToArray jsSubdev root)
      modify fun memory =>
        { memory with unauthCount := memory.unauthCount + 1 }) memory ↔
        (¬ sublistMax ≤ root.getArraySize → ∀ jsSubdev,
          subdevToJson faults subdev = some jsSubdev → Retried faults →
            memory.hublist = some (addItemToArray jsSubdev root)) := by
    intro root
    refine errorKeeps_reject_bind_iff.trans ?_
    apply imp_congr_right
    intro _
    refine errorKeeps_required_bind_iff.trans ?_
    apply forall_congr'
    intro jsSubdev
    apply imp_congr_right
    intro _
    apply errorLeaves_writeHublist_bind_iff
    exact not_fails_modify _
  have hbody : ErrorLeaves (addBody sublistMax faults subdev) memory ↔
      ∀ hublist, readHublist faults.load memory = .ok hublist memory →
        ∀ root, listToExtend faults subdev.sn.1 hublist memory =
            .ok root memory →
          ¬ sublistMax ≤ root.getArraySize → ∀ jsSubdev,
            subdevToJson faults subdev = some jsSubdev → Retried faults →
              memory.hublist = some (addItemToArray jsSubdev root) := by
    refine (errorKeeps_bind_iff (keeps_readHublist faults.load)).trans ?_
    apply forall_congr'
    intro hublist
    apply imp_congr_right
    intro _
    have hkeeps := keeps_listToExtend faults subdev.sn.1 hublist
    refine (errorKeeps_bind_iff hkeeps).trans ?_
    apply forall_congr'
    intro root
    exact imp_congr_right fun _ => hwritten root
  rw [hbody]
  unfold Extended
  constructor
  · intro hkept hretried root jsSubdev hextended
    obtain ⟨hublist, hread, hextend⟩ :=
      read_listToExtend_iff.mpr hextended.1
    exact hkept hublist hread root hextend
      (Nat.not_le.mpr hextended.2.1) jsSubdev hextended.2.2 hretried
  · intro hkept hublist hread root hextend hroom jsSubdev hobject hretried
    apply hkept hretried root jsSubdev
    refine ⟨?_, Nat.lt_of_not_le hroom, hobject⟩
    exact read_listToExtend_iff.mp ⟨hublist, hread, hextend⟩

theorem fails_addBody_iff
    {sublistMax : ℕ} {faults : HubFaults} {subdev : HubSubdev}
    {memory : HubMemory} :
    Fails HubStop.Fatal (addBody sublistMax faults subdev) memory ↔
      ∃ root, loads faults.load memory.hublist = some root ∧
        findDevBySn (some subdev.sn.1) (items root) = none := by
  unfold addBody
  simp only [fails_bind_iff, not_fails_readHublist, fails_reject_iff,
    fails_required_iff, not_fails_writeHublist, not_fails_modify,
    not_fatal_errno, and_false, exists_false, or_false, false_or]
  constructor
  · rintro ⟨hublist, middle, hread, hfails⟩
    cases hublist with
    | none => simp [listToExtend, fails_bind_iff, -bind_pure_comp] at hfails
    | some root =>
        simp [listToExtend, fails_bind_iff, -bind_pure_comp] at hfails
        exact ⟨root, (readHublist_ok_some_iff.mp hread).2, hfails⟩
  · rintro ⟨root, hloads, hsearch⟩
    refine ⟨some root, memory, readHublist_ok_some_iff.mpr ⟨rfl, hloads⟩, ?_⟩
    simp [listToExtend, fails_bind_iff, hsearch]

theorem returnsAtomic_hubAddDo_iff
    (sublistMax : ℕ) (faults : HubFaults) (subdev : HubSubdev)
    (memory : HubMemory) :
    ReturnsAtomic memory (hubAddDo sublistMax faults subdev memory) ↔
      memory.locked = false ∧
        AddSound sublistMax faults subdev memory.hublist := by
  unfold hubAddDo AddSound SearchDefined
  rw [returnsAtomic_hubCall_iff, fails_addBody_iff, errorLeaves_addBody_iff]
  simp only [lock_hublist, not_exists, not_and, ne_eq]

def QueryDefined (faults : LoadFaults) (sn : CString)
    (hublist : Option BscJson) : Prop :=
  SearchDefined faults sn hublist ∧
    ∀ listed, Listed faults sn hublist listed →
      jsonToSubdev listed.2.2 ≠ none

theorem returnsAtomic_hubSubdevQuery_iff
    (faults : LoadFaults) (sn : CString) (memory : HubMemory) :
    ReturnsAtomic memory (hubSubdevQuery faults sn memory) ↔
      memory.locked = false ∧ QueryDefined faults sn memory.hublist := by
  have hkeeps : Keeps id (fun _ => True) (queryBody faults sn) := by
    apply keeps_bind (keeps_findListed faults sn)
    intro listed
    exact keeps_required trivial _
  have hleaves : ErrorLeaves (queryBody faults sn) memory.lock :=
    hkeeps.errorKeeps memory.lock
  unfold hubSubdevQuery
  rw [returnsAtomic_hubCall_iff, and_iff_left hleaves]
  apply and_congr_right
  intro _
  unfold queryBody QueryDefined
  rw [fails_bind_iff, not_or, not_fails_findListed_iff]
  simp [findListed_ok_iff]

/-- What `hub_subdev_next` finds in a document; the inner `none` is the end
of the enumeration. -/
def nextSubdev (sn : CString) (root : BscJson) :
    Option (Option HubSubdev) := do
  let found ← nextIndex sn root
  match found with
  | none => some none
  | some index =>
      if sn ≠ [] ∧ root.getArraySize ≤ index then some none
      else
        match root.getArrayItem index with
        | none => some none
        | some item => (jsonToSubdev item.2).map some

theorem nextOf_cases (sn : CString) (root : BscJson) (memory : HubMemory) :
    (nextSubdev sn root = none ∧
      nextOf sn root memory = .error .crash memory) ∨
    (nextSubdev sn root = some none ∧
      ∃ rv, nextOf sn root memory = .error (.errno rv) memory) ∨
    ∃ subdev, nextSubdev sn root = some (some subdev) ∧
      nextOf sn root memory = .ok subdev memory := by
  unfold nextSubdev nextOf
  cases nextIndex sn root with
  | none => exact Or.inl ⟨rfl, rfl⟩
  | some found =>
  cases found with
  | none => exact Or.inr (Or.inl ⟨rfl, .enumEnd, rfl⟩)
  | some index =>
  by_cases hend : sn ≠ [] ∧ root.getArraySize ≤ index
  · refine Or.inr (Or.inl ⟨if_pos hend, .enumEnd, ?_⟩)
    exact reject_bind_of_failed hend
  · cases hitem : root.getArrayItem index with
    | none =>
        refine Or.inr (Or.inl ⟨?_, .subdevNotFound, ?_⟩)
        · simp [hend, hitem]
        · refine (reject_bind_of_passed hend).trans ?_
          rw [hitem]
          rfl
    | some item =>
        cases hsubdev : jsonToSubdev item.2 with
        | none =>
            refine Or.inl ⟨?_, ?_⟩
            · simp [hend, hitem, hsubdev]
            · refine (reject_bind_of_passed hend).trans ?_
              rw [hitem]
              change ErrorState.required HubStop.crash (jsonToSubdev item.2)
                memory = _
              rw [hsubdev]
              rfl
        | some subdev =>
            refine Or.inr (Or.inr ⟨subdev, ?_, ?_⟩)
            · simp [hend, hitem, hsubdev]
            · refine (reject_bind_of_passed hend).trans ?_
              rw [hitem]
              change ErrorState.required HubStop.crash (jsonToSubdev item.2)
                memory = _
              rw [hsubdev]
              rfl

theorem fails_nextOf_iff
    {sn : CString} {root : BscJson} {memory : HubMemory} :
    Fails HubStop.Fatal (nextOf sn root) memory ↔
      nextSubdev sn root = none := by
  unfold Fails
  rcases nextOf_cases sn root memory with hnext | hnext | hnext
  · simp [hnext.1, hnext.2]
  · obtain ⟨hend, rv, hnext⟩ := hnext
    simp [hend, hnext]
  · obtain ⟨subdev, hsubdev, hnext⟩ := hnext
    simp [hsubdev, hnext]

theorem nextOf_ok_iff
    {sn : CString} {root : BscJson} {memory reached : HubMemory}
    {subdev : HubSubdev} :
    nextOf sn root memory = .ok subdev reached ↔
      memory = reached ∧ nextSubdev sn root = some (some subdev) := by
  rcases nextOf_cases sn root memory with hnext | hnext | hnext
  · simp [hnext.1, hnext.2]
  · obtain ⟨hend, rv, hnext⟩ := hnext
    simp [hend, hnext]
  · obtain ⟨found, hsubdev, hnext⟩ := hnext
    simp [hsubdev, hnext, and_comm]

theorem keeps_nextBody (faults : LoadFaults) (sn : CString) :
    Keeps id (fun _ => True) (nextBody faults sn) := by
  apply keeps_bind (keeps_readListed faults .enumEnd)
  intro root memory
  rcases nextOf_cases sn root memory with hnext | hnext | hnext
  · rw [hnext.2]
    exact ⟨rfl, trivial⟩
  · obtain ⟨_, rv, hnext⟩ := hnext
    rw [hnext]
    exact ⟨rfl, trivial⟩
  · obtain ⟨subdev, _, hnext⟩ := hnext
    rw [hnext]

def NextDefined (faults : LoadFaults) (sn : CString)
    (hublist : Option BscJson) : Prop :=
  ∀ root, loads faults hublist = some root → nextSubdev sn root ≠ none

theorem not_fails_nextBody_iff
    {faults : LoadFaults} {sn : CString} {memory : HubMemory} :
    ¬ Fails HubStop.Fatal (nextBody faults sn) memory ↔
      NextDefined faults sn memory.hublist := by
  unfold nextBody NextDefined
  simp [fails_bind_iff, readListed_ok_iff, fails_nextOf_iff]

theorem nextBody_ok_iff
    {faults : LoadFaults} {sn : CString} {memory reached : HubMemory}
    {subdev : HubSubdev} :
    nextBody faults sn memory = .ok subdev reached ↔
      memory = reached ∧ ∃ root, loads faults memory.hublist = some root ∧
        nextSubdev sn root = some (some subdev) := by
  unfold nextBody
  simp only [bind_ok_iff, readListed_ok_iff, nextOf_ok_iff]
  constructor
  · rintro ⟨root, middle, ⟨rfl, hloads⟩, rfl, hsubdev⟩
    exact ⟨rfl, root, hloads, hsubdev⟩
  · rintro ⟨rfl, root, hloads, hsubdev⟩
    exact ⟨root, memory, ⟨rfl, hloads⟩, rfl, hsubdev⟩

theorem returnsAtomic_hubSubdevNext_iff
    (faults : LoadFaults) (sn : CString) (memory : HubMemory) :
    ReturnsAtomic memory (hubSubdevNext faults sn memory) ↔
      memory.locked = false ∧ NextDefined faults sn memory.hublist := by
  have hleaves : ErrorLeaves (nextBody faults sn) memory.lock :=
    (keeps_nextBody faults sn).errorKeeps memory.lock
  unfold hubSubdevNext
  rw [returnsAtomic_hubCall_iff, and_iff_left hleaves, not_fails_nextBody_iff]
  rfl

/-! ## The clean -/

/-- Up to a number of calls the enumeration comes to an end, or to a read that
fails, without a NULL pointer. -/
def EnumEnds (hublist : Option BscJson) :
    ℕ → (ℕ → LoadFaults) → CString → Prop
  | 0, _, _ => False
  | calls + 1, faults, sn =>
      match loads (faults 0) hublist with
      | none => True
      | some root =>
          match nextSubdev sn root with
          | none => False
          | some none => True
          | some (some subdev) =>
              EnumEnds hublist calls (fun call => faults (call + 1))
                subdev.sn.1

theorem EnumEnds.succ
    {hublist : Option BscJson} {calls : ℕ} {faults : ℕ → LoadFaults}
    {sn : CString} (hends : EnumEnds hublist calls faults sn) :
    EnumEnds hublist (calls + 1) faults sn := by
  induction calls generalizing faults sn with
  | zero => exact absurd hends id
  | succ calls ih =>
      unfold EnumEnds at hends ⊢
      cases hloads : loads (faults 0) hublist with
      | none => trivial
      | some root =>
          simp only [hloads] at hends ⊢
          cases hnext : nextSubdev sn root with
          | none => simp [hnext] at hends
          | some found =>
              cases found with
              | none => trivial
              | some subdev =>
                  simp only [hnext] at hends
                  exact ih hends

theorem EnumEnds.of_le
    {hublist : Option BscJson} {calls more : ℕ} {faults : ℕ → LoadFaults}
    {sn : CString} (hends : EnumEnds hublist calls faults sn)
    (hle : calls ≤ more) : EnumEnds hublist more faults sn := by
  induction hle with
  | refl => exact hends
  | step _ ih => exact ih.succ

theorem unlock_lock {memory : HubMemory} (hlocked : memory.locked = false) :
    memory.lock.unlock = memory := by
  cases memory
  cases hlocked
  rfl

theorem nextBody_of_not_loaded
    {faults : LoadFaults} (sn : CString) {memory : HubMemory}
    (hloads : loads faults memory.hublist = none) :
    ∃ rv, nextBody faults sn memory = .error (.errno rv) memory := by
  have hfatal : ¬ Fails HubStop.Fatal (nextBody faults sn) memory := by
    rw [not_fails_nextBody_iff]
    intro root hroot
    rw [hloads] at hroot
    cases hroot
  cases hrun : nextBody faults sn memory with
  | ok subdev reached =>
      obtain ⟨_, root, hroot, _⟩ := nextBody_ok_iff.mp hrun
      rw [hloads] at hroot
      cases hroot
  | error stop reached =>
      have hreached : reached = memory :=
        ((keeps_nextBody faults sn).of_error hrun).1
      cases stop with
      | errno rv => exact ⟨rv, by rw [hreached]⟩
      | crash | waits | endless =>
          exact absurd ⟨_, reached, hrun, fun _ => nofun⟩ hfatal

theorem nextBody_of_loaded
    {faults : LoadFaults} {sn : CString} {memory : HubMemory}
    {root : BscJson} (hloads : loads faults memory.hublist = some root) :
    nextBody faults sn memory = nextOf sn root memory :=
  bind_of_ok (readListed_ok_iff.mpr ⟨rfl, hloads⟩)

/-- The loop ends in the state it started in, or it does not return. -/
theorem enumSubdevs_cases
    {memory : HubMemory} (hlocked : memory.locked = false)
    (calls : ℕ) (faults : ℕ → LoadFaults) (sn : CString) :
    (EnumEnds memory.hublist calls faults sn ∧
      enumSubdevs calls faults sn memory = .ok () memory) ∨
    (¬ EnumEnds memory.hublist calls faults sn ∧
      Fails HubStop.Fatal (enumSubdevs calls faults sn) memory) := by
  induction calls generalizing faults sn with
  | zero =>
      exact Or.inr ⟨id, .endless, memory, rfl, fun _ => nofun⟩
  | succ calls ih =>
      have hcall : hubSubdevNext (faults 0) sn memory = _ :=
        hubCall_of_unlocked hlocked
      unfold EnumEnds enumSubdevs Fails
      cases hloads : loads (faults 0) memory.hublist with
      | none =>
          have hread : loads (faults 0) memory.lock.hublist = none := hloads
          obtain ⟨rv, hrun⟩ := nextBody_of_not_loaded sn hread
          left
          simp [hcall, hrun, unlock_lock hlocked]
      | some root =>
          have hread : loads (faults 0) memory.lock.hublist = some root :=
            hloads
          rw [nextBody_of_loaded hread] at hcall
          rcases nextOf_cases sn root memory.lock with hnext | hnext | hnext
          · right
            simp [hcall, hnext.1, hnext.2, released_fatal]
          · obtain ⟨hend, rv, hnext⟩ := hnext
            left
            simp [hcall, hend, hnext, unlock_lock hlocked]
          · obtain ⟨subdev, hsubdev, hnext⟩ := hnext
            have hrest := ih (fun call => faults (call + 1)) subdev.sn.1
            simpa [Fails, hcall, hsubdev, hnext, unlock_lock hlocked]
              using hrest

theorem fails_enumSubdevs_of_locked
    {memory : HubMemory} (hlocked : memory.locked = true)
    (calls : ℕ) (faults : ℕ → LoadFaults) (sn : CString) :
    Fails HubStop.Fatal (enumSubdevs calls faults sn) memory := by
  cases calls with
  | zero => exact ⟨.endless, memory, rfl, fun _ => nofun⟩
  | succ calls =>
      refine ⟨.waits, memory, ?_, fun _ => nofun⟩
      simp [enumSubdevs, hubSubdevNext, hubCall, hlocked]

theorem not_returnsAtomic_of_fails {Value : Type}
    {action : HubAction Value} {memory state : HubMemory}
    (hfails : Fails HubStop.Fatal action state) :
    ¬ ReturnsAtomic memory (action state) := by
  obtain ⟨stop, reached, herror, hfatal⟩ := hfails
  rw [herror]
  exact fun hreturns => hreturns.1 hfatal

theorem returnsAtomic_cleanWritten
    (faults : HubFaults) (memory : HubMemory) {reached : HubMemory}
    (hwritten : reached.hublist = none) :
    ReturnsAtomic memory (cleanWritten faults reached) := by
  have hreport : ¬ Fails HubStop.Fatal
      (reportItems faults.report
        (reject faults.report.send (.errno .internal)))
      reached.lock := by
    rw [hubSubdevListReport_defined]
    intro _ root hloads
    simp [loads, hwritten] at hloads
  exact returnsAtomic_dropErrno_hubCall_iff.mpr hreport

theorem returnsAtomic_cleanWrite_iff
    {faults : HubFaults} {memory : HubMemory}
    (hlocked : memory.locked = false) :
    ReturnsAtomic memory (cleanWrite faults memory) ↔
      faults.write = .stored := by
  have hfree : ¬ memory.locked = true := by simp [hlocked]
  have hlock : cleanWrite faults memory =
      (ezKvRawSet faults none >>= fun _ =>
        cleanWritten faults) memory.lock :=
    reject_bind_of_passed hfree
  rw [hlock]
  cases hwrite : faults.write with
  | stored =>
      have hset : ezKvRawSet faults none memory.lock = .ok () _ :=
        ezKvRawSet_ok_iff.mpr ⟨hwrite, rfl⟩
      rw [bind_of_ok hset]
      exact iff_of_true (returnsAtomic_cleanWritten faults memory rfl) rfl
  | retried | failed =>
      have hlocked : ∃ reached, ezKvRawSet faults none memory.lock =
          .error (.errno .storage) reached ∧ reached.locked = true := by
        unfold ezKvRawSet
        rw [hwrite]
        exact ⟨_, rfl, rfl⟩
      obtain ⟨reached, herror, hreached⟩ := hlocked
      rw [bind_of_error herror]
      simp [ReturnsAtomic, hreached]

/-- A clean is atomic when both enumerations end and the write succeeds. -/
theorem returnsAtomic_hubCleanDo_iff
    (calls : ℕ) (faults : HubFaults) (memory : HubMemory) :
    ReturnsAtomic memory (hubCleanDo calls faults memory) ↔
      memory.locked = false ∧ faults.write = .stored ∧
        EnumEnds memory.hublist calls faults.unregAll [] ∧
          EnumEnds memory.hublist calls faults.profiles [] := by
  cases hlocked : memory.locked with
  | true =>
      have hfails : Fails HubStop.Fatal (hubCleanDo calls faults) memory :=
        fails_bind_iff.mpr
          (Or.inl (fails_enumSubdevs_of_locked hlocked calls _ _))
      simp [not_returnsAtomic_of_fails hfails]
  | false =>
      rcases enumSubdevs_cases hlocked calls faults.unregAll [] with
        hunreg | hunreg
      · rcases enumSubdevs_cases hlocked calls faults.profiles [] with
          hprofiles | hprofiles
        · have hrun : hubCleanDo calls faults memory =
              cleanWrite faults memory :=
            (bind_of_ok hunreg.2).trans (bind_of_ok hprofiles.2)
          rw [hrun, returnsAtomic_cleanWrite_iff hlocked]
          simp [hunreg.1, hprofiles.1]
        · have hfails : Fails HubStop.Fatal (hubCleanDo calls faults) memory :=
            fails_bind_iff.mpr (Or.inr ⟨(), memory, hunreg.2,
              fails_bind_iff.mpr (Or.inl hprofiles.2)⟩)
          simp [not_returnsAtomic_of_fails hfails, hprofiles.1]
      · have hfails : Fails HubStop.Fatal (hubCleanDo calls faults) memory :=
          fails_bind_iff.mpr (Or.inl hunreg.2)
        simp [not_returnsAtomic_of_fails hfails, hunreg.1]

/-! ## The operations of the hub -/

inductive HubOperation where
  | add (subdev : HubSubdev)
  | del (sn : CString)
  | verUpdate (sn ver : CString)
  | statusUpdate (sn : CString) (online : Bool)
  | query (sn : CString)
  | next (sn : CString)
  | clean

namespace HubOperation

/-- The number of calls bounds the enumerations of the clean. -/
def run (sublistMax calls : ℕ) (faults : HubFaults) :
    HubOperation → HubAction Unit
  | .add subdev => hubAddDo sublistMax faults subdev
  | .del sn => hubDelDo faults sn
  | .verUpdate sn ver => hubVerUpdateDo faults sn ver
  | .statusUpdate sn online => hubStatusUpdateDo faults sn online
  | .query sn => do
      let _subdev ← hubSubdevQuery faults.load sn
      pure ()
  | .next sn => do
      let _subdev ← hubSubdevNext faults.load sn
      pure ()
  | .clean => hubCleanDo calls faults

/-- The operation returns with `g_hlock` released, and an error that it
reports leaves the list and the counter as they were. -/
def Atomic (sublistMax : ℕ) (faults : HubFaults) (memory : HubMemory)
    (operation : HubOperation) : Prop :=
  ∃ calls, ReturnsAtomic memory
    (operation.run sublistMax calls faults memory)

/-- What the operation reads from the stored list has the type that it
assumes, and a write that gets through in the log line of its failure does not
change the list; a clean writes at once, and its enumerations end. -/
def Sound (sublistMax : ℕ) (faults : HubFaults) (hublist : Option BscJson) :
    HubOperation → Prop
  | .add subdev => AddSound sublistMax faults subdev hublist
  | .del sn => DelSound faults sn hublist
  | .verUpdate sn ver => VerUpdateSound faults sn ver hublist
  | .statusUpdate sn online => StatusUpdateSound faults sn online hublist
  | .query sn => QueryDefined faults.load sn hublist
  | .next sn => NextDefined faults.load sn hublist
  | .clean =>
      faults.write = .stored ∧
        (∃ calls, EnumEnds hublist calls faults.unregAll []) ∧
          ∃ calls, EnumEnds hublist calls faults.profiles []

theorem returnsAtomic_discard_iff {Value : Type}
    {action : HubAction Value} {memory : HubMemory} :
    ReturnsAtomic memory ((action >>= fun _ => pure ()) memory) ↔
      ReturnsAtomic memory (action memory) := by
  cases hrun : action memory with
  | ok value reached =>
      rw [bind_of_ok hrun]
      rfl
  | error stop reached =>
      rw [bind_of_error hrun]
      rfl

/-- An operation is atomic when it finds the lock free and is sound. -/
theorem atomic_iff_sound
    (sublistMax : ℕ) (faults : HubFaults) (memory : HubMemory)
    (operation : HubOperation) :
    operation.Atomic sublistMax faults memory ↔
      memory.locked = false ∧
        operation.Sound sublistMax faults memory.hublist := by
  unfold Atomic
  cases operation with
  | add subdev =>
      simp only [run, exists_const]
      exact returnsAtomic_hubAddDo_iff sublistMax faults subdev memory
  | del sn =>
      simp only [run, exists_const]
      exact returnsAtomic_hubDelDo_iff faults sn memory
  | verUpdate sn ver =>
      simp only [run, exists_const]
      exact returnsAtomic_hubVerUpdateDo_iff faults sn ver memory
  | statusUpdate sn online =>
      simp only [run, exists_const]
      exact returnsAtomic_hubStatusUpdateDo_iff faults sn online memory
  | query sn =>
      simp only [run, exists_const, returnsAtomic_discard_iff]
      exact returnsAtomic_hubSubdevQuery_iff faults.load sn memory
  | next sn =>
      simp only [run, exists_const, returnsAtomic_discard_iff]
      exact returnsAtomic_hubSubdevNext_iff faults.load sn memory
  | clean =>
      simp only [run, Sound, returnsAtomic_hubCleanDo_iff]
      constructor
      · rintro ⟨calls, hlocked, hset, hunreg, hprofiles⟩
        exact ⟨hlocked, hset, ⟨calls, hunreg⟩, calls, hprofiles⟩
      · rintro ⟨hlocked, hset, ⟨first, hunreg⟩, second, hprofiles⟩
        exact ⟨max first second, hlocked, hset,
          hunreg.of_le (le_max_left first second),
          hprofiles.of_le (le_max_right first second)⟩

def noLoadFaults : LoadFaults where
  length := false
  buffer := false
  text := false
  parse := false

/-- Only `ez_kv_raw_set` fails. -/
def writeFails (write : HubWrite) : HubFaults where
  load := noLoadFaults
  create := false
  object := false
  member := fun _ => false
  value := false
  name := false
  print := false
  write := write
  report := {
    create := false
    load := noLoadFaults
    print := false
    send := false }
  unregAll := fun _ => noLoadFaults
  profiles := fun _ => noLoadFaults

/-- A clean that cannot write reports the storage error and keeps the lock; a
delete whose write gets through in the log line reports it, and the sub-device
is gone. -/
theorem clean_keeps_lock :
    let memory : HubMemory := {
      hublist := none
      unauthCount := 0
      locked := false }
    let listed : HubMemory := {
      hublist := some (.array [.object [("sn".toList, .string "A1".toList)]])
      unauthCount := 1
      locked := false }
    (¬ HubOperation.clean.Atomic 16 (writeFails .failed) memory ∧
      (HubOperation.clean.run 16 1 (writeFails .failed) memory) =
        .error (.errno .storage) memory.lock) ∧
    ¬ (HubOperation.del "A1".toList).Atomic 16 (writeFails .retried) listed ∧
      (HubOperation.del "A1".toList).run 16 0 (writeFails .retried) listed =
        .error (.errno .storage)
          { listed with hublist := some (.array []) } := by
  have hdel : (HubOperation.del "A1".toList).run 16 0 (writeFails .retried)
      { hublist := some (.array [.object [("sn".toList,
          .string "A1".toList)]])
        unauthCount := 1
        locked := false } =
        .error (.errno .storage)
          { hublist := some (.array [])
            unauthCount := 1
            locked := false } := rfl
  refine ⟨⟨?_, rfl⟩, ?_, hdel⟩
  · rintro ⟨calls, hreturns⟩
    have hwrite := ((returnsAtomic_hubCleanDo_iff calls _ _).mp hreturns).2.1
    cases hwrite
  · rintro ⟨calls, hreturns⟩
    have hsame : ReturnsAtomic _ (EStateM.Result.error _ _) :=
      hdel ▸ hreturns
    cases hsame.2.2.1

end HubOperation

/-! ## Lists that can be read -/

/-- Every item of the list can be read as a sub-device. -/
def Readable (root : BscJson) : Prop :=
  ∀ item ∈ items root, jsonToSubdev item ≠ none

theorem hasSn_of_readable
    {item : BscJson} (hitem : jsonToSubdev item ≠ none)
    (sn : Option CString) : hasSn sn item ≠ none := by
  unfold hasSn
  cases hmember : item.getObjectItem "sn".toList with
  | none => simp
  | some member =>
      cases sn with
      | none => simp
      | some sn =>
          intro hnull
          apply hitem
          have hstring : member.valuestring = none := by simpa using hnull
          have hread : getString 17 (by decide) "sn".toList item = none := by
            unfold getString
            rw [hmember]
            simp [hstring]
          unfold jsonToSubdev
          rw [hread]
          cases getString 33 (by decide) "type".toList item <;> rfl

theorem findDevBySn_of_readable
    {list : List BscJson} (hlist : ∀ item ∈ list, jsonToSubdev item ≠ none)
    (sn : Option CString) : findDevBySn sn list ≠ none := by
  induction list with
  | nil => simp [findDevBySn]
  | cons item rest ih =>
      obtain ⟨hitem, hrest⟩ := List.forall_mem_cons.mp hlist
      obtain ⟨found, hfound⟩ :=
        Option.ne_none_iff_exists'.mp (hasSn_of_readable hitem sn)
      obtain ⟨index, hindex⟩ := Option.ne_none_iff_exists'.mp (ih hrest)
      cases found <;> simp [findDevBySn, hfound, hindex]

@[simp] theorem items_array (list : List BscJson) :
    items (.array list) = list := by
  simp [items]

@[simp] theorem items_object (members : List (CString × BscJson)) :
    items (.object members) = members.map Prod.snd := by
  simp [items]

theorem items_deleteItemFromArray_subset (index : ℕ) (root : BscJson) :
    items (deleteItemFromArray index root) ⊆ items root := by
  intro item hitem
  cases root with
  | array list =>
      rw [deleteItemFromArray, items_array] at hitem
      rw [items_array]
      exact List.mem_of_mem_eraseIdx hitem
  | object members =>
      rw [deleteItemFromArray, items_object] at hitem
      rw [items_object]
      obtain ⟨member, hmember, rfl⟩ := List.mem_map.mp hitem
      exact List.mem_map_of_mem (List.mem_of_mem_eraseIdx hmember)
  | null | bool value | number value | string value => exact hitem

section Readable

variable {hublist : Option BscJson}

theorem searchDefined_of_readable
    (hlist : ∀ root, hublist = some root → Readable root)
    (faults : LoadFaults) (sn : CString) :
    SearchDefined faults sn hublist := by
  intro root hloads
  exact findDevBySn_of_readable (hlist root (loads_eq_some hloads)) (some sn)

theorem readable_of_listed
    (hlist : ∀ root, hublist = some root → Readable root)
    {faults : LoadFaults} {sn : CString} {listed : BscJson × ℕ × BscJson}
    (hlisted : Listed faults sn hublist listed) :
    Readable listed.1 ∧ jsonToSubdev listed.2.2 ≠ none := by
  have hreadable := hlist listed.1 (loads_eq_some hlisted.1)
  exact ⟨hreadable, hreadable listed.2.2 (List.mem_of_getElem? hlisted.2.2)⟩

theorem nextSubdev_of_readable
    {root : BscJson} (hroot : Readable root) (sn : CString) :
    nextSubdev sn root ≠ none := by
  have hindex : nextIndex sn root ≠ none := by
    have hsearch := findDevBySn_of_readable hroot
    unfold nextIndex
    split
    · exact hsearch none
    · simpa using hsearch (some sn)
  obtain ⟨found, hfound⟩ := Option.ne_none_iff_exists'.mp hindex
  unfold nextSubdev
  rw [hfound]
  cases found with
  | none => exact Option.some_ne_none none
  | some index =>
      change (if sn ≠ [] ∧ root.getArraySize ≤ index then some none
        else
          match root.getArrayItem index with
          | none => some none
          | some item => (jsonToSubdev item.2).map some) ≠ none
      split_ifs
      · exact Option.some_ne_none none
      · cases hitem : root.getArrayItem index with
        | none => exact Option.some_ne_none none
        | some item =>
            have hmem : item.2 ∈ items root :=
              List.mem_map_of_mem (List.mem_of_getElem? hitem)
            simpa using hroot item.2 hmem

/-- On a list that can be read an add, a delete, a query and a next are sound
whatever fails, if no write gets through in the log line of its failure. -/
theorem sound_of_readable
    (hlist : ∀ root, hublist = some root → Readable root)
    (sublistMax : ℕ) {faults : HubFaults} (hretried : ¬ Retried faults)
    {operation : HubOperation}
    (hoperation : ∀ sn, operation ≠ .clean ∧
      (∀ ver, operation ≠ .verUpdate sn ver) ∧
        ∀ online, operation ≠ .statusUpdate sn online) :
    operation.Sound sublistMax faults hublist := by
  cases operation with
  | add subdev =>
      refine ⟨searchDefined_of_readable hlist _ _, ?_⟩
      exact fun hwrite => absurd hwrite hretried
  | del sn =>
      refine ⟨searchDefined_of_readable hlist _ _, fun listed hlisted => ?_⟩
      obtain ⟨hroot, hitem⟩ := readable_of_listed hlist hlisted
      refine ⟨hitem, fun _ _ root hloads item hmem => ?_,
        fun hwrite => absurd hwrite hretried⟩
      rw [← Option.some.inj (loads_eq_some hloads)] at hmem
      exact hroot item (items_deleteItemFromArray_subset _ _ hmem)
  | query sn =>
      refine ⟨searchDefined_of_readable hlist _ _, fun listed hlisted => ?_⟩
      exact (readable_of_listed hlist hlisted).2
  | next sn =>
      intro root hloads
      exact nextSubdev_of_readable (hlist root (loads_eq_some hloads)) sn
  | clean => exact absurd rfl (hoperation []).1
  | verUpdate sn ver => exact absurd rfl ((hoperation sn).2.1 ver)
  | statusUpdate sn online => exact absurd rfl ((hoperation sn).2.2 online)

end Readable

end HubMemory
end EziotSdk

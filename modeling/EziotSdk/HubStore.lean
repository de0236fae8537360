import EziotSdk.FirstMatch
import EziotSdk.TslAdapter

/-!
# The hub's sub-devices

`hub_func.c`: the list of sub-devices that is read from storage and written
back by every operation, the counter of those that are not authenticated yet,
and the registrations with the TSL component.  An operation succeeds or fails
when it writes the list, and a write that fails is tried once more by the log
line of `CHECK_COND_DONE`.
-/

namespace EziotSdk

open FirstMatch

/-! ## Data -/

/-- `hub_subdev_info_internal_t`. -/
structure HubSubdev where
  authm : ℤ
  type : CString.Buffer 33
  sn : CString.Buffer 17
  vcode : CString.Buffer 33
  ver : CString.Buffer 33
  uuid : CString.Buffer 17
  sta : Bool
  access : Bool
  deriving DecidableEq, Repr

/-- A sub-device in the stored list; an update writes a version of any
length. -/
structure HubEntry where
  authm : ℤ
  type : CString.Buffer 33
  sn : CString.Buffer 17
  vcode : CString.Buffer 33
  ver : CString
  uuid : CString.Buffer 17
  sta : Bool
  access : Bool
  deriving DecidableEq, Repr

inductive HubErr where
  | succ
  | storage
  | subdevExisted
  | subdevNotFound
  | outOfRange
  deriving DecidableEq, Repr

/-- What becomes of a write of the list. -/
inductive HubWrite where
  | stored
  /-- `ez_kv_raw_set` fails, and succeeds in the log line. -/
  | retried
  | failed
  deriving DecidableEq, Repr

structure HubState where
  hublist : List HubEntry
  /-- `g_unauth_count`. -/
  unauthCount : ℤ
  /-- The sub-devices in the device list of the TSL component. -/
  registered : List TslDevinfo
  /-- `g_hlock` was left locked. -/
  locked : Bool
  deriving DecidableEq, Repr

def subdevToJson (subdev : HubSubdev) : HubEntry where
  authm := subdev.authm
  type := subdev.type
  sn := subdev.sn
  vcode := subdev.vcode
  ver := subdev.ver.1
  uuid := subdev.uuid
  sta := subdev.sta
  access := subdev.access

def jsonToSubdev (entry : HubEntry) : HubSubdev where
  authm := entry.authm
  type := entry.type
  sn := entry.sn
  vcode := entry.vcode
  ver := ⟨CString.strncpy entry.ver 32, by
    rw [CString.strncpy_length]
    omega⟩
  uuid := entry.uuid
  sta := entry.sta
  access := entry.access

def HubSubdev.devinfo (subdev : HubSubdev) : TslDevinfo where
  devSubserial := subdev.sn.1
  devType := subdev.type.1
  devFirmwareversion := subdev.ver.1

/-! ## The TSL component -/

/-- `ez_iot_tsl_reg`: a serial number that is listed stays as it is. -/
def tslReg (devInfo : TslDevinfo) (registered : List TslDevinfo) :
    List TslDevinfo :=
  if registered.any (fun listed => listed.devSubserial = devInfo.devSubserial)
  then registered
  else registered ++ [devInfo.recorded]

/-- `ez_iot_tsl_unreg`. -/
def tslUnreg (devInfo : TslDevinfo) (registered : List TslDevinfo) :
    List TslDevinfo :=
  registered.eraseP fun listed => listed.devSubserial = devInfo.devSubserial

/-! ## Enumeration -/

def hasSubdevSn (sn : CString) (entry : HubEntry) : Bool := entry.sn.1 = sn

/-- `hub_subdev_next`; the empty serial number asks for the first entry. -/
def hubSubdevNext (hublist : List HubEntry) (sn : CString) :
    Option HubEntry :=
  if sn = [] then hublist.head?
  else
    match hublist.findIdx? (hasSubdevSn sn) with
    | none => none
    | some index => hublist[index + 1]?

/-- The loop over `hub_subdev_next`, up to a number of calls. -/
def enumSubdevs (hublist : List HubEntry) :
    ℕ → CString → Option (List HubEntry)
  | 0, _ => none
  | calls + 1, sn =>
      match hubSubdevNext hublist sn with
      | none => some []
      | some entry =>
          (enumSubdevs hublist calls entry.sn.1).map fun rest => entry :: rest

/-- The whole enumeration; `none` when it does not end. -/
def HubState.enumerated (state : HubState) : Option (List HubEntry) :=
  enumSubdevs state.hublist (state.hublist.length + 1) []

theorem hubSubdevNext_split {hublist before after : List HubEntry}
    {entry : HubEntry}
    (hdistinct : (hublist.map fun entry => entry.sn.1).Nodup)
    (hsplit : hublist = before ++ entry :: after)
    (hsn : entry.sn.1 ≠ []) :
    hubSubdevNext hublist entry.sn.1 = after.head? := by
  have hbefore : before.findIdx? (hasSubdevSn entry.sn.1) = none := by
    rw [List.findIdx?_eq_none_iff]
    intro other hother
    rw [hsplit, List.map_append, List.nodup_append] at hdistinct
    have hne := hdistinct.2.2 other.sn.1 (List.mem_map_of_mem hother)
      entry.sn.1 (List.mem_map_of_mem List.mem_cons_self)
    simpa [hasSubdevSn] using hne
  have hindex : hublist.findIdx? (hasSubdevSn entry.sn.1) =
      some before.length := by
    rw [hsplit, List.findIdx?_append, hbefore]
    simp [hasSubdevSn, List.findIdx?_cons]
  unfold hubSubdevNext
  rw [if_neg hsn, hindex, hsplit]
  dsimp only
  rw [List.getElem?_append_right (Nat.le_succ _)]
  simp [List.head?_eq_getElem?]

theorem enumSubdevs_first (first : HubEntry) (rest : List HubEntry)
    (calls : ℕ) :
    enumSubdevs (first :: rest) (calls + 1) [] =
      (enumSubdevs (first :: rest) calls first.sn.1).map
        fun visited => first :: visited := rfl

/-- An empty serial number further on starts the enumeration again. -/
theorem enumSubdevs_empty {hublist : List HubEntry}
    (hdistinct : (hublist.map fun entry => entry.sn.1).Nodup) (calls : ℕ)
    {before after : List HubEntry} {entry : HubEntry}
    (hsplit : hublist = before ++ entry :: after)
    (hempty : ∃ later ∈ entry :: after, later.sn.1 = []) :
    enumSubdevs hublist calls entry.sn.1 = none ∧
      enumSubdevs hublist calls [] = none := by
  induction calls generalizing before entry after with
  | zero => exact ⟨rfl, rfl⟩
  | succ calls ih =>
      have hfirst : enumSubdevs hublist (calls + 1) [] = none := by
        cases hublist with
        | nil => simp at hsplit
        | cons first rest =>
            have hagain : ∃ later ∈ first :: rest, later.sn.1 = [] := by
              rcases hempty with ⟨later, hlater, hsn⟩
              refine ⟨later, ?_, hsn⟩
              rw [hsplit]
              exact List.mem_append_right before hlater
            have hnil : first :: rest = [] ++ first :: rest := rfl
            have hrest := (ih hnil hagain).1
            rw [enumSubdevs_first, hrest]
            rfl
      refine ⟨?_, hfirst⟩
      by_cases hsn : entry.sn.1 = []
      · rw [hsn]
        exact hfirst
      · have hnext := hubSubdevNext_split hdistinct hsplit hsn
        cases after with
        | nil =>
            rcases hempty with ⟨later, hlater, hlaterSn⟩
            rw [List.mem_singleton.mp hlater] at hlaterSn
            exact absurd hlaterSn hsn
        | cons second rest =>
            have hagain : ∃ later ∈ second :: rest, later.sn.1 = [] := by
              rcases hempty with ⟨later, hlater, hlaterSn⟩
              rcases List.mem_cons.mp hlater with rfl | hrest
              · exact absurd hlaterSn hsn
              · exact ⟨later, hrest, hlaterSn⟩
            have hsplit' : hublist = (before ++ [entry]) ++ second :: rest := by
              rw [hsplit, List.append_assoc]
              rfl
            have hrest := (ih hsplit' hagain).1
            simp [enumSubdevs, hnext, hrest]

theorem enumSubdevs_split {hublist : List HubEntry}
    (hdistinct : (hublist.map fun entry => entry.sn.1).Nodup)
    {before after : List HubEntry} {entry : HubEntry} {calls : ℕ}
    (hsplit : hublist = before ++ entry :: after)
    (hnonempty : ∀ later ∈ entry :: after, later.sn.1 ≠ [])
    (hcalls : after.length < calls) :
    enumSubdevs hublist calls entry.sn.1 = some after := by
  induction after generalizing before entry calls with
  | nil =>
      cases calls with
      | zero => omega
      | succ calls =>
          have hnext := hubSubdevNext_split hdistinct hsplit
            (hnonempty entry List.mem_cons_self)
          simp [enumSubdevs, hnext]
  | cons second rest ih =>
      cases calls with
      | zero => omega
      | succ calls =>
          have hnext := hubSubdevNext_split hdistinct hsplit
            (hnonempty entry List.mem_cons_self)
          have hsplit' : hublist = (before ++ [entry]) ++ second :: rest := by
            rw [hsplit, List.append_assoc]
            rfl
          have hrest := ih hsplit'
            (fun later hlater => hnonempty later
              (List.mem_cons_of_mem entry hlater))
            (by simpa using hcalls)
          simp [enumSubdevs, hnext, hrest]

/-- The enumeration visits the list once, unless a serial number is empty. -/
theorem HubState.enumerated_eq {state : HubState}
    (hdistinct : (state.hublist.map fun entry => entry.sn.1).Nodup) :
    state.enumerated =
      if state.hublist.any (hasSubdevSn []) then none
      else some state.hublist := by
  unfold HubState.enumerated
  cases hlist : state.hublist with
  | nil => rfl
  | cons first rest =>
      rw [hlist] at hdistinct
      have hnil : first :: rest = [] ++ first :: rest := rfl
      split_ifs with hempty
      · have hlater : ∃ later ∈ first :: rest, later.sn.1 = [] := by
          simpa [hasSubdevSn] using hempty
        exact (enumSubdevs_empty hdistinct _ hnil hlater).2
      · have hnonempty : ∀ later ∈ first :: rest, later.sn.1 ≠ [] := by
          simpa [hasSubdevSn] using hempty
        have hrest := enumSubdevs_split hdistinct hnil hnonempty
          (Nat.lt_succ_self rest.length)
        rw [List.length_cons, enumSubdevs_first, hrest]
        rfl

/-! ## The operations -/

namespace HubState

def init : HubState where
  hublist := []
  unauthCount := 0
  registered := []
  locked := false

/-- The end of an operation: its write, and what follows a success. -/
def writeHublist (write : HubWrite) (hublist : List HubEntry)
    (follow : HubState → HubState) (state : HubState) : HubErr × HubState :=
  match write with
  | .stored => (.succ, follow { state with hublist := hublist })
  | .retried => (.storage, { state with hublist := hublist })
  | .failed => (.storage, state)

theorem writeHublist_keeps {Kept : HubState → Prop} {state : HubState}
    {hublist : List HubEntry} {follow : HubState → HubState}
    (hstate : Kept state) (hwritten : Kept { state with hublist := hublist })
    (hfollow : Kept (follow { state with hublist := hublist }))
    (write : HubWrite) : Kept (state.writeHublist write hublist follow).2 := by
  cases write with
  | stored => exact hfollow
  | retried => exact hwritten
  | failed => exact hstate

/-- `ez_iot_hub_add`, for a list of at most `sublistMax` sub-devices. -/
def hubAddDo (sublistMax : ℕ) (subdev : HubSubdev) (write : HubWrite)
    (state : HubState) : HubErr × HubState :=
  if state.hublist.any (hasSubdevSn subdev.sn.1) then (.subdevExisted, state)
  else if sublistMax ≤ state.hublist.length then (.outOfRange, state)
  else
    state.writeHublist write
      (state.hublist ++ [subdevToJson { subdev with access := false }])
      fun state => { state with unauthCount := state.unauthCount + 1 }

def hubDelDo (sn : CString) (write : HubWrite) (state : HubState) :
    HubErr × HubState :=
  match state.hublist.find? (hasSubdevSn sn) with
  | none => (.subdevNotFound, state)
  | some entry =>
      state.writeHublist write (state.hublist.eraseP (hasSubdevSn sn))
        fun state =>
          if !entry.access then
            { state with unauthCount := state.unauthCount - 1 }
          else
            { state with
              registered := tslUnreg (jsonToSubdev entry).devinfo
                state.registered }

/-- The registration is renewed whether or not there was one. -/
def hubVerUpdateDo (sn ver : CString) (write : HubWrite) (state : HubState) :
    HubErr × HubState :=
  match state.hublist.find? (hasSubdevSn sn) with
  | none => (.subdevNotFound, state)
  | some entry =>
      state.writeHublist write
        (updateFirst (hasSubdevSn sn) (fun entry => { entry with ver := ver })
          state.hublist)
        fun state =>
          { state with
            registered :=
              tslReg (jsonToSubdev { entry with ver := ver }).devinfo
                (tslUnreg (jsonToSubdev entry).devinfo state.registered) }

def hubStatusUpdateDo (sn : CString) (online : Bool) (write : HubWrite)
    (state : HubState) : HubErr × HubState :=
  match state.hublist.find? (hasSubdevSn sn) with
  | none => (.subdevNotFound, state)
  | some _ =>
      state.writeHublist write
        (updateFirst (hasSubdevSn sn)
          (fun entry => { entry with sta := online }) state.hublist) id

/-- The counter is not looked at. -/
def hubSubdevAuthPassed (sn : CString) (write : HubWrite)
    (state : HubState) : HubErr × HubState :=
  match state.hublist.find? (hasSubdevSn sn) with
  | none => (.subdevNotFound, state)
  | some entry =>
      state.writeHublist write
        (updateFirst (hasSubdevSn sn)
          (fun entry => { entry with access := true }) state.hublist)
        fun state =>
          { state with
            registered := tslReg (jsonToSubdev entry).devinfo
              state.registered }

def hubSubdevAuthFailure (sn : CString) (write : HubWrite)
    (state : HubState) : HubErr × HubState :=
  state.hubDelDo sn write

/-- `hub_tsl_unreg_all`, over the enumerated entries. -/
def hubTslUnregAll (visited : List HubEntry) (registered : List TslDevinfo) :
    List TslDevinfo :=
  (visited.filter fun entry => entry.access).foldl
    (fun registered entry =>
      tslUnreg (jsonToSubdev entry).devinfo registered) registered

/-- A failed write leaves before the unlock. -/
def hubCleanDo (visited : List HubEntry) (write : HubWrite)
    (state : HubState) : HubErr × HubState :=
  let unregistered := { state with
    registered := hubTslUnregAll visited state.registered }
  match write with
  | .stored => (.succ, { unregistered with hublist := [] })
  | .retried => (.storage, { unregistered with hublist := [], locked := true })
  | .failed => (.storage, { unregistered with locked := true })

/-- `hub_tsl_reg_all`. -/
def hubTslRegAll (visited : List HubEntry) (state : HubState) : HubState :=
  { state with
    unauthCount := visited.countP fun entry => !entry.access
    registered := (visited.filter fun entry => entry.access).foldl
      (fun registered entry =>
        tslReg (jsonToSubdev entry).devinfo registered) state.registered }

/-- The process starts anew, on the list that is stored. -/
def restarted (state : HubState) : HubState :=
  { state with registered := [], unauthCount := 0, locked := false }

end HubState

/-- An operation, and what becomes of its write. -/
inductive HubEvent where
  | add (subdev : HubSubdev) (write : HubWrite)
  | del (sn : CString) (write : HubWrite)
  | verUpdate (sn ver : CString) (write : HubWrite)
  | statusUpdate (sn : CString) (online : Bool) (write : HubWrite)
  | authPassed (sn : CString) (write : HubWrite)
  | authFailure (sn : CString) (write : HubWrite)
  | clean (write : HubWrite)
  | startUp
  deriving DecidableEq, Repr

namespace HubState

/-- `none` for an operation that does not return. -/
def step (sublistMax : ℕ) (state : HubState) : HubEvent → Option HubState
  | .startUp => state.enumerated.map fun visited =>
      state.restarted.hubTslRegAll visited
  | .clean write =>
      if state.locked then none
      else state.enumerated.map fun visited =>
        (state.hubCleanDo visited write).2
  | .add subdev write =>
      if state.locked then none
      else some (state.hubAddDo sublistMax subdev write).2
  | .del sn write =>
      if state.locked then none else some (state.hubDelDo sn write).2
  | .verUpdate sn ver write =>
      if state.locked then none
      else some (state.hubVerUpdateDo sn ver write).2
  | .statusUpdate sn online write =>
      if state.locked then none
      else some (state.hubStatusUpdateDo sn online write).2
  | .authPassed sn write =>
      if state.locked then none
      else some (state.hubSubdevAuthPassed sn write).2
  | .authFailure sn write =>
      if state.locked then none
      else some (state.hubSubdevAuthFailure sn write).2

/-- An operation that locks gets the lock only if nobody left with it. -/
theorem unlocked_eq_some {locked : Bool} {result : Option HubState}
    {next : HubState} (hstep : (if locked then none else result) = some next) :
    locked = false ∧ result = some next := by
  cases locked with
  | true => simp at hstep
  | false => exact ⟨rfl, hstep⟩

end HubState

end EziotSdk

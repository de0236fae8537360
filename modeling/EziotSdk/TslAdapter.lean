import EziotSdk.FirstMatch
import EziotSdk.TslLegality
import EziotSdk.TslStore

/-!
# The profile adapter

The calls of `ez_iot_tsl_adapter.c` over its device list, its capacities with
their reference counts and the stored profiles, and the passes of the thread
that downloads profiles.  The thread works on a copy of a device, so calls may
come between its passes.
-/

namespace EziotSdk

open FirstMatch

/-! ## Data -/

/-- `ez_iot_download_info_t`. -/
structure DownloadInfo where
  devSn : CString
  url : CString
  md5 : CString
  expire : ℤ
  deriving DecidableEq, Repr

/-- `dev_info_t`; `timer` says whether there is one. -/
structure AdapterDev extends TslDevInfo where
  timer : Bool
  downloadInfo : Option DownloadInfo
  deriving DecidableEq, Repr

/-- `ez_iot_tsl_capacity_t` with its reference count. -/
structure RefCapacity where
  capacity : TslCapacity
  ref : ℤ

/-- The arguments of `ez_iot_tsl_adapter_profile_url`. -/
structure ProfileUrl where
  devSn : CString
  url : CString
  md5 : CString
  expire : ℤ
  deriving DecidableEq, Repr

/-- A capacity that was installed: its type and version, and the stored
profile that it was parsed from. -/
structure Install where
  devType : CString
  devFwVer : CString
  profile : SavedProfile
  deriving DecidableEq, Repr

/-- The digest, and the parser of JSON texts. -/
structure AdapterLib where
  md5 : TslDigest
  parse : CString → Option BscJson

/-- `copy` is the device the download thread works on. -/
structure AdapterState where
  devices : List AdapterDev
  capacities : List RefCapacity
  store : TslStore
  copy : Option AdapterDev
  installs : List Install

/-- A device as the list records it. -/
def TslDevinfo.recorded (devInfo : TslDevinfo) : TslDevinfo where
  devSubserial := CString.strncpy devInfo.devSubserial 47
  devType := CString.strncpy devInfo.devType 23
  devFirmwareversion := CString.strncpy devInfo.devFirmwareversion 35

/-- The device of the list as the thread passes it on. -/
def TslDevInfo.devinfo (dev : TslDevInfo) : TslDevinfo where
  devSubserial := dev.devSn
  devType := dev.devType
  devFirmwareversion := dev.devFwVer

/-! ## The device list -/

def hasSn (sn : CString) (dev : AdapterDev) : Bool := dev.devSn = sn

def devListed (devices : List AdapterDev) (sn : CString) : Bool :=
  (tslAdapterDevFind (devices.map AdapterDev.toTslDevInfo) sn).isSome

def tslAdapterDevAdd (devInfo : TslDevinfo) (needGet : Bool)
    (devices : List AdapterDev) : List AdapterDev :=
  devices ++ [{
    devSn := devInfo.recorded.devSubserial
    devType := devInfo.recorded.devType
    devFwVer := devInfo.recorded.devFirmwareversion
    status := if needGet then .needUpdate else .done
    timer := false
    downloadInfo := none }]

def AdapterDev.updated (status : DevStatus) (dev : AdapterDev) : AdapterDev :=
  match status with
  | .done => { dev with timer := false, downloadInfo := none, status := .done }
  -- only the countdown of the timer starts again
  | .needUpdate => dev
  | .query => { dev with timer := true, status := .query }
  | .loading => { dev with status := .loading }

def tslAdapterDevUpdate (sn : CString) (status : DevStatus)
    (devices : List AdapterDev) : List AdapterDev :=
  updateFirst (hasSn sn) (AdapterDev.updated status) devices

def tslAdapterDevDel (sn : CString) (devices : List AdapterDev) :
    List AdapterDev :=
  devices.eraseP (hasSn sn)

def ProfileUrl.downloadInfo (answer : ProfileUrl) : DownloadInfo where
  devSn := CString.strncpy answer.devSn 47
  url := CString.strncpy ("http://".toList ++ answer.url) 258
  md5 := CString.strncpy answer.md5 32
  expire := answer.expire

/-- The device that a profile url is for. -/
def ProfileUrl.awaitedBy (answer : ProfileUrl) (dev : AdapterDev) : Bool :=
  dev.devSn = answer.devSn ∧ dev.status ≠ .done

/-- The first half of `ez_iot_tsl_adapter_profile_url`, under the lock. -/
def recordProfileUrl (answer : ProfileUrl) (devices : List AdapterDev) :
    List AdapterDev :=
  updateFirst answer.awaitedBy
    (fun dev => { dev with downloadInfo := some answer.downloadInfo }) devices

/-- The serial number that the second half updates; it stays empty when no
device waits for the url. -/
def urlSerial (answer : ProfileUrl) (devices : List AdapterDev) : CString :=
  match devices.find? answer.awaitedBy with
  | none => []
  | some dev => CString.strncpy dev.devSn 47

/-! ## Capacities -/

def RefCapacity.labelled (devInfo : TslDevinfo) (entry : RefCapacity) : Bool :=
  devInfo.devType = entry.capacity.devType ∧
    devInfo.devFirmwareversion = entry.capacity.devFwVer

/-- The guard asks for a list that is NULL. -/
def tslAdapterRefAdd (devInfo : TslDevinfo)
    (capacities : Option (List RefCapacity)) :
    Bool × Option (List RefCapacity) :=
  match capacities with
  | some _ => (false, capacities)
  | none =>
      if (capacities.getD []).any (RefCapacity.labelled devInfo) then
        (true, capacities.map (updateFirst (RefCapacity.labelled devInfo)
          fun entry => { entry with ref := entry.ref + 1 }))
      else (false, capacities)

def tslAdapterRefDel (devInfo : TslDevinfo) (capacities : List RefCapacity) :
    List RefCapacity :=
  match capacities.find? (RefCapacity.labelled devInfo) with
  | none => capacities
  | some entry =>
      if entry.ref - 1 ≤ 0 then
        capacities.eraseP (RefCapacity.labelled devInfo)
      else
        updateFirst (RefCapacity.labelled devInfo)
          (fun entry => { entry with ref := entry.ref - 1 }) capacities

/-- `tsl_adapter_profile_load` up to the capacity that it adds. -/
def tslAdapterProfileLoad (parse : CString → Option BscJson)
    (devInfo : TslDevinfo) (store : TslStore) :
    Option (TslCapacity × SavedProfile) :=
  match findDevBySn devInfo.devSubserial store.entries with
  | none => none
  | some metadata =>
      match store.profiles metadata.handle with
      | none => none
      | some saved =>
          match profileParse (parse saved.text) with
          | .error _ => none
          | .ok capacity =>
              some ({ capacity with
                devType := devInfo.recorded.devType
                devFwVer := devInfo.recorded.devFirmwareversion }, saved)

/-! ## The calls -/

namespace AdapterState

def init : AdapterState where
  devices := []
  capacities := []
  store := TslStore.empty
  copy := none
  installs := []

/-- `tsl_adapter_capacity_add` of a parsed profile. -/
def install (loaded : TslCapacity × SavedProfile) (state : AdapterState) :
    AdapterState :=
  { state with
    capacities := state.capacities ++ [⟨loaded.1, 1⟩]
    installs := state.installs ++
      [⟨loaded.1.devType, loaded.1.devFwVer, loaded.2⟩] }

/-- `tsl_adapter_dev_add` with the map it saves. -/
def devAdd (lib : AdapterLib) (devInfo : TslDevinfo) (needGet : Bool)
    (state : AdapterState) : AdapterState :=
  { state with
    devices := tslAdapterDevAdd devInfo needGet state.devices
    store := state.store.profileSave lib.md5 devInfo none }

def ezIotTslAdapterAdd (lib : AdapterLib) (devInfo : TslDevinfo)
    (state : AdapterState) : AdapterState :=
  if devListed state.devices devInfo.devSubserial then state
  else
    let found := tslAdapterRefAdd devInfo (some state.capacities)
    if found.1 then
      { state with capacities := found.2.getD [] }.devAdd lib devInfo false
    else
      match tslAdapterProfileLoad lib.parse devInfo state.store with
      | some loaded => (state.install loaded).devAdd lib devInfo false
      | none => state.devAdd lib devInfo true

def ezIotTslAdapterDel (devInfo : TslDevinfo) (state : AdapterState) :
    AdapterState :=
  if !devListed state.devices devInfo.devSubserial then state
  else
    { state with
      capacities := tslAdapterRefDel devInfo state.capacities
      devices := tslAdapterDevDel devInfo.devSubserial state.devices }

def ezIotTslAdapterProfileUrl (answer : ProfileUrl) (state : AdapterState) :
    AdapterState :=
  { state with
    devices := tslAdapterDevUpdate (urlSerial answer state.devices) .loading
      (recordProfileUrl answer state.devices) }

/-- The thread has the profile of its device: it saves and loads it and
reports the device done. -/
def threadDownloaded (lib : AdapterLib) (dev : AdapterDev) (text : CString)
    (state : AdapterState) : AdapterState :=
  let saved := { state with
    copy := none
    store := state.store.profileSave lib.md5 dev.devinfo (some text) }
  match tslAdapterProfileLoad lib.parse dev.devinfo saved.store with
  | none => saved
  | some loaded =>
      { saved.install loaded with
        devices := tslAdapterDevUpdate dev.devSn .done saved.devices }

def threadQueried (dev : AdapterDev) (sent : Bool) (state : AdapterState) :
    AdapterState :=
  { state with
    copy := none
    devices := tslAdapterDevUpdate dev.devSn
      (if sent then .query else .needUpdate) state.devices }

/-- The device that the thread takes next. -/
def unfinished (devices : List AdapterDev) : Option AdapterDev :=
  devices.find? fun dev => dev.status ≠ .done

end AdapterState

/-- A call, or a pass of the thread: it picks a device, and then has its
profile, asks for the url, or gives up and waits. -/
inductive AdapterEvent where
  | add (devInfo : TslDevinfo)
  | del (devInfo : TslDevinfo)
  | profileDel (devSubserial : CString)
  | profileUrl (answer : ProfileUrl)
  | pick
  | downloaded (text : CString)
  | queried (sent : Bool)
  | dropped
  | restart
  deriving DecidableEq, Repr

namespace AdapterState

def step (lib : AdapterLib) (state : AdapterState) :
    AdapterEvent → Option AdapterState
  | .add devInfo => some (state.ezIotTslAdapterAdd lib devInfo)
  | .del devInfo => some (state.ezIotTslAdapterDel devInfo)
  | .profileDel devSubserial =>
      some { state with store := state.store.profileDel devSubserial }
  | .profileUrl answer => some (state.ezIotTslAdapterProfileUrl answer)
  | .pick =>
      match state.copy with
      | some _ => none
      | none => some { state with copy := unfinished state.devices }
  | .downloaded text =>
      match state.copy with
      | none => none
      | some dev =>
          if dev.status = .loading then
            some (state.threadDownloaded lib dev text)
          else none
  | .queried sent =>
      match state.copy with
      | none => none
      | some dev =>
          if dev.status = .loading then none
          else some (state.threadQueried dev sent)
  | .dropped =>
      match state.copy with
      | none => none
      | some _ => some { state with copy := none }
  | .restart =>
      some { state with devices := [], capacities := [], copy := none }

/-! ## Inversions -/

theorem devListed_eq (devices : List AdapterDev) (sn : CString) :
    devListed devices sn = (devices.find? (hasSn sn)).isSome := by
  have hfold : ∀ found : Option TslDevInfo,
      ((devices.map AdapterDev.toTslDevInfo).foldl
        (fun found dev => if dev.devSn = sn then some dev else found)
          found).isSome =
        (found.isSome || (devices.find? (hasSn sn)).isSome) := by
    induction devices with
    | nil => simp
    | cons dev rest ih =>
        intro found
        rw [List.map_cons, List.foldl_cons, ih]
        by_cases hsn : dev.devSn = sn
        · simp [hsn, hasSn, List.find?_cons_of_pos]
        · simp [hsn, hasSn, List.find?_cons_of_neg]
  have hnone := hfold none
  simpa [devListed, tslAdapterDevFind] using hnone

theorem load_label {parse : CString → Option BscJson} {devInfo : TslDevinfo}
    {store : TslStore} {loaded : TslCapacity × SavedProfile}
    (hload : tslAdapterProfileLoad parse devInfo store = some loaded) :
    loaded.1.devType = devInfo.recorded.devType ∧
      loaded.1.devFwVer = devInfo.recorded.devFirmwareversion := by
  unfold tslAdapterProfileLoad at hload
  split at hload
  · cases hload
  · split at hload
    · cases hload
    · split at hload
      · cases hload
      · cases hload
        exact ⟨rfl, rfl⟩

theorem add_cases (lib : AdapterLib) (devInfo : TslDevinfo)
    (state : AdapterState) :
    state.ezIotTslAdapterAdd lib devInfo =
      if devListed state.devices devInfo.devSubserial then state
      else
        match tslAdapterProfileLoad lib.parse devInfo state.store with
        | some loaded => (state.install loaded).devAdd lib devInfo false
        | none => state.devAdd lib devInfo true := by
  unfold ezIotTslAdapterAdd
  simp only [tslAdapterRefAdd, Bool.false_eq_true, if_false]

theorem step_pick_iff {lib : AdapterLib} {state next : AdapterState} :
    step lib state .pick = some next ↔
      state.copy = none ∧
        { state with copy := unfinished state.devices } = next := by
  unfold step
  cases hcopy : state.copy with
  | none => simp
  | some copy => simp

theorem step_downloaded_iff {lib : AdapterLib} {state next : AdapterState}
    {text : CString} :
    step lib state (.downloaded text) = some next ↔
      ∃ copy, state.copy = some copy ∧ copy.status = .loading ∧
        state.threadDownloaded lib copy text = next := by
  unfold step
  cases hcopy : state.copy with
  | none => simp
  | some copy => simp

theorem step_queried_iff {lib : AdapterLib} {state next : AdapterState}
    {sent : Bool} :
    step lib state (.queried sent) = some next ↔
      ∃ copy, state.copy = some copy ∧ copy.status ≠ .loading ∧
        state.threadQueried copy sent = next := by
  unfold step
  cases hcopy : state.copy with
  | none => simp
  | some copy => simp

theorem step_dropped_iff {lib : AdapterLib} {state next : AdapterState} :
    step lib state .dropped = some next ↔
      ∃ copy, state.copy = some copy ∧ { state with copy := none } = next := by
  unfold step
  cases hcopy : state.copy with
  | none => simp
  | some copy => simp

end AdapterState

end EziotSdk

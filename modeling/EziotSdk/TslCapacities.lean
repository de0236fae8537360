import EziotSdk.TslAdapter

/-!
# Reference counts of capacities

When the capacity list holds one capacity for every type and version in use,
with the number of its devices, and none else.  The function that should raise
a count refuses as long as there is a list, so every device loads a capacity of
its own, and the counts are right only as long as no two devices share one.
-/

namespace EziotSdk

open FirstMatch

/-- The device is registered with a loaded profile of this type and version. -/
def AdapterDev.uses (devType devFwVer : CString) (dev : AdapterDev) : Bool :=
  dev.status = .done ∧ dev.devType = devType ∧ dev.devFwVer = devFwVer

def RefCapacity.serves (devType devFwVer : CString) (entry : RefCapacity) :
    Bool :=
  entry.capacity.devType = devType ∧ entry.capacity.devFwVer = devFwVer

namespace AdapterState

/-- At most one capacity for a type and version; it counts the devices that
use it, and goes with the last of them. -/
def Counted (state : AdapterState) : Prop :=
  ∀ devType devFwVer,
    let served := state.capacities.filter
      (RefCapacity.serves devType devFwVer)
    let users := state.devices.countP (AdapterDev.uses devType devFwVer)
    served.length ≤ 1 ∧ (∀ entry ∈ served, entry.ref = users) ∧
      (served = [] ↔ users = 0)

/-- No capacity of this type and version is loaded. -/
def Unserved (devType devFwVer : CString) (state : AdapterState) : Prop :=
  state.capacities.countP (RefCapacity.serves devType devFwVer) = 0

instance (devType devFwVer : CString) (state : AdapterState) :
    Decidable (state.Unserved devType devFwVer) :=
  inferInstanceAs (Decidable (_ = _))

/-- What the first device of a serial number must satisfy, if there is one. -/
def FirstDevice (sn : CString) (condition : AdapterDev → Prop)
    (state : AdapterState) : Prop :=
  ∀ dev, state.devices.find? (hasSn sn) = some dev → condition dev

/-- The first device of the serial number waits for a profile of this type and
version. -/
def Awaits (sn devType devFwVer : CString) (state : AdapterState) : Prop :=
  ∃ dev, state.devices.find? (hasSn sn) = some dev ∧ dev.status ≠ .done ∧
    dev.devType = devType ∧ dev.devFwVer = devFwVer

/-- The calls and passes that keep the counts right: a capacity is installed
only when there is none of its type and version and its device waits for it,
a device that goes is named with the type and version it was recorded with,
and the status of a device with a loaded profile is left alone. -/
def CapacitySound (lib : AdapterLib) (state : AdapterState) :
    AdapterEvent → Prop
  | .add devInfo =>
      devListed state.devices devInfo.devSubserial = false →
        (tslAdapterProfileLoad lib.parse devInfo state.store).isSome = true →
          state.Unserved devInfo.recorded.devType
            devInfo.recorded.devFirmwareversion
  | .del devInfo =>
      state.FirstDevice devInfo.devSubserial fun dev =>
        if dev.status = .done then
          devInfo.devType = dev.devType ∧
            devInfo.devFirmwareversion = dev.devFwVer
        else state.Unserved devInfo.devType devInfo.devFirmwareversion
  | .profileUrl answer =>
      state.FirstDevice (urlSerial answer state.devices) fun dev =>
        dev.status ≠ .done
  | .downloaded text =>
      ∀ copy, state.copy = some copy → copy.status = .loading →
        (tslAdapterProfileLoad lib.parse copy.devinfo
          (state.store.profileSave lib.md5 copy.devinfo
            (some text))).isSome = true →
          state.Unserved copy.devinfo.recorded.devType
              copy.devinfo.recorded.devFirmwareversion ∧
            state.Awaits copy.devSn copy.devinfo.recorded.devType
              copy.devinfo.recorded.devFirmwareversion
  | .queried sent =>
      sent = true → ∀ copy, state.copy = some copy →
        copy.status ≠ .loading →
          state.FirstDevice copy.devSn fun dev => dev.status ≠ .done
  | .pick => True
  | .profileDel _ => True
  | .dropped => True
  | .restart => True

/-! ## Counts -/

/-- Every capacity has the count it was installed with. -/
def SingleRefs (state : AdapterState) : Prop :=
  ∀ entry ∈ state.capacities, entry.ref = 1

/-- As many capacities as devices that use them, and at most one. -/
def Balanced (state : AdapterState) : Prop :=
  ∀ devType devFwVer,
    state.capacities.countP (RefCapacity.serves devType devFwVer) =
        state.devices.countP (AdapterDev.uses devType devFwVer) ∧
      state.devices.countP (AdapterDev.uses devType devFwVer) ≤ 1

theorem counted_iff_balanced {state : AdapterState}
    (hrefs : state.SingleRefs) : state.Counted ↔ state.Balanced := by
  apply forall_congr'
  intro devType
  apply forall_congr'
  intro devFwVer
  have hones : ∀ entry ∈ state.capacities.filter
      (RefCapacity.serves devType devFwVer), entry.ref = 1 := by
    intro entry hentry
    exact hrefs entry (List.mem_of_mem_filter hentry)
  dsimp only
  rw [List.countP_eq_length_filter
    (p := RefCapacity.serves devType devFwVer)]
  generalize state.capacities.filter
    (RefCapacity.serves devType devFwVer) = served at hones ⊢
  generalize state.devices.countP (AdapterDev.uses devType devFwVer) = users
  match served with
  | [] => simp; omega
  | [entry] =>
      have hone := hones entry List.mem_cons_self
      simp [hone]
      omega
  | first :: second :: rest => simp; omega

@[simp] theorem uses_self {dev : AdapterDev} (hdone : dev.status = .done) :
    dev.uses dev.devType dev.devFwVer = true := by
  simp [AdapterDev.uses, hdone]

theorem uses_eq_false_of_ne {dev : AdapterDev} (hdone : dev.status ≠ .done)
    (devType devFwVer : CString) : dev.uses devType devFwVer = false := by
  simp [AdapterDev.uses, hdone]

theorem firstDevice_of_none {state : AdapterState} {sn : CString}
    (hfind : state.devices.find? (hasSn sn) = none)
    (condition : AdapterDev → Prop) : state.FirstDevice sn condition := by
  intro dev hdev
  rw [hfind] at hdev
  cases hdev

theorem firstDevice_iff {state : AdapterState} {sn : CString}
    {dev : AdapterDev} (hfind : state.devices.find? (hasSn sn) = some dev)
    (condition : AdapterDev → Prop) :
    state.FirstDevice sn condition ↔ condition dev := by
  constructor
  · intro hall
    exact hall dev hfind
  · intro hdev found hfound
    rw [← Option.some.inj (hfind.symm.trans hfound)]
    exact hdev

/-! ## Installs -/

/-- A capacity and its first device come together. -/
theorem Balanced.install_iff {state : AdapterState}
    (hbalanced : state.Balanced) (next : AdapterState) (entry : RefCapacity)
    (hcapacities : next.capacities = state.capacities ++ [entry])
    (husers : ∀ devType devFwVer,
      next.devices.countP (AdapterDev.uses devType devFwVer) =
        state.devices.countP (AdapterDev.uses devType devFwVer) +
          (if entry.serves devType devFwVer then 1 else 0)) :
    next.Balanced ↔
      state.Unserved entry.capacity.devType entry.capacity.devFwVer := by
  have hserved : ∀ devType devFwVer,
      next.capacities.countP (RefCapacity.serves devType devFwVer) =
        state.capacities.countP (RefCapacity.serves devType devFwVer) +
          (if entry.serves devType devFwVer then 1 else 0) := by
    intro devType devFwVer
    rw [hcapacities, List.countP_append, List.countP_singleton]
  constructor
  · intro hnext
    have hself : entry.serves entry.capacity.devType
        entry.capacity.devFwVer = true := by simp [RefCapacity.serves]
    have hone := (hnext entry.capacity.devType entry.capacity.devFwVer).2
    have hsame :=
      (hbalanced entry.capacity.devType entry.capacity.devFwVer).1
    rw [husers, if_pos hself] at hone
    unfold Unserved
    omega
  · intro hunserved devType devFwVer
    have hbefore := hbalanced devType devFwVer
    rw [hserved, husers]
    by_cases hserves : entry.serves devType devFwVer = true
    · have hlabel : entry.capacity.devType = devType ∧
          entry.capacity.devFwVer = devFwVer := by
        simpa [RefCapacity.serves] using hserves
      rw [Unserved, hlabel.1, hlabel.2] at hunserved
      simp only [hserves, if_true]
      omega
    · simpa [hserves] using hbefore

/-- A capacity without a device that uses it. -/
theorem Balanced.not_install {state : AdapterState}
    (hbalanced : state.Balanced) (next : AdapterState) (entry : RefCapacity)
    (hcapacities : next.capacities = state.capacities ++ [entry])
    (husers : next.devices.countP (AdapterDev.uses entry.capacity.devType
        entry.capacity.devFwVer) =
      state.devices.countP (AdapterDev.uses entry.capacity.devType
        entry.capacity.devFwVer)) :
    ¬ next.Balanced := by
  intro hnext
  have hself : entry.serves entry.capacity.devType
      entry.capacity.devFwVer = true := by simp [RefCapacity.serves]
  have hbefore :=
    (hbalanced entry.capacity.devType entry.capacity.devFwVer).1
  have hafter := (hnext entry.capacity.devType entry.capacity.devFwVer).1
  rw [hcapacities, List.countP_append, List.countP_singleton, if_pos hself,
    husers] at hafter
  omega

/-- Another status for the first device of a serial number. -/
theorem Balanced.withdraw_iff {state : AdapterState}
    (hbalanced : state.Balanced) (next : AdapterState) (sn : CString)
    (change : AdapterDev → AdapterDev)
    (hcapacities : next.capacities = state.capacities)
    (hdevices : next.devices = updateFirst (hasSn sn) change state.devices)
    (hchange : ∀ dev, (change dev).status ≠ .done) :
    next.Balanced ↔ state.FirstDevice sn fun dev => dev.status ≠ .done := by
  cases hfind : state.devices.find? (hasSn sn) with
  | none =>
      have hfirst := firstDevice_of_none hfind fun dev => dev.status ≠ .done
      have hsame := updateFirst_of_find?_eq_none change hfind
      refine iff_of_true ?_ hfirst
      intro devType devFwVer
      rw [hcapacities, hdevices, hsame]
      exact hbalanced devType devFwVer
  | some dev =>
      have hcount : ∀ devType devFwVer,
          next.devices.countP (AdapterDev.uses devType devFwVer) +
              (if dev.uses devType devFwVer then 1 else 0) =
            state.devices.countP (AdapterDev.uses devType devFwVer) := by
        intro devType devFwVer
        have hupdate := countP_updateFirst change
          (AdapterDev.uses devType devFwVer) hfind
        rw [uses_eq_false_of_ne (hchange dev)] at hupdate
        rw [hdevices]
        simpa using hupdate
      rw [firstDevice_iff hfind]
      constructor
      · intro hnext hdone
        have hbefore := (hbalanced dev.devType dev.devFwVer).1
        have hafter := (hnext dev.devType dev.devFwVer).1
        have hone := hcount dev.devType dev.devFwVer
        rw [uses_self hdone, if_pos rfl] at hone
        rw [hcapacities] at hafter
        omega
      · intro hdone devType devFwVer
        have hsame := hcount devType devFwVer
        rw [uses_eq_false_of_ne hdone] at hsame
        have hbefore := hbalanced devType devFwVer
        rw [hcapacities]
        simp only [Bool.false_eq_true, if_false] at hsame
        omega

/-! ## Unregistrations -/

theorem labelled_eq_serves (devInfo : TslDevinfo) :
    RefCapacity.labelled devInfo =
      RefCapacity.serves devInfo.devType devInfo.devFirmwareversion := by
  funext entry
  simp [RefCapacity.labelled, RefCapacity.serves, eq_comm]

theorem mem_of_mem_refDel {state : AdapterState} (hrefs : state.SingleRefs)
    {devInfo : TslDevinfo} {entry : RefCapacity}
    (hentry : entry ∈ tslAdapterRefDel devInfo state.capacities) :
    entry ∈ state.capacities := by
  unfold tslAdapterRefDel at hentry
  cases hfind : state.capacities.find? (RefCapacity.labelled devInfo) with
  | none => simpa [hfind] using hentry
  | some found =>
      have hone := hrefs found (List.mem_of_find?_eq_some hfind)
      simp only [hfind, hone, sub_self, le_refl, if_true] at hentry
      exact List.mem_of_mem_eraseP hentry

/-- One capacity of the type and version that the caller names goes. -/
theorem countP_refDel {state : AdapterState} (hrefs : state.SingleRefs)
    (devInfo : TslDevinfo) (devType devFwVer : CString) :
    (tslAdapterRefDel devInfo state.capacities).countP
        (RefCapacity.serves devType devFwVer) +
      (if (devInfo.devType = devType ∧ devInfo.devFirmwareversion = devFwVer) ∧
        ¬ state.Unserved devInfo.devType devInfo.devFirmwareversion
        then 1 else 0) =
      state.capacities.countP (RefCapacity.serves devType devFwVer) := by
  unfold tslAdapterRefDel
  rw [labelled_eq_serves]
  cases hfind : state.capacities.find?
      (RefCapacity.serves devInfo.devType devInfo.devFirmwareversion) with
  | none =>
      have hunserved :
          state.Unserved devInfo.devType devInfo.devFirmwareversion := by
        apply List.countP_eq_zero.mpr
        exact List.find?_eq_none.mp hfind
      simp [hunserved]
  | some entry =>
      have hmem := List.mem_of_find?_eq_some hfind
      have hserves := List.find?_some hfind
      have hone := hrefs entry hmem
      have hserved :
          ¬ state.Unserved devInfo.devType devInfo.devFirmwareversion := by
        intro hunserved
        exact List.countP_eq_zero.mp hunserved entry hmem hserves
      have hlabel : entry.capacity.devType = devInfo.devType ∧
          entry.capacity.devFwVer = devInfo.devFirmwareversion := by
        simpa [RefCapacity.serves] using hserves
      have herase := countP_eraseP (RefCapacity.serves devType devFwVer) hfind
      have hsame : (entry.serves devType devFwVer = true) ↔
          devInfo.devType = devType ∧
            devInfo.devFirmwareversion = devFwVer := by
        simp [RefCapacity.serves, hlabel]
      simp only [hsame] at herase
      simp only [hone, sub_self, le_refl, if_true, hserved, not_false_eq_true,
        and_true]
      exact herase

theorem Balanced.del_iff {state : AdapterState} (hbalanced : state.Balanced)
    (hrefs : state.SingleRefs) (devInfo : TslDevinfo) :
    (state.ezIotTslAdapterDel devInfo).Balanced ↔
      state.FirstDevice devInfo.devSubserial fun dev =>
        if dev.status = .done then
          devInfo.devType = dev.devType ∧
            devInfo.devFirmwareversion = dev.devFwVer
        else state.Unserved devInfo.devType devInfo.devFirmwareversion := by
  unfold ezIotTslAdapterDel
  rw [devListed_eq]
  cases hfind : state.devices.find? (hasSn devInfo.devSubserial) with
  | none =>
      have hfirst := firstDevice_of_none hfind
      simp only [Option.isSome_none, Bool.not_false, if_true]
      exact iff_of_true hbalanced (hfirst _)
  | some dev =>
      have husers := fun devType devFwVer =>
        countP_eraseP (AdapterDev.uses devType devFwVer) hfind
      have hcaps := countP_refDel hrefs devInfo
      rw [firstDevice_iff hfind]
      simp only [Option.isSome_some, Bool.not_true, Bool.false_eq_true,
        if_false]
      by_cases hdone : dev.status = .done
      · rw [if_pos hdone]
        have huser := husers dev.devType dev.devFwVer
        have hbefore := hbalanced dev.devType dev.devFwVer
        rw [uses_self hdone, if_pos rfl] at huser
        constructor
        · intro hafter
          by_contra hother
          have hcap := hcaps dev.devType dev.devFwVer
          have hnext := (hafter dev.devType dev.devFwVer).1
          rw [if_neg (fun hboth => hother hboth.1)] at hcap
          dsimp only [tslAdapterDevDel] at hnext
          omega
        · intro hnamed devType devFwVer
          have huser' := husers devType devFwVer
          have hbefore' := hbalanced devType devFwVer
          have hcap := hcaps devType devFwVer
          have hserved :
              ¬ state.Unserved devInfo.devType devInfo.devFirmwareversion := by
            unfold Unserved
            rw [hnamed.1, hnamed.2]
            omega
          have huses : (dev.uses devType devFwVer = true) ↔
              devInfo.devType = devType ∧
                devInfo.devFirmwareversion = devFwVer := by
            simp [AdapterDev.uses, hdone, hnamed]
          simp only [huses] at huser'
          simp only [hserved, not_false_eq_true, and_true] at hcap
          dsimp only [tslAdapterDevDel]
          omega
      · rw [if_neg hdone]
        constructor
        · intro hafter
          by_contra hserved
          have hcap := hcaps devInfo.devType devInfo.devFirmwareversion
          have huser := husers devInfo.devType devInfo.devFirmwareversion
          have hbefore :=
            (hbalanced devInfo.devType devInfo.devFirmwareversion).1
          have hnext := (hafter devInfo.devType devInfo.devFirmwareversion).1
          rw [if_pos ⟨⟨rfl, rfl⟩, hserved⟩] at hcap
          rw [uses_eq_false_of_ne hdone] at huser
          simp only [Bool.false_eq_true, if_false] at huser
          dsimp only [tslAdapterDevDel] at hnext
          omega
        · intro hunserved devType devFwVer
          have hcap := hcaps devType devFwVer
          have huser := husers devType devFwVer
          have hbefore := hbalanced devType devFwVer
          rw [if_neg (fun hboth => hboth.2 hunserved)] at hcap
          rw [uses_eq_false_of_ne hdone] at huser
          simp only [Bool.false_eq_true, if_false] at huser
          dsimp only [tslAdapterDevDel]
          omega

/-! ## The other steps -/

theorem Balanced.of_same {state : AdapterState}
    (hbalanced : state.Balanced) (next : AdapterState)
    (hcapacities : next.capacities = state.capacities)
    (husers : ∀ devType devFwVer,
      next.devices.countP (AdapterDev.uses devType devFwVer) =
        state.devices.countP (AdapterDev.uses devType devFwVer)) :
    next.Balanced := by
  intro devType devFwVer
  rw [hcapacities, husers]
  exact hbalanced devType devFwVer

theorem countP_devAdd (devInfo : TslDevinfo) (needGet : Bool)
    (devices : List AdapterDev) (devType devFwVer : CString) :
    (tslAdapterDevAdd devInfo needGet devices).countP
        (AdapterDev.uses devType devFwVer) =
      devices.countP (AdapterDev.uses devType devFwVer) +
        (if needGet = false ∧ devInfo.recorded.devType = devType ∧
          devInfo.recorded.devFirmwareversion = devFwVer then 1 else 0) := by
  rw [tslAdapterDevAdd, List.countP_append, List.countP_singleton]
  cases needGet <;> simp [AdapterDev.uses]

theorem Balanced.add_iff {state : AdapterState} (hbalanced : state.Balanced)
    (lib : AdapterLib) (devInfo : TslDevinfo) :
    (state.ezIotTslAdapterAdd lib devInfo).Balanced ↔
      state.CapacitySound lib (.add devInfo) := by
  rw [add_cases]
  dsimp only [CapacitySound]
  cases hlisted : devListed state.devices devInfo.devSubserial with
  | true => simp [hbalanced]
  | false =>
      cases hload : tslAdapterProfileLoad lib.parse devInfo state.store with
      | none =>
          have hnext := hbalanced.of_same (state.devAdd lib devInfo true) rfl
            (by
              intro devType devFwVer
              simp [devAdd, countP_devAdd])
          simp [hnext]
      | some loaded =>
          have hlabel := load_label hload
          have hinstall := hbalanced.install_iff
            ((state.install loaded).devAdd lib devInfo false) ⟨loaded.1, 1⟩
            rfl (by
              intro devType devFwVer
              simp [devAdd, install, countP_devAdd, RefCapacity.serves,
                hlabel])
          simp [hinstall, hlabel]

/-- The url itself changes no status. -/
theorem Balanced.profileUrl_iff {state : AdapterState}
    (hbalanced : state.Balanced) (answer : ProfileUrl) :
    (state.ezIotTslAdapterProfileUrl answer).Balanced ↔
      state.FirstDevice (urlSerial answer state.devices) fun dev =>
        dev.status ≠ .done := by
  have hrecorded := hbalanced.of_same
    { state with devices := recordProfileUrl answer state.devices } rfl
    (by
      intro devType devFwVer
      apply countP_updateFirst_of_same
      intro dev
      rfl)
  rw [hrecorded.withdraw_iff (state.ezIotTslAdapterProfileUrl answer)
    (urlSerial answer state.devices) (AdapterDev.updated .loading) rfl rfl
    (by simp [AdapterDev.updated])]
  have hview : ((recordProfileUrl answer state.devices).find?
        (hasSn (urlSerial answer state.devices))).map (·.status) =
      (state.devices.find?
        (hasSn (urlSerial answer state.devices))).map (·.status) := by
    apply find?_updateFirst_map
    · intro dev
      rfl
    · intro dev
      rfl
  cases hfind : state.devices.find?
      (hasSn (urlSerial answer state.devices)) with
  | none =>
      rw [hfind, Option.map_none, Option.map_eq_none_iff] at hview
      exact iff_of_true (firstDevice_of_none hview _)
        (firstDevice_of_none hfind _)
  | some dev =>
      rw [hfind, Option.map_some, Option.map_eq_some_iff] at hview
      rcases hview with ⟨recorded, hrecordedDev, hstatus⟩
      rw [firstDevice_iff hfind, firstDevice_iff hrecordedDev, hstatus]

theorem countP_done {state : AdapterState} {sn : CString} {dev : AdapterDev}
    (hfind : state.devices.find? (hasSn sn) = some dev)
    (devType devFwVer : CString) :
    (tslAdapterDevUpdate sn .done state.devices).countP
        (AdapterDev.uses devType devFwVer) +
      (if dev.uses devType devFwVer then 1 else 0) =
    state.devices.countP (AdapterDev.uses devType devFwVer) +
      (if dev.devType = devType ∧ dev.devFwVer = devFwVer then 1 else 0) := by
  have hupdate := countP_updateFirst (AdapterDev.updated .done)
    (AdapterDev.uses devType devFwVer) hfind
  have hdone : (AdapterDev.updated .done dev).uses devType devFwVer = true ↔
      dev.devType = devType ∧ dev.devFwVer = devFwVer := by
    simp [AdapterDev.updated, AdapterDev.uses]
  simp only [hdone] at hupdate
  exact hupdate

theorem Balanced.loaded_iff {state : AdapterState}
    (hbalanced : state.Balanced) (next : AdapterState) (entry : RefCapacity)
    (sn : CString)
    (hcapacities : next.capacities = state.capacities ++ [entry])
    (hdevices : next.devices = tslAdapterDevUpdate sn .done state.devices) :
    next.Balanced ↔
      state.Unserved entry.capacity.devType entry.capacity.devFwVer ∧
        state.Awaits sn entry.capacity.devType entry.capacity.devFwVer := by
  have hnot : ¬ state.Awaits sn entry.capacity.devType
        entry.capacity.devFwVer →
      next.devices.countP (AdapterDev.uses entry.capacity.devType
          entry.capacity.devFwVer) =
        state.devices.countP (AdapterDev.uses entry.capacity.devType
          entry.capacity.devFwVer) := by
    intro hawaits
    rw [hdevices]
    cases hfind : state.devices.find? (hasSn sn) with
    | none =>
        rw [tslAdapterDevUpdate, updateFirst_of_find?_eq_none _ hfind]
    | some dev =>
        have hcount := countP_done hfind entry.capacity.devType
          entry.capacity.devFwVer
        have huses : dev.uses entry.capacity.devType
              entry.capacity.devFwVer = true ↔
            dev.devType = entry.capacity.devType ∧
              dev.devFwVer = entry.capacity.devFwVer := by
          by_cases hdone : dev.status = .done
          · simp [AdapterDev.uses, hdone]
          · rw [uses_eq_false_of_ne hdone]
            simp only [Bool.false_eq_true, false_iff]
            intro hlabel
            exact hawaits ⟨dev, hfind, hdone, hlabel⟩
        simp only [huses] at hcount
        omega
  by_cases hawaits : state.Awaits sn entry.capacity.devType
      entry.capacity.devFwVer
  · rw [and_iff_left hawaits]
    rcases hawaits with ⟨dev, hfind, hdone, hlabel⟩
    apply hbalanced.install_iff next entry hcapacities
    intro devType devFwVer
    have hcount := countP_done hfind devType devFwVer
    rw [uses_eq_false_of_ne hdone, hlabel.1, hlabel.2] at hcount
    rw [hdevices]
    simpa [RefCapacity.serves] using hcount
  · rw [iff_false_right (fun hboth => hawaits hboth.2)]
    exact hbalanced.not_install next entry hcapacities (hnot hawaits)

theorem Balanced.downloaded_iff {state : AdapterState}
    (hbalanced : state.Balanced) (lib : AdapterLib) (copy : AdapterDev)
    (text : CString) :
    (state.threadDownloaded lib copy text).Balanced ↔
      ((tslAdapterProfileLoad lib.parse copy.devinfo
          (state.store.profileSave lib.md5 copy.devinfo
            (some text))).isSome = true →
        state.Unserved copy.devinfo.recorded.devType
            copy.devinfo.recorded.devFirmwareversion ∧
          state.Awaits copy.devSn copy.devinfo.recorded.devType
            copy.devinfo.recorded.devFirmwareversion) := by
  unfold threadDownloaded
  dsimp only
  cases hload : tslAdapterProfileLoad lib.parse copy.devinfo
      (state.store.profileSave lib.md5 copy.devinfo (some text)) with
  | none =>
      have hnext := hbalanced.of_same { state with
        copy := none
        store := state.store.profileSave lib.md5 copy.devinfo (some text) }
        rfl (fun _ _ => rfl)
      simp [hnext]
  | some loaded =>
      have hlabel := load_label hload
      dsimp only
      rw [hbalanced.loaded_iff _ ⟨loaded.1, 1⟩ copy.devSn rfl rfl]
      simp [hlabel]

theorem Balanced.queried_iff {state : AdapterState}
    (hbalanced : state.Balanced) (copy : AdapterDev) (sent : Bool) :
    (state.threadQueried copy sent).Balanced ↔
      (sent = true →
        state.FirstDevice copy.devSn fun dev => dev.status ≠ .done) := by
  cases sent with
  | true =>
      rw [hbalanced.withdraw_iff (state.threadQueried copy true) copy.devSn
        (AdapterDev.updated .query) rfl rfl (by simp [AdapterDev.updated])]
      simp
  | false =>
      have hnext := hbalanced.of_same (state.threadQueried copy false) rfl
        (by
          intro devType devFwVer
          apply countP_updateFirst_of_same
          intro dev
          rfl)
      simp [hnext]

/-- The counts stay as they were installed. -/
theorem SingleRefs.step {state next : AdapterState} {lib : AdapterLib}
    {event : AdapterEvent} (hrefs : state.SingleRefs)
    (hstep : step lib state event = some next) : next.SingleRefs := by
  have hinstall : ∀ (loaded : TslCapacity × SavedProfile),
      ∀ entry ∈ state.capacities ++ [⟨loaded.1, 1⟩], entry.ref = 1 := by
    intro loaded entry hentry
    rcases List.mem_append.mp hentry with hold | hnew
    · exact hrefs entry hold
    · rw [List.mem_singleton.mp hnew]
  cases event with
  | add devInfo =>
      rw [← Option.some.inj hstep, add_cases]
      split_ifs
      · exact hrefs
      · split
        · exact hinstall _
        · exact hrefs
  | del devInfo =>
      rw [← Option.some.inj hstep, ezIotTslAdapterDel]
      split_ifs
      · exact hrefs
      · intro entry hentry
        exact hrefs entry (mem_of_mem_refDel hrefs hentry)
  | profileDel devSubserial =>
      rw [← Option.some.inj hstep]
      exact hrefs
  | profileUrl answer =>
      rw [← Option.some.inj hstep]
      exact hrefs
  | pick =>
      rcases step_pick_iff.mp hstep with ⟨_, rfl⟩
      exact hrefs
  | downloaded text =>
      rcases step_downloaded_iff.mp hstep with ⟨copy, _, _, rfl⟩
      unfold threadDownloaded
      dsimp only
      split
      · exact hrefs
      · exact hinstall _
  | queried sent =>
      rcases step_queried_iff.mp hstep with ⟨copy, _, _, rfl⟩
      exact hrefs
  | dropped =>
      rcases step_dropped_iff.mp hstep with ⟨copy, _, rfl⟩
      exact hrefs
  | restart =>
      rw [← Option.some.inj hstep]
      intro entry hentry
      exact absurd hentry List.not_mem_nil

theorem Balanced.step_iff {state next : AdapterState} {lib : AdapterLib}
    {event : AdapterEvent} (hbalanced : state.Balanced)
    (hrefs : state.SingleRefs) (hstep : step lib state event = some next) :
    next.Balanced ↔ state.CapacitySound lib event := by
  cases event with
  | add devInfo =>
      rw [← Option.some.inj hstep]
      exact hbalanced.add_iff lib devInfo
  | del devInfo =>
      rw [← Option.some.inj hstep]
      exact hbalanced.del_iff hrefs devInfo
  | profileDel devSubserial =>
      rw [← Option.some.inj hstep]
      exact iff_of_true hbalanced trivial
  | profileUrl answer =>
      rw [← Option.some.inj hstep]
      exact hbalanced.profileUrl_iff answer
  | pick =>
      rcases step_pick_iff.mp hstep with ⟨_, rfl⟩
      exact iff_of_true hbalanced trivial
  | downloaded text =>
      rcases step_downloaded_iff.mp hstep with ⟨copy, hcopy, hloading, rfl⟩
      rw [hbalanced.downloaded_iff]
      simp [CapacitySound, hcopy, hloading]
  | queried sent =>
      rcases step_queried_iff.mp hstep with ⟨copy, hcopy, hloading, rfl⟩
      rw [hbalanced.queried_iff]
      simp [CapacitySound, hcopy, hloading]
  | dropped =>
      rcases step_dropped_iff.mp hstep with ⟨copy, _, rfl⟩
      exact iff_of_true hbalanced trivial
  | restart =>
      rw [← Option.some.inj hstep]
      exact iff_of_true (fun _ _ => ⟨rfl, Nat.zero_le 1⟩) trivial

theorem step_of_not_sound {state : AdapterState} {lib : AdapterLib}
    {event : AdapterEvent} (hunsound : ¬ state.CapacitySound lib event) :
    ∃ next, step lib state event = some next := by
  cases event with
  | add devInfo => exact ⟨_, rfl⟩
  | del devInfo => exact ⟨_, rfl⟩
  | profileUrl answer => exact ⟨_, rfl⟩
  | downloaded text =>
      simp only [CapacitySound, not_forall] at hunsound
      rcases hunsound with ⟨copy, hcopy, hloading, _⟩
      exact ⟨_, step_downloaded_iff.mpr ⟨copy, hcopy, hloading, rfl⟩⟩
  | queried sent =>
      simp only [CapacitySound, not_forall] at hunsound
      rcases hunsound with ⟨_, copy, hcopy, hloading, _⟩
      exact ⟨_, step_queried_iff.mpr ⟨copy, hcopy, hloading, rfl⟩⟩
  | profileDel devSubserial => exact absurd trivial hunsound
  | pick => exact absurd trivial hunsound
  | dropped => exact absurd trivial hunsound
  | restart => exact absurd trivial hunsound

/-! ## Runs -/

/-- The counts are right at every point exactly if every step is one that
keeps them. -/
theorem counted_iff_capacitySound (lib : AdapterLib)
    (events : List AdapterEvent) :
    StepSystem.Along (step lib) Counted init events ↔
      StepSystem.StepsMeet (step lib) (CapacitySound lib) init events := by
  have hsound : ∀ state : AdapterState,
      state.SingleRefs ∧ state.Balanced → state.Counted :=
    fun state hstate => (counted_iff_balanced hstate.1).mpr hstate.2
  apply StepSystem.along_iff_stepsMeet hsound
  · intro state event next hstate hmeets hstep
    exact ⟨hstate.1.step hstep,
      (hstate.2.step_iff hstate.1 hstep).mpr hmeets⟩
  · intro state event hstate hunsound
    rcases step_of_not_sound hunsound with ⟨next, hstep⟩
    refine ⟨next, hstep, ?_⟩
    rw [counted_iff_balanced (hstate.1.step hstep),
      hstate.2.step_iff hstate.1 hstep]
    exact hunsound
  · refine ⟨?_, ?_⟩
    · intro entry hentry
      exact absurd hentry List.not_mem_nil
    · intro devType devFwVer
      exact ⟨rfl, Nat.zero_le 1⟩

/-- A profile with one resource and one domain. -/
def lampProfile : CString :=
  ("\x7b\"version\":\"1\",\"resources\":[\x7b\"resourceCategory\":\"global\"," ++
    "\"localIndex\":[\"0\"],\"domains\":[\x7b\"identifier\":\"lamp\"\x7d]\x7d]\x7d"
    ).toList

def lampTree : BscJson :=
  .object [("version".toList, .string "1".toList),
    ("resources".toList, .array [.object [
      ("resourceCategory".toList, .string "global".toList),
      ("localIndex".toList, .array [.string "0".toList]),
      ("domains".toList, .array [.object [
        ("identifier".toList, .string "lamp".toList)]])]])]

/-- The digest of the one type and version below. -/
def lampLib : AdapterLib where
  md5 := TslStore.sharingDigest
  parse text := if text = lampProfile then some lampTree else none

/-- A device registers and its profile is asked for and downloaded. -/
def lampRegistration (sn : CString) : List AdapterEvent :=
  [.add ⟨sn, "CS-C6".toList, "V5.3.0".toList⟩, .pick, .queried true,
    .profileUrl ⟨sn, "host/profile".toList, [], 0⟩, .pick,
    .downloaded lampProfile]

/-- Two devices of one type and version have two capacities. -/
theorem shared_capacity_doubled :
    ¬ StepSystem.Along (step lampLib) Counted init
      (lampRegistration "E1".toList ++ lampRegistration "E2".toList) := by
  have hlast : (StepSystem.exec (step lampLib) init
      (lampRegistration "E1".toList ++ lampRegistration "E2".toList)).any
        (fun last => (last.capacities.filter (RefCapacity.serves
          "CS-C6".toList "V5.3.0".toList)).length = 2) = true := by
    decide +kernel
  intro halong
  rcases (Option.any_eq_true _ _).mp hlast with ⟨last, hexec, htwo⟩
  have hcounted := halong _ [] last (List.append_nil _).symm hexec
  have hone := (hcounted "CS-C6".toList "V5.3.0".toList).1
  rw [of_decide_eq_true htwo] at hone
  omega

end AdapterState

end EziotSdk

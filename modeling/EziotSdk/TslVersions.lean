import EziotSdk.TslCapacities

/-!
# Profiles and versions

When an installed capacity comes from a profile that was saved for the very
type and version it is labelled with.  The map keeps a handle for a serial
number; a device that registers again with another type or version is served
the profile under its old handle.
-/

namespace EziotSdk

open FirstMatch

/-- The text whose digest is the handle. -/
def TslDevinfo.digested (devInfo : TslDevinfo) : CString :=
  devInfo.devType ++ devInfo.devFirmwareversion

/-- The type and version that a profile was saved for. -/
def SavedProfile.devinfo (saved : SavedProfile) : TslDevinfo where
  devSubserial := []
  devType := saved.devType
  devFirmwareversion := saved.devFirmwareversion

namespace AdapterState

/-- Every installed profile was saved for its capacity's type and version. -/
def ProfilesRight (state : AdapterState) : Prop :=
  ∀ install ∈ state.installs,
    install.profile.devType = install.devType ∧
      install.profile.devFirmwareversion = install.devFwVer

/-- A device that registers and is served from the store has an entry with the
handle of its present type and version.  The digest runs over type and version
without a separator, so the profile's type must also be as long as its own. -/
def VersionSound (lib : AdapterLib) (state : AdapterState) :
    AdapterEvent → Prop
  | .add devInfo =>
      devListed state.devices devInfo.devSubserial = false →
        ∀ metadata saved,
          findDevBySn devInfo.devSubserial state.store.entries =
            some metadata →
          state.store.profiles metadata.handle = some saved →
          (∃ capacity, profileParse (lib.parse saved.text) = .ok capacity) →
            metadata.handle = devinfo2index lib.md5 devInfo.recorded ∧
              saved.devType.length = devInfo.recorded.devType.length
  | _ => True

/-- The texts whose digests a run compares. -/
def digestedTexts (events : List AdapterEvent) : Set CString :=
  { text | ∃ devInfo, .add devInfo ∈ events ∧
      text = devInfo.recorded.digested }

/-- A device as `tsl_adapter_dev_add` records one. -/
structure RecordedDev (texts : Set CString) (dev : AdapterDev) : Prop where
  recorded : dev.devinfo.recorded = dev.devinfo
  digested : dev.devinfo.digested ∈ texts

/-- Every stored profile lies under the handle it was saved for. -/
def SavedSound (md5 : TslDigest) (texts : Set CString) (store : TslStore) :
    Prop :=
  ∀ handle saved, store.profiles handle = some saved →
    handle = devinfo2index md5 saved.devinfo ∧
      saved.devinfo.digested ∈ texts

structure VersionInvariant (md5 : TslDigest) (texts : Set CString)
    (state : AdapterState) : Prop where
  right : state.ProfilesRight
  saved : SavedSound md5 texts state.store
  devices : ∀ dev ∈ state.devices, RecordedDev texts dev
  copy : ∀ dev, state.copy = some dev → RecordedDev texts dev

/-! ## Handles -/

theorem recorded_recorded (devInfo : TslDevinfo) :
    devInfo.recorded.recorded = devInfo.recorded := by
  simp [TslDevinfo.recorded, CString.strncpy_idem]

theorem devinfo2index_eq (md5 : TslDigest) (devInfo : TslDevinfo) :
    devinfo2index md5 devInfo =
      ezTslKeyTslPrefix ++ '_' :: md5.digest devInfo.digested := by
  apply CString.strncpy_of_length_le
  simp [ezTslKeyTslPrefix, md5.length_digest]

/-- Equal handles, and types of equal length, are those of one type and
version. -/
theorem same_of_handle {md5 : TslDigest} {texts : Set CString}
    (hmd5 : Set.InjOn md5.digest texts) {first second : TslDevinfo}
    (hfirst : first.digested ∈ texts) (hsecond : second.digested ∈ texts)
    (hhandle : devinfo2index md5 first = devinfo2index md5 second)
    (hlength : first.devType.length = second.devType.length) :
    first.devType = second.devType ∧
      first.devFirmwareversion = second.devFirmwareversion := by
  rw [devinfo2index_eq, devinfo2index_eq] at hhandle
  have hdigest : md5.digest first.digested = md5.digest second.digested := by
    simpa using hhandle
  have htext := hmd5 hfirst hsecond hdigest
  exact List.append_inj htext hlength

theorem devinfo2index_congr (md5 : TslDigest) {first second : TslDevinfo}
    (htype : first.devType = second.devType)
    (hversion : first.devFirmwareversion = second.devFirmwareversion) :
    devinfo2index md5 first = devinfo2index md5 second := by
  simp [devinfo2index, htype, hversion]

/-! ## Loads -/

theorem load_eq_some {parse : CString → Option BscJson} {devInfo : TslDevinfo}
    {store : TslStore} {loaded : TslCapacity × SavedProfile}
    (hload : tslAdapterProfileLoad parse devInfo store = some loaded) :
    ∃ metadata,
      findDevBySn devInfo.devSubserial store.entries = some metadata ∧
      store.profiles metadata.handle = some loaded.2 ∧
      ∃ capacity, profileParse (parse loaded.2.text) = .ok capacity := by
  unfold tslAdapterProfileLoad at hload
  split at hload
  · cases hload
  · next metadata hfind =>
      split at hload
      · cases hload
      · next saved hsaved =>
          split at hload
          · cases hload
          · next capacity hparse =>
              cases hload
              exact ⟨metadata, hfind, hsaved, capacity, hparse⟩

/-- The thread loads what it has just saved. -/
theorem load_saved {lib : AdapterLib} {devInfo : TslDevinfo}
    {store : TslStore} {text : CString}
    {loaded : TslCapacity × SavedProfile}
    (hrecorded : devInfo.recorded = devInfo)
    (hload : tslAdapterProfileLoad lib.parse devInfo
      (store.profileSave lib.md5 devInfo (some text)) = some loaded) :
    loaded.2 = ⟨text, devInfo.devType, devInfo.devFirmwareversion⟩ := by
  have hsn : CString.strncpy devInfo.devSubserial 47 =
      devInfo.devSubserial := congrArg TslDevinfo.devSubserial hrecorded
  rcases load_eq_some hload with ⟨metadata, hfind, hsaved, _⟩
  rcases store.profileSave_find lib.md5 hsn text with
    ⟨found, hfound, hstored⟩
  have hsame := Option.some.inj (hfind.symm.trans hfound)
  rw [hsame, hstored] at hsaved
  exact (Option.some.inj hsaved).symm

/-! ## What a step keeps -/

theorem SavedSound.profileSave {md5 : TslDigest} {texts : Set CString}
    {store : TslStore} (hsaved : SavedSound md5 texts store)
    {devInfo : TslDevinfo} {profile : Option CString}
    (hdigested : profile ≠ none → devInfo.digested ∈ texts) :
    SavedSound md5 texts (store.profileSave md5 devInfo profile) := by
  intro handle saved hstored
  rcases TslStore.profileSave_profiles hstored with
    hold | ⟨hprofile, hhandle, htype, hversion⟩
  · exact hsaved handle saved hold
  · have hindex := @devinfo2index_congr md5 saved.devinfo devInfo htype hversion
    have htext : saved.devinfo.digested = devInfo.digested :=
      congrArg₂ (· ++ ·) htype hversion
    rw [hhandle, hindex, htext]
    exact ⟨rfl, hdigested hprofile⟩

theorem SavedSound.profileDel {md5 : TslDigest} {texts : Set CString}
    {store : TslStore} (hsaved : SavedSound md5 texts store)
    (devSubserial : CString) :
    SavedSound md5 texts (store.profileDel devSubserial) := by
  intro handle saved hstored
  exact hsaved handle saved (TslStore.profileDel_profiles hstored)

theorem recordedDev_update {texts : Set CString} {devices : List AdapterDev}
    (hdevices : ∀ dev ∈ devices, RecordedDev texts dev)
    (chosen : AdapterDev → Bool) {change : AdapterDev → AdapterDev}
    (hchange : ∀ dev, (change dev).devinfo = dev.devinfo) :
    ∀ dev ∈ updateFirst chosen change devices, RecordedDev texts dev := by
  intro dev hdev
  rcases mem_updateFirst hdev with hold | ⟨changed, hfind, rfl⟩
  · exact hdevices dev hold
  · have hrecorded := hdevices changed (List.mem_of_find?_eq_some hfind)
    constructor
    · rw [hchange]
      exact hrecorded.recorded
    · rw [hchange]
      exact hrecorded.digested

theorem devinfo_updated (status : DevStatus) (dev : AdapterDev) :
    (dev.updated status).devinfo = dev.devinfo := by
  cases status <;> rfl

theorem recordedDev_devAdd {texts : Set CString} {devices : List AdapterDev}
    (hdevices : ∀ dev ∈ devices, RecordedDev texts dev)
    {devInfo : TslDevinfo} (hdigested : devInfo.recorded.digested ∈ texts)
    (needGet : Bool) :
    ∀ dev ∈ tslAdapterDevAdd devInfo needGet devices,
      RecordedDev texts dev := by
  intro dev hdev
  rcases List.mem_append.mp hdev with hold | hnew
  · exact hdevices dev hold
  · rw [List.mem_singleton.mp hnew]
    exact ⟨recorded_recorded devInfo, hdigested⟩

theorem ProfilesRight.append {state : AdapterState}
    (hright : state.ProfilesRight) {loaded : TslCapacity × SavedProfile} :
    (state.install loaded).ProfilesRight ↔
      loaded.2.devType = loaded.1.devType ∧
        loaded.2.devFirmwareversion = loaded.1.devFwVer := by
  constructor
  · intro hnext
    exact hnext _ (List.mem_append_right _ List.mem_cons_self)
  · intro hsame install hinstall
    rcases List.mem_append.mp hinstall with hold | hnew
    · exact hright install hold
    · rw [List.mem_singleton.mp hnew]
      exact hsame

namespace VersionInvariant

variable {lib : AdapterLib} {texts : Set CString} {state : AdapterState}

theorem devAdd (hinv : state.VersionInvariant lib.md5 texts)
    {devInfo : TslDevinfo} (hdigested : devInfo.recorded.digested ∈ texts)
    (needGet : Bool) :
    (state.devAdd lib devInfo needGet).VersionInvariant lib.md5 texts where
  right := hinv.right
  saved := hinv.saved.profileSave (fun hprofile => absurd rfl hprofile)
  devices := recordedDev_devAdd hinv.devices hdigested needGet
  copy := hinv.copy

theorem install (hinv : state.VersionInvariant lib.md5 texts)
    {loaded : TslCapacity × SavedProfile}
    (hsame : loaded.2.devType = loaded.1.devType ∧
      loaded.2.devFirmwareversion = loaded.1.devFwVer) :
    (state.install loaded).VersionInvariant lib.md5 texts where
  right := hinv.right.append.mpr hsame
  saved := hinv.saved
  devices := hinv.devices
  copy := hinv.copy

theorem update (hinv : state.VersionInvariant lib.md5 texts)
    (chosen : AdapterDev → Bool) {change : AdapterDev → AdapterDev}
    (hchange : ∀ dev, (change dev).devinfo = dev.devinfo) :
    VersionInvariant lib.md5 texts { state with
      devices := updateFirst chosen change state.devices } where
  right := hinv.right
  saved := hinv.saved
  devices := recordedDev_update hinv.devices chosen hchange
  copy := hinv.copy

theorem withoutCopy (hinv : state.VersionInvariant lib.md5 texts) :
    VersionInvariant lib.md5 texts { state with copy := none } where
  right := hinv.right
  saved := hinv.saved
  devices := hinv.devices
  copy := nofun

/-- A registration keeps the invariant, or shows a wrong profile. -/
theorem add_iff (hmd5 : Set.InjOn lib.md5.digest texts)
    (hinv : state.VersionInvariant lib.md5 texts) {devInfo : TslDevinfo}
    (hdigested : devInfo.recorded.digested ∈ texts) :
    ((state.ezIotTslAdapterAdd lib devInfo).ProfilesRight ↔
        state.VersionSound lib (.add devInfo)) ∧
      ((state.ezIotTslAdapterAdd lib devInfo).ProfilesRight →
        (state.ezIotTslAdapterAdd lib devInfo).VersionInvariant lib.md5
          texts) := by
  rw [add_cases]
  dsimp only [VersionSound]
  cases hlisted : devListed state.devices devInfo.devSubserial with
  | true => simp [hinv, hinv.right]
  | false =>
      cases hload : tslAdapterProfileLoad lib.parse devInfo state.store with
      | none =>
          have hadded := hinv.devAdd hdigested true
          refine ⟨iff_of_true hadded.right ?_, fun _ => hadded⟩
          intro _ metadata saved hfind hsaved hparse
          rcases hparse with ⟨capacity, hparse⟩
          simp [tslAdapterProfileLoad, hfind, hsaved, hparse] at hload
      | some loaded =>
          have hlabel := load_label hload
          rcases load_eq_some hload with
            ⟨metadata, hfind, hsaved, capacity, hparse⟩
          have hstored := hinv.saved _ _ hsaved
          have hright : ((state.install loaded).devAdd lib devInfo
              false).ProfilesRight ↔ _ := hinv.right.append
          simp only [Bool.false_eq_true, if_false]
          rw [hright, hlabel.1, hlabel.2]
          constructor
          · constructor
            · intro hsame _ found saved hfound hfoundSaved _
              have hentry := Option.some.inj (hfind.symm.trans hfound)
              rw [← hentry, hsaved] at hfoundSaved
              rw [← hentry, ← Option.some.inj hfoundSaved, hstored.1]
              refine ⟨?_, congrArg List.length hsame.1⟩
              exact @devinfo2index_congr lib.md5 loaded.2.devinfo
                devInfo.recorded hsame.1 hsame.2
            · intro hsound
              have hcurrent := hsound trivial metadata loaded.2 hfind hsaved
                ⟨capacity, hparse⟩
              rw [hstored.1] at hcurrent
              exact same_of_handle hmd5 hstored.2 hdigested hcurrent.1
                hcurrent.2
          · intro hsame
            rw [← hlabel.1, ← hlabel.2] at hsame
            exact (hinv.install hsame).devAdd hdigested false

theorem downloaded (hinv : state.VersionInvariant lib.md5 texts)
    {copy : AdapterDev} (hcopy : RecordedDev texts copy) (text : CString) :
    (state.threadDownloaded lib copy text).VersionInvariant lib.md5
      texts := by
  have hsaved : VersionInvariant lib.md5 texts { state with
      copy := none
      store := state.store.profileSave lib.md5 copy.devinfo (some text) } :=
    { right := hinv.right
      saved := hinv.saved.profileSave fun _ => hcopy.digested
      devices := hinv.devices
      copy := nofun }
  unfold threadDownloaded
  dsimp only
  cases hload : tslAdapterProfileLoad lib.parse copy.devinfo
      (state.store.profileSave lib.md5 copy.devinfo (some text)) with
  | none => exact hsaved
  | some loaded =>
      have hlabel := load_label hload
      have hloaded := load_saved hcopy.recorded hload
      rw [hcopy.recorded] at hlabel
      have hsame : loaded.2.devType = loaded.1.devType ∧
          loaded.2.devFirmwareversion = loaded.1.devFwVer := by
        rw [hloaded, hlabel.1, hlabel.2]
        exact ⟨rfl, rfl⟩
      exact (hsaved.install hsame).update (hasSn copy.devSn) (devinfo_updated .done)

theorem step {next : AdapterState} {event : AdapterEvent}
    (hinv : state.VersionInvariant lib.md5 texts)
    (hadd : ∀ devInfo, event ≠ .add devInfo)
    (hstep : step lib state event = some next) :
    next.VersionInvariant lib.md5 texts := by
  cases event with
  | add devInfo => exact absurd rfl (hadd devInfo)
  | del devInfo =>
      rw [← Option.some.inj hstep, ezIotTslAdapterDel]
      split_ifs
      · exact hinv
      · exact {
          right := hinv.right
          saved := hinv.saved
          devices := fun dev hdev =>
            hinv.devices dev (List.mem_of_mem_eraseP hdev)
          copy := hinv.copy }
  | profileDel devSubserial =>
      rw [← Option.some.inj hstep]
      exact {
        right := hinv.right
        saved := hinv.saved.profileDel devSubserial
        devices := hinv.devices
        copy := hinv.copy }
  | profileUrl answer =>
      rw [← Option.some.inj hstep]
      have hrecorded : VersionInvariant lib.md5 texts { state with
          devices := recordProfileUrl answer state.devices } :=
        hinv.update answer.awaitedBy fun _ => rfl
      exact hrecorded.update (hasSn (urlSerial answer state.devices))
        (devinfo_updated .loading)
  | pick =>
      rcases step_pick_iff.mp hstep with ⟨_, rfl⟩
      exact {
        right := hinv.right
        saved := hinv.saved
        devices := hinv.devices
        copy := fun dev hdev =>
          hinv.devices dev (List.mem_of_find?_eq_some hdev) }
  | downloaded text =>
      rcases step_downloaded_iff.mp hstep with ⟨copy, hcopy, _, rfl⟩
      exact hinv.downloaded (hinv.copy copy hcopy) text
  | queried sent =>
      rcases step_queried_iff.mp hstep with ⟨copy, _, _, rfl⟩
      exact (hinv.update (hasSn copy.devSn) (devinfo_updated _)).withoutCopy
  | dropped =>
      rcases step_dropped_iff.mp hstep with ⟨copy, _, rfl⟩
      exact hinv.withoutCopy
  | restart =>
      rw [← Option.some.inj hstep]
      exact {
        right := hinv.right
        saved := hinv.saved
        devices := fun dev hdev => absurd hdev List.not_mem_nil
        copy := fun dev hdev => absurd hdev (Option.not_mem_none dev) }

theorem init (md5 : TslDigest) (texts : Set CString) :
    AdapterState.init.VersionInvariant md5 texts where
  right := fun _ hinstall => absurd hinstall List.not_mem_nil
  saved := nofun
  devices := fun _ hdev => absurd hdev List.not_mem_nil
  copy := nofun

end VersionInvariant

/-! ## Runs -/

theorem versionSound_of_ne {lib : AdapterLib} {state : AdapterState}
    {event : AdapterEvent} (hadd : ∀ devInfo, event ≠ .add devInfo) :
    state.VersionSound lib event := by
  cases event with
  | add devInfo => exact absurd rfl (hadd devInfo)
  | _ => exact trivial

/-- Every installed profile is the right one exactly if no device registers
under a stale entry of the map. -/
theorem profilesRight_iff_versionSound (lib : AdapterLib)
    (events : List AdapterEvent)
    (hmd5 : Set.InjOn lib.md5.digest (digestedTexts events)) :
    StepSystem.Along (step lib) ProfilesRight init events ↔
      StepSystem.StepsMeet (step lib) (VersionSound lib) init events := by
  have hall : ∀ event ∈ events, ∀ devInfo, event = .add devInfo →
      devInfo.recorded.digested ∈ digestedTexts events := by
    intro event hevent devInfo hadd
    rw [hadd] at hevent
    exact ⟨devInfo, hevent, rfl⟩
  have hsound : ∀ state : AdapterState,
      state.VersionInvariant lib.md5 (digestedTexts events) →
        state.ProfilesRight := fun state hinv => hinv.right
  apply StepSystem.along_iff_stepsMeet_of_forall hsound _ _ hall
  · exact VersionInvariant.init lib.md5 (digestedTexts events)
  · intro state event next hadmitted hinv hmeets hstep
    by_cases hadd : ∃ devInfo, event = .add devInfo
    · rcases hadd with ⟨devInfo, rfl⟩
      have hcases := hinv.add_iff hmd5 (hadmitted devInfo rfl)
      rw [← Option.some.inj hstep]
      exact hcases.2 (hcases.1.mpr hmeets)
    · exact hinv.step (fun devInfo heq => hadd ⟨devInfo, heq⟩) hstep
  · intro state event hadmitted hinv hunsound
    by_cases hadd : ∃ devInfo, event = .add devInfo
    · rcases hadd with ⟨devInfo, rfl⟩
      refine ⟨_, rfl, ?_⟩
      rw [(hinv.add_iff hmd5 (hadmitted devInfo rfl)).1]
      exact hunsound
    · have hmeets := @versionSound_of_ne lib state event
        fun devInfo heq => hadd ⟨devInfo, heq⟩
      exact absurd hmeets hunsound

/-- The digests of the two versions below. -/
def upgradeLib : AdapterLib where
  md5 := {
    digest text :=
      if text = "CS-C6V5.3.0".toList then "Rs9be2oFNr7+0NOdCFnwDg==".toList
      else "wHO4/BUII7KkoepsXq9alg==".toList
    length_digest text := by
      split_ifs <;> rfl }
  parse text := if text = lampProfile then some lampTree else none

/-- A device goes and comes back with another version. -/
def upgradeRun : List AdapterEvent :=
  lampRegistration "E1".toList ++
    [.del ⟨"E1".toList, "CS-C6".toList, "V5.3.0".toList⟩,
      .add ⟨"E1".toList, "CS-C6".toList, "V5.4.0".toList⟩]

theorem upgradeRun_injOn :
    Set.InjOn upgradeLib.md5.digest (digestedTexts upgradeRun) := by
  have htexts : ∀ text ∈ digestedTexts upgradeRun,
      text = "CS-C6V5.3.0".toList ∨ text = "CS-C6V5.4.0".toList := by
    intro text htext
    rcases htext with ⟨devInfo, hmem, rfl⟩
    have hdevInfo : devInfo = ⟨"E1".toList, "CS-C6".toList,
          "V5.3.0".toList⟩ ∨
        devInfo = ⟨"E1".toList, "CS-C6".toList, "V5.4.0".toList⟩ := by
      simpa [upgradeRun, lampRegistration] using hmem
    rcases hdevInfo with rfl | rfl
    · exact Or.inl (by decide)
    · exact Or.inr (by decide)
  have hdifferent : upgradeLib.md5.digest "CS-C6V5.3.0".toList ≠
      upgradeLib.md5.digest "CS-C6V5.4.0".toList := by
    decide +kernel
  intro first hfirst second hsecond hdigest
  rcases htexts first hfirst with hold | hnew
  · rcases htexts second hsecond with hold' | hnew'
    · rw [hold, hold']
    · rw [hold, hnew'] at hdigest
      exact absurd hdigest hdifferent
  · rcases htexts second hsecond with hold' | hnew'
    · rw [hnew, hold'] at hdigest
      exact absurd hdigest.symm hdifferent
    · rw [hnew, hnew']

theorem profilesRight_iff_versionSound_upgrade :
    StepSystem.Along (step upgradeLib) ProfilesRight init upgradeRun ↔
      StepSystem.StepsMeet (step upgradeLib) (VersionSound upgradeLib) init
        upgradeRun :=
  profilesRight_iff_versionSound upgradeLib upgradeRun upgradeRun_injOn

/-- The new version is served the profile of the old one. -/
theorem old_profile_installed :
    Set.InjOn upgradeLib.md5.digest (digestedTexts upgradeRun) ∧
      ¬ StepSystem.Along (step upgradeLib) ProfilesRight init upgradeRun := by
  refine ⟨upgradeRun_injOn, ?_⟩
  have hlast : (StepSystem.exec (step upgradeLib) init upgradeRun).any
      (fun last => last.installs.any fun install =>
        install.profile.devFirmwareversion ≠ install.devFwVer) = true := by
    decide +kernel
  intro halong
  rcases (Option.any_eq_true _ _).mp hlast with ⟨last, hexec, hwrong⟩
  rcases List.any_eq_true.mp hwrong with ⟨install, hinstall, hversion⟩
  have hright := halong upgradeRun [] last (List.append_nil _).symm hexec
    install hinstall
  exact of_decide_eq_true hversion hright.2

end AdapterState

end EziotSdk

import EziotSdk.HubRuns

/-!
# The registrations of the hub's sub-devices

A sub-device should be registered with the TSL component exactly while it is
stored as authenticated.  What the component holds is at most one record for a
serial number, each of them cut to the component's arrays; this is true in
every run.  The registrations follow the list as long as only authenticated
sub-devices are given a new version, types and versions fit, a clean that
cannot be written meets no authenticated sub-device, and no write changes what
is to be registered in the log line of its failure.
-/

namespace EziotSdk

open FirstMatch

/-- The registration that a stored sub-device asks for. -/
def HubEntry.devinfo (entry : HubEntry) : TslDevinfo where
  devSubserial := entry.sn.1
  devType := entry.type.1
  devFirmwareversion := entry.ver

/-- The registration that it gets. -/
def HubEntry.registration (entry : HubEntry) : TslDevinfo :=
  (jsonToSubdev entry).devinfo.recorded

theorem HubEntry.registration_serial (entry : HubEntry) :
    entry.registration.devSubserial = entry.sn.1 := by
  have hlength := entry.sn.2
  apply CString.strncpy_of_length_le
  dsimp only [HubSubdev.devinfo, jsonToSubdev]
  omega

theorem HubEntry.registration_eq_iff (entry : HubEntry) :
    entry.registration = entry.devinfo ↔
      entry.type.1.length ≤ 23 ∧ entry.ver.length ≤ 32 := by
  have hserial := entry.registration_serial
  have hversion : CString.strncpy (CString.strncpy entry.ver 32) 35 =
      CString.strncpy entry.ver 32 := by
    apply CString.strncpy_of_length_le
    rw [CString.strncpy_length]
    omega
  dsimp only [HubEntry.registration, HubEntry.devinfo, TslDevinfo.recorded,
    HubSubdev.devinfo, jsonToSubdev] at hserial ⊢
  rw [TslDevinfo.mk.injEq, hserial, hversion, CString.strncpy_eq_self,
    CString.strncpy_eq_self]
  exact and_iff_right rfl

/-! ## The records of the component -/

/-- One record for a serial number, cut to the arrays. -/
structure RegistrySound (registered : List TslDevinfo) : Prop where
  serials : (registered.map TslDevinfo.devSubserial).Nodup
  short : ∀ devInfo ∈ registered,
    devInfo.devType.length ≤ 23 ∧ devInfo.devFirmwareversion.length ≤ 32

theorem RegistrySound.nil : RegistrySound [] where
  serials := List.nodup_nil
  short := nofun

theorem RegistrySound.unreg {registered : List TslDevinfo}
    (hsound : RegistrySound registered) (devInfo : TslDevinfo) :
    RegistrySound (tslUnreg devInfo registered) where
  serials := hsound.serials.sublist (List.eraseP_sublist.map _)
  short := fun listed hlisted =>
    hsound.short listed (List.mem_of_mem_eraseP hlisted)

theorem tslReg_of_listed {registered : List TslDevinfo} {entry : HubEntry}
    (hlisted : ∃ listed ∈ registered, listed.devSubserial = entry.sn.1) :
    tslReg (jsonToSubdev entry).devinfo registered = registered := by
  unfold tslReg
  rw [if_pos]
  rw [List.any_eq_true]
  rcases hlisted with ⟨listed, hmem, hserial⟩
  exact ⟨listed, hmem, decide_eq_true hserial⟩

theorem tslReg_of_new {registered : List TslDevinfo} {entry : HubEntry}
    (hnew : ∀ listed ∈ registered, listed.devSubserial ≠ entry.sn.1) :
    tslReg (jsonToSubdev entry).devinfo registered =
      registered ++ [entry.registration] := by
  unfold tslReg
  rw [if_neg]
  · rfl
  · rw [List.any_eq_true]
    rintro ⟨listed, hmem, hserial⟩
    exact hnew listed hmem (of_decide_eq_true hserial)

theorem RegistrySound.append {registered : List TslDevinfo}
    (hsound : RegistrySound registered) {entry : HubEntry}
    (hnew : ∀ listed ∈ registered, listed.devSubserial ≠ entry.sn.1) :
    RegistrySound (registered ++ [entry.registration]) where
  serials := by
    rw [List.map_append, List.nodup_append]
    refine ⟨hsound.serials, List.nodup_singleton _, ?_⟩
    intro serial hserial other hother heq
    rw [List.map_singleton, List.mem_singleton,
      entry.registration_serial] at hother
    rcases List.mem_map.mp hserial with ⟨listed, hlisted, hkey⟩
    apply hnew listed hlisted
    rw [hkey, heq, hother]
  short := by
    intro devInfo hmem
    rcases List.mem_append.mp hmem with hold | hnewer
    · exact hsound.short devInfo hold
    · rw [List.mem_singleton.mp hnewer]
      dsimp only [HubEntry.registration, TslDevinfo.recorded,
        HubSubdev.devinfo, jsonToSubdev]
      simp only [CString.strncpy_length]
      omega

theorem RegistrySound.reg {registered : List TslDevinfo}
    (hsound : RegistrySound registered) (entry : HubEntry) :
    RegistrySound (tslReg (jsonToSubdev entry).devinfo registered) := by
  by_cases hlisted : ∃ listed ∈ registered,
      listed.devSubserial = entry.sn.1
  · rw [tslReg_of_listed hlisted]
    exact hsound
  · push Not at hlisted
    rw [tslReg_of_new hlisted]
    exact hsound.append hlisted

theorem RegistrySound.regAll {registered : List TslDevinfo}
    (hsound : RegistrySound registered) (visited : List HubEntry) :
    RegistrySound (visited.foldl (fun registered entry =>
      tslReg (jsonToSubdev entry).devinfo registered) registered) := by
  induction visited generalizing registered with
  | nil => exact hsound
  | cons first rest ih => exact ih (hsound.reg first)

theorem RegistrySound.unregAll {registered : List TslDevinfo}
    (hsound : RegistrySound registered) (visited : List HubEntry) :
    RegistrySound (visited.foldl (fun registered entry =>
      tslUnreg (jsonToSubdev entry).devinfo registered) registered) := by
  induction visited generalizing registered with
  | nil => exact hsound
  | cons first rest ih => exact ih (hsound.unreg (jsonToSubdev first).devinfo)

theorem RegistrySound.writeHublist {state : HubState}
    (hsound : RegistrySound state.registered) {hublist : List HubEntry}
    {follow : HubState → HubState}
    (hfollow : RegistrySound
      (follow { state with hublist := hublist }).registered)
    (write : HubWrite) :
    RegistrySound (state.writeHublist write hublist follow).2.registered :=
  @HubState.writeHublist_keeps (fun state => RegistrySound state.registered)
    state hublist follow hsound hsound hfollow write

theorem RegistrySound.del {state : HubState}
    (hsound : RegistrySound state.registered) (sn : CString)
    (write : HubWrite) :
    RegistrySound (state.hubDelDo sn write).2.registered := by
  unfold HubState.hubDelDo
  cases state.hublist.find? (hasSubdevSn sn) with
  | none => exact hsound
  | some entry =>
      refine hsound.writeHublist ?_ write
      split_ifs
      · exact hsound
      · exact hsound.unreg (jsonToSubdev entry).devinfo

theorem RegistrySound.mem_unreg {registered : List TslDevinfo}
    (hsound : RegistrySound registered) (entry : HubEntry)
    (devInfo : TslDevinfo) :
    devInfo ∈ tslUnreg (jsonToSubdev entry).devinfo registered ↔
      devInfo ∈ registered ∧ devInfo.devSubserial ≠ entry.sn.1 :=
  mem_eraseP_key hsound.serials entry.sn.1

theorem RegistrySound.mem_unregAll {registered : List TslDevinfo}
    (hsound : RegistrySound registered) (visited : List HubEntry)
    (devInfo : TslDevinfo) :
    devInfo ∈ visited.foldl (fun registered entry =>
        tslUnreg (jsonToSubdev entry).devinfo registered) registered ↔
      devInfo ∈ registered ∧
        ∀ entry ∈ visited, devInfo.devSubserial ≠ entry.sn.1 := by
  induction visited generalizing registered with
  | nil => simp
  | cons first rest ih =>
      rw [List.foldl_cons, ih (hsound.unreg (jsonToSubdev first).devinfo),
        hsound.mem_unreg, List.forall_mem_cons, and_assoc]

/-- Sub-devices whose serial numbers are not listed are all registered. -/
theorem regAll_eq {registered : List TslDevinfo} {visited : List HubEntry}
    (hdistinct : (visited.map fun entry => entry.sn.1).Nodup)
    (hnew : ∀ entry ∈ visited, ∀ listed ∈ registered,
      listed.devSubserial ≠ entry.sn.1) :
    visited.foldl (fun registered entry =>
        tslReg (jsonToSubdev entry).devinfo registered) registered =
      registered ++ visited.map HubEntry.registration := by
  induction visited generalizing registered with
  | nil => simp
  | cons first rest ih =>
      rw [List.map_cons, List.nodup_cons] at hdistinct
      rw [List.forall_mem_cons] at hnew
      rw [List.foldl_cons, tslReg_of_new hnew.1, ih hdistinct.2]
      · rw [List.map_cons, List.append_assoc]
        rfl
      · intro entry hentry listed hlisted
        rcases List.mem_append.mp hlisted with hold | hfirst
        · exact hnew.2 entry hentry listed hold
        · rw [List.mem_singleton.mp hfirst, first.registration_serial]
          intro heq
          apply hdistinct.1
          rw [heq]
          exact List.mem_map_of_mem hentry

/-! ## The registrations follow the list -/

namespace HubState

/-- A sub-device is registered exactly if it is stored with its access flag
set, and then with its stored type and version. -/
def Tracks (state : HubState) : Prop :=
  ∀ devInfo, devInfo ∈ state.registered ↔
    ∃ entry ∈ state.hublist, entry.access = true ∧ devInfo = entry.devinfo

/-- What holds in every run. -/
structure TslSound (sublistMax : ℕ) (state : HubState) : Prop extends
    ListSound sublistMax state where
  registry : RegistrySound state.registered

/-- A new version is for an authenticated sub-device and fits the registration,
a sub-device that passes its authentication has a type and a version that fit,
and a clean that cannot be written meets no authenticated sub-device.  What
reaches the storage in the log line of a failure changes no registration. -/
def TslKept (state : HubState) : HubEvent → Prop
  | .del sn write | .authFailure sn write =>
      state.locked = false → write = .retried →
        ∀ entry, state.hublist.find? (hasSubdevSn sn) = some entry →
          entry.access = false
  | .verUpdate sn ver write =>
      state.locked = false →
        ∀ entry, state.hublist.find? (hasSubdevSn sn) = some entry →
          (write = .stored → entry.access = true ∧ ver.length ≤ 32) ∧
            (write = .retried → entry.access = true → ver = entry.ver)
  | .authPassed sn write =>
      state.locked = false →
        ∀ entry, state.hublist.find? (hasSubdevSn sn) = some entry →
          (write = .stored →
            entry.type.1.length ≤ 23 ∧ entry.ver.length ≤ 32) ∧
            (write = .retried → entry.access = true)
  | .clean write =>
      state.locked = false → write = .failed →
        state.enumerated.isSome = true →
          ∀ entry ∈ state.hublist, entry.access = false
  | _ => True

variable {sublistMax : ℕ}

theorem Tracks.registered_of_access {state : HubState}
    (htracks : state.Tracks) {entry : HubEntry}
    (hentry : entry ∈ state.hublist) (haccess : entry.access = true) :
    entry.devinfo ∈ state.registered :=
  (htracks entry.devinfo).mpr ⟨entry, hentry, haccess, rfl⟩

theorem Tracks.fits {state : HubState} (htracks : state.Tracks)
    (hsound : state.TslSound sublistMax) {entry : HubEntry}
    (hentry : entry ∈ state.hublist) (haccess : entry.access = true) :
    entry.registration = entry.devinfo := by
  rw [entry.registration_eq_iff]
  exact hsound.registry.short entry.devinfo
    (htracks.registered_of_access hentry haccess)

/-- The entry that a serial number stands for. -/
theorem TslSound.eq_found {state : HubState} (hsound : state.TslSound sublistMax)
    {sn : CString} {entry other : HubEntry}
    (hfind : state.hublist.find? (hasSubdevSn sn) = some entry)
    (hother : other ∈ state.hublist) (hsn : other.sn.1 = sn) :
    other = entry :=
  eq_of_find?_key hsound.distinct hfind hother hsn

theorem found_sn {state : HubState} {sn : CString} {entry : HubEntry}
    (hfind : state.hublist.find? (hasSubdevSn sn) = some entry) :
    entry.sn.1 = sn := by
  have hfound := List.find?_some hfind
  exact of_decide_eq_true hfound

/-- A sub-device that is not authenticated has no registration. -/
theorem Tracks.not_registered {state : HubState} (htracks : state.Tracks)
    (hsound : state.TslSound sublistMax) {sn : CString} {entry : HubEntry}
    (hfind : state.hublist.find? (hasSubdevSn sn) = some entry)
    (haccess : entry.access = false) :
    ∀ listed ∈ state.registered, listed.devSubserial ≠ entry.sn.1 := by
  intro listed hlisted hserial
  rcases (htracks listed).mp hlisted with ⟨other, hother, haccess', heq⟩
  have hsn : other.sn.1 = sn := by
    rw [← found_sn hfind, ← hserial, heq]
    rfl
  rw [hsound.eq_found hfind hother hsn, haccess] at haccess'
  exact Bool.false_ne_true haccess'

/-- The list and the registrations without one sub-device. -/
theorem Tracks.without {state : HubState} (htracks : state.Tracks)
    (hsound : state.TslSound sublistMax) (entry : HubEntry) (devInfo : TslDevinfo) :
    devInfo ∈ tslUnreg (jsonToSubdev entry).devinfo state.registered ↔
      ∃ other ∈ state.hublist, other.sn.1 ≠ entry.sn.1 ∧
        other.access = true ∧ devInfo = other.devinfo := by
  rw [hsound.registry.mem_unreg, htracks]
  constructor
  · rintro ⟨⟨other, hother, haccess, heq⟩, hserial⟩
    rw [heq] at hserial
    exact ⟨other, hother, hserial, haccess, heq⟩
  · rintro ⟨other, hother, hserial, haccess, heq⟩
    refine ⟨⟨other, hother, haccess, heq⟩, ?_⟩
    rw [heq]
    exact hserial

theorem tslUnreg_of_new {registered : List TslDevinfo} {entry : HubEntry}
    (hnew : ∀ listed ∈ registered, listed.devSubserial ≠ entry.sn.1) :
    tslUnreg (jsonToSubdev entry).devinfo registered = registered := by
  apply List.eraseP_of_forall_not
  intro listed hlisted
  rw [decide_eq_true_eq]
  exact hnew listed hlisted

/-- One sub-device changed, and registered after its old registration is gone:
this is right exactly if it is authenticated now and its registration says what
is stored. -/
theorem Tracks.changed_iff {state : HubState} (htracks : state.Tracks)
    (hsound : state.TslSound sublistMax) {sn : CString} {entry : HubEntry}
    (hfind : state.hublist.find? (hasSubdevSn sn) = some entry)
    (change : HubEntry → HubEntry) (hsn : (change entry).sn = entry.sn) :
    Tracks { state with
      hublist := updateFirst (hasSubdevSn sn) change state.hublist
      registered := tslReg (jsonToSubdev (change entry)).devinfo
        (tslUnreg (jsonToSubdev entry).devinfo state.registered) } ↔
      (change entry).access = true ∧
        (change entry).registration = (change entry).devinfo := by
  have hfound := found_sn hfind
  have hnew : ∀ listed ∈
      tslUnreg (jsonToSubdev entry).devinfo state.registered,
      listed.devSubserial ≠ (change entry).sn.1 := by
    intro listed hlisted
    rw [hsn]
    exact ((hsound.registry.mem_unreg entry listed).mp hlisted).2
  rw [tslReg_of_new hnew]
  have hmem : ∀ other, other ∈ updateFirst (hasSubdevSn sn) change
      state.hublist ↔ other = change entry ∨
        other ∈ state.hublist ∧ other.sn.1 ≠ sn := fun other =>
    mem_updateFirst_key hsound.distinct hfind
  unfold Tracks
  dsimp only
  simp only [List.mem_append, List.mem_singleton,
    htracks.without hsound entry, hmem]
  constructor
  · intro hafter
    have hregistered := (hafter (change entry).registration).mp (Or.inr rfl)
    rcases hregistered with ⟨other, hother | hother, haccess, heq⟩
    · rw [hother] at haccess heq
      exact ⟨haccess, heq⟩
    · have hserial := congrArg TslDevinfo.devSubserial heq
      rw [HubEntry.registration_serial, hsn, hfound] at hserial
      exact absurd hserial.symm hother.2
  · rintro ⟨haccess, heq⟩ devInfo
    constructor
    · rintro (⟨other, hother, hserial, haccess', heq'⟩ | hnew)
      · rw [hfound] at hserial
        exact ⟨other, Or.inr ⟨hother, hserial⟩, haccess', heq'⟩
      · exact ⟨change entry, Or.inl rfl, haccess, hnew.trans heq⟩
    · rintro ⟨other, hother | ⟨hother, hserial⟩, haccess', heq'⟩
      · rw [hother] at heq'
        exact Or.inr (heq'.trans heq.symm)
      · rw [← hfound] at hserial
        exact Or.inl ⟨other, hother, hserial, haccess', heq'⟩

/-- One sub-device changed in the list alone: this is right exactly if the
registration that it asks for is the one that it had. -/
theorem Tracks.relisted_iff {state : HubState} (htracks : state.Tracks)
    (hsound : state.TslSound sublistMax) {sn : CString} {entry : HubEntry}
    (hfind : state.hublist.find? (hasSubdevSn sn) = some entry)
    (change : HubEntry → HubEntry) (hsn : (change entry).sn = entry.sn) :
    Tracks { state with
      hublist := updateFirst (hasSubdevSn sn) change state.hublist } ↔
      (change entry).access = entry.access ∧
        (entry.access = true → (change entry).devinfo = entry.devinfo) := by
  have hmem := List.mem_of_find?_eq_some hfind
  have hserial : (change entry).devinfo.devSubserial = entry.sn.1 := by
    rw [← hsn]
    rfl
  have hupdated : ∀ other, other ∈ updateFirst (hasSubdevSn sn) change
      state.hublist ↔ other = change entry ∨
        other ∈ state.hublist ∧ other.sn.1 ≠ sn := fun other =>
    mem_updateFirst_key hsound.distinct hfind
  unfold Tracks
  dsimp only
  simp only [hupdated]
  constructor
  · intro hafter
    cases haccess : entry.access with
    | false =>
        have hnew := htracks.not_registered hsound hfind haccess
        refine ⟨?_, nofun⟩
        rw [← Bool.not_eq_true]
        intro hchanged
        have hregistered := (hafter (change entry).devinfo).mpr
          ⟨change entry, Or.inl rfl, hchanged, rfl⟩
        exact hnew _ hregistered hserial
    | true =>
        have hregistered := htracks.registered_of_access hmem haccess
        rcases (hafter entry.devinfo).mp hregistered with
          ⟨other, hother | hother, hother', heq⟩
        · rw [hother] at hother' heq
          exact ⟨hother', fun _ => heq.symm⟩
        · have hsame := congrArg TslDevinfo.devSubserial heq
          exact absurd (hsame.symm.trans (found_sn hfind)) hother.2
  · rintro ⟨hsame, hdevinfo⟩ devInfo
    rw [htracks devInfo]
    constructor
    · rintro ⟨other, hother, haccess, heq⟩
      by_cases hother' : other.sn.1 = sn
      · rw [hsound.eq_found hfind hother hother'] at haccess heq
        refine ⟨change entry, Or.inl rfl, hsame.trans haccess, ?_⟩
        rw [heq, hdevinfo haccess]
      · exact ⟨other, Or.inr ⟨hother, hother'⟩, haccess, heq⟩
    · rintro ⟨other, hother | hother, haccess, heq⟩
      · rw [hother] at haccess heq
        rw [hsame] at haccess
        exact ⟨entry, hmem, haccess, heq.trans (hdevinfo haccess)⟩
      · exact ⟨other, hother.1, haccess, heq⟩

/-! ## The operations -/

theorem Tracks.add {state : HubState} (htracks : state.Tracks)
    (sublistMax : ℕ) (subdev : HubSubdev) (write : HubWrite) :
    (state.hubAddDo sublistMax subdev write).2.Tracks := by
  have happended : ∀ unauthCount, Tracks { state with
      hublist := state.hublist ++
        [subdevToJson { subdev with access := false }]
      unauthCount := unauthCount } := by
    intro unauthCount devInfo
    dsimp only
    rw [htracks devInfo]
    simp [subdevToJson]
  unfold hubAddDo
  split_ifs
  · exact htracks
  · exact htracks
  · exact writeHublist_keeps htracks (happended _) (happended _) write

theorem Tracks.del_iff {state : HubState} (htracks : state.Tracks)
    (hsound : state.TslSound sublistMax) (sn : CString) (write : HubWrite) :
    (state.hubDelDo sn write).2.Tracks ↔
      (write = .retried → ∀ entry,
        state.hublist.find? (hasSubdevSn sn) = some entry →
          entry.access = false) := by
  unfold hubDelDo
  cases hfind : state.hublist.find? (hasSubdevSn sn) with
  | none => simp [htracks]
  | some entry =>
      have hfound := found_sn hfind
      have hmem : ∀ other, other ∈ state.hublist.eraseP (hasSubdevSn sn) ↔
          other ∈ state.hublist ∧ other.sn.1 ≠ sn := fun other =>
        mem_eraseP_key hsound.distinct sn
      have hrest : ∀ devInfo,
          devInfo ∈ tslUnreg (jsonToSubdev entry).devinfo state.registered ↔
            ∃ other ∈ state.hublist.eraseP (hasSubdevSn sn),
              other.access = true ∧ devInfo = other.devinfo := by
        intro devInfo
        rw [htracks.without hsound, hfound]
        simp only [hmem, and_assoc]
      have hunauth : entry.access = false → Tracks { state with
          hublist := state.hublist.eraseP (hasSubdevSn sn) } := by
        intro haccess
        rw [tslUnreg_of_new
          (htracks.not_registered hsound hfind haccess)] at hrest
        exact hrest
      simp only [Option.some.injEq, forall_eq']
      cases write with
      | stored =>
          refine iff_of_true ?_ (by simp)
          simp only [writeHublist]
          split_ifs with haccess
          · exact hunauth ((Bool.not_eq_true' _).mp haccess)
          · exact hrest
      | retried =>
          rw [forall_prop_of_true rfl]
          refine ⟨?_, hunauth⟩
          intro hafter
          rw [← Bool.not_eq_true]
          intro haccess
          have hregistered := htracks.registered_of_access
            (List.mem_of_find?_eq_some hfind) haccess
          rcases (hafter entry.devinfo).mp hregistered with
            ⟨other, hother, _, heq⟩
          have hsame := congrArg TslDevinfo.devSubserial heq
          exact ((hmem other).mp hother).2 (hsame.symm.trans hfound)
      | failed => exact iff_of_true htracks (by simp)

theorem Tracks.verUpdate_iff {state : HubState} (htracks : state.Tracks)
    (hsound : state.TslSound sublistMax) (sn ver : CString)
    (write : HubWrite) :
    (state.hubVerUpdateDo sn ver write).2.Tracks ↔
      ∀ entry, state.hublist.find? (hasSubdevSn sn) = some entry →
        (write = .stored → entry.access = true ∧ ver.length ≤ 32) ∧
          (write = .retried → entry.access = true → ver = entry.ver) := by
  unfold hubVerUpdateDo
  cases hfind : state.hublist.find? (hasSubdevSn sn) with
  | none => simp [htracks]
  | some entry =>
      simp only [Option.some.injEq, forall_eq']
      cases write with
      | stored =>
          have hchanged := htracks.changed_iff hsound hfind
            (fun entry => { entry with ver := ver }) rfl
          rw [HubEntry.registration_eq_iff] at hchanged
          refine hchanged.trans ?_
          constructor
          · intro hafter
            exact ⟨fun _ => ⟨hafter.1, hafter.2.2⟩, by simp⟩
          · intro hcondition
            have hversion := hcondition.1 rfl
            have hfits := htracks.fits hsound
              (List.mem_of_find?_eq_some hfind) hversion.1
            rw [entry.registration_eq_iff] at hfits
            exact ⟨hversion.1, hfits.1, hversion.2⟩
      | retried =>
          have hrelisted := htracks.relisted_iff hsound hfind
            (fun entry => { entry with ver := ver }) rfl
          refine hrelisted.trans ?_
          simp [HubEntry.devinfo]
      | failed => exact iff_of_true htracks (by simp)

theorem Tracks.statusUpdate {state : HubState} (htracks : state.Tracks)
    (hsound : state.TslSound sublistMax) (sn : CString) (online : Bool)
    (write : HubWrite) :
    (state.hubStatusUpdateDo sn online write).2.Tracks := by
  unfold hubStatusUpdateDo
  cases hfind : state.hublist.find? (hasSubdevSn sn) with
  | none => exact htracks
  | some entry =>
      have hrelisted := (htracks.relisted_iff hsound hfind
        (fun entry => { entry with sta := online }) rfl).mpr
          ⟨rfl, fun _ => rfl⟩
      exact writeHublist_keeps htracks hrelisted hrelisted write

theorem Tracks.authPassed_iff {state : HubState} (htracks : state.Tracks)
    (hsound : state.TslSound sublistMax) (sn : CString) (write : HubWrite) :
    (state.hubSubdevAuthPassed sn write).2.Tracks ↔
      ∀ entry, state.hublist.find? (hasSubdevSn sn) = some entry →
        (write = .stored →
          entry.type.1.length ≤ 23 ∧ entry.ver.length ≤ 32) ∧
          (write = .retried → entry.access = true) := by
  unfold hubSubdevAuthPassed
  cases hfind : state.hublist.find? (hasSubdevSn sn) with
  | none => simp [htracks]
  | some entry =>
      simp only [Option.some.injEq, forall_eq']
      cases write with
      | stored =>
          have hchanged := htracks.changed_iff hsound hfind
            (fun entry => { entry with access := true }) rfl
          rw [HubEntry.registration_eq_iff] at hchanged
          simp only [writeHublist, forall_const, reduceCtorEq,
            IsEmpty.forall_iff, and_true]
          cases haccess : entry.access with
          | false =>
              have hnew := htracks.not_registered hsound hfind haccess
              rw [tslUnreg_of_new hnew] at hchanged
              exact hchanged.trans (and_iff_right rfl)
          | true =>
              have hmem := List.mem_of_find?_eq_some hfind
              have hlisted : ∃ listed ∈ state.registered,
                  listed.devSubserial = entry.sn.1 :=
                ⟨entry.devinfo, htracks.registered_of_access hmem haccess,
                  rfl⟩
              have hsame : updateFirst (hasSubdevSn sn)
                  (fun entry => { entry with access := true })
                  state.hublist = state.hublist :=
                updateFirst_of_fixed (by rw [← haccess]) hfind
              have hfits := htracks.fits hsound hmem haccess
              rw [entry.registration_eq_iff] at hfits
              rw [tslReg_of_listed hlisted, hsame]
              exact iff_of_true htracks hfits
      | retried =>
          have hrelisted := htracks.relisted_iff hsound hfind
            (fun entry => { entry with access := true }) rfl
          refine hrelisted.trans ?_
          constructor
          · intro hafter
            exact ⟨by simp, fun _ => hafter.1.symm⟩
          · intro hcondition
            exact ⟨(hcondition.2 rfl).symm, fun _ => rfl⟩
      | failed => exact iff_of_true htracks (by simp)

theorem Tracks.clean_iff {state : HubState} (htracks : state.Tracks)
    (hsound : state.TslSound sublistMax) (write : HubWrite) :
    (state.hubCleanDo state.hublist write).2.Tracks ↔
      (write = .failed → ∀ entry ∈ state.hublist, entry.access = false) := by
  have hnone : ∀ devInfo,
      devInfo ∉ hubTslUnregAll state.hublist state.registered := by
    intro devInfo hmem
    unfold hubTslUnregAll at hmem
    rw [hsound.registry.mem_unregAll] at hmem
    rcases (htracks devInfo).mp hmem.1 with ⟨entry, hentry, haccess, heq⟩
    apply hmem.2 entry
    · rw [List.mem_filter]
      exact ⟨hentry, haccess⟩
    · rw [heq]
      rfl
  unfold hubCleanDo Tracks
  cases write with
  | stored | retried =>
      refine iff_of_true ?_ (by simp)
      intro devInfo
      refine iff_of_false (hnone devInfo) ?_
      rintro ⟨entry, hentry, _⟩
      exact List.not_mem_nil hentry
  | failed =>
      simp only [forall_const]
      constructor
      · intro hafter entry hentry
        rw [← Bool.not_eq_true]
        intro haccess
        exact hnone entry.devinfo
          ((hafter entry.devinfo).mpr ⟨entry, hentry, haccess, rfl⟩)
      · intro hunauth devInfo
        refine iff_of_false (hnone devInfo) ?_
        rintro ⟨entry, hentry, haccess, _⟩
        rw [hunauth entry hentry] at haccess
        exact Bool.false_ne_true haccess

/-- The start registers what was registered before it. -/
theorem Tracks.startUp {state : HubState} (htracks : state.Tracks)
    (hsound : state.TslSound sublistMax) :
    (state.restarted.hubTslRegAll state.hublist).Tracks := by
  have hdistinct : ((state.hublist.filter fun entry => entry.access).map
      fun entry => entry.sn.1).Nodup :=
    hsound.distinct.sublist (List.filter_sublist.map _)
  have hregistered : (state.restarted.hubTslRegAll
      state.hublist).registered = (state.hublist.filter
        fun entry => entry.access).map HubEntry.registration := by
    unfold hubTslRegAll restarted
    dsimp only
    rw [regAll_eq hdistinct]
    · rfl
    · intro entry _ listed hlisted
      exact absurd hlisted List.not_mem_nil
  intro devInfo
  rw [hregistered, List.mem_map]
  constructor
  · rintro ⟨entry, hentry, heq⟩
    rw [List.mem_filter] at hentry
    refine ⟨entry, hentry.1, hentry.2, ?_⟩
    rw [← heq, htracks.fits hsound hentry.1 hentry.2]
  · rintro ⟨entry, hentry, haccess, heq⟩
    refine ⟨entry, List.mem_filter.mpr ⟨hentry, haccess⟩, ?_⟩
    rw [heq]
    exact htracks.fits hsound hentry haccess

/-! ## Runs -/

theorem TslSound.step {state next : HubState}
    (hsound : state.TslSound sublistMax) {event : HubEvent}
    (hstep : state.step sublistMax event = some next) :
    next.TslSound sublistMax := by
  refine ⟨hsound.toListSound.step hstep, ?_⟩
  have hregistry := hsound.registry
  cases event with
  | startUp =>
      rcases Option.map_eq_some_iff.mp hstep with ⟨visited, _, hnext⟩
      rw [← hnext]
      exact RegistrySound.nil.regAll _
  | clean write =>
      have hclean := (unlocked_eq_some hstep).2
      rcases Option.map_eq_some_iff.mp hclean with ⟨visited, _, hnext⟩
      rw [← hnext]
      cases write with
      | stored | retried | failed => exact hregistry.unregAll _
  | add subdev write =>
      rw [← Option.some.inj (unlocked_eq_some hstep).2]
      unfold hubAddDo
      split_ifs
      · exact hregistry
      · exact hregistry
      · refine hregistry.writeHublist ?_ write
        exact hregistry
  | del sn write =>
      rw [← Option.some.inj (unlocked_eq_some hstep).2]
      exact hregistry.del sn write
  | verUpdate sn ver write =>
      rw [← Option.some.inj (unlocked_eq_some hstep).2]
      unfold hubVerUpdateDo
      cases state.hublist.find? (hasSubdevSn sn) with
      | none => exact hregistry
      | some entry =>
          refine hregistry.writeHublist ?_ write
          exact (hregistry.unreg _).reg _
  | statusUpdate sn online write =>
      rw [← Option.some.inj (unlocked_eq_some hstep).2]
      unfold hubStatusUpdateDo
      cases state.hublist.find? (hasSubdevSn sn) with
      | none => exact hregistry
      | some entry =>
          refine hregistry.writeHublist ?_ write
          exact hregistry
  | authPassed sn write =>
      rw [← Option.some.inj (unlocked_eq_some hstep).2]
      unfold hubSubdevAuthPassed
      cases state.hublist.find? (hasSubdevSn sn) with
      | none => exact hregistry
      | some entry =>
          refine hregistry.writeHublist ?_ write
          exact hregistry.reg _
  | authFailure sn write =>
      rw [← Option.some.inj (unlocked_eq_some hstep).2]
      exact hregistry.del sn write

/-- One operation keeps the registrations in step exactly under the
condition. -/
theorem Tracks.step_iff {state next : HubState} (htracks : state.Tracks)
    (hsound : state.TslSound sublistMax) {event : HubEvent}
    (hstep : state.step sublistMax event = some next) :
    next.Tracks ↔ state.TslKept event := by
  cases event with
  | startUp =>
      rcases Option.map_eq_some_iff.mp hstep with ⟨visited, hvisited, hnext⟩
      rw [← hnext, hsound.toListSound.enumerated hvisited]
      exact iff_of_true (htracks.startUp hsound) trivial
  | clean write =>
      rcases unlocked_eq_some hstep with ⟨hlocked, hclean⟩
      rcases Option.map_eq_some_iff.mp hclean with
        ⟨visited, hvisited, hnext⟩
      rw [← hnext, hsound.toListSound.enumerated hvisited,
        htracks.clean_iff hsound write]
      simp [TslKept, hlocked, hvisited]
  | add subdev write =>
      rw [← Option.some.inj (unlocked_eq_some hstep).2]
      exact iff_of_true (htracks.add sublistMax subdev write) trivial
  | del sn write | authFailure sn write =>
      rcases unlocked_eq_some hstep with ⟨hlocked, hnext⟩
      have hdel := htracks.del_iff hsound sn write
      rw [← Option.some.inj hnext]
      refine hdel.trans ?_
      simp [TslKept, hlocked]
  | verUpdate sn ver write =>
      rcases unlocked_eq_some hstep with ⟨hlocked, hnext⟩
      rw [← Option.some.inj hnext, htracks.verUpdate_iff hsound sn ver write]
      simp [TslKept, hlocked]
  | statusUpdate sn online write =>
      rw [← Option.some.inj (unlocked_eq_some hstep).2]
      exact iff_of_true (htracks.statusUpdate hsound sn online write) trivial
  | authPassed sn write =>
      rcases unlocked_eq_some hstep with ⟨hlocked, hnext⟩
      rw [← Option.some.inj hnext, htracks.authPassed_iff hsound sn write]
      simp [TslKept, hlocked]

end HubState

/-! ## The device list of the component -/

theorem devListed_eq_any (devices : List AdapterDev) (sn : CString) :
    devListed devices sn =
      (devices.map fun dev => dev.devinfo).any
        fun listed => listed.devSubserial = sn := by
  rw [AdapterState.devListed_eq, List.any_map, List.isSome_find?]
  rfl

/-- The component's registration as one of the device list. -/
theorem AdapterState.devices_add (lib : AdapterLib) (devInfo : TslDevinfo)
    (state : AdapterState) :
    (state.ezIotTslAdapterAdd lib devInfo).devices.map
        (fun dev => dev.devinfo) =
      tslReg devInfo (state.devices.map fun dev => dev.devinfo) := by
  rw [AdapterState.add_cases]
  unfold tslReg
  rw [← devListed_eq_any]
  split_ifs
  · rfl
  · split
    · exact List.map_append
    · exact List.map_append

theorem AdapterState.devices_del (devInfo : TslDevinfo)
    (state : AdapterState) :
    (state.ezIotTslAdapterDel devInfo).devices.map (fun dev => dev.devinfo) =
      tslUnreg devInfo (state.devices.map fun dev => dev.devinfo) := by
  unfold AdapterState.ezIotTslAdapterDel tslUnreg
  rw [devListed_eq_any]
  split_ifs with hlisted
  · rw [List.eraseP_of_forall_not]
    intro listed hmem
    rw [Bool.not_eq_true', List.any_eq_false] at hlisted
    exact hlisted listed hmem
  · rw [List.eraseP_map]
    rfl

end EziotSdk

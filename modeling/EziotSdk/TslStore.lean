import EziotSdk.CStrings
import EziotSdk.StepSystem

/-!
# Stored profiles

The key-value store of `ez_iot_tsl_adapter.c`: the map `tslmap`, one entry per
device with the handle of its profile, and the profiles under their handles.
A handle is a digest of device type and firmware version, so devices share
profiles.  The number of entries that name a handle decides whether a profile
is deleted; the loop that counts them leaves at the first one.
-/

namespace EziotSdk

/-! ## State -/

/-- `tsl_devinfo_t`, as the callers of the adapter pass it. -/
structure TslDevinfo where
  devSubserial : CString
  devType : CString
  devFirmwareversion : CString
  deriving DecidableEq, Repr

/-- `tslmap_metadata_t`. -/
structure TslmapMetadata where
  sn : CString
  handle : CString
  deriving DecidableEq, Repr

/-- The bytes of a stored profile, and the type and version they were saved
for. -/
structure SavedProfile where
  text : CString
  devType : CString
  devFirmwareversion : CString
  deriving DecidableEq, Repr

/-- The map is `none` as long as nothing was stored under its key. -/
structure TslStore where
  tslmap : Option (List TslmapMetadata)
  profiles : CString → Option SavedProfile

/-- The MD5 digest of a text in base64. -/
structure TslDigest where
  digest : CString → CString
  length_digest : ∀ text, (digest text).length = 24

def ezTslKeyTslPrefix : CString := "tslpf".toList

/-- The handle; `snprintf` keeps 31 characters. -/
def devinfo2index (md5 : TslDigest) (devInfo : TslDevinfo) : CString :=
  CString.strncpy (ezTslKeyTslPrefix ++ '_' ::
    md5.digest (devInfo.devType ++ devInfo.devFirmwareversion)) 31

/-! ## The functions -/

def getTslHandleCount : List TslmapMetadata → CString → ℕ
  | [], _ => 0
  | metadata :: rest, handle =>
      if metadata.handle = handle then 1 else getTslHandleCount rest handle

/-- `find_dev_by_sn` and the entry at the index it returns. -/
def findDevBySn (sn : CString) (entries : List TslmapMetadata) :
    Option TslmapMetadata :=
  entries.find? fun metadata => metadata.sn = sn

/-- A new handle in the entry that `find_dev_by_sn` finds. -/
def replaceHandle (sn handle : CString) :
    List TslmapMetadata → List TslmapMetadata
  | [] => []
  | metadata :: rest =>
      if metadata.sn = sn then { metadata with handle := handle } :: rest
      else metadata :: replaceHandle sn handle rest

namespace TslStore

/-- Nothing is stored. -/
def empty : TslStore := ⟨none, fun _ => none⟩

def entries (store : TslStore) : List TslmapMetadata := store.tslmap.getD []

def kvDel (key : CString) (store : TslStore) : TslStore :=
  { store with profiles := Function.update store.profiles key none }

def kvDelByPrefix (keyStart : CString) (store : TslStore) : TslStore :=
  { store with
    profiles := fun key =>
      if keyStart <+: key then none else store.profiles key }

/-- The map part of `tsl_adapter_profile_save`. -/
def saveMap (devInfo : TslDevinfo) (handleCurr : CString)
    (store : TslStore) : TslStore :=
  let store := match store.tslmap with
    | none => { store.kvDelByPrefix ezTslKeyTslPrefix with tslmap := some [] }
    | some _ => store
  match findDevBySn devInfo.devSubserial store.entries with
  | none =>
      { store with
        tslmap := some (store.entries ++
          [⟨CString.strncpy devInfo.devSubserial 47,
            CString.strncpy handleCurr 31⟩]) }
  | some metadata =>
      if metadata.handle = handleCurr then store
      else
        let kept :=
          if getTslHandleCount store.entries metadata.handle = 1 then
            store.kvDel metadata.handle
          else store
        { kept with
          tslmap := some (replaceHandle devInfo.devSubserial handleCurr
            store.entries) }

/-- `tsl_adapter_profile_save`; `none` is the NULL profile. -/
def profileSave (md5 : TslDigest) (devInfo : TslDevinfo)
    (profile : Option CString) (store : TslStore) : TslStore :=
  let handleCurr := devinfo2index md5 devInfo
  let saved := store.saveMap devInfo handleCurr
  match profile with
  | none => saved
  | some text =>
      if getTslHandleCount saved.entries handleCurr = 1 then
        { saved with
          profiles := Function.update saved.profiles handleCurr
            (some ⟨text, devInfo.devType, devInfo.devFirmwareversion⟩) }
      else saved

/-- `ez_iot_tsl_adapter_profile_del`; the deletion of a key that is not there
fails, and then the map stays. -/
def profileDel (devSubserial : CString) (store : TslStore) : TslStore :=
  match findDevBySn devSubserial store.entries with
  | none => store
  | some metadata =>
      let shorter := some
        (store.entries.eraseP fun metadata => metadata.sn = devSubserial)
      if getTslHandleCount store.entries metadata.handle = 1 then
        if store.profiles metadata.handle = none then store
        else { store.kvDel metadata.handle with tslmap := shorter }
      else { store with tslmap := shorter }

end TslStore

/-- A call that changes the store. -/
inductive StoreCall where
  | save (devInfo : TslDevinfo) (profile : Option CString)
  | delete (devSubserial : CString)
  deriving DecidableEq, Repr

namespace TslStore

def step (md5 : TslDigest) (store : TslStore) :
    StoreCall → Option TslStore
  | .save devInfo profile => some (store.profileSave md5 devInfo profile)
  | .delete devSubserial => some (store.profileDel devSubserial)

/-- The handles in the map are those of the stored profiles. -/
structure Agrees (store : TslStore) : Prop where
  named : ∀ metadata ∈ store.entries,
    store.profiles metadata.handle ≠ none
  referenced : ∀ handle, store.profiles handle ≠ none →
    ∃ metadata ∈ store.entries, metadata.handle = handle

/-- The device of this serial number can give up its handle. -/
def Released (store : TslStore) (sn : CString) (handleCurr : Option CString) :
    Prop :=
  ∀ metadata, findDevBySn sn store.entries = some metadata →
    some metadata.handle ≠ handleCurr →
      store.entries.countP (fun other => other.handle = metadata.handle) = 1

/-- A NULL profile is saved only under a handle with a profile, and a device
gives up a handle only if no other entry names it. -/
def CallSound (md5 : TslDigest) (store : TslStore) : StoreCall → Prop
  | .save devInfo profile =>
      (profile = none →
        store.profiles (devinfo2index md5 devInfo) ≠ none) ∧
      store.Released devInfo.devSubserial
        (some (devinfo2index md5 devInfo))
  | .delete devSubserial => store.Released devSubserial none

/-! ## The map -/

theorem getTslHandleCount_eq_one_iff
    (entries : List TslmapMetadata) (handle : CString) :
    getTslHandleCount entries handle = 1 ↔
      ∃ metadata ∈ entries, metadata.handle = handle := by
  induction entries with
  | nil => simp [getTslHandleCount]
  | cons metadata rest ih =>
      unfold getTslHandleCount
      by_cases hhandle : metadata.handle = handle
      · simp [hhandle]
      · simp [hhandle, ih]

theorem findDevBySn_split
    {sn : CString} {entries : List TslmapMetadata} {metadata : TslmapMetadata}
    (hfind : findDevBySn sn entries = some metadata) :
    ∃ before after, entries = before ++ metadata :: after ∧
      metadata.sn = sn ∧ ∀ other ∈ before, other.sn ≠ sn := by
  have hsplit := List.find?_eq_some_iff_append.mp hfind
  rcases hsplit with ⟨hsn, before, after, hentries, hbefore⟩
  refine ⟨before, after, hentries, by simpa using hsn, ?_⟩
  intro other hother
  simpa using hbefore other hother

theorem replaceHandle_split
    {sn : CString} {before : List TslmapMetadata} {metadata : TslmapMetadata}
    (hsn : metadata.sn = sn) (hbefore : ∀ other ∈ before, other.sn ≠ sn)
    (handle : CString) (after : List TslmapMetadata) :
    replaceHandle sn handle (before ++ metadata :: after) =
      before ++ { metadata with handle := handle } :: after := by
  induction before with
  | nil => simp [replaceHandle, hsn]
  | cons first rest ih =>
      have hfirst : first.sn ≠ sn := hbefore first List.mem_cons_self
      have hrest := ih fun other hother =>
        hbefore other (List.mem_cons_of_mem first hother)
      simp only [List.cons_append, replaceHandle]
      rw [if_neg hfirst, hrest]

theorem erase_split
    {sn : CString} {before : List TslmapMetadata} {metadata : TslmapMetadata}
    (hsn : metadata.sn = sn) (hbefore : ∀ other ∈ before, other.sn ≠ sn)
    (after : List TslmapMetadata) :
    (before ++ metadata :: after).eraseP
        (fun metadata => metadata.sn = sn) = before ++ after := by
  rw [List.eraseP_append_right]
  · rw [List.eraseP_cons_of_pos (by simpa using hsn)]
  · intro other hother
    simpa using hbefore other hother

/-- One entry names the handle exactly if no other does. -/
theorem countP_handle_split
    (before after : List TslmapMetadata) (metadata : TslmapMetadata) :
    (before ++ metadata :: after).countP
        (fun other => other.handle = metadata.handle) = 1 ↔
      ∀ other ∈ before ++ after, other.handle ≠ metadata.handle := by
  have hcount : (before ++ metadata :: after).countP
      (fun other => other.handle = metadata.handle) =
        (before ++ after).countP
          (fun other => other.handle = metadata.handle) + 1 := by
    simp only [List.countP_append, List.countP_cons, decide_true, if_true]
    omega
  rw [hcount, Nat.add_eq_right, List.countP_eq_zero]
  simp

theorem strncpy_devinfo2index (md5 : TslDigest) (devInfo : TslDevinfo) :
    CString.strncpy (devinfo2index md5 devInfo) 31 =
      devinfo2index md5 devInfo :=
  CString.strncpy_idem _ 31

namespace Agrees

theorem profiles_eq_none {store : TslStore} (hagrees : store.Agrees)
    (hmap : store.tslmap = none) : store.profiles = fun _ => none := by
  funext handle
  by_contra hstored
  have hentry := hagrees.referenced handle hstored
  simp [entries, hmap] at hentry

/-- The first device in the map. -/
theorem saveMap_absent {store : TslStore} (hagrees : store.Agrees)
    {devInfo : TslDevinfo}
    (hfind : findDevBySn devInfo.devSubserial store.entries = none)
    (handleCurr : CString) :
    store.saveMap devInfo handleCurr =
      { store with
        tslmap := some (store.entries ++
          [⟨CString.strncpy devInfo.devSubserial 47,
            CString.strncpy handleCurr 31⟩]) } := by
  cases hmap : store.tslmap with
  | none =>
      have hprofiles := hagrees.profiles_eq_none hmap
      simp [saveMap, hmap, kvDelByPrefix, entries, findDevBySn, hprofiles]
  | some tslmap =>
      simp only [saveMap, hmap, hfind]

end Agrees

theorem tslmap_eq_some {store : TslStore} {sn : CString}
    {metadata : TslmapMetadata}
    (hfind : findDevBySn sn store.entries = some metadata) :
    store.tslmap = some store.entries := by
  cases hmap : store.tslmap with
  | none => simp [entries, hmap, findDevBySn] at hfind
  | some tslmap => simp [entries, hmap]

theorem saveMap_same {store : TslStore} {devInfo : TslDevinfo}
    {metadata : TslmapMetadata}
    (hfind : findDevBySn devInfo.devSubserial store.entries = some metadata) :
    store.saveMap devInfo metadata.handle = store := by
  simp [saveMap, tslmap_eq_some hfind, hfind]

/-- The device gets another handle; its old profile goes. -/
theorem saveMap_changed {store : TslStore} {devInfo : TslDevinfo}
    {metadata : TslmapMetadata} {handleCurr : CString}
    (hfind : findDevBySn devInfo.devSubserial store.entries = some metadata)
    (hhandle : metadata.handle ≠ handleCurr) :
    store.saveMap devInfo handleCurr =
      { store.kvDel metadata.handle with
        tslmap := some
          (replaceHandle devInfo.devSubserial handleCurr store.entries) } := by
  have hmem : metadata ∈ store.entries := List.mem_of_find?_eq_some hfind
  have hcount := (getTslHandleCount_eq_one_iff store.entries
    metadata.handle).mpr ⟨metadata, hmem, rfl⟩
  simp [saveMap, tslmap_eq_some hfind, hfind, hhandle, hcount]

theorem saveMap_present (store : TslStore) (devInfo : TslDevinfo)
    {handleCurr : CString}
    (hfits : CString.strncpy handleCurr 31 = handleCurr)
    (hagrees : store.Agrees) :
    ∃ metadata ∈ (store.saveMap devInfo handleCurr).entries,
      metadata.handle = handleCurr := by
  cases hfind : findDevBySn devInfo.devSubserial store.entries with
  | none =>
      rw [hagrees.saveMap_absent hfind, hfits]
      simp [entries]
  | some metadata =>
      by_cases hhandle : metadata.handle = handleCurr
      · have hsame := saveMap_same hfind
        rw [hhandle] at hsame
        rw [hsame]
        exact ⟨metadata, List.mem_of_find?_eq_some hfind, hhandle⟩
      · rw [saveMap_changed hfind hhandle]
        have hsplit := findDevBySn_split hfind
        rcases hsplit with ⟨before, after, hentries, hsn, hbefore⟩
        rw [hentries, replaceHandle_split hsn hbefore]
        exact ⟨⟨metadata.sn, handleCurr⟩, by simp [entries], rfl⟩

/-! ## What a save leaves -/

theorem saveMap_profiles {store : TslStore} {devInfo : TslDevinfo}
    {handleCurr handle : CString} {saved : SavedProfile}
    (hsaved : (store.saveMap devInfo handleCurr).profiles handle =
      some saved) : store.profiles handle = some saved := by
  cases hfind : findDevBySn devInfo.devSubserial store.entries with
  | none =>
      cases hmap : store.tslmap with
      | none =>
          simp only [saveMap, hmap, kvDelByPrefix, entries, findDevBySn,
            Option.getD_some, List.find?_nil] at hsaved
          split_ifs at hsaved
          exact hsaved
      | some tslmap =>
          simp only [saveMap, hmap, hfind] at hsaved
          exact hsaved
  | some metadata =>
      by_cases hhandle : metadata.handle = handleCurr
      · have hsame := saveMap_same hfind
        rw [hhandle] at hsame
        rwa [hsame] at hsaved
      · rw [saveMap_changed hfind hhandle] at hsaved
        by_cases hold : handle = metadata.handle
        · simp [kvDel, hold] at hsaved
        · simpa [kvDel, hold] using hsaved

theorem profileSave_profiles {md5 : TslDigest} {store : TslStore}
    {devInfo : TslDevinfo} {profile : Option CString} {handle : CString}
    {saved : SavedProfile}
    (hsaved : (store.profileSave md5 devInfo profile).profiles handle =
      some saved) :
    store.profiles handle = some saved ∨
      profile ≠ none ∧ handle = devinfo2index md5 devInfo ∧
        saved.devType = devInfo.devType ∧
        saved.devFirmwareversion = devInfo.devFirmwareversion := by
  unfold profileSave at hsaved
  dsimp only at hsaved
  split at hsaved
  · exact Or.inl (saveMap_profiles hsaved)
  · split_ifs at hsaved
    · dsimp only at hsaved
      by_cases hhandle : handle = devinfo2index md5 devInfo
      · rw [hhandle, Function.update_self, Option.some.injEq] at hsaved
        rw [← hsaved]
        exact Or.inr ⟨Option.some_ne_none _, hhandle, rfl, rfl⟩
      · rw [Function.update_of_ne hhandle] at hsaved
        exact Or.inl (saveMap_profiles hsaved)
    · exact Or.inl (saveMap_profiles hsaved)

theorem profileDel_profiles {store : TslStore} {devSubserial handle : CString}
    {saved : SavedProfile}
    (hsaved : (store.profileDel devSubserial).profiles handle = some saved) :
    store.profiles handle = some saved := by
  unfold profileDel at hsaved
  split at hsaved
  · exact hsaved
  · next metadata hfind =>
      dsimp only at hsaved
      split_ifs at hsaved
      · exact hsaved
      · by_cases hold : handle = metadata.handle
        · simp [kvDel, hold] at hsaved
        · simpa [kvDel, hold] using hsaved
      · exact hsaved

/-- The entry of the device names its current handle. -/
theorem saveMap_find (store : TslStore) {devInfo : TslDevinfo}
    {handleCurr : CString}
    (hsn : CString.strncpy devInfo.devSubserial 47 = devInfo.devSubserial)
    (hfits : CString.strncpy handleCurr 31 = handleCurr) :
    ∃ metadata, findDevBySn devInfo.devSubserial
        (store.saveMap devInfo handleCurr).entries = some metadata ∧
      metadata.handle = handleCurr := by
  cases hfind : findDevBySn devInfo.devSubserial store.entries with
  | none =>
      have hentries : (store.saveMap devInfo handleCurr).entries =
          store.entries ++ [⟨devInfo.devSubserial, handleCurr⟩] := by
        cases hmap : store.tslmap with
        | none =>
            simp [saveMap, hmap, entries, findDevBySn, hsn, hfits]
        | some tslmap =>
            simp only [saveMap, hmap, hfind, hsn, hfits]
            rfl
      refine ⟨⟨devInfo.devSubserial, handleCurr⟩, ?_, rfl⟩
      rw [hentries]
      unfold findDevBySn at hfind ⊢
      rw [List.find?_append, hfind]
      simp
  | some metadata =>
      by_cases hhandle : metadata.handle = handleCurr
      · have hsame := saveMap_same hfind
        rw [hhandle] at hsame
        rw [hsame]
        exact ⟨metadata, hfind, hhandle⟩
      · refine ⟨⟨metadata.sn, handleCurr⟩, ?_, rfl⟩
        have hsplit := findDevBySn_split hfind
        rcases hsplit with ⟨before, after, hentries, hsnMeta, hbefore⟩
        rw [saveMap_changed hfind hhandle, hentries,
          replaceHandle_split hsnMeta hbefore]
        apply List.find?_eq_some_iff_append.mpr
        refine ⟨by simpa using hsnMeta, before, after, rfl, ?_⟩
        intro other hother
        simpa using hbefore other hother

/-- A saved profile is found again under the device it was saved for. -/
theorem profileSave_find (md5 : TslDigest) (store : TslStore)
    {devInfo : TslDevinfo}
    (hsn : CString.strncpy devInfo.devSubserial 47 = devInfo.devSubserial)
    (text : CString) :
    ∃ metadata, findDevBySn devInfo.devSubserial
        (store.profileSave md5 devInfo (some text)).entries =
          some metadata ∧
      (store.profileSave md5 devInfo (some text)).profiles metadata.handle =
        some ⟨text, devInfo.devType, devInfo.devFirmwareversion⟩ := by
  have hfits := strncpy_devinfo2index md5 devInfo
  have hfound := store.saveMap_find hsn hfits
  rcases hfound with ⟨metadata, hfind, hhandle⟩
  have hcount := (getTslHandleCount_eq_one_iff
    (store.saveMap devInfo (devinfo2index md5 devInfo)).entries
    (devinfo2index md5 devInfo)).mpr
      ⟨metadata, List.mem_of_find?_eq_some hfind, hhandle⟩
  refine ⟨metadata, ?_, ?_⟩
  · simp only [profileSave, hcount, if_true]
    exact hfind
  · simp [profileSave, hcount, hhandle]

/-! ## What a call keeps -/

/-- Agreement but for the profile of one handle. -/
structure AgreesUpTo (handle : CString) (store : TslStore) : Prop where
  named : ∀ metadata ∈ store.entries, metadata.handle ≠ handle →
    store.profiles metadata.handle ≠ none
  referenced : ∀ stored, stored ≠ handle → store.profiles stored ≠ none →
    ∃ metadata ∈ store.entries, metadata.handle = stored

theorem agrees_iff_upTo (handle : CString) {store : TslStore}
    (hpresent : ∃ metadata ∈ store.entries, metadata.handle = handle) :
    store.Agrees ↔ store.AgreesUpTo handle ∧ store.profiles handle ≠ none := by
  constructor
  · intro hagrees
    refine ⟨⟨?_, ?_⟩, ?_⟩
    · intro metadata hmem _
      exact hagrees.named metadata hmem
    · intro stored _ hstored
      exact hagrees.referenced stored hstored
    · rcases hpresent with ⟨metadata, hmem, hhandle⟩
      rw [← hhandle]
      exact hagrees.named metadata hmem
  · intro hupTo
    constructor
    · intro metadata hmem
      by_cases hhandle : metadata.handle = handle
      · rw [hhandle]
        exact hupTo.2
      · exact hupTo.1.named metadata hmem hhandle
    · intro stored hstored
      by_cases hhandle : stored = handle
      · rw [hhandle]
        exact hpresent
      · exact hupTo.1.referenced stored hhandle hstored

/-- A profile saved under the handle completes the agreement. -/
theorem agrees_update_iff_upTo {handle : CString} {store : TslStore}
    (hpresent : ∃ metadata ∈ store.entries, metadata.handle = handle)
    (saved : SavedProfile) :
    Agrees { store with
      profiles := Function.update store.profiles handle (some saved) } ↔
      store.AgreesUpTo handle := by
  have hsame : ∀ stored, stored ≠ handle →
      Function.update store.profiles handle (some saved) stored =
        store.profiles stored :=
    fun stored hne => Function.update_of_ne hne _ _
  rw [agrees_iff_upTo handle (by exact hpresent)]
  constructor
  · intro hupTo
    constructor
    · intro metadata hmem hne
      rw [← hsame _ hne]
      exact hupTo.1.named metadata hmem hne
    · intro stored hne hstored
      rw [← hsame _ hne] at hstored
      exact hupTo.1.referenced stored hne hstored
  · intro hupTo
    refine ⟨⟨?_, ?_⟩, by simp⟩
    · intro metadata hmem hne
      have hstored := hupTo.named metadata hmem hne
      rwa [← hsame _ hne] at hstored
    · intro stored hne hstored
      dsimp only at hstored
      rw [hsame _ hne] at hstored
      exact hupTo.referenced stored hne hstored

theorem kvDel_stored_iff {store : TslStore} {handle : CString}
    (hstored : store.profiles handle ≠ none) (old : CString) :
    (store.kvDel old).profiles handle ≠ none ↔ handle ≠ old := by
  by_cases hold : handle = old
  · simp [kvDel, hold]
  · simp [kvDel, hold, hstored]

theorem kvDel_stored {store : TslStore} {handle old : CString}
    (hstored : (store.kvDel old).profiles handle ≠ none) :
    handle ≠ old ∧ store.profiles handle ≠ none := by
  by_cases hold : handle = old
  · simp [kvDel, hold] at hstored
  · refine ⟨hold, ?_⟩
    simpa [kvDel, hold] using hstored

/-- The entries besides the one whose profile goes. -/
theorem named_others {store : TslStore} (hagrees : store.Agrees)
    {before after : List TslmapMetadata} {metadata : TslmapMetadata}
    (hentries : store.entries = before ++ metadata :: after) :
    ∀ other ∈ before ++ after, store.profiles other.handle ≠ none := by
  intro other hother
  apply hagrees.named
  rw [hentries]
  simp only [List.mem_append, List.mem_cons] at hother ⊢
  tauto

theorem referenced_others {store : TslStore} (hagrees : store.Agrees)
    {before after : List TslmapMetadata} {metadata : TslmapMetadata}
    (hentries : store.entries = before ++ metadata :: after)
    {stored : CString}
    (hkept : (store.kvDel metadata.handle).profiles stored ≠ none) :
    ∃ other ∈ before ++ after, other.handle = stored := by
  have hstored := kvDel_stored hkept
  rcases hagrees.referenced stored hstored.2 with ⟨other, hmem, hhandle⟩
  refine ⟨other, ?_, hhandle⟩
  rw [hentries] at hmem
  simp only [List.mem_append, List.mem_cons] at hmem ⊢
  rcases hmem with hbefore | hold | hafter
  · exact Or.inl hbefore
  · rw [hold] at hhandle
    exact absurd hhandle.symm hstored.1
  · exact Or.inr hafter

theorem released_iff {store : TslStore} {sn : CString}
    {before after : List TslmapMetadata} {metadata : TslmapMetadata}
    (hentries : store.entries = before ++ metadata :: after)
    (hfind : findDevBySn sn store.entries = some metadata)
    {handleCurr : Option CString}
    (hhandle : some metadata.handle ≠ handleCurr) :
    store.Released sn handleCurr ↔
      ∀ other ∈ before ++ after, other.handle ≠ metadata.handle := by
  rw [← countP_handle_split, ← hentries]
  constructor
  · intro hreleased
    exact hreleased metadata hfind hhandle
  · intro hcount found hfound _
    have hsame : metadata = found := Option.some.inj (hfind.symm.trans hfound)
    rw [← hsame]
    exact hcount

/-- After the map is written, everything but the profile under the new handle
agrees, exactly if the old handle was free to go. -/
theorem saveMap_upTo_iff {store : TslStore} (hagrees : store.Agrees)
    (devInfo : TslDevinfo) {handleCurr : CString}
    (hfits : CString.strncpy handleCurr 31 = handleCurr) :
    (store.saveMap devInfo handleCurr).AgreesUpTo handleCurr ↔
      store.Released devInfo.devSubserial (some handleCurr) := by
  cases hfind : findDevBySn devInfo.devSubserial store.entries with
  | none =>
      have hreleased :
          store.Released devInfo.devSubserial (some handleCurr) := by
        intro metadata hfound
        simp [hfind] at hfound
      rw [iff_true_right hreleased, hagrees.saveMap_absent hfind, hfits]
      constructor
      · intro metadata hmem hne
        have hcases : metadata ∈ store.entries ∨ metadata.handle = handleCurr := by
          simp only [entries, Option.getD_some, List.mem_append,
            List.mem_singleton] at hmem ⊢
          rcases hmem with hold | hnew
          · exact Or.inl hold
          · exact Or.inr (by rw [hnew])
        exact hagrees.named metadata (hcases.resolve_right hne)
      · intro stored hne hstored
        rcases hagrees.referenced stored hstored with
          ⟨metadata, hmem, hhandle⟩
        exact ⟨metadata, List.mem_append_left _ hmem, hhandle⟩
  | some metadata =>
      by_cases hhandle : metadata.handle = handleCurr
      · have hsame := saveMap_same hfind
        rw [hhandle] at hsame
        have hreleased :
            store.Released devInfo.devSubserial (some handleCurr) := by
          intro found hfound hne
          have hfoundSame := Option.some.inj (hfind.symm.trans hfound)
          rw [← hfoundSame, hhandle] at hne
          exact absurd rfl hne
        have hpresent : ∃ metadata ∈ store.entries,
            metadata.handle = handleCurr :=
          ⟨metadata, List.mem_of_find?_eq_some hfind, hhandle⟩
        rw [hsame, iff_true_right hreleased]
        exact ((agrees_iff_upTo handleCurr hpresent).mp hagrees).1
      · have hsplit := findDevBySn_split hfind
        rcases hsplit with ⟨before, after, hentries, hsn, hbefore⟩
        have hothers := named_others hagrees hentries
        rw [saveMap_changed hfind hhandle,
          released_iff hentries hfind (by simpa using hhandle), hentries,
          replaceHandle_split hsn hbefore]
        constructor
        · intro hupTo other hother hold
          have hnamed := hupTo.named other
            (by simp only [entries, Option.getD_some, List.mem_append,
                  List.mem_cons] at hother ⊢
                tauto)
            (hold.trans_ne hhandle)
          exact (kvDel_stored_iff (hothers other hother)
            metadata.handle).mp hnamed hold
        · intro hfree
          constructor
          · intro other hmem hne
            have hother : other ∈ before ++ after := by
              simp only [entries, Option.getD_some, List.mem_append,
                List.mem_cons] at hmem ⊢
              rcases hmem with hbefore | hnew | hafter
              · exact Or.inl hbefore
              · exact absurd (by rw [hnew]) hne
              · exact Or.inr hafter
            exact (kvDel_stored_iff (hothers other hother)
              metadata.handle).mpr (hfree other hother)
          · intro stored hne hstored
            rcases referenced_others hagrees hentries hstored with
              ⟨other, hother, hhandleOther⟩
            refine ⟨other, ?_, hhandleOther⟩
            simp only [entries, Option.getD_some, List.mem_append,
              List.mem_cons] at hother ⊢
            tauto

theorem saveMap_stored {store : TslStore} (hagrees : store.Agrees)
    (devInfo : TslDevinfo) (handleCurr : CString) :
    (store.saveMap devInfo handleCurr).profiles handleCurr =
      store.profiles handleCurr := by
  cases hfind : findDevBySn devInfo.devSubserial store.entries with
  | none => rw [hagrees.saveMap_absent hfind]
  | some metadata =>
      by_cases hhandle : metadata.handle = handleCurr
      · have hsame := saveMap_same hfind
        rw [hhandle] at hsame
        rw [hsame]
      · rw [saveMap_changed hfind hhandle]
        simp [kvDel, Function.update_of_ne (Ne.symm hhandle)]

theorem profileSave_agrees_iff {store : TslStore} (hagrees : store.Agrees)
    (md5 : TslDigest) (devInfo : TslDevinfo) (profile : Option CString) :
    (store.profileSave md5 devInfo profile).Agrees ↔
      store.CallSound md5 (.save devInfo profile) := by
  have hfits := strncpy_devinfo2index md5 devInfo
  have hpresent := saveMap_present store devInfo hfits hagrees
  have hupTo := saveMap_upTo_iff hagrees devInfo hfits
  have hstored := saveMap_stored hagrees devInfo (devinfo2index md5 devInfo)
  cases profile with
  | none =>
      have hsave : store.profileSave md5 devInfo none =
          store.saveMap devInfo (devinfo2index md5 devInfo) := rfl
      rw [hsave, agrees_iff_upTo (devinfo2index md5 devInfo) hpresent, hupTo,
        hstored]
      simp [CallSound, and_comm]
  | some text =>
      have hcount := (getTslHandleCount_eq_one_iff
        (store.saveMap devInfo (devinfo2index md5 devInfo)).entries
        (devinfo2index md5 devInfo)).mpr hpresent
      simp only [profileSave, hcount, if_true]
      rw [agrees_update_iff_upTo hpresent, hupTo]
      simp [CallSound]

theorem profileDel_agrees_iff {store : TslStore} (hagrees : store.Agrees)
    (devSubserial : CString) :
    (store.profileDel devSubserial).Agrees ↔
      store.Released devSubserial none := by
  cases hfind : findDevBySn devSubserial store.entries with
  | none =>
      have hreleased : store.Released devSubserial none := by
        intro metadata hfound
        simp [hfind] at hfound
      have hsame : store.profileDel devSubserial = store := by
        simp [profileDel, hfind]
      rw [hsame]
      exact iff_of_true hagrees hreleased
  | some metadata =>
      have hmem : metadata ∈ store.entries := List.mem_of_find?_eq_some hfind
      have hcount := (getTslHandleCount_eq_one_iff store.entries
        metadata.handle).mpr ⟨metadata, hmem, rfl⟩
      have hstored := hagrees.named metadata hmem
      have hsplit := findDevBySn_split hfind
      rcases hsplit with ⟨before, after, hentries, hsn, hbefore⟩
      have hshorter : store.profileDel devSubserial =
          { store.kvDel metadata.handle with
            tslmap := some (before ++ after) } := by
        simp only [profileDel, hfind, hcount, if_true, hstored, if_false]
        rw [hentries, erase_split hsn hbefore]
      have hothers := named_others hagrees hentries
      rw [hshorter, released_iff hentries hfind (by simp)]
      constructor
      · intro hafter other hother
        exact (kvDel_stored_iff (hothers other hother) metadata.handle).mp
          (hafter.named other hother)
      · intro hfree
        constructor
        · intro other hother
          exact (kvDel_stored_iff (hothers other hother)
            metadata.handle).mpr (hfree other hother)
        · intro stored hkept
          exact referenced_others hagrees hentries hkept

theorem step_agrees_iff {md5 : TslDigest} {store next : TslStore}
    {call : StoreCall} (hagrees : store.Agrees)
    (hstep : step md5 store call = some next) :
    next.Agrees ↔ store.CallSound md5 call := by
  cases call with
  | save devInfo profile =>
      rw [← Option.some.inj hstep]
      exact profileSave_agrees_iff hagrees md5 devInfo profile
  | delete devSubserial =>
      rw [← Option.some.inj hstep]
      exact profileDel_agrees_iff hagrees devSubserial

theorem empty_agrees : empty.Agrees := by
  constructor
  · intro metadata hmem
    exact absurd hmem List.not_mem_nil
  · intro handle hstored
    exact absurd rfl hstored

/-- Map and profiles agree at every point exactly if no call takes a profile
from a device that still names it, or names one that is not there. -/
theorem agrees_iff_callSound (md5 : TslDigest) (calls : List StoreCall) :
    StepSystem.Along (step md5) Agrees empty calls ↔
      StepSystem.StepsMeet (step md5) (CallSound md5) empty calls := by
  apply StepSystem.along_iff_stepsMeet (fun _ hagrees => hagrees)
  · intro store call next hagrees hsound hstep
    exact (step_agrees_iff hagrees hstep).mpr hsound
  · intro store call hagrees hunsound
    have henabled : ∃ next, step md5 store call = some next := by
      cases call <;> exact ⟨_, rfl⟩
    rcases henabled with ⟨next, hstep⟩
    refine ⟨next, hstep, ?_⟩
    rw [step_agrees_iff hagrees hstep]
    exact hunsound
  · exact empty_agrees

/-- Two devices of one type and version. -/
def sharingCalls : List StoreCall :=
  [.save ⟨"E1".toList, "CS-C6".toList, "V5.3.0".toList⟩
      (some "\x7b\x7d".toList),
    .save ⟨"E2".toList, "CS-C6".toList, "V5.3.0".toList⟩
      (some "\x7b\x7d".toList),
    .delete "E1".toList]

/-- A digest with the MD5 value of the one text these devices have. -/
def sharingDigest : TslDigest where
  digest _ := "Rs9be2oFNr7+0NOdCFnwDg==".toList
  length_digest _ := rfl

/-- When one of two devices goes, the other loses its profile. -/
theorem shared_profile_deleted :
    ¬ StepSystem.Along (step sharingDigest) Agrees empty sharingCalls := by
  intro halong
  have hagrees := halong sharingCalls [] _ (List.append_nil _).symm rfl
  exact hagrees.named
    ⟨"E2".toList, devinfo2index sharingDigest
      ⟨"E2".toList, "CS-C6".toList, "V5.3.0".toList⟩⟩
    (by decide) (by decide)

end TslStore

end EziotSdk

import EziotSdk.TslLegality

/-!
# Resources looked up by key

`tsl_find_property_rsc_by_keyinfo` and `tsl_find_event_rsc_by_keyinfo` search
the capacity of a device for a resource with a domain and a key.  Their inner
loops never leave at a match, so every resource ends up as a match and the
domain behind the last one is read.
-/

namespace EziotSdk

/-- The names that one of the two functions looks through in a domain. -/
abbrev DomainNames := TslRscDomain → List CString

def propNames : DomainNames := fun domain =>
  domain.prop.map TslDomainProp.identifier

def eventNames : DomainNames := fun domain =>
  domain.event.map TslDomainEvent.identifier

/-! ## The functions -/

/-- An element that is read, and the size of its array. -/
structure ArrayRead where
  index : ℕ
  size : ℕ
  deriving DecidableEq, Repr

def ArrayRead.Within (read : ArrayRead) : Prop := read.index < read.size

instance ArrayRead.decidableWithin (read : ArrayRead) : Decidable read.Within :=
  inferInstanceAs (Decidable (_ < _))

/-- Where an inner loop stops.  The `continue` for another name is the last
statement of the body. -/
def searchEnd (names : List CString) (name : CString) : ℕ :=
  names.foldl (fun position candidate =>
    if candidate ≠ name then position + 1 else position + 1) 0

def loopReads (names : List CString) : List ArrayRead :=
  (List.range names.length).map fun index => ⟨index, names.length⟩

structure RscSearch where
  rv : TslErrno
  resType : CString.Cells
  reads : List ArrayRead
  deriving Repr

/-- One pass of the loop over the resources. -/
def searchRsc (names : DomainNames) (keyInfo : TslKeyInfo) (len : ℕ)
    (search : RscSearch) (resource : TslProfileResource) : RscSearch :=
  let identifiers := resource.domain.map TslRscDomain.identifier
  let j := searchEnd identifiers keyInfo.domain
  -- the loop over the keys compares them and does nothing else
  let keyReads :=
    match resource.domain[j]? with
    | none => []
    | some domain => loopReads (names domain)
  { rv := .succ
    resType := search.resType.overwritten 0 resource.rscCategory (len - 1)
    reads := search.reads ++ loopReads identifiers ++
      ⟨j, identifiers.length⟩ :: keyReads }

/-- `none` is the read of `capacity->rsc_num` through a null pointer. -/
def findRscByKeyinfo (names : DomainNames) (state : TslState) (sn : CString)
    (keyInfo : TslKeyInfo) (resType : CString.Cells) (len : ℕ) :
    Option RscSearch :=
  match tslAdapterDevFind state.devInfoList sn with
  | none => some ⟨.devNotFound, resType, []⟩
  | some dev =>
      if dev.status ≠ .done then some ⟨.profileLoading, resType, []⟩
      else
        match findCapacity state.capacitiesList dev with
        | none => none
        | some capacity =>
            some (capacity.resource.foldl (searchRsc names keyInfo len)
              ⟨.rsctypeNotFound, resType, []⟩)

def tslFindPropertyRscByKeyinfo (state : TslState) (sn : CString)
    (keyInfo : TslKeyInfo) (resType : CString.Cells) (len : ℕ) :
    Option RscSearch :=
  findRscByKeyinfo propNames state sn keyInfo resType len

def tslFindEventRscByKeyinfo (state : TslState) (sn : CString)
    (keyInfo : TslKeyInfo) (resType : CString.Cells) (len : ℕ) :
    Option RscSearch :=
  findRscByKeyinfo eventNames state sn keyInfo resType len

/-! ## What the loops do -/

theorem searchEnd_eq_length (names : List CString) (name : CString) :
    searchEnd names name = names.length := by
  have hcount (start : ℕ) :
      names.foldl (fun position candidate =>
        if candidate ≠ name then position + 1 else position + 1) start =
        start + names.length := by
    induction names generalizing start with
    | nil => rfl
    | cons first rest ih =>
        rw [List.foldl_cons, ite_self, ih, List.length_cons]
        omega
  rw [searchEnd, hcount, Nat.zero_add]

/-- The search of one resource reads the domain behind its last one. -/
theorem searchRsc_reads (names : DomainNames) (keyInfo : TslKeyInfo)
    (len : ℕ) (search : RscSearch) (resource : TslProfileResource) :
    ⟨resource.domain.length, resource.domain.length⟩ ∈
      (searchRsc names keyInfo len search resource).reads := by
  simp [searchRsc, searchEnd_eq_length]

theorem reads_subset_foldl_searchRsc (names : DomainNames)
    (keyInfo : TslKeyInfo) (len : ℕ) (resources : List TslProfileResource)
    (search : RscSearch) :
    search.reads ⊆
      (resources.foldl (searchRsc names keyInfo len) search).reads := by
  induction resources generalizing search with
  | nil => exact List.Subset.refl _
  | cons resource rest ih =>
      intro read hread
      apply ih (searchRsc names keyInfo len search resource)
      simp only [searchRsc, List.append_assoc, List.mem_append]
      exact .inl hread

/-- The type of the last resource is what stays in the buffer. -/
theorem resType_foldl_searchRsc (names : DomainNames) (keyInfo : TslKeyInfo)
    {len : ℕ} (resources : List TslProfileResource) (search : RscSearch)
    (hfits : len - 1 ≤ search.resType.length) :
    (resources.foldl (searchRsc names keyInfo len) search).resType =
      match resources.getLast? with
      | none => search.resType
      | some resource =>
          search.resType.overwritten 0 resource.rscCategory (len - 1) := by
  have hfits : 0 + (len - 1) ≤ search.resType.length := by omega
  induction resources using List.reverseRecOn with
  | nil => rfl
  | append_singleton front last ih =>
      rw [List.foldl_append, List.getLast?_append]
      change CString.Cells.overwritten
        (front.foldl (searchRsc names keyInfo len) search).resType 0
        last.rscCategory (len - 1) = _
      rw [ih]
      cases front.getLast? with
      | none => rfl
      | some resource =>
          exact CString.Cells.overwritten_overwritten _ _ hfits

/-! ## When the lookups are exact -/

/-- The resource declares the domain and the key. -/
def TslProfileResource.DeclaresKey (resource : TslProfileResource)
    (names : DomainNames) (keyInfo : TslKeyInfo) : Prop :=
  ∃ domain ∈ resource.domain,
    domain.identifier = keyInfo.domain ∧ keyInfo.key ∈ names domain

/-- A resource of the device's capacity that declares the key. -/
def IsKeyResource (names : DomainNames) (state : TslState) (sn : CString)
    (keyInfo : TslKeyInfo) (resource : TslProfileResource) : Prop :=
  ∃ capacity, loadedCapacity state sn = some capacity ∧
    resource ∈ capacity.resource ∧ resource.DeclaresKey names keyInfo

/-- What a lookup of the key should have done when it returns. -/
structure RscSearch.Exact (search : RscSearch) (names : DomainNames)
    (state : TslState) (sn : CString) (keyInfo : TslKeyInfo)
    (resType : CString.Cells) : Prop where
  within : ∀ read ∈ search.reads, read.Within
  success : search.rv = .succ ↔
    ∃ resource, IsKeyResource names state sn keyInfo resource
  found : search.rv = .succ →
    ∃ resource, IsKeyResource names state sn keyInfo resource ∧
      search.resType.readString = resource.rscCategory
  missed : search.rv ≠ .succ →
    TslErrno.NotFound search.rv ∧ search.resType = resType

/-- The lookup returns, and is right. -/
def LookupExact (names : DomainNames) (state : TslState) (sn : CString)
    (keyInfo : TslKeyInfo) (resType : CString.Cells)
    (lookup : Option RscSearch) : Prop :=
  ∃ search, lookup = some search ∧
    search.Exact names state sn keyInfo resType

/-- A registered device that has its profile has a capacity without
resources. -/
def NothingSearched (state : TslState) (sn : CString) : Prop :=
  ∀ dev, tslAdapterDevFind state.devInfoList sn = some dev →
    dev.status = .done →
      ∃ capacity, findCapacity state.capacitiesList dev = some capacity ∧
        capacity.resource = []

/-- A lookup that fails with nothing read is exact when nothing is declared. -/
theorem exact_of_missed
    {names : DomainNames} {state : TslState} {sn : CString}
    {keyInfo : TslKeyInfo} {resType : CString.Cells} {rv : TslErrno}
    (hrv : TslErrno.NotFound rv)
    (hnone : ∀ capacity, loadedCapacity state sn = some capacity →
      capacity.resource = []) :
    RscSearch.Exact ⟨rv, resType, []⟩ names state sn keyInfo resType := by
  have hfailed : rv ≠ .succ := by
    rintro rfl
    simp [TslErrno.NotFound] at hrv
  constructor
  · intro read hread
    cases hread
  · constructor
    · intro hsucc
      exact absurd hsucc hfailed
    · rintro ⟨resource, capacity, hcapacity, hmem, -⟩
      rw [hnone capacity hcapacity] at hmem
      cases hmem
  · intro hsucc
    exact absurd hsucc hfailed
  · intro _
    exact ⟨hrv, rfl⟩

theorem findRscByKeyinfo_exact_iff
    (names : DomainNames) (state : TslState) (sn : CString)
    (keyInfo : TslKeyInfo) (resType : CString.Cells) (len : ℕ) :
    LookupExact names state sn keyInfo resType
        (findRscByKeyinfo names state sn keyInfo resType len) ↔
      NothingSearched state sn := by
  unfold findRscByKeyinfo NothingSearched
  cases hdev : tslAdapterDevFind state.devInfoList sn with
  | none =>
      have hnone : loadedCapacity state sn = none := by
        simp only [loadedCapacity, hdev]
      apply iff_of_true
      · refine ⟨_, rfl, exact_of_missed (by simp [TslErrno.NotFound]) ?_⟩
        simp [hnone]
      · intro dev hsome
        cases hsome
  | some dev =>
      simp only [Option.some.injEq, forall_eq']
      by_cases hdone : dev.status = .done
      · have hloaded : loadedCapacity state sn =
            findCapacity state.capacitiesList dev := by
          simp only [loadedCapacity, hdev, if_pos hdone]
        rw [if_neg (not_not.mpr hdone)]
        cases hcapacity : findCapacity state.capacitiesList dev with
        | none => simp [LookupExact, hdone]
        | some capacity =>
            rw [hcapacity] at hloaded
            simp only [LookupExact, Option.some.injEq, exists_eq_left',
              hdone, forall_const]
            constructor
            · intro hexact
              cases hresources : capacity.resource with
              | nil => rfl
              | cons resource rest =>
                  rw [hresources, List.foldl_cons] at hexact
                  have hpast := hexact.within _
                    (reads_subset_foldl_searchRsc names keyInfo len rest _
                      (searchRsc_reads names keyInfo len _ resource))
                  exact absurd hpast (Nat.lt_irrefl _)
            · intro hempty
              rw [hempty, List.foldl_nil]
              apply exact_of_missed (by simp [TslErrno.NotFound])
              intro other hother
              rw [hloaded, Option.some.injEq] at hother
              rw [← hother]
              exact hempty
      · have hnone : loadedCapacity state sn = none := by
          simp only [loadedCapacity, hdev, if_neg hdone]
        rw [if_pos hdone]
        apply iff_of_true
        · refine ⟨_, rfl, exact_of_missed (by simp [TslErrno.NotFound]) ?_⟩
          simp [hnone]
        · intro hloaded
          exact absurd hloaded hdone

/-- The two lookups are exact where they have no resource to look at. -/
theorem lookups_exact_iff
    (state : TslState) (sn : CString) (keyInfo : TslKeyInfo)
    (resType : CString.Cells) (len : ℕ) :
    (LookupExact propNames state sn keyInfo resType
        (tslFindPropertyRscByKeyinfo state sn keyInfo resType len) ↔
      NothingSearched state sn) ∧
    (LookupExact eventNames state sn keyInfo resType
        (tslFindEventRscByKeyinfo state sn keyInfo resType len) ↔
      NothingSearched state sn) := by
  constructor
  · exact findRscByKeyinfo_exact_iff propNames state sn keyInfo resType len
  · exact findRscByKeyinfo_exact_iff eventNames state sn keyInfo resType len

def clockDomain : TslRscDomain where
  identifier := "clock".toList
  prop := [⟨"time".toList, accessRead, [], .bool []⟩]
  action := []
  event := []

/-- A device whose first resource declares the key and whose last one does
not. -/
def twoResourcesState : TslState where
  devInfoList :=
    [⟨"A1".toList, "lamp".toList, "1.0".toList, .done⟩,
      ⟨"B2".toList, "plug".toList, "1.0".toList, .done⟩]
  capacitiesList := [{
    devType := "lamp".toList
    devFwVer := "1.0".toList
    resource :=
      [{ rscCategory := "socket".toList
         indexNum := 1
         index := CString.Cells.padded "0".toList maxLocalIndexLength
         domain := [lampDomain] },
        { rscCategory := "global".toList
          indexNum := 1
          index := CString.Cells.padded "0".toList maxLocalIndexLength
          domain := [clockDomain] }]
  }]

/-- The lookup returns the type of the last resource, for a key that is declared
elsewhere and for one that is declared nowhere, reads behind both arrays, and
does not return for a device without a capacity. -/
theorem lookup_returns_last :
    let find := fun (sn key : CString) =>
      tslFindPropertyRscByKeyinfo twoResourcesState sn
        ⟨"light".toList, key⟩ (List.replicate 32 none) 32
    let outcome := fun search : RscSearch =>
      (search.rv, search.resType.readString,
        search.reads.filter fun read => ¬read.Within)
    (find "A1".toList "switch".toList).map outcome =
        some (.succ, "global".toList, [⟨1, 1⟩, ⟨1, 1⟩]) ∧
      (find "A1".toList "colour".toList).map outcome =
        some (.succ, "global".toList, [⟨1, 1⟩, ⟨1, 1⟩]) ∧
      (find "B2".toList "switch".toList).isNone ∧
      ¬LookupExact propNames twoResourcesState "A1".toList
        ⟨"light".toList, "switch".toList⟩ (List.replicate 32 none)
        (find "A1".toList "switch".toList) ∧
      ¬LookupExact propNames twoResourcesState "B2".toList
        ⟨"light".toList, "switch".toList⟩ (List.replicate 32 none)
        (find "B2".toList "switch".toList) := by
  have hexact (sn key : CString) (hsearched : ¬NothingSearched
      twoResourcesState sn) :
      ¬LookupExact propNames twoResourcesState sn ⟨"light".toList, key⟩
        (List.replicate 32 none) (tslFindPropertyRscByKeyinfo
          twoResourcesState sn ⟨"light".toList, key⟩
          (List.replicate 32 none) 32) := by
    unfold tslFindPropertyRscByKeyinfo
    rw [findRscByKeyinfo_exact_iff]
    exact hsearched
  refine ⟨by decide, by decide, by decide, hexact _ _ ?_, hexact _ _ ?_⟩
  · intro hnothing
    obtain ⟨capacity, hcapacity, hempty⟩ := hnothing _ rfl rfl
    cases hcapacity
    cases hempty
  · intro hnothing
    obtain ⟨capacity, hcapacity, -⟩ := hnothing _ rfl rfl
    cases hcapacity

end EziotSdk

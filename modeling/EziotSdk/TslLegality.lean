import EziotSdk.ProfileParse
import EziotSdk.TslValueCheck

/-!
# Legality of properties, actions and events

The three functions of `ez_iot_tsl_adapter.c` that find the schema of a key in
the capacity of a device and check a value against it, and when they find what
the capacity declares.
-/

namespace EziotSdk

/-! ## The functions -/

inductive DevStatus where
  | done
  | needUpdate
  | query
  | loading
  deriving DecidableEq, Repr

structure TslDevInfo where
  devSn : CString
  devType : CString
  devFwVer : CString
  status : DevStatus
  deriving DecidableEq, Repr

/-- The lists of registered devices and of loaded capacities. -/
structure TslState where
  devInfoList : List TslDevInfo
  capacitiesList : List TslCapacity

structure TslRscInfo where
  resType : CString
  localIndex : CString
  deriving DecidableEq, Repr

structure TslKeyInfo where
  domain : CString
  key : CString
  deriving DecidableEq, Repr

/-- The search does not stop at the first device of the serial number. -/
def tslAdapterDevFind (devices : List TslDevInfo) (sn : CString) :
    Option TslDevInfo :=
  devices.foldl
    (fun found dev => if dev.devSn = sn then some dev else found) none

def findCapacity (capacities : List TslCapacity) (dev : TslDevInfo) :
    Option TslCapacity :=
  capacities.find? fun capacity =>
    dev.devType == capacity.devType && dev.devFwVer == capacity.devFwVer

def findResource (capacity : TslCapacity) (resType : CString) :
    Option TslProfileResource :=
  capacity.resource.find? fun resource => resType == resource.rscCategory

/-- The loop over the local indices.  It compares the start of the block every
time. -/
def findLocalIndex (resource : TslProfileResource) (localIndex : CString) :
    Option ℕ :=
  (List.range resource.indexNum).find? fun _ =>
    localIndex == CString.Cells.readString resource.index

def findDomain (resource : TslProfileResource) (domain : CString) :
    Option TslRscDomain :=
  resource.domain.find? fun candidate => candidate.identifier == domain

/-- The searches that the three functions share, up to the domain. -/
def locateDomain (state : TslState) (sn : CString) (rscInfo : TslRscInfo)
    (keyInfo : TslKeyInfo) : Except TslErrno TslRscDomain :=
  match tslAdapterDevFind state.devInfoList sn with
  | none => .error .devNotFound
  | some dev =>
      if dev.status ≠ .done then .error .profileLoading
      else
        match findCapacity state.capacitiesList dev with
        | none => .error .profileLoading
        | some capacity =>
            match findResource capacity rscInfo.resType with
            | none => .error .rsctypeNotFound
            | some resource =>
                match findLocalIndex resource rscInfo.localIndex with
                | none => .error .indexNotFound
                | some _ =>
                    match findDomain resource keyInfo.domain with
                    | none => .error .domainNotFound
                    | some domain => .ok domain

/-- Without a value nothing is checked. -/
def checkOptionalValue (codec : TslCodec) (schema : TslSchemaDesc) :
    Option TslValue → Option TslErrno
  | none => some .succ
  | some value => checkSchemaValue codec schema value

def ezIotTslPropertyValueLegal (codec : TslCodec) (state : TslState)
    (sn : CString) (rscInfo : TslRscInfo) (keyInfo : TslKeyInfo)
    (value : Option TslValue) : Option TslErrno :=
  match locateDomain state sn rscInfo keyInfo with
  | .error rv => some rv
  | .ok domain =>
      match domain.prop.find? fun prop => prop.identifier == keyInfo.key with
      | none => some .keyNotFound
      | some prop => checkOptionalValue codec prop.propDesc value

def ezIotTslEventValueLegal (codec : TslCodec) (state : TslState)
    (sn : CString) (rscInfo : TslRscInfo) (keyInfo : TslKeyInfo)
    (value : Option TslValue) : Option TslErrno :=
  match locateDomain state sn rscInfo keyInfo with
  | .error rv => some rv
  | .ok domain =>
      match domain.event.find? fun event => event.identifier == keyInfo.key with
      | none => some .keyNotFound
      | some event => checkOptionalValue codec event.inputSchema value

/-- The loop over the actions compares the key with `action->identifier`, where
`action` is the pointer that it has yet to find: the first iteration reads
through the null pointer. -/
def ezIotTslActionValueLegal (state : TslState)
    (sn : CString) (rscInfo : TslRscInfo) (keyInfo : TslKeyInfo)
    (_value : Option TslValue) : Option TslErrno :=
  match locateDomain state sn rscInfo keyInfo with
  | .error rv => some rv
  | .ok domain =>
      match domain.action with
      | [] => some .keyNotFound
      | _ :: _ => none

/-! ## What a capacity declares -/

/-- The capacity of a registered device whose profile is loaded. -/
def loadedCapacity (state : TslState) (sn : CString) : Option TslCapacity :=
  match tslAdapterDevFind state.devInfoList sn with
  | none => none
  | some dev =>
      if dev.status = .done then findCapacity state.capacitiesList dev
      else none

/-- The keys of one kind in a domain, with the schema of each. -/
abbrev DomainKeys := TslRscDomain → List (CString × TslSchemaDesc)

def propKeys : DomainKeys := fun domain =>
  domain.prop.map fun prop => (prop.identifier, prop.propDesc)

def eventKeys : DomainKeys := fun domain =>
  domain.event.map fun event => (event.identifier, event.inputSchema)

def actionKeys : DomainKeys := fun domain =>
  domain.action.map fun action => (action.identifier, action.inputSchema)

/-- The capacity of the device declares the resource with the local index at
some position, the domain, and the key with its schema. -/
def Declares (keys : DomainKeys) (state : TslState) (sn : CString)
    (rscInfo : TslRscInfo) (keyInfo : TslKeyInfo) (schema : TslSchemaDesc) :
    Prop :=
  ∃ capacity, loadedCapacity state sn = some capacity ∧
    ∃ resource ∈ capacity.resource,
      resource.rscCategory = rscInfo.resType ∧
        (∃ position < resource.indexNum,
          resource.localIndex position = rscInfo.localIndex) ∧
        ∃ domain ∈ resource.domain,
          domain.identifier = keyInfo.domain ∧
            (keyInfo.key, schema) ∈ keys domain

def TslErrno.NotFound (rv : TslErrno) : Prop :=
  rv ∈ [.devNotFound, .profileLoading, .rsctypeNotFound, .indexNotFound,
    .domainNotFound, .keyNotFound]

/-- The lookup goes on to the check against a schema that is declared, or there
is none and it returns a not-found error. -/
def LegalityExact (codec : TslCodec)
    (legal : Option TslValue → Option TslErrno)
    (declared : TslSchemaDesc → Prop) : Prop :=
  (∃ schema, declared schema ∧
      ∀ value, legal value = checkOptionalValue codec schema value) ∨
    (∀ schema, ¬declared schema) ∧
      ∃ rv, TslErrno.NotFound rv ∧ ∀ value, legal value = some rv

/-- Where the searches end up: the first resource of the type, with the local
index in its first place, and the first domain of the name in it. -/
def Reached (state : TslState) (sn : CString) (rscInfo : TslRscInfo)
    (keyInfo : TslKeyInfo) (domain : TslRscDomain) : Prop :=
  ∃ capacity, loadedCapacity state sn = some capacity ∧
    ∃ resource, findResource capacity rscInfo.resType = some resource ∧
      (0 < resource.indexNum ∧ resource.localIndex 0 = rscInfo.localIndex) ∧
      findDomain resource keyInfo.domain = some domain

theorem findLocalIndex_isSome_iff
    (resource : TslProfileResource) (localIndex : CString) :
    (∃ position, findLocalIndex resource localIndex = some position) ↔
      0 < resource.indexNum ∧ resource.localIndex 0 = localIndex := by
  unfold findLocalIndex TslProfileResource.localIndex
  rw [Nat.mul_zero, List.drop_zero, ← Option.isSome_iff_exists,
    List.find?_isSome]
  constructor
  · rintro ⟨position, hmem, hsame⟩
    rw [List.mem_range] at hmem
    exact ⟨by omega, (by simpa using hsame : localIndex = _).symm⟩
  · rintro ⟨hpos, hsame⟩
    exact ⟨0, List.mem_range.mpr hpos, by simp [hsame]⟩

theorem locateDomain_eq_ok_iff
    (state : TslState) (sn : CString) (rscInfo : TslRscInfo)
    (keyInfo : TslKeyInfo) (domain : TslRscDomain) :
    locateDomain state sn rscInfo keyInfo = .ok domain ↔
      Reached state sn rscInfo keyInfo domain := by
  unfold locateDomain Reached loadedCapacity
  cases hdev : tslAdapterDevFind state.devInfoList sn with
  | none => simp
  | some dev =>
      by_cases hdone : dev.status = .done
      · simp only [hdone, ne_eq, not_true_eq_false, if_false, if_true]
        cases hcapacity : findCapacity state.capacitiesList dev with
        | none => simp
        | some capacity =>
            simp only [Option.some.injEq, exists_eq_left',
              ← findLocalIndex_isSome_iff]
            cases hresource : findResource capacity rscInfo.resType with
            | none => simp
            | some resource =>
                simp only [Option.some.injEq, exists_eq_left']
                cases findLocalIndex resource rscInfo.localIndex with
                | none => simp
                | some position =>
                    cases findDomain resource keyInfo.domain <;> simp
      · simp [hdone]

theorem locateDomain_error
    {state : TslState} {sn : CString} {rscInfo : TslRscInfo}
    {keyInfo : TslKeyInfo} {rv : TslErrno}
    (hfailed : locateDomain state sn rscInfo keyInfo = .error rv) :
    TslErrno.NotFound rv := by
  unfold locateDomain at hfailed
  repeat' split at hfailed
  all_goals cases hfailed
  all_goals simp [TslErrno.NotFound]

/-- A key that is reached is declared. -/
theorem Reached.declares
    {keys : DomainKeys} {state : TslState} {sn : CString}
    {rscInfo : TslRscInfo} {keyInfo : TslKeyInfo} {domain : TslRscDomain}
    {schema : TslSchemaDesc}
    (hreached : Reached state sn rscInfo keyInfo domain)
    (hkey : (keyInfo.key, schema) ∈ keys domain) :
    Declares keys state sn rscInfo keyInfo schema := by
  obtain ⟨capacity, hcapacity, resource, hresource, ⟨hpos, hfirst⟩, hdomain⟩ :=
    hreached
  have htype := List.find?_some hresource
  have hname := List.find?_some hdomain
  refine ⟨capacity, hcapacity, resource,
    List.mem_of_find?_eq_some hresource, ?_, ⟨0, hpos, hfirst⟩, domain,
    List.mem_of_find?_eq_some hdomain, ?_, hkey⟩
  · simpa using (by simpa using htype : rscInfo.resType = _).symm
  · simpa using hname

/-- The condition under which a lookup meets what is declared: what the capacity
declares is where the searches end up. -/
def DeclaredIsReached (keys : DomainKeys) (state : TslState) (sn : CString)
    (rscInfo : TslRscInfo) (keyInfo : TslKeyInfo) : Prop :=
  (∃ schema, Declares keys state sn rscInfo keyInfo schema) →
    ∃ domain, Reached state sn rscInfo keyInfo domain ∧
      ∃ schema, (keyInfo.key, schema) ∈ keys domain

/-- A lookup that finds the first key of the reached domain is exact when what
is declared is reached. -/
theorem legalityExact_iff
    (codec : TslCodec) {keys : DomainKeys} {state : TslState} {sn : CString}
    {rscInfo : TslRscInfo} {keyInfo : TslKeyInfo}
    {legal : Option TslValue → Option TslErrno}
    (hmissed : ∀ rv, locateDomain state sn rscInfo keyInfo = .error rv →
      ∀ value, legal value = some rv)
    (habsent : ∀ domain,
      locateDomain state sn rscInfo keyInfo = .ok domain →
        (∀ schema, (keyInfo.key, schema) ∉ keys domain) →
          ∀ value, legal value = some .keyNotFound)
    (hfound : ∀ domain,
      locateDomain state sn rscInfo keyInfo = .ok domain →
        (∃ schema, (keyInfo.key, schema) ∈ keys domain) →
          ∃ schema, (keyInfo.key, schema) ∈ keys domain ∧
            ∀ value, legal value = checkOptionalValue codec schema value) :
    LegalityExact codec legal (Declares keys state sn rscInfo keyInfo) ↔
      DeclaredIsReached keys state sn rscInfo keyInfo := by
  -- a lookup that fails for every value goes on to no check
  have hfailed : ∀ rv, TslErrno.NotFound rv →
      (∀ value, legal value = some rv) →
        (LegalityExact codec legal (Declares keys state sn rscInfo keyInfo) ↔
          ∀ schema, ¬Declares keys state sn rscInfo keyInfo schema) := by
    intro rv hrv hlegal
    constructor
    · rintro (⟨schema, -, hchecks⟩ | ⟨hnone, -⟩)
      · have hsucc := hchecks none
        rw [hlegal none, checkOptionalValue] at hsucc
        rw [Option.some.inj hsucc] at hrv
        simp [TslErrno.NotFound] at hrv
      · exact hnone
    · exact fun hnone => .inr ⟨hnone, rv, hrv, hlegal⟩
  have hnotReached :
      (∀ domain, Reached state sn rscInfo keyInfo domain →
        ∀ schema, (keyInfo.key, schema) ∉ keys domain) →
      ((∀ schema, ¬Declares keys state sn rscInfo keyInfo schema) ↔
        DeclaredIsReached keys state sn rscInfo keyInfo) := by
    intro hnone
    constructor
    · rintro hnot ⟨schema, hdeclares⟩
      exact absurd hdeclares (hnot schema)
    · intro hcondition schema hdeclares
      obtain ⟨domain, hreached, found, hkey⟩ := hcondition ⟨schema, hdeclares⟩
      exact hnone domain hreached found hkey
  cases hlocate : locateDomain state sn rscInfo keyInfo with
  | error rv =>
      rw [hfailed rv (locateDomain_error hlocate) (hmissed rv hlocate)]
      apply hnotReached
      intro domain hreached
      rw [← locateDomain_eq_ok_iff, hlocate] at hreached
      cases hreached
  | ok domain =>
      have hreached := (locateDomain_eq_ok_iff _ _ _ _ _).mp hlocate
      by_cases hkey : ∃ schema, (keyInfo.key, schema) ∈ keys domain
      · obtain ⟨schema, hmem, hchecks⟩ := hfound domain hlocate hkey
        constructor
        · exact fun _ _ => ⟨domain, hreached, schema, hmem⟩
        · exact fun _ => .inl ⟨schema, hreached.declares hmem, hchecks⟩
      · push Not at hkey
        rw [hfailed .keyNotFound (by simp [TslErrno.NotFound])
          (habsent domain hlocate hkey)]
        apply hnotReached
        intro other hother
        rw [← locateDomain_eq_ok_iff, hlocate] at hother
        rw [← Except.ok.inj hother]
        exact hkey

/-- The first entry with a key, seen through the pairs of keys and schemas. -/
theorem find?_key_cases
    {Entry : Type} (entries : List Entry) (identifier : Entry → CString)
    (schema : Entry → TslSchemaDesc) (key : CString) :
    (entries.find? (fun entry => identifier entry == key) = none ∧
        ∀ desc, (key, desc) ∉
          entries.map fun entry => (identifier entry, schema entry)) ∨
      ∃ entry,
        entries.find? (fun entry => identifier entry == key) = some entry ∧
          (key, schema entry) ∈
            entries.map fun entry => (identifier entry, schema entry) := by
  cases hfind : entries.find? (fun entry => identifier entry == key) with
  | none =>
      refine .inl ⟨rfl, ?_⟩
      intro desc hmem
      obtain ⟨entry, hentry, hpair⟩ := List.mem_map.mp hmem
      have hnot := List.find?_eq_none.mp hfind entry hentry
      exact hnot (by simpa using congrArg Prod.fst hpair)
  | some entry =>
      have hsame := List.find?_some hfind
      refine .inr ⟨entry, rfl, List.mem_map.mpr
        ⟨entry, List.mem_of_find?_eq_some hfind, ?_⟩⟩
      simpa using hsame

theorem propertyValueLegal_exact_iff
    (codec : TslCodec) (state : TslState) (sn : CString)
    (rscInfo : TslRscInfo) (keyInfo : TslKeyInfo) :
    LegalityExact codec
        (ezIotTslPropertyValueLegal codec state sn rscInfo keyInfo)
        (Declares propKeys state sn rscInfo keyInfo) ↔
      DeclaredIsReached propKeys state sn rscInfo keyInfo := by
  apply legalityExact_iff
  · intro rv hlocate value
    simp [ezIotTslPropertyValueLegal, hlocate]
  · intro domain hlocate hnone value
    rcases find?_key_cases domain.prop TslDomainProp.identifier
      TslDomainProp.propDesc keyInfo.key with
      ⟨hfind, -⟩ | ⟨prop, -, hmem⟩
    · simp [ezIotTslPropertyValueLegal, hlocate, hfind]
    · exact absurd hmem (hnone _)
  · rintro domain hlocate ⟨schema, hmem⟩
    rcases find?_key_cases domain.prop TslDomainProp.identifier
      TslDomainProp.propDesc keyInfo.key with
      ⟨-, hnone⟩ | ⟨prop, hfind, hprop⟩
    · exact absurd hmem (hnone schema)
    · refine ⟨prop.propDesc, hprop, ?_⟩
      intro value
      simp [ezIotTslPropertyValueLegal, hlocate, hfind]

theorem eventValueLegal_exact_iff
    (codec : TslCodec) (state : TslState) (sn : CString)
    (rscInfo : TslRscInfo) (keyInfo : TslKeyInfo) :
    LegalityExact codec
        (ezIotTslEventValueLegal codec state sn rscInfo keyInfo)
        (Declares eventKeys state sn rscInfo keyInfo) ↔
      DeclaredIsReached eventKeys state sn rscInfo keyInfo := by
  apply legalityExact_iff
  · intro rv hlocate value
    simp [ezIotTslEventValueLegal, hlocate]
  · intro domain hlocate hnone value
    rcases find?_key_cases domain.event TslDomainEvent.identifier
      TslDomainEvent.inputSchema keyInfo.key with
      ⟨hfind, -⟩ | ⟨event, -, hmem⟩
    · simp [ezIotTslEventValueLegal, hlocate, hfind]
    · exact absurd hmem (hnone _)
  · rintro domain hlocate ⟨schema, hmem⟩
    rcases find?_key_cases domain.event TslDomainEvent.identifier
      TslDomainEvent.inputSchema keyInfo.key with
      ⟨-, hnone⟩ | ⟨event, hfind, hevent⟩
    · exact absurd hmem (hnone schema)
    · refine ⟨event.inputSchema, hevent, ?_⟩
      intro value
      simp [ezIotTslEventValueLegal, hlocate, hfind]

/-- The lookup of an action never goes on to a check, so it is exact only where
no action is declared and none is reached. -/
theorem actionValueLegal_exact_iff
    (codec : TslCodec) (state : TslState) (sn : CString)
    (rscInfo : TslRscInfo) (keyInfo : TslKeyInfo) :
    LegalityExact codec
        (ezIotTslActionValueLegal state sn rscInfo keyInfo)
        (Declares actionKeys state sn rscInfo keyInfo) ↔
      (∀ schema, ¬Declares actionKeys state sn rscInfo keyInfo schema) ∧
        ∀ domain, Reached state sn rscInfo keyInfo domain →
          domain.action = [] := by
  have hresults : ∀ value, ezIotTslActionValueLegal state sn rscInfo keyInfo
      value ≠ some .succ := by
    intro value hsucc
    unfold ezIotTslActionValueLegal at hsucc
    split at hsucc
    · next rv hlocate =>
        have hrv := locateDomain_error hlocate
        rw [Option.some.inj hsucc] at hrv
        simp [TslErrno.NotFound] at hrv
    · split at hsucc <;> cases hsucc
  constructor
  · rintro (⟨schema, -, hchecks⟩ | ⟨hnone, rv, -, hlegal⟩)
    · exact absurd (hchecks none) (hresults none)
    · refine ⟨hnone, ?_⟩
      intro domain hreached
      have hlocate := (locateDomain_eq_ok_iff _ _ _ _ _).mpr hreached
      have hvalue := hlegal none
      unfold ezIotTslActionValueLegal at hvalue
      rw [hlocate] at hvalue
      cases hactions : domain.action with
      | nil => rfl
      | cons action rest => simp [hactions] at hvalue
  · rintro ⟨hnone, hempty⟩
    refine .inr ⟨hnone, ?_⟩
    unfold ezIotTslActionValueLegal
    cases hlocate : locateDomain state sn rscInfo keyInfo with
    | error rv =>
        exact ⟨rv, locateDomain_error hlocate, fun _ => rfl⟩
    | ok domain =>
        have hreached := (locateDomain_eq_ok_iff _ _ _ _ _).mp hlocate
        refine ⟨.keyNotFound, by simp [TslErrno.NotFound], ?_⟩
        simp [hempty domain hreached]

/-- When the three lookups meet what the capacity of the device declares. -/
theorem legality_exact_iff
    (codec : TslCodec) (state : TslState) (sn : CString)
    (rscInfo : TslRscInfo) (keyInfo : TslKeyInfo) :
    (LegalityExact codec
        (ezIotTslPropertyValueLegal codec state sn rscInfo keyInfo)
        (Declares propKeys state sn rscInfo keyInfo) ↔
      DeclaredIsReached propKeys state sn rscInfo keyInfo) ∧
    (LegalityExact codec
        (ezIotTslEventValueLegal codec state sn rscInfo keyInfo)
        (Declares eventKeys state sn rscInfo keyInfo) ↔
      DeclaredIsReached eventKeys state sn rscInfo keyInfo) ∧
    (LegalityExact codec
        (ezIotTslActionValueLegal state sn rscInfo keyInfo)
        (Declares actionKeys state sn rscInfo keyInfo) ↔
      (∀ schema, ¬Declares actionKeys state sn rscInfo keyInfo schema) ∧
        ∀ domain, Reached state sn rscInfo keyInfo domain →
          domain.action = []) := by
  constructor
  · exact propertyValueLegal_exact_iff codec state sn rscInfo keyInfo
  · constructor
    · exact eventValueLegal_exact_iff codec state sn rscInfo keyInfo
    · exact actionValueLegal_exact_iff codec state sn rscInfo keyInfo

/-! ## A lamp with two local indices -/

def lampDomain : TslRscDomain where
  identifier := "light".toList
  prop := [⟨"switch".toList, accessRead, [], .bool []⟩]
  action := [⟨"blink".toList, [], [], .bool [], .bool []⟩]
  event := []

def lampState : TslState where
  devInfoList := [⟨"A1".toList, "lamp".toList, "1.0".toList, .done⟩]
  capacitiesList := [{
    devType := "lamp".toList
    devFwVer := "1.0".toList
    resource := [{
      rscCategory := "global".toList
      indexNum := 2
      index := CString.Cells.padded "0".toList maxLocalIndexLength ++
        CString.Cells.padded "1".toList maxLocalIndexLength
      domain := [lampDomain]
    }]
  }]

/-- The property is declared for the second local index and is not found, and
the action of the first one is looked up through a null pointer. -/
theorem second_index_not_found :
    Declares propKeys lampState "A1".toList ⟨"global".toList, "1".toList⟩
        ⟨"light".toList, "switch".toList⟩ (.bool []) ∧
      ezIotTslPropertyValueLegal TslCodec.scalarsOnly lampState "A1".toList
          ⟨"global".toList, "1".toList⟩ ⟨"light".toList, "switch".toList⟩
          (some (.bool true)) = some .indexNotFound ∧
      ezIotTslActionValueLegal lampState "A1".toList
          ⟨"global".toList, "0".toList⟩ ⟨"light".toList, "blink".toList⟩
          (some (.bool true)) = none ∧
      ¬LegalityExact TslCodec.scalarsOnly
        (ezIotTslPropertyValueLegal TslCodec.scalarsOnly lampState "A1".toList
          ⟨"global".toList, "1".toList⟩ ⟨"light".toList, "switch".toList⟩)
        (Declares propKeys lampState "A1".toList
          ⟨"global".toList, "1".toList⟩
          ⟨"light".toList, "switch".toList⟩) := by
  have hdeclares :
      Declares propKeys lampState "A1".toList ⟨"global".toList, "1".toList⟩
        ⟨"light".toList, "switch".toList⟩ (.bool []) :=
    ⟨_, rfl, _, List.mem_singleton_self _, rfl, ⟨1, by decide, rfl⟩, _,
      List.mem_singleton_self _, rfl, List.mem_singleton_self _⟩
  refine ⟨hdeclares, rfl, rfl, ?_⟩
  rintro (⟨schema, -, hchecks⟩ | ⟨hnone, -⟩)
  · have hmissed := hchecks none
    rw [checkOptionalValue] at hmissed
    exact absurd hmissed (by decide)
  · exact hnone _ hdeclares

end EziotSdk

import EziotSdk.BscJsonPrint
import EziotSdk.ShadowAddress
import EziotSdk.TslLookups

/-!
# Property reports

`ez_iot_tsl_property_report` checks a value for the resource type of its
caller, or for the type that the lookup by key returns, and then pushes it to
the shadow for the type of the lookup in both cases.
-/

namespace EziotSdk

/-! ## The function -/

/-- What the type of a value selects of its union; a boolean is read from the
first byte of the integer. -/
inductive ReportData where
  | bool (valueInt : ℤ)
  | int (valueInt : ℤ)
  | double (valueDouble : ℚ)
  | string (value : CString)
  | array (value : CString)
  | object (value : CString)
  | null
  | max
  deriving DecidableEq, Repr

structure ReportValue where
  data : ReportData
  size : ℤ
  deriving DecidableEq, Repr

/-- The value as the legality check reads it. -/
def ReportData.tslValue : ReportData → TslValue
  | .bool valueInt => .bool (valueInt % 2 ^ 8 ≠ 0)
  | .int valueInt => .int valueInt
  | .double valueDouble => .double valueDouble
  | .string value => .string value
  | .array value => .array value
  | .object value => .object value
  | .null => .null
  | .max => .max

/-- The conversion to a shadow value; the other types are refused. -/
def ReportData.shadowData : ReportData → Option ShadowData
  | .bool valueInt => some (.bool valueInt)
  | .int valueInt => some (.int valueInt)
  | .double valueDouble => some (.double valueDouble)
  | .string value => some (.string value)
  | .array value => some (.array value)
  | .object value => some (.object value)
  | .null => none
  | .max => none

def ReportValue.shadowValue (value : ReportValue) : Option ShadowValue :=
  value.data.shadowData.map fun data => ⟨data, value.size⟩

/-- Without a value the push is made without one. -/
def pushedValue : Option ReportValue → Option (Option ShadowValue)
  | none => some none
  | some value => value.shadowValue.map some

inductive ReportErrno where
  | notInit
  | notReady
  | tsl (rv : TslErrno)
  deriving DecidableEq, Repr

structure TslGates where
  sdkInited : Bool
  tslInited : Bool
  ready : Bool
  deriving Repr

/-- `tsl_rsc_info_t` as it is given, with null pointers. -/
structure ReportRsc where
  resType : Option CString
  localIndex : Option CString
  deriving DecidableEq, Repr

structure ReportKey where
  domain : Option CString
  key : CString
  deriving DecidableEq, Repr

/-- The arguments of `ez_iot_shadow_push_v3`. -/
structure PushCall where
  res : ShadowRes
  domain : CString
  key : CString
  value : Option ShadowValue
  deriving Repr

/-- The result, the resource that was checked and the push that was made. -/
structure PropertyReport where
  rv : ReportErrno
  checked : Option TslRscInfo
  pushed : Option PushCall
  devs : List NodeDev
  deriving Repr

def PushCall.run (call : PushCall) (codec : TslCodec)
    (devSubserial : CString) (devs : List NodeDev) : Bool × List NodeDev :=
  ezIotShadowPushV3 codec.parse devSubserial call.res call.domain call.key
    call.value devs

/-- The resource that the legality check is made for. -/
def checkedRsc (rscInfo : ReportRsc) (resType : CString) : TslRscInfo where
  resType := rscInfo.resType.getD resType
  localIndex := rscInfo.localIndex.getD "0".toList

/-- The push, with the type that was looked up. -/
def reportCall (sn : CString) (rscInfo : ReportRsc) (keyInfo : TslKeyInfo)
    (resType : CString) (pvalue : Option ShadowValue) : PushCall where
  res :=
    { devSerial := storedName 72 sn ShadowRes.devSerial_pos
      resType := storedName 64 resType ShadowRes.resType_pos
      localIndex :=
        int16 (CString.atoi (checkedRsc rscInfo resType).localIndex) }
  domain := keyInfo.domain
  key := keyInfo.key
  value := pvalue

section Report

variable (codec : TslCodec) (devSubserial : CString) (state : TslState)
  (value : Option ReportValue) (devs : List NodeDev)

/-- From the legality check on, with the type that was looked up. -/
def checkAndPush (sn : CString) (rscInfo : ReportRsc) (keyInfo : TslKeyInfo)
    (resType : CString) : Option PropertyReport :=
  let checked := checkedRsc rscInfo resType
  match ezIotTslPropertyValueLegal codec state sn checked keyInfo
      (value.map fun value => value.data.tslValue) with
  | none => none
  | some .succ =>
      match pushedValue value with
      | none => some ⟨.tsl .paramInvalid, some checked, none, devs⟩
      | some pvalue =>
          let call := reportCall sn rscInfo keyInfo resType pvalue
          match call.run codec devSubserial devs with
          | (true, devs) => some ⟨.tsl .succ, some checked, some call, devs⟩
          | (false, devs) =>
              some ⟨.tsl .internal, some checked, some call, devs⟩
  | some rv => some ⟨.tsl rv, some checked, none, devs⟩

/-- `none` is a run that stops in a lookup or in the check. -/
def ezIotTslPropertyReport (gates : TslGates) (sn : Option CString)
    (rscInfo : Option ReportRsc) (keyInfo : Option ReportKey) :
    Option PropertyReport :=
  let refused := fun rv => some ⟨rv, none, none, devs⟩
  if ¬gates.sdkInited ∨ ¬gates.tslInited then refused .notInit
  else if ¬gates.ready then refused .notReady
  else
    match sn, rscInfo, keyInfo with
    | some sn, some rscInfo, some ⟨some domain, key⟩ =>
        match tslFindPropertyRscByKeyinfo state sn ⟨domain, key⟩
            (List.replicate 32 none) 32 with
        | none => none
        | some search =>
            checkAndPush codec devSubserial state value devs sn rscInfo
              ⟨domain, key⟩ search.resType.readString
    | _, _, _ => refused (.tsl .paramInvalid)

/-! ## What a report should push -/

/-- A pushed value, with a boolean read from the first byte. -/
def ShadowData.tslValue : ShadowData → TslValue
  | .bool valueInt => .bool (valueInt % 2 ^ 8 ≠ 0)
  | .int valueInt => .int valueInt
  | .double valueDouble => .double valueDouble
  | .string value => .string value
  | .array value => .array value
  | .object value => .object value
  | .other => .max

/-- The push is for the resource that was checked. -/
structure PushCall.Matches (call : PushCall) (sn : CString)
    (checked : TslRscInfo) (keyInfo : TslKeyInfo) : Prop where
  serial : call.res.devSerial.1 = sn
  type : call.res.resType.1 = checked.resType
  index : BscJson.printInt call.res.localIndex = checked.localIndex
  domain : call.domain = keyInfo.domain
  key : call.key = keyInfo.key
  value : (call.value.map fun value => (value.data.tslValue, value.length)) =
    value.map fun value => (value.data.tslValue, value.size)

/-- The check was made for the resource of the caller and accepted, and what it
accepted was pushed. -/
structure PropertyReport.Validated (report : PropertyReport) (sn : CString)
    (rscInfo : ReportRsc) (keyInfo : TslKeyInfo) (rsc : TslRscInfo)
    (call : PushCall) : Prop where
  checked : report.checked = some rsc
  pushed : report.pushed = some call
  made : report.devs = (call.run codec devSubserial devs).2
  legal : ezIotTslPropertyValueLegal codec state sn rsc keyInfo
    (value.map fun value => value.data.tslValue) = some .succ
  ownType : ∀ resType, rscInfo.resType = some resType → rsc.resType = resType
  ownIndex : ∀ localIndex, rscInfo.localIndex = some localIndex →
    rsc.localIndex = localIndex
  calls : call.Matches value sn rsc keyInfo

/-- A report that succeeds was validated. -/
def ReportValidated (sn : CString) (rscInfo : ReportRsc)
    (keyInfo : TslKeyInfo) (report : Option PropertyReport) : Prop :=
  ∀ result, report = some result → result.rv = .tsl .succ →
    ∃ checked call, result.Validated codec devSubserial state value devs sn
      rscInfo keyInfo checked call

/-! ## What the report does push -/

/-- The type that the lookup returns: that of the last resource, as far as it
fits. -/
def lookedUpType (sn : CString) : CString :=
  match loadedCapacity state sn with
  | none => []
  | some capacity =>
      match capacity.resource.getLast? with
      | none => []
      | some resource => CString.strncpy resource.rscCategory maxNameLength

theorem lookedUpType_length (sn : CString) :
    (lookedUpType state sn).length ≤ maxNameLength := by
  unfold lookedUpType
  split
  · exact Nat.zero_le _
  · split
    · exact Nat.zero_le _
    · rw [CString.strncpy_length]
      exact min_le_left _ _

theorem resType_of_lookup
    {state : TslState} {sn : CString} {keyInfo : TslKeyInfo}
    {search : RscSearch}
    (hsearch : tslFindPropertyRscByKeyinfo state sn keyInfo
      (List.replicate 32 none) 32 = some search) :
    search.resType.readString = lookedUpType state sn := by
  unfold tslFindPropertyRscByKeyinfo findRscByKeyinfo at hsearch
  unfold lookedUpType loadedCapacity
  cases hdev : tslAdapterDevFind state.devInfoList sn with
  | none =>
      rw [hdev, Option.some.injEq] at hsearch
      rw [← hsearch]
      rfl
  | some dev =>
      simp only [hdev] at hsearch ⊢
      by_cases hdone : dev.status = .done
      · rw [if_neg (not_not.mpr hdone)] at hsearch
        rw [if_pos hdone]
        cases hcapacity : findCapacity state.capacitiesList dev with
        | none =>
            rw [hcapacity] at hsearch
            cases hsearch
        | some capacity =>
            simp only [hcapacity, Option.some.injEq] at hsearch ⊢
            rw [← hsearch, resType_foldl_searchRsc _ _ _ _ (by decide)]
            cases capacity.resource.getLast? with
            | none => rfl
            | some resource =>
                exact @CString.Cells.readString_drop_overwritten 32 0 31 0
                  resource.rscCategory (by decide)
      · rw [if_pos hdone, Option.some.injEq] at hsearch
        rw [if_neg hdone, ← hsearch]
        rfl

/-- A check that accepts has found a capacity, and then the lookup returns. -/
theorem lookup_ne_none_of_legal
    {codec : TslCodec} {state : TslState} {sn : CString}
    {checked : TslRscInfo} {keyInfo : TslKeyInfo}
    {given : Option TslValue} (wanted : TslKeyInfo)
    (hlegal : ezIotTslPropertyValueLegal codec state sn checked keyInfo given =
      some .succ) :
    ∃ search, tslFindPropertyRscByKeyinfo state sn wanted
      (List.replicate 32 none) 32 = some search := by
  have hloaded : ∃ capacity, loadedCapacity state sn = some capacity := by
    unfold ezIotTslPropertyValueLegal at hlegal
    cases hlocate : locateDomain state sn checked keyInfo with
    | error rv =>
        rw [hlocate, Option.some.injEq] at hlegal
        have hrv := locateDomain_error hlocate
        rw [hlegal] at hrv
        simp [TslErrno.NotFound] at hrv
    | ok domain =>
        obtain ⟨capacity, hcapacity, -⟩ :=
          (locateDomain_eq_ok_iff _ _ _ _ _).mp hlocate
        exact ⟨capacity, hcapacity⟩
  obtain ⟨capacity, hcapacity⟩ := hloaded
  unfold tslFindPropertyRscByKeyinfo findRscByKeyinfo
  unfold loadedCapacity at hcapacity
  cases hdev : tslAdapterDevFind state.devInfoList sn with
  | none =>
      rw [hdev] at hcapacity
      cases hcapacity
  | some dev =>
      simp only [hdev] at hcapacity ⊢
      by_cases hdone : dev.status = .done
      · rw [if_pos hdone] at hcapacity
        rw [if_neg (not_not.mpr hdone), hcapacity]
        exact ⟨_, rfl⟩
      · rw [if_neg hdone] at hcapacity
        cases hcapacity

def TslGates.Open (gates : TslGates) : Prop :=
  gates.sdkInited = true ∧ gates.tslInited = true ∧ gates.ready = true

/-- The report passes the check for the type it uses, and the push succeeds. -/
def Reportable (gates : TslGates) (sn : CString) (rscInfo : ReportRsc)
    (keyInfo : TslKeyInfo) (pvalue : Option ShadowValue) : Prop :=
  gates.Open ∧
    ezIotTslPropertyValueLegal codec state sn
      (checkedRsc rscInfo (lookedUpType state sn)) keyInfo
      (value.map fun value => value.data.tslValue) = some .succ ∧
    pushedValue value = some pvalue ∧
    ((reportCall sn rscInfo keyInfo (lookedUpType state sn) pvalue).run codec
      devSubserial devs).1 = true

variable {codec devSubserial state value devs}
variable {gates : TslGates} {sn : CString} {rscInfo : ReportRsc}
  {keyInfo : TslKeyInfo} {pvalue : Option ShadowValue}

theorem checkAndPush_succ
    {resType : CString} {result : PropertyReport}
    (hresult : checkAndPush codec devSubserial state value devs sn rscInfo
      keyInfo resType = some result)
    (hsucc : result.rv = .tsl .succ) :
    ezIotTslPropertyValueLegal codec state sn (checkedRsc rscInfo resType)
        keyInfo (value.map fun value => value.data.tslValue) = some .succ ∧
      ∃ pvalue, pushedValue value = some pvalue ∧
        ((reportCall sn rscInfo keyInfo resType pvalue).run codec devSubserial
          devs).1 = true ∧
        result = ⟨.tsl .succ, some (checkedRsc rscInfo resType),
          some (reportCall sn rscInfo keyInfo resType pvalue),
          ((reportCall sn rscInfo keyInfo resType pvalue).run codec
            devSubserial devs).2⟩ := by
  unfold checkAndPush at hresult
  cases hlegal : ezIotTslPropertyValueLegal codec state sn
      (checkedRsc rscInfo resType) keyInfo
      (value.map fun value => value.data.tslValue) with
  | none => simp [hlegal] at hresult
  | some rv =>
      cases rv with
      | succ =>
          simp only [hlegal] at hresult
          cases hvalue : pushedValue value with
          | none =>
              rw [hvalue, Option.some.injEq] at hresult
              rw [← hresult] at hsucc
              cases hsucc
          | some pvalue =>
              simp only [hvalue] at hresult
              cases hpush : (reportCall sn rscInfo keyInfo resType pvalue).run
                  codec devSubserial devs with
              | mk taken after =>
                  cases taken with
                  | true =>
                      rw [hpush, Option.some.injEq] at hresult
                      exact ⟨rfl, pvalue, rfl, by rw [hpush],
                        by rw [← hresult, hpush]⟩
                  | false =>
                      rw [hpush, Option.some.injEq] at hresult
                      rw [← hresult] at hsucc
                      cases hsucc
      | _ =>
          simp only [hlegal, Option.some.injEq] at hresult
          rw [← hresult] at hsucc
          cases hsucc

theorem checkAndPush_of_legal
    {resType : CString}
    (hlegal : ezIotTslPropertyValueLegal codec state sn
      (checkedRsc rscInfo resType) keyInfo
      (value.map fun value => value.data.tslValue) = some .succ)
    (hvalue : pushedValue value = some pvalue)
    (hpush : ((reportCall sn rscInfo keyInfo resType pvalue).run codec
      devSubserial devs).1 = true) :
    checkAndPush codec devSubserial state value devs sn rscInfo keyInfo
        resType =
      some ⟨.tsl .succ, some (checkedRsc rscInfo resType),
        some (reportCall sn rscInfo keyInfo resType pvalue),
        ((reportCall sn rscInfo keyInfo resType pvalue).run codec devSubserial
          devs).2⟩ := by
  unfold checkAndPush
  simp only [hlegal, hvalue]
  cases hrun : (reportCall sn rscInfo keyInfo resType pvalue).run codec
      devSubserial devs with
  | mk taken after =>
      rw [hrun] at hpush
      rw [show taken = true from hpush]

theorem report_of_open (hopen : gates.Open) :
    ezIotTslPropertyReport codec devSubserial state value devs gates
        (some sn) (some rscInfo) (some ⟨some keyInfo.domain, keyInfo.key⟩) =
      (tslFindPropertyRscByKeyinfo state sn keyInfo
        (List.replicate 32 none) 32).bind fun search =>
          checkAndPush codec devSubserial state value devs sn rscInfo keyInfo
            search.resType.readString := by
  obtain ⟨hsdk, htsl, hready⟩ := hopen
  unfold ezIotTslPropertyReport
  rw [hsdk, htsl, hready]
  change (match tslFindPropertyRscByKeyinfo state sn keyInfo
    (List.replicate 32 none) 32 with
    | none => none
    | some search => _) = _
  cases tslFindPropertyRscByKeyinfo state sn keyInfo
    (List.replicate 32 none) 32 <;> rfl

theorem open_of_report_succ {result : PropertyReport}
    {key : Option ReportKey}
    (hresult : ezIotTslPropertyReport codec devSubserial state value devs
      gates (some sn) (some rscInfo) key = some result)
    (hsucc : result.rv = .tsl .succ) : gates.Open := by
  unfold ezIotTslPropertyReport at hresult
  by_cases hinited : ¬gates.sdkInited ∨ ¬gates.tslInited
  · rw [if_pos hinited, Option.some.injEq] at hresult
    rw [← hresult] at hsucc
    cases hsucc
  · rw [if_neg hinited] at hresult
    by_cases hready : ¬gates.ready
    · rw [if_pos hready, Option.some.injEq] at hresult
      rw [← hresult] at hsucc
      cases hsucc
    · push Not at hinited hready
      exact ⟨hinited.1, hinited.2, hready⟩

/-- What succeeds, and what it then has done. -/
theorem report_succ_iff {result : PropertyReport} :
    (ezIotTslPropertyReport codec devSubserial state value devs gates
        (some sn) (some rscInfo) (some ⟨some keyInfo.domain, keyInfo.key⟩) =
      some result ∧ result.rv = .tsl .succ) ↔
      ∃ pvalue,
        Reportable codec devSubserial state value devs gates sn rscInfo
          keyInfo pvalue ∧
        result = ⟨.tsl .succ, some (checkedRsc rscInfo (lookedUpType state sn)),
          some (reportCall sn rscInfo keyInfo (lookedUpType state sn) pvalue),
          ((reportCall sn rscInfo keyInfo (lookedUpType state sn) pvalue).run
            codec devSubserial devs).2⟩ := by
  constructor
  · rintro ⟨hresult, hsucc⟩
    have hopen := open_of_report_succ hresult hsucc
    rw [report_of_open hopen] at hresult
    obtain ⟨search, hsearch, hchecked⟩ := Option.bind_eq_some_iff.mp hresult
    rw [resType_of_lookup hsearch] at hchecked
    obtain ⟨hlegal, pvalue, hvalue, hpush, hmade⟩ :=
      checkAndPush_succ hchecked hsucc
    exact ⟨pvalue, ⟨hopen, hlegal, hvalue, hpush⟩, hmade⟩
  · rintro ⟨pvalue, ⟨hopen, hlegal, hvalue, hpush⟩, rfl⟩
    obtain ⟨search, hsearch⟩ := lookup_ne_none_of_legal keyInfo hlegal
    constructor
    · rw [report_of_open hopen, hsearch, Option.bind_some,
        resType_of_lookup hsearch]
      exact checkAndPush_of_legal hlegal hvalue hpush
    · rfl

/-- The type is not given or is the one that is looked up, the local index is
a number as it is printed, and the serial fits its field. -/
structure ReportFits (state : TslState) (sn : CString) (rscInfo : ReportRsc) :
    Prop where
  type : ∀ resType, rscInfo.resType = some resType →
    resType = lookedUpType state sn
  index : ∀ localIndex, rscInfo.localIndex = some localIndex →
    BscJson.printInt (int16 (CString.atoi localIndex)) = localIndex
  serial : sn.length < 72

theorem pushedValue_eq_some
    (hvalue : pushedValue value = some pvalue) :
    (pvalue.map fun value => (value.data.tslValue, value.length)) =
      value.map fun value => (value.data.tslValue, value.size) := by
  cases value with
  | none =>
      rw [pushedValue, Option.some.injEq] at hvalue
      rw [← hvalue]
      rfl
  | some given =>
      obtain ⟨data, size⟩ := given
      cases data with
      | null => cases hvalue
      | max => cases hvalue
      | bool | int | double | string | array | object =>
          cases hvalue
          rfl

theorem reportCall_matches_iff
    (hvalue : pushedValue value = some pvalue) :
    (reportCall sn rscInfo keyInfo (lookedUpType state sn) pvalue).Matches
        value sn (checkedRsc rscInfo (lookedUpType state sn)) keyInfo ↔
      ReportFits state sn rscInfo := by
  have htype : (storedName 64 (lookedUpType state sn) (by decide)).1 =
      lookedUpType state sn := by
    apply CString.strncpy_of_length_le
    exact (lookedUpType_length state sn).trans (by decide)
  have hserial : (storedName 72 sn (by decide)).1 = sn ↔ sn.length < 72 :=
    (CString.strncpy_eq_self sn 71).trans Nat.lt_succ_iff.symm
  have hgiven : lookedUpType state sn =
      (checkedRsc rscInfo (lookedUpType state sn)).resType ↔
        ∀ resType, rscInfo.resType = some resType →
          resType = lookedUpType state sn := by
    unfold checkedRsc
    cases rscInfo.resType with
    | none => simp
    | some resType => simp [eq_comm]
  have hindex : BscJson.printInt (int16 (CString.atoi
        (checkedRsc rscInfo (lookedUpType state sn)).localIndex)) =
      (checkedRsc rscInfo (lookedUpType state sn)).localIndex ↔
        ∀ localIndex, rscInfo.localIndex = some localIndex →
          BscJson.printInt (int16 (CString.atoi localIndex)) = localIndex := by
    unfold checkedRsc
    cases rscInfo.localIndex with
    | none =>
        have hzero : BscJson.printInt (int16 (CString.atoi "0".toList)) =
            "0".toList := by
          decide
        exact iff_of_true hzero (fun _ hnone => by cases hnone)
    | some localIndex => simp
  constructor
  · intro hmatches
    constructor
    · exact hgiven.mp (htype.symm.trans hmatches.type)
    · exact hindex.mp hmatches.index
    · exact hserial.mp hmatches.serial
  · intro hfits
    constructor
    · exact hserial.mpr hfits.serial
    · exact htype.trans (hgiven.mpr hfits.type)
    · exact hindex.mpr hfits.index
    · rfl
    · rfl
    · exact pushedValue_eq_some hvalue

end Report

/-- A report that succeeds has pushed what was checked exactly when the
resource fits. -/
theorem reportValidated_iff (codec : TslCodec) (devSubserial : CString)
    (state : TslState) (value : Option ReportValue) (devs : List NodeDev)
    (gates : TslGates) (sn : CString) (rscInfo : ReportRsc)
    (keyInfo : TslKeyInfo) :
    ReportValidated codec devSubserial state value devs sn rscInfo keyInfo
        (ezIotTslPropertyReport codec devSubserial state value devs gates
          (some sn) (some rscInfo)
          (some ⟨some keyInfo.domain, keyInfo.key⟩)) ↔
      ((∃ pvalue, Reportable codec devSubserial state value devs gates sn
          rscInfo keyInfo pvalue) →
        ReportFits state sn rscInfo) := by
  constructor
  · rintro hvalidated ⟨pvalue, hreportable⟩
    obtain ⟨hresult, hsucc⟩ := report_succ_iff.mpr ⟨pvalue, hreportable, rfl⟩
    obtain ⟨rsc, call, hreport⟩ := hvalidated _ hresult hsucc
    cases hreport.checked
    cases hreport.pushed
    exact (reportCall_matches_iff hreportable.2.2.1).mp hreport.calls
  · intro hfits result hresult hsucc
    obtain ⟨pvalue, hreportable, rfl⟩ := report_succ_iff.mp ⟨hresult, hsucc⟩
    refine ⟨_, _, rfl, rfl, rfl, hreportable.2.1, ?_, ?_, ?_⟩
    · intro resType hgiven
      rw [checkedRsc, hgiven]
      rfl
    · intro localIndex hgiven
      rw [checkedRsc, hgiven]
      rfl
    · exact (reportCall_matches_iff hreportable.2.2.1).mpr
        (hfits ⟨pvalue, hreportable⟩)

/-- Two resources of one device declare the key. -/
def twinState : TslState where
  devInfoList := [⟨"A1".toList, "lamp".toList, "1.0".toList, .done⟩]
  capacitiesList := [{
    devType := "lamp".toList
    devFwVer := "1.0".toList
    resource := ["left".toList, "right".toList].map fun rscCategory =>
      { rscCategory
        indexNum := 1
        index := CString.Cells.padded "0".toList maxLocalIndexLength
        domain := [lampDomain] }
  }]

/-- A report for the left side of the lamp is checked for it and switches the
right side. -/
theorem report_pushes_other :
    let report := ezIotTslPropertyReport TslCodec.scalarsOnly "hub".toList
      twinState (some ⟨.bool 1, 1⟩) [] ⟨true, true, true⟩ (some "A1".toList)
      (some ⟨some "left".toList, none⟩)
      (some ⟨some "light".toList, "switch".toList⟩)
    (report.map fun result => result.rv) = some (.tsl .succ) ∧
      (report.bind fun result => result.checked) =
        some ⟨"left".toList, "0".toList⟩ ∧
      (report.bind fun result =>
        result.pushed.map fun call => call.res.resType.1) =
        some "right".toList ∧
      ¬ReportValidated TslCodec.scalarsOnly "hub".toList twinState
        (some ⟨.bool 1, 1⟩) [] "A1".toList ⟨some "left".toList, none⟩
        ⟨"light".toList, "switch".toList⟩ report := by
  refine ⟨by decide +kernel, by decide +kernel, by decide +kernel, ?_⟩
  intro hvalidated
  obtain ⟨rsc, call, hreport⟩ := hvalidated _ rfl rfl
  cases hreport.checked
  cases hreport.pushed
  exact absurd hreport.calls.type (by decide)

end EziotSdk

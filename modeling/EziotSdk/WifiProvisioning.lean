import EziotSdk.JsonParser
import EziotSdk.StepSystem

/-!
# Wi-Fi provisioning

`ble_set_wifi_config` and `pre_put_WifiConfig_json` read one request over two
transports.  Both look the members up one after the other and copy each text
into its array of `ez_iot_ap_wifi_info_t` at once; they differ in what a member
that is absent or of another type leads to, and in how a text is copied.
-/

namespace EziotSdk

open ErrorState

/-! ## Data -/

/-- The strings of `ez_iot_ap_wifi_info_t`. -/
inductive WifiField where
  | ssid
  | password
  | cc
  | token
  | domain
  | deviceId
  deriving DecidableEq, Repr

namespace WifiField

def size : WifiField → ℕ
  | .ssid => 33
  | .password => 65
  | .cc => 4
  | .token => 128
  | .domain => 128
  | .deviceId => 32

/-- The member of a request; the lookup of the last two in a `wifi_info` that
is absent or no object finds nothing. -/
def member (js : BscJson) : WifiField → Option BscJson
  | .token => js.getObjectItem "token".toList
  | .cc => js.getObjectItem "areaCode".toList
  | .domain => js.getObjectItem "lbs_domain".toList
  | .deviceId => js.getObjectItem "device_id".toList
  | .ssid =>
      (js.getObjectItem "wifi_info".toList).bind
        (BscJson.getObjectItem "ssid".toList)
  | .password =>
      (js.getObjectItem "wifi_info".toList).bind
        (BscJson.getObjectItem "password".toList)

/-- The area code and the device id may be left out. -/
def Required (field : WifiField) : Prop :=
  field ≠ .cc ∧ field ≠ .deviceId

instance : DecidablePred Required := fun field =>
  inferInstanceAs (Decidable (field ≠ .cc ∧ field ≠ .deviceId))

/-- The text that a request has for a field. -/
def sent (js : BscJson) (field : WifiField) : Option CString :=
  textOf (field.member js)

end WifiField

/-- What an array holds up to its first NUL; all of it when it has none. -/
abbrev WifiInfo := WifiField → CString

def WifiInfo.cleared : WifiInfo := fun _ => []

/-- The stored information, and the calls of `iot_sta_connect`. -/
structure WifiStation where
  info : WifiInfo
  connects : List (CString × CString)

/-- The ends of a request that does not succeed. -/
inductive WifiStop where
  | rejected
  | nullDereference
  | overflow
  deriving DecidableEq, Repr

/-! ## One member -/

/-- How a function treats a member: `none` to go on without it. -/
structure WifiStep where
  field : WifiField
  absent : Option WifiStop
  mistyped : Option WifiStop
  deriving DecidableEq

inductive WifiOutcome where
  | stop (reason : WifiStop)
  | skip
  | copy (text : CString)

def WifiOutcome.stopIf : Option WifiStop → WifiOutcome
  | some reason => .stop reason
  | none => .skip

def WifiStep.outcome (js : BscJson) (step : WifiStep) : WifiOutcome :=
  match step.field.member js with
  | none => .stopIf step.absent
  | some json =>
      match json.valuestring with
      | none => .stopIf step.mistyped
      | some text => .copy text

/-- What a field holds after a text is copied over another; `none` when the
text does not fit. -/
abbrev WifiCopy := WifiField → CString → CString → Option CString

def WifiStation.store (copy : WifiCopy) (field : WifiField)
    (text : CString) : EStateM WifiStop WifiStation Unit := fun station =>
  match copy field (station.info field) text with
  | none => .error .overflow station
  | some held =>
      .ok () { station with info := Function.update station.info field held }

def runSteps (copy : WifiCopy) (js : BscJson) :
    List WifiStep → EStateM WifiStop WifiStation Unit
  | [] => pure ()
  | step :: rest =>
      match step.outcome js with
      | .stop reason => throw reason
      | .skip => runSteps copy js rest
      | .copy text => do
          WifiStation.store copy step.field text
          runSteps copy js rest

def iotStaConnect : EStateM WifiStop WifiStation Unit :=
  modify fun station =>
    { station with
      connects := station.connects ++
        [(station.info .ssid, station.info .password)] }

/-! ## The two functions -/

/-- A member that must be a text. -/
def bleRequired (field : WifiField) : WifiStep :=
  ⟨field, some .rejected, some .rejected⟩

def bleSteps : List WifiStep :=
  [bleRequired .token, ⟨.cc, none, none⟩, bleRequired .domain,
    ⟨.deviceId, none, some .nullDereference⟩, bleRequired .ssid,
    bleRequired .password]

/-- `strcpy`; the area code is four bytes of `memcpy` with a NUL put at the
last. -/
def bleCopy : WifiCopy := fun field _ text =>
  if field = .cc then some (CString.strncpy text 3)
  else if text.length < field.size then some text
  else none

def bleSetWifiConfig (jsValue : BscJson) :
    EStateM WifiStop WifiStation Unit := do
  runSteps bleCopy jsValue bleSteps
  iotStaConnect

/-- A member that must be there. -/
def apRequired (field : WifiField) : WifiStep :=
  ⟨field, some .rejected, none⟩

def apSteps : List WifiStep :=
  [⟨.cc, none, none⟩, apRequired .token, apRequired .domain,
    ⟨.deviceId, none, none⟩, apRequired .ssid, apRequired .password]

/-- The characters that are left of a text; three fields have a NUL put at
their last byte. -/
def apKept : WifiField → ℕ
  | .cc => 3
  | .ssid => 32
  | .password => 64
  | field => field.size

/-- `memcpy` of as many characters as the array has bytes. -/
def apCopy : WifiCopy := fun field held text =>
  some ((overwriteText held (text.take field.size)).take (apKept field))

def prePutWifiConfigJson (jsonDoc : BscJson) :
    EStateM WifiStop WifiStation Unit :=
  runSteps apCopy jsonDoc apSteps

/-- `pre_WifiConfig_basic`, with `prenetwork_put_WifiConfig_cfg`. -/
def preWifiConfigBasic (jsonDoc : BscJson) :
    EStateM WifiStop WifiStation Unit := do
  prePutWifiConfigJson jsonDoc
  iotStaConnect

/-- `http_put_wifi_handler` clears the information first. -/
def WifiStation.clear (station : WifiStation) : WifiStation :=
  { station with info := .cleared }

/-! ## What a request should do -/

/-- Every field holds the text of the request, or nothing if the request has
none for it. -/
structure StoresExactly (js : BscJson) (info : WifiInfo) : Prop where
  sent : ∀ field : WifiField, field.Required → field.sent js ≠ none
  stored : ∀ field, info field = (field.sent js).getD []
  terminated : ∀ field, (info field).length < field.size

def ProvisionSound (js : BscJson) (before : WifiStation) :
    EStateM.Result WifiStop WifiStation Unit → Prop
  | .ok _ next => StoresExactly js next.info
  | .error .rejected next => next = before
  | .error _ _ => False

def Accepted (result : EStateM.Result WifiStop WifiStation Unit) : Prop :=
  ∃ next, result = .ok () next

/-- One request, sent over either transport. -/
structure RequestSound (station : WifiStation) (js : BscJson) : Prop where
  ble : ProvisionSound js station (bleSetWifiConfig js station)
  ap : ProvisionSound js station.clear (preWifiConfigBasic js station.clear)
  same : Accepted (bleSetWifiConfig js station) ↔
    Accepted (preWifiConfigBasic js station.clear)

/-- The next state of the structure that Bluetooth requests share; the other
transport starts each request with a cleared one. -/
def WifiStation.step (station : WifiStation) (js : BscJson) :
    Option WifiStation :=
  match bleSetWifiConfig js station with
  | .ok _ next => some next
  | .error .rejected next => some next
  | .error _ _ => none

/-! ## What a run copies and how it ends -/

/-- The texts that are copied, in order. -/
def copiedTexts (js : BscJson) : List WifiStep → List (WifiField × CString)
  | [] => []
  | step :: rest =>
      match step.outcome js with
      | .stop _ => []
      | .skip => copiedTexts js rest
      | .copy text => (step.field, text) :: copiedTexts js rest

/-- What ends the lookups; `none` when all members are dealt with. -/
def lookupStop (js : BscJson) : List WifiStep → Option WifiStop
  | [] => none
  | step :: rest =>
      match step.outcome js with
      | .stop reason => some reason
      | .skip => lookupStop js rest
      | .copy _ => lookupStop js rest

/-- All texts copied one after the other; `none` when one does not fit. -/
def copyAll (copy : WifiCopy) :
    List (WifiField × CString) → WifiInfo → Option WifiInfo
  | [], info => some info
  | (field, text) :: rest, info =>
      (copy field (info field) text).bind fun held =>
        copyAll copy rest (Function.update info field held)

/-- The result that goes with the end of the lookups. -/
def endOf : Option WifiStop → WifiStation →
    EStateM.Result WifiStop WifiStation Unit
  | none, station => .ok () station
  | some reason, station => .error reason station

section Runs

variable {copy : WifiCopy} {js : BscJson}

theorem runSteps_of_copyAll {steps : List WifiStep} {station : WifiStation}
    {last : WifiInfo}
    (hcopy : copyAll copy (copiedTexts js steps) station.info = some last) :
    runSteps copy js steps station =
      endOf (lookupStop js steps) { station with info := last } := by
  induction steps generalizing station with
  | nil =>
      cases hcopy
      rfl
  | cons step rest ih =>
      cases houtcome : step.outcome js with
      | stop reason =>
          simp only [copiedTexts, houtcome, copyAll,
            Option.some.injEq] at hcopy
          simp only [runSteps, lookupStop, houtcome, ← hcopy]
          rfl
      | skip =>
          simp only [copiedTexts, houtcome] at hcopy
          simp only [runSteps, lookupStop, houtcome]
          exact ih hcopy
      | copy text =>
          simp only [copiedTexts, houtcome, copyAll,
            Option.bind_eq_some_iff] at hcopy
          rcases hcopy with ⟨held, hheld, hrest⟩
          simp only [runSteps, lookupStop, houtcome]
          have hstore : WifiStation.store copy step.field text station =
              .ok () { station with
                info := Function.update station.info step.field held } := by
            simp only [WifiStation.store, hheld]
          rw [bind_of_ok hstore]
          exact ih hrest

theorem runSteps_of_copyAll_none {steps : List WifiStep}
    {station : WifiStation}
    (hcopy : copyAll copy (copiedTexts js steps) station.info = none) :
    ∃ reached, runSteps copy js steps station =
      .error .overflow reached := by
  induction steps generalizing station with
  | nil => cases hcopy
  | cons step rest ih =>
      cases houtcome : step.outcome js with
      | stop reason =>
          simp only [copiedTexts, houtcome, copyAll] at hcopy
          cases hcopy
      | skip =>
          simp only [copiedTexts, houtcome] at hcopy
          simp only [runSteps, houtcome]
          exact ih hcopy
      | copy text =>
          simp only [copiedTexts, houtcome, copyAll] at hcopy
          simp only [runSteps, houtcome]
          cases hheld : copy step.field (station.info step.field) text with
          | none =>
              have hstore : WifiStation.store copy step.field text station =
                  .error .overflow station := by
                simp only [WifiStation.store, hheld]
              exact ⟨station, bind_of_error hstore⟩
          | some held =>
              rw [hheld, Option.bind_some] at hcopy
              have hstore : WifiStation.store copy step.field text station =
                  .ok () { station with
                    info := Function.update station.info step.field held } := by
                simp only [WifiStation.store, hheld]
              rw [bind_of_ok hstore]
              exact ih hcopy

/-- Fields that are copied to at most once are copied to independently. -/
theorem copyAll_eq_some_iff {texts : List (WifiField × CString)}
    (hnodup : (texts.map Prod.fst).Nodup) {info last : WifiInfo} :
    copyAll copy texts info = some last ↔
      (∀ entry ∈ texts,
        copy entry.1 (info entry.1) entry.2 = some (last entry.1)) ∧
      ∀ field, field ∉ texts.map Prod.fst → last field = info field := by
  induction texts generalizing info with
  | nil =>
      simp only [copyAll, Option.some.injEq]
      constructor
      · rintro rfl
        exact ⟨fun _ hmem => absurd hmem List.not_mem_nil, fun _ _ => rfl⟩
      · rintro ⟨-, hsame⟩
        funext field
        exact (hsame field List.not_mem_nil).symm
  | cons entry rest ih =>
      rcases entry with ⟨field, text⟩
      rw [List.map_cons, List.nodup_cons] at hnodup
      simp only [copyAll, Option.bind_eq_some_iff]
      constructor
      · rintro ⟨held, hheld, hrest⟩
        rcases (ih hnodup.2).mp hrest with ⟨hcopied, hsame⟩
        constructor
        · intro entry hmem
          rcases List.mem_cons.mp hmem with rfl | hlater
          · rw [hsame field hnodup.1, Function.update_self]
            exact hheld
          · have hother : entry.1 ≠ field := by
              rintro rfl
              exact hnodup.1 (List.mem_map.mpr ⟨entry, hlater, rfl⟩)
            rw [← hcopied entry hlater, Function.update_of_ne hother]
        · intro other hother
          rw [List.map_cons, List.mem_cons, not_or] at hother
          rw [hsame other hother.2, Function.update_of_ne hother.1]
      · rintro ⟨hcopied, hsame⟩
        refine ⟨last field, hcopied _ List.mem_cons_self, ?_⟩
        apply (ih hnodup.2).mpr
        constructor
        · intro entry hmem
          have hother : entry.1 ≠ field := by
            rintro rfl
            exact hnodup.1 (List.mem_map.mpr ⟨entry, hmem, rfl⟩)
          rw [Function.update_of_ne hother]
          exact hcopied entry (List.mem_cons_of_mem _ hmem)
        · intro other hother
          by_cases hfield : other = field
          · rw [hfield, Function.update_self]
          · rw [Function.update_of_ne hfield]
            apply hsame
            rw [List.map_cons, List.mem_cons, not_or]
            exact ⟨hfield, hother⟩

theorem copiedTexts_fields (js : BscJson) (steps : List WifiStep) :
    ((copiedTexts js steps).map Prod.fst).Sublist
      (steps.map WifiStep.field) := by
  induction steps with
  | nil => exact List.Sublist.refl []
  | cons step rest ih =>
      simp only [copiedTexts]
      cases step.outcome js with
      | stop reason => exact List.nil_sublist _
      | skip => exact ih.cons step.field
      | copy text => exact ih.cons_cons step.field

theorem outcome_of_absent {step : WifiStep}
    (habsent : step.field.member js = none) :
    step.outcome js = .stopIf step.absent := by
  simp only [WifiStep.outcome, habsent]

theorem outcome_of_mistyped {step : WifiStep} {json : BscJson}
    (hmember : step.field.member js = some json)
    (hmistyped : json.valuestring = none) :
    step.outcome js = .stopIf step.mistyped := by
  simp only [WifiStep.outcome, hmember, hmistyped]

theorem outcome_copy_iff {step : WifiStep} {text : CString} :
    step.outcome js = .copy text ↔ step.field.sent js = some text := by
  have hstop : ∀ reason, WifiOutcome.stopIf reason ≠ .copy text := by
    intro reason
    cases reason <;> exact WifiOutcome.noConfusion
  unfold WifiStep.outcome WifiField.sent textOf
  cases step.field.member js with
  | none => simp [hstop]
  | some json =>
      simp only [Option.bind_some]
      cases json.valuestring with
      | none => simp [hstop]
      | some own => simp

theorem lookupStop_eq_none_iff {steps : List WifiStep} :
    lookupStop js steps = none ↔
      ∀ step ∈ steps, ∀ reason, step.outcome js ≠ .stop reason := by
  induction steps with
  | nil => simp [lookupStop]
  | cons step rest ih =>
      simp only [lookupStop, List.forall_mem_cons]
      cases step.outcome js with
      | stop reason => simp
      | skip => simpa using ih
      | copy text => simpa using ih

/-- When nothing ends the lookups, all texts that are sent are copied. -/
theorem mem_copiedTexts_iff {steps : List WifiStep}
    (hstop : lookupStop js steps = none) {field : WifiField}
    {text : CString} :
    (field, text) ∈ copiedTexts js steps ↔
      field ∈ steps.map WifiStep.field ∧ field.sent js = some text := by
  induction steps with
  | nil => simp [copiedTexts]
  | cons step rest ih =>
      simp only [lookupStop] at hstop
      simp only [copiedTexts, List.map_cons, List.mem_cons]
      cases houtcome : step.outcome js with
      | stop reason =>
          rw [houtcome] at hstop
          cases hstop
      | skip =>
          rw [houtcome] at hstop
          have hnot : step.field.sent js ≠ some text := by
            intro hsent
            rw [outcome_copy_iff.mpr hsent] at houtcome
            cases houtcome
          rw [ih hstop]
          constructor
          · rintro ⟨hmem, hsent⟩
            exact ⟨Or.inr hmem, hsent⟩
          · rintro ⟨rfl | hmem, hsent⟩
            · exact absurd hsent hnot
            · exact ⟨hmem, hsent⟩
      | copy own =>
          rw [houtcome] at hstop
          have hown := outcome_copy_iff.mp houtcome
          rw [List.mem_cons, ih hstop, Prod.mk.injEq]
          constructor
          · rintro (⟨rfl, rfl⟩ | ⟨hmem, hsent⟩)
            · exact ⟨Or.inl rfl, hown⟩
            · exact ⟨Or.inr hmem, hsent⟩
          · rintro ⟨rfl | hmem, hsent⟩
            · rw [hown, Option.some.injEq] at hsent
              exact Or.inl ⟨rfl, hsent.symm⟩
            · exact Or.inr ⟨hmem, hsent⟩

theorem outcome_stop_iff {step : WifiStep} {reason : WifiStop} :
    step.outcome js = .stop reason ↔
      (step.field.member js = none ∧ step.absent = some reason) ∨
      (step.field.member js ≠ none ∧ step.field.sent js = none ∧
        step.mistyped = some reason) := by
  have hreason : ∀ ending, WifiOutcome.stopIf ending = .stop reason ↔
      ending = some reason := by
    intro ending
    cases ending <;> simp [WifiOutcome.stopIf]
  unfold WifiField.sent textOf
  cases hmember : step.field.member js with
  | none => simp [outcome_of_absent hmember, hreason]
  | some json =>
      simp only [Option.bind_some]
      cases hvalue : json.valuestring with
      | none => simp [outcome_of_mistyped hmember hvalue, hreason]
      | some text => simp [WifiStep.outcome, hmember, hvalue]

theorem exists_of_lookupStop {steps : List WifiStep} {reason : WifiStop}
    (hstop : lookupStop js steps = some reason) :
    ∃ step ∈ steps, step.outcome js = .stop reason := by
  induction steps with
  | nil => cases hstop
  | cons step rest ih =>
      simp only [lookupStop] at hstop
      simp only [List.mem_cons, exists_eq_or_imp]
      cases houtcome : step.outcome js with
      | stop own =>
          rw [houtcome, Option.some.injEq] at hstop
          subst hstop
          exact Or.inl rfl
      | skip =>
          rw [houtcome] at hstop
          exact Or.inr (ih hstop)
      | copy text =>
          rw [houtcome] at hstop
          exact Or.inr (ih hstop)

/-- A function that connects when all members are dealt with. -/
theorem provisionSound_iff {steps : List WifiStep} {station : WifiStation} :
    ProvisionSound js station
        ((do runSteps copy js steps; iotStaConnect) station) ↔
      (∀ reason, lookupStop js steps = some reason → reason = .rejected) ∧
      (lookupStop js steps = some .rejected →
        copyAll copy (copiedTexts js steps) station.info =
          some station.info) ∧
      (lookupStop js steps = none →
        ∃ last, copyAll copy (copiedTexts js steps) station.info =
          some last ∧ StoresExactly js last) := by
  cases hcopy : copyAll copy (copiedTexts js steps) station.info with
  | none =>
      rcases runSteps_of_copyAll_none hcopy with ⟨reached, hrun⟩
      rw [bind_of_error hrun]
      cases hstop : lookupStop js steps with
      | none => simp [ProvisionSound]
      | some reason => cases reason <;> simp [ProvisionSound]
  | some last =>
      have hrun := runSteps_of_copyAll hcopy
      cases hstop : lookupStop js steps with
      | none =>
          rw [hstop] at hrun
          rw [bind_of_ok hrun]
          change StoresExactly js last ↔ _
          simp
      | some reason =>
          rw [hstop] at hrun
          rw [bind_of_error hrun]
          cases reason with
          | rejected =>
              change { station with info := last } = station ↔ _
              rw [WifiStation.mk.injEq]
              simp
          | nullDereference => simp [ProvisionSound]
          | overflow => simp [ProvisionSound]

theorem accepted_iff {steps : List WifiStep} {station : WifiStation} :
    Accepted ((do runSteps copy js steps; iotStaConnect) station) ↔
      lookupStop js steps = none ∧
        copyAll copy (copiedTexts js steps) station.info ≠ none := by
  unfold Accepted
  cases hcopy : copyAll copy (copiedTexts js steps) station.info with
  | none =>
      rcases runSteps_of_copyAll_none hcopy with ⟨reached, hrun⟩
      rw [bind_of_error hrun]
      simp
  | some last =>
      have hrun := runSteps_of_copyAll hcopy
      cases hstop : lookupStop js steps with
      | none =>
          rw [hstop] at hrun
          rw [bind_of_ok hrun]
          simp only [ne_eq, reduceCtorEq, not_false_eq_true, and_self,
            iff_true]
          exact ⟨_, rfl⟩
      | some reason =>
          rw [hstop] at hrun
          rw [bind_of_error hrun]
          simp

theorem copyAll_self_iff {texts : List (WifiField × CString)}
    (hnodup : (texts.map Prod.fst).Nodup) {info : WifiInfo} :
    copyAll copy texts info = some info ↔
      ∀ entry ∈ texts,
        copy entry.1 (info entry.1) entry.2 = some (info entry.1) := by
  rw [copyAll_eq_some_iff hnodup]
  exact and_iff_left fun _ _ => rfl

/-- All texts of a request are copied: what comes out is exactly what is
sent. -/
theorem copyAll_stores_iff {steps : List WifiStep} {info : WifiInfo}
    (hfields : ∀ field, field ∈ steps.map WifiStep.field)
    (hnodup : ((copiedTexts js steps).map Prod.fst).Nodup)
    (hstop : lookupStop js steps = none) :
    (∃ last, copyAll copy (copiedTexts js steps) info = some last ∧
        StoresExactly js last) ↔
      (∀ field : WifiField, field.Required → field.sent js ≠ none) ∧
      ∀ field : WifiField,
        (∀ text, field.sent js = some text →
          copy field (info field) text = some text ∧
            text.length < field.size) ∧
        (field.sent js = none → info field = []) := by
  have hmem : ∀ {field text}, (field, text) ∈ copiedTexts js steps ↔
      field.sent js = some text := fun {field text} =>
    (mem_copiedTexts_iff hstop).trans (and_iff_right (hfields field))
  have hnot : ∀ {field}, field ∉ (copiedTexts js steps).map Prod.fst ↔
      field.sent js = none := by
    intro field
    rw [Option.eq_none_iff_forall_ne_some]
    simp only [List.mem_map, Prod.exists, exists_and_right, exists_eq_right,
      hmem, not_exists, ne_eq]
  constructor
  · rintro ⟨last, hcopy, hstores⟩
    rcases (copyAll_eq_some_iff hnodup).mp hcopy with ⟨hcopied, hsame⟩
    refine ⟨hstores.sent, fun field => ⟨?_, ?_⟩⟩
    · intro text hsent
      have hlast : last field = text := by
        rw [hstores.stored, hsent, Option.getD_some]
      have hone := hcopied _ (hmem.mpr hsent)
      have hshort := hstores.terminated field
      rw [hlast] at hone hshort
      exact ⟨hone, hshort⟩
    · intro hsent
      rw [← hsame field (hnot.mpr hsent), hstores.stored, hsent]
      rfl
  · rintro ⟨hsent, hfits⟩
    refine ⟨fun field => (field.sent js).getD [], ?_, hsent, fun _ => rfl, ?_⟩
    · apply (copyAll_eq_some_iff hnodup).mpr
      constructor
      · rintro ⟨field, text⟩ hentry
        have htext := hmem.mp hentry
        rw [((hfits field).1 text htext).1, htext, Option.getD_some]
      · intro field hfield
        have hnone := hnot.mp hfield
        rw [(hfits field).2 hnone, hnone, Option.getD_none]
    · intro field
      cases htext : field.sent js with
      | none =>
          cases field <;> decide
      | some text => exact ((hfits field).1 text htext).2

end Runs

/-! ## The two transports -/

theorem bleSteps_fields (field : WifiField) :
    field ∈ bleSteps.map WifiStep.field := by
  cases field <;> decide

theorem apSteps_fields (field : WifiField) :
    field ∈ apSteps.map WifiStep.field := by
  cases field <;> decide

theorem bleTexts_nodup (js : BscJson) :
    ((copiedTexts js bleSteps).map Prod.fst).Nodup :=
  (copiedTexts_fields js bleSteps).nodup (by decide)

theorem apTexts_nodup (js : BscJson) :
    ((copiedTexts js apSteps).map Prod.fst).Nodup :=
  (copiedTexts_fields js apSteps).nodup (by decide)

/-- When Bluetooth's lookups come to their end, every text is there that has
to be. -/
theorem sent_of_bleStop {js : BscJson}
    (hstop : lookupStop js bleSteps = none) {field : WifiField}
    (hrequired : field.Required) : field.sent js ≠ none := by
  have hstep : bleRequired field ∈ bleSteps := by
    rcases hrequired with ⟨hcc, hdevice⟩
    cases field with
    | cc => exact absurd rfl hcc
    | deviceId => exact absurd rfl hdevice
    | ssid => decide
    | password => decide
    | token => decide
    | domain => decide
  intro hnone
  apply lookupStop_eq_none_iff.mp hstop _ hstep .rejected
  cases hmember : field.member js with
  | none => exact outcome_of_absent hmember
  | some json =>
      apply outcome_of_mistyped hmember
      rw [WifiField.sent, textOf, hmember, Option.bind_some] at hnone
      exact hnone

/-- The texts that come before a member that is missing are stored already,
and the others fit and replace what is there. -/
structure BleFits (station : WifiStation) (js : BscJson) : Prop where
  defined : ∀ reason, lookupStop js bleSteps = some reason →
    reason = .rejected
  rejected : lookupStop js bleSteps = some .rejected →
    ∀ entry ∈ copiedTexts js bleSteps,
      bleCopy entry.1 (station.info entry.1) entry.2 =
        some (station.info entry.1)
  accepted : lookupStop js bleSteps = none → ∀ field : WifiField,
    (∀ text, field.sent js = some text → text.length < field.size) ∧
      (field.sent js = none → station.info field = [])

/-- No text comes before a member that is missing, and the members that have
to be there are texts that fit. -/
structure ApFits (js : BscJson) : Prop where
  rejected : lookupStop js apSteps = some .rejected →
    ∀ entry ∈ copiedTexts js apSteps, entry.2 = []
  accepted : lookupStop js apSteps = none → ∀ field : WifiField,
    (∀ text, field.sent js = some text → text.length < field.size) ∧
      (field.Required → field.sent js ≠ none)

theorem bleCopy_self_iff {field : WifiField} {held text : CString} :
    (bleCopy field held text = some text ∧ text.length < field.size) ↔
      text.length < field.size := by
  apply and_iff_right_of_imp
  intro hshort
  unfold bleCopy
  split
  · next hcc =>
      subst hcc
      rw [CString.strncpy_of_length_le (Nat.le_of_lt_succ hshort)]
  · rfl

theorem apCopy_cleared {field : WifiField} {text : CString} :
    apCopy field [] text = some (text.take (apKept field)) := by
  unfold apCopy overwriteText
  rw [List.drop_nil, List.append_nil, List.take_take]
  cases field <;> rfl

theorem apCopy_self_iff {field : WifiField} {text : CString} :
    (apCopy field [] text = some text ∧ text.length < field.size) ↔
      text.length < field.size := by
  apply and_iff_right_of_imp
  intro hshort
  have hkept : field.size ≤ apKept field + 1 := by
    cases field <;> decide
  rw [apCopy_cleared, List.take_of_length_le (by omega)]

theorem apCopy_eq_nil_iff {field : WifiField} {text : CString} :
    apCopy field [] text = some [] ↔ text = [] := by
  rw [apCopy_cleared, Option.some.injEq, List.take_eq_nil_iff]
  exact or_iff_right (by cases field <;> decide)

theorem bleSetWifiConfig_sound_iff
    {station : WifiStation} {js : BscJson} :
    ProvisionSound js station (bleSetWifiConfig js station) ↔
      BleFits station js := by
  unfold bleSetWifiConfig
  rw [provisionSound_iff, copyAll_self_iff (bleTexts_nodup js)]
  have hstores (hstop : lookupStop js bleSteps = none) :=
    @copyAll_stores_iff bleCopy js bleSteps station.info
      bleSteps_fields (bleTexts_nodup js) hstop
  constructor
  · rintro ⟨hdefined, hrejected, haccepted⟩
    refine ⟨hdefined, hrejected, fun hstop field => ?_⟩
    rcases (hstores hstop).mp (haccepted hstop) with ⟨-, hfits⟩
    exact ⟨fun text hsent => ((hfits field).1 text hsent).2,
      (hfits field).2⟩
  · rintro ⟨hdefined, hrejected, haccepted⟩
    refine ⟨hdefined, hrejected, fun hstop => ?_⟩
    apply (hstores hstop).mpr
    refine ⟨fun _ => sent_of_bleStop hstop, fun field => ⟨?_, ?_⟩⟩
    · intro text hsent
      exact bleCopy_self_iff.mpr ((haccepted hstop field).1 text hsent)
    · exact (haccepted hstop field).2

/-- Only a member that is missing ends the other transport's lookups. -/
theorem apStop_cases {js : BscJson} {reason : WifiStop}
    (hstop : lookupStop js apSteps = some reason) :
    ∃ step ∈ apSteps, step.field.member js = none ∧
      step.absent = some reason := by
  rcases exists_of_lookupStop hstop with ⟨step, hmem, hstep⟩
  have hall : ∀ step ∈ apSteps, step.mistyped = none := by decide
  rcases outcome_stop_iff.mp hstep with hmissing | ⟨-, -, hmistyped⟩
  · exact ⟨step, hmem, hmissing⟩
  · rw [hall step hmem] at hmistyped
    cases hmistyped

theorem preWifiConfigBasic_sound_iff
    {station : WifiStation} {js : BscJson} :
    ProvisionSound js station.clear
        (preWifiConfigBasic js station.clear) ↔ ApFits js := by
  unfold preWifiConfigBasic prePutWifiConfigJson
  rw [provisionSound_iff, copyAll_self_iff (apTexts_nodup js)]
  have hdefined : ∀ reason, lookupStop js apSteps = some reason →
      reason = .rejected := by
    intro reason hstop
    rcases apStop_cases hstop with ⟨step, hmem, -, habsent⟩
    have hall : ∀ step ∈ apSteps,
        step.absent = none ∨ step.absent = some .rejected := by decide
    rcases hall step hmem with hnone | hsome
    · rw [hnone] at habsent
      cases habsent
    · rw [hsome] at habsent
      exact (Option.some.inj habsent).symm
  have hempty : (∀ entry ∈ copiedTexts js apSteps,
      apCopy entry.1 (station.clear.info entry.1) entry.2 =
        some (station.clear.info entry.1)) ↔
      ∀ entry ∈ copiedTexts js apSteps, entry.2 = [] :=
    forall₂_congr fun _ _ => apCopy_eq_nil_iff
  have hstores (hstop : lookupStop js apSteps = none) :=
    @copyAll_stores_iff apCopy js apSteps station.clear.info
      apSteps_fields (apTexts_nodup js) hstop
  rw [hempty]
  constructor
  · rintro ⟨-, hrejected, haccepted⟩
    refine ⟨hrejected, fun hstop field => ?_⟩
    rcases (hstores hstop).mp (haccepted hstop) with ⟨hsent, hfits⟩
    exact ⟨fun text htext => ((hfits field).1 text htext).2, hsent field⟩
  · rintro ⟨hrejected, haccepted⟩
    refine ⟨hdefined, hrejected, fun hstop => ?_⟩
    apply (hstores hstop).mpr
    refine ⟨fun field => (haccepted hstop field).2,
      fun field => ⟨?_, fun _ => rfl⟩⟩
    intro text hsent
    exact apCopy_self_iff.mpr ((haccepted hstop field).1 text hsent)

/-- A request that fits over both transports is accepted by both or by
none. -/
theorem accepted_same {station : WifiStation} {js : BscJson}
    (hble : BleFits station js) (hap : ApFits js) :
    Accepted (bleSetWifiConfig js station) ↔
      Accepted (preWifiConfigBasic js station.clear) := by
  unfold bleSetWifiConfig preWifiConfigBasic prePutWifiConfigJson
  rw [accepted_iff, accepted_iff]
  constructor
  · rintro ⟨hble, -⟩
    have hstop : lookupStop js apSteps = none := by
      rw [Option.eq_none_iff_forall_ne_some]
      intro reason hreason
      rcases apStop_cases hreason with ⟨step, hmem, hmember, habsent⟩
      have hall : ∀ step ∈ apSteps, step.absent = none ∨
          step.field.Required := by decide
      rcases hall step hmem with hnone | hrequired
      · rw [hnone] at habsent
        cases habsent
      · apply sent_of_bleStop hble hrequired
        rw [WifiField.sent, textOf, hmember, Option.bind_none]
    have hsound := (@preWifiConfigBasic_sound_iff station js).mpr hap
    rcases (provisionSound_iff.mp hsound).2.2 hstop with ⟨last, hcopy, -⟩
    exact ⟨hstop, ne_of_eq_of_ne hcopy (Option.some_ne_none last)⟩
  · rintro ⟨hlookups, -⟩
    have hstop : lookupStop js bleSteps = none := by
      rw [Option.eq_none_iff_forall_ne_some]
      intro reason hreason
      rw [hble.defined reason hreason] at hreason
      rcases exists_of_lookupStop hreason with ⟨step, hmem, hstep⟩
      have hall : ∀ step ∈ bleSteps, step.field.Required ∨
          (step.absent = none ∧ step.mistyped ≠ some .rejected) := by decide
      rcases hall step hmem with hrequired | ⟨habsent, hmistyped⟩
      · have hsent := (hap.accepted hlookups step.field).2 hrequired
        rcases outcome_stop_iff.mp hstep with ⟨hnone, -⟩ | ⟨-, hnone, -⟩
        · rw [WifiField.sent, textOf, hnone] at hsent
          exact hsent rfl
        · exact hsent hnone
      · rcases outcome_stop_iff.mp hstep with ⟨-, hsome⟩ | ⟨-, -, hsome⟩
        · rw [habsent] at hsome
          cases hsome
        · exact hmistyped hsome
    have hsound := bleSetWifiConfig_sound_iff.mpr hble
    rcases (provisionSound_iff.mp hsound).2.2 hstop with ⟨last, hcopy, -⟩
    exact ⟨hstop, ne_of_eq_of_ne hcopy (Option.some_ne_none last)⟩

/-- Over both transports the texts of a request fit, no text comes before a
member that is missing or is not a text (over Bluetooth: none that is not
stored already), the members that have to be there are texts, a device
identifier that is there is one too, and a member that is left out has nothing
stored for it. -/
structure RequestFits (station : WifiStation) (js : BscJson) : Prop where
  ble : BleFits station js
  ap : ApFits js

theorem requestSound_iff {station : WifiStation} {js : BscJson} :
    RequestSound station js ↔ RequestFits station js := by
  constructor
  · intro hsound
    exact ⟨bleSetWifiConfig_sound_iff.mp hsound.ble,
      preWifiConfigBasic_sound_iff.mp hsound.ap⟩
  · intro hfits
    exact ⟨bleSetWifiConfig_sound_iff.mpr hfits.ble,
      preWifiConfigBasic_sound_iff.mpr hfits.ap,
      accepted_same hfits.ble hfits.ap⟩

/-- Provisioning stores exactly what was sent over both transports as long as
every request fits. -/
theorem wifiRequests_sound_iff
    (station : WifiStation) (requests : List BscJson) :
    StepSystem.StepsMeet WifiStation.step RequestSound station requests ↔
      StepSystem.StepsMeet WifiStation.step RequestFits station requests := by
  induction requests generalizing station with
  | nil => exact Iff.rfl
  | cons js rest ih =>
      apply and_congr requestSound_iff
      exact forall_congr' fun next => imp_congr_right fun _ => ih next

def WifiStation.unused : WifiStation := ⟨.cleared, []⟩

/-- A request with all members but the device identifier. -/
def provisioningRequest (token : CString) (device : List BscJson) : BscJson :=
  .object ([("token".toList, .string token),
      ("lbs_domain".toList, .string "d".toList),
      ("wifi_info".toList, .object
        [("ssid".toList, .string "net".toList),
          ("password".toList, .string "pw".toList)])] ++
    device.map fun id => ("device_id".toList, id))

/-- The device identifier of one request is still stored after the next one,
which has none. -/
theorem device_id_remains :
    ¬ StepSystem.StepsMeet WifiStation.step RequestSound .unused
      [provisioningRequest "t1".toList [.string "D1".toList],
        provisioningRequest "t2".toList []] := by
  intro hmeet
  have hsecond := (hmeet.2 _ rfl).1.ble
  have hstored := StoresExactly.stored hsecond .deviceId
  cases hstored

end EziotSdk

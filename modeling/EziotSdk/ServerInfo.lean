import EziotSdk.JsonParser

/-!
# Parsers of server information

`json_parse_das_server_info` and `json_parse_stun_server_info` against what
they are for: a document with every field in its type, range and length is
stored, and any other is rejected without a trace in the structure.  Both
write as they go, take every number for a port, and look at some pointers
twice in place of others.
-/

namespace EziotSdk

open ErrorState

/-! ## What the parsers are for -/

/-- Success means the fields of a document that are as they should be, and
failure that nothing happened. -/
structure ParsesExactly {Info Fields : Type}
    (parse : EStateM Abort Info Unit) (present : Fields → Prop)
    (wellFormed : Fields → Prop) (stored : Fields → Info → Prop)
    (info : Info) : Prop where
  succeeds_iff : (∃ reached, parse info = .ok () reached) ↔
    ∃ fields, present fields ∧ wellFormed fields
  stores : ∀ reached, parse info = .ok () reached →
    ∀ fields, present fields → stored fields reached
  neverNull : ∀ reached, parse info ≠ .error .nullDereference reached
  unchanged : ∀ abort reached, parse info = .error abort reached →
    reached = info

section

variable {Info Fields : Type} {parse : EStateM Abort Info Unit}
  {present : Fields → Prop} {wellFormed : Fields → Prop}
  {stored : Fields → Info → Prop} {info reached : Info}

theorem not_parsesExactly_of_null
    (hnull : parse info = .error .nullDereference reached) :
    ¬ ParsesExactly parse present wellFormed stored info := by
  intro hexact
  exact hexact.neverNull reached hnull

theorem not_parsesExactly_of_accepted
    (hok : parse info = .ok () reached)
    (hnone : ∀ fields, ¬ present fields) :
    ¬ ParsesExactly parse present wellFormed stored info := by
  intro hexact
  obtain ⟨fields, hfields, -⟩ := hexact.succeeds_iff.mp ⟨reached, hok⟩
  exact hnone fields hfields

theorem parsesExactly_of_code_iff
    {error : MkernelInternalError}
    (herror : parse info = .error (.code error) reached)
    (hnone : ∀ fields, present fields → ¬ wellFormed fields) :
    ParsesExactly parse present wellFormed stored info ↔
      reached = info := by
  constructor
  · intro hexact
    exact hexact.unchanged _ _ herror
  · intro hsame
    constructor
    · simp only [herror, reduceCtorEq, exists_false, false_iff, not_exists,
        not_and]
      exact hnone
    · intro other hok
      rw [herror] at hok
      cases hok
    · intro other hnull
      rw [herror] at hnull
      cases hnull
    · intro abort other hother
      rw [herror] at hother
      cases hother
      exact hsame

theorem parsesExactly_of_ok_iff
    {fields : Fields} (hok : parse info = .ok () reached)
    (hpresent : ∀ other, present other ↔ other = fields) :
    ParsesExactly parse present wellFormed stored info ↔
      wellFormed fields ∧ stored fields reached := by
  constructor
  · intro hexact
    obtain ⟨other, hother, hwell⟩ := hexact.succeeds_iff.mp ⟨reached, hok⟩
    rw [(hpresent other).mp hother] at hwell
    exact ⟨hwell, hexact.stores reached hok fields ((hpresent _).mpr rfl)⟩
  · rintro ⟨hwell, hstored⟩
    constructor
    · exact iff_of_true ⟨reached, hok⟩
        ⟨fields, (hpresent _).mpr rfl, hwell⟩
    · intro other hother field hfield
      rw [hok] at hother
      cases hother
      rw [(hpresent field).mp hfield]
      exact hstored
    · intro other hnull
      rw [hok] at hnull
      cases hnull
    · intro abort other herror
      rw [hok] at herror
      cases herror

end

/-- A number that a port can take. -/
def IsPortNumber (value : ℚ) : Prop :=
  ∃ port : ℕ, port ≤ 65535 ∧ value = port

theorem uint16_of_isPortNumber
    {value : ℚ} (hport : IsPortNumber value) :
    (uint16 (BscJson.number value).valueint : ℚ) = value := by
  obtain ⟨port, hle, rfl⟩ := hport
  have hint : (BscJson.number (port : ℚ)).valueint = (port : ℤ) := by
    have hmin : BscJson.intMin ≤ (port : ℤ) := by
      simp only [BscJson.intMin]
      omega
    have hmax : (port : ℤ) ≤ BscJson.intMax := by
      simp only [BscJson.intMax]
      omega
    exact_mod_cast BscJson.saturate_intCast hmin hmax
  have hnat : uint16 (BscJson.number (port : ℚ)).valueint = port := by
    rw [hint, uint16]
    omega
  rw [hnat]

/-! ## The DAS server -/

structure DasFields where
  address : CString
  domain : CString
  serverid : CString
  port : ℚ
  udpPort : ℚ

/-- The document has all the fields of a DAS server in their types. -/
structure DasFieldsOf (parsed : Option BscJson) (fields : DasFields)
    (info : BscJson) : Prop where
  dasType : (parsed.bind (BscJson.getObjectItem "Type".toList)).bind
    BscJson.valuestring = some "DAS".toList
  dasInfo : parsed.bind (BscJson.getObjectItem "DasInfo".toList) = some info
  address : textOf (info.getObjectItem "Address".toList) =
    some fields.address
  domain : textOf (info.getObjectItem "Domain".toList) = some fields.domain
  serverid : textOf (info.getObjectItem "ServerID".toList) =
    some fields.serverid
  port : info.getObjectItem "Port".toList = some (.number fields.port)
  udpPort : info.getObjectItem "UdpPort".toList =
    some (.number fields.udpPort)

/-- Every text is shorter than its buffer, and every port is one. -/
structure DasFields.WellFormed (fields : DasFields) : Prop where
  address : CString.strlen fields.address < ezdevSdkIpMaxLen
  domain : CString.strlen fields.domain < ezdevSdkIpMaxLen
  serverid : CString.strlen fields.serverid < ezdevSdkNameLen
  port : IsPortNumber fields.port
  udpPort : IsPortNumber fields.udpPort

def DasFields.StoredIn (fields : DasFields) (info : DasInfo) : Prop :=
  (info.dasPort : ℚ) = fields.port ∧ (info.dasUdpPort : ℚ) = fields.udpPort

/-- The texts, and the items of the ports, that the parser goes on with. -/
structure DasItems where
  address : CString
  domain : CString
  serverid : CString
  port : Option BscJson
  udpPort : Option BscJson

def DasFields.items (fields : DasFields) : DasItems where
  address := fields.address
  domain := fields.domain
  serverid := fields.serverid
  port := some (.number fields.port)
  udpPort := some (.number fields.udpPort)

/-- The part of the parser before it writes. -/
def dasItems (parsed : Option BscJson) : EStateM Abort DasInfo DasItems := do
  let jsonItem ← required (.code .jsonParseError) parsed
  let dasJsonItem ← required (.code .jsonParseError)
    (jsonItem.getObjectItem "Type".toList)
  let dasType ← required (.code .jsonParseError) dasJsonItem.valuestring
  reject (dasType ≠ "DAS".toList) (.code .getErrorJson)
  let dasinfoJsonItem ← required (.code .getErrorJson)
    (jsonItem.getObjectItem "DasInfo".toList)
  let addressJsonItem := dasinfoJsonItem.getObjectItem "Address".toList
  let portJsonItem := dasinfoJsonItem.getObjectItem "Port".toList
  let udpportJsonItem := dasinfoJsonItem.getObjectItem "UdpPort".toList
  let domainJsonItem := dasinfoJsonItem.getObjectItem "Domain".toList
  let serveridJsonItem := dasinfoJsonItem.getObjectItem "ServerID".toList
  reject (serveridJsonItem = none ∨ portJsonItem = none ∨
    domainJsonItem = none ∨ serveridJsonItem = none ∨
    udpportJsonItem = none) (.code .getErrorJson)
  reject (¬ isPort portJsonItem ∨ ¬ isPort udpportJsonItem)
    (.code .getErrorJson)
  let serverid ← required (.code .getErrorJson) (textOf serveridJsonItem)
  let domain ← required (.code .getErrorJson) (textOf domainJsonItem)
  let addressItem ← required .nullDereference addressJsonItem
  let address ← required (.code .getErrorJson) addressItem.valuestring
  pure ⟨address, domain, serverid, portJsonItem, udpportJsonItem⟩

/-- The part that writes. -/
def storeDasInfo (items : DasItems) : EStateM Abort DasInfo Unit := do
  reject (ezdevSdkIpMaxLen ≤ CString.strlen items.address)
    (.code .platformAppointError)
  modify fun info =>
    { info with dasAddress := overwriteText info.dasAddress items.address }
  reject (ezdevSdkIpMaxLen ≤ CString.strlen items.domain)
    (.code .platformAppointError)
  modify fun info =>
    { info with dasDomain := overwriteText info.dasDomain items.domain }
  reject (ezdevSdkNameLen ≤ CString.strlen items.serverid)
    (.code .platformAppointError)
  modify fun info =>
    { info with
      dasServerid := overwriteText info.dasServerid items.serverid }
  modify fun info =>
    { info with
      dasPort := uint16 (items.port.elim 0 BscJson.valueint)
      dasUdpPort := uint16 (items.udpPort.elim 0 BscJson.valueint) }

theorem jsonParseDasServerInfo_eq (parsed : Option BscJson) :
    jsonParseDasServerInfo parsed = dasItems parsed >>= storeDasInfo := by
  simp only [jsonParseDasServerInfo, dasItems, storeDasInfo, bind_assoc,
    pure_bind]

theorem isPort_iff {item : Option BscJson} :
    isPort item = true ↔ ∃ port, item = some (.number port) := by
  cases item with
  | none => simp [isPort]
  | some json => cases json <;> simp [isPort, isNumber]

theorem dasItems_ok_iff
    {parsed : Option BscJson} {info reached : DasInfo} {items : DasItems} :
    dasItems parsed info = .ok items reached ↔
      (∃ fields json, DasFieldsOf parsed fields json ∧
        fields.items = items) ∧ info = reached := by
  simp only [dasItems, bind_ok_iff, required_ok_iff, reject_ok_iff,
    pure_ok_iff]
  constructor
  · rintro ⟨document, _, ⟨rfl, rfl⟩, typeItem, _, ⟨htype, rfl⟩,
      dasType, _, ⟨hvalue, rfl⟩, _, _, ⟨hdas, rfl⟩, json, _,
      ⟨hinfo, rfl⟩, _, _, ⟨_, rfl⟩, _, _, ⟨hports, rfl⟩, serverid, _,
      ⟨hserverid, rfl⟩, domain, _, ⟨hdomain, rfl⟩, addressItem, _,
      ⟨haddressItem, rfl⟩, address, _, ⟨haddress, rfl⟩, rfl, rfl⟩
    rw [not_or, not_not, not_not, isPort_iff, isPort_iff] at hports
    obtain ⟨⟨port, hport⟩, ⟨udpPort, hudpPort⟩⟩ := hports
    refine ⟨⟨⟨address, domain, serverid, port, udpPort⟩, json, ?_, ?_⟩, rfl⟩
    · exact {
        dasType := by
          rw [Option.bind_some, htype, Option.bind_some, hvalue,
            not_not.mp hdas]
        dasInfo := hinfo
        address := by rw [haddressItem, textOf, Option.bind_some, haddress]
        domain := hdomain
        serverid := hserverid
        port := hport
        udpPort := hudpPort }
    · rw [hport, hudpPort]
      rfl
  · rintro ⟨⟨fields, json, hfields, rfl⟩, rfl⟩
    obtain ⟨typeItem, htype, hvalue⟩ :=
      Option.bind_eq_some_iff.mp hfields.dasType
    obtain ⟨document, rfl, hdocument⟩ := Option.bind_eq_some_iff.mp htype
    obtain ⟨addressItem, haddressItem, haddress⟩ :=
      Option.bind_eq_some_iff.mp hfields.address
    refine ⟨document, info, ⟨rfl, rfl⟩, typeItem, info, ⟨hdocument, rfl⟩,
      _, info, ⟨hvalue, rfl⟩, (), info, ⟨not_not.mpr rfl, rfl⟩, json, info,
      ⟨hfields.dasInfo, rfl⟩, (), info, ⟨?_, rfl⟩, (), info, ⟨?_, rfl⟩,
      _, info, ⟨hfields.serverid, rfl⟩, _, info, ⟨hfields.domain, rfl⟩,
      addressItem, info, ⟨haddressItem, rfl⟩, _, info, ⟨haddress, rfl⟩,
      ?_, rfl⟩
    · rintro (habsent | habsent | habsent | habsent | habsent)
      · exact ne_none_of_textOf hfields.serverid habsent
      · rw [hfields.port] at habsent
        cases habsent
      · exact ne_none_of_textOf hfields.domain habsent
      · exact ne_none_of_textOf hfields.serverid habsent
      · rw [hfields.udpPort] at habsent
        cases habsent
    · rw [hfields.port, hfields.udpPort]
      simp [isPort, isNumber]
    · rw [hfields.port, hfields.udpPort]
      rfl

/-- Nothing is written before the last field has been found. -/
theorem keeps_dasItems (parsed : Option BscJson) :
    Keeps id (fun _ => True) (dasItems parsed) := by
  unfold dasItems
  repeat'
    first
      | exact keeps_required trivial _
      | exact keeps_reject fun _ => trivial
      | exact keeps_pure _
      | refine keeps_bind ?_ fun _ => ?_

theorem DasFields.items_injective {fields other : DasFields}
    (hitems : fields.items = other.items) : fields = other := by
  cases fields
  cases other
  simp only [DasFields.items, DasItems.mk.injEq, Option.some.injEq,
    BscJson.number.injEq] at hitems
  simp only [DasFields.mk.injEq]
  exact hitems

theorem dasFieldsOf_unique
    {parsed : Option BscJson} {fields other : DasFields}
    {json otherJson : BscJson} (hfields : DasFieldsOf parsed fields json)
    (hother : DasFieldsOf parsed other otherJson) : other = fields := by
  have hrun := (@dasItems_ok_iff parsed DasInfo.zero _ _).mpr
    ⟨⟨fields, json, hfields, rfl⟩, rfl⟩
  rw [(@dasItems_ok_iff parsed DasInfo.zero _ _).mpr
    ⟨⟨other, otherJson, hother, rfl⟩, rfl⟩] at hrun
  cases hitems : other.items
  rw [EStateM.Result.ok.injEq] at hrun
  exact DasFields.items_injective hrun.1

/-- What the texts of a document that is rejected for one of them must be
for the structure to keep its contents, and the ports of an accepted one. -/
def DasFields.Harmless (fields : DasFields) (info : DasInfo) : Prop :=
  if ezdevSdkIpMaxLen ≤ CString.strlen fields.address then True
  else if ezdevSdkIpMaxLen ≤ CString.strlen fields.domain then
    overwriteText info.dasAddress fields.address = info.dasAddress
  else if ezdevSdkNameLen ≤ CString.strlen fields.serverid then
    overwriteText info.dasAddress fields.address = info.dasAddress ∧
      overwriteText info.dasDomain fields.domain = info.dasDomain
  else IsPortNumber fields.port ∧ IsPortNumber fields.udpPort

/-- The specification of the parser, for one document and structure. -/
def DasParsesExactly (parsed : Option BscJson) (info : DasInfo) : Prop :=
  ParsesExactly (jsonParseDasServerInfo parsed)
    (fun fields => ∃ json, DasFieldsOf parsed fields json)
    DasFields.WellFormed DasFields.StoredIn info

theorem dasParsesExactly_of_fields_iff
    {parsed : Option BscJson} {fields : DasFields} {json : BscJson}
    (hfields : DasFieldsOf parsed fields json) (info : DasInfo) :
    DasParsesExactly parsed info ↔ fields.Harmless info := by
  have hpresent : ∀ other, (∃ json, DasFieldsOf parsed other json) ↔
      other = fields := by
    intro other
    constructor
    · rintro ⟨otherJson, hother⟩
      exact dasFieldsOf_unique hfields hother
    · rintro rfl
      exact ⟨json, hfields⟩
  have hrun : jsonParseDasServerInfo parsed info =
      storeDasInfo fields.items info := by
    have hitems := (@dasItems_ok_iff parsed info _ _).mpr
      ⟨⟨fields, json, hfields, rfl⟩, rfl⟩
    rw [jsonParseDasServerInfo_eq, bind_of_ok hitems]
  have hnone (hlong : ¬ fields.WellFormed) :
      ∀ other, (∃ json, DasFieldsOf parsed other json) →
        ¬ other.WellFormed := by
    intro other hother
    rw [(hpresent other).mp hother]
    exact hlong
  unfold DasParsesExactly DasFields.Harmless
  by_cases haddress : ezdevSdkIpMaxLen ≤ CString.strlen fields.address
  · have hlong : ¬ fields.WellFormed := fun hwell =>
      absurd hwell.address (Nat.not_lt_of_le haddress)
    have herror := hrun.trans (reject_bind_of_failed haddress)
    rw [if_pos haddress, parsesExactly_of_code_iff herror (hnone hlong)]
    exact iff_of_true rfl trivial
  rw [if_neg haddress]
  have hafterAddress := hrun.trans (reject_bind_of_passed haddress)
  by_cases hdomain : ezdevSdkIpMaxLen ≤ CString.strlen fields.domain
  · have hlong : ¬ fields.WellFormed := fun hwell =>
      absurd hwell.domain (Nat.not_lt_of_le hdomain)
    have herror := hafterAddress.trans (reject_bind_of_failed hdomain)
    rw [if_pos hdomain, parsesExactly_of_code_iff herror (hnone hlong)]
    cases info
    simp [DasFields.items]
  rw [if_neg hdomain]
  have hafterDomain := hafterAddress.trans (reject_bind_of_passed hdomain)
  by_cases hserverid : ezdevSdkNameLen ≤ CString.strlen fields.serverid
  · have hlong : ¬ fields.WellFormed := fun hwell =>
      absurd hwell.serverid (Nat.not_lt_of_le hserverid)
    have herror := hafterDomain.trans (reject_bind_of_failed hserverid)
    rw [if_pos hserverid, parsesExactly_of_code_iff herror (hnone hlong)]
    cases info
    simp [DasFields.items]
  rw [if_neg hserverid]
  have hok := hafterDomain.trans (reject_bind_of_passed hserverid)
  rw [parsesExactly_of_ok_iff hok hpresent]
  constructor
  · rintro ⟨hwell, -⟩
    exact ⟨hwell.port, hwell.udpPort⟩
  · rintro ⟨hport, hudpPort⟩
    refine ⟨⟨Nat.lt_of_not_le haddress, Nat.lt_of_not_le hdomain,
      Nat.lt_of_not_le hserverid, hport, hudpPort⟩, ?_⟩
    exact ⟨uint16_of_isPortNumber hport, uint16_of_isPortNumber hudpPort⟩

theorem dasParsesExactly_of_none_iff
    {parsed : Option BscJson} (info : DasInfo)
    (hnone : ∀ fields json, ¬ DasFieldsOf parsed fields json) :
    DasParsesExactly parsed info ↔
      ¬ ∃ document json, parsed = some document ∧
        Addressless document json := by
  have hnull := fun reached =>
    @jsonParseDasServerInfo_eq_nullDereference_iff parsed info reached
  cases hitems : dasItems parsed info with
  | ok items reached =>
      obtain ⟨⟨fields, json, hfields, -⟩, -⟩ := dasItems_ok_iff.mp hitems
      exact (hnone fields json hfields).elim
  | error abort reached =>
      have hsame := ((keeps_dasItems parsed).of_error hitems).1
      have hrun : jsonParseDasServerInfo parsed info =
          .error abort reached := by
        rw [jsonParseDasServerInfo_eq, bind_of_error hitems]
      cases abort with
      | nullDereference =>
          apply iff_of_false (not_parsesExactly_of_null hrun)
          exact not_not.mpr ((hnull reached).mp hrun).2
      | code error =>
          unfold DasParsesExactly
          rw [parsesExactly_of_code_iff hrun]
          · apply iff_of_true hsame
            intro haddressless
            rw [(hnull info).mpr ⟨rfl, haddressless⟩] at hrun
            cases hrun
          · rintro fields ⟨json, hfields⟩
            exact (hnone fields json hfields).elim

/-- The parser of the DAS server meets its specification on the documents
that have the address or lack something else, where the texts are harmless
and the ports are ports. -/
theorem dasParsesExactly_iff (parsed : Option BscJson) (info : DasInfo) :
    DasParsesExactly parsed info ↔
      (¬ ∃ document json, parsed = some document ∧
        Addressless document json) ∧
        ∀ fields json, DasFieldsOf parsed fields json →
          fields.Harmless info := by
  by_cases hpresent : ∃ fields json, DasFieldsOf parsed fields json
  · obtain ⟨fields, json, hfields⟩ := hpresent
    have haddress : ¬ ∃ document json, parsed = some document ∧
        Addressless document json := by
      rintro ⟨document, other, rfl, haddressless⟩
      have hsame := haddressless.dasInfo.symm.trans hfields.dasInfo
      have haddress := hfields.address
      rw [← Option.some.inj hsame, haddressless.address] at haddress
      cases haddress
    rw [dasParsesExactly_of_fields_iff hfields, and_iff_right haddress]
    constructor
    · intro hharmless other otherJson hother
      rw [dasFieldsOf_unique hfields hother]
      exact hharmless
    · intro hall
      exact hall fields json hfields
  · have hnone : ∀ fields json, ¬ DasFieldsOf parsed fields json :=
      fun fields json hfields => hpresent ⟨fields, json, hfields⟩
    rw [dasParsesExactly_of_none_iff info hnone]
    apply (and_iff_left _).symm
    intro fields json hfields
    exact (hnone fields json hfields).elim

/-! ## The STUN servers -/

structure StunInfo where
  stunInterval : ℕ
  stun1Port : ℕ
  stun2Port : ℕ
  stun1Address : CString
  stun1Domain : CString
  stun2Address : CString
  stun2Domain : CString
  deriving DecidableEq, Repr

def jsonParseStunServerInfo (parsed : Option BscJson) :
    EStateM Abort StunInfo Unit := do
  let jsonItem ← required (.code .jsonParseError) parsed
  let stunJsonItem ← required (.code .jsonParseError)
    (jsonItem.getObjectItem "Type".toList)
  let stunType ← required (.code .jsonParseError) stunJsonItem.valuestring
  reject (stunType ≠ "STUN".toList) (.code .getErrorJson)
  let intervalJsonItem ← required (.code .getErrorJson)
    (jsonItem.getObjectItem "Interval".toList)
  reject (¬ isNumber intervalJsonItem) (.code .getErrorJson)
  modify fun info =>
    { info with stunInterval := uint16 intervalJsonItem.valueint }
  let stuninfoJsonItem ← required (.code .getErrorJson)
    (jsonItem.getObjectItem "StunInfo".toList)
  reject (stuninfoJsonItem.getArraySize ≠ 2) (.code .getErrorJson)
  let stun1JsonItem := (stuninfoJsonItem.getArrayItem 0).map Prod.snd
  let stun2JsonItem := (stuninfoJsonItem.getArrayItem 1).map Prod.snd
  -- the second server is looked at twice and the first not at all
  reject (stun2JsonItem = none ∨ stun2JsonItem = none) (.code .getErrorJson)
  let member (item : Option BscJson) (name : CString) :=
    item.bind (BscJson.getObjectItem name)
  let stun1Address := member stun1JsonItem "Address".toList
  let stun1Port := member stun1JsonItem "Port".toList
  let stun1Domain := member stun1JsonItem "Domain".toList
  let stun2Address := member stun2JsonItem "Address".toList
  let stun2Port := member stun2JsonItem "Port".toList
  let stun2Domain := member stun2JsonItem "Domain".toList
  reject (stun1Address = none ∨ stun1Port = none ∨ stun1Domain = none ∨
    stun2Address = none ∨ stun2Port = none ∨ stun2Domain = none)
    (.code .getErrorJson)
  reject (¬ isPort stun1Port ∨ ¬ isPort stun2Port) (.code .getErrorJson)
  let address1 ← required (.code .getErrorJson) (textOf stun1Address)
  let domain1 ← required (.code .getErrorJson) (textOf stun1Domain)
  let address2 ← required (.code .getErrorJson) (textOf stun2Address)
  let domain2 ← required (.code .getErrorJson) (textOf stun2Domain)
  reject (ezdevSdkIpMaxLen ≤ CString.strlen address1)
    (.code .platformAppointError)
  modify fun info =>
    { info with stun1Address := overwriteText info.stun1Address address1 }
  reject (ezdevSdkIpMaxLen ≤ CString.strlen domain1)
    (.code .platformAppointError)
  modify fun info =>
    { info with stun1Domain := overwriteText info.stun1Domain domain1 }
  modify fun info =>
    { info with stun1Port := uint16 (stun1Port.elim 0 BscJson.valueint) }
  reject (ezdevSdkIpMaxLen ≤ CString.strlen address2)
    (.code .platformAppointError)
  modify fun info =>
    { info with stun2Address := overwriteText info.stun2Address address2 }
  reject (ezdevSdkIpMaxLen ≤ CString.strlen domain2)
    (.code .platformAppointError)
  modify fun info =>
    { info with stun2Domain := overwriteText info.stun2Domain domain2 }
  modify fun info =>
    { info with stun2Port := uint16 (stun2Port.elim 0 BscJson.valueint) }

@[ext] structure StunServer where
  address : CString
  domain : CString
  port : ℚ

@[ext] structure StunFields where
  interval : ℚ
  first : StunServer
  second : StunServer

structure StunServerOf (json : BscJson) (server : StunServer) : Prop where
  address : textOf (json.getObjectItem "Address".toList) =
    some server.address
  domain : textOf (json.getObjectItem "Domain".toList) = some server.domain
  port : json.getObjectItem "Port".toList = some (.number server.port)

structure StunHeadOf (document : BscJson) (interval : ℚ) : Prop where
  stunType : (document.getObjectItem "Type".toList).bind
    BscJson.valuestring = some "STUN".toList
  interval : document.getObjectItem "Interval".toList =
    some (.number interval)

/-- The two servers, in a list that the code takes for one whether it is an
array or an object. -/
structure StunServersOf (document list : BscJson)
    (first second : StunServer) : Prop where
  stunInfo : document.getObjectItem "StunInfo".toList = some list
  servers : ∃ firstJson secondJson,
    list.children.map Prod.snd = [firstJson, secondJson] ∧
      StunServerOf firstJson first ∧ StunServerOf secondJson second

/-- The document has all the fields of the STUN servers in their types. -/
structure StunFieldsOf (document : BscJson) (items : List BscJson)
    (fields : StunFields) : Prop where
  head : StunHeadOf document fields.interval
  servers : StunServersOf document (.array items) fields.first fields.second

structure StunServer.WellFormed (server : StunServer) : Prop where
  address : CString.strlen server.address < ezdevSdkIpMaxLen
  domain : CString.strlen server.domain < ezdevSdkIpMaxLen
  port : IsPortNumber server.port

structure StunFields.WellFormed (fields : StunFields) : Prop where
  first : fields.first.WellFormed
  second : fields.second.WellFormed

def StunFields.StoredIn (fields : StunFields) (info : StunInfo) : Prop :=
  (info.stun1Port : ℚ) = fields.first.port ∧
    (info.stun2Port : ℚ) = fields.second.port

/-- The specification of the parser, for one document and structure. -/
def StunParsesExactly (parsed : Option BscJson) (info : StunInfo) : Prop :=
  ParsesExactly (jsonParseStunServerInfo parsed)
    (fun fields => ∃ document items, parsed = some document ∧
      StunFieldsOf document items fields)
    StunFields.WellFormed StunFields.StoredIn info

/-! The parser in its parts -/

def stunHead (parsed : Option BscJson) :
    EStateM Abort StunInfo (BscJson × BscJson) := do
  let jsonItem ← required (.code .jsonParseError) parsed
  let stunJsonItem ← required (.code .jsonParseError)
    (jsonItem.getObjectItem "Type".toList)
  let stunType ← required (.code .jsonParseError) stunJsonItem.valuestring
  reject (stunType ≠ "STUN".toList) (.code .getErrorJson)
  let intervalJsonItem ← required (.code .getErrorJson)
    (jsonItem.getObjectItem "Interval".toList)
  reject (¬ isNumber intervalJsonItem) (.code .getErrorJson)
  pure (jsonItem, intervalJsonItem)

/-- The texts, and the items of the ports, that the parser goes on with. -/
structure StunItems where
  address1 : CString
  domain1 : CString
  port1 : Option BscJson
  address2 : CString
  domain2 : CString
  port2 : Option BscJson

def stunServerItems (first second : StunServer) : StunItems where
  address1 := first.address
  domain1 := first.domain
  port1 := some (.number first.port)
  address2 := second.address
  domain2 := second.domain
  port2 := some (.number second.port)

/-- The part between the interval and the other writes. -/
def stunItems (jsonItem : BscJson) : EStateM Abort StunInfo StunItems := do
  let stuninfoJsonItem ← required (.code .getErrorJson)
    (jsonItem.getObjectItem "StunInfo".toList)
  reject (stuninfoJsonItem.getArraySize ≠ 2) (.code .getErrorJson)
  let stun1JsonItem := (stuninfoJsonItem.getArrayItem 0).map Prod.snd
  let stun2JsonItem := (stuninfoJsonItem.getArrayItem 1).map Prod.snd
  reject (stun2JsonItem = none ∨ stun2JsonItem = none) (.code .getErrorJson)
  let member (item : Option BscJson) (name : CString) :=
    item.bind (BscJson.getObjectItem name)
  let stun1Address := member stun1JsonItem "Address".toList
  let stun1Port := member stun1JsonItem "Port".toList
  let stun1Domain := member stun1JsonItem "Domain".toList
  let stun2Address := member stun2JsonItem "Address".toList
  let stun2Port := member stun2JsonItem "Port".toList
  let stun2Domain := member stun2JsonItem "Domain".toList
  reject (stun1Address = none ∨ stun1Port = none ∨ stun1Domain = none ∨
    stun2Address = none ∨ stun2Port = none ∨ stun2Domain = none)
    (.code .getErrorJson)
  reject (¬ isPort stun1Port ∨ ¬ isPort stun2Port) (.code .getErrorJson)
  let address1 ← required (.code .getErrorJson) (textOf stun1Address)
  let domain1 ← required (.code .getErrorJson) (textOf stun1Domain)
  let address2 ← required (.code .getErrorJson) (textOf stun2Address)
  let domain2 ← required (.code .getErrorJson) (textOf stun2Domain)
  pure ⟨address1, domain1, stun1Port, address2, domain2, stun2Port⟩

def storeStunInfo (items : StunItems) : EStateM Abort StunInfo Unit := do
  reject (ezdevSdkIpMaxLen ≤ CString.strlen items.address1)
    (.code .platformAppointError)
  modify fun info =>
    { info with
      stun1Address := overwriteText info.stun1Address items.address1 }
  reject (ezdevSdkIpMaxLen ≤ CString.strlen items.domain1)
    (.code .platformAppointError)
  modify fun info =>
    { info with
      stun1Domain := overwriteText info.stun1Domain items.domain1 }
  modify fun info =>
    { info with stun1Port := uint16 (items.port1.elim 0 BscJson.valueint) }
  reject (ezdevSdkIpMaxLen ≤ CString.strlen items.address2)
    (.code .platformAppointError)
  modify fun info =>
    { info with
      stun2Address := overwriteText info.stun2Address items.address2 }
  reject (ezdevSdkIpMaxLen ≤ CString.strlen items.domain2)
    (.code .platformAppointError)
  modify fun info =>
    { info with
      stun2Domain := overwriteText info.stun2Domain items.domain2 }
  modify fun info =>
    { info with stun2Port := uint16 (items.port2.elim 0 BscJson.valueint) }

theorem jsonParseStunServerInfo_eq (parsed : Option BscJson) :
    jsonParseStunServerInfo parsed = (do
      let head ← stunHead parsed
      modify fun info =>
        { info with stunInterval := uint16 head.2.valueint }
      stunItems head.1 >>= storeStunInfo) := by
  simp only [jsonParseStunServerInfo, stunHead, stunItems, storeStunInfo,
    bind_assoc, pure_bind]

theorem stunHead_ok_iff
    {parsed : Option BscJson} {info reached : StunInfo}
    {head : BscJson × BscJson} :
    stunHead parsed info = .ok head reached ↔
      (∃ document interval, parsed = some document ∧
        StunHeadOf document interval ∧
        (document, BscJson.number interval) = head) ∧ info = reached := by
  simp only [stunHead, bind_ok_iff, required_ok_iff, reject_ok_iff,
    pure_ok_iff]
  constructor
  · rintro ⟨document, _, ⟨rfl, rfl⟩, typeItem, _, ⟨htype, rfl⟩,
      stunType, _, ⟨hvalue, rfl⟩, _, _, ⟨hstun, rfl⟩, intervalItem, _,
      ⟨hinterval, rfl⟩, _, _, ⟨hnumber, rfl⟩, rfl, rfl⟩
    cases intervalItem with
    | number interval =>
        have hhead : StunHeadOf document interval := {
          stunType := by
            rw [htype, Option.bind_some, hvalue, not_not.mp hstun]
          interval := hinterval }
        exact ⟨⟨document, interval, rfl, hhead, rfl⟩, rfl⟩
    | _ => exact (hnumber (by simp [isNumber])).elim
  · rintro ⟨⟨document, interval, rfl, hhead, rfl⟩, rfl⟩
    obtain ⟨typeItem, htype, hvalue⟩ :=
      Option.bind_eq_some_iff.mp hhead.stunType
    exact ⟨document, info, ⟨rfl, rfl⟩, typeItem, info, ⟨htype, rfl⟩,
      _, info, ⟨hvalue, rfl⟩, (), info, ⟨not_not.mpr rfl, rfl⟩, _, info,
      ⟨hhead.interval, rfl⟩, (), info, ⟨not_not.mpr rfl, rfl⟩, rfl, rfl⟩

theorem servers_iff {json : BscJson} {first second : BscJson} :
    json.children.map Prod.snd = [first, second] ↔
      json.getArraySize = 2 ∧
        (json.getArrayItem 0).map Prod.snd = some first ∧
        (json.getArrayItem 1).map Prod.snd = some second := by
  unfold BscJson.getArraySize BscJson.getArrayItem
  match json.children with
  | [] => simp
  | [_] => simp
  | [_, _] => simp
  | _ :: _ :: _ :: _ => simp

theorem stunItems_ok_iff
    {document : BscJson} {info reached : StunInfo} {items : StunItems} :
    stunItems document info = .ok items reached ↔
      (∃ list first second, StunServersOf document list first second ∧
        stunServerItems first second = items) ∧ info = reached := by
  simp only [stunItems, bind_ok_iff, required_ok_iff, reject_ok_iff,
    pure_ok_iff]
  constructor
  · rintro ⟨list, _, ⟨hlist, rfl⟩, _, _, ⟨hsize, rfl⟩, _, _,
      ⟨hsecond, rfl⟩, _, _, ⟨_, rfl⟩, _, _, ⟨hports, rfl⟩, address1, _,
      ⟨haddress1, rfl⟩, domain1, _, ⟨hdomain1, rfl⟩, address2, _,
      ⟨haddress2, rfl⟩, domain2, _, ⟨hdomain2, rfl⟩, rfl, rfl⟩
    rw [not_or, not_not, not_not, isPort_iff, isPort_iff] at hports
    obtain ⟨⟨port1, hport1⟩, ⟨port2, hport2⟩⟩ := hports
    obtain ⟨firstJson, hfirst, hfirstPort⟩ :=
      Option.bind_eq_some_iff.mp hport1
    obtain ⟨secondJson, hsecond, hsecondPort⟩ :=
      Option.bind_eq_some_iff.mp hport2
    rw [hfirst] at haddress1 hdomain1
    rw [hsecond] at haddress2 hdomain2
    have hservers := servers_iff.mpr ⟨not_not.mp hsize, hfirst, hsecond⟩
    exact ⟨⟨list, ⟨address1, domain1, port1⟩, ⟨address2, domain2, port2⟩,
      ⟨hlist, firstJson, secondJson, hservers,
        ⟨haddress1, hdomain1, hfirstPort⟩,
        ⟨haddress2, hdomain2, hsecondPort⟩⟩,
      by rw [hport1, hport2, stunServerItems]⟩, rfl⟩
  · rintro ⟨⟨list, first, second, hservers, rfl⟩, rfl⟩
    obtain ⟨firstJson, secondJson, hpair, hfirst, hsecond⟩ :=
      hservers.servers
    obtain ⟨hsize, hfirstItem, hsecondItem⟩ := servers_iff.mp hpair
    refine ⟨list, info, ⟨hservers.stunInfo, rfl⟩, (), info,
      ⟨not_not.mpr hsize, rfl⟩, (), info, ?_⟩
    rw [hfirstItem, hsecondItem]
    refine ⟨⟨by simp, rfl⟩, (), info, ⟨?_, rfl⟩, (), info, ⟨?_, rfl⟩, _,
      info, ⟨hfirst.address, rfl⟩, _, info, ⟨hfirst.domain, rfl⟩, _, info,
      ⟨hsecond.address, rfl⟩, _, info, ⟨hsecond.domain, rfl⟩, ?_, rfl⟩
    · simp only [Option.bind_some, not_or, hfirst.port, hsecond.port]
      exact ⟨ne_none_of_textOf hfirst.address, Option.some_ne_none _,
        ne_none_of_textOf hfirst.domain, ne_none_of_textOf hsecond.address,
        Option.some_ne_none _, ne_none_of_textOf hsecond.domain⟩
    · rw [Option.bind_some, Option.bind_some, hfirst.port, hsecond.port,
        not_or, not_not, not_not]
      exact ⟨rfl, rfl⟩
    · rw [Option.bind_some, Option.bind_some, hfirst.port, hsecond.port,
        stunServerItems]

/-- Neither of the two parts that look for fields writes. -/
theorem keeps_stunHead (parsed : Option BscJson) :
    Keeps id (fun abort => abort ≠ .nullDereference) (stunHead parsed) := by
  unfold stunHead
  repeat'
    first
      | exact keeps_required (by simp) _
      | exact keeps_reject fun _ => by simp
      | exact keeps_pure _
      | refine keeps_bind ?_ fun _ => ?_

theorem keeps_stunItems (document : BscJson) :
    Keeps id (fun abort => abort ≠ .nullDereference)
      (stunItems document) := by
  unfold stunItems
  repeat'
    first
      | exact keeps_required (by simp) _
      | exact keeps_reject fun _ => by simp
      | exact keeps_pure _
      | refine keeps_bind ?_ fun _ => ?_

theorem StunHeadOf.unique
    {document : BscJson} {interval other : ℚ}
    (hhead : StunHeadOf document interval)
    (hother : StunHeadOf document other) : other = interval := by
  have hsame := hother.interval.symm.trans hhead.interval
  rw [Option.some.injEq, BscJson.number.injEq] at hsame
  exact hsame

theorem StunServerOf.unique
    {json : BscJson} {server other : StunServer}
    (hserver : StunServerOf json server) (hother : StunServerOf json other) :
    other = server := by
  have hport := hother.port.symm.trans hserver.port
  rw [Option.some.injEq, BscJson.number.injEq] at hport
  apply StunServer.ext
  · exact Option.some.inj (hother.address.symm.trans hserver.address)
  · exact Option.some.inj (hother.domain.symm.trans hserver.domain)
  · exact hport

theorem StunServersOf.unique
    {document list otherList : BscJson}
    {first second otherFirst otherSecond : StunServer}
    (hservers : StunServersOf document list first second)
    (hother : StunServersOf document otherList otherFirst otherSecond) :
    otherList = list ∧ otherFirst = first ∧ otherSecond = second := by
  have hlist := hother.stunInfo.symm.trans hservers.stunInfo
  rw [Option.some.injEq] at hlist
  subst hlist
  obtain ⟨firstJson, secondJson, hpair, hfirst, hsecond⟩ := hservers.servers
  obtain ⟨otherFirstJson, otherSecondJson, hotherPair, hotherFirst,
    hotherSecond⟩ := hother.servers
  rw [hpair] at hotherPair
  injection hotherPair with hfirstJson hrest
  injection hrest with hsecondJson hnil
  subst hfirstJson hsecondJson
  exact ⟨rfl, hfirst.unique hotherFirst, hsecond.unique hotherSecond⟩

/-- What the structure must hold already for a document that is rejected for
one of its texts, and what an accepted one must be. -/
def StunFields.Harmless
    (fields : StunFields) (list : BscJson) (info : StunInfo) : Prop :=
  if ezdevSdkIpMaxLen ≤ CString.strlen fields.first.address then
    uint16 (BscJson.number fields.interval).valueint = info.stunInterval
  else if ezdevSdkIpMaxLen ≤ CString.strlen fields.first.domain then
    uint16 (BscJson.number fields.interval).valueint = info.stunInterval ∧
      overwriteText info.stun1Address fields.first.address =
        info.stun1Address
  else if ezdevSdkIpMaxLen ≤ CString.strlen fields.second.address then
    uint16 (BscJson.number fields.interval).valueint = info.stunInterval ∧
      uint16 (BscJson.number fields.first.port).valueint = info.stun1Port ∧
      overwriteText info.stun1Address fields.first.address =
        info.stun1Address ∧
      overwriteText info.stun1Domain fields.first.domain = info.stun1Domain
  else if ezdevSdkIpMaxLen ≤ CString.strlen fields.second.domain then
    uint16 (BscJson.number fields.interval).valueint = info.stunInterval ∧
      uint16 (BscJson.number fields.first.port).valueint = info.stun1Port ∧
      overwriteText info.stun1Address fields.first.address =
        info.stun1Address ∧
      overwriteText info.stun1Domain fields.first.domain =
        info.stun1Domain ∧
      overwriteText info.stun2Address fields.second.address =
        info.stun2Address
  else (∃ items, list = .array items) ∧ IsPortNumber fields.first.port ∧
    IsPortNumber fields.second.port

theorem stunPresent_iff
    {document : BscJson} {items : List BscJson} {fields : StunFields}
    (hhead : StunHeadOf document fields.interval)
    (hservers : StunServersOf document (.array items) fields.first
      fields.second) (other : StunFields) :
    (∃ otherDocument otherItems, some document = some otherDocument ∧
      StunFieldsOf otherDocument otherItems other) ↔ other = fields := by
  constructor
  · rintro ⟨_, otherItems, hdocument, hother⟩
    cases hdocument
    obtain ⟨-, hfirst, hsecond⟩ := hservers.unique hother.servers
    exact StunFields.ext (hhead.unique hother.head) hfirst hsecond
  · rintro rfl
    exact ⟨document, items, rfl, hhead, hservers⟩

theorem stunParsesExactly_of_fields_iff
    {document list : BscJson} {fields : StunFields}
    (hhead : StunHeadOf document fields.interval)
    (hservers : StunServersOf document list fields.first fields.second)
    (info : StunInfo) :
    StunParsesExactly (some document) info ↔ fields.Harmless list info := by
  have hrun : jsonParseStunServerInfo (some document) info =
      storeStunInfo (stunServerItems fields.first fields.second)
        { info with
          stunInterval :=
            uint16 (BscJson.number fields.interval).valueint } := by
    have hheadRun := (@stunHead_ok_iff (some document) info _ _).mpr
      ⟨⟨document, fields.interval, rfl, hhead, rfl⟩, rfl⟩
    have hitemsRun := (@stunItems_ok_iff document
      { info with
        stunInterval :=
          uint16 (BscJson.number fields.interval).valueint } _ _).mpr
      ⟨⟨list, fields.first, fields.second, hservers, rfl⟩, rfl⟩
    rw [jsonParseStunServerInfo_eq, bind_of_ok hheadRun, modify_bind]
    exact bind_of_ok hitemsRun
  have hnone (hlong : ¬ fields.WellFormed) :
      ∀ other, (∃ otherDocument items,
        some document = some otherDocument ∧
          StunFieldsOf otherDocument items other) → ¬ other.WellFormed := by
    rintro other ⟨_, items, hdocument, hother⟩
    cases hdocument
    obtain ⟨-, hfirst, hsecond⟩ := hservers.unique hother.servers
    rintro ⟨hfirstWell, hsecondWell⟩
    rw [hfirst] at hfirstWell
    rw [hsecond] at hsecondWell
    exact hlong ⟨hfirstWell, hsecondWell⟩
  unfold StunParsesExactly StunFields.Harmless
  by_cases haddress1 :
      ezdevSdkIpMaxLen ≤ CString.strlen fields.first.address
  · have hlong : ¬ fields.WellFormed := fun hwell =>
      absurd hwell.first.address (Nat.not_lt_of_le haddress1)
    have herror := hrun.trans (reject_bind_of_failed haddress1)
    rw [if_pos haddress1, parsesExactly_of_code_iff herror (hnone hlong)]
    cases info
    simp
  rw [if_neg haddress1]
  have hafterAddress1 := hrun.trans (reject_bind_of_passed haddress1)
  by_cases hdomain1 : ezdevSdkIpMaxLen ≤ CString.strlen fields.first.domain
  · have hlong : ¬ fields.WellFormed := fun hwell =>
      absurd hwell.first.domain (Nat.not_lt_of_le hdomain1)
    have herror := hafterAddress1.trans (reject_bind_of_failed hdomain1)
    rw [if_pos hdomain1, parsesExactly_of_code_iff herror (hnone hlong)]
    cases info
    simp [stunServerItems]
  rw [if_neg hdomain1]
  have hafterDomain1 := hafterAddress1.trans (reject_bind_of_passed hdomain1)
  by_cases haddress2 :
      ezdevSdkIpMaxLen ≤ CString.strlen fields.second.address
  · have hlong : ¬ fields.WellFormed := fun hwell =>
      absurd hwell.second.address (Nat.not_lt_of_le haddress2)
    have herror := hafterDomain1.trans (reject_bind_of_failed haddress2)
    rw [if_pos haddress2, parsesExactly_of_code_iff herror (hnone hlong)]
    cases info
    simp [stunServerItems]
  rw [if_neg haddress2]
  have hafterAddress2 :=
    hafterDomain1.trans (reject_bind_of_passed haddress2)
  by_cases hdomain2 : ezdevSdkIpMaxLen ≤ CString.strlen fields.second.domain
  · have hlong : ¬ fields.WellFormed := fun hwell =>
      absurd hwell.second.domain (Nat.not_lt_of_le hdomain2)
    have herror := hafterAddress2.trans (reject_bind_of_failed hdomain2)
    rw [if_pos hdomain2, parsesExactly_of_code_iff herror (hnone hlong)]
    cases info
    simp [stunServerItems]
  rw [if_neg hdomain2]
  have hok := hafterAddress2.trans (reject_bind_of_passed hdomain2)
  by_cases harray : ∃ items, list = .array items
  · obtain ⟨items, rfl⟩ := harray
    rw [parsesExactly_of_ok_iff hok (stunPresent_iff hhead hservers)]
    constructor
    · rintro ⟨hwell, -⟩
      exact ⟨⟨items, rfl⟩, hwell.first.port, hwell.second.port⟩
    · rintro ⟨-, hport1, hport2⟩
      exact ⟨⟨⟨Nat.lt_of_not_le haddress1, Nat.lt_of_not_le hdomain1,
        hport1⟩, ⟨Nat.lt_of_not_le haddress2, Nat.lt_of_not_le hdomain2,
        hport2⟩⟩, uint16_of_isPortNumber hport1,
        uint16_of_isPortNumber hport2⟩
  · apply iff_of_false
    · apply not_parsesExactly_of_accepted hok
      rintro other ⟨_, items, hdocument, hother⟩
      cases hdocument
      exact harray ⟨items, (hservers.unique hother.servers).1.symm⟩
    · rintro ⟨hitems, -⟩
      exact harray hitems

theorem stunParsesExactly_of_no_servers_iff
    {document : BscJson} {interval : ℚ}
    (hhead : StunHeadOf document interval)
    (hnone : ∀ list first second, ¬ StunServersOf document list first second)
    (info : StunInfo) :
    StunParsesExactly (some document) info ↔
      uint16 (BscJson.number interval).valueint = info.stunInterval := by
  have hheadRun := (@stunHead_ok_iff (some document) info _ _).mpr
    ⟨⟨document, interval, rfl, hhead, rfl⟩, rfl⟩
  cases hitems : stunItems document
      { info with
        stunInterval := uint16 (BscJson.number interval).valueint } with
  | ok items reached =>
      obtain ⟨⟨list, first, second, hservers, -⟩, -⟩ :=
        stunItems_ok_iff.mp hitems
      exact (hnone list first second hservers).elim
  | error abort reached =>
      obtain ⟨hsame, hcode⟩ := (keeps_stunItems document).of_error hitems
      have hrun : jsonParseStunServerInfo (some document) info =
          .error abort reached := by
        rw [jsonParseStunServerInfo_eq, bind_of_ok hheadRun, modify_bind]
        exact bind_of_error hitems
      cases abort with
      | nullDereference => exact (hcode rfl).elim
      | code error =>
          unfold StunParsesExactly
          rw [parsesExactly_of_code_iff hrun]
          · change reached = _ at hsame
            rw [hsame]
            cases info
            simp
          · rintro fields ⟨_, items, hdocument, hfields⟩
            cases hdocument
            exact (hnone _ _ _ hfields.servers).elim

theorem stunParsesExactly_of_no_head
    {parsed : Option BscJson}
    (hnone : ∀ document interval, parsed = some document →
      ¬ StunHeadOf document interval) (info : StunInfo) :
    StunParsesExactly parsed info := by
  cases hhead : stunHead parsed info with
  | ok head reached =>
      obtain ⟨⟨document, interval, hparsed, hfound, -⟩, -⟩ :=
        stunHead_ok_iff.mp hhead
      exact (hnone document interval hparsed hfound).elim
  | error abort reached =>
      obtain ⟨hsame, hcode⟩ := (keeps_stunHead parsed).of_error hhead
      have hrun : jsonParseStunServerInfo parsed info =
          .error abort reached := by
        rw [jsonParseStunServerInfo_eq, bind_of_error hhead]
      cases abort with
      | nullDereference => exact (hcode rfl).elim
      | code error =>
          apply (parsesExactly_of_code_iff hrun _).mpr hsame
          rintro fields ⟨document, items, hparsed, hfields⟩
          exact (hnone document _ hparsed hfields.head).elim

/-- The parser of the STUN servers meets its specification on the documents
that end before the interval is written, or after it without a change, or
that list the servers in an array with ports that are ports. -/
theorem stunParsesExactly_iff (parsed : Option BscJson) (info : StunInfo) :
    StunParsesExactly parsed info ↔
      ∀ document interval, parsed = some document →
        StunHeadOf document interval →
        ((∀ list first second,
            ¬ StunServersOf document list first second) →
          uint16 (BscJson.number interval).valueint = info.stunInterval) ∧
        ∀ list first second, StunServersOf document list first second →
          StunFields.Harmless ⟨interval, first, second⟩ list info := by
  by_cases hhead : ∃ document interval, parsed = some document ∧
      StunHeadOf document interval
  · obtain ⟨document, interval, rfl, hhead⟩ := hhead
    by_cases hservers : ∃ list first second,
        StunServersOf document list first second
    · obtain ⟨list, first, second, hservers⟩ := hservers
      rw [@stunParsesExactly_of_fields_iff document list
        ⟨interval, first, second⟩ hhead hservers info]
      constructor
      · intro hharmless other otherInterval hother hotherHead
        cases hother
        constructor
        · intro hnone
          exact (hnone list first second hservers).elim
        · intro otherList otherFirst otherSecond hotherServers
          obtain ⟨rfl, rfl, rfl⟩ := hservers.unique hotherServers
          rw [hhead.unique hotherHead]
          exact hharmless
      · intro hall
        exact (hall document interval rfl hhead).2 list first second hservers
    · have hnone : ∀ list first second,
          ¬ StunServersOf document list first second :=
        fun list first second hfound =>
          hservers ⟨list, first, second, hfound⟩
      rw [stunParsesExactly_of_no_servers_iff hhead hnone]
      constructor
      · intro hsame other otherInterval hother hotherHead
        cases hother
        constructor
        · intro _
          rw [hhead.unique hotherHead]
          exact hsame
        · intro list first second hfound
          exact (hnone list first second hfound).elim
      · intro hall
        exact (hall document interval rfl hhead).1 hnone
  · have hnone : ∀ document interval, parsed = some document →
        ¬ StunHeadOf document interval :=
      fun document interval hparsed hfound =>
        hhead ⟨document, interval, hparsed, hfound⟩
    apply iff_of_true (stunParsesExactly_of_no_head hnone info)
    intro document interval hparsed hfound
    exact (hnone document interval hparsed hfound).elim

/-! ## Both parsers -/

/-- Where the two parsers do what they are for. -/
theorem serverInfoParsers_exact_iff (parsed : Option BscJson)
    (das : DasInfo) (stun : StunInfo) :
    (DasParsesExactly parsed das ↔
      (¬ ∃ document json, parsed = some document ∧
        Addressless document json) ∧
        ∀ fields json, DasFieldsOf parsed fields json →
          fields.Harmless das) ∧
    (StunParsesExactly parsed stun ↔
      ∀ document interval, parsed = some document →
        StunHeadOf document interval →
        ((∀ list first second,
            ¬ StunServersOf document list first second) →
          uint16 (BscJson.number interval).valueint =
            stun.stunInterval) ∧
        ∀ list first second, StunServersOf document list first second →
          StunFields.Harmless ⟨interval, first, second⟩ list stun) :=
  ⟨dasParsesExactly_iff parsed das, stunParsesExactly_iff parsed stun⟩

def addresslessDas : BscJson :=
  .object [("Type".toList, .string "DAS".toList),
    ("DasInfo".toList, .object [("Port".toList, .number 8666),
      ("UdpPort".toList, .number 8666),
      ("Domain".toList, .string "das.example".toList),
      ("ServerID".toList, .string "das1".toList)])]

def farPortDas : BscJson :=
  .object [("Type".toList, .string "DAS".toList),
    ("DasInfo".toList, .object [("Address".toList, .string "1.2.3.4".toList),
      ("Port".toList, .number 65616), ("UdpPort".toList, .number 8666),
      ("Domain".toList, .string "das.example".toList),
      ("ServerID".toList, .string "das1".toList)])]

def serverlessStun : BscJson :=
  .object [("Type".toList, .string "STUN".toList),
    ("Interval".toList, .number 30)]

/-- A document without an address is read through NULL, a port of 65616 is
stored as 80, and a document without servers leaves its interval. -/
theorem serverInfo_unchecked :
    (∃ reached, jsonParseDasServerInfo (some addresslessDas) DasInfo.zero =
        .error .nullDereference reached) ∧
      (∃ reached, jsonParseDasServerInfo (some farPortDas) DasInfo.zero =
        .ok () reached ∧ reached.dasPort = 80) ∧
      (∃ reached, jsonParseStunServerInfo (some serverlessStun)
          ⟨0, 0, 0, [], [], [], []⟩ = .error (.code .getErrorJson) reached ∧
        reached.stunInterval = 30) ∧
      ¬ (∀ parsed info, DasParsesExactly parsed info) ∧
      ¬ ∀ parsed info, StunParsesExactly parsed info := by
  have hdas : jsonParseDasServerInfo (some addresslessDas) DasInfo.zero =
      .error .nullDereference DasInfo.zero := rfl
  have hstun : jsonParseStunServerInfo (some serverlessStun)
      ⟨0, 0, 0, [], [], [], []⟩ =
      .error (.code .getErrorJson) ⟨30, 0, 0, [], [], [], []⟩ := rfl
  refine ⟨⟨_, hdas⟩, ⟨_, rfl, ?_⟩, ⟨_, hstun, rfl⟩, ?_, ?_⟩
  · decide +kernel
  · intro hall
    exact (hall _ _).neverNull _ hdas
  · intro hall
    have hsame := (hall _ _).unchanged _ _ hstun
    cases hsame

end EziotSdk

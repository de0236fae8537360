import EziotSdk.ProfileParse
import EziotSdk.SchemaFaithful
import EziotSdk.ScanLoops

/-!
# What a profile declares and what its capacity holds

The capacity mirrors the document when every part of it holds what the
corresponding part of the document declares, and nothing else is there.  For a
document that is accepted this comes down to a condition on each part: names
that fit their fields, schemas that fit their descriptors, members that are
absent or of their kind, local indices that come out where they are read, types
of an event that are all the one that is copied.
-/

namespace EziotSdk

/-! ## The document -/

def VersionMirrors (js : BscJson) (version : CString) : Prop :=
  declared js tslKeyVersion (.string []) = .string version

/-- The schema of an `input` or `output`; a document without that member
declares none. -/
def BodyMirrors (js : BscJson) (key : CString) (desc : TslSchemaDesc) : Prop :=
  match js.getObjectItem key with
  | some body =>
      ∃ own, memberObject body tslKeySchema = some own ∧
        SchemaMirrors own desc
  | none => desc = .zero

/-- Each letter of an access mode has a bit of its own. -/
structure AccessMirrors (text : CString) (access : ℕ) : Prop where
  readable : access.testBit 0 ↔ 'r' ∈ text
  writable : access.testBit 1 ↔ 'w' ∈ text
  nothingElse : access < 4

def ListMirrors {α : Type} (Mirrors : BscJson → α → Prop)
    (js : BscJson) (key : CString) (held : List α) : Prop :=
  ∃ items, declared js key (.array []) = .array items ∧
    List.Forall₂ Mirrors items held

structure PropMirrors (js : BscJson) (prop : TslDomainProp) : Prop where
  identifier : memberString js tslKeyIdentifier = some prop.identifier
  access : ∃ text, memberString js tslKeyAccess = some text ∧
    AccessMirrors text prop.access
  version : VersionMirrors js prop.version
  schema : ∃ own, memberObject js tslKeySchema = some own ∧
    SchemaMirrors own prop.propDesc

structure ActionMirrors (js : BscJson) (action : TslDomainAction) :
    Prop where
  identifier : memberString js tslKeyIdentifier = some action.identifier
  version : VersionMirrors js action.version
  direction : memberString js tslKeyDirection = some action.direction
  input : BodyMirrors js tslKeyInput action.inputSchema
  output : BodyMirrors js tslKeyOutput action.outputSchema

structure EventMirrors (js : BscJson) (event : TslDomainEvent) : Prop where
  identifier : memberString js tslKeyIdentifier = some event.identifier
  version : VersionMirrors js event.version
  eventType :
    memberArray js tslKeyEventtype = some (event.eventType.map .string)
  input : BodyMirrors js tslKeyInput event.inputSchema
  output : BodyMirrors js tslKeyOutput event.outputSchema

structure DomainMirrors (js : BscJson) (domain : TslRscDomain) : Prop where
  identifier : memberString js tslKeyIdentifier = some domain.identifier
  prop : ListMirrors PropMirrors js tslKeyProps domain.prop
  action : ListMirrors ActionMirrors js tslKeyActions domain.action
  event : ListMirrors EventMirrors js tslKeyEvents domain.event

structure ResourceMirrors (js : BscJson) (resource : TslProfileResource) :
    Prop where
  category : memberString js tslKeyRscCategory = some resource.rscCategory
  localIndex : ∃ names : List CString,
    memberArray js tslKeyLocalIndex = some (names.map .string) ∧
      resource.indexNum = names.length ∧
      ∀ position (hlt : position < names.length),
        resource.localIndex position = names[position]
  domain : List.Forall₂ DomainMirrors ((memberArray js tslKeyDomains).getD [])
    resource.domain

def ProfileMirrors (js : BscJson) (capacity : TslCapacity) : Prop :=
  List.Forall₂ ResourceMirrors ((memberArray js tslKeyResources).getD [])
    capacity.resource

/-! ## The condition on each part -/

def Fits (js : BscJson) (key : CString) (bound : ℕ) : Prop :=
  ∀ text, memberString js key = some text → text.length ≤ bound

def OwnSchemaFits (js : BscJson) : Prop :=
  ∃ own, memberObject js tslKeySchema = some own ∧ SchemaFits own

def BodyCondition (js : BscJson) (key : CString) : Prop :=
  ∀ body, js.getObjectItem key = some body → OwnSchemaFits body

structure PropCondition (js : BscJson) : Prop where
  identifier : Fits js tslKeyIdentifier maxNameLength
  version : TextCellFits js tslKeyVersion maxVersionLength
  schema : OwnSchemaFits js

structure ActionCondition (js : BscJson) : Prop where
  identifier : Fits js tslKeyIdentifier maxNameLength
  version : TextCellFits js tslKeyVersion maxVersionLength
  direction : Fits js tslKeyDirection maxDirectionLength
  input : BodyCondition js tslKeyInput
  output : BodyCondition js tslKeyOutput

/-- The type that is copied for every type of event number `index`: the one at
the position of the event, if there is one. -/
def copiedType (index : ℕ) (types : List CString) : CString :=
  CString.strncpy (types[index]?.getD []) maxNameLength

structure EventCondition (index : ℕ) (js : BscJson) : Prop where
  identifier : Fits js tslKeyIdentifier maxNameLength
  version : TextCellFits js tslKeyVersion maxVersionLength
  eventType : ∃ types : List CString,
    memberArray js tslKeyEventtype = some (types.map .string) ∧
      ∀ name ∈ types, name = copiedType index types
  input : BodyCondition js tslKeyInput
  output : BodyCondition js tslKeyOutput

/-- A list is absent, or an array. -/
structure DomainCondition (js : BscJson) : Prop where
  isObject : ∃ members, js = .object members
  identifier : Fits js tslKeyIdentifier maxNameLength
  prop : ∃ items, declared js tslKeyProps (.array []) = .array items ∧
    ∀ item ∈ items, PropCondition item
  action : ∃ items, declared js tslKeyActions (.array []) = .array items ∧
    ∀ item ∈ items, ActionCondition item
  event : ∃ items, declared js tslKeyEvents (.array []) = .array items ∧
    ∀ item ∈ items.zipIdx, EventCondition item.2 item.1

/-- What is read at a position after every local index of resource `number` has
been copied to byte `number` of the block: the rest of the last one, as far as
it was copied, from the byte where the position starts. -/
def storedIndex (number : ℕ) (names : List CString) (position : ℕ) : CString :=
  if number ≤ maxLocalIndexLength * position then
    (CString.strncpy (names.getLast?.getD []) (maxLocalIndexLength - 1)).drop
      (maxLocalIndexLength * position - number)
  else []

structure ResourceCondition (number : ℕ) (js : BscJson) : Prop where
  category : Fits js tslKeyRscCategory maxNameLength
  localIndex : ∃ names : List CString,
    memberArray js tslKeyLocalIndex = some (names.map .string) ∧
      ∀ position (hlt : position < names.length),
        names[position] = storedIndex number names position
  domain : ∀ item ∈ (memberArray js tslKeyDomains).getD [],
    DomainCondition item

def ProfileCondition (js : BscJson) : Prop :=
  ∀ item ∈ ((memberArray js tslKeyResources).getD []).zipIdx,
    ResourceCondition item.2 item.1

/-! ## Steps of the parser -/

theorem bind_eq_ok_iff
    {α β : Type} (first : Except ParseStop α) (next : α → Except ParseStop β)
    (result : β) :
    (first >>= next) = .ok result ↔
      ∃ value, first = .ok value ∧ next value = .ok result := by
  cases first with
  | error failure =>
      constructor
      · intro heq
        cases heq
      · rintro ⟨value, hvalue, -⟩
        cases hvalue
  | ok value =>
      constructor
      · exact fun heq => ⟨value, rfl, heq⟩
      · rintro ⟨other, hother, hnext⟩
        cases hother
        exact hnext

theorem bind_eq_error_iff
    {α β : Type} (first : Except ParseStop α) (next : α → Except ParseStop β)
    (failure : ParseStop) :
    (first >>= next) = .error failure ↔
      first = .error failure ∨
        ∃ value, first = .ok value ∧ next value = .error failure := by
  cases first with
  | error cause =>
      constructor
      · intro heq
        exact .inl (by rw [Except.error.inj heq])
      · rintro (heq | ⟨value, hvalue, -⟩)
        · rw [Except.error.inj heq]
          rfl
        · cases hvalue
  | ok value =>
      constructor
      · exact fun heq => .inr ⟨value, rfl, heq⟩
      · rintro (heq | ⟨other, hother, hnext⟩)
        · cases heq
        · cases hother
          exact hnext

theorem required_eq_ok_iff
    {α : Type} (found : Option α) (missing : TslErrno) (value : α) :
    required found missing = .ok value ↔ found = some value := by
  cases found <;> simp [required]

theorem requireItems_eq_ok_iff
    (js : BscJson) (key : CString) (items : List BscJson) :
    requireItems js key = .ok items ↔
      memberArray js key = some items ∧ items ≠ [] := by
  unfold requireItems
  rw [bind_eq_ok_iff]
  simp only [required_eq_ok_iff]
  constructor
  · rintro ⟨found, hfound, hresult⟩
    cases found with
    | nil => cases hresult
    | cons first rest =>
        have heq := Except.ok.inj hresult
        rw [← heq]
        exact ⟨hfound, by simp⟩
  · rintro ⟨hfound, hne⟩
    refine ⟨items, hfound, ?_⟩
    cases items with
    | nil => exact absurd rfl hne
    | cons first rest => rfl

theorem runSchema_eq_ok_iff (js : BscJson) (desc : TslSchemaDesc) :
    runSchema js = .ok desc ↔ parseSchema js = (.succ, desc) := by
  unfold runSchema
  obtain ⟨rv, found⟩ := parseSchema js
  cases rv <;> simp

theorem ownSchema_mirrors_iff
    {js own : BscJson} {desc : TslSchemaDesc}
    (hown : memberObject js tslKeySchema = some own)
    (hschema : parseSchema own = (.succ, desc)) :
    (∃ found, memberObject js tslKeySchema = some found ∧
        SchemaMirrors found desc) ↔
      OwnSchemaFits js := by
  have hiff := parseSchema_mirrors_iff own
  rw [hschema] at hiff
  unfold OwnSchemaFits
  simp only [hown, Option.some.injEq, exists_eq_left', hiff]

theorem parseBody_mirrors_iff
    {js : BscJson} {key : CString} {missing : TslErrno} {desc : TslSchemaDesc}
    (hparse : parseBody js key missing = .ok desc) :
    BodyMirrors js key desc ↔ BodyCondition js key := by
  unfold parseBody at hparse
  unfold BodyMirrors BodyCondition
  cases hbody : js.getObjectItem key with
  | none =>
      have hnone : memberObject js key = none := by rw [memberObject, hbody]
      rw [hnone] at hparse
      simpa using (Except.ok.inj hparse).symm
  | some body =>
      simp only [Option.some.injEq, forall_eq']
      cases hobject : memberObject js key with
      | none =>
          -- a body that is no object has no schema either
          have hother : ∀ members, body ≠ .object members := by
            rintro members rfl
            rw [memberObject, hbody] at hobject
            cases hobject
          have hschema : memberObject body tslKeySchema = none := by
            rw [memberObject, BscJson.getObjectItem_of_not_object _ hother]
          simp [OwnSchemaFits, hschema]
      | some found =>
          have hsame := ((memberObject_eq_some_iff _ _ _).mp hobject).1
          rw [hbody, Option.some.injEq] at hsame
          subst hsame
          rw [hobject] at hparse
          dsimp only at hparse
          rw [bind_eq_ok_iff] at hparse
          obtain ⟨own, hown, hschema⟩ := hparse
          rw [required_eq_ok_iff] at hown
          rw [runSchema_eq_ok_iff] at hschema
          exact ownSchema_mirrors_iff hown hschema

theorem fits_iff
    {js : BscJson} {key text : CString} (bound : ℕ)
    (htext : memberString js key = some text) :
    memberString js key = some (CString.strncpy text bound) ↔
      Fits js key bound := by
  rw [htext, Option.some.injEq, eq_comm, CString.strncpy_eq_self, Fits]
  simp [htext]

theorem parseVersion_mirrors_iff (js : BscJson) :
    VersionMirrors js (parseVersion js) ↔
      TextCellFits js tslKeyVersion maxVersionLength :=
  parseText_mirrors_iff js tslKeyVersion maxVersionLength

theorem parseAccess_mirrors (text : CString) :
    AccessMirrors text (parseAccess text) := by
  unfold parseAccess
  by_cases hread : 'r' ∈ text <;> by_cases hwrite : 'w' ∈ text
  all_goals
    constructor
    · simp [hread, hwrite, accessRead, accessWrite]
    · simp [hread, hwrite, accessRead, accessWrite, Nat.testBit]
    · simp [hread, hwrite, accessRead, accessWrite]

/-! ## Properties, actions, events -/

theorem parseDomainProp_mirrors_iff
    (js : BscJson) (prop : TslDomainProp)
    (hparse : parseDomainProp js = .ok prop) :
    PropMirrors js prop ↔ PropCondition js := by
  unfold parseDomainProp at hparse
  split at hparse
  · next members =>
      simp only [bind_eq_ok_iff, required_eq_ok_iff,
        runSchema_eq_ok_iff] at hparse
      obtain ⟨identifier, hidentifier, access, haccess, own, hown, desc, hdesc,
        hprop⟩ := hparse
      have heq := Except.ok.inj hprop
      subst heq
      constructor
      · rintro ⟨hid, -, hversion, hschema⟩
        constructor
        · exact (fits_iff _ hidentifier).mp hid
        · exact (parseVersion_mirrors_iff _).mp hversion
        · exact (ownSchema_mirrors_iff hown hdesc).mp hschema
      · rintro ⟨hid, hversion, hschema⟩
        constructor
        · exact (fits_iff _ hidentifier).mpr hid
        · exact ⟨access, haccess, parseAccess_mirrors access⟩
        · exact (parseVersion_mirrors_iff _).mpr hversion
        · exact (ownSchema_mirrors_iff hown hdesc).mpr hschema
  · cases hparse

theorem parseDomainAction_mirrors_iff
    (js : BscJson) (action : TslDomainAction)
    (hparse : parseDomainAction js = .ok action) :
    ActionMirrors js action ↔ ActionCondition js := by
  unfold parseDomainAction at hparse
  split at hparse
  · next members =>
      simp only [bind_eq_ok_iff, required_eq_ok_iff] at hparse
      obtain ⟨identifier, hidentifier, direction, hdirection, input, hinput,
        output, houtput, haction⟩ := hparse
      have heq := Except.ok.inj haction
      subst heq
      constructor
      · rintro ⟨hid, hversion, hdir, hin, hout⟩
        constructor
        · exact (fits_iff _ hidentifier).mp hid
        · exact (parseVersion_mirrors_iff _).mp hversion
        · exact (fits_iff _ hdirection).mp hdir
        · exact (parseBody_mirrors_iff hinput).mp hin
        · exact (parseBody_mirrors_iff houtput).mp hout
      · rintro ⟨hid, hversion, hdir, hin, hout⟩
        constructor
        · exact (fits_iff _ hidentifier).mpr hid
        · exact (parseVersion_mirrors_iff _).mpr hversion
        · exact (fits_iff _ hdirection).mpr hdir
        · exact (parseBody_mirrors_iff hinput).mpr hin
        · exact (parseBody_mirrors_iff houtput).mpr hout
  · cases hparse

theorem parseEventTypes_map_string (index : ℕ) (types : List CString) :
    parseEventTypes index (types.map .string) =
      types.map fun _ => copiedType index types := by
  have htype :
      ((types.map BscJson.string)[index]?.bind BscJson.valuestring) =
        types[index]? := by
    rw [List.getElem?_map]
    cases types[index]? <;> rfl
  simp only [parseEventTypes, htype, copiedType, List.map_map,
    Function.comp_def]

/-- All cells of an event hold the same type, so they are right when all types
are that one. -/
theorem parseEventTypes_eq_iff (index : ℕ) (items : List BscJson) :
    items = (parseEventTypes index items).map .string ↔
      ∃ types : List CString, items = types.map .string ∧
        ∀ name ∈ types, name = copiedType index types := by
  constructor
  · intro hitems
    refine ⟨parseEventTypes index items, hitems, ?_⟩
    intro name hmem
    rw [hitems, parseEventTypes_map_string] at hmem
    obtain ⟨-, -, rfl⟩ := List.mem_map.mp hmem
    rfl
  · rintro ⟨types, rfl, hall⟩
    rw [parseEventTypes_map_string]
    congr 1
    calc
      types = types.map id := (List.map_id types).symm
      _ = types.map fun _ => copiedType index types :=
        List.map_congr_left hall

theorem parseDomainEvent_mirrors_iff
    (index : ℕ) (js : BscJson) (event : TslDomainEvent)
    (hparse : parseDomainEvent index js = .ok event) :
    EventMirrors js event ↔ EventCondition index js := by
  unfold parseDomainEvent at hparse
  split at hparse
  · next members =>
      simp only [bind_eq_ok_iff, required_eq_ok_iff] at hparse
      obtain ⟨identifier, hidentifier, types, htypes, input, hinput, output,
        houtput, hevent⟩ := hparse
      have heq := Except.ok.inj hevent
      subst heq
      have htypesIff := parseEventTypes_eq_iff index types
      constructor
      · rintro ⟨hid, hversion, htype, hin, hout⟩
        rw [htypes] at htype
        obtain ⟨names, hnames, hall⟩ :=
          htypesIff.mp (Option.some.inj htype)
        constructor
        · exact (fits_iff _ hidentifier).mp hid
        · exact (parseVersion_mirrors_iff _).mp hversion
        · exact ⟨names, by rw [htypes, hnames], hall⟩
        · exact (parseBody_mirrors_iff hinput).mp hin
        · exact (parseBody_mirrors_iff houtput).mp hout
      · rintro ⟨hid, hversion, ⟨names, hnames, hall⟩, hin, hout⟩
        rw [htypes] at hnames
        have hsame := htypesIff.mpr ⟨names, Option.some.inj hnames, hall⟩
        constructor
        · exact (fits_iff _ hidentifier).mpr hid
        · exact (parseVersion_mirrors_iff _).mpr hversion
        · rw [htypes]
          exact congrArg some hsame
        · exact (parseBody_mirrors_iff hinput).mpr hin
        · exact (parseBody_mirrors_iff houtput).mpr hout
  · cases hparse

/-! ## Domains -/

theorem listMirrors_iff
    {α : Type} {Mirrors : BscJson → α → Prop} {js : BscJson} {key : CString}
    {held : List α} {Met : List BscJson → Prop}
    (hmet : List.Forall₂ Mirrors ((memberArray js key).getD []) held ↔
      Met ((memberArray js key).getD [])) :
    ListMirrors Mirrors js key held ↔
      ∃ items, declared js key (.array []) = .array items ∧ Met items := by
  constructor
  · rintro ⟨items, hitems, hall⟩
    rw [memberArray_of_declared hitems] at hmet
    exact ⟨items, hitems, hmet.mp hall⟩
  · rintro ⟨items, hitems, hall⟩
    rw [memberArray_of_declared hitems] at hmet
    exact ⟨items, hitems, hmet.mpr hall⟩

theorem parseOneDomain_mirrors_iff
    (members : List (CString × BscJson)) (domain : TslRscDomain)
    (hparse : parseOneDomain (.object members) = .ok domain) :
    DomainMirrors (.object members) domain ↔
      DomainCondition (.object members) := by
  unfold parseOneDomain at hparse
  simp only [bind_eq_ok_iff, required_eq_ok_iff] at hparse
  obtain ⟨identifier, hidentifier, props, hprops, actions, hactions, events,
    hevents, hdomain⟩ := hparse
  have heq := Except.ok.inj hdomain
  subst heq
  have hpropIff :=
    ScanLoops.forall₂_iff_of_mapM PropMirrors PropCondition
      parseDomainProp_mirrors_iff hprops
  have hactionIff :=
    ScanLoops.forall₂_iff_of_mapM ActionMirrors ActionCondition
      parseDomainAction_mirrors_iff hactions
  have heventIff :=
    ScanLoops.forall₂_iff_of_mapM
      (fun item event => EventMirrors item.1 event)
      (fun item => EventCondition item.2 item.1)
      (fun item event => parseDomainEvent_mirrors_iff item.2 item.1 event)
      hevents
  rw [ScanLoops.forall₂_zipIdx_iff] at heventIff
  constructor
  · rintro ⟨hid, hprop, haction, hevent⟩
    constructor
    · exact ⟨members, rfl⟩
    · exact (fits_iff _ hidentifier).mp hid
    · exact (listMirrors_iff hpropIff).mp hprop
    · exact (listMirrors_iff hactionIff).mp haction
    · exact (listMirrors_iff heventIff).mp hevent
  · rintro ⟨-, hid, hprop, haction, hevent⟩
    constructor
    · exact (fits_iff _ hidentifier).mpr hid
    · exact (listMirrors_iff hpropIff).mpr hprop
    · exact (listMirrors_iff hactionIff).mpr haction
    · exact (listMirrors_iff heventIff).mpr hevent

/-- An item that is not an object has no identifier. -/
theorem memberString_of_not_object
    {js : BscJson} (key : CString) (hother : ∀ members, js ≠ .object members) :
    memberString js key = none := by
  rw [memberString, BscJson.getObjectItem_of_not_object key hother]

/-- Domains after an item that is not an object are not mirrored, and the item
itself is not. -/
theorem parseDomain_mirrors_iff
    (items : List BscJson) (domains : List TslRscDomain)
    (hparse : parseDomain items = .ok domains) :
    List.Forall₂ DomainMirrors items domains ↔
      ∀ item ∈ items, DomainCondition item := by
  induction items generalizing domains with
  | nil =>
      rw [parseDomain] at hparse
      have heq := Except.ok.inj hparse
      subst heq
      simp
  | cons item rest ih =>
      by_cases hobject : ∃ members, item = .object members
      · obtain ⟨members, rfl⟩ := hobject
        rw [parseDomain] at hparse
        simp only [bind_eq_ok_iff] at hparse
        obtain ⟨domain, hdomain, others, hothers, hall⟩ := hparse
        have heq := Except.ok.inj hall
        subst heq
        rw [List.forall₂_cons, List.forall_mem_cons, ih others hothers,
          parseOneDomain_mirrors_iff members domain hdomain]
      · have hother : ∀ members, item ≠ .object members :=
          fun members heq => hobject ⟨members, heq⟩
        constructor
        · intro hall
          cases hall with
          | cons hmirrors _ =>
              have hid := hmirrors.identifier
              rw [memberString_of_not_object _ hother] at hid
              cases hid
        · intro hall
          obtain ⟨members, hmembers⟩ := (hall item List.mem_cons_self).isObject
          exact absurd hmembers (hother members)

/-! ## Local indices -/

/-- Every copy of a local index goes to one place, so the last one stays. -/
theorem storeLocalIndex_map_string
    (number : ℕ) (first : CString) (rest : List CString)
    {cells : CString.Cells}
    (hfits : number + (maxLocalIndexLength - 1) ≤ cells.length) :
    storeLocalIndex number ((first :: rest).map .string) cells =
      .ok (cells.overwritten number
        ((first :: rest).getLast (List.cons_ne_nil first rest))
        (maxLocalIndexLength - 1)) := by
  induction rest generalizing first cells with
  | nil =>
      rw [List.map_cons, storeLocalIndex,
        CString.Cells.writeString_of_le first hfits]
      rfl
  | cons second rest ih =>
      rw [List.map_cons, storeLocalIndex,
        CString.Cells.writeString_of_le first hfits]
      have hlength := CString.Cells.overwritten_length first hfits
      dsimp only
      rw [ih second (by rw [hlength]; exact hfits),
        CString.Cells.overwritten_overwritten first _ hfits,
        List.getLast_cons (List.cons_ne_nil second rest)]

/-- The first copy decides whether the copies stay inside the block. -/
theorem storeLocalIndex_ok_iff
    (number : ℕ) (items : List BscJson) (cells : CString.Cells) :
    (∃ stored, storeLocalIndex number items cells = .ok stored) ↔
      ∀ text rest, items = .string text :: rest →
        number + (maxLocalIndexLength - 1) ≤ cells.length := by
  induction items generalizing cells with
  | nil => simp [storeLocalIndex]
  | cons item rest ih =>
      cases item with
      | string text =>
          rw [storeLocalIndex]
          by_cases hfits : number + (maxLocalIndexLength - 1) ≤ cells.length
          · rw [CString.Cells.writeString_of_le text hfits]
            have hlength := CString.Cells.overwritten_length text hfits
            dsimp only
            rw [ih, hlength]
            simp [hfits]
          · have hnone :
                cells.writeString number text (maxLocalIndexLength - 1) =
                  none := if_neg hfits
            rw [hnone]
            simp [hfits]
      | null => simp [storeLocalIndex]
      | bool value => simp [storeLocalIndex]
      | number value => simp [storeLocalIndex]
      | array items => simp [storeLocalIndex]
      | object members => simp [storeLocalIndex]

theorem storeLocalIndex_error
    {number : ℕ} {items : List BscJson} {cells : CString.Cells}
    {failure : ParseStop}
    (hfailed : storeLocalIndex number items cells = .error failure) :
    failure = .overrun := by
  induction items generalizing cells with
  | nil => cases hfailed
  | cons item rest ih =>
      cases item with
      | string text =>
          rw [storeLocalIndex] at hfailed
          split at hfailed
          · exact ih hfailed
          · exact (Except.error.inj hfailed).symm
      | null => cases hfailed
      | bool value => cases hfailed
      | number value => cases hfailed
      | array items => cases hfailed
      | object members => cases hfailed

/-- The local indices of a resource whose names are all strings. -/
theorem localIndex_stored
    {number : ℕ} {names : List CString} {stored : CString.Cells}
    (hne : names ≠ [])
    (hstored :
      storeLocalIndex number (names.map .string)
          (List.replicate (maxLocalIndexLength * names.length) none) =
        .ok stored)
    (position : ℕ) :
    CString.Cells.readString (stored.drop (maxLocalIndexLength * position)) =
      storedIndex number names position := by
  cases names with
  | nil => exact absurd rfl hne
  | cons first rest =>
      have hfits :=
        (storeLocalIndex_ok_iff number _ _).mp ⟨stored, hstored⟩ first
          (rest.map .string) rfl
      rw [storeLocalIndex_map_string number first rest hfits] at hstored
      rw [List.length_replicate] at hfits
      have heq := Except.ok.inj hstored
      rw [← heq, CString.Cells.readString_drop_overwritten _ _ hfits,
        storedIndex, List.getLast?_eq_some_getLast (List.cons_ne_nil _ _)]
      rfl

theorem parseResource_mirrors_iff
    (number : ℕ) (js : BscJson) (resource : TslProfileResource)
    (hparse : parseResource number js = .ok resource) :
    ResourceMirrors js resource ↔ ResourceCondition number js := by
  unfold parseResource at hparse
  simp only [bind_eq_ok_iff, required_eq_ok_iff,
    requireItems_eq_ok_iff] at hparse
  obtain ⟨category, hcategory, jsIndex, ⟨hindex, hne⟩, stored, hstored,
    jsDomain, ⟨hdomains, -⟩, domains, hparsed, hresource⟩ := hparse
  have heq := Except.ok.inj hresource
  subst heq
  have hdomainIff := parseDomain_mirrors_iff jsDomain domains hparsed
  have hread : ∀ names : List CString, jsIndex = names.map .string →
      ∀ position,
        CString.Cells.readString
            (stored.drop (maxLocalIndexLength * position)) =
          storedIndex number names position := by
    rintro names rfl position
    apply localIndex_stored
    · intro hnil
      exact hne (by rw [hnil]; rfl)
    · rw [List.length_map] at hstored
      exact hstored
  constructor
  · rintro ⟨hcat, ⟨names, hnames, -, hall⟩, hdomain⟩
    rw [hindex] at hnames
    constructor
    · exact (fits_iff _ hcategory).mp hcat
    · refine ⟨names, by rw [hindex, Option.some.inj hnames], ?_⟩
      intro position hlt
      rw [← hall position hlt]
      exact hread names (Option.some.inj hnames) position
    · rw [hdomains] at hdomain ⊢
      exact hdomainIff.mp hdomain
  · rintro ⟨hcat, ⟨names, hnames, hall⟩, hdomain⟩
    rw [hindex] at hnames
    have hsame := Option.some.inj hnames
    constructor
    · exact (fits_iff _ hcategory).mpr hcat
    · refine ⟨names, by rw [hindex, hsame], ?_, ?_⟩
      · rw [hsame, List.length_map]
      · intro position hlt
        rw [hall position hlt]
        exact hread names hsame position
    · rw [hdomains] at hdomain ⊢
      exact hdomainIff.mpr hdomain

/-! ## Copies past the end of a block -/

/-- Only the local indices are copied past the end of a block. -/
def Inside {α : Type} (parsed : Except ParseStop α) : Prop :=
  parsed ≠ .error .overrun

theorem Inside.bind
    {α β : Type} {first : Except ParseStop α} {next : α → Except ParseStop β}
    (hfirst : Inside first) (hnext : ∀ value, Inside (next value)) :
    Inside (first >>= next) := by
  intro hfailed
  rcases (bind_eq_error_iff _ _ _).mp hfailed with heq | ⟨value, -, heq⟩
  · exact hfirst heq
  · exact hnext value heq

theorem inside_ok {α : Type} (value : α) :
    Inside (.ok value : Except ParseStop α) := by
  intro heq
  cases heq

theorem inside_required {α : Type} (found : Option α) (missing : TslErrno) :
    Inside (required found missing) := by
  cases found <;> simp [Inside, required]

theorem inside_requireItems (js : BscJson) (key : CString) :
    Inside (requireItems js key) := by
  apply (inside_required _ _).bind
  intro items
  cases items <;> simp [Inside]

theorem inside_runSchema (js : BscJson) : Inside (runSchema js) := by
  unfold runSchema
  obtain ⟨rv, found⟩ := parseSchema js
  cases rv <;> simp [Inside]

theorem inside_parseBody
    (js : BscJson) (key : CString) (missing : TslErrno) :
    Inside (parseBody js key missing) := by
  unfold parseBody
  split
  · apply (inside_required _ _).bind
    exact inside_runSchema
  · exact inside_ok _

theorem inside_mapM
    {α β : Type} {step : α → Except ParseStop β}
    (hstep : ∀ item, Inside (step item)) (items : List α) :
    Inside (items.mapM step) := by
  intro hfailed
  obtain ⟨before, item, after, -, -, hitem⟩ :=
    (ScanLoops.mapM_eq_error_iff step items .overrun).mp hfailed
  exact hstep item hitem

theorem inside_parseDomainProp (js : BscJson) :
    Inside (parseDomainProp js) := by
  unfold parseDomainProp
  split
  · apply (inside_required _ _).bind
    intro identifier
    apply (inside_required _ _).bind
    intro access
    apply (inside_required _ _).bind
    intro own
    apply (inside_runSchema own).bind
    exact fun desc => inside_ok _
  · simp [Inside]

theorem inside_parseDomainAction (js : BscJson) :
    Inside (parseDomainAction js) := by
  unfold parseDomainAction
  split
  · apply (inside_required _ _).bind
    intro identifier
    apply (inside_required _ _).bind
    intro direction
    apply (inside_parseBody _ _ _).bind
    intro input
    apply (inside_parseBody _ _ _).bind
    exact fun output => inside_ok _
  · simp [Inside]

theorem inside_parseDomainEvent (index : ℕ) (js : BscJson) :
    Inside (parseDomainEvent index js) := by
  unfold parseDomainEvent
  split
  · apply (inside_required _ _).bind
    intro identifier
    apply (inside_required _ _).bind
    intro types
    apply (inside_parseBody _ _ _).bind
    intro input
    apply (inside_parseBody _ _ _).bind
    exact fun output => inside_ok _
  · simp [Inside]

theorem inside_parseDomain (items : List BscJson) :
    Inside (parseDomain items) := by
  induction items with
  | nil => exact inside_ok _
  | cons item rest ih =>
      by_cases hobject : ∃ members, item = .object members
      · obtain ⟨members, rfl⟩ := hobject
        rw [parseDomain]
        have hone : Inside (parseOneDomain (.object members)) := by
          apply (inside_required _ _).bind
          intro identifier
          apply (inside_mapM inside_parseDomainProp _).bind
          intro props
          apply (inside_mapM inside_parseDomainAction _).bind
          intro actions
          apply (inside_mapM (fun item => inside_parseDomainEvent _ _) _).bind
          exact fun events => inside_ok _
        apply hone.bind
        intro domain
        apply ih.bind
        exact fun domains => inside_ok _
      · have hstop : parseDomain (item :: rest) =
            .ok (.zero :: rest.map fun _ => .zero) := by
          cases item with
          | object members => exact absurd ⟨members, rfl⟩ hobject
          | _ => rfl
        rw [hstop]
        exact inside_ok _

/-- The first local index is copied past the end of the block. -/
def ResourceOverruns (number : ℕ) (js : BscJson) : Prop :=
  (∃ category, memberString js tslKeyRscCategory = some category) ∧
    ∃ text rest,
      memberArray js tslKeyLocalIndex = some (.string text :: rest) ∧
        maxLocalIndexLength * (rest.length + 1) <
          number + (maxLocalIndexLength - 1)

theorem storeLocalIndex_eq_overrun_iff
    (number : ℕ) (items : List BscJson) :
    storeLocalIndex number items
        (List.replicate (maxLocalIndexLength * items.length) none) =
        .error .overrun ↔
      ∃ text rest, items = .string text :: rest ∧
        maxLocalIndexLength * (rest.length + 1) <
          number + (maxLocalIndexLength - 1) := by
  have hok := storeLocalIndex_ok_iff number items
    (List.replicate (maxLocalIndexLength * items.length) none)
  rw [List.length_replicate] at hok
  cases hstored : storeLocalIndex number items
      (List.replicate (maxLocalIndexLength * items.length) none) with
  | ok stored =>
      have hfits := hok.mp ⟨stored, hstored⟩
      simp only [reduceCtorEq, false_iff]
      rintro ⟨text, rest, rfl, hlt⟩
      have hle := hfits text rest rfl
      rw [List.length_cons] at hle
      omega
  | error failure =>
      rw [storeLocalIndex_error hstored]
      simp only [true_iff]
      have hnot : ¬∀ text rest, items = .string text :: rest →
          number + (maxLocalIndexLength - 1) ≤
            maxLocalIndexLength * items.length := by
        intro hfits
        obtain ⟨stored, hfound⟩ := hok.mpr hfits
        rw [hstored] at hfound
        cases hfound
      push Not at hnot
      obtain ⟨text, rest, rfl, hlt⟩ := hnot
      exact ⟨text, rest, rfl, by simpa using hlt⟩

theorem parseResource_eq_overrun_iff (number : ℕ) (js : BscJson) :
    parseResource number js = .error .overrun ↔
      ResourceOverruns number js := by
  have hdomains : ∀ category jsIndex index,
      Inside (do
        let jsDomain ← requireItems js tslKeyDomains
        let domain ← parseDomain jsDomain
        (.ok (TslProfileResource.mk category jsIndex index domain) :
          Except ParseStop TslProfileResource)) := by
    intro category jsIndex index
    apply (inside_requireItems _ _).bind
    intro jsDomain
    apply (inside_parseDomain jsDomain).bind
    exact fun domain => inside_ok _
  unfold parseResource ResourceOverruns
  constructor
  · intro hfailed
    rcases (bind_eq_error_iff _ _ _).mp hfailed with
      hnone | ⟨category, hcategory, hfailed⟩
    · exact absurd hnone (inside_required _ _)
    rcases (bind_eq_error_iff _ _ _).mp hfailed with
      hnone | ⟨jsIndex, hindex, hfailed⟩
    · exact absurd hnone (inside_requireItems _ _)
    rcases (bind_eq_error_iff _ _ _).mp hfailed with
      hover | ⟨index, -, hfailed⟩
    · obtain ⟨text, rest, rfl, hlt⟩ :=
        (storeLocalIndex_eq_overrun_iff number jsIndex).mp hover
      refine ⟨⟨category, (required_eq_ok_iff _ _ _).mp hcategory⟩,
        text, rest, ?_, hlt⟩
      exact ((requireItems_eq_ok_iff _ _ _).mp hindex).1
    · exact absurd hfailed (hdomains _ _ _)
  · rintro ⟨⟨category, hcategory⟩, text, rest, hindex, hlt⟩
    rw [bind_eq_error_iff]
    refine .inr ⟨category, (required_eq_ok_iff _ _ _).mpr hcategory, ?_⟩
    rw [bind_eq_error_iff]
    refine .inr ⟨.string text :: rest, ?_, ?_⟩
    · exact (requireItems_eq_ok_iff _ _ _).mpr ⟨hindex, by simp⟩
    · rw [bind_eq_error_iff]
      exact .inl ((storeLocalIndex_eq_overrun_iff number _).mpr
        ⟨text, rest, rfl, hlt⟩)

/-! ## Profiles -/

/-- The document reaches a resource whose local indices leave their block: the
resources before it are parsed. -/
def Overruns (js : BscJson) : Prop :=
  (∃ version, memberString js tslKeyVersion = some version) ∧
    ∃ before item after,
      ((memberArray js tslKeyResources).getD []).zipIdx =
          before ++ item :: after ∧
        (∀ other ∈ before, ∃ resource,
          parseResource other.2 other.1 = .ok resource) ∧
        ResourceOverruns item.2 item.1

/-- A document is parsed without leaving a block, and a capacity that comes out
mirrors it. -/
def ParsedFaithfully (js : BscJson) : Prop :=
  profileParse (some js) ≠ .error .overrun ∧
    ∀ capacity, profileParse (some js) = .ok capacity →
      ProfileMirrors js capacity

theorem profileParse_eq_overrun_iff (js : BscJson) :
    profileParse (some js) = .error .overrun ↔ Overruns js := by
  unfold profileParse Overruns
  constructor
  · intro hfailed
    rcases (bind_eq_error_iff _ _ _).mp hfailed with
      hnone | ⟨version, hversion, hfailed⟩
    · exact absurd hnone (inside_required _ _)
    rcases (bind_eq_error_iff _ _ _).mp hfailed with
      hnone | ⟨jsSrc, hsrc, hfailed⟩
    · exact absurd hnone (inside_requireItems _ _)
    rcases (bind_eq_error_iff _ _ _).mp hfailed with
      hover | ⟨resource, -, hfailed⟩
    · obtain ⟨before, item, after, hsplit, hbefore, hitem⟩ :=
        (ScanLoops.mapM_eq_error_iff _ _ _).mp hover
      refine ⟨⟨version, (required_eq_ok_iff _ _ _).mp hversion⟩,
        before, item, after, ?_, hbefore,
        (parseResource_eq_overrun_iff _ _).mp hitem⟩
      rw [((requireItems_eq_ok_iff _ _ _).mp hsrc).1]
      exact hsplit
    · exact absurd hfailed (inside_ok _)
  · rintro ⟨⟨version, hversion⟩, before, item, after, hsplit, hbefore, hitem⟩
    cases hsrc : memberArray js tslKeyResources with
    | none => simp [hsrc] at hsplit
    | some items =>
        rw [hsrc, Option.getD_some] at hsplit
        have hne : items ≠ [] := by
          rintro rfl
          simp at hsplit
        dsimp only
        rw [bind_eq_error_iff]
        refine .inr ⟨version, (required_eq_ok_iff _ _ _).mpr hversion, ?_⟩
        rw [bind_eq_error_iff]
        refine .inr ⟨items, (requireItems_eq_ok_iff _ _ _).mpr ⟨hsrc, hne⟩, ?_⟩
        rw [bind_eq_error_iff]
        refine .inl ((ScanLoops.mapM_eq_error_iff _ _ _).mpr
          ⟨before, item, after, hsplit, hbefore, ?_⟩)
        exact (parseResource_eq_overrun_iff _ _).mpr hitem

theorem profileParse_mirrors_iff
    {js : BscJson} {capacity : TslCapacity}
    (hparse : profileParse (some js) = .ok capacity) :
    ProfileMirrors js capacity ↔ ProfileCondition js := by
  unfold profileParse at hparse
  simp only [bind_eq_ok_iff, required_eq_ok_iff,
    requireItems_eq_ok_iff] at hparse
  obtain ⟨version, -, jsSrc, ⟨hsrc, -⟩, resources, hresources, hcapacity⟩ :=
    hparse
  have heq := Except.ok.inj hcapacity
  subst heq
  have hiff :=
    ScanLoops.forall₂_iff_of_mapM
      (fun item resource => ResourceMirrors item.1 resource)
      (fun item => ResourceCondition item.2 item.1)
      (fun item resource => parseResource_mirrors_iff item.2 item.1 resource)
      hresources
  rw [ScanLoops.forall₂_zipIdx_iff] at hiff
  unfold ProfileMirrors ProfileCondition
  rw [hsrc]
  exact hiff

/-- A document is parsed faithfully exactly when no resource it reaches copies
a local index past the end of its block, and each of its parts meets its
condition if it is accepted. -/
theorem parsedFaithfully_iff (js : BscJson) :
    ParsedFaithfully js ↔
      ¬Overruns js ∧
        ((∃ capacity, profileParse (some js) = .ok capacity) →
          ProfileCondition js) := by
  unfold ParsedFaithfully
  rw [Ne, profileParse_eq_overrun_iff]
  apply and_congr_right
  intro _
  constructor
  · rintro hall ⟨capacity, hparse⟩
    exact (profileParse_mirrors_iff hparse).mp (hall capacity hparse)
  · intro hcondition capacity hparse
    exact (profileParse_mirrors_iff hparse).mpr (hcondition ⟨capacity, hparse⟩)

/-- One resource with the local indices `0` and `1`. -/
def twoIndexProfile : BscJson :=
  .object [("version".toList, .string "1".toList),
    ("resources".toList, .array [.object [
      ("resourceCategory".toList, .string "global".toList),
      ("localIndex".toList,
        .array [.string "0".toList, .string "1".toList]),
      ("domains".toList, .array [.object [
        ("identifier".toList, .string "lamp".toList)]])]])]

/-- The second local index is copied over the first, and the place of the
second one stays empty. -/
theorem second_index_overwrites_first :
    ∃ capacity, profileParse (some twoIndexProfile) = .ok capacity ∧
      capacity.resource.map (fun resource => resource.localIndex 0) =
        ["1".toList] ∧
      capacity.resource.map (fun resource => resource.localIndex 1) = [[]] ∧
      ¬ParsedFaithfully twoIndexProfile := by
  have hparse : ∃ resource : TslProfileResource,
      profileParse (some twoIndexProfile) = .ok ⟨[], [], [resource]⟩ ∧
        resource.localIndex 0 = "1".toList ∧ resource.localIndex 1 = [] :=
    ⟨_, rfl, rfl, rfl⟩
  obtain ⟨resource, hok, hfirst, hsecond⟩ := hparse
  refine ⟨_, hok, by simp [hfirst], by simp [hsecond], ?_⟩
  intro hfaithful
  have hmirrors := hfaithful.2 _ hok
  unfold ProfileMirrors at hmirrors
  cases hmirrors with
  | cons hresource _ =>
      obtain ⟨names, hnames, -, hall⟩ := hresource.localIndex
      have htwo : names.map BscJson.string =
          [.string "0".toList, .string "1".toList] :=
        (Option.some.inj hnames).symm
      match names, htwo with
      | [first, second], htwo =>
          have hzero := hall 0 (by simp)
          rw [hfirst] at hzero
          simp at htwo hzero
          rw [htwo.1] at hzero
          exact absurd hzero (by decide)

end EziotSdk

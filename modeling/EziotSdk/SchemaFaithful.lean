import EziotSdk.TslDocument

/-!
# What a schema declares and what its descriptor holds

A descriptor mirrors a schema when each of its cells holds what the member of
that name declares; a member that is absent declares what a zeroed cell holds.
What the parser stores mirrors the schema when every member is of its kind and
fits its cell, the two limits of an object are one number, and no exclusive
limit stands beside an inclusive one.
-/

namespace EziotSdk

def declared (js : BscJson) (key : CString) (absent : BscJson) : BscJson :=
  (js.getObjectItem key).getD absent

/-! ## The mirror -/

structure SchemaHeadMirrors (js : BscJson) (typeName propKey : CString) :
    Prop where
  typeName : js.getObjectItem tslKeyType = some (.string typeName)
  propKey : declared js tslKeyDataKey (.string []) = .string propKey

def NumberMirrors (js : BscJson) (key : CString) (cell : ℚ) : Prop :=
  declared js key (.number 0) = .number cell

/-- The limits that ints and numbers share. -/
structure LimitsMirror (js : BscJson)
    (minimum exminimum maximum exmaximum multiple : ℚ) : Prop where
  minimum : NumberMirrors js tslKeyMinimum minimum
  exminimum : NumberMirrors js tslKeyExclusiveMinimum exminimum
  maximum : NumberMirrors js tslKeyMaximum maximum
  exmaximum : NumberMirrors js tslKeyExclusiveMaximum exmaximum
  multiple : NumberMirrors js tslKeyMultiple multiple

structure TypeIntegerMirrors (js : BscJson) (cells : TypeInteger) : Prop where
  limits : LimitsMirror js cells.minimum cells.exminimum cells.maximum
    cells.exmaximum cells.multiple
  intEnum : declared js tslKeyEnum (.array []) =
    .array (cells.intEnum.map fun value : ℤ => .number value)

structure TypeNumberMirrors (js : BscJson) (cells : TypeNumber) : Prop where
  limits : LimitsMirror js cells.minimum cells.exminimum cells.maximum
    cells.exmaximum cells.multiple
  numEnum : declared js tslKeyEnum (.array []) =
    .array (cells.numEnum.map .number)

structure TypeStringMirrors (js : BscJson) (cells : TypeString) : Prop where
  minLen : NumberMirrors js tslKeyMinlength cells.minLen
  maxLen : NumberMirrors js tslKeyMaxlength cells.maxLen
  strEnum : declared js tslKeyEnum (.array []) =
    .array (cells.strEnum.map .string)

/-- The keywords of the limits of an object are named as those of texts and
arrays are; the parser has them exchanged. -/
def minPropertiesKeyword : CString := "mnp".toList
def maxPropertiesKeyword : CString := "mxp".toList

mutual

def SchemaMirrors (js : BscJson) : TslSchemaDesc → Prop
  | .bool propKey => SchemaHeadMirrors js tslKeyDataBoolean propKey
  | .integer propKey cells =>
      SchemaHeadMirrors js tslKeyDataInteger propKey ∧
        TypeIntegerMirrors js cells
  | .number propKey cells =>
      SchemaHeadMirrors js tslKeyDataNumber propKey ∧ TypeNumberMirrors js cells
  | .string propKey cells =>
      SchemaHeadMirrors js tslKeyDataString propKey ∧ TypeStringMirrors js cells
  | .array propKey minItem maxItem itemProp =>
      SchemaHeadMirrors js tslKeyDataArray propKey ∧
        NumberMirrors js tslKeyMinItems minItem ∧
        NumberMirrors js tslKeyMaxItems maxItem ∧
        ∃ item, js.getObjectItem tslKeyItems = some item ∧
          SchemasMirror [item] itemProp
  | .object propKey maxProps minProps required property =>
      SchemaHeadMirrors js tslKeyDataObject propKey ∧
        NumberMirrors js minPropertiesKeyword minProps ∧
        NumberMirrors js maxPropertiesKeyword maxProps ∧
        declared js tslKeyRequired (.array []) =
          .array (required.map .string) ∧
        ∃ items, declared js tslKeySchemaProperties (.array []) =
          .array items ∧ SchemasMirror items property
  | .max _ => False

def SchemasMirror : List BscJson → List TslSchemaDesc → Prop
  | [], [] => True
  | item :: items, desc :: descs =>
      SchemaMirrors item desc ∧ SchemasMirror items descs
  | _, _ => False

end

/-! ## The condition on a schema -/

/-- The member is absent, or a 32-bit integer. -/
def IntCellFits (js : BscJson) (key : CString) : Prop :=
  ∃ value : ℤ, declared js key (.number 0) = .number value ∧
    BscJson.intMin ≤ value ∧ value ≤ BscJson.intMax

def NumberCellFits (js : BscJson) (key : CString) : Prop :=
  ∃ value, declared js key (.number 0) = .number value

def TextCellFits (js : BscJson) (key : CString) (bound : ℕ) : Prop :=
  ∃ text, declared js key (.string []) = .string text ∧ text.length ≤ bound

def NameCellsFit (js : BscJson) (key : CString) : Prop :=
  ∃ names : List CString,
    declared js key (.array []) = .array (names.map .string) ∧
      ∀ name ∈ names, name.length ≤ maxNameLength

/-- The exclusive limit is not read beside the inclusive one. -/
def OneLimit (js : BscJson) (inclusive exclusive : CString) : Prop :=
  js.getObjectItem inclusive = none ∨
    declared js exclusive (.number 0) = .number 0

structure SchemaHeadFits (js : BscJson) (typeName : CString) : Prop where
  typeName : js.getObjectItem tslKeyType = some (.string typeName)
  propKey : TextCellFits js tslKeyDataKey maxNameLength

structure LimitsFit (CellFits : BscJson → CString → Prop) (js : BscJson) :
    Prop where
  minimum : CellFits js tslKeyMinimum
  exminimum : CellFits js tslKeyExclusiveMinimum
  oneMinimum : OneLimit js tslKeyMinimum tslKeyExclusiveMinimum
  maximum : CellFits js tslKeyMaximum
  exmaximum : CellFits js tslKeyExclusiveMaximum
  oneMaximum : OneLimit js tslKeyMaximum tslKeyExclusiveMaximum
  multiple : CellFits js tslKeyMultiple

structure TypeIntegerFits (js : BscJson) : Prop where
  limits : LimitsFit IntCellFits js
  intEnum : ∃ values : List ℤ,
    declared js tslKeyEnum (.array []) =
        .array (values.map fun value : ℤ => .number value) ∧
      ∀ value ∈ values, BscJson.intMin ≤ value ∧ value ≤ BscJson.intMax

structure TypeNumberFits (js : BscJson) : Prop where
  limits : LimitsFit NumberCellFits js
  numEnum : ∃ values : List ℚ,
    declared js tslKeyEnum (.array []) = .array (values.map .number)

structure TypeStringFits (js : BscJson) : Prop where
  minLen : IntCellFits js tslKeyMinlength
  maxLen : IntCellFits js tslKeyMaxlength
  strEnum : NameCellsFit js tslKeyEnum

inductive SchemaFits : BscJson → Prop
  | bool {js : BscJson} (hhead : SchemaHeadFits js tslKeyDataBoolean) :
      SchemaFits js
  | integer {js : BscJson} (hhead : SchemaHeadFits js tslKeyDataInteger)
      (hcells : TypeIntegerFits js) : SchemaFits js
  | number {js : BscJson} (hhead : SchemaHeadFits js tslKeyDataNumber)
      (hcells : TypeNumberFits js) : SchemaFits js
  | string {js : BscJson} (hhead : SchemaHeadFits js tslKeyDataString)
      (hcells : TypeStringFits js) : SchemaFits js
  | array {js item : BscJson} (hhead : SchemaHeadFits js tslKeyDataArray)
      (hmin : IntCellFits js tslKeyMinItems)
      (hmax : IntCellFits js tslKeyMaxItems)
      (hitem : js.getObjectItem tslKeyItems = some item)
      (hfits : SchemaFits item) : SchemaFits js
  -- each limit is stored as the other
  | object {js : BscJson} {items : List BscJson}
      (hhead : SchemaHeadFits js tslKeyDataObject)
      (hmin : IntCellFits js minPropertiesKeyword)
      (hsame : declared js maxPropertiesKeyword (.number 0) =
        declared js minPropertiesKeyword (.number 0))
      (hrequired : NameCellsFit js tslKeyRequired)
      (hitems : declared js tslKeySchemaProperties (.array []) = .array items)
      (hfits : ∀ item ∈ items, SchemaFits item) : SchemaFits js

/-! ## Cells -/

theorem memberNumber_mirrors_iff (js : BscJson) (key : CString) :
    NumberMirrors js key ((memberNumber js key).getD 0) ↔
      NumberCellFits js key := by
  unfold NumberMirrors NumberCellFits declared memberNumber
  cases js.getObjectItem key with
  | none => simp
  | some item => cases item <;> simp

theorem memberInt_mirrors_iff (js : BscJson) (key : CString) :
    NumberMirrors js key (((memberInt js key).getD 0 : ℤ) : ℚ) ↔
      IntCellFits js key := by
  unfold NumberMirrors IntCellFits declared memberInt memberNumber
  cases js.getObjectItem key with
  | none =>
      simp only [Option.getD_none, Option.map_none, Int.cast_zero, true_iff]
      exact ⟨0, by simp, by decide, by decide⟩
  | some item =>
      cases item with
      | number value =>
          simp only [Option.getD_some, Option.map_some, BscJson.number.injEq]
          constructor
          · intro hsame
            refine ⟨BscJson.saturate value, hsame,
              (BscJson.saturate_intCast_iff _).mp ?_⟩
            rw [← hsame]
          · rintro ⟨stored, rfl, hrange⟩
            rw [(BscJson.saturate_intCast_iff stored).mpr hrange]
      | null => simp
      | bool value => simp
      | string value => simp
      | array items => simp
      | object members => simp

theorem parseText_mirrors_iff (js : BscJson) (key : CString) (bound : ℕ) :
    declared js key (.string []) =
        .string (CString.strncpy ((memberString js key).getD []) bound) ↔
      TextCellFits js key bound := by
  unfold TextCellFits declared memberString
  cases js.getObjectItem key with
  | none => simp [CString.strncpy]
  | some item =>
      cases item with
      | string text =>
          simp only [Option.getD_some, BscJson.string.injEq]
          rw [eq_comm, CString.strncpy_eq_self]
          simp
      | null => simp
      | bool value => simp
      | number value => simp
      | array items => simp
      | object members => simp

theorem memberArray_of_declared
    {js : BscJson} {key : CString} {items : List BscJson}
    (hitems : declared js key (.array []) = .array items) :
    (memberArray js key).getD [] = items := by
  unfold declared at hitems
  unfold memberArray
  cases hfound : js.getObjectItem key with
  | none =>
      rw [hfound] at hitems
      simpa using hitems
  | some item =>
      rw [hfound, Option.getD_some] at hitems
      rw [hitems]
      rfl

/-- The items of an array are stored by `convert`, and read back by
`written`. -/
theorem items_mirror_iff
    {α : Type} (js : BscJson) (key : CString)
    (convert : BscJson → α) (written : α → BscJson) :
    declared js key (.array []) =
        .array ((((memberArray js key).getD []).map convert).map written) ↔
      ∃ values : List α,
        declared js key (.array []) = .array (values.map written) ∧
          ∀ value ∈ values, convert (written value) = value := by
  constructor
  · intro hitems
    refine ⟨_, hitems, ?_⟩
    have hsame := memberArray_of_declared hitems
    generalize (memberArray js key).getD [] = items at hsame
    rw [List.map_map] at hsame
    have hback : ∀ item ∈ items, written (convert item) = item := by
      apply List.map_inj_left.mp
      rw [List.map_id']
      exact hsame.symm
    intro value hmem
    obtain ⟨item, hitem, rfl⟩ := List.mem_map.mp hmem
    rw [hback item hitem]
  · rintro ⟨values, hvalues, hall⟩
    have hsame : (values.map written).map convert = values := by
      rw [List.map_map]
      exact (List.map_congr_left hall).trans (List.map_id values)
    rw [memberArray_of_declared hvalues, hsame, hvalues]

theorem exclusive_mirrors_iff
    {js : BscJson} {inclusive exclusive : CString} {cell : ℚ} {fits : Prop}
    (hnumber : NumberCellFits js inclusive)
    (hcell : NumberMirrors js exclusive cell ↔ fits)
    (hzero : NumberMirrors js exclusive 0 → fits) :
    NumberMirrors js exclusive
        (if memberNumber js inclusive = none then cell else 0) ↔
      fits ∧ OneLimit js inclusive exclusive := by
  have hread :
      memberNumber js inclusive = none ↔ js.getObjectItem inclusive = none := by
    obtain ⟨value, hvalue⟩ := hnumber
    unfold declared at hvalue
    unfold memberNumber
    cases hfound : js.getObjectItem inclusive with
    | none => simp
    | some item =>
        rw [hfound, Option.getD_some] at hvalue
        simp [hvalue]
  unfold OneLimit
  by_cases habsent : js.getObjectItem inclusive = none
  · rw [if_pos (hread.mpr habsent), hcell]
    simp [habsent]
  · rw [if_neg (habsent ∘ hread.mp)]
    constructor
    · intro hmirrors
      exact ⟨hzero hmirrors, .inr hmirrors⟩
    · rintro ⟨-, hnone | hmirrors⟩
      · exact absurd hnone habsent
      · exact hmirrors

theorem memberInt_of_declared
    {js : BscJson} {key : CString} {value : ℤ}
    (hvalue : declared js key (.number 0) = .number value) :
    (memberInt js key).getD 0 = BscJson.saturate value := by
  unfold declared at hvalue
  unfold memberInt memberNumber
  cases hfound : js.getObjectItem key with
  | none =>
      rw [hfound, Option.getD_none, BscJson.number.injEq] at hvalue
      rw [← hvalue]
      decide
  | some item =>
      rw [hfound, Option.getD_some] at hvalue
      rw [hvalue]
      rfl

/-- Two members that are stored in each other's cell. -/
theorem exchanged_mirror_iff (js : BscJson) (first second : CString) :
    NumberMirrors js first (((memberInt js second).getD 0 : ℤ) : ℚ) ∧
        NumberMirrors js second (((memberInt js first).getD 0 : ℤ) : ℚ) ↔
      IntCellFits js first ∧
        declared js second (.number 0) = declared js first (.number 0) := by
  constructor
  · rintro ⟨hfirst, hsecond⟩
    have hstored := memberInt_of_declared hfirst
    have hbounds :=
      BscJson.saturate_intCast_bounds ((memberInt js first).getD 0)
    rw [← memberInt_of_declared hsecond] at hbounds
    have hsame := (BscJson.saturate_intCast_iff _).mpr hbounds
    rw [NumberMirrors, hstored, hsame] at hsecond
    exact ⟨⟨_, hfirst, hbounds⟩, hsecond.trans hfirst.symm⟩
  · rintro ⟨hfits, hsame⟩
    have hother : IntCellFits js second := by
      rw [IntCellFits, hsame]
      exact hfits
    constructor
    · rw [NumberMirrors, ← hsame]
      exact (memberInt_mirrors_iff js second).mpr hother
    · rw [NumberMirrors, hsame]
      exact (memberInt_mirrors_iff js first).mpr hfits

/-! ## Leaves -/

theorem IntCellFits.number
    {js : BscJson} {key : CString} (hfits : IntCellFits js key) :
    NumberCellFits js key := by
  obtain ⟨value, hvalue, -⟩ := hfits
  exact ⟨value, hvalue⟩

theorem intCellFits_of_zero {js : BscJson} {key : CString}
    (hzero : NumberMirrors js key 0) : IntCellFits js key :=
  ⟨0, by rw [Int.cast_zero]; exact hzero, by decide, by decide⟩

/-- The limits mirror the document when each cell fits. -/
theorem limits_mirror_iff
    {js : BscJson} {CellFits : BscJson → CString → Prop} {cell : CString → ℚ}
    (hnumber : ∀ key, CellFits js key → NumberCellFits js key)
    (hzero : ∀ key, NumberMirrors js key 0 → CellFits js key)
    (hcell : ∀ key, NumberMirrors js key (cell key) ↔ CellFits js key) :
    LimitsMirror js (cell tslKeyMinimum)
        (if memberNumber js tslKeyMinimum = none then
          cell tslKeyExclusiveMinimum else 0)
        (cell tslKeyMaximum)
        (if memberNumber js tslKeyMaximum = none then
          cell tslKeyExclusiveMaximum else 0)
        (cell tslKeyMultiple) ↔
      LimitsFit CellFits js := by
  have hexclusive : ∀ inclusive exclusive, CellFits js inclusive →
      (NumberMirrors js exclusive
          (if memberNumber js inclusive = none then cell exclusive else 0) ↔
        CellFits js exclusive ∧ OneLimit js inclusive exclusive) := by
    intro inclusive exclusive hinclusive
    exact exclusive_mirrors_iff (hnumber inclusive hinclusive)
      (hcell exclusive) (hzero exclusive)
  constructor
  · rintro ⟨hmin, hexmin, hmax, hexmax, hmultiple⟩
    have hminFits := (hcell _).mp hmin
    have hmaxFits := (hcell _).mp hmax
    have hexminFits := (hexclusive _ _ hminFits).mp hexmin
    have hexmaxFits := (hexclusive _ _ hmaxFits).mp hexmax
    exact {
      minimum := hminFits
      exminimum := hexminFits.1
      oneMinimum := hexminFits.2
      maximum := hmaxFits
      exmaximum := hexmaxFits.1
      oneMaximum := hexmaxFits.2
      multiple := (hcell _).mp hmultiple
    }
  · intro hfits
    exact {
      minimum := (hcell _).mpr hfits.minimum
      exminimum := (hexclusive _ _ hfits.minimum).mpr
        ⟨hfits.exminimum, hfits.oneMinimum⟩
      maximum := (hcell _).mpr hfits.maximum
      exmaximum := (hexclusive _ _ hfits.maximum).mpr
        ⟨hfits.exmaximum, hfits.oneMaximum⟩
      multiple := (hcell _).mpr hfits.multiple
    }

theorem parseInteger_mirrors_iff (js : BscJson) :
    TypeIntegerMirrors js (parseInteger js) ↔ TypeIntegerFits js := by
  have henum :=
    items_mirror_iff js tslKeyEnum intEnumItem fun value : ℤ => .number value
  simp only [intEnumItem, BscJson.saturate_intCast_iff] at henum
  have hlimits :=
    limits_mirror_iff (fun key => IntCellFits.number)
      (fun key => intCellFits_of_zero) (memberInt_mirrors_iff js)
  constructor
  · rintro ⟨hmirror, hitems⟩
    simp only [parseInteger, Int.cast_ite, Int.cast_zero] at hmirror
    exact ⟨hlimits.mp hmirror, henum.mp hitems⟩
  · rintro ⟨hfits, hitems⟩
    refine ⟨?_, henum.mpr hitems⟩
    simp only [parseInteger, Int.cast_ite, Int.cast_zero]
    exact hlimits.mpr hfits

theorem parseNumber_mirrors_iff (js : BscJson) :
    TypeNumberMirrors js (parseNumber js) ↔ TypeNumberFits js := by
  have henum :=
    items_mirror_iff js tslKeyEnum BscJson.valuedouble BscJson.number
  simp only [BscJson.valuedouble, implies_true, and_true] at henum
  have hlimits :=
    limits_mirror_iff (fun key hfits => hfits) (fun key hzero => ⟨0, hzero⟩)
      (memberNumber_mirrors_iff js)
  constructor
  · rintro ⟨hmirror, hitems⟩
    exact ⟨hlimits.mp hmirror, henum.mp hitems⟩
  · rintro ⟨hfits, hitems⟩
    exact ⟨hlimits.mpr hfits, henum.mpr hitems⟩

theorem copyNames_mirrors_iff (js : BscJson) (key : CString) :
    declared js key (.array []) =
        .array ((copyNames ((memberArray js key).getD [])).map .string) ↔
      NameCellsFit js key := by
  have hitems :=
    items_mirror_iff js key
      (fun item =>
        CString.strncpy (item.valuestring.getD []) maxNameLength)
      BscJson.string
  simp only [BscJson.valuestring, Option.getD_some,
    CString.strncpy_eq_self] at hitems
  exact hitems

theorem parseString_mirrors_iff (js : BscJson) :
    TypeStringMirrors js (parseString js) ↔ TypeStringFits js := by
  constructor
  · rintro ⟨hmin, hmax, hitems⟩
    exact {
      minLen := (memberInt_mirrors_iff js _).mp hmin
      maxLen := (memberInt_mirrors_iff js _).mp hmax
      strEnum := (copyNames_mirrors_iff js _).mp hitems
    }
  · rintro ⟨hmin, hmax, hitems⟩
    exact {
      minLen := (memberInt_mirrors_iff js _).mpr hmin
      maxLen := (memberInt_mirrors_iff js _).mpr hmax
      strEnum := (copyNames_mirrors_iff js _).mpr hitems
    }

/-! ## Schemas -/

theorem memberString_eq_some_iff (js : BscJson) (key text : CString) :
    memberString js key = some text ↔
      js.getObjectItem key = some (.string text) := by
  unfold memberString
  cases js.getObjectItem key with
  | none => simp
  | some item => cases item <;> simp

theorem parsePropKey_mirrors_iff (js : BscJson) (typeName : CString) :
    SchemaHeadMirrors js typeName (parsePropKey js) ↔
      SchemaHeadFits js typeName := by
  have hkey := parseText_mirrors_iff js tslKeyDataKey maxNameLength
  constructor
  · rintro ⟨htype, hmirrors⟩
    exact ⟨htype, hkey.mp hmirrors⟩
  · rintro ⟨htype, hfits⟩
    exact ⟨htype, hkey.mpr hfits⟩

theorem parseSchema_bool {js : BscJson}
    (htype : memberString js tslKeyType = some tslKeyDataBoolean) :
    parseSchema js = (.succ, .bool (parsePropKey js)) := by
  rw [parseSchema, htype]
  rfl

theorem parseSchema_integer {js : BscJson}
    (htype : memberString js tslKeyType = some tslKeyDataInteger) :
    parseSchema js =
      (.succ, .integer (parsePropKey js) (parseInteger js)) := by
  rw [parseSchema, htype]
  rfl

theorem parseSchema_number {js : BscJson}
    (htype : memberString js tslKeyType = some tslKeyDataNumber) :
    parseSchema js = (.succ, .number (parsePropKey js) (parseNumber js)) := by
  rw [parseSchema, htype]
  rfl

theorem parseSchema_string {js : BscJson}
    (htype : memberString js tslKeyType = some tslKeyDataString) :
    parseSchema js = (.succ, .string (parsePropKey js) (parseString js)) := by
  rw [parseSchema, htype]
  rfl

/-- A value that is no object has no type, and stays zeroed. -/
theorem propertyDesc_eq (item : BscJson) :
    propertyDesc item = (parseSchema item).2 := by
  by_cases hobject : ∃ members, item = .object members
  · obtain ⟨members, rfl⟩ := hobject
    rfl
  · have hother : ∀ members, item ≠ .object members :=
      fun members heq => hobject ⟨members, heq⟩
    rw [propertyDesc.eq_2 item hother, parseSchema, memberString,
      BscJson.getObjectItem_of_not_object _ hother]

theorem schemasMirror_map_iff
    {items : List BscJson}
    (hall : ∀ item ∈ items,
      SchemaMirrors item (parseSchema item).2 ↔ SchemaFits item) :
    SchemasMirror items (items.map propertyDesc) ↔
      ∀ item ∈ items, SchemaFits item := by
  induction items with
  | nil => simp [SchemasMirror]
  | cons item rest ih =>
      rw [List.map_cons, SchemasMirror, propertyDesc_eq,
        hall item List.mem_cons_self,
        ih fun other hmem => hall other (List.mem_cons_of_mem item hmem),
        List.forall_mem_cons]

theorem SchemaFits.isObject {js : BscJson} (hfits : SchemaFits js) :
    ∃ members, js = .object members := by
  have htyped : ∃ item, js.getObjectItem tslKeyType = some item := by
    cases hfits with
    | bool hhead => exact ⟨_, hhead.typeName⟩
    | integer hhead => exact ⟨_, hhead.typeName⟩
    | number hhead => exact ⟨_, hhead.typeName⟩
    | string hhead => exact ⟨_, hhead.typeName⟩
    | array hhead => exact ⟨_, hhead.typeName⟩
    | object hhead => exact ⟨_, hhead.typeName⟩
  obtain ⟨item, hitem⟩ := htyped
  by_contra hobject
  have hnone :=
    BscJson.getObjectItem_of_not_object tslKeyType
      fun members heq => hobject ⟨members, heq⟩
  rw [hitem] at hnone
  cases hnone

theorem SchemaFits.mirrors {js : BscJson} (hfits : SchemaFits js) :
    SchemaMirrors js (parseSchema js).2 := by
  induction hfits with
  | bool hhead =>
      rw [parseSchema_bool
        ((memberString_eq_some_iff _ _ _).mpr hhead.typeName)]
      exact (parsePropKey_mirrors_iff _ _).mpr hhead
  | integer hhead hcells =>
      rw [parseSchema_integer
        ((memberString_eq_some_iff _ _ _).mpr hhead.typeName)]
      exact ⟨(parsePropKey_mirrors_iff _ _).mpr hhead,
        (parseInteger_mirrors_iff _).mpr hcells⟩
  | number hhead hcells =>
      rw [parseSchema_number
        ((memberString_eq_some_iff _ _ _).mpr hhead.typeName)]
      exact ⟨(parsePropKey_mirrors_iff _ _).mpr hhead,
        (parseNumber_mirrors_iff _).mpr hcells⟩
  | string hhead hcells =>
      rw [parseSchema_string
        ((memberString_eq_some_iff _ _ _).mpr hhead.typeName)]
      exact ⟨(parsePropKey_mirrors_iff _ _).mpr hhead,
        (parseString_mirrors_iff _).mpr hcells⟩
  | array hhead hmin hmax hitem hfits ih =>
      have hfound := (memberObject_eq_some_iff _ _ _).mpr
        ⟨hitem, hfits.isObject⟩
      rw [parseSchema_array
        ((memberString_eq_some_iff _ _ _).mpr hhead.typeName), hfound]
      refine ⟨(parsePropKey_mirrors_iff _ _).mpr hhead,
        (memberInt_mirrors_iff _ _).mpr hmin,
        (memberInt_mirrors_iff _ _).mpr hmax, _, hitem, ih, trivial⟩
  | object hhead hmin hsame hrequired hitems hfits ih =>
      rw [parseSchema_object
        ((memberString_eq_some_iff _ _ _).mpr hhead.typeName)]
      obtain ⟨hlower, hupper⟩ :=
        (exchanged_mirror_iff _ minPropertiesKeyword maxPropertiesKeyword).mpr
          ⟨hmin, hsame⟩
      refine ⟨(parsePropKey_mirrors_iff _ _).mpr hhead, hlower, hupper,
        (copyNames_mirrors_iff _ _).mpr hrequired, _, hitems, ?_⟩
      rw [memberArray_of_declared hitems]
      exact (schemasMirror_map_iff fun item hmem =>
        ⟨fun _ => hfits item hmem, fun _ => ih item hmem⟩).mpr hfits

theorem schemaFits_of_array
    {js : BscJson}
    (htype : memberString js tslKeyType = some tslKeyDataArray)
    (hnested : ∀ item, js.getObjectItem tslKeyItems = some item →
      SchemaMirrors item (parseSchema item).2 → SchemaFits item)
    (hmirrors : SchemaMirrors js (parseSchema js).2) : SchemaFits js := by
  rw [parseSchema_array htype] at hmirrors
  cases hfound : memberObject js tslKeyItems with
  | none =>
      rw [hfound] at hmirrors
      obtain ⟨-, -, -, item, -, hitems⟩ := hmirrors
      exact hitems.elim
  | some item =>
      rw [hfound] at hmirrors
      obtain ⟨hhead, hmin, hmax, other, hitem, hmirror, -⟩ := hmirrors
      have hsame := ((memberObject_eq_some_iff _ _ _).mp hfound).1
      rw [hitem, Option.some.injEq] at hsame
      subst hsame
      exact .array ((parsePropKey_mirrors_iff _ _).mp hhead)
        ((memberInt_mirrors_iff _ _).mp hmin)
        ((memberInt_mirrors_iff _ _).mp hmax) hitem
        (hnested other hitem hmirror)

theorem schemaFits_of_object
    {js : BscJson}
    (htype : memberString js tslKeyType = some tslKeyDataObject)
    (hnested : ∀ item ∈ (memberArray js tslKeySchemaProperties).getD [],
      SchemaMirrors item (parseSchema item).2 → SchemaFits item)
    (hmirrors : SchemaMirrors js (parseSchema js).2) : SchemaFits js := by
  rw [parseSchema_object htype] at hmirrors
  obtain ⟨hhead, hlower, hupper, hrequired, items, hitems, hmirror⟩ := hmirrors
  rw [memberArray_of_declared hitems] at hnested hmirror
  obtain ⟨hmin, hsame⟩ :=
    (exchanged_mirror_iff _ minPropertiesKeyword maxPropertiesKeyword).mp
      ⟨hlower, hupper⟩
  exact .object ((parsePropKey_mirrors_iff _ _).mp hhead) hmin hsame
    ((copyNames_mirrors_iff _ _).mp hrequired) hitems
    ((schemasMirror_map_iff fun item hmem =>
      ⟨hnested item hmem, SchemaFits.mirrors⟩).mp hmirror)

theorem sizeOf_lt_of_mem_memberArray
    {js item : BscJson} {key : CString}
    (hmem : item ∈ (memberArray js key).getD []) : sizeOf item < sizeOf js := by
  unfold memberArray at hmem
  cases hfound : js.getObjectItem key with
  | none =>
      rw [hfound] at hmem
      cases hmem
  | some found =>
      rw [hfound] at hmem
      cases found with
      | array items =>
          have hfoundSize := BscJson.sizeOf_getObjectItem_lt hfound
          have hitemSize := List.sizeOf_lt_of_mem hmem
          rw [Option.getD_some] at hitemSize
          rw [BscJson.array.sizeOf_spec] at hfoundSize
          omega
      | null => cases hmem
      | bool value => cases hmem
      | number value => cases hmem
      | string value => cases hmem
      | object members => cases hmem

/-- The descriptor that the parser stores mirrors a schema exactly when the
schema meets its condition at every depth. -/
theorem parseSchema_mirrors_iff (js : BscJson) :
    SchemaMirrors js (parseSchema js).2 ↔ SchemaFits js := by
  refine ⟨?_, SchemaFits.mirrors⟩
  induction hsize : sizeOf js using Nat.strong_induction_on generalizing js with
  | _ size ih =>
      intro hmirrors
      cases htype : memberString js tslKeyType with
      | none =>
          rw [parseSchema, htype] at hmirrors
          have hsome := (memberString_eq_some_iff _ _ _).mpr hmirrors.typeName
          rw [htype] at hsome
          cases hsome
      | some typeName =>
          by_cases hbool : typeName = tslKeyDataBoolean
          · subst hbool
            rw [parseSchema_bool htype] at hmirrors
            exact .bool ((parsePropKey_mirrors_iff _ _).mp hmirrors)
          by_cases hinteger : typeName = tslKeyDataInteger
          · subst hinteger
            rw [parseSchema_integer htype] at hmirrors
            exact .integer ((parsePropKey_mirrors_iff _ _).mp hmirrors.1)
              ((parseInteger_mirrors_iff _).mp hmirrors.2)
          by_cases hnumber : typeName = tslKeyDataNumber
          · subst hnumber
            rw [parseSchema_number htype] at hmirrors
            exact .number ((parsePropKey_mirrors_iff _ _).mp hmirrors.1)
              ((parseNumber_mirrors_iff _).mp hmirrors.2)
          by_cases hstring : typeName = tslKeyDataString
          · subst hstring
            rw [parseSchema_string htype] at hmirrors
            exact .string ((parsePropKey_mirrors_iff _ _).mp hmirrors.1)
              ((parseString_mirrors_iff _).mp hmirrors.2)
          by_cases harray : typeName = tslKeyDataArray
          · subst harray
            refine schemaFits_of_array htype ?_ hmirrors
            intro item hitem
            have hlt := BscJson.sizeOf_getObjectItem_lt hitem
            exact ih _ (hsize ▸ hlt) item rfl
          by_cases hobject : typeName = tslKeyDataObject
          · subst hobject
            refine schemaFits_of_object htype ?_ hmirrors
            intro item hmem
            have hlt := sizeOf_lt_of_mem_memberArray hmem
            exact ih _ (hsize ▸ hlt) item rfl
          · rw [parseSchema, htype] at hmirrors
            dsimp only at hmirrors
            rw [if_neg hstring, if_neg hbool, if_neg hinteger, if_neg hnumber,
              if_neg hobject, if_neg harray] at hmirrors
            exact hmirrors.elim

end EziotSdk

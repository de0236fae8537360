import EziotSdk.TslSchema

/-!
# Schema documents

What a schema document declares, apart from how it is stored: a constraint is
absent or has a value.  A leaf reads from a JSON object when each keyword it
declares is a member with that value and each keyword it does not declare is
absent; a schema is read from every JSON value.  `parse_schema` stores the
descriptor of what is read.
-/

namespace EziotSdk

/-- The member is absent, or a 32-bit integer. -/
def DeclaresInt (js : BscJson) (key : CString) : Option ℤ → Prop
  | none => js.getObjectItem key = none
  | some value =>
      js.getObjectItem key = some (.number value) ∧
        BscJson.intMin ≤ value ∧ value ≤ BscJson.intMax

def DeclaresInts (js : BscJson) (key : CString) : Option (List ℤ) → Prop
  | none => js.getObjectItem key = none
  | some values =>
      js.getObjectItem key =
          some (.array
            (values.map fun value : ℤ => BscJson.number (value : ℚ))) ∧
        ∀ value ∈ values, BscJson.intMin ≤ value ∧ value ≤ BscJson.intMax

def DeclaresStrings (js : BscJson) (key : CString) :
    Option (List CString) → Prop
  | none => js.getObjectItem key = none
  | some values =>
      js.getObjectItem key = some (.array (values.map .string))

theorem DeclaresInt.memberInt_eq
    {js : BscJson} {key : CString} {value : Option ℤ}
    (hdeclares : DeclaresInt js key value) : memberInt js key = value := by
  cases value with
  | none =>
      simp only [DeclaresInt] at hdeclares
      simp [memberInt, memberNumber, hdeclares]
  | some value =>
      obtain ⟨hitem, hmin, hmax⟩ := hdeclares
      simp [memberInt, memberNumber, hitem,
        BscJson.saturate_intCast hmin hmax]

theorem DeclaresInt.memberNumber_eq_none
    {js : BscJson} {key : CString} {value : Option ℤ}
    (hdeclares : DeclaresInt js key value) :
    memberNumber js key = none ↔ value = none := by
  cases value with
  | none =>
      simp only [DeclaresInt] at hdeclares
      simp [memberNumber, hdeclares]
  | some value => simp [memberNumber, hdeclares.1]

theorem DeclaresStrings.copyNames_eq
    {js : BscJson} {key : CString} {values : Option (List CString)}
    (hdeclares : DeclaresStrings js key values) :
    copyNames ((memberArray js key).getD []) =
      (values.getD []).map fun name => CString.strncpy name maxNameLength := by
  cases values with
  | none =>
      simp only [DeclaresStrings] at hdeclares
      simp [memberArray, copyNames, hdeclares]
  | some values =>
      simp only [DeclaresStrings] at hdeclares
      simp [memberArray, copyNames, hdeclares, BscJson.valuestring]

/-! ## Integer and string schemas -/

structure IntDoc where
  enum : Option (List ℤ)
  multipleOf : Option ℤ
  minimum : Option ℤ
  maximum : Option ℤ
  exclusiveMinimum : Option ℤ
  exclusiveMaximum : Option ℤ
  deriving DecidableEq, Repr

structure StringDoc where
  enum : Option (List CString)
  minLength : Option ℤ
  maxLength : Option ℤ
  deriving DecidableEq, Repr

structure IntDoc.Reads (doc : IntDoc) (js : BscJson) : Prop where
  type_eq : memberString js tslKeyType = some tslKeyDataInteger
  enum : DeclaresInts js tslKeyEnum doc.enum
  multipleOf : DeclaresInt js tslKeyMultiple doc.multipleOf
  minimum : DeclaresInt js tslKeyMinimum doc.minimum
  maximum : DeclaresInt js tslKeyMaximum doc.maximum
  exclusiveMinimum :
    DeclaresInt js tslKeyExclusiveMinimum doc.exclusiveMinimum
  exclusiveMaximum :
    DeclaresInt js tslKeyExclusiveMaximum doc.exclusiveMaximum

structure StringDoc.Reads (doc : StringDoc) (js : BscJson) : Prop where
  type_eq : memberString js tslKeyType = some tslKeyDataString
  enum : DeclaresStrings js tslKeyEnum doc.enum
  minLength : DeclaresInt js tslKeyMinlength doc.minLength
  maxLength : DeclaresInt js tslKeyMaxlength doc.maxLength

def IntDoc.desc (doc : IntDoc) : TypeInteger where
  minimum := doc.minimum.getD 0
  exminimum :=
    if doc.minimum = none then doc.exclusiveMinimum.getD 0 else 0
  maximum := doc.maximum.getD 0
  exmaximum :=
    if doc.maximum = none then doc.exclusiveMaximum.getD 0 else 0
  multiple := doc.multipleOf.getD 0
  intEnum := doc.enum.getD []

def StringDoc.desc (doc : StringDoc) : TypeString where
  minLen := doc.minLength.getD 0
  maxLen := doc.maxLength.getD 0
  strEnum :=
    (doc.enum.getD []).map fun name => CString.strncpy name maxNameLength

theorem DeclaresInts.parse_eq
    {js : BscJson} {key : CString} {values : Option (List ℤ)}
    (hdeclares : DeclaresInts js key values) :
    ((memberArray js key).getD []).map intEnumItem = values.getD [] := by
  cases values with
  | none =>
      simp only [DeclaresInts] at hdeclares
      simp [memberArray, hdeclares]
  | some values =>
      obtain ⟨hitem, hrange⟩ := hdeclares
      simp only [memberArray, hitem, Option.getD_some, List.map_map]
      refine (List.map_congr_left ?_).trans (List.map_id _)
      intro value hmem
      obtain ⟨hmin, hmax⟩ := hrange value hmem
      exact BscJson.saturate_intCast hmin hmax

theorem IntDoc.Reads.parseInteger_eq
    {doc : IntDoc} {js : BscJson} (hreads : doc.Reads js) :
    parseInteger js = doc.desc := by
  have henum := hreads.enum.parse_eq
  simp only [parseInteger, IntDoc.desc, hreads.minimum.memberInt_eq,
    hreads.maximum.memberInt_eq, hreads.exclusiveMinimum.memberInt_eq,
    hreads.exclusiveMaximum.memberInt_eq, hreads.multipleOf.memberInt_eq,
    hreads.minimum.memberNumber_eq_none, hreads.maximum.memberNumber_eq_none,
    henum]

theorem StringDoc.Reads.parseString_eq
    {doc : StringDoc} {js : BscJson} (hreads : doc.Reads js) :
    parseString js = doc.desc := by
  simp only [parseString, StringDoc.desc, hreads.minLength.memberInt_eq,
    hreads.maxLength.memberInt_eq, hreads.enum.copyNames_eq]

/-- The descriptor of an integer schema, whatever its key. -/
theorem IntDoc.Reads.parseSchema_eq
    {doc : IntDoc} {js : BscJson} (hreads : doc.Reads js) :
    parseSchema js = (.succ, .integer (parsePropKey js) doc.desc) := by
  rw [parseSchema, hreads.type_eq]
  simp [tslKeyDataString, tslKeyDataBoolean, tslKeyDataInteger,
    hreads.parseInteger_eq]

theorem StringDoc.Reads.parseSchema_eq
    {doc : StringDoc} {js : BscJson} (hreads : doc.Reads js) :
    parseSchema js = (.succ, .string (parsePropKey js) doc.desc) := by
  rw [parseSchema, hreads.type_eq]
  simp [hreads.parseString_eq]

/-! ## Schemas -/

/-- A schema of neither array nor object type, kept as it stands. -/
structure LeafDoc where
  json : BscJson
  typeName : CString
  type_eq : memberString json tslKeyType = some typeName
  not_array : typeName ≠ tslKeyDataArray
  not_object : typeName ≠ tslKeyDataObject

/-- What a schema declares.  A schema without a type, and an array without a
schema of its items, leave open what a value or an item is. -/
inductive SchemaDoc where
  | untyped (key : Option CString)
  | leaf (doc : LeafDoc)
  | anyArray (key : Option CString) (minItems maxItems : Option ℚ)
  | array (key : Option CString) (minItems maxItems : Option ℚ)
      (item : SchemaDoc)
  | object (key : Option CString) (minProperties maxProperties : Option ℚ)
      (required : List (Option CString)) (properties : List SchemaDoc)

namespace SchemaDoc

/-- A property of the children of an object is all that a step over the
nested lists needs. -/
@[elab_as_elim] theorem inductionOn
    {motive : SchemaDoc → Prop} (doc : SchemaDoc)
    (untyped : ∀ key, motive (.untyped key))
    (leaf : ∀ doc, motive (.leaf doc))
    (anyArray : ∀ key minItems maxItems,
      motive (.anyArray key minItems maxItems))
    (array : ∀ key minItems maxItems item, motive item →
      motive (.array key minItems maxItems item))
    (object : ∀ key minProperties maxProperties required properties,
      (∀ child ∈ properties, motive child) →
        motive (.object key minProperties maxProperties required properties)) :
    motive doc := by
  apply SchemaDoc.rec (motive_1 := motive)
    (motive_2 := fun properties => ∀ child ∈ properties, motive child)
  · exact untyped
  · exact leaf
  · exact anyArray
  · exact array
  · exact object
  · intro child hmem
    cases hmem
  · intro child rest hchild hrest other hmem
    cases hmem with
    | head => exact hchild
    | tail _ hmem => exact hrest other hmem

/-- The schema that a JSON value is read as.  An entry of a list of properties
that is no object declares none; a required name is a string. -/
def ofJson (js : BscJson) : SchemaDoc :=
  match htype : memberString js tslKeyType with
  | none => .untyped (memberString js tslKeyDataKey)
  | some typeName =>
      if harray : typeName = tslKeyDataArray then
        match _hitems : js.getObjectItem tslKeyItems with
        | some (.object members) =>
            .array (memberString js tslKeyDataKey)
              (memberNumber js tslKeyMinItems) (memberNumber js tslKeyMaxItems)
              (ofJson (.object members))
        | _ =>
            .anyArray (memberString js tslKeyDataKey)
              (memberNumber js tslKeyMinItems) (memberNumber js tslKeyMaxItems)
      else if hobject : typeName = tslKeyDataObject then
        .object (memberString js tslKeyDataKey)
          (memberNumber js tslKeyMaxProperties)
          (memberNumber js tslKeyMinProperties)
          (((memberArray js tslKeyRequired).getD []).map BscJson.valuestring)
          (match _hprop : js.getObjectItem tslKeySchemaProperties with
          | some (.array items) =>
              items.attach.map fun item =>
                match _hitem : item.1 with
                | .object members => ofJson (.object members)
                | _ => .untyped none
          | _ => [])
      else .leaf ⟨js, typeName, htype, harray, hobject⟩
termination_by sizeOf js
decreasing_by
  · exact BscJson.sizeOf_getObjectItem_lt _hitems
  · have hprops := BscJson.sizeOf_getObjectItem_lt _hprop
    have hmem := item.2
    rw [_hitem] at hmem
    have hlt := List.sizeOf_lt_of_mem hmem
    simp only [BscJson.array.sizeOf_spec] at hprops
    omega

def key : SchemaDoc → Option CString
  | .untyped key => key
  | .leaf doc => memberString doc.json tslKeyDataKey
  | .anyArray key _ _ => key
  | .array key _ _ _ => key
  | .object key _ _ _ _ => key

/-- The key as the parser keeps it; it does not read that of a schema without
a type. -/
def storedKey : SchemaDoc → CString
  | .untyped _ => []
  | doc => CString.strncpy (doc.key.getD []) maxNameLength

/-- A limit as the parser keeps it. -/
def storedLimit (limit : Option ℚ) : ℤ := (limit.map BscJson.saturate).getD 0

mutual

/-- The descriptor of a schema.  The parser takes the keywords of the two
limits of an object for each other. -/
def desc : SchemaDoc → TslSchemaDesc
  | .untyped _ => .zero
  | .leaf doc => (parseSchema doc.json).2
  | .anyArray key minItems maxItems =>
      .array (CString.strncpy (key.getD []) maxNameLength)
        (storedLimit minItems) (storedLimit maxItems) []
  | .array key minItems maxItems item =>
      .array (CString.strncpy (key.getD []) maxNameLength)
        (storedLimit minItems) (storedLimit maxItems) [item.desc]
  | .object key minProperties maxProperties required properties =>
      .object (CString.strncpy (key.getD []) maxNameLength)
        (storedLimit minProperties) (storedLimit maxProperties)
        (required.map fun name =>
          CString.strncpy (name.getD []) maxNameLength)
        (descs properties)

def descs : List SchemaDoc → List TslSchemaDesc
  | [] => []
  | doc :: rest => doc.desc :: descs rest

end

theorem descs_eq_map (docs : List SchemaDoc) :
    descs docs = docs.map desc := by
  induction docs with
  | nil => rfl
  | cons doc rest ih => rw [descs, ih, List.map_cons]

end SchemaDoc

theorem LeafDoc.parseSchema_spec (doc : LeafDoc) :
    (parseSchema doc.json).1 = .succ ∧
      (parseSchema doc.json).2.propKey = parsePropKey doc.json ∧
      (parseSchema doc.json).2.IsLeaf := by
  rw [parseSchema, doc.type_eq]
  have harray := doc.not_array
  have hobject := doc.not_object
  dsimp only
  split_ifs <;> exact ⟨rfl, rfl, trivial⟩

/-! ## What the parser makes of a schema -/

theorem memberObject_eq_some_iff
    (js : BscJson) (key : CString) (item : BscJson) :
    memberObject js key = some item ↔
      js.getObjectItem key = some item ∧ ∃ members, item = .object members := by
  unfold memberObject
  cases js.getObjectItem key with
  | none => simp
  | some found => cases found <;> simp <;> grind

theorem memberObject_eq_none {js : BscJson} {key : CString}
    (hother : ∀ members, js.getObjectItem key ≠ some (.object members)) :
    memberObject js key = none := by
  cases hitem : memberObject js key with
  | none => rfl
  | some item =>
      obtain ⟨hfound, members, rfl⟩ :=
        (memberObject_eq_some_iff js key item).mp hitem
      exact absurd hfound (hother members)

/-- An entry of a list of properties that is no object leaves its cell zeroed. -/
def propertyDesc : BscJson → TslSchemaDesc
  | .object members => (parseSchema (.object members)).2
  | _ => .zero

theorem parseSchema_object {js : BscJson}
    (htype : memberString js tslKeyType = some tslKeyDataObject) :
    parseSchema js =
      (.succ,
        .object (parsePropKey js) ((memberInt js tslKeyMaxProperties).getD 0)
          ((memberInt js tslKeyMinProperties).getD 0)
          (copyNames ((memberArray js tslKeyRequired).getD []))
          (((memberArray js tslKeySchemaProperties).getD []).map
            propertyDesc)) := by
  rw [parseSchema, htype]
  dsimp only
  rw [if_neg (by decide), if_neg (by decide), if_neg (by decide),
    if_neg (by decide), if_pos rfl]
  congr 2
  unfold memberArray
  split
  · next items hitems =>
      rw [hitems, Option.getD_some]
      refine Eq.trans ?_ List.attach_map_val
      apply List.map_congr_left
      intro item _
      split
      · next hitem => rw [hitem]; rfl
      · next hother => exact (propertyDesc.eq_2 _ hother).symm
  · next hother =>
      split
      · next items hitems => exact absurd hitems (hother items)
      · rfl

theorem parseSchema_array {js : BscJson}
    (htype : memberString js tslKeyType = some tslKeyDataArray) :
    parseSchema js =
      match memberObject js tslKeyItems with
      | some item =>
          (.succ,
            .array (parsePropKey js) ((memberInt js tslKeyMinItems).getD 0)
              ((memberInt js tslKeyMaxItems).getD 0) [(parseSchema item).2])
      | none =>
          (.paramInvalid,
            .array (parsePropKey js) ((memberInt js tslKeyMinItems).getD 0)
              ((memberInt js tslKeyMaxItems).getD 0) []) := by
  rw [parseSchema, htype]
  dsimp only
  rw [if_neg (by decide), if_neg (by decide), if_neg (by decide),
    if_neg (by decide), if_neg (by decide), if_pos rfl]
  unfold memberObject
  split
  · next members hitems => rw [hitems]
  · next hother =>
      split
      · next hfound =>
          split at hfound
          · next members hitems => exact absurd hitems (hother members)
          · cases hfound
      · rfl

namespace SchemaDoc

/-- The parser stores the descriptor of the schema. -/
theorem parseSchema_desc (js : BscJson) :
    (parseSchema js).2 = (ofJson js).desc := by
  fun_induction ofJson js with
  | case1 js htype => rw [parseSchema, htype]; rfl
  | case2 js members hitems htype ih =>
      have hitem : memberObject js tslKeyItems = some (.object members) :=
        (memberObject_eq_some_iff _ _ _).mpr ⟨hitems, members, rfl⟩
      rw [parseSchema_array htype, hitem]
      simp only [desc, ih]
      rfl
  | case3 js hother htype =>
      rw [parseSchema_array htype, memberObject_eq_none hother]
      rfl
  | case4 js htype hobject ih =>
      rw [parseSchema_object htype, desc, descs_eq_map,
        TslSchemaDesc.object.injEq]
      refine ⟨rfl, rfl, rfl, by simp [copyNames], ?_⟩
      unfold memberArray
      split
      · next items hitems =>
          rw [hitems, Option.getD_some, List.map_map]
          refine (@List.attach_map_val _ _ items propertyDesc).symm.trans ?_
          apply List.map_congr_left
          intro item _
          rw [Function.comp_apply]
          split
          · next members hitem =>
              rw [hitem]
              exact ih items hitems item members hitem
          · next hother => exact propertyDesc.eq_2 _ hother
      · next hother =>
          split
          · next items hitems => exact absurd hitems (hother items)
          · rfl
  | case5 js typeName htype harray hobject => rfl

end SchemaDoc

end EziotSdk

import EziotSdk.TslDocument
import EziotSdk.TslValueCheck

/-!
# Arrays and objects

What a schema says about the tree of an array or of an object, at every level,
and what the check of its text looks at.  The check goes down by printing each
container and reading it again.  What it means for a value to match a leaf is
left open here: the results hold for every such meaning.  The rounding of a
decimal to a `double` and the floating-point test for multiples are parameters,
too.
-/

namespace EziotSdk
namespace SchemaDoc

/-! ## What a schema describes -/

def Within (minimum maximum : Option ℚ) (count : ℕ) : Prop :=
  (∀ limit ∈ minimum, limit ≤ count) ∧
    ∀ limit ∈ maximum, (count : ℚ) ≤ limit

mutual

/-- The tree is what the schema describes, at every level. -/
def Matches (leafMatches : LeafDoc → BscJson → Prop) :
    SchemaDoc → BscJson → Prop
  | .untyped _, _ => True
  | .leaf doc, node => leafMatches doc node
  | .anyArray _ minItems maxItems, node =>
      ∃ items, node = .array items ∧ Within minItems maxItems items.length
  | .array _ minItems maxItems item, node =>
      ∃ items, node = .array items ∧ Within minItems maxItems items.length ∧
        ∀ element ∈ items, item.Matches leafMatches element
  | .object _ minProperties maxProperties required properties, node =>
      ∃ members, node = .object members ∧
        Within minProperties maxProperties members.length ∧
        (∀ name, some name ∈ required → ∃ value, (name, value) ∈ members) ∧
        ∀ member ∈ members,
          MatchesOwn leafMatches properties member.1 member.2

/-- The first child that is declared under the name matches. -/
def MatchesOwn (leafMatches : LeafDoc → BscJson → Prop) :
    List SchemaDoc → CString → BscJson → Prop
  | [], _, _ => False
  | child :: rest, name, node =>
      if child.key = some name then child.Matches leafMatches node
      else MatchesOwn leafMatches rest name node

end

/-! ## What the check looks at -/

/-- A codec for the check of a leaf, which neither parses nor prints. -/
def leafCodec (isMultiple : ℚ → ℚ → Bool) : TslCodec :=
  { TslCodec.scalarsOnly with isMultiple := isMultiple }

/-- The check of a leaf accepts the value, if there is one. -/
def LeafAccepts (isMultiple : ℚ → ℚ → Bool) (doc : LeafDoc)
    (value : Option TslValue) : Prop :=
  ∃ element, value = some element ∧
    checkSchemaValue (leafCodec isMultiple) (parseSchema doc.json).2 element =
      some .succ

/-- Two non-zero ordered limits of an array: the count is held against the
lower one from above.  Other limits are not looked at. -/
def ItemsCounted (minItems maxItems : Option ℚ) (count : ℕ) : Prop :=
  storedLimit minItems ≠ 0 ∧ storedLimit maxItems ≠ 0 ∧
      storedLimit minItems ≤ storedLimit maxItems →
    (count : ℤ) ≤ storedLimit minItems

/-- The limits of an object count only when both are not zero and they stand
in the wrong order, or are one number. -/
def PropertiesCounted (minProperties maxProperties : Option ℚ)
    (count : ℕ) : Prop :=
  storedLimit maxProperties ≠ 0 ∧ storedLimit minProperties ≠ 0 ∧
      storedLimit maxProperties ≤ storedLimit minProperties →
    storedLimit maxProperties ≤ count ∧
      (count : ℤ) ≤ storedLimit minProperties

/-- What the check of an element or of a member is made on.  A container is
printed and read again, with the numbers that are printed, if each of them
has a text. -/
def handed (nearest : ℚ → ℚ) (node : BscJson) : Option BscJson :=
  match node with
  | .array _ => (BscJson.printValue false 0 node).map
      fun _ => node.reparsed nearest
  | .object _ => (BscJson.printValue false 0 node).map
      fun _ => node.reparsed nearest
  | _ => some node

mutual

/-- The tests that are made of a tree.  A schema without a type takes booleans
and `null`; for a leaf, `null` is the boolean false and an end of the `int`
range a double.  Required names are cut to 31 characters and looked up without
regard to case, and a member is held against the first child whose key, cut to
31 characters, is its name. -/
def Tested (nearest : ℚ → ℚ) (isMultiple : ℚ → ℚ → Bool) :
    SchemaDoc → BscJson → Prop
  | .untyped _, node => node = .null ∨ ∃ value, node = .bool value
  | .leaf doc, node =>
      LeafAccepts isMultiple doc
        (tranformValueFromJson TslCodec.scalarsOnly node)
  | .anyArray _ minItems maxItems, node =>
      ∃ items, node = .array items ∧
        ItemsCounted minItems maxItems items.length ∧
        ∀ element ∈ items, handed nearest element ≠ none
  | .array _ minItems maxItems item, node =>
      ∃ items, node = .array items ∧
        ItemsCounted minItems maxItems items.length ∧
        ∀ element ∈ items, ∃ seen, handed nearest element = some seen ∧
          item.Tested nearest isMultiple seen
  | .object _ minProperties maxProperties required properties, node =>
      ∃ members, node = .object members ∧
        PropertiesCounted minProperties maxProperties members.length ∧
        (∀ name ∈ required, ∃ member ∈ members,
          CString.caseInsensitiveEq
            (CString.strncpy (name.getD []) maxNameLength) member.1) ∧
        ∀ member ∈ members, ∃ seen, handed nearest member.2 = some seen ∧
          TestedOwn nearest isMultiple properties member.1 seen

def TestedOwn (nearest : ℚ → ℚ) (isMultiple : ℚ → ℚ → Bool) :
    List SchemaDoc → CString → BscJson → Prop
  | [], _, _ => False
  | child :: rest, name, seen =>
      if child.storedKey = name then child.Tested nearest isMultiple seen
      else TestedOwn nearest isMultiple rest name seen

end

/-- A text of another type is turned away by the count, by a required name, or
at its first element when that is not handed on or no child is declared. -/
def OtherRejected (nearest : ℚ → ℚ) (minProperties maxProperties : Option ℚ)
    (required : List (Option CString)) (properties : List SchemaDoc)
    (root : BscJson) : Prop :=
  ¬PropertiesCounted minProperties maxProperties root.getArraySize ∨
    required ≠ [] ∨
    ∃ first, root.getArrayItem 0 = some first ∧
      (handed nearest first.2 = none ∨ properties = [])

def storedChild (properties : List SchemaDoc) (name : CString) :
    Option SchemaDoc :=
  properties.find? fun child => child.storedKey == name

theorem testedOwn_iff (nearest : ℚ → ℚ) (isMultiple : ℚ → ℚ → Bool)
    (properties : List SchemaDoc) (name : CString) (seen : BscJson) :
    TestedOwn nearest isMultiple properties name seen ↔
      ∃ child, storedChild properties name = some child ∧
        child.Tested nearest isMultiple seen := by
  induction properties with
  | nil => simp [TestedOwn, storedChild]
  | cons child rest ih =>
      rw [TestedOwn]
      by_cases hkey : child.storedKey = name
      · simp [storedChild, hkey]
      · rw [if_neg hkey, ih]
        simp [storedChild, hkey]

/-! ## The check of a level -/

/-- The check of an element or a member, with its conversion. -/
def checkNode (codec : TslCodec) (doc : SchemaDoc) (node : BscJson) :
    Option TslErrno :=
  match tranformValueFromJson codec node with
  | none => some .valueIllegal
  | some element => checkSchemaValue codec doc.desc element

theorem propKey_desc (doc : SchemaDoc) : doc.desc.propKey = doc.storedKey := by
  cases doc with
  | untyped key => rw [desc]; rfl
  | leaf doc => rw [desc, doc.parseSchema_spec.2.1]; rfl
  | anyArray key minItems maxItems => rw [desc]; rfl
  | array key minItems maxItems item => rw [desc]; rfl
  | object key minProperties maxProperties required properties =>
      rw [desc]; rfl

theorem checkArrayItems_eq
    (codec : TslCodec) (item : SchemaDoc) (nodes : List BscJson) :
    checkArrayItems codec (childChecks codec [item.desc]) nodes =
      firstFailure (nodes.map (checkNode codec item)) := by
  induction nodes with
  | nil => rfl
  | cons node rest ih =>
      rw [checkArrayItems, List.map_cons, firstFailure, ← ih, checkNode]
      cases htransform : tranformValueFromJson codec node with
      | none => simp
      | some element => simp [childChecks, checkItemSchemas]

/-- Without a schema of the items only their conversions can fail. -/
theorem checkArrayItems_nil_decides (codec : TslCodec)
    (nodes : List BscJson) :
    Decides (checkArrayItems codec [] nodes)
      (∀ node ∈ nodes, tranformValueFromJson codec node ≠ none) := by
  induction nodes with
  | nil => simp [checkArrayItems]
  | cons node rest ih =>
      rw [checkArrayItems]
      cases htransform : tranformValueFromJson codec node with
      | none => simp [htransform]
      | some element =>
          simp only [checkItemSchemas, Option.bind_some, if_true,
            List.forall_mem_cons, htransform, ne_eq, reduceCtorEq,
            not_false_eq_true, true_and]
          exact ih

/-- The check of a member: the first child with its name as the stored key. -/
def checkOwn (codec : TslCodec) (properties : List SchemaDoc)
    (member : CString × BscJson) : Option TslErrno :=
  match storedChild properties member.1 with
  | none => some .valueIllegal
  | some child => checkNode codec child member.2

theorem checkMember_eq
    (codec : TslCodec) (properties : List SchemaDoc)
    (name : CString) (value : TslValue) :
    checkMember (childChecks codec (descs properties)) (some name) value =
      match storedChild properties name with
      | none => some .valueIllegal
      | some child => checkSchemaValue codec child.desc value := by
  have hfind :
      (childChecks codec (descs properties)).find?
          (fun check => check.1 == name) =
        (storedChild properties name).map fun child =>
          (child.storedKey, checkSchemaValue codec child.desc) := by
    rw [childChecks_eq_map, descs_eq_map, List.map_map, List.find?_map,
      storedChild]
    simp only [Function.comp_def, propKey_desc]
  cases properties with
  | nil => rfl
  | cons child rest =>
      rw [checkMember]
      · rw [hfind]
        cases storedChild (child :: rest) name <;> rfl
      · simp [descs, childChecks]

theorem checkObjectMembers_eq
    (codec : TslCodec) (properties : List SchemaDoc)
    (members : List (CString × BscJson)) :
    checkObjectMembers codec (childChecks codec (descs properties))
        (members.map fun member => (some member.1, member.2)) =
      firstFailure (members.map (checkOwn codec properties)) := by
  induction members with
  | nil => rfl
  | cons member rest ih =>
      rw [List.map_cons, checkObjectMembers, List.map_cons, firstFailure,
        ← ih, checkOwn]
      cases htransform : tranformValueFromJson codec member.2 with
      | none =>
          cases storedChild properties member.1 <;>
            simp [checkNode, htransform]
      | some element =>
          dsimp only
          rw [checkMember_eq]
          cases storedChild properties member.1 <;>
            simp [checkNode, htransform]

theorem checkSchemaValue_array_items
    (codec : TslCodec) (key : CString) (minItems maxItems : Option ℚ)
    (schemas : List TslSchemaDesc) {text : CString} {items : List BscJson}
    (hparse : codec.parse text = some (.array items)) :
    checkSchemaValue codec
        (.array key (storedLimit minItems) (storedLimit maxItems) schemas)
        (.array text) =
      open Classical in
      if ItemsCounted minItems maxItems items.length then
        checkArrayItems codec (childChecks codec schemas) items
      else some .valueIllegal := by
  rw [checkSchemaValue, checkArrayValue, hparse]
  simp only [or_self]
  by_cases hcounted : ItemsCounted minItems maxItems items.length
  · rw [if_pos hcounted, if_neg]
    rintro ⟨hboth, hover⟩
    exact absurd (hcounted hboth) (not_le.mpr hover)
  · rw [if_neg hcounted, if_pos]
    unfold ItemsCounted at hcounted
    push Not at hcounted
    exact hcounted

theorem not_propertiesCounted_iff
    (minProperties maxProperties : Option ℚ) (count : ℕ) :
    ¬PropertiesCounted minProperties maxProperties count ↔
      (storedLimit maxProperties ≠ 0 ∧ storedLimit minProperties ≠ 0 ∧
          storedLimit maxProperties ≤ storedLimit minProperties) ∧
        ((count : ℤ) < storedLimit maxProperties ∨
          storedLimit minProperties < count) := by
  unfold PropertiesCounted
  constructor
  · intro hnot
    push Not at hnot
    obtain ⟨hboth, hbounds⟩ := hnot
    refine ⟨hboth, ?_⟩
    by_cases hlow : storedLimit maxProperties ≤ count
    · exact .inr (hbounds hlow)
    · exact .inl (by omega)
  · rintro ⟨hboth, hbounds⟩ hcounted
    have hinside := hcounted hboth
    omega

/-- The three tests of an object, after the text is parsed. -/
theorem checkSchemaValue_object_root
    (codec : TslCodec) (key : Option CString)
    (minProperties maxProperties : Option ℚ)
    (required : List (Option CString)) (properties : List SchemaDoc)
    {text : CString} {root : BscJson} (hparse : codec.parse text = some root) :
    checkSchemaValue codec
        (SchemaDoc.object key minProperties maxProperties required
          properties).desc (.object text) =
      open Classical in
      if ¬PropertiesCounted minProperties maxProperties root.getArraySize then
        some .valueIllegal
      else if ∃ name ∈ required, root.getObjectItem
          (CString.strncpy (name.getD []) maxNameLength) = none then
        some .valueIllegal
      else
        checkObjectMembers codec (childChecks codec (descs properties))
          root.children := by
  rw [desc, checkSchemaValue, checkObjectValue, hparse]
  simp only [not_propertiesCounted_iff]
  congr 1
  simp [List.any_map]

/-! ## The check decides the tests -/

variable (nearest : ℚ → ℚ) (isMultiple : ℚ → ℚ → Bool)

theorem checkSchemaValue_leafCodec {schema : TslSchemaDesc}
    (hleaf : schema.IsLeaf) (value : TslValue) :
    checkSchemaValue (TslCodec.bscJson nearest isMultiple) schema value =
      checkSchemaValue (leafCodec isMultiple) schema value := by
  cases schema with
  | array key minItem maxItem itemProp => exact absurd hleaf id
  | object key maxProps minProps required property => exact absurd hleaf id
  | number key typeNumber => cases value <;> rfl
  | bool key => cases value <;> simp [checkSchemaValue]
  | integer key typeInteger => cases value <;> simp [checkSchemaValue]
  | string key typeString => cases value <;> simp [checkSchemaValue]
  | max key => cases value <;> simp [checkSchemaValue]

/-- A leaf check of a converted value is defined: no value is the lower end of
the `int` range. -/
theorem leaf_check_ne_none (codec : TslCodec) (doc : LeafDoc)
    {node : BscJson} {element : TslValue}
    (hconverted : tranformValueFromJson TslCodec.scalarsOnly node =
      some element) :
    checkSchemaValue codec (parseSchema doc.json).2 element ≠ none := by
  rw [ne_eq, checkSchemaValue_leaf_eq_none_iff codec
    doc.parseSchema_spec.2.2]
  rintro ⟨key, typeInteger, number, -, rfl, -, hmin, -⟩
  cases node with
  | number value =>
      rw [tranformValueFromJson] at hconverted
      split at hconverted
      · next hall =>
          have hnumber := TslValue.int.inj (Option.some.inj hconverted)
          exact hall.2.2 (by rw [hnumber, hmin])
      · cases hconverted
  | array items => cases hconverted
  | object members => cases hconverted
  | null => cases hconverted
  | bool value => cases hconverted
  | string value => cases hconverted

/-- A leaf turns every container away. -/
theorem leaf_check_container (codec : TslCodec) (doc : LeafDoc)
    {value : TslValue}
    (hvalue : (∃ text, value = .array text) ∨ ∃ text, value = .object text) :
    checkSchemaValue codec (parseSchema doc.json).2 value =
      some .valueType := by
  have hleaf := doc.parseSchema_spec.2.2
  generalize (parseSchema doc.json).2 = schema at hleaf
  rcases hvalue with ⟨text, rfl⟩ | ⟨text, rfl⟩
  · cases schema with
    | array key minItem maxItem itemProp => exact absurd hleaf id
    | object key maxProps minProps required property => exact absurd hleaf id
    | _ => simp [checkSchemaValue]
  · cases schema with
    | array key minItem maxItem itemProp => exact absurd hleaf id
    | object key maxProps minProps required property => exact absurd hleaf id
    | _ => simp [checkSchemaValue]

/-- The check of a node comes out as the tests of what it is made on do. -/
def NodeDecided (doc : SchemaDoc) (node : BscJson) : Prop :=
  Decides (checkNode (TslCodec.bscJson nearest isMultiple) doc node)
    (∃ seen, handed nearest node = some seen ∧
      doc.Tested nearest isMultiple seen)

variable {nearest isMultiple}

theorem handed_ne_none_iff (node : BscJson) :
    handed nearest node ≠ none ↔
      tranformValueFromJson (TslCodec.bscJson nearest isMultiple) node ≠
        none := by
  cases node with
  | array items =>
      simp [handed, tranformValueFromJson, TslCodec.bscJson]
  | object members =>
      simp [handed, tranformValueFromJson, TslCodec.bscJson]
  | number value =>
      simp only [handed, tranformValueFromJson]
      split_ifs <;> simp
  | null => simp [handed, tranformValueFromJson]
  | bool value => simp [handed, tranformValueFromJson]
  | string value => simp [handed, tranformValueFromJson]

theorem decides_array_value {key : Option CString}
    {minItems maxItems : Option ℚ} {item : SchemaDoc} {text : CString}
    {items : List BscJson}
    (hparse : BscJson.parse nearest text = some (.array items))
    (hitems : ∀ node ∈ items, NodeDecided nearest isMultiple item node) :
    Decides (checkSchemaValue (TslCodec.bscJson nearest isMultiple)
        (SchemaDoc.array key minItems maxItems item).desc (.array text))
      ((SchemaDoc.array key minItems maxItems item).Tested nearest isMultiple
        (.array items)) := by
  have hall := firstFailure_decides _ _ hitems
  rw [desc, checkSchemaValue_array_items _ _ minItems maxItems _
    (show (TslCodec.bscJson nearest isMultiple).parse text = _ from hparse),
    checkArrayItems_eq, Tested]
  split_ifs with hcounted
  · rw [hall.decides_iff]
    simp [hcounted]
  · rw [decides_some]
    simp [hcounted]

theorem decides_anyArray_value {key : Option CString}
    {minItems maxItems : Option ℚ} {text : CString} {items : List BscJson}
    (hparse : BscJson.parse nearest text = some (.array items)) :
    Decides (checkSchemaValue (TslCodec.bscJson nearest isMultiple)
        (SchemaDoc.anyArray key minItems maxItems).desc (.array text))
      ((SchemaDoc.anyArray key minItems maxItems).Tested nearest isMultiple
        (.array items)) := by
  have hall := checkArrayItems_nil_decides
    (TslCodec.bscJson nearest isMultiple) items
  rw [desc, checkSchemaValue_array_items _ _ minItems maxItems _
    (show (TslCodec.bscJson nearest isMultiple).parse text = _ from hparse),
    childChecks, Tested]
  simp only [@handed_ne_none_iff nearest isMultiple]
  split_ifs with hcounted
  · rw [hall.decides_iff]
    simp [hcounted]
  · rw [decides_some]
    simp [hcounted]

theorem checkOwn_decides {properties : List SchemaDoc}
    {member : CString × BscJson}
    (hchildren : ∀ child ∈ properties,
      NodeDecided nearest isMultiple child member.2) :
    Decides (checkOwn (TslCodec.bscJson nearest isMultiple) properties member)
      (∃ seen, handed nearest member.2 = some seen ∧
        TestedOwn nearest isMultiple properties member.1 seen) := by
  simp only [testedOwn_iff]
  rw [checkOwn]
  cases hstored : storedChild properties member.1 with
  | none => simp
  | some child =>
      have hdecided := hchildren child (List.mem_of_find?_eq_some hstored)
      simp only [Option.some.injEq, exists_eq_left']
      exact hdecided

/-- The check of an object whose members are decided. -/
theorem decides_object_value {key : Option CString}
    {minProperties maxProperties : Option ℚ}
    {required : List (Option CString)} {properties : List SchemaDoc}
    {text : CString} {members : List (CString × BscJson)}
    (hparse : BscJson.parse nearest text = some (.object members))
    (hmembers : ∀ member ∈ members, ∀ child ∈ properties,
      NodeDecided nearest isMultiple child member.2) :
    Decides
      (checkSchemaValue (TslCodec.bscJson nearest isMultiple)
        (SchemaDoc.object key minProperties maxProperties required
          properties).desc (.object text))
      ((SchemaDoc.object key minProperties maxProperties required
        properties).Tested nearest isMultiple (.object members)) := by
  have hall := firstFailure_decides
    (checkOwn (TslCodec.bscJson nearest isMultiple) properties) _
    fun member hmember => checkOwn_decides (hmembers member hmember)
  rw [← checkObjectMembers_eq] at hall
  rw [checkSchemaValue_object_root _ key minProperties maxProperties required
    properties
    (show (TslCodec.bscJson nearest isMultiple).parse text = _ from hparse),
    BscJson.getArraySize_object, BscJson.children_object, Tested]
  by_cases hcount :
      PropertiesCounted minProperties maxProperties members.length
  · rw [if_neg (not_not.mpr hcount)]
    simp only [BscJson.getObjectItem_object_eq_none_iff]
    by_cases habsent : ∃ name ∈ required, ∀ member ∈ members,
        ¬CString.caseInsensitiveEq
          (CString.strncpy (name.getD []) maxNameLength) member.1
    · rw [if_pos habsent, decides_some]
      obtain ⟨name, hname, hno⟩ := habsent
      simp only [reduceCtorEq, false_iff]
      rintro ⟨_, hsame, -, hrequired, -⟩
      cases hsame
      obtain ⟨member, hmem, hequal⟩ := hrequired name hname
      exact hno member hmem hequal
    · rw [if_neg habsent, hall.decides_iff]
      push Not at habsent
      constructor
      · exact fun hown => ⟨members, rfl, hcount, habsent, hown⟩
      · rintro ⟨_, hsame, -, -, hown⟩
        cases hsame
        exact hown
  · rw [if_pos hcount, decides_some]
    simp only [reduceCtorEq, false_iff]
    rintro ⟨_, hsame, hcounted, -⟩
    cases hsame
    exact hcount hcounted

/-- Every value that is the text of a container is decided. -/
structure ValuesDecided (nearest : ℚ → ℚ) (isMultiple : ℚ → ℚ → Bool)
    (doc : SchemaDoc) : Prop where
  array : ∀ text items, BscJson.parse nearest text = some (.array items) →
    Decides (checkSchemaValue (TslCodec.bscJson nearest isMultiple) doc.desc
        (.array text)) (doc.Tested nearest isMultiple (.array items))
  object : ∀ text members,
    BscJson.parse nearest text = some (.object members) →
    Decides (checkSchemaValue (TslCodec.bscJson nearest isMultiple) doc.desc
        (.object text)) (doc.Tested nearest isMultiple (.object members))

/-- A node that is no container is decided. -/
theorem nodeDecided_scalar (doc : SchemaDoc) {node : BscJson}
    (harray : ∀ items, node ≠ .array items)
    (hobject : ∀ members, node ≠ .object members) :
    NodeDecided nearest isMultiple doc node := by
  have hhanded : handed nearest node = some node := by
    cases node with
    | array items => exact absurd rfl (harray items)
    | object members => exact absurd rfl (hobject members)
    | _ => rfl
  have hconverted : ∃ element,
      tranformValueFromJson (TslCodec.bscJson nearest isMultiple) node =
          some element ∧
        tranformValueFromJson TslCodec.scalarsOnly node = some element ∧
        (∀ text, element ≠ .array text ∧ element ≠ .object text) ∧
        ∀ value, element = .bool value ↔
          node = .bool value ∨ (node = .null ∧ value = false) := by
    cases node with
    | array items => exact absurd rfl (harray items)
    | object members => exact absurd rfl (hobject members)
    | null => exact ⟨.bool false, rfl, rfl, by simp, by simp [eq_comm]⟩
    | bool value => exact ⟨.bool value, rfl, rfl, by simp, by simp⟩
    | string value => exact ⟨.string value, rfl, rfl, by simp, by simp⟩
    | number value =>
        simp only [tranformValueFromJson]
        split_ifs
        · exact ⟨_, rfl, rfl, by simp, by simp⟩
        · exact ⟨_, rfl, rfl, by simp, by simp⟩
  obtain ⟨element, helement, hscalar, hkind, hbool⟩ := hconverted
  unfold NodeDecided checkNode
  simp only [hhanded, Option.some.injEq, exists_eq_left', helement]
  cases doc with
  | untyped key =>
      rw [desc, TslSchemaDesc.zero, Tested]
      cases element with
      | bool value =>
          rw [checkSchemaValue, decides_some, eq_self_iff_true, true_iff]
          rcases (hbool value).mp rfl with rfl | ⟨rfl, -⟩
          · exact Or.inr ⟨value, rfl⟩
          · exact Or.inl rfl
      | _ =>
          rw [checkSchemaValue]
          · simp only [decides_some, reduceCtorEq, false_iff]
            rintro (rfl | ⟨value, rfl⟩)
            · have := (hbool false).mpr (Or.inr ⟨rfl, rfl⟩)
              cases this
            · have := (hbool value).mpr (Or.inl rfl)
              cases this
          all_goals simp
  | leaf doc =>
      rw [desc, Tested, LeafAccepts, hscalar]
      simp only [Option.some.injEq, exists_eq_left']
      rw [checkSchemaValue_leafCodec nearest isMultiple
        doc.parseSchema_spec.2.2, decides_succ_iff]
      exact leaf_check_ne_none _ doc hscalar
  | anyArray key minItems maxItems =>
      rw [desc, checkSchemaValue, Tested, decides_some]
      · simp only [reduceCtorEq, false_iff]
        rintro ⟨items, hitems, -⟩
        exact harray items hitems
      all_goals simp_all
  | array key minItems maxItems item =>
      rw [desc, checkSchemaValue, Tested, decides_some]
      · simp only [reduceCtorEq, false_iff]
        rintro ⟨items, hitems, -⟩
        exact harray items hitems
      all_goals simp_all
  | object key minProperties maxProperties required properties =>
      rw [desc, checkSchemaValue, Tested, decides_some]
      · simp only [reduceCtorEq, false_iff]
        rintro ⟨members, hmembers, -⟩
        exact hobject members hmembers
      all_goals simp_all

/-- A node of a tree that was read is decided when the values that it can be
printed to are. -/
theorem ValuesDecided.node {doc : SchemaDoc}
    (hvalues : ValuesDecided nearest isMultiple doc) {node : BscJson}
    (hheld : BscJson.Held BscJson.nestingLimit node) :
    NodeDecided nearest isMultiple doc node := by
  have hread : ∀ text, BscJson.printValue false 0 node = some text →
      BscJson.parse nearest text = some (node.reparsed nearest) := by
    intro text htext
    rw [BscJson.parse_of_printValue nearest hheld.nulFree htext,
      if_pos hheld.nesting]
  by_cases harray : ∃ items, node = .array items
  · obtain ⟨items, rfl⟩ := harray
    unfold NodeDecided checkNode
    cases hprint : BscJson.printValue false 0 (.array items) with
    | none =>
        simp [handed, tranformValueFromJson, TslCodec.bscJson, hprint]
    | some text =>
        have hdecided := hvalues.array text _ (hread text hprint)
        simp only [handed, tranformValueFromJson, TslCodec.bscJson, hprint,
          Option.map_some, Option.some.injEq, exists_eq_left']
        exact hdecided
  · by_cases hobject : ∃ members, node = .object members
    · obtain ⟨members, rfl⟩ := hobject
      unfold NodeDecided checkNode
      cases hprint : BscJson.printValue false 0 (.object members) with
      | none =>
          simp [handed, tranformValueFromJson, TslCodec.bscJson, hprint]
      | some text =>
          have hdecided := hvalues.object text _ (hread text hprint)
          simp only [handed, tranformValueFromJson, TslCodec.bscJson, hprint,
            Option.map_some, Option.some.injEq, exists_eq_left']
          exact hdecided
    · exact nodeDecided_scalar doc (fun items heq => harray ⟨items, heq⟩)
        fun members heq => hobject ⟨members, heq⟩

theorem held_of_parse_array {text : CString} {items : List BscJson}
    (hparse : BscJson.parse nearest text = some (.array items)) :
    ∀ item ∈ items, BscJson.Held BscJson.nestingLimit item := by
  intro item hitem
  have hheld := @BscJson.held_array_iff 999 items
  exact (hheld.mp (BscJson.parse_held hparse) item hitem).mono (by decide)

theorem held_of_parse_object {text : CString}
    {members : List (CString × BscJson)}
    (hparse : BscJson.parse nearest text = some (.object members)) :
    ∀ member ∈ members, BscJson.Held BscJson.nestingLimit member.2 := by
  intro member hmember
  have hheld := @BscJson.held_object_iff 999 members
  exact (hheld.mp (BscJson.parse_held hparse) member hmember).2.mono
    (by decide)

/-- The check of a container value comes out as its tests do.  The induction
is on the schema; the parts of a tree that was read can be read again. -/
theorem valuesDecided (doc : SchemaDoc) :
    ValuesDecided nearest isMultiple doc := by
  induction doc using SchemaDoc.inductionOn with
  | untyped key =>
      constructor
      · intro text items _
        simp [desc, TslSchemaDesc.zero, checkSchemaValue, Tested]
      · intro text members _
        simp [desc, TslSchemaDesc.zero, checkSchemaValue, Tested]
  | leaf doc =>
      constructor
      · intro text items _
        rw [desc, leaf_check_container _ doc (Or.inl ⟨text, rfl⟩)]
        simp [Tested, LeafAccepts, tranformValueFromJson,
          TslCodec.scalarsOnly]
      · intro text members _
        rw [desc, leaf_check_container _ doc (Or.inr ⟨text, rfl⟩)]
        simp [Tested, LeafAccepts, tranformValueFromJson,
          TslCodec.scalarsOnly]
  | anyArray key minItems maxItems =>
      constructor
      · intro text items hparse
        exact decides_anyArray_value hparse
      · intro text members _
        simp [desc, checkSchemaValue, Tested]
  | array key minItems maxItems item ih =>
      constructor
      · intro text items hparse
        exact decides_array_value hparse fun node hnode =>
          ih.node (held_of_parse_array hparse node hnode)
      · intro text members _
        simp [desc, checkSchemaValue, Tested]
  | object key minProperties maxProperties required properties ih =>
      constructor
      · intro text items _
        simp [desc, checkSchemaValue, Tested]
      · intro text members hparse
        exact decides_object_value hparse fun member hmember child hchild =>
          (ih child hchild).node (held_of_parse_object hparse member hmember)

/-! ## Texts that are no such container -/

/-- An array value whose text is no array is turned away. -/
theorem array_text_rejected (doc : SchemaDoc) {text : CString}
    (hother : ∀ items, BscJson.parse nearest text ≠ some (.array items)) :
    ∃ ret, checkSchemaValue (TslCodec.bscJson nearest isMultiple) doc.desc
        (.array text) = some ret ∧ ret ≠ .succ := by
  have harray : ∀ minItem maxItem checks,
      checkArrayValue (TslCodec.bscJson nearest isMultiple) minItem maxItem
        checks text = some .valueIllegal := by
    intro minItem maxItem checks
    unfold checkArrayValue
    split
    · next items hparse => exact absurd hparse (hother items)
    · rfl
  cases doc with
  | untyped key =>
      exact ⟨.valueType, by simp [desc, TslSchemaDesc.zero, checkSchemaValue],
        by decide⟩
  | leaf doc =>
      exact ⟨.valueType, by
        rw [desc, leaf_check_container _ doc (Or.inl ⟨text, rfl⟩)],
        by decide⟩
  | anyArray key minItems maxItems =>
      exact ⟨.valueIllegal, by rw [desc, checkSchemaValue, harray],
        by decide⟩
  | array key minItems maxItems item =>
      exact ⟨.valueIllegal, by rw [desc, checkSchemaValue, harray],
        by decide⟩
  | object key minProperties maxProperties required properties =>
      exact ⟨.valueType, by simp [desc, checkSchemaValue], by decide⟩

/-- An object value whose text is no document is turned away, and so is every
text by a schema of another type. -/
theorem object_text_rejected (doc : SchemaDoc) {text : CString}
    (hother : BscJson.parse nearest text = none ∨
      ∀ key minProperties maxProperties required properties,
        doc ≠ .object key minProperties maxProperties required properties) :
    ∃ ret, checkSchemaValue (TslCodec.bscJson nearest isMultiple) doc.desc
        (.object text) = some ret ∧ ret ≠ .succ := by
  cases doc with
  | untyped key =>
      exact ⟨.valueType, by simp [desc, TslSchemaDesc.zero, checkSchemaValue],
        by decide⟩
  | leaf doc =>
      exact ⟨.valueType, by
        rw [desc, leaf_check_container _ doc (Or.inr ⟨text, rfl⟩)],
        by decide⟩
  | anyArray key minItems maxItems =>
      exact ⟨.valueType, by simp [desc, checkSchemaValue], by decide⟩
  | array key minItems maxItems item =>
      exact ⟨.valueType, by simp [desc, checkSchemaValue], by decide⟩
  | object key minProperties maxProperties required properties =>
      rcases hother with hnone | hother
      · refine ⟨.valueIllegal, ?_, by decide⟩
        rw [desc, checkSchemaValue, checkObjectValue]
        simp only [TslCodec.bscJson, hnone]
      · exact absurd rfl
          (hother key minProperties maxProperties required properties)

/-- A text that is not an object is turned away, or there is nothing to turn it
away, or the name of an element that has none is compared. -/
theorem decides_otherRejected (key : Option CString)
    (minProperties maxProperties : Option ℚ)
    (required : List (Option CString)) (properties : List SchemaDoc)
    {text : CString} {root : BscJson}
    (hparse : BscJson.parse nearest text = some root)
    (hother : ∀ members, root ≠ .object members) :
    Decides
        (checkSchemaValue (TslCodec.bscJson nearest isMultiple)
          (SchemaDoc.object key minProperties maxProperties required
            properties).desc (.object text)) False ↔
      OtherRejected nearest minProperties maxProperties required properties
        root := by
  rw [checkSchemaValue_object_root _ key minProperties maxProperties required
    properties
    (show (TslCodec.bscJson nearest isMultiple).parse text = _ from hparse),
    OtherRejected]
  by_cases hcount :
      PropertiesCounted minProperties maxProperties root.getArraySize
  · rw [if_neg (not_not.mpr hcount)]
    by_cases hrequired : required = []
    · rw [if_neg (by simp [hrequired])]
      simp only [hrequired, hcount, ne_eq, not_true_eq_false, false_or,
        BscJson.getArrayItem]
      cases hchildren : root.children with
      | nil => simp [checkObjectMembers]
      | cons first rest =>
          have hname :=
            BscJson.children_name_eq_none hother
              (hchildren.symm ▸ List.mem_cons_self : first ∈ root.children)
          obtain ⟨name, node⟩ := first
          dsimp only at hname
          subst hname
          have hhanded := not_congr
            (@handed_ne_none_iff nearest isMultiple node)
          rw [not_not, not_not] at hhanded
          rw [checkObjectMembers]
          cases htransform : tranformValueFromJson
              (TslCodec.bscJson nearest isMultiple) node with
          | none => simp [hhanded, htransform]
          | some element =>
              cases properties with
              | nil => simp [checkMember, descs, childChecks]
              | cons child others =>
                  simp [checkMember, descs, childChecks, hhanded, htransform]
    · obtain ⟨name, hname⟩ := List.exists_mem_of_ne_nil _ hrequired
      have habsent := BscJson.getObjectItem_of_not_object
        (CString.strncpy (name.getD []) maxNameLength) hother
      rw [if_pos ⟨name, hname, habsent⟩, decides_some]
      simp [hrequired]
  · rw [if_pos hcount, decides_some]
    simp [hcount]

/-- An object value whose text is no object. -/
theorem decides_other_iff (doc : SchemaDoc) {text : CString} {root : BscJson}
    (hparse : BscJson.parse nearest text = some root)
    (hother : ∀ members, root ≠ .object members) :
    Decides (checkSchemaValue (TslCodec.bscJson nearest isMultiple) doc.desc
        (.object text)) False ↔
      ∀ key minProperties maxProperties required properties,
        doc = .object key minProperties maxProperties required properties →
          OtherRejected nearest minProperties maxProperties required
            properties root := by
  by_cases hdoc : ∃ key minProperties maxProperties required properties,
      doc = .object key minProperties maxProperties required properties
  · obtain ⟨key, minProperties, maxProperties, required, properties, rfl⟩ :=
      hdoc
    rw [decides_otherRejected key minProperties maxProperties required
      properties hparse hother]
    constructor
    · intro hrejected _ _ _ _ _ hsame
      cases hsame
      exact hrejected
    · intro hall
      exact hall _ _ _ _ _ rfl
  · push Not at hdoc
    obtain ⟨ret, hret, hfailed⟩ := @object_text_rejected nearest isMultiple
      doc text (Or.inr hdoc)
    rw [hret, decides_some]
    simp [hfailed, hdoc]

/-! ## Exactness -/

/-- The tests of a tree come out as the schema wants. -/
structure JudgedRight (nearest : ℚ → ℚ) (isMultiple : ℚ → ℚ → Bool)
    (leafMatches : LeafDoc → BscJson → Prop) (doc : SchemaDoc)
    (root : BscJson) : Prop where
  spared : doc.Matches leafMatches root → doc.Tested nearest isMultiple root
  caught : doc.Tested nearest isMultiple root → doc.Matches leafMatches root

mutual

/-- Every test of the tree, taken by itself, comes out as the schema wants, and
the containers in it are printed as they are. -/
def Regular (nearest : ℚ → ℚ) (isMultiple : ℚ → ℚ → Bool)
    (leafMatches : LeafDoc → BscJson → Prop) : SchemaDoc → BscJson → Prop
  | .untyped _, node => node = .null ∨ ∃ value, node = .bool value
  | .leaf doc, node =>
      leafMatches doc node ↔
        LeafAccepts isMultiple doc
          (tranformValueFromJson TslCodec.scalarsOnly node)
  | .anyArray _ minItems maxItems, node =>
      ∀ items, node = .array items →
        (Within minItems maxItems items.length ↔
          ItemsCounted minItems maxItems items.length) ∧
        ∀ element ∈ items, handed nearest element ≠ none
  | .array _ minItems maxItems item, node =>
      ∀ items, node = .array items →
        (Within minItems maxItems items.length ↔
          ItemsCounted minItems maxItems items.length) ∧
        ∀ element ∈ items, handed nearest element = some element ∧
          item.Regular nearest isMultiple leafMatches element
  | .object _ minProperties maxProperties required properties, node =>
      ∀ members, node = .object members →
        (Within minProperties maxProperties members.length ↔
          PropertiesCounted minProperties maxProperties members.length) ∧
        ((∀ name, some name ∈ required → ∃ value, (name, value) ∈ members) ↔
          ∀ name ∈ required, ∃ member ∈ members,
            CString.caseInsensitiveEq
              (CString.strncpy (name.getD []) maxNameLength) member.1) ∧
        ∀ member ∈ members, handed nearest member.2 = some member.2 ∧
          RegularOwn nearest isMultiple leafMatches properties member.1
            member.2

/-- Children are found under the names that they are declared with. -/
def RegularOwn (nearest : ℚ → ℚ) (isMultiple : ℚ → ℚ → Bool)
    (leafMatches : LeafDoc → BscJson → Prop) :
    List SchemaDoc → CString → BscJson → Prop
  | [], _, _ => True
  | child :: rest, name, node =>
      (child.key = some name ↔ child.storedKey = name) ∧
        (child.key = some name →
          child.Regular nearest isMultiple leafMatches node) ∧
        RegularOwn nearest isMultiple leafMatches rest name node

end

theorem regularOwn_matches_iff {leafMatches : LeafDoc → BscJson → Prop}
    {properties : List SchemaDoc} {name : CString} {node : BscJson}
    (hchildren : ∀ child ∈ properties,
      child.Regular nearest isMultiple leafMatches node →
        (child.Matches leafMatches node ↔
          child.Tested nearest isMultiple node))
    (hregular : RegularOwn nearest isMultiple leafMatches properties name
      node) :
    MatchesOwn leafMatches properties name node ↔
      TestedOwn nearest isMultiple properties name node := by
  induction properties with
  | nil => rfl
  | cons child rest ih =>
      obtain ⟨hkey, hown, hrest⟩ := hregular
      rw [MatchesOwn, TestedOwn]
      by_cases hnamed : child.key = some name
      · rw [if_pos hnamed, if_pos (hkey.mp hnamed)]
        exact hchildren child List.mem_cons_self (hown hnamed)
      · rw [if_neg hnamed, if_neg fun hstored => hnamed (hkey.mpr hstored)]
        exact ih (fun other hmem => hchildren other
          (List.mem_cons_of_mem child hmem)) hrest

/-- The tests of a regular tree are those of the schema. -/
theorem Regular.matches_iff {leafMatches : LeafDoc → BscJson → Prop}
    {doc : SchemaDoc} {node : BscJson}
    (hregular : doc.Regular nearest isMultiple leafMatches node) :
    doc.Matches leafMatches node ↔ doc.Tested nearest isMultiple node := by
  induction doc using SchemaDoc.inductionOn generalizing node with
  | untyped key => exact iff_of_true trivial hregular
  | leaf doc => exact hregular
  | anyArray key minItems maxItems =>
      constructor
      · rintro ⟨items, rfl, hwithin⟩
        obtain ⟨hcount, hhanded⟩ := hregular items rfl
        exact ⟨items, rfl, hcount.mp hwithin, hhanded⟩
      · rintro ⟨items, rfl, hcounted, -⟩
        exact ⟨items, rfl, (hregular items rfl).1.mpr hcounted⟩
  | array key minItems maxItems item ih =>
      constructor
      · rintro ⟨items, rfl, hwithin, helements⟩
        obtain ⟨hcount, hall⟩ := hregular items rfl
        refine ⟨items, rfl, hcount.mp hwithin, ?_⟩
        intro element hmem
        obtain ⟨hhanded, hitem⟩ := hall element hmem
        exact ⟨element, hhanded, (ih hitem).mp (helements element hmem)⟩
      · rintro ⟨items, rfl, hcounted, helements⟩
        obtain ⟨hcount, hall⟩ := hregular items rfl
        refine ⟨items, rfl, hcount.mpr hcounted, ?_⟩
        intro element hmem
        obtain ⟨hhanded, hitem⟩ := hall element hmem
        obtain ⟨seen, hseen, htested⟩ := helements element hmem
        rw [hhanded, Option.some.injEq] at hseen
        subst hseen
        exact (ih hitem).mpr htested
  | object key minProperties maxProperties required properties ih =>
      constructor
      · rintro ⟨members, rfl, hwithin, hnames, hmembers⟩
        obtain ⟨hcount, hrequired, hall⟩ := hregular members rfl
        refine ⟨members, rfl, hcount.mp hwithin, hrequired.mp hnames, ?_⟩
        intro member hmem
        obtain ⟨hhanded, hown⟩ := hall member hmem
        exact ⟨member.2, hhanded, (regularOwn_matches_iff
          (fun child hchild => ih child hchild) hown).mp
            (hmembers member hmem)⟩
      · rintro ⟨members, rfl, hcounted, hnames, hmembers⟩
        obtain ⟨hcount, hrequired, hall⟩ := hregular members rfl
        refine ⟨members, rfl, hcount.mpr hcounted, hrequired.mpr hnames, ?_⟩
        intro member hmem
        obtain ⟨hhanded, hown⟩ := hall member hmem
        obtain ⟨seen, hseen, htested⟩ := hmembers member hmem
        rw [hhanded, Option.some.injEq] at hseen
        subst hseen
        exact (regularOwn_matches_iff (fun child hchild => ih child hchild)
          hown).mpr htested

theorem Regular.judgedRight {leafMatches : LeafDoc → BscJson → Prop}
    {doc : SchemaDoc} {root : BscJson}
    (hregular : doc.Regular nearest isMultiple leafMatches root) :
    doc.JudgedRight nearest isMultiple leafMatches root :=
  ⟨hregular.matches_iff.mp, hregular.matches_iff.mpr⟩

/-- The condition on the tree that the text of an object value is read as. -/
structure ObjectCondition (nearest : ℚ → ℚ) (isMultiple : ℚ → ℚ → Bool)
    (leafMatches : LeafDoc → BscJson → Prop) (doc : SchemaDoc)
    (root : BscJson) : Prop where
  object : ∀ members, root = .object members →
    doc.JudgedRight nearest isMultiple leafMatches root
  other : (∀ members, root ≠ .object members) →
    ∀ key minProperties maxProperties required properties,
      doc = .object key minProperties maxProperties required properties →
        OtherRejected nearest minProperties maxProperties required properties
          root

theorem decides_judgedRight_iff {leafMatches : LeafDoc → BscJson → Prop}
    {doc : SchemaDoc} {root : BscJson}
    {result : Option TslErrno} {matched : Prop}
    (hdecides : Decides result (doc.Tested nearest isMultiple root))
    (hmatched : matched ↔ doc.Matches leafMatches root) :
    Decides result matched ↔
      doc.JudgedRight nearest isMultiple leafMatches root := by
  rw [hdecides.decides_iff, hmatched]
  exact ⟨fun hiff => ⟨hiff.mpr, hiff.mp⟩,
    fun hright => ⟨hright.caught, hright.spared⟩⟩

end SchemaDoc

/-- The check of an array value accepts exactly the texts of arrays that match
the schema. -/
def ArrayExact (nearest : ℚ → ℚ) (isMultiple : ℚ → ℚ → Bool)
    (leafMatches : LeafDoc → BscJson → Prop) (js : BscJson)
    (text : CString) : Prop :=
  Decides (checkSchemaValue (TslCodec.bscJson nearest isMultiple)
      (parseSchema js).2 (.array text))
    (∃ items, BscJson.parse nearest text = some (.array items) ∧
      (SchemaDoc.ofJson js).Matches leafMatches (.array items))

def ObjectExact (nearest : ℚ → ℚ) (isMultiple : ℚ → ℚ → Bool)
    (leafMatches : LeafDoc → BscJson → Prop) (js : BscJson)
    (text : CString) : Prop :=
  Decides (checkSchemaValue (TslCodec.bscJson nearest isMultiple)
      (parseSchema js).2 (.object text))
    (∃ members, BscJson.parse nearest text = some (.object members) ∧
      (SchemaDoc.ofJson js).Matches leafMatches (.object members))

theorem arrayExact_iff (nearest : ℚ → ℚ) (isMultiple : ℚ → ℚ → Bool)
    (leafMatches : LeafDoc → BscJson → Prop) (js : BscJson) (text : CString) :
    ArrayExact nearest isMultiple leafMatches js text ↔
      ∀ items, BscJson.parse nearest text = some (.array items) →
        (SchemaDoc.ofJson js).JudgedRight nearest isMultiple leafMatches
          (.array items) := by
  rw [ArrayExact, SchemaDoc.parseSchema_desc]
  by_cases harray : ∃ items, BscJson.parse nearest text = some (.array items)
  · obtain ⟨items, hparse⟩ := harray
    have hdecides := (@SchemaDoc.valuesDecided nearest isMultiple
      (SchemaDoc.ofJson js)).array text items hparse
    have hmatched : (∃ items,
        BscJson.parse nearest text = some (.array items) ∧
          (SchemaDoc.ofJson js).Matches leafMatches (.array items)) ↔
        (SchemaDoc.ofJson js).Matches leafMatches (.array items) := by
      simp [hparse]
    rw [SchemaDoc.decides_judgedRight_iff hdecides hmatched]
    simp [hparse]
  · push Not at harray
    obtain ⟨ret, hret, hfailed⟩ := @SchemaDoc.array_text_rejected nearest
      isMultiple (SchemaDoc.ofJson js) text harray
    rw [hret, decides_some]
    simp [hfailed, harray]

theorem objectExact_iff (nearest : ℚ → ℚ) (isMultiple : ℚ → ℚ → Bool)
    (leafMatches : LeafDoc → BscJson → Prop) (js : BscJson) (text : CString) :
    ObjectExact nearest isMultiple leafMatches js text ↔
      ∀ root, BscJson.parse nearest text = some root →
        (SchemaDoc.ofJson js).ObjectCondition nearest isMultiple leafMatches
          root := by
  rw [ObjectExact, SchemaDoc.parseSchema_desc]
  cases hparse : BscJson.parse nearest text with
  | none =>
      obtain ⟨ret, hret, hfailed⟩ := @SchemaDoc.object_text_rejected nearest
        isMultiple (SchemaDoc.ofJson js) text (Or.inl hparse)
      rw [hret, decides_some]
      simp [hfailed]
  | some root =>
      simp only [Option.some.injEq, forall_eq']
      by_cases hobject : ∃ members, root = .object members
      · obtain ⟨members, rfl⟩ := hobject
        have hdecides := (@SchemaDoc.valuesDecided nearest isMultiple
          (SchemaDoc.ofJson js)).object text members hparse
        have hmatched : (∃ others,
            BscJson.object members = .object others ∧
              (SchemaDoc.ofJson js).Matches leafMatches (.object others)) ↔
            (SchemaDoc.ofJson js).Matches leafMatches (.object members) := by
          simp
        rw [SchemaDoc.decides_judgedRight_iff hdecides hmatched]
        exact ⟨fun hright => ⟨fun _ _ => hright,
            fun hother => absurd rfl (hother members)⟩,
          fun hcondition => hcondition.object members rfl⟩
      · have hother : ∀ members, root ≠ .object members :=
          fun members heq => hobject ⟨members, heq⟩
        have hnot : (∃ members, root = .object members ∧
            (SchemaDoc.ofJson js).Matches leafMatches (.object members)) ↔
            False := by
          simp [hother]
        rw [hnot, SchemaDoc.decides_other_iff _ hparse hother]
        exact ⟨fun hrejected => ⟨fun members heq => absurd heq
            (hother members), fun _ => hrejected⟩,
          fun hcondition => hcondition.other hother⟩

/-- In particular the check is right about every regular tree. -/
theorem regular_exact {nearest : ℚ → ℚ} {isMultiple : ℚ → ℚ → Bool}
    {leafMatches : LeafDoc → BscJson → Prop} {js : BscJson} {text : CString}
    {root : BscJson} (hparse : BscJson.parse nearest text = some root)
    (hregular : (SchemaDoc.ofJson js).Regular nearest isMultiple leafMatches
      root) :
    ArrayExact nearest isMultiple leafMatches js text ∧
      ((∃ members, root = .object members) →
        ObjectExact nearest isMultiple leafMatches js text) := by
  constructor
  · rw [arrayExact_iff]
    intro items hitems
    rw [hparse, Option.some.injEq] at hitems
    subst hitems
    exact hregular.judgedRight
  · rintro ⟨members, rfl⟩
    rw [objectExact_iff]
    intro found hfound
    rw [hparse, Option.some.injEq] at hfound
    subst hfound
    exact ⟨fun _ _ => hregular.judgedRight,
      fun hother => absurd rfl (hother members)⟩

/-! ## Two elements between the limits one and three -/

end EziotSdk

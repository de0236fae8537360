import EziotSdk.BscJsonRoundTrip
import EziotSdk.TslSchema

/-!
# The value check

`tsl_info_check.c`: a value is checked against a schema descriptor.  A value
of array or object type is a text, which is parsed at its level; its elements
become values again, nested containers by printing them.  The JSON reader and
printer and the floating-point test for multiples are a parameter.

`none` is undefined behaviour: the one signed remainder that overflows, and
the comparison with the name of a node that has none.
-/

namespace EziotSdk

/-- `tsl_value_t`. -/
inductive TslValue where
  | bool (value : Bool)
  | int (value : ℤ)
  | double (value : ℚ)
  | string (value : CString)
  | array (text : CString)
  | object (text : CString)
  | null
  | max
  deriving DecidableEq, Repr

structure TslCodec where
  parse : CString → Option BscJson
  printUnformatted : BscJson → Option CString
  /-- `value / multiple` has no fractional part in machine arithmetic. -/
  isMultiple : ℚ → ℚ → Bool

/-- The parser and the printer of the source. -/
def TslCodec.bscJson (nearest : ℚ → ℚ) (isMultiple : ℚ → ℚ → Bool) :
    TslCodec where
  parse := BscJson.parse nearest
  printUnformatted := BscJson.printValue false 0
  isMultiple := isMultiple

/-- A codec for values that are no containers. -/
def TslCodec.scalarsOnly : TslCodec where
  parse := fun _ => none
  printUnformatted := fun _ => none
  isMultiple := fun _ _ => false

def legalIf (legal : Prop) [Decidable legal] : TslErrno :=
  if legal then .succ else .valueIllegal

/-- `value % multiple` overflows. -/
def RemainderOverflows (value multiple : ℤ) : Prop :=
  value = BscJson.intMin ∧ multiple = -1

instance (value multiple : ℤ) : Decidable (RemainderOverflows value multiple) :=
  inferInstanceAs (Decidable (_ ∧ _))

def checkIntValue (schema : TypeInteger) (value : ℤ) : Option TslErrno :=
  if schema.intEnum ≠ [] then some (legalIf (value ∈ schema.intEnum))
  else if schema.multiple ≠ 0 ∧ RemainderOverflows value schema.multiple then
    none
  else if schema.multiple ≠ 0 ∧ value.tmod schema.multiple ≠ 0 then
    some .valueIllegal
  else if schema.maximum ≠ 0 ∧ schema.minimum ≠ 0 ∧
      schema.minimum ≤ schema.maximum then
    some (legalIf (value ≤ schema.maximum ∧ schema.minimum ≤ value))
  else if schema.exmaximum ≠ 0 ∧ schema.exminimum ≠ 0 ∧
      schema.exminimum < schema.exmaximum then
    some (legalIf (value < schema.exmaximum ∧ schema.exminimum < value))
  else some .succ

def checkDoubleValue (codec : TslCodec) (schema : TypeNumber) (value : ℚ) :
    TslErrno :=
  if schema.numEnum ≠ [] then legalIf (value ∈ schema.numEnum)
  else if schema.multiple ≠ 0 ∧
      codec.isMultiple value schema.multiple = false then .valueIllegal
  else if schema.maximum ≠ 0 ∧ schema.minimum ≠ 0 ∧
      schema.minimum ≤ schema.maximum then
    legalIf (value ≤ schema.maximum ∧ schema.minimum ≤ value)
  else if schema.exmaximum ≠ 0 ∧ schema.exminimum ≠ 0 ∧
      schema.exminimum < schema.exmaximum then
    legalIf (value < schema.exmaximum ∧ schema.exminimum < value)
  else .succ

def checkStringValue (schema : TypeString) (value : CString) : TslErrno :=
  if schema.strEnum ≠ [] then legalIf (value ∈ schema.strEnum)
  else if schema.minLen ≠ 0 ∧ schema.maxLen ≠ 0 ∧
      schema.minLen ≤ schema.maxLen then
    legalIf (schema.minLen ≤ CString.strlen value ∧
      CString.strlen value ≤ schema.maxLen)
  else .succ

/-- A number is an integer when it equals its own `valueint` and that is
neither end of the `int` range; a null node leaves the value zeroed. -/
def tranformValueFromJson (codec : TslCodec) : BscJson → Option TslValue
  | .bool value => some (.bool value)
  | .number value =>
      let valueint := BscJson.saturate value
      if value = valueint ∧ valueint ≠ BscJson.intMax ∧
          valueint ≠ BscJson.intMin then
        some (.int valueint)
      else some (.double value)
  | .string value => some (.string value)
  | .array items => (codec.printUnformatted (.array items)).map .array
  | .object members => (codec.printUnformatted (.object members)).map .object
  | .null => some (.bool false)

/-- The check against one child schema, with the child's key. -/
abbrev ChildCheck := CString × (TslValue → Option TslErrno)

/-- The loop over the item schemas: the last result counts. -/
def checkItemSchemas (value : TslValue) :
    List ChildCheck → TslErrno → Option TslErrno
  | [], ret => some ret
  | check :: rest, _ =>
      (check.2 value).bind fun ret => checkItemSchemas value rest ret

def checkArrayItems (codec : TslCodec) (checks : List ChildCheck) :
    List BscJson → Option TslErrno
  | [] => some .succ
  | jsProp :: rest =>
      match tranformValueFromJson codec jsProp with
      | none => some .valueIllegal
      | some propValue =>
          (checkItemSchemas propValue checks .succ).bind fun ret =>
            if ret = .succ then checkArrayItems codec checks rest
            else some ret

/-- The count is compared twice with `minItem`: `type_object.max_props` lies
over `type_array.minItem` in the union. -/
def checkArrayValue (codec : TslCodec) (minItem maxItem : ℤ)
    (checks : List ChildCheck) (text : CString) : Option TslErrno :=
  match codec.parse text with
  | some (.array items) =>
      let arrNum : ℤ := items.length
      let typeObjectMaxProps := minItem
      if (minItem ≠ 0 ∧ maxItem ≠ 0 ∧ minItem ≤ maxItem) ∧
          (minItem < arrNum ∨ typeObjectMaxProps < arrNum) then
        some .valueIllegal
      else checkArrayItems codec checks items
  | _ => some .valueIllegal

/-- The search for the schema of one member; without schemas the name is not
compared. -/
def checkMember (checks : List ChildCheck) (name : Option CString)
    (value : TslValue) : Option TslErrno :=
  match checks, name with
  | [], _ => some .valueIllegal
  | _ :: _, none => none
  | checks, some name =>
      match checks.find? fun check => check.1 == name with
      | none => some .valueIllegal
      | some check => check.2 value

def checkObjectMembers (codec : TslCodec) (checks : List ChildCheck) :
    List (Option CString × BscJson) → Option TslErrno
  | [] => some .succ
  | (name, jsProp) :: rest =>
      match tranformValueFromJson codec jsProp with
      | none => some .valueIllegal
      | some propValue =>
          (checkMember checks name propValue).bind fun ret =>
            if ret = .succ then checkObjectMembers codec checks rest
            else some ret

def checkObjectValue (codec : TslCodec) (maxProps minProps : ℤ)
    (required : List CString) (checks : List ChildCheck) (text : CString) :
    Option TslErrno :=
  match codec.parse text with
  | none => some .valueIllegal
  | some jsRoot =>
      let objNum : ℤ := jsRoot.getArraySize
      if (minProps ≠ 0 ∧ maxProps ≠ 0 ∧ minProps ≤ maxProps) ∧
          (objNum < minProps ∨ maxProps < objNum) then
        some .valueIllegal
      else if required.any fun name => (jsRoot.getObjectItem name).isNone then
        some .valueIllegal
      else checkObjectMembers codec checks jsRoot.children

mutual

/-- `check_schema_value`. -/
def checkSchemaValue (codec : TslCodec) :
    TslSchemaDesc → TslValue → Option TslErrno
  | .bool _, .bool _ => some .succ
  | .integer _ schema, .int value => checkIntValue schema value
  | .number _ schema, .double value =>
      some (checkDoubleValue codec schema value)
  | .number _ schema, .int value =>
      some (checkDoubleValue codec schema value)
  | .string _ schema, .string value => some (checkStringValue schema value)
  | .array _ minItem maxItem itemProp, .array text =>
      checkArrayValue codec minItem maxItem (childChecks codec itemProp) text
  | .object _ maxProps minProps required property, .object text =>
      checkObjectValue codec maxProps minProps required
        (childChecks codec property) text
  | .max _, .max => some .succ
  | _, _ => some .valueType

def childChecks (codec : TslCodec) : List TslSchemaDesc → List ChildCheck
  | [] => []
  | schema :: rest =>
      (schema.propKey, checkSchemaValue codec schema) :: childChecks codec rest

end

theorem childChecks_eq_map (codec : TslCodec) (schemas : List TslSchemaDesc) :
    childChecks codec schemas =
      schemas.map fun schema =>
        (schema.propKey, checkSchemaValue codec schema) := by
  induction schemas with
  | nil => rfl
  | cons schema rest ih => rw [childChecks, ih, List.map_cons]

theorem legalIf_eq_succ (legal : Prop) [Decidable legal] :
    legalIf legal = .succ ↔ legal := by
  unfold legalIf
  split <;> simp [*]

theorem checkIntValue_eq_none_iff (schema : TypeInteger) (value : ℤ) :
    checkIntValue schema value = none ↔
      schema.intEnum = [] ∧ RemainderOverflows value schema.multiple := by
  unfold checkIntValue
  by_cases henum : schema.intEnum = []
  · rw [if_neg (by simpa using henum)]
    by_cases hover : RemainderOverflows value schema.multiple
    · have hnonzero : schema.multiple ≠ 0 := by
        rw [hover.2]
        decide
      simp [henum, hover, hnonzero]
    · rw [if_neg fun hall => hover hall.2]
      split_ifs <;> simp [hover]
  · rw [if_pos henum]
    simp [henum]

/-- The only leaf check that is not defined is the remainder that overflows. -/
theorem checkSchemaValue_leaf_eq_none_iff
    (codec : TslCodec) {schema : TslSchemaDesc} (hleaf : schema.IsLeaf)
    (value : TslValue) :
    checkSchemaValue codec schema value = none ↔
      ∃ key typeInteger number,
        schema = .integer key typeInteger ∧ value = .int number ∧
          typeInteger.intEnum = [] ∧
          RemainderOverflows number typeInteger.multiple := by
  cases schema with
  | integer key typeInteger =>
      cases value <;>
        simp [checkSchemaValue, checkIntValue_eq_none_iff]
  | array key minItem maxItem itemProp => exact absurd hleaf id
  | object key maxProps minProps required property =>
      exact absurd hleaf id
  | bool key => cases value <;> simp [checkSchemaValue]
  | number key typeNumber => cases value <;> simp [checkSchemaValue]
  | string key typeString => cases value <;> simp [checkSchemaValue]
  | max key => cases value <;> simp [checkSchemaValue]

/-- The check is defined, and accepts exactly the values that `matched` is
true of. -/
def Decides (result : Option TslErrno) (matched : Prop) : Prop :=
  ∃ ret, result = some ret ∧ (ret = .succ ↔ matched)

@[simp] theorem not_decides_none (matched : Prop) : ¬Decides none matched := by
  rintro ⟨ret, hret, -⟩
  cases hret

@[simp] theorem decides_some (ret : TslErrno) (matched : Prop) :
    Decides (some ret) matched ↔ (ret = .succ ↔ matched) := by
  simp [Decides]

theorem Decides.decides_iff
    {result : Option TslErrno} {matched : Prop}
    (hdecides : Decides result matched) (other : Prop) :
    Decides result other ↔ (matched ↔ other) := by
  obtain ⟨ret, rfl, hiff⟩ := hdecides
  rw [decides_some, hiff]

theorem decides_succ_iff (result : Option TslErrno) :
    Decides result (result = some .succ) ↔ result ≠ none := by
  cases result <;> simp

/-- The results of a loop that stops at the first one that is not success. -/
def firstFailure : List (Option TslErrno) → Option TslErrno
  | [] => some .succ
  | result :: rest =>
      result.bind fun ret =>
        if ret = .succ then firstFailure rest else some ret

theorem firstFailure_decides
    {Item : Type} (check : Item → Option TslErrno) (matched : Item → Prop)
    {items : List Item}
    (hitems : ∀ item ∈ items, Decides (check item) (matched item)) :
    Decides (firstFailure (items.map check)) (∀ item ∈ items, matched item) := by
  induction items with
  | nil => simp [firstFailure]
  | cons item rest ih =>
      have hrest := ih fun other hmem =>
        hitems other (List.mem_cons_of_mem item hmem)
      obtain ⟨ret, hret, hiff⟩ := hitems item List.mem_cons_self
      rw [List.map_cons, firstFailure, hret, Option.bind_some]
      by_cases hsucc : ret = .succ
      · rw [if_pos hsucc, hrest.decides_iff]
        simp [hiff.mp hsucc]
      · rw [if_neg hsucc, decides_some]
        have hnot : ¬matched item := mt hiff.mpr hsucc
        simp [hsucc, hnot]

end EziotSdk

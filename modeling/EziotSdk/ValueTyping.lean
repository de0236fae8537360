import EziotSdk.ShadowTree
import EziotSdk.TslValueCheck

/-!
# Types of JSON values

Three converters give a JSON value a type and a content:
`tranform_value_from_json` for the parts of a nested value, `strip_msg_wrap`
for the input of an action, and `json2tlv` for a shadow that is set.  Each is
compared with one table of types.
-/

namespace EziotSdk

/-- `tsl_data_type_e`; the shadow numbers its types the same way. -/
inductive TslDataType where
  | bool
  | int
  | double
  | string
  | array
  | object
  | null
  | max
  deriving DecidableEq, Repr

inductive TslContent where
  | bool (value : Bool)
  | int (value : ℤ)
  | double (value : ℚ)
  | text (value : Option CString)
  | untouched
  deriving DecidableEq, Repr

structure TslCell where
  type : TslDataType
  content : TslContent
  deriving DecidableEq, Repr

/-! ## The table -/

/-- Whole, and in the range of an `int` with both ends. -/
def IsInt (value : ℚ) : Prop :=
  value.den = 1 ∧ BscJson.intMin ≤ value.num ∧ value.num ≤ BscJson.intMax

instance (value : ℚ) : Decidable (IsInt value) :=
  inferInstanceAs (Decidable (_ ∧ _ ∧ _))

def textCell (type : TslDataType) (text : CString) : TslCell :=
  ⟨type, .text (some text)⟩

/-- What a converter should make of a value: null is rejected, and the text of
an array or an object is a document of it. -/
def Typed (nearest : ℚ → ℚ) : BscJson → Option TslCell → Prop
  | .null, cell => cell = none
  | .bool value, cell => cell = some ⟨.bool, .bool value⟩
  | .number value, cell =>
      cell = if IsInt value then some ⟨.int, .int value.num⟩
        else some ⟨.double, .double value⟩
  | .string value, cell => cell = some (textCell .string value)
  | .array items, cell => ∃ text, cell = some (textCell .array text) ∧
      BscJson.parse nearest text = some (.array items)
  | .object members, cell => ∃ text, cell = some (textCell .object text) ∧
      BscJson.parse nearest text = some (.object members)

/-! ## Nested values -/

def TslValue.cell : TslValue → TslCell
  | .bool value => ⟨.bool, .bool value⟩
  | .int value => ⟨.int, .int value⟩
  | .double value => ⟨.double, .double value⟩
  | .string value => textCell .string value
  | .array text => textCell .array text
  | .object text => textCell .object text
  | .null => ⟨.null, .untouched⟩
  | .max => ⟨.max, .untouched⟩

def nestedCell (codec : TslCodec) (json : BscJson) : Option TslCell :=
  (tranformValueFromJson codec json).map TslValue.cell

/-! ## Inputs of actions -/

/-- Every number is an integer, and NULL keeps the initial type. -/
def jsonTypeTransformDev : BscJson → TslDataType
  | .bool _ => .bool
  | .null => .max
  | .number _ => .int
  | .string _ => .string
  | .array _ => .array
  | .object _ => .object

/-- The part of `strip_msg_wrap` behind the member `data`. -/
def stripData (codec : TslCodec) (jsData : BscJson) (tslData : TslCell) :
    TslCell :=
  let type := jsonTypeTransformDev jsData
  match type with
  | .bool => ⟨type, .bool (jsData.valueint ≠ 0)⟩
  | .int => ⟨type, .int jsData.valueint⟩
  | .double => ⟨type, .double jsData.valuedouble⟩
  | .string => ⟨type, .text jsData.valuestring⟩
  | .array => ⟨type, .text (codec.printUnformatted jsData)⟩
  | .object => ⟨type, .text (codec.printUnformatted jsData)⟩
  | .null => ⟨type, tslData.content⟩
  | .max => ⟨type, tslData.content⟩

def stripMsgWrap (codec : TslCodec) (buf : CString) (tslData : TslCell) :
    TslCell :=
  match codec.parse buf with
  | none => tslData
  | some jsMsg =>
      match jsMsg.getObjectItem "data".toList with
      | none => tslData
      | some jsData => stripData codec jsData tslData

/-- `value_in` before the message is stripped. -/
def emptyValueIn : TslCell := ⟨.null, .untouched⟩

/-- What the callback of the action receives for the value. -/
def actionCell (codec : TslCodec) (json : BscJson) : Option TslCell :=
  some (stripData codec json emptyValueIn)

theorem stripMsgWrap_of_data
    {codec : TslCodec} {buf : CString} {jsMsg jsData : BscJson}
    (hparse : codec.parse buf = some jsMsg)
    (hdata : jsMsg.getObjectItem "data".toList = some jsData) :
    some (stripMsgWrap codec buf emptyValueIn) = actionCell codec jsData := by
  rw [stripMsgWrap, hparse, actionCell]
  simp only [hdata]

/-! ## Shadows that are set -/

def dblEpsilon : ℚ := 1 / 2 ^ 52

def isDouble (i : ℤ) (d : ℚ) : Bool :=
  ¬ (|(i : ℚ) - d| ≤ dblEpsilon ∧ d ≤ BscJson.intMax ∧ BscJson.intMin ≤ d)

def json2tlv (codec : TslCodec) (pvalue : BscJson) : Option ShadowValue :=
  match pvalue with
  | .bool _ => some ⟨.bool pvalue.valueint, 4⟩
  | .number _ =>
      if ¬ isDouble pvalue.valueint pvalue.valuedouble then
        some ⟨.int pvalue.valueint, 4⟩
      else some ⟨.double pvalue.valuedouble, 8⟩
  | .string value => some ⟨.string value, CString.strlen value⟩
  | .array _ => (codec.printUnformatted pvalue).map fun text =>
      ⟨.array text, CString.strlen text⟩
  | .object _ => (codec.printUnformatted pvalue).map fun text =>
      ⟨.object text, CString.strlen text⟩
  | .null => none

def ShadowData.cell : ShadowData → TslCell
  | .bool value => ⟨.bool, .bool (value ≠ 0)⟩
  | .int value => ⟨.int, .int value⟩
  | .double value => ⟨.double, .double value⟩
  | .string value => textCell .string value
  | .array value => textCell .array value
  | .object value => textCell .object value
  | .other => ⟨.max, .untouched⟩

def shadowCell (codec : TslCodec) (json : BscJson) : Option TslCell :=
  (json2tlv codec json).map fun tlv => tlv.data.cell

/-! ## Numbers -/

theorem IsInt.eq_num {value : ℚ} (hint : IsInt value) :
    (value.num : ℚ) = value :=
  Rat.den_eq_one_iff value |>.mp hint.1

theorem IsInt.saturate_eq {value : ℚ} (hint : IsInt value) :
    BscJson.saturate value = value.num := by
  have hcast := BscJson.saturate_intCast hint.2.1 hint.2.2
  rw [hint.eq_num] at hcast
  exact hcast

theorem isInt_of_eq_saturate {value : ℚ}
    (heq : value = BscJson.saturate value) : IsInt value := by
  have hden : value.den = 1 := by
    rw [heq]
    exact Rat.den_intCast _
  have hcast : (value.num : ℚ) = value := (Rat.den_eq_one_iff value).mp hden
  have hsame : BscJson.saturate value.num = value.num := by
    rw [hcast, ← @Int.cast_inj ℚ, hcast]
    exact heq.symm
  exact ⟨hden, (BscJson.saturate_intCast_iff _).mp hsame⟩

variable {nearest : ℚ → ℚ}

/-- Whole, and strictly inside the range of an `int`. -/
def IsInnerInt (value : ℚ) : Prop :=
  IsInt value ∧ value.num ≠ BscJson.intMax ∧ value.num ≠ BscJson.intMin

theorem typed_nestedCell_number_iff (codec : TslCodec) (value : ℚ) :
    Typed nearest (.number value) (nestedCell codec (.number value)) ↔
      (IsInt value → IsInnerInt value) := by
  unfold nestedCell tranformValueFromJson Typed
  by_cases hint : IsInt value
  · have heq := hint.saturate_eq
    simp only [heq, hint.eq_num, true_and, hint, if_true, true_imp_iff,
      IsInnerInt]
    split
    · next hinner => exact iff_of_true rfl hinner
    · next hend =>
        apply iff_of_false _ hend
        intro hsame
        cases hsame
  · have hne : value ≠ BscJson.saturate value := by
      intro heq
      exact hint (isInt_of_eq_saturate heq)
    simp only [hne, false_and, if_false, hint, false_imp_iff, iff_true]
    rfl

theorem typed_actionCell_number_iff (codec : TslCodec) (value : ℚ) :
    Typed nearest (.number value) (actionCell codec (.number value)) ↔
      IsInt value := by
  rw [Typed]
  change some (TslCell.mk .int (.int (BscJson.saturate value))) = _ ↔ _
  by_cases hint : IsInt value
  · rw [if_pos hint, hint.saturate_eq]
    exact iff_of_true rfl hint
  · rw [if_neg hint]
    apply iff_of_false _ hint
    intro hsame
    cases hsame

theorem isDouble_saturate_of_isInt {value : ℚ} (hint : IsInt value) :
    isDouble (BscJson.saturate value) value = false := by
  have hle : value ≤ BscJson.intMax := by
    rw [← hint.eq_num]
    exact_mod_cast hint.2.2
  have hge : (BscJson.intMin : ℚ) ≤ value := by
    rw [← hint.eq_num]
    exact_mod_cast hint.2.1
  have hnear : |(BscJson.saturate value : ℚ) - value| ≤ dblEpsilon := by
    rw [hint.saturate_eq, hint.eq_num, sub_self, abs_zero]
    norm_num [dblEpsilon]
  rw [isDouble, decide_eq_false_iff_not, not_not]
  exact ⟨hnear, hle, hge⟩

theorem shadowCell_number (codec : TslCodec) (value : ℚ) :
    shadowCell codec (.number value) =
      if isDouble (BscJson.saturate value) value then
        some ⟨.double, .double value⟩
      else some ⟨.int, .int (BscJson.saturate value)⟩ := by
  change Option.map (fun tlv => tlv.data.cell)
    (if ¬ isDouble (BscJson.saturate value) value then
      some (ShadowValue.mk (.int (BscJson.saturate value)) 4)
    else some ⟨.double value, 8⟩) = _
  by_cases hdouble : isDouble (BscJson.saturate value) value = true
  · rw [if_pos hdouble, if_neg (not_not.mpr hdouble)]
    rfl
  · rw [if_neg hdouble, if_pos hdouble]
    rfl

/-- A number that is not whole is taken for an integer when it is within the
machine epsilon of its truncation. -/
theorem typed_shadowCell_number_iff (codec : TslCodec) (value : ℚ) :
    Typed nearest (.number value) (shadowCell codec (.number value)) ↔
      IsInt value ∨ isDouble (BscJson.saturate value) value = true := by
  rw [shadowCell_number, Typed]
  by_cases hint : IsInt value
  · rw [if_pos hint, isDouble_saturate_of_isInt hint, hint.saturate_eq]
    exact iff_of_true rfl (Or.inl hint)
  · rw [if_neg hint, or_iff_right hint]
    cases isDouble (BscJson.saturate value) value with
    | true => exact iff_of_true rfl rfl
    | false => simp

/-! ## Texts -/

/-- A tree that is printed and read again as it was. -/
structure Kept (nearest : ℚ → ℚ) (json : BscJson) : Prop where
  nesting : json.nesting ≤ BscJson.nestingLimit
  printed : json.AllNumbers fun value =>
    (BscJson.printNumber value).isSome = true
  unchanged : json.AllNumbers fun value =>
    nearest (BscJson.printedNumber value) = value

def TextKept (nearest : ℚ → ℚ) : BscJson → Prop
  | .array items => Kept nearest (.array items)
  | .object members => Kept nearest (.object members)
  | _ => True

theorem kept_iff {json : BscJson} (hnul : json.NulFree) :
    Kept nearest json ↔ ∃ text, BscJson.printValue false 0 json = some text ∧
      BscJson.parse nearest text = some json := by
  have hprinted := BscJson.printValue_isSome_iff false json 0
  have hunchanged := BscJson.mapNumbers_eq_self_iff
    (fun value => nearest (BscJson.printedNumber value)) json
  constructor
  · intro hkept
    rcases Option.isSome_iff_exists.mp (hprinted.mpr hkept.printed) with
      ⟨text, htext⟩
    refine ⟨text, htext, ?_⟩
    rw [BscJson.parse_of_printValue nearest hnul htext, if_pos hkept.nesting]
    exact congrArg some (hunchanged.mpr hkept.unchanged)
  · rintro ⟨text, htext, hparse⟩
    rw [BscJson.parse_of_printValue nearest hnul htext] at hparse
    split_ifs at hparse with hnesting
    exact {
      nesting := hnesting
      printed := hprinted.mp (Option.isSome_iff_exists.mpr ⟨text, htext⟩)
      unchanged := hunchanged.mp (Option.some.inj hparse) }

theorem textCell_inj {type : TslDataType} {first last : CString} :
    textCell type first = textCell type last ↔ first = last := by
  simp [textCell]

/-- The text of a container that is printed at once. -/
theorem printed_iff {json : BscJson} (hnul : json.NulFree)
    (type : TslDataType) :
    (∃ text, (BscJson.printValue false 0 json).map (textCell type) =
          some (textCell type text) ∧
        BscJson.parse nearest text = some json) ↔ Kept nearest json := by
  rw [kept_iff hnul]
  simp only [Option.map_eq_some_iff, textCell_inj, exists_eq_right]

/-! ## Agreement -/

variable {isMultiple : ℚ → ℚ → Bool}

theorem typed_nestedCell_iff {json : BscJson} (hnul : json.NulFree) :
    Typed nearest json
        (nestedCell (TslCodec.bscJson nearest isMultiple) json) ↔
      json ≠ .null ∧ (∀ value, json = .number value → IsInt value →
        IsInnerInt value) ∧ TextKept nearest json := by
  cases json with
  | null => simp [nestedCell, tranformValueFromJson, Typed]
  | bool value =>
      simp [nestedCell, tranformValueFromJson, Typed, TslValue.cell, TextKept]
  | number value =>
      rw [typed_nestedCell_number_iff]
      simp [TextKept]
  | string value =>
      simp [nestedCell, tranformValueFromJson, Typed, TslValue.cell, TextKept]
  | array items =>
      rw [Typed, nestedCell, tranformValueFromJson, Option.map_map]
      refine (printed_iff hnul .array).trans ?_
      simp [TextKept]
  | object members =>
      rw [Typed, nestedCell, tranformValueFromJson, Option.map_map]
      refine (printed_iff hnul .object).trans ?_
      simp [TextKept]

/-- An action has the text as it is, if there is one. -/
theorem action_printed_iff {json : BscJson} (hnul : json.NulFree)
    (type : TslDataType) :
    (∃ text, some (TslCell.mk type
          (.text (BscJson.printValue false 0 json))) =
          some (textCell type text) ∧
        BscJson.parse nearest text = some json) ↔ Kept nearest json := by
  rw [kept_iff hnul]
  simp [textCell]

theorem typed_actionCell_iff {json : BscJson} (hnul : json.NulFree) :
    Typed nearest json
        (actionCell (TslCodec.bscJson nearest isMultiple) json) ↔
      json ≠ .null ∧ (∀ value, json = .number value → IsInt value) ∧
        TextKept nearest json := by
  cases json with
  | null => simp [actionCell, Typed]
  | bool value =>
      cases value <;>
        simp [actionCell, stripData, Typed, jsonTypeTransformDev,
          BscJson.valueint, TextKept]
  | number value =>
      rw [typed_actionCell_number_iff]
      simp [TextKept]
  | string value =>
      simp [actionCell, stripData, Typed, jsonTypeTransformDev,
        BscJson.valuestring, TextKept, textCell]
  | array items =>
      refine (action_printed_iff hnul .array).trans ?_
      simp [TextKept]
  | object members =>
      refine (action_printed_iff hnul .object).trans ?_
      simp [TextKept]

theorem typed_shadowCell_iff {json : BscJson} (hnul : json.NulFree) :
    Typed nearest json
        (shadowCell (TslCodec.bscJson nearest isMultiple) json) ↔
      (∀ value, json = .number value →
        IsInt value ∨ isDouble (BscJson.saturate value) value = true) ∧
        TextKept nearest json := by
  cases json with
  | null => simp [shadowCell, json2tlv, Typed, TextKept]
  | bool value =>
      cases value <;>
        simp [shadowCell, json2tlv, Typed, ShadowData.cell,
          BscJson.valueint, TextKept]
  | number value =>
      rw [typed_shadowCell_number_iff]
      simp [TextKept]
  | string value =>
      simp [shadowCell, json2tlv, Typed, ShadowData.cell, TextKept]
  | array items =>
      rw [Typed, shadowCell, json2tlv, Option.map_map]
      refine (printed_iff hnul .array).trans ?_
      simp [TextKept]
  | object members =>
      rw [Typed, shadowCell, json2tlv, Option.map_map]
      refine (printed_iff hnul .object).trans ?_
      simp [TextKept]

/-- The three converters type a value as the table does, and alike. -/
structure ConvertersAgree (nearest : ℚ → ℚ) (isMultiple : ℚ → ℚ → Bool)
    (json : BscJson) : Prop where
  nested : Typed nearest json
    (nestedCell (TslCodec.bscJson nearest isMultiple) json)
  action : Typed nearest json
    (actionCell (TslCodec.bscJson nearest isMultiple) json)
  shadow : Typed nearest json
    (shadowCell (TslCodec.bscJson nearest isMultiple) json)
  action_eq : actionCell (TslCodec.bscJson nearest isMultiple) json =
    nestedCell (TslCodec.bscJson nearest isMultiple) json
  shadow_eq : shadowCell (TslCodec.bscJson nearest isMultiple) json =
    nestedCell (TslCodec.bscJson nearest isMultiple) json

/-- Two cells of one value are the same, the texts of a container apart. -/
theorem Typed.unique {json : BscJson} {first last : Option TslCell}
    (hfirst : Typed nearest json first) (hlast : Typed nearest json last)
    (harray : ∀ items, json ≠ .array items)
    (hobject : ∀ members, json ≠ .object members) : first = last := by
  cases json with
  | array items => exact absurd rfl (harray items)
  | object members => exact absurd rfl (hobject members)
  | null => exact Eq.trans hfirst (Eq.symm hlast)
  | bool value => exact Eq.trans hfirst (Eq.symm hlast)
  | number value => exact Eq.trans hfirst (Eq.symm hlast)
  | string value => exact Eq.trans hfirst (Eq.symm hlast)

/-- The texts of a container that is printed are one text. -/
theorem cells_eq_of_printed {codec : TslCodec} {json : BscJson}
    {text : CString} (hprint : codec.printUnformatted json = some text)
    (hnested : (∃ items, json = .array items) ∨
      ∃ members, json = .object members) :
    actionCell codec json = nestedCell codec json ∧
      shadowCell codec json = nestedCell codec json := by
  rcases hnested with ⟨items, rfl⟩ | ⟨members, rfl⟩
  · simp [actionCell, stripData, jsonTypeTransformDev, nestedCell,
      tranformValueFromJson, shadowCell, json2tlv, ShadowData.cell, hprint,
      TslValue.cell, textCell]
  · simp [actionCell, stripData, jsonTypeTransformDev, nestedCell,
      tranformValueFromJson, shadowCell, json2tlv, ShadowData.cell, hprint,
      TslValue.cell, textCell]

/-- They do on everything but null, the numbers that are no integers or an
end of their range, and the containers that are not printed and read again as
they were. -/
theorem convertersAgree_iff (nearest : ℚ → ℚ) (isMultiple : ℚ → ℚ → Bool)
    {json : BscJson} (hnul : json.NulFree) :
    ConvertersAgree nearest isMultiple json ↔
      json ≠ .null ∧ (∀ value, json = .number value → IsInnerInt value) ∧
        TextKept nearest json := by
  constructor
  · rintro ⟨hnested, haction, -⟩
    rw [typed_nestedCell_iff hnul] at hnested
    rw [typed_actionCell_iff hnul] at haction
    refine ⟨haction.1, ?_, haction.2.2⟩
    intro value hvalue
    exact hnested.2.1 value hvalue (haction.2.1 value hvalue)
  · rintro ⟨hnull, hinner, htext⟩
    have hnested : Typed nearest json
        (nestedCell (TslCodec.bscJson nearest isMultiple) json) := by
      rw [typed_nestedCell_iff hnul]
      exact ⟨hnull, fun value hvalue _ => hinner value hvalue, htext⟩
    have haction : Typed nearest json
        (actionCell (TslCodec.bscJson nearest isMultiple) json) := by
      rw [typed_actionCell_iff hnul]
      exact ⟨hnull, fun value hvalue => (hinner value hvalue).1, htext⟩
    have hshadow : Typed nearest json
        (shadowCell (TslCodec.bscJson nearest isMultiple) json) := by
      rw [typed_shadowCell_iff hnul]
      exact ⟨fun value hvalue => Or.inl (hinner value hvalue).1, htext⟩
    by_cases hcontainer : (∃ items, json = .array items) ∨
        ∃ members, json = .object members
    · have hkept : Kept nearest json := by
        rcases hcontainer with ⟨items, rfl⟩ | ⟨members, rfl⟩
        · exact htext
        · exact htext
      rcases (kept_iff hnul).mp hkept with ⟨text, hprint, -⟩
      have hsame := @cells_eq_of_printed
        (TslCodec.bscJson nearest isMultiple) _ _ hprint hcontainer
      exact ⟨hnested, haction, hshadow, hsame.1, hsame.2⟩
    · rw [not_or, not_exists, not_exists] at hcontainer
      exact ⟨hnested, haction, hshadow,
        haction.unique hnested hcontainer.1 hcontainer.2,
        hshadow.unique hnested hcontainer.1 hcontainer.2⟩

theorem convertersAgree_iff_pair :
    ConvertersAgree id (fun _ _ => false) (.array [.number 1, .number 2]) ↔
      BscJson.array [.number 1, .number 2] ≠ .null ∧
        (∀ value, BscJson.array [.number 1, .number 2] = .number value →
          IsInnerInt value) ∧
        TextKept id (.array [.number 1, .number 2]) :=
  convertersAgree_iff id (fun _ _ => false) (by
    simp [BscJson.NulFree, BscJson.NulFreeElements])

/-- The largest `int` is a double inside a nested value, a fraction is an
integer to an action, a number next to 1 is 1 to a shadow, null is a boolean
inside a nested value, and a small number in an array is zero in its text. -/
theorem converters_disagree :
    nestedCell TslCodec.scalarsOnly (.number 2147483647) =
        some ⟨.double, .double 2147483647⟩ ∧
      actionCell TslCodec.scalarsOnly (.number (5 / 2)) =
        some ⟨.int, .int 2⟩ ∧
      shadowCell TslCodec.scalarsOnly (.number (1 + 1 / 2 ^ 52)) =
        some ⟨.int, .int 1⟩ ∧
      nestedCell TslCodec.scalarsOnly .null = some ⟨.bool, .bool false⟩ ∧
      nestedCell (TslCodec.bscJson id fun _ _ => false)
          (.array [.number (1 / 10 ^ 16)]) =
        some (textCell .array "[0]".toList) ∧
      ¬ ∀ json, json.NulFree → ConvertersAgree id (fun _ _ => false) json := by
  refine ⟨?_, ?_, ?_, rfl, ?_, ?_⟩
  · decide +kernel
  · decide +kernel
  · decide +kernel
  · decide +kernel
  · intro hall
    have hnull := (hall .null trivial).nested
    cases hnull

end EziotSdk

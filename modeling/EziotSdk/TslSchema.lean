import EziotSdk.BscJson

/-!
# Value schemas of a profile

`tsl_schema_desc` and `parse_schema` of `profile_parse.c`.  The parser gives
every limit the value `0` that the document does not declare, keeps at most 31
characters of a name, and does not look at the result of parsing a nested
schema.  Allocations are taken to succeed.
-/

namespace EziotSdk

inductive TslErrno where
  | succ
  | paramInvalid
  | internal
  | memory
  | devNotFound
  | rsctypeNotFound
  | indexNotFound
  | domainNotFound
  | keyNotFound
  | valueType
  | valueIllegal
  | profileLoading
  deriving DecidableEq, Repr

structure TypeInteger where
  minimum : ℤ
  exminimum : ℤ
  maximum : ℤ
  exmaximum : ℤ
  multiple : ℤ
  intEnum : List ℤ
  deriving DecidableEq, Repr

structure TypeNumber where
  minimum : ℚ
  exminimum : ℚ
  maximum : ℚ
  exmaximum : ℚ
  multiple : ℚ
  numEnum : List ℚ
  deriving DecidableEq, Repr

structure TypeString where
  minLen : ℤ
  maxLen : ℤ
  strEnum : List CString
  deriving DecidableEq, Repr

/-- `tsl_schema_desc`: the alternative of the union that `item_type` selects,
after the key. -/
inductive TslSchemaDesc where
  | bool (propKey : CString)
  | integer (propKey : CString) (typeInteger : TypeInteger)
  | number (propKey : CString) (typeNumber : TypeNumber)
  | string (propKey : CString) (typeString : TypeString)
  | array (propKey : CString) (minItem maxItem : ℤ)
      (itemProp : List TslSchemaDesc)
  | object (propKey : CString) (maxProps minProps : ℤ)
      (required : List CString) (property : List TslSchemaDesc)
  | max (propKey : CString)
  deriving Repr

namespace TslSchemaDesc

/-- A descriptor after `memset`; the type code of booleans is `0`. -/
def zero : TslSchemaDesc := .bool []

def propKey : TslSchemaDesc → CString
  | .bool propKey => propKey
  | .integer propKey _ => propKey
  | .number propKey _ => propKey
  | .string propKey _ => propKey
  | .array propKey _ _ _ => propKey
  | .object propKey _ _ _ _ => propKey
  | .max propKey => propKey

def IsLeaf : TslSchemaDesc → Prop
  | .array _ _ _ _ => False
  | .object _ _ _ _ _ => False
  | _ => True

end TslSchemaDesc

/-! ## Keys of a schema document -/

def tslKeyType : CString := "type".toList
def tslKeyDataString : CString := "str".toList
def tslKeyDataBoolean : CString := "bool".toList
def tslKeyDataInteger : CString := "int".toList
def tslKeyDataNumber : CString := "num".toList
def tslKeyDataArray : CString := "arr".toList
def tslKeyDataObject : CString := "obj".toList
def tslKeyDataKey : CString := "key".toList
def tslKeyEnum : CString := "enum".toList
def tslKeyMinlength : CString := "mnl".toList
def tslKeyMaxlength : CString := "mxl".toList
def tslKeyMinimum : CString := "mn".toList
def tslKeyExclusiveMinimum : CString := "emn".toList
def tslKeyMaximum : CString := "mx".toList
def tslKeyExclusiveMaximum : CString := "emx".toList
def tslKeyMultiple : CString := "multi".toList
def tslKeyItems : CString := "itm".toList
def tslKeyMinItems : CString := "mnitm".toList
def tslKeyMaxItems : CString := "mxitm".toList
def tslKeyRequired : CString := "req".toList
def tslKeyMaxProperties : CString := "mnp".toList
def tslKeyMinProperties : CString := "mxp".toList
def tslKeySchemaProperties : CString := "prop".toList

/-- The cells of `prop_key`, of a required name and of a string of an
enumeration. -/
def maxNameLength : ℕ := 32 - 1

/-! ## The parser -/

/-- A member that is present and a number. -/
def memberNumber (js : BscJson) (key : CString) : Option ℚ :=
  match js.getObjectItem key with
  | some (.number value) => some value
  | _ => none

def memberInt (js : BscJson) (key : CString) : Option ℤ :=
  (memberNumber js key).map BscJson.saturate

/-- A member that is present and an array. -/
def memberArray (js : BscJson) (key : CString) : Option (List BscJson) :=
  match js.getObjectItem key with
  | some (.array items) => some items
  | _ => none

def memberString (js : BscJson) (key : CString) : Option CString :=
  match js.getObjectItem key with
  | some (.string value) => some value
  | _ => none

def memberObject (js : BscJson) (key : CString) : Option BscJson :=
  match js.getObjectItem key with
  | some (.object members) => some (.object members)
  | _ => none

def intEnumItem : BscJson → ℤ
  | .number value => BscJson.saturate value
  | _ => 0

/-- The exclusive limit is read only without the inclusive one.  The conversion
of a multiple that is no `int` is open in C; here it is the nearest one. -/
def parseInteger (js : BscJson) : TypeInteger where
  minimum := (memberInt js tslKeyMinimum).getD 0
  exminimum :=
    if memberNumber js tslKeyMinimum = none then
      (memberInt js tslKeyExclusiveMinimum).getD 0
    else 0
  maximum := (memberInt js tslKeyMaximum).getD 0
  exmaximum :=
    if memberNumber js tslKeyMaximum = none then
      (memberInt js tslKeyExclusiveMaximum).getD 0
    else 0
  multiple := (memberInt js tslKeyMultiple).getD 0
  intEnum := ((memberArray js tslKeyEnum).getD []).map intEnumItem

def parseNumber (js : BscJson) : TypeNumber where
  minimum := (memberNumber js tslKeyMinimum).getD 0
  exminimum :=
    if memberNumber js tslKeyMinimum = none then
      (memberNumber js tslKeyExclusiveMinimum).getD 0
    else 0
  maximum := (memberNumber js tslKeyMaximum).getD 0
  exmaximum :=
    if memberNumber js tslKeyMaximum = none then
      (memberNumber js tslKeyExclusiveMaximum).getD 0
    else 0
  multiple := (memberNumber js tslKeyMultiple).getD 0
  numEnum := ((memberArray js tslKeyEnum).getD []).map BscJson.valuedouble

/-- The names that an array of strings is copied to; an item that is not a
string leaves its cell zeroed. -/
def copyNames (items : List BscJson) : List CString :=
  items.map fun item =>
    CString.strncpy (item.valuestring.getD []) maxNameLength

def parseString (js : BscJson) : TypeString where
  minLen := (memberInt js tslKeyMinlength).getD 0
  maxLen := (memberInt js tslKeyMaxlength).getD 0
  strEnum := copyNames ((memberArray js tslKeyEnum).getD [])

def parsePropKey (js : BscJson) : CString :=
  CString.strncpy ((memberString js tslKeyDataKey).getD []) maxNameLength

/-- A schema without a type is accepted with a zeroed descriptor, and so is
one of an unknown type. -/
def parseSchema (js : BscJson) : TslErrno × TslSchemaDesc :=
  match memberString js tslKeyType with
  | none => (.succ, .zero)
  | some typeName =>
      let propKey := parsePropKey js
      if typeName = tslKeyDataString then
        (.succ, .string propKey (parseString js))
      else if typeName = tslKeyDataBoolean then (.succ, .bool propKey)
      else if typeName = tslKeyDataInteger then
        (.succ, .integer propKey (parseInteger js))
      else if typeName = tslKeyDataNumber then
        (.succ, .number propKey (parseNumber js))
      else if typeName = tslKeyDataObject then
        let property :=
          match _hprop : js.getObjectItem tslKeySchemaProperties with
          | some (.array items) =>
              items.attach.map fun item =>
                match _hitem : item.1 with
                | .object members => (parseSchema (.object members)).2
                | _ => .zero
          | _ => []
        (.succ,
          .object propKey ((memberInt js tslKeyMaxProperties).getD 0)
            ((memberInt js tslKeyMinProperties).getD 0)
            (copyNames ((memberArray js tslKeyRequired).getD [])) property)
      else if typeName = tslKeyDataArray then
        let minItem := (memberInt js tslKeyMinItems).getD 0
        let maxItem := (memberInt js tslKeyMaxItems).getD 0
        match _hitems : js.getObjectItem tslKeyItems with
        | some (.object members) =>
            (.succ, .array propKey minItem maxItem
              [(parseSchema (.object members)).2])
        | _ => (.paramInvalid, .array propKey minItem maxItem [])
      else (.succ, .max propKey)
termination_by sizeOf js
decreasing_by
  · have hprops := BscJson.sizeOf_getObjectItem_lt _hprop
    have hmem := item.2
    rw [_hitem] at hmem
    have hlt := List.sizeOf_lt_of_mem hmem
    simp only [BscJson.array.sizeOf_spec] at hprops
    omega
  · exact BscJson.sizeOf_getObjectItem_lt _hitems

end EziotSdk

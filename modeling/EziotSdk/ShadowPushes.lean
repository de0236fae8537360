import EziotSdk.ShadowPayloads

/-!
# Pushed values

`shadow_core_propertie_changed` releases the value that a key has cached,
encodes the new one and returns success, whether there was anything to encode
or not.
-/

namespace EziotSdk

/-! ## Keys after a change -/

theorem find?_updateFirst_self
    {α : Type} {chosen : α → Bool} {change : α → α}
    (hchosen : ∀ node, chosen (change node) = chosen node) (list : List α) :
    (FirstMatch.updateFirst chosen change list).find? chosen =
      (list.find? chosen).map change := by
  induction list with
  | nil => rfl
  | cons first rest ih =>
      unfold FirstMatch.updateFirst
      by_cases hfirst : chosen first = true
      · rw [if_pos hfirst, List.find?_cons_of_pos hfirst,
          List.find?_cons_of_pos ((hchosen first).trans hfirst)]
        rfl
      · rw [if_neg hfirst, List.find?_cons_of_neg hfirst,
          List.find?_cons_of_neg hfirst]
        exact ih

/-- A search below the node that was changed finds the changed key. -/
theorem bind_find?_updateFirst
    {α : Type} {chosen : α → Bool} {change : α → α}
    {find : α → Option NodeKey} {keyChange : NodeKey → NodeKey}
    (hchosen : ∀ node, chosen (change node) = chosen node)
    (hfind : ∀ node, find (change node) = (find node).map keyChange)
    (list : List α) :
    ((FirstMatch.updateFirst chosen change list).find? chosen).bind find =
      ((list.find? chosen).bind find).map keyChange := by
  rw [find?_updateFirst_self hchosen]
  cases list.find? chosen with
  | none => rfl
  | some node => exact hfind node

theorem findKey_changeKey
    {change : NodeKey → NodeKey}
    (hkey : ∀ node, (change node).key = node.key) (name : KeyName)
    (devs : List NodeDev) :
    findKey name (changeKey name change devs) =
      (findKey name devs).map change := by
  have hdomain (domain : NodeDomain) :
      (domain.changeKey name change).findKey name =
        (domain.findKey name).map change := by
    apply find?_updateFirst_self
    intro node
    rw [hkey]
  have hindex (index : NodeIndex) :
      (index.changeKey name change).findKey name =
        (index.findKey name).map change :=
    @bind_find?_updateFirst _ _ (NodeDomain.changeKey name change) _ _
      (fun _ => rfl) hdomain index.domainLst
  have hset (set : NodeIndexSet) :
      (set.changeKey name change).findKey name =
        (set.findKey name).map change :=
    @bind_find?_updateFirst _ _ (NodeIndex.changeKey name change) _ _
      (fun _ => rfl) hindex set.indexLst
  have hdev (dev : NodeDev) :
      (dev.changeKey name change).findKey name =
        (dev.findKey name).map change :=
    @bind_find?_updateFirst _ _ (NodeIndexSet.changeKey name change) _ _
      (fun _ => rfl) hset dev.typeLst
  exact @bind_find?_updateFirst _ _ (NodeDev.changeKey name change) _ _
    (fun _ => rfl) hdev devs

/-! ## Encodings -/

/-- The JSON of a value.  A boolean is the first byte of the union that also
holds the integer. -/
def ShadowData.encoding (parse : CString → Option BscJson) :
    ShadowData → Option BscJson
  | .bool valueInt => some (.bool (valueInt % 2 ^ 8 ≠ 0))
  | .int valueInt => some (.number valueInt)
  | .double valueDouble => some (.number valueDouble)
  | .string value => some (.string value)
  | .array value => parse value
  | .object value => parse value
  | .other => none

/-- The bytes of the union that the boolean does not use are clear. -/
def ShadowData.BoolClean : ShadowData → Prop
  | .bool valueInt => valueInt % 2 ^ 8 = 0 → valueInt = 0
  | _ => True

theorem tlv2json_eq_encoding_iff
    {parse : CString → Option BscJson} {value : ShadowValue}
    (hlength : value.length ≠ 0) :
    tlv2json parse value = value.data.encoding parse ↔
      value.data.BoolClean := by
  unfold tlv2json
  rw [if_neg hlength]
  cases value.data with
  | bool valueInt =>
      simp only [ShadowData.encoding, ShadowData.BoolClean,
        Option.some.injEq, BscJson.bool.injEq, decide_eq_decide]
      constructor
      · intro hsame hbyte
        by_contra hne
        exact hsame.mp hne hbyte
      · intro hclean
        constructor
        · intro hne hbyte
          exact hne (hclean hbyte)
        · rintro hbyte rfl
          exact hbyte rfl
  | int | double | string | array | object | other =>
      exact iff_of_true rfl trivial

/-! ## The push -/

/-- A push of a value on a registered key succeeds with the encoded value in
the cache, or fails and leaves the key. -/
structure PushKept (parse : CString → Option BscJson)
    (name : KeyName) (value : ShadowValue) (devs : List NodeDev)
    (result : Bool × List NodeDev) (node : NodeKey) : Prop where
  success : result.1 = true → ∃ after json,
    findKey name result.2 = some after ∧ after.needReport = true ∧
      after.jsonValue = some json ∧ value.data.encoding parse = some json
  failure : tlv2json parse value = none →
    result.1 = false ∧ findKey name result.2 = some node

/-- There is something to encode, and the encoding is that of the value. -/
structure Encodable (parse : CString → Option BscJson)
    (value : ShadowValue) : Prop where
  length : value.length ≠ 0
  encoding : value.data.encoding parse ≠ none
  bool : value.data.BoolClean

theorem encodable_iff
    {parse : CString → Option BscJson} {value : ShadowValue} :
    Encodable parse value ↔ ∃ json, tlv2json parse value = some json ∧
      value.data.encoding parse = some json := by
  constructor
  · rintro ⟨hlength, hencoding, hbool⟩
    obtain ⟨json, hjson⟩ := Option.ne_none_iff_exists'.mp hencoding
    have htlv : tlv2json parse value = value.data.encoding parse :=
      (tlv2json_eq_encoding_iff hlength).mpr hbool
    exact ⟨json, htlv.trans hjson, hjson⟩
  · rintro ⟨json, htlv, hjson⟩
    have hlength : value.length ≠ 0 := by
      intro hzero
      rw [tlv2json, if_pos hzero] at htlv
      cases htlv
    constructor
    · exact hlength
    · rw [hjson]
      exact Option.some_ne_none json
    · exact (tlv2json_eq_encoding_iff hlength).mp (htlv.trans hjson.symm)

/-- A push on a registered key keeps its promise exactly for the values that
can be encoded. -/
theorem pushKept_iff (parse : CString → Option BscJson)
    (devSubserial : CString) (res : ShadowRes) (domainId pkey : CString)
    (value : ShadowValue) (devs : List NodeDev) :
    (∀ node, findKey (res.keyName devSubserial domainId pkey) devs =
        some node →
      PushKept parse (res.keyName devSubserial domainId pkey) value devs
        (shadowCorePropertieChanged parse devSubserial res domainId pkey
          (some value) devs) node) ↔
      (findKey (res.keyName devSubserial domainId pkey) devs ≠ none →
        Encodable parse value) := by
  cases hfind : findKey (res.keyName devSubserial domainId pkey) devs with
  | none => simp
  | some node =>
      have hafter : findKey (res.keyName devSubserial domainId pkey)
          (changeKey (res.keyName devSubserial domainId pkey)
            (NodeKey.pushed parse (some value)) devs) =
          some (node.pushed parse (some value)) := by
        have hchange := @findKey_changeKey
          (NodeKey.pushed parse (some value)) (fun _ => rfl)
          (res.keyName devSubserial domainId pkey) devs
        rw [hfind] at hchange
        exact hchange
      rw [shadowCorePropertieChanged_of_some (some value) hfind,
        encodable_iff]
      constructor
      · intro hkept _
        obtain ⟨after, json, hfound, -, hjson, hencoding⟩ :=
          (hkept node rfl).success rfl
        rw [hafter, Option.some.injEq] at hfound
        subst hfound
        exact ⟨json, hjson, hencoding⟩
      · intro hencodable other _
        obtain ⟨json, htlv, hencoding⟩ := hencodable (Option.some_ne_none _)
        constructor
        · intro _
          exact ⟨_, json, hafter, rfl, htlv, hencoding⟩
        · intro hnone
          rw [htlv] at hnone
          cases hnone

/-- An empty text, and a broken array, are pushed with success and leave a
key without the value it had. -/
theorem push_drops_value :
    let devs := (shadowCorePropertieChanged (fun _ => none) "hub".toList
      lampRes "power".toList "on".toList (some ⟨.int 7, 4⟩) lampTree).2
    let name := lampRes.keyName "hub".toList "power".toList "on".toList
    let cached := fun devs : List NodeDev =>
      (findKey name devs).map fun node => node.jsonValue.isSome
    let push := fun value : ShadowValue =>
      shadowCorePropertieChanged (fun _ => none) "hub".toList lampRes
        "power".toList "on".toList (some value) devs
    cached devs = some true ∧
      (push ⟨.string [], 0⟩).1 = true ∧
      cached (push ⟨.string [], 0⟩).2 = some false ∧
      (push ⟨.array "[1,".toList, 3⟩).1 = true ∧
      cached (push ⟨.array "[1,".toList, 3⟩).2 = some false := by
  decide +kernel

end EziotSdk

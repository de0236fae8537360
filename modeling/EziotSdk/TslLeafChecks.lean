import EziotSdk.TslDocument
import EziotSdk.TslValueCheck

/-!
# Integer and string leaves

The check of an integer or a string against the constraints that its schema
document declares.  The check stops at the first kind of constraint that
decides, keeps no difference between a limit `0` and a limit that is absent,
and looks at a range only when both of its ends count.  What it looks at is
`Tested`, and what it passes over is `Skipped`; together they are what the
document declares.
-/

namespace EziotSdk

/-! ## Integers -/

namespace IntDoc

/-- The value meets every constraint that the document declares. -/
structure Satisfied (doc : IntDoc) (value : ℤ) : Prop where
  enum : ∀ values ∈ doc.enum, value ∈ values
  multipleOf : ∀ multiple ∈ doc.multipleOf, multiple ∣ value
  minimum : ∀ limit ∈ doc.minimum, limit ≤ value
  maximum : ∀ limit ∈ doc.maximum, value ≤ limit
  exclusiveMinimum : ∀ limit ∈ doc.exclusiveMinimum, limit < value
  exclusiveMaximum : ∀ limit ∈ doc.exclusiveMaximum, value < limit

def EnumDecides (doc : IntDoc) : Prop := doc.enum.getD [] ≠ []

def RangeDecides (doc : IntDoc) : Prop :=
  doc.maximum.getD 0 ≠ 0 ∧ doc.minimum.getD 0 ≠ 0 ∧
    doc.minimum.getD 0 ≤ doc.maximum.getD 0

/-- An exclusive limit counts only without the inclusive one. -/
def ExclusiveRangeDecides (doc : IntDoc) : Prop :=
  doc.minimum = none ∧ doc.maximum = none ∧
    doc.exclusiveMaximum.getD 0 ≠ 0 ∧ doc.exclusiveMinimum.getD 0 ≠ 0 ∧
    doc.exclusiveMinimum.getD 0 < doc.exclusiveMaximum.getD 0

/-- The remainder that the check takes is undefined. -/
def Overflows (doc : IntDoc) (value : ℤ) : Prop :=
  ¬doc.EnumDecides ∧ doc.multipleOf = some (-1) ∧ value = BscJson.intMin

/-- The constraints that decide about a value. -/
structure Tested (doc : IntDoc) (value : ℤ) : Prop where
  enum : doc.EnumDecides → value ∈ doc.enum.getD []
  multipleOf :
    ¬doc.EnumDecides → doc.multipleOf.getD 0 ≠ 0 →
      doc.multipleOf.getD 0 ∣ value
  range :
    ¬doc.EnumDecides → doc.RangeDecides →
      doc.minimum.getD 0 ≤ value ∧ value ≤ doc.maximum.getD 0
  exclusiveRange :
    ¬doc.EnumDecides → doc.ExclusiveRangeDecides →
      doc.exclusiveMinimum.getD 0 < value ∧
        value < doc.exclusiveMaximum.getD 0

/-- The declared constraints that are passed over: all others beside an
enumeration, an empty enumeration, a multiple of `0`, and the ends of a range
that does not decide. -/
structure Skipped (doc : IntDoc) (value : ℤ) : Prop where
  enum : ¬doc.EnumDecides → doc.enum = none
  multipleOf :
    doc.EnumDecides ∨ doc.multipleOf = some 0 →
      ∀ multiple ∈ doc.multipleOf, multiple ∣ value
  range :
    doc.EnumDecides ∨ ¬doc.RangeDecides →
      (∀ limit ∈ doc.minimum, limit ≤ value) ∧
        ∀ limit ∈ doc.maximum, value ≤ limit
  exclusiveRange :
    doc.EnumDecides ∨ ¬doc.ExclusiveRangeDecides →
      (∀ limit ∈ doc.exclusiveMinimum, limit < value) ∧
        ∀ limit ∈ doc.exclusiveMaximum, value < limit

theorem EnumDecides.enum_eq
    {doc : IntDoc} (hdecides : doc.EnumDecides) :
    doc.enum = some (doc.enum.getD []) := by
  unfold EnumDecides at hdecides
  cases henum : doc.enum with
  | none => simp [henum] at hdecides
  | some values => rfl

theorem RangeDecides.declared
    {doc : IntDoc} (hdecides : doc.RangeDecides) :
    doc.minimum = some (doc.minimum.getD 0) ∧
      doc.maximum = some (doc.maximum.getD 0) := by
  obtain ⟨hmaximum, hminimum, -⟩ := hdecides
  constructor
  · cases hlimit : doc.minimum with
    | none => simp [hlimit] at hminimum
    | some limit => rfl
  · cases hlimit : doc.maximum with
    | none => simp [hlimit] at hmaximum
    | some limit => rfl

theorem ExclusiveRangeDecides.declared
    {doc : IntDoc} (hdecides : doc.ExclusiveRangeDecides) :
    doc.exclusiveMinimum = some (doc.exclusiveMinimum.getD 0) ∧
      doc.exclusiveMaximum = some (doc.exclusiveMaximum.getD 0) := by
  obtain ⟨-, -, hmaximum, hminimum, -⟩ := hdecides
  constructor
  · cases hlimit : doc.exclusiveMinimum with
    | none => simp [hlimit] at hminimum
    | some limit => rfl
  · cases hlimit : doc.exclusiveMaximum with
    | none => simp [hlimit] at hmaximum
    | some limit => rfl

theorem Satisfied.tested
    {doc : IntDoc} {value : ℤ} (hsatisfied : doc.Satisfied value) :
    doc.Tested value := by
  constructor
  · intro hdecides
    exact hsatisfied.enum _ hdecides.enum_eq
  · intro _ hnonzero
    apply hsatisfied.multipleOf
    cases hmultiple : doc.multipleOf with
    | none => simp [hmultiple] at hnonzero
    | some multiple => rfl
  · intro _ hdecides
    exact ⟨hsatisfied.minimum _ hdecides.declared.1,
      hsatisfied.maximum _ hdecides.declared.2⟩
  · intro _ hdecides
    exact ⟨hsatisfied.exclusiveMinimum _ hdecides.declared.1,
      hsatisfied.exclusiveMaximum _ hdecides.declared.2⟩

/-- An empty enumeration has no value, so a satisfied document declares
none. -/
theorem Satisfied.skipped
    {doc : IntDoc} {value : ℤ} (hsatisfied : doc.Satisfied value) :
    doc.Skipped value := by
  constructor
  · intro hnot
    cases henum : doc.enum with
    | none => rfl
    | some values =>
        have hmem := hsatisfied.enum values henum
        have hempty : values = [] := by simpa [EnumDecides, henum] using hnot
        simp [hempty] at hmem
  · exact fun _ => hsatisfied.multipleOf
  · exact fun _ => ⟨hsatisfied.minimum, hsatisfied.maximum⟩
  · exact fun _ => ⟨hsatisfied.exclusiveMinimum, hsatisfied.exclusiveMaximum⟩

theorem satisfied_of_tested_of_skipped
    {doc : IntDoc} {value : ℤ}
    (htested : doc.Tested value) (hskipped : doc.Skipped value) :
    doc.Satisfied value := by
  have hrange :
      (∀ limit ∈ doc.minimum, limit ≤ value) ∧
        ∀ limit ∈ doc.maximum, value ≤ limit := by
    by_cases hskip : doc.EnumDecides ∨ ¬doc.RangeDecides
    · exact hskipped.range hskip
    · push Not at hskip
      have hbounds := htested.range hskip.1 hskip.2
      rw [hskip.2.declared.1, hskip.2.declared.2]
      simpa using hbounds
  have hexclusive :
      (∀ limit ∈ doc.exclusiveMinimum, limit < value) ∧
        ∀ limit ∈ doc.exclusiveMaximum, value < limit := by
    by_cases hskip : doc.EnumDecides ∨ ¬doc.ExclusiveRangeDecides
    · exact hskipped.exclusiveRange hskip
    · push Not at hskip
      have hbounds := htested.exclusiveRange hskip.1 hskip.2
      rw [hskip.2.declared.1, hskip.2.declared.2]
      simpa using hbounds
  constructor
  · intro values hvalues
    by_cases hdecides : doc.EnumDecides
    · have hmem := htested.enum hdecides
      rw [Option.mem_def.mp hvalues] at hmem
      exact hmem
    · rw [hskipped.enum hdecides] at hvalues
      cases hvalues
  · intro multiple hmultiple
    by_cases hskip : doc.EnumDecides ∨ doc.multipleOf = some 0
    · exact hskipped.multipleOf hskip multiple hmultiple
    · push Not at hskip
      rw [Option.mem_def.mp hmultiple] at hskip
      have hdvd := htested.multipleOf hskip.1
      rw [Option.mem_def.mp hmultiple] at hdvd
      apply hdvd
      simpa using hskip.2
  · exact hrange.1
  · exact hrange.2
  · exact hexclusive.1
  · exact hexclusive.2

theorem satisfied_iff (doc : IntDoc) (value : ℤ) :
    doc.Satisfied value ↔ doc.Tested value ∧ doc.Skipped value := by
  constructor
  · exact fun hsatisfied => ⟨hsatisfied.tested, hsatisfied.skipped⟩
  · exact fun hboth => satisfied_of_tested_of_skipped hboth.1 hboth.2

instance (doc : IntDoc) : Decidable doc.EnumDecides :=
  inferInstanceAs (Decidable (_ ≠ _))

instance (doc : IntDoc) : Decidable doc.RangeDecides :=
  inferInstanceAs (Decidable (_ ∧ _))

instance (doc : IntDoc) : Decidable doc.ExclusiveRangeDecides :=
  inferInstanceAs (Decidable (_ ∧ _))

instance (doc : IntDoc) (value : ℤ) : Decidable (doc.Overflows value) :=
  inferInstanceAs (Decidable (_ ∧ _))

theorem remainderOverflows_desc_iff
    {doc : IntDoc} {value : ℤ} (henum : ¬doc.EnumDecides) :
    (doc.desc.multiple ≠ 0 ∧ RemainderOverflows value doc.desc.multiple) ↔
      doc.Overflows value := by
  unfold RemainderOverflows Overflows desc
  cases hmultiple : doc.multipleOf with
  | none => simp
  | some multiple =>
      simp only [Option.getD_some, Option.some.injEq]
      constructor
      · exact fun hover => ⟨henum, hover.2.2, hover.2.1⟩
      · rintro ⟨-, rfl, hvalue⟩
        exact ⟨by omega, hvalue, rfl⟩

theorem exclusiveRange_desc_iff (doc : IntDoc) :
    (doc.desc.exmaximum ≠ 0 ∧ doc.desc.exminimum ≠ 0 ∧
        doc.desc.exminimum < doc.desc.exmaximum) ↔
      doc.ExclusiveRangeDecides := by
  unfold ExclusiveRangeDecides desc
  by_cases hminimum : doc.minimum = none <;>
    by_cases hmaximum : doc.maximum = none <;>
      simp [hminimum, hmaximum]

theorem not_exclusiveRangeDecides
    {doc : IntDoc} (hdecides : doc.RangeDecides) :
    ¬doc.ExclusiveRangeDecides := by
  intro hexclusive
  have hdeclared := hdecides.declared.1
  rw [hexclusive.1] at hdeclared
  cases hdeclared

theorem exclusiveRangeDecides_desc
    {doc : IntDoc} (hdecides : doc.ExclusiveRangeDecides) :
    doc.desc.exminimum = doc.exclusiveMinimum.getD 0 ∧
      doc.desc.exmaximum = doc.exclusiveMaximum.getD 0 := by
  simp [desc, hdecides.1, hdecides.2.1]

/-- The result of the check in terms of the document. -/
theorem checkIntValue_desc
    {doc : IntDoc} {value : ℤ} (hdefined : ¬doc.Overflows value) :
    Decides (checkIntValue doc.desc value) (doc.Tested value) := by
  unfold checkIntValue Decides
  by_cases henum : doc.EnumDecides
  · refine ⟨_, if_pos henum, ?_⟩
    rw [legalIf_eq_succ]
    constructor
    · intro hmem
      constructor
      · exact fun _ => hmem
      all_goals exact fun hnot => absurd henum hnot
    · exact fun htested => htested.enum henum
  have hnoEnum : ¬doc.desc.intEnum ≠ [] := henum
  rw [if_neg hnoEnum,
    if_neg (mt (remainderOverflows_desc_iff henum).mp hdefined)]
  by_cases hmultiple :
      doc.desc.multiple ≠ 0 ∧ value.tmod doc.desc.multiple ≠ 0
  · refine ⟨_, if_pos hmultiple, ?_⟩
    constructor
    · intro hsucc
      cases hsucc
    · intro htested
      have hdvd := htested.multipleOf henum hmultiple.1
      exact absurd (Int.dvd_iff_tmod_eq_zero.mp hdvd) hmultiple.2
  have hdvd : doc.multipleOf.getD 0 ≠ 0 → doc.multipleOf.getD 0 ∣ value := by
    intro hnonzero
    apply Int.dvd_iff_tmod_eq_zero.mpr
    by_contra hmod
    exact hmultiple ⟨hnonzero, hmod⟩
  rw [if_neg hmultiple]
  by_cases hrange : doc.RangeDecides
  · refine ⟨_, if_pos hrange, ?_⟩
    rw [legalIf_eq_succ]
    constructor
    · intro hbounds
      constructor
      · exact fun hdecides => absurd hdecides henum
      · exact fun _ => hdvd
      · exact fun _ _ => ⟨hbounds.2, hbounds.1⟩
      · exact fun _ hexclusive =>
          absurd hexclusive (not_exclusiveRangeDecides hrange)
    · intro htested
      have hbounds := htested.range henum hrange
      exact ⟨hbounds.2, hbounds.1⟩
  have hnoRange :
      ¬(doc.desc.maximum ≠ 0 ∧ doc.desc.minimum ≠ 0 ∧
        doc.desc.minimum ≤ doc.desc.maximum) := hrange
  rw [if_neg hnoRange]
  by_cases hexclusive : doc.ExclusiveRangeDecides
  · refine ⟨_, if_pos ((exclusiveRange_desc_iff doc).mpr hexclusive), ?_⟩
    rw [legalIf_eq_succ, (exclusiveRangeDecides_desc hexclusive).1,
      (exclusiveRangeDecides_desc hexclusive).2]
    constructor
    · intro hbounds
      constructor
      · exact fun hdecides => absurd hdecides henum
      · exact fun _ => hdvd
      · exact fun _ hdecides => absurd hdecides hrange
      · exact fun _ _ => ⟨hbounds.2, hbounds.1⟩
    · intro htested
      have hbounds := htested.exclusiveRange henum hexclusive
      exact ⟨hbounds.2, hbounds.1⟩
  · refine ⟨_, if_neg (mt (exclusiveRange_desc_iff doc).mp hexclusive), ?_⟩
    simp only [true_iff]
    constructor
    · exact fun hdecides => absurd hdecides henum
    · exact fun _ => hdvd
    · exact fun _ hdecides => absurd hdecides hrange
    · exact fun _ hdecides => absurd hdecides hexclusive

theorem checkIntValue_desc_of_overflows
    {doc : IntDoc} {value : ℤ} (hoverflows : doc.Overflows value) :
    checkIntValue doc.desc value = none := by
  have hremainder :=
    (remainderOverflows_desc_iff hoverflows.1).mpr hoverflows
  have hnoEnum : ¬doc.desc.intEnum ≠ [] := hoverflows.1
  unfold checkIntValue
  rw [if_neg hnoEnum, if_pos hremainder]

/-- The schema is accepted, and the check of the value is defined and agrees
with the constraints that the document declares. -/
def CheckedExactly
    (codec : TslCodec) (doc : IntDoc) (js : BscJson) (value : ℤ) : Prop :=
  (parseSchema js).1 = .succ ∧
    Decides (checkSchemaValue codec (parseSchema js).2 (.int value))
      (doc.Satisfied value)

theorem Reads.checkedExactly_iff
    {doc : IntDoc} {js : BscJson} (hreads : doc.Reads js)
    (codec : TslCodec) (value : ℤ) :
    doc.CheckedExactly codec js value ↔
      ¬doc.Overflows value ∧ (doc.Tested value → doc.Skipped value) := by
  have hcheck :
      checkSchemaValue codec (parseSchema js).2 (.int value) =
        checkIntValue doc.desc value := by
    rw [hreads.parseSchema_eq, checkSchemaValue]
  have haccepted : (parseSchema js).1 = .succ := by
    rw [hreads.parseSchema_eq]
  simp only [CheckedExactly, hcheck, haccepted, true_and]
  by_cases hoverflows : doc.Overflows value
  · simp [checkIntValue_desc_of_overflows hoverflows, hoverflows]
  · rw [(checkIntValue_desc hoverflows).decides_iff, satisfied_iff]
    simp only [hoverflows, not_false_eq_true, true_and]
    tauto

end IntDoc

/-! ## Strings -/

namespace StringDoc

def LengthMet (doc : StringDoc) (value : CString) : Prop :=
  (∀ limit ∈ doc.minLength, limit ≤ value.length) ∧
    ∀ limit ∈ doc.maxLength, (value.length : ℤ) ≤ limit

structure Satisfied (doc : StringDoc) (value : CString) : Prop where
  enum : ∀ values ∈ doc.enum, value ∈ values
  length : doc.LengthMet value

def EnumDecides (doc : StringDoc) : Prop := doc.enum.getD [] ≠ []

def LengthDecides (doc : StringDoc) : Prop :=
  doc.minLength.getD 0 ≠ 0 ∧ doc.maxLength.getD 0 ≠ 0 ∧
    doc.minLength.getD 0 ≤ doc.maxLength.getD 0

/-- The constraints that decide about a value; the names of an enumeration
are cut to 31 characters. -/
structure Tested (doc : StringDoc) (value : CString) : Prop where
  enum :
    doc.EnumDecides →
      value ∈ (doc.enum.getD []).map fun name =>
        CString.strncpy name maxNameLength
  length :
    ¬doc.EnumDecides → doc.LengthDecides →
      doc.minLength.getD 0 ≤ value.length ∧
        value.length ≤ doc.maxLength.getD 0

/-- The declared constraints that are passed over: the lengths beside an
enumeration, what a name has after its first 31 characters, an empty
enumeration, and the ends of a range that does not decide. -/
structure Skipped (doc : StringDoc) (value : CString) : Prop where
  enum : doc.EnumDecides → value ∈ doc.enum.getD []
  noEnum : ¬doc.EnumDecides → doc.enum = none
  length : doc.EnumDecides ∨ ¬doc.LengthDecides → doc.LengthMet value

/-- The value is a name of the enumeration that is too long to be kept. -/
def CutOff (doc : StringDoc) (value : CString) : Prop :=
  doc.EnumDecides ∧ value ∈ doc.enum.getD [] ∧ doc.LengthMet value ∧
    maxNameLength < value.length

theorem EnumDecides.enum_eq
    {doc : StringDoc} (hdecides : doc.EnumDecides) :
    doc.enum = some (doc.enum.getD []) := by
  unfold EnumDecides at hdecides
  cases henum : doc.enum with
  | none => simp [henum] at hdecides
  | some values => rfl

theorem LengthDecides.lengthMet_iff
    {doc : StringDoc} (hdecides : doc.LengthDecides) (value : CString) :
    doc.LengthMet value ↔
      doc.minLength.getD 0 ≤ value.length ∧
        value.length ≤ doc.maxLength.getD 0 := by
  obtain ⟨hmin, hmax, -⟩ := hdecides
  unfold LengthMet
  cases hminLength : doc.minLength with
  | none => simp [hminLength] at hmin
  | some minLimit =>
      cases hmaxLength : doc.maxLength with
      | none => simp [hmaxLength] at hmax
      | some maxLimit => simp

theorem satisfied_of_tested_of_skipped
    {doc : StringDoc} {value : CString}
    (htested : doc.Tested value) (hskipped : doc.Skipped value) :
    doc.Satisfied value := by
  constructor
  · intro values hvalues
    by_cases hdecides : doc.EnumDecides
    · have hmem := hskipped.enum hdecides
      rw [Option.mem_def.mp hvalues] at hmem
      exact hmem
    · rw [hskipped.noEnum hdecides] at hvalues
      cases hvalues
  · by_cases hskip : doc.EnumDecides ∨ ¬doc.LengthDecides
    · exact hskipped.length hskip
    · push Not at hskip
      apply (hskip.2.lengthMet_iff value).mpr
      exact htested.length hskip.1 hskip.2

theorem Satisfied.skipped
    {doc : StringDoc} {value : CString} (hsatisfied : doc.Satisfied value) :
    doc.Skipped value := by
  constructor
  · intro hdecides
    exact hsatisfied.enum _ hdecides.enum_eq
  · intro hnot
    cases henum : doc.enum with
    | none => rfl
    | some values =>
        have hmem := hsatisfied.enum values henum
        have hempty : values = [] := by simpa [EnumDecides, henum] using hnot
        simp [hempty] at hmem
  · exact fun _ => hsatisfied.length

theorem Satisfied.tested
    {doc : StringDoc} {value : CString} (hsatisfied : doc.Satisfied value)
    (hkept : ¬doc.CutOff value) : doc.Tested value := by
  constructor
  · intro hdecides
    have hmem := hsatisfied.enum _ hdecides.enum_eq
    have hlength : value.length ≤ maxNameLength := by
      by_contra hlong
      exact hkept ⟨hdecides, hmem, hsatisfied.length, by omega⟩
    apply List.mem_map.mpr
    exact ⟨value, hmem, CString.strncpy_of_length_le hlength⟩
  · intro _ hdecides
    exact (hdecides.lengthMet_iff value).mp hsatisfied.length

/-- No cut name is longer than 31 characters. -/
theorem CutOff.satisfied_not_tested
    {doc : StringDoc} {value : CString} (hcut : doc.CutOff value) :
    doc.Satisfied value ∧ ¬doc.Tested value := by
  obtain ⟨hdecides, hmem, hlength, hlong⟩ := hcut
  constructor
  · constructor
    · intro values hvalues
      rw [Option.mem_def.mp hvalues] at hmem
      exact hmem
    · exact hlength
  · intro htested
    obtain ⟨name, -, hname⟩ := List.mem_map.mp (htested.enum hdecides)
    have hshort := CString.strncpy_length name maxNameLength
    rw [hname] at hshort
    omega

theorem tested_iff_satisfied_iff (doc : StringDoc) (value : CString) :
    (doc.Tested value ↔ doc.Satisfied value) ↔
      ¬doc.CutOff value ∧ (doc.Tested value → doc.Skipped value) := by
  constructor
  · intro hiff
    constructor
    · intro hcut
      exact hcut.satisfied_not_tested.2
        (hiff.mpr hcut.satisfied_not_tested.1)
    · exact fun htested => (hiff.mp htested).skipped
  · rintro ⟨hkept, himplies⟩
    constructor
    · exact fun htested =>
        satisfied_of_tested_of_skipped htested (himplies htested)
    · exact fun hsatisfied => hsatisfied.tested hkept

theorem checkStringValue_desc (doc : StringDoc) (value : CString) :
    checkStringValue doc.desc value = .succ ↔ doc.Tested value := by
  unfold checkStringValue
  by_cases henum : doc.EnumDecides
  · have hstrEnum : doc.desc.strEnum ≠ [] := by
      simpa [desc, EnumDecides] using henum
    rw [if_pos hstrEnum, legalIf_eq_succ]
    constructor
    · intro hmem
      constructor
      · exact fun _ => hmem
      · exact fun hnot => absurd henum hnot
    · exact fun htested => htested.enum henum
  have hnoEnum : ¬doc.desc.strEnum ≠ [] := by
    simpa [desc, EnumDecides] using henum
  rw [if_neg hnoEnum]
  by_cases hlength : doc.LengthDecides
  · have hcompared :
        doc.desc.minLen ≠ 0 ∧ doc.desc.maxLen ≠ 0 ∧
          doc.desc.minLen ≤ doc.desc.maxLen := hlength
    rw [if_pos hcompared, legalIf_eq_succ]
    constructor
    · intro hbounds
      constructor
      · exact fun hdecides => absurd hdecides henum
      · exact fun _ _ => hbounds
    · exact fun htested => htested.length henum hlength
  · have hnotCompared :
        ¬(doc.desc.minLen ≠ 0 ∧ doc.desc.maxLen ≠ 0 ∧
          doc.desc.minLen ≤ doc.desc.maxLen) := hlength
    rw [if_neg hnotCompared]
    simp only [true_iff]
    constructor
    · exact fun hdecides => absurd hdecides henum
    · exact fun _ hdecides => absurd hdecides hlength

def CheckedExactly
    (codec : TslCodec) (doc : StringDoc) (js : BscJson) (value : CString) :
    Prop :=
  (parseSchema js).1 = .succ ∧
    Decides (checkSchemaValue codec (parseSchema js).2 (.string value))
      (doc.Satisfied value)

theorem Reads.checkedExactly_iff
    {doc : StringDoc} {js : BscJson} (hreads : doc.Reads js)
    (codec : TslCodec) (value : CString) :
    doc.CheckedExactly codec js value ↔
      ¬doc.CutOff value ∧ (doc.Tested value → doc.Skipped value) := by
  have hcheck :
      checkSchemaValue codec (parseSchema js).2 (.string value) =
        some (checkStringValue doc.desc value) := by
    rw [hreads.parseSchema_eq, checkSchemaValue]
  have haccepted : (parseSchema js).1 = .succ := by
    rw [hreads.parseSchema_eq]
  rw [← tested_iff_satisfied_iff]
  simp only [CheckedExactly, hcheck, haccepted, true_and, decides_some,
    checkStringValue_desc]

end StringDoc

/-! ## Leaves -/

/-- The check of a leaf agrees with its document exactly when what the check
looks at implies what it passes over, the remainder by `-1` is not taken of the
least integer, and no declared name is cut off. -/
theorem leaf_checked_exactly_iff (codec : TslCodec) (js : BscJson) :
    (∀ doc : IntDoc, doc.Reads js → ∀ value,
      (doc.CheckedExactly codec js value ↔
        ¬doc.Overflows value ∧ (doc.Tested value → doc.Skipped value))) ∧
      ∀ doc : StringDoc, doc.Reads js → ∀ value,
        (doc.CheckedExactly codec js value ↔
          ¬doc.CutOff value ∧ (doc.Tested value → doc.Skipped value)) := by
  constructor
  · intro doc hreads value
    exact hreads.checkedExactly_iff codec value
  · intro doc hreads value
    exact hreads.checkedExactly_iff codec value

/-- An integer schema with one limit, `1` from below. -/
def oneSidedDoc : IntDoc where
  enum := none
  multipleOf := none
  minimum := some 1
  maximum := none
  exclusiveMinimum := none
  exclusiveMaximum := none

def oneSidedJson : BscJson :=
  .object [("type".toList, .string "int".toList),
    ("mn".toList, .number ((1 : ℤ) : ℚ))]

def shortTextDoc : StringDoc where
  enum := none
  minLength := some 1
  maxLength := some 3

def shortTextJson : BscJson :=
  .object [("type".toList, .string "str".toList),
    ("mnl".toList, .number ((1 : ℤ) : ℚ)),
    ("mxl".toList, .number ((3 : ℤ) : ℚ))]

theorem oneSidedDoc_reads : oneSidedDoc.Reads oneSidedJson where
  type_eq := rfl
  enum := rfl
  multipleOf := rfl
  minimum := ⟨rfl, by decide, by decide⟩
  maximum := rfl
  exclusiveMinimum := rfl
  exclusiveMaximum := rfl

theorem shortTextDoc_reads : shortTextDoc.Reads shortTextJson where
  type_eq := rfl
  enum := rfl
  minLength := ⟨rfl, by decide, by decide⟩
  maxLength := ⟨rfl, by decide, by decide⟩

theorem leaf_checked_exactly_iff_oneSided :
    (oneSidedDoc.CheckedExactly TslCodec.scalarsOnly oneSidedJson 0 ↔
        ¬oneSidedDoc.Overflows 0 ∧
          (oneSidedDoc.Tested 0 → oneSidedDoc.Skipped 0)) ∧
      (shortTextDoc.CheckedExactly TslCodec.scalarsOnly shortTextJson "abc".toList ↔
        ¬shortTextDoc.CutOff "abc".toList ∧
          (shortTextDoc.Tested "abc".toList →
            shortTextDoc.Skipped "abc".toList)) :=
  ⟨(leaf_checked_exactly_iff TslCodec.scalarsOnly oneSidedJson).1 oneSidedDoc
      oneSidedDoc_reads 0,
    (leaf_checked_exactly_iff TslCodec.scalarsOnly shortTextJson).2 shortTextDoc
      shortTextDoc_reads "abc".toList⟩

/-- `0` passes a schema that declares the minimum `1` and nothing else. -/
theorem below_minimum_accepted :
    oneSidedDoc.Reads oneSidedJson ∧
      checkSchemaValue TslCodec.scalarsOnly (parseSchema oneSidedJson).2 (.int 0) =
        some .succ ∧
      ¬oneSidedDoc.CheckedExactly TslCodec.scalarsOnly oneSidedJson 0 := by
  have hcheck :
      checkSchemaValue TslCodec.scalarsOnly (parseSchema oneSidedJson).2 (.int 0) =
        some .succ := by
    rw [oneSidedDoc_reads.parseSchema_eq, checkSchemaValue]
    decide
  refine ⟨oneSidedDoc_reads, hcheck, ?_⟩
  rintro ⟨-, hdecides⟩
  rw [hcheck, decides_some] at hdecides
  have hsatisfied := hdecides.mp rfl
  have hlimit := hsatisfied.minimum 1 rfl
  omega

end EziotSdk

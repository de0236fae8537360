import EziotSdk.BscJson
import EziotSdk.HubStore
import EziotSdk.Scanf

/-!
# The authentication of a sub-device

The hub asks the platform to authenticate a sub-device by its `childserial`,
and finds the sub-device again by the `childserial` of the answer.  The request
has two formats and is built by authentication mode; the answer is read by its
length.
-/

namespace EziotSdk

def sapDevSnLen : ℕ := 9

def hubAuthSalt : CString := "www.88075998.com".toList

/-- The name of a sub-device towards the platform. -/
def HubSubdev.childserial (subdev : HubSubdev) : CString :=
  if subdev.authm = 0 then CString.strncpy subdev.sn.1 63
  else CString.strncpy (subdev.type.1 ++ ':' :: subdev.sn.1) 62

/-- `hub_subdev_auth_do`: the request, with the digest in hexadecimal. -/
def hubSubdevAuthDo (md5Hex : CString → CString) (subdev : HubSubdev) :
    BscJson :=
  let sn := subdev.childserial
  let first := md5Hex (subdev.vcode.1 ++ sn)
  let second := md5Hex (first ++ hubAuthSalt)
  .object
    [("childserial".toList, .string sn),
      ("childverifycode".toList, .string (md5Hex second)),
      ("devAccessMode".toList, .number subdev.authm)]

/-- `%*[^:]:%s`. -/
def childserialItems (childserial : CString) : List Scanf.Item :=
  [⟨[], .set childserial.length ':'⟩, ⟨[':'], .word⟩]

/-- The serial number of an answer; `none` when nothing is written to it. -/
def childserialSn (childserial : CString) : Option CString :=
  if childserial.length = sapDevSnLen then
    some (CString.strncpy childserial 16)
  else (Scanf.scan (childserialItems childserial) childserial)[1]?

/-- The two members of an answer. -/
def authAnswer (json : BscJson) : Option (CString × ℤ) :=
  match json.getObjectItem "childserial".toList,
      json.getObjectItem "result".toList with
  | some (.string childserial), some (.number result) =>
      some (childserial, (BscJson.number result).valueint)
  | _, _ => none

/-- `hub_subdev_auth_done`; `leftover` is what the array for the serial number
holds before. -/
def HubState.hubSubdevAuthDone (leftover : CString) (json : Option BscJson)
    (write : HubWrite) (state : HubState) : HubState :=
  match json.bind authAnswer with
  | none => state
  | some (childserial, result) =>
      let sn := (childserialSn childserial).getD leftover
      if result = 0 then (state.hubSubdevAuthPassed sn write).2
      else if result = 1 then (state.hubSubdevAuthFailure sn write).2
      else state

/-! ## The serial number of the answer -/

theorem HubSubdev.childserial_eq (subdev : HubSubdev) :
    subdev.childserial =
      if subdev.authm = 0 then subdev.sn.1
      else subdev.type.1 ++ ':' :: subdev.sn.1 := by
  have hsn := subdev.sn.2
  have htype := subdev.type.2
  unfold childserial
  rw [CString.strncpy_of_length_le (by omega),
    CString.strncpy_of_length_le (by simp; omega)]

/-- The word after the first colon. -/
theorem childserial_scan_iff {input sn : CString} :
    (Scanf.scan (childserialItems input) input)[1]? = some sn ↔
      ∃ key more, input = key ++ ':' :: more ∧ key ≠ [] ∧ ':' ∉ key ∧
        sn ≠ [] ∧ Scanf.Conversion.word.text
          (Scanf.Conversion.word.skip more) = sn := by
  have hsecond : ∀ more, (Scanf.scan [⟨[':'], .word⟩] (':' :: more))[0]? =
      some sn ↔ sn ≠ [] ∧ Scanf.Conversion.word.text
        (Scanf.Conversion.word.skip more) = sn := by
    intro more
    have hcons := Scanf.scan_cons ⟨[':'], .word⟩ [] more
    dsimp only [List.cons_append, List.nil_append] at hcons
    rw [hcons]
    split_ifs with hempty
    · rw [hempty]
      simp
    · rw [List.getElem?_cons_zero, Option.some.injEq]
      constructor
      · intro heq
        rw [heq] at hempty
        exact ⟨hempty, heq⟩
      · exact fun hword => hword.2
  constructor
  · intro hscan
    have hfirst := Scanf.scan_cons ⟨[], .set input.length ':'⟩
      [⟨[':'], .word⟩] input
    dsimp only [List.nil_append, Scanf.Conversion.skip] at hfirst
    rw [childserialItems, hfirst] at hscan
    split_ifs at hscan with hempty
    · simp at hscan
    · have hset := Scanf.set_text hempty
      rcases hset with ⟨haccepts, rest, hinput⟩
      have hcolon : ':' ∉
          (Scanf.Conversion.set input.length ':').text input := by
        intro hmem
        exact haccepts.2.2 ':' hmem rfl
      rw [List.getElem?_cons_succ] at hscan
      have hdrop : input.drop ((Scanf.Conversion.set
          input.length ':').text input).length = rest := by
        generalize (Scanf.Conversion.set input.length ':').text input = key
          at hinput
        rw [hinput, List.drop_left]
      rw [hdrop] at hscan
      by_cases hprefix : [':'] <+: rest
      · rcases hprefix with ⟨more, hmore⟩
        rw [← hmore] at hscan hinput
        exact ⟨_, more, hinput, hempty, hcolon, (hsecond more).mp hscan⟩
      · rw [Scanf.scan_cons_of_not_prefix hprefix] at hscan
        simp at hscan
  · rintro ⟨key, more, hinput, hkey, hcolon, hsn, hword⟩
    have haccepts : (Scanf.Conversion.set input.length ':').Accepts key := by
      refine ⟨hkey, ?_, ?_⟩
      · rw [hinput]
        simp
      · intro char hchar heq
        rw [heq] at hchar
        exact hcolon hchar
    have hfirst := Scanf.scan_cons_of_accepts ⟨[], .set input.length ':'⟩
      [⟨[':'], .word⟩] (':' :: more) haccepts
      (by
        intro width stop hset char hchar
        rw [Scanf.Conversion.set.injEq] at hset
        rw [← hset.2]
        exact (Option.mem_some_iff.mp hchar).symm)
      nofun
    rw [childserialItems]
    rw [List.nil_append, ← hinput] at hfirst
    rw [hfirst, List.getElem?_cons_succ, hsecond]
    exact ⟨hsn, hword⟩

/-! ## The round trip -/

/-- The type itself has the serial number as its first word after a colon. -/
def RepeatsSn (type sn : CString) : Prop :=
  ∃ key blanks space more,
    type = key ++ ':' :: (blanks ++ (sn ++ space :: more)) ∧
      key ≠ [] ∧ ':' ∉ key ∧ (∀ char ∈ blanks, Scanf.isSpace char = true) ∧
        Scanf.isSpace space = true

/-- When the request's format is the one that the answer is read by. -/
def HubSubdev.Recognised (subdev : HubSubdev) : Prop :=
  if subdev.authm = 0 then subdev.sn.1.length = sapDevSnLen
  else
    subdev.type.1.length + 1 + subdev.sn.1.length ≠ sapDevSnLen ∧
      Scanf.Conversion.word.Accepts subdev.sn.1 ∧
        (subdev.type.1 ≠ [] ∧ ':' ∉ subdev.type.1 ∨
          RepeatsSn subdev.type.1 subdev.sn.1)

/-- A word that is found in a text with a colon and the word at its end stands
before the colon. -/
theorem word_before_colon {tail sn blanks rest : CString}
    (hword : Scanf.Conversion.word.Accepts sn)
    (heq : tail ++ ':' :: sn = blanks ++ (sn ++ rest))
    (hblanks : ∀ char ∈ blanks, Scanf.isSpace char = true)
    (hrest : ∀ char ∈ rest.head?, Scanf.isSpace char = true) :
    ∃ space more, tail = blanks ++ (sn ++ space :: more) ∧
      Scanf.isSpace space = true := by
  have hcolon : Scanf.isSpace ':' = false := by decide
  rw [← List.append_assoc, List.append_eq_append_iff] at heq
  rcases heq with ⟨before, hbefore, hafter⟩ | ⟨before, hbefore, hafter⟩
  · -- the word reaches the colon
    cases before with
    | nil =>
        rw [List.nil_append] at hafter
        rw [← hafter] at hrest
        have hspace := hrest ':' rfl
        rw [hcolon] at hspace
        exact absurd hspace Bool.false_ne_true
    | cons first before =>
        rw [List.cons_append, List.cons.injEq] at hafter
        cases rest with
        | nil =>
            rw [List.append_nil] at hafter
            rw [← hafter.1, ← hafter.2, List.append_cons] at hbefore
            have hmem : ':' ∈ blanks := by
              rw [List.append_cancel_right hbefore]
              simp
            have hspace := hblanks ':' hmem
            rw [hcolon] at hspace
            exact absurd hspace Bool.false_ne_true
        | cons space more =>
            have hmem : space ∈ sn := by
              rw [hafter.2]
              simp
            have hspace := hrest space rfl
            rw [hword.2 space hmem] at hspace
            exact absurd hspace Bool.false_ne_true
  · cases before with
    | nil =>
        rw [List.nil_append] at hafter
        rw [hafter] at hrest
        have hspace := hrest ':' rfl
        rw [hcolon] at hspace
        exact absurd hspace Bool.false_ne_true
    | cons space more =>
        rw [List.append_assoc] at hbefore
        rw [hafter] at hrest
        exact ⟨space, more, hbefore, hrest space rfl⟩

/-- A text that is scanned has its serial number behind a colon. -/
theorem childserial_scan_ne_self (sn : CString) :
    (Scanf.scan (childserialItems sn) sn)[1]? ≠ some sn := by
  intro hscan
  rcases childserial_scan_iff.mp hscan with
    ⟨key, more, hinput, _, _, hne, hword⟩
  rcases ((Scanf.word_text_iff hne).mp hword).2 with
    ⟨blanks, rest, hmore, _⟩
  have hlength := congrArg List.length hinput
  have hlengthMore := congrArg List.length hmore
  simp only [List.length_append, List.length_cons] at hlength hlengthMore
  omega

/-- The first colon ends the type, or stands in it. -/
theorem first_colon {type sn key more : CString}
    (hinput : type ++ ':' :: sn = key ++ ':' :: more) (hcolon : ':' ∉ key) :
    type = key ∧ sn = more ∨
      ∃ tail, type = key ++ ':' :: tail ∧ more = tail ++ ':' :: sn := by
  rw [List.append_eq_append_iff] at hinput
  rcases hinput with ⟨before, hbefore, hafter⟩ | ⟨before, hbefore, hafter⟩
  · cases before with
    | nil =>
        rw [List.nil_append, List.cons.injEq] at hafter
        rw [List.append_nil] at hbefore
        exact Or.inl ⟨hbefore.symm, hafter.2⟩
    | cons first before =>
        rw [List.cons_append, List.cons.injEq] at hafter
        rw [hbefore, ← hafter.1] at hcolon
        simp at hcolon
  · cases before with
    | nil =>
        rw [List.nil_append, List.cons.injEq] at hafter
        rw [List.append_nil] at hbefore
        exact Or.inl ⟨hbefore, hafter.2.symm⟩
    | cons first before =>
        rw [List.cons_append, List.cons.injEq] at hafter
        rw [← hafter.1] at hbefore
        exact Or.inr ⟨before, hbefore, hafter.2⟩

/-- The scan of a type and a serial number. -/
theorem childserial_scan_pair_iff {type sn : CString} :
    (Scanf.scan (childserialItems (type ++ ':' :: sn))
        (type ++ ':' :: sn))[1]? = some sn ↔
      Scanf.Conversion.word.Accepts sn ∧
        (type ≠ [] ∧ ':' ∉ type ∨ RepeatsSn type sn) := by
  rw [childserial_scan_iff]
  constructor
  · rintro ⟨key, more, hinput, hkey, hcolon, hne, hword⟩
    rcases (Scanf.word_text_iff hne).mp hword with
      ⟨haccepts, blanks, rest, hmore, hblanks, hrest⟩
    refine ⟨haccepts, ?_⟩
    rcases first_colon hinput hcolon with ⟨heq, -⟩ | ⟨tail, htype, htail⟩
    · left
      rw [heq]
      exact ⟨hkey, hcolon⟩
    · right
      rw [htail] at hmore
      rcases word_before_colon haccepts hmore hblanks hrest with
        ⟨space, more', hrepeats, hspace⟩
      rw [hrepeats] at htype
      exact ⟨key, blanks, space, more', htype, hkey, hcolon, hblanks, hspace⟩
  · rintro ⟨haccepts, ⟨htype, hcolon⟩ | hrepeats⟩
    · refine ⟨type, sn, rfl, htype, hcolon, haccepts.1, ?_⟩
      rw [Scanf.word_text_iff haccepts.1]
      exact ⟨haccepts, [], [], by simp, by simp, by simp⟩
    · rcases hrepeats with
        ⟨key, blanks, space, more, htype, hkey, hcolon, hblanks, hspace⟩
      refine ⟨key, blanks ++ (sn ++ space :: more) ++ ':' :: sn, ?_, hkey,
        hcolon, haccepts.1, ?_⟩
      · rw [htype]
        simp
      · rw [Scanf.word_text_iff haccepts.1]
        refine ⟨haccepts, blanks, space :: more ++ ':' :: sn, ?_, hblanks, ?_⟩
        · simp
        · simpa using hspace

/-- The answer's serial number is the sub-device's own exactly when the request
was built in the format that its length stands for. -/
theorem childserialSn_childserial_iff (subdev : HubSubdev) :
    childserialSn subdev.childserial = some subdev.sn.1 ↔
      subdev.Recognised := by
  have hsn := subdev.sn.2
  have htype := subdev.type.2
  rw [subdev.childserial_eq]
  unfold childserialSn HubSubdev.Recognised
  by_cases hauthm : subdev.authm = 0
  · rw [if_pos hauthm, if_pos hauthm]
    split_ifs with hlength
    · rw [CString.strncpy_of_length_le (by omega)]
      exact iff_of_true rfl hlength
    · exact iff_of_false (childserial_scan_ne_self subdev.sn.1) hlength
  · rw [if_neg hauthm, if_neg hauthm]
    have hlengths : (subdev.type.1 ++ ':' :: subdev.sn.1).length =
        subdev.type.1.length + 1 + subdev.sn.1.length := by
      rw [List.length_append, List.length_cons]
      omega
    split_ifs with hlength
    · rw [hlengths] at hlength
      refine iff_of_false ?_ fun hrecognised => hrecognised.1 hlength
      rw [CString.strncpy_of_length_le (by
        rw [hlengths, hlength]
        decide), Option.some.injEq]
      intro heq
      have hsame := congrArg List.length heq
      rw [hlengths] at hsame
      omega
    · rw [hlengths] at hlength
      rw [childserial_scan_pair_iff]
      exact (and_iff_right hlength).symm

/-- The platform's answer to a request, with the request's name. -/
def answerTo (subdev : HubSubdev) (result : ℤ) : BscJson :=
  .object
    [("childserial".toList, .string subdev.childserial),
      ("result".toList, .number result)]

/-- The answer to a recognised sub-device's request is about it. -/
theorem HubState.authDone_of_recognised {subdev : HubSubdev}
    (hrecognised : subdev.Recognised) (leftover : CString) (write : HubWrite)
    (state : HubState) :
    state.hubSubdevAuthDone leftover (some (answerTo subdev 0)) write =
        (state.hubSubdevAuthPassed subdev.sn.1 write).2 ∧
      state.hubSubdevAuthDone leftover (some (answerTo subdev 1)) write =
        (state.hubSubdevAuthFailure subdev.sn.1 write).2 := by
  have hsn := (childserialSn_childserial_iff subdev).mpr hrecognised
  have hanswer : ∀ result : ℤ, authAnswer (answerTo subdev result) =
      some (subdev.childserial, (BscJson.number result).valueint) := by
    intro result
    rfl
  unfold hubSubdevAuthDone
  rw [Option.bind_some, Option.bind_some, hanswer, hanswer]
  dsimp only
  rw [hsn]
  exact ⟨rfl, rfl⟩

/-- A sub-device with a serial number of sixteen characters, in the mode
without a type, is not found again. -/
theorem long_serial_not_recognised :
    childserialSn (HubSubdev.childserial {
      authm := 0
      type := ⟨"light".toList, by decide⟩
      sn := ⟨"ARZCWQSRG3CW0001".toList, by decide⟩
      vcode := ⟨"ABCDEF".toList, by decide⟩
      ver := ⟨"V1.0".toList, by decide⟩
      uuid := ⟨[], by decide⟩
      sta := true
      access := false }) ≠ some "ARZCWQSRG3CW0001".toList := by
  decide +kernel

end EziotSdk

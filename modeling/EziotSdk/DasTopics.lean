import EziotSdk.DasTransport

/-!
# Topics of protocol 3.0, there and back

A topic that the sender spells is taken apart into the fields it was made of,
as long as `%s` meets no blank in the last one.  The widths of the receiver's
formats are the sizes of the arrays, which leaves no room for the NUL, and
`%s` has no width at all; a complete topic of an unknown model type is taken
for an event.
-/

namespace EziotSdk

open Scanf

/-! ## The formats -/

theorem chainedTo_topicHead : ChainedTo topicHead '/' := by
  simp [ChainedTo, topicHead, firstChar]

/-- The first scan of a topic that goes on with a name after its head. -/
theorem scan_topicFormat
    {heads : List CString} {name : CString} (more : CString)
    (hheads : Accepts topicHead heads)
    (hname : (Conversion.set 64 '/').Accepts name) :
    scan topicFormat (render topicHead heads ++
        ("/".toList ++ (name ++ ("/".toList ++ more)))) =
      heads ++ name ::
        (let text := (Conversion.set 64 '/').text more
         if text = [] then [] else [text]) := by
  have hlast : scan [⟨"/".toList, .set 64 '/'⟩] ("/".toList ++ more) =
      let text := (Conversion.set 64 '/').text more
      if text = [] then [] else [text] := scan_cons _ [] more
  have hscan := scan_cons_of_accepts
    ⟨"/".toList, .set 64 '/'⟩ [⟨"/".toList, .set 64 '/'⟩]
    ("/".toList ++ more) hname
    (by
      intro width stop hset char hchar
      cases hset
      simpa using hchar.symm)
    nofun
  rw [topicFormat, scan_append _ chainedTo_topicHead hheads rfl]
  exact congrArg (heads ++ ·) (hscan.trans (congrArg (name :: ·) hlast))

/-! ## Bounds of the arrays -/

/-- No member of the message takes more bytes than it has. -/
def InBounds (topic : CString) : Prop :=
  ∀ entry ∈ (scanTopicV3 topic).1, entry.1.inSubmsg = true →
    entry.2.length < entry.1.size

def segmentItem : Item := ⟨"/".toList, .set 64 '/'⟩

/-- Every segment of the topic is shorter than the member that takes it. -/
structure SegmentsFit (topic : CString) : Prop where
  subSerial : NextFits (topicHead.take 1) ⟨"/".toList, .set 72 '/'⟩ 72 topic
  resourceId : NextFits (topicHead.take 2) ⟨"/".toList, .set 64 '-'⟩ 64 topic
  resourceType :
    NextFits (topicHead.take 3) ⟨"-".toList, .set 64 '/'⟩ 64 topic
  modelBusinessType : NextFits (modelFormat.take 5) segmentItem 64 topic
  modelDomainId : NextFits (modelFormat.take 6) segmentItem 64 topic
  modelIdentifier :
    NextFits (modelFormat.take 7) ⟨"/".toList, .word⟩ 64 topic
  shadowBusinessType :
    NextFits topicHead ⟨"/basic/shadow/".toList, .set 64 '/'⟩ 64 topic
  otaIdentifier : NextFits topicHead ⟨"/ota/".toList, .set 64 '/'⟩ 64 topic
  otaBusinessType : NextFits (otaFormat.take 5) segmentItem 64 topic

/-- The texts of one scan that a message takes are in bounds. -/
def ScanInBounds (format : List Item) (fields : List TopicField)
    (topic : CString) : Prop :=
  ∀ entry ∈ sscanfTopic format fields topic, entry.1.inSubmsg = true →
    entry.2.length < entry.1.size

theorem scanInBounds_iff
    {format : List Item} {fields : List TopicField} {topic : CString} :
    ScanInBounds format fields topic ↔
      ∀ (index : ℕ) (field : TopicField), fields[index]? = some field →
        field.inSubmsg = true →
          ∀ text, (scan format topic)[index]? = some text →
            text.length < field.size := by
  constructor
  · intro hbounds index field hfield hinside text htext
    apply hbounds (field, text) _ hinside
    rw [sscanfTopic, List.mem_iff_getElem?]
    exact ⟨index, List.getElem?_zip_eq_some.mpr ⟨hfield, htext⟩⟩
  · intro hbounds entry hentry hinside
    rw [sscanfTopic, List.mem_iff_getElem?] at hentry
    obtain ⟨index, hindex⟩ := hentry
    have hzip := List.getElem?_zip_eq_some.mp hindex
    exact hbounds index entry.1 hzip.1 hinside entry.2 hzip.2

/-- The three members that every format starts with. -/
structure HeadFits (topic : CString) : Prop where
  subSerial : NextFits (topicHead.take 1) ⟨"/".toList, .set 72 '/'⟩ 72 topic
  resourceId : NextFits (topicHead.take 2) ⟨"/".toList, .set 64 '-'⟩ 64 topic
  resourceType :
    NextFits (topicHead.take 3) ⟨"-".toList, .set 64 '/'⟩ 64 topic

theorem reaches_set (width : ℕ) (stop : Char) :
    (Conversion.set width stop).Reaches width := by
  rintro width' stop' hset
  cases hset
  exact le_rfl

theorem reaches_word (size : ℕ) : Conversion.word.Reaches size := by
  rintro width stop hset
  cases hset

theorem scanInBounds_head
    (rest : List Item) (fields : List TopicField) (topic : CString) :
    ScanInBounds (topicHead ++ rest) (TopicField.head ++ fields) topic ↔
      HeadFits topic ∧
        ∀ (index : ℕ) (field : TopicField), fields[index]? = some field →
          field.inSubmsg = true →
            ∀ text, (scan (topicHead ++ rest) topic)[index + 4]? =
                some text →
              text.length < field.size := by
  have hsub := stored_lt_iff (topicHead.take 1)
    ⟨"/".toList, .set 72 '/'⟩ (topicHead.drop 2 ++ rest)
    '/' 72 topic (by decide)
    (by simp [ChainedTo, topicHead, firstChar]) rfl (reaches_set 72 '/')
  have hres := stored_lt_iff (topicHead.take 2)
    ⟨"/".toList, .set 64 '-'⟩ (topicHead.drop 3 ++ rest)
    '/' 64 topic (by decide)
    (by simp [ChainedTo, topicHead, firstChar]) rfl (reaches_set 64 '-')
  have htype := stored_lt_iff (topicHead.take 3)
    ⟨"-".toList, .set 64 '/'⟩ rest
    '-' 64 topic (by decide)
    (by simp [ChainedTo, topicHead, firstChar]) rfl (reaches_set 64 '/')
  rw [scanInBounds_iff]
  constructor
  · intro hbounds
    refine ⟨⟨hsub.mp (hbounds 1 .subSerial rfl rfl),
      hres.mp (hbounds 2 .resourceId rfl rfl),
      htype.mp (hbounds 3 .resourceType rfl rfl)⟩, ?_⟩
    intro index field hfield
    apply hbounds (index + 4) field
    rw [List.getElem?_append_right (by simp [TopicField.head])]
    exact hfield
  · rintro ⟨hhead, hrest⟩ index field hfield hinside
    rcases index with _ | _ | _ | _ | index
    · cases hfield
      cases hinside
    · cases hfield
      exact hsub.mpr hhead.subSerial
    · cases hfield
      exact hres.mpr hhead.resourceId
    · cases hfield
      exact htype.mpr hhead.resourceType
    · rw [List.getElem?_append_right (by simp [TopicField.head])] at hfield
      exact hrest index field hfield hinside

theorem scanInBounds_topicFormat (topic : CString) :
    ScanInBounds topicFormat
        (TopicField.head ++ [TopicField.modelName, .modelType])
      topic ↔ HeadFits topic := by
  rw [topicFormat, scanInBounds_head]
  constructor
  · exact fun hbounds => hbounds.1
  · intro hhead
    refine ⟨hhead, ?_⟩
    intro index field hfield hinside
    rcases index with _ | _ | index
    · cases hfield
      cases hinside
    · cases hfield
      cases hinside
    · cases hfield

theorem scanInBounds_modelFormat (topic : CString) :
    ScanInBounds modelFormat
        (TopicField.head ++
          [TopicField.modelType, .businessType, .domainId, .identifier]) topic ↔
      HeadFits topic ∧ NextFits (modelFormat.take 5) segmentItem 64 topic ∧
        NextFits (modelFormat.take 6) segmentItem 64 topic ∧
        NextFits (modelFormat.take 7) ⟨"/".toList, .word⟩ 64 topic := by
  have hbusiness := stored_lt_iff (modelFormat.take 5)
    segmentItem (modelFormat.drop 6)
    '/' 64 topic (by decide)
    (by simp [ChainedTo, modelFormat, topicHead, firstChar]) rfl
    (reaches_set 64 '/')
  have hdomain := stored_lt_iff (modelFormat.take 6)
    segmentItem (modelFormat.drop 7)
    '/' 64 topic (by decide)
    (by simp [ChainedTo, modelFormat, topicHead, firstChar]) rfl
    (reaches_set 64 '/')
  have hidentifier := stored_lt_iff (modelFormat.take 7)
    ⟨"/".toList, .word⟩ []
    '/' 64 topic (by decide)
    (by simp [ChainedTo, modelFormat, topicHead, firstChar]) rfl
    (reaches_word 64)
  rw [modelFormat, scanInBounds_head]
  constructor
  · rintro ⟨hhead, hrest⟩
    exact ⟨hhead, hbusiness.mp (hrest 1 .businessType rfl rfl),
      hdomain.mp (hrest 2 .domainId rfl rfl),
      hidentifier.mp (hrest 3 .identifier rfl rfl)⟩
  · rintro ⟨hhead, hfits⟩
    refine ⟨hhead, ?_⟩
    intro index field hfield hinside
    rcases index with _ | _ | _ | _ | index
    · cases hfield
      cases hinside
    · cases hfield
      exact hbusiness.mpr hfits.1
    · cases hfield
      exact hdomain.mpr hfits.2.1
    · cases hfield
      exact hidentifier.mpr hfits.2.2
    · cases hfield

theorem scanInBounds_basicFormat (topic : CString) :
    ScanInBounds basicFormat
        (TopicField.head ++ [TopicField.modelType, .businessType]) topic ↔
      HeadFits topic ∧
        NextFits (basicFormat.take 5) segmentItem 64 topic := by
  have hbusiness := stored_lt_iff (basicFormat.take 5)
    segmentItem []
    '/' 64 topic (by decide)
    (by simp [ChainedTo, basicFormat, topicHead, firstChar]) rfl
    (reaches_set 64 '/')
  rw [basicFormat, scanInBounds_head]
  constructor
  · rintro ⟨hhead, hrest⟩
    exact ⟨hhead, hbusiness.mp (hrest 1 .businessType rfl rfl)⟩
  · rintro ⟨hhead, hfits⟩
    refine ⟨hhead, ?_⟩
    intro index field hfield hinside
    rcases index with _ | _ | index
    · cases hfield
      cases hinside
    · cases hfield
      exact hbusiness.mpr hfits
    · cases hfield

theorem scanInBounds_otaFormat (topic : CString) :
    ScanInBounds otaFormat
        (TopicField.head ++ [TopicField.identifier, .businessType]) topic ↔
      HeadFits topic ∧
        NextFits topicHead ⟨"/ota/".toList, .set 64 '/'⟩ 64 topic ∧
        NextFits (otaFormat.take 5) segmentItem 64 topic := by
  have hidentifier := stored_lt_iff topicHead
    ⟨"/ota/".toList, .set 64 '/'⟩ [segmentItem]
    '/' 64 topic (by decide)
    chainedTo_topicHead rfl (reaches_set 64 '/')
  have hbusiness := stored_lt_iff (otaFormat.take 5)
    segmentItem []
    '/' 64 topic (by decide)
    (by simp [ChainedTo, otaFormat, topicHead, firstChar]) rfl
    (reaches_set 64 '/')
  rw [otaFormat, scanInBounds_head]
  constructor
  · rintro ⟨hhead, hrest⟩
    exact ⟨hhead, hidentifier.mp (hrest 0 .identifier rfl rfl),
      hbusiness.mp (hrest 1 .businessType rfl rfl)⟩
  · rintro ⟨hhead, hfits⟩
    refine ⟨hhead, ?_⟩
    intro index field hfield hinside
    rcases index with _ | _ | index
    · cases hfield
      exact hidentifier.mpr hfits.1
    · cases hfield
      exact hbusiness.mpr hfits.2
    · cases hfield

/-! ## The branches -/

/-- What the first scan stores. -/
def opening (topic : CString) : Stored :=
  sscanfTopic topicFormat
    (TopicField.head ++ [TopicField.modelName, .modelType]) topic

/-- The first scan stores everything, and this as the model name. -/
def Named (name : CString) (topic : CString) : Prop :=
  (opening topic).length = 6 ∧ (opening topic).value .modelName = name

theorem opening_eq
    {heads : List CString} {name more : CString}
    (hheads : Accepts topicHead heads)
    (hname : (Conversion.set 64 '/').Accepts name)
    (hmore : (Conversion.set 64 '/').text more ≠ []) :
    opening (render topicHead heads ++
        ("/".toList ++ (name ++ ("/".toList ++ more)))) =
      List.zip (TopicField.head ++ [TopicField.modelName, .modelType])
        (heads ++ [name, (Conversion.set 64 '/').text more]) := by
  have hscan := scan_topicFormat more hheads hname
  dsimp only at hscan
  rw [if_neg hmore] at hscan
  rw [opening, sscanfTopic, hscan]

theorem opening_named
    {heads : List CString} {name more : CString}
    (hheads : Accepts topicHead heads)
    (hname : (Conversion.set 64 '/').Accepts name)
    (hmore : (Conversion.set 64 '/').text more ≠ []) :
    Named name (render topicHead heads ++
        ("/".toList ++ (name ++ ("/".toList ++ more)))) ∧
      (opening (render topicHead heads ++
        ("/".toList ++ (name ++ ("/".toList ++ more))))).value .modelType =
          (Conversion.set 64 '/').text more := by
  have hlength : heads.length = 4 := hheads.length_eq.symm
  rw [Named, opening_eq hheads hname hmore]
  match heads, hlength with
  | [devSerial, subSerial, resourceId, resourceType], _ =>
      exact ⟨⟨rfl, rfl⟩, rfl⟩

theorem rescanTopic_fst
    (stored : Stored) (format : List Item) (fields : List TopicField)
    (topic : CString) (accept : Stored → ℕ) :
    (rescanTopic stored format fields topic accept).1 =
      stored ++ sscanfTopic format fields topic := by
  simp only [rescanTopic]
  split_ifs <;> rfl

/-- A topic that is not too long, by the texts of the first scan. -/
theorem scanTopicV3_of_lt
    {topic : CString} (hlength : topic.length < ezdevSdkRecvTopicLen) :
    scanTopicV3 topic =
      (if (opening topic).length ≠ 6 then
        (opening topic, .error .platformAppointError)
      else if (opening topic).value .modelName = "model".toList then
        rescanTopic (opening topic) modelFormat
          (TopicField.head ++
            [TopicField.modelType, .businessType, .domainId, .identifier])
          topic modelExtendId
      else if (opening topic).value .modelName = "basic".toList ∧
          (opening topic).value .modelType = "shadow".toList then
        rescanTopic (opening topic) basicFormat
          (TopicField.head ++ [TopicField.modelType, .businessType]) topic
          fun _ => sdkShadow
      else if (opening topic).value .modelName = "ota".toList then
        rescanTopic (opening topic) otaFormat
          (TopicField.head ++ [TopicField.identifier, .businessType]) topic
          fun _ => sdkOta
      else (opening topic, .error .platformAppointError) :
        Stored × Except MkernelInternalError ℕ) := by
  have hshort : ¬ (ezdevSdkRecvTopicLen ≤ CString.strlen topic) := by
    rw [CString.strlen_eq_length]
    omega
  rw [scanTopicV3, if_neg hshort]
  rfl

theorem inBounds_iff_scans
    {topic : CString} (hlength : topic.length < ezdevSdkRecvTopicLen) :
    InBounds topic ↔
      ScanInBounds topicFormat
          (TopicField.head ++ [TopicField.modelName, .modelType]) topic ∧
        (Named "model".toList topic →
          ScanInBounds modelFormat
            (TopicField.head ++
              [TopicField.modelType, .businessType, .domainId, .identifier])
            topic) ∧
        (Named "basic".toList topic →
          (opening topic).value .modelType = "shadow".toList →
            ScanInBounds basicFormat
              (TopicField.head ++ [TopicField.modelType, .businessType])
              topic) ∧
        (Named "ota".toList topic →
          ScanInBounds otaFormat
            (TopicField.head ++ [TopicField.identifier, .businessType])
            topic) := by
  have hopening : sscanfTopic topicFormat
      (TopicField.head ++ [TopicField.modelName, .modelType]) topic =
        opening topic :=
    rfl
  have hnames : "model".toList ≠ "basic".toList ∧
      "model".toList ≠ "ota".toList ∧ "basic".toList ≠ "ota".toList := by
    decide
  simp only [InBounds, scanTopicV3_of_lt hlength, ScanInBounds, Named,
    hopening]
  by_cases hsix : (opening topic).length = 6
  · by_cases hmodel : (opening topic).value .modelName = "model".toList
    · have hother : "model".toList ≠ "basic".toList ∧
          "model".toList ≠ "ota".toList := ⟨hnames.1, hnames.2.1⟩
      simp only [hsix, hmodel, rescanTopic_fst, ne_eq, not_true_eq_false,
        if_false, if_true, List.mem_append, or_imp, forall_and, hother,
        false_and, and_false, forall_const, and_true,
        IsEmpty.forall_iff]
    · by_cases hshadow : (opening topic).value .modelName = "basic".toList ∧
          (opening topic).value .modelType = "shadow".toList
      · have hother : "basic".toList ≠ "model".toList ∧
            "basic".toList ≠ "ota".toList := ⟨hnames.1.symm, hnames.2.2⟩
        simp only [hsix, hshadow, rescanTopic_fst, ne_eq, not_true_eq_false,
          if_false, if_true, List.mem_append, or_imp, forall_and, hother,
          and_self, and_false, true_and, forall_const, and_true,
          IsEmpty.forall_iff]
      · by_cases hota : (opening topic).value .modelName = "ota".toList
        · have hother : "ota".toList ≠ "model".toList ∧
              "ota".toList ≠ "basic".toList :=
            ⟨hnames.2.1.symm, hnames.2.2.symm⟩
          simp only [hsix, hota, rescanTopic_fst, ne_eq, not_true_eq_false,
            if_false, if_true, List.mem_append, or_imp, forall_and, hother,
            false_and, and_false, true_and, forall_const,
            IsEmpty.forall_iff]
        · simp only [hsix, hmodel, hota, if_neg hshadow, ne_eq,
            not_true_eq_false, if_false, and_false,
            IsEmpty.forall_iff, and_true, true_and]
          constructor
          · intro hbounds
            exact ⟨hbounds, fun hbasic htype =>
              absurd ⟨hbasic, htype⟩ hshadow⟩
          · exact fun hbounds => hbounds.1
  · simp [hsix]

/-- The item of a name and of the segment behind it. -/
def namedItem (name : CString) : Item :=
  ⟨"/".toList ++ (name ++ "/".toList), .set 64 '/'⟩

theorem text_accepted
    {width : ℕ} {stop : Char} {kind : CString} (rest : CString)
    (hkind : (Conversion.set width stop).Accepts kind)
    (hrest : ∀ char ∈ rest.head?, char = stop) :
    (Conversion.set width stop).text (kind ++ rest) = kind :=
  text_of_accepts hkind
    (by
      intro width' stop' hset
      cases hset
      exact hrest)
    nofun

theorem head?_render_segments
    {count : ℕ} {texts : List CString} {rest : CString}
    (haccepts : Accepts (List.replicate count segmentItem) texts)
    (hrest : rest.head? = some '/') :
    ∀ char ∈ (render (List.replicate count segmentItem) texts ++
      rest).head?, char = '/' := by
  cases count with
  | zero =>
      cases haccepts
      intro char hchar
      change char ∈ rest.head? at hchar
      rw [hrest] at hchar
      exact (Option.mem_some_iff.mp hchar).symm
  | succ count =>
      rw [List.replicate_succ] at haccepts
      cases haccepts with
      | cons htext htexts =>
          intro char hchar
          exact (Option.mem_some_iff.mp hchar).symm

theorem named_of_segments
    {name kind : CString} (count : ℕ) {heads later : List CString}
    (rest : CString) (hname : (Conversion.set 64 '/').Accepts name)
    (hheads : Accepts topicHead heads)
    (hkind : (Conversion.set 64 '/').Accepts kind)
    (hlater : Accepts (List.replicate count segmentItem) later)
    (hrest : rest.head? = some '/') :
    Named name (render (topicHead ++ namedItem name ::
        List.replicate count segmentItem) (heads ++ kind :: later) ++ rest) ∧
      (opening (render (topicHead ++ namedItem name ::
        List.replicate count segmentItem) (heads ++ kind :: later) ++
          rest)).value .modelType = kind := by
  have hhead := head?_render_segments hlater hrest
  have htext := text_accepted _ hkind hhead
  have hne : (Conversion.set 64 '/').text (kind ++
      (render (List.replicate count segmentItem) later ++ rest)) ≠ [] := by
    rw [htext]
    exact hkind.1
  have hnamed := opening_named hheads hname hne
  have hshape : render (topicHead ++ namedItem name ::
      List.replicate count segmentItem) (heads ++ kind :: later) ++ rest =
      render topicHead heads ++ ("/".toList ++ (name ++ ("/".toList ++
        (kind ++ (render (List.replicate count segmentItem) later ++
          rest))))) := by
    rw [render_append hheads, render, namedItem]
    simp only [List.append_assoc]
  rw [hshape]
  exact ⟨hnamed.1, hnamed.2.trans htext⟩

/-- A topic of this shape takes the branch of its name. -/
theorem named_of_shape
    {name : CString} (count : ℕ) {texts : List CString} (rest : CString)
    (hname : (Conversion.set 64 '/').Accepts name)
    (haccepts : Accepts (topicHead ++ namedItem name ::
      List.replicate count segmentItem) texts)
    (hrest : rest.head? = some '/') :
    Named name (render (topicHead ++ namedItem name ::
      List.replicate count segmentItem) texts ++ rest) := by
  obtain ⟨heads, second, rfl, hheads, hsecond⟩ :=
    accepts_append_iff.mp haccepts
  cases hsecond with
  | cons hkind hlater =>
      exact (named_of_segments count rest hname hheads hkind hlater hrest).1

theorem inBounds_iff_segmentsFit
    {topic : CString} (hlength : topic.length < ezdevSdkRecvTopicLen) :
    InBounds topic ↔ SegmentsFit topic := by
  have hmodelName : (Conversion.set 64 '/').Accepts "model".toList := by
    simp [Conversion.Accepts]
  have hotaName : (Conversion.set 64 '/').Accepts "ota".toList := by
    simp [Conversion.Accepts]
  have hbasicName : (Conversion.set 64 '/').Accepts "basic".toList := by
    simp [Conversion.Accepts]
  have hshadowType : (Conversion.set 64 '/').Accepts "shadow".toList := by
    simp [Conversion.Accepts]
  rw [inBounds_iff_scans hlength, scanInBounds_topicFormat,
    scanInBounds_modelFormat, scanInBounds_basicFormat,
    scanInBounds_otaFormat]
  constructor
  · rintro ⟨hhead, hmodel, hbasic, hota⟩
    exact {
      subSerial := hhead.subSerial
      resourceId := hhead.resourceId
      resourceType := hhead.resourceType
      modelBusinessType := by
        intro texts more haccepts hinput
        have hnamed := named_of_shape 0
          (segmentItem.lead ++ more) hmodelName haccepts rfl
        exact (hmodel (hinput ▸ hnamed)).2.1 texts more haccepts hinput
      modelDomainId := by
        intro texts more haccepts hinput
        have hnamed := named_of_shape 1
          (segmentItem.lead ++ more) hmodelName haccepts rfl
        exact (hmodel (hinput ▸ hnamed)).2.2.1 texts more haccepts hinput
      modelIdentifier := by
        intro texts more haccepts hinput
        have hnamed := named_of_shape 2
          ("/".toList ++ more) hmodelName haccepts rfl
        exact (hmodel (hinput ▸ hnamed)).2.2.2 texts more haccepts hinput
      shadowBusinessType := by
        intro heads more hheads hinput
        have haccepts : Accepts (basicFormat.take 5)
            (heads ++ ["shadow".toList]) :=
          accepts_append_iff.mpr
            ⟨heads, _, rfl, hheads, .cons hshadowType .nil⟩
        have hshape : topic = render (basicFormat.take 5)
            (heads ++ ["shadow".toList]) ++ (segmentItem.lead ++ more) := by
          rw [hinput]
          change _ = render (topicHead ++ [namedItem "basic".toList]) _ ++ _
          rw [render_append hheads, List.append_assoc]
          rfl
        have hnamed := named_of_segments 0
          (segmentItem.lead ++ more) hbasicName hheads hshadowType
          .nil rfl
        exact (hbasic (hshape ▸ hnamed.1) (hshape ▸ hnamed.2)).2 _ more
          haccepts hshape
      otaIdentifier := by
        intro heads more hheads hinput
        by_cases hempty : (Conversion.set 64 '/').text more = []
        · apply (Conversion.text_length_lt_iff (reaches_set 64 '/') more).mp
          rw [Conversion.skip, hempty]
          decide
        · have hnamed := opening_named hheads hotaName hempty
          have hshape : topic = render topicHead heads ++ ("/".toList ++
              ("ota".toList ++ ("/".toList ++ more))) := hinput
          exact (hota (hshape ▸ hnamed.1)).2.1 heads more hheads hinput
      otaBusinessType := by
        intro texts more haccepts hinput
        have hnamed := named_of_shape 0
          (segmentItem.lead ++ more) hotaName haccepts rfl
        exact (hota (hinput ▸ hnamed)).2.2 texts more haccepts hinput }
  · intro hfits
    have hhead : HeadFits topic :=
      ⟨hfits.subSerial, hfits.resourceId, hfits.resourceType⟩
    refine ⟨hhead, ?_, ?_, ?_⟩
    · exact fun _ => ⟨hhead, hfits.modelBusinessType, hfits.modelDomainId,
        hfits.modelIdentifier⟩
    · intro hnamed htype
      refine ⟨hhead, ?_⟩
      intro texts more haccepts hinput
      obtain ⟨heads, second, rfl, hheads, hsecond⟩ :=
        accepts_append_iff.mp
          (show Accepts (topicHead ++ [namedItem "basic".toList]) texts from
            haccepts)
      cases hsecond with
      | cons hkind hnone =>
          cases hnone
          rename_i kind
          have hstored := (named_of_segments 0
            (segmentItem.lead ++ more) hbasicName hheads hkind .nil
            rfl).2
          have hkindName : kind = "shadow".toList := by
            rw [← htype, hinput]
            exact hstored.symm
          apply hfits.shadowBusinessType heads more hheads
          rw [hinput, hkindName]
          change render (topicHead ++ [namedItem "basic".toList]) _ ++ _ = _
          rw [render_append hheads, List.append_assoc]
          rfl
    · exact fun _ => ⟨hhead, hfits.otaIdentifier, hfits.otaBusinessType⟩

/-! ## Unknown model types -/

/-- The segment behind `model` in the topic. -/
def HasModelType (modelType topic : CString) : Prop :=
  ∃ heads more, Accepts topicHead heads ∧
    topic = render topicHead heads ++ ("/model/".toList ++ more) ∧
    modelType = more.takeWhile (· ≠ '/')

def knownModelTypes : List CString :=
  ["event".toList, "attribute".toList, "service".toList]

/-- A topic of an unknown model type is delivered under no extend id. -/
def UnknownRejected (topic : CString) : Prop :=
  ∀ modelType, HasModelType modelType topic → modelType ∉ knownModelTypes →
    ∀ extendId, (scanTopicV3 topic).2 ≠ .ok extendId

/-- The topic has every segment of a `model` topic, the last one not blank. -/
def Complete (topic : CString) : Prop :=
  ∃ texts more, Accepts (modelFormat.take 7) texts ∧
    topic = render (modelFormat.take 7) texts ++ ("/".toList ++ more) ∧
    ∃ char ∈ more, isSpace char = false

theorem word_text_ne_nil_iff (more : CString) :
    Conversion.word.text (Conversion.word.skip more) ≠ [] ↔
      ∃ char ∈ more, isSpace char = false := by
  induction more with
  | nil => simp [Conversion.text, Conversion.skip]
  | cons char rest ih =>
      cases hspace : isSpace char with
      | true => simpa [Conversion.text, Conversion.skip, hspace] using ih
      | false => simp [Conversion.text, Conversion.skip, hspace]

theorem rescanTopic_snd_ok_iff
    (stored : Stored) (format : List Item) (fields : List TopicField)
    (topic : CString) (accept : Stored → ℕ) :
    (∃ extendId, (rescanTopic stored format fields topic accept).2 =
        .ok extendId) ↔
      fields.length ≤ (scan format topic).length := by
  have hlength : (sscanfTopic format fields topic).length =
      min fields.length (scan format topic).length := by
    rw [sscanfTopic, List.length_zip]
  simp only [rescanTopic]
  split_ifs with hshort
  · simp only [exists_false, false_iff]
    omega
  · simp only [Except.ok.injEq, exists_eq', true_iff]
    omega

/-- Behind a known name the topic is taken exactly if it is complete. -/
theorem scanTopicV3_model_ok_iff
    {topic : CString} (hlength : topic.length < ezdevSdkRecvTopicLen)
    (hnamed : Named "model".toList topic) :
    (∃ extendId, (scanTopicV3 topic).2 = .ok extendId) ↔ Complete topic := by
  have hshort : ¬ (ezdevSdkRecvTopicLen ≤ CString.strlen topic) := by
    rw [CString.strlen_eq_length]
    omega
  have hbranch : scanTopicV3 topic =
      rescanTopic (opening topic) modelFormat
        (TopicField.head ++
          [TopicField.modelType, .businessType, .domainId, .identifier])
        topic modelExtendId := by
    simp only [scanTopicV3, if_neg hshort, ← opening.eq_def, hnamed.1,
      hnamed.2, ne_eq, not_true_eq_false, if_false, if_true]
  have hlast : 8 ≤ (scan modelFormat topic).length ↔
      ∃ text, (scan modelFormat topic)[7]? = some text := by
    constructor
    · exact fun hlong => ⟨_, List.getElem?_eq_getElem hlong⟩
    · rintro ⟨text, htext⟩
      exact (List.getElem?_eq_some_iff.mp htext).1
  rw [hbranch, rescanTopic_snd_ok_iff]
  change 8 ≤ _ ↔ _
  rw [hlast]
  have hstored := fun text => @getElem?_scan_iff
    (modelFormat.take 7) ⟨"/".toList, .word⟩ [] '/' topic text
    (by simp [ChainedTo, modelFormat, topicHead, firstChar]) rfl
  constructor
  · rintro ⟨text, htext⟩
    obtain ⟨texts, more, haccepts, hinput, rfl, hne⟩ :=
      (hstored text).mp htext
    exact ⟨texts, more, haccepts, hinput, (word_text_ne_nil_iff more).mp hne⟩
  · rintro ⟨texts, more, haccepts, hinput, hblank⟩
    exact ⟨_, (hstored _).mpr ⟨texts, more, haccepts, hinput, rfl,
      (word_text_ne_nil_iff more).mpr hblank⟩⟩

theorem unknownRejected_iff
    {topic : CString} (hlength : topic.length < ezdevSdkRecvTopicLen) :
    UnknownRejected topic ↔
      ∀ modelType, HasModelType modelType topic →
        modelType ∉ knownModelTypes → ¬ Complete topic := by
  have hmodelName : (Conversion.set 64 '/').Accepts "model".toList := by
    simp [Conversion.Accepts]
  constructor
  · intro hrejected modelType htype hunknown hcomplete
    have hnamed : Named "model".toList topic := by
      obtain ⟨texts, more, haccepts, hinput, -⟩ := hcomplete
      have hshape := named_of_shape 2 ("/".toList ++ more)
        hmodelName haccepts rfl
      rw [hinput]
      exact hshape
    obtain ⟨extendId, hok⟩ :=
      (scanTopicV3_model_ok_iff hlength hnamed).mpr hcomplete
    exact hrejected modelType htype hunknown extendId hok
  · intro hincomplete modelType htype hunknown extendId hok
    have hnot := hincomplete modelType htype hunknown
    obtain ⟨heads, more, hheads, hinput, -⟩ := htype
    by_cases hempty : (Conversion.set 64 '/').text more = []
    · have hscan := scan_topicFormat more hheads hmodelName
      dsimp only at hscan
      rw [if_pos hempty] at hscan
      have hfive : (opening topic).length ≠ 6 := by
        rw [opening, sscanfTopic, hinput]
        change (List.zip _ (scan topicFormat (render topicHead heads ++
          ("/".toList ++ ("model".toList ++ ("/".toList ++ more)))))).length ≠
            6
        have hfour : heads.length = 4 := hheads.length_eq.symm
        rw [hscan]
        simp [TopicField.head, hfour]
      have hshort : ¬ (ezdevSdkRecvTopicLen ≤ CString.strlen topic) := by
        rw [CString.strlen_eq_length]
        omega
      simp only [scanTopicV3, if_neg hshort, ← opening.eq_def, if_pos hfive,
        reduceCtorEq] at hok
    · have hnamed := (opening_named hheads hmodelName hempty).1
      have htopic : Named "model".toList topic := by
        rw [hinput]
        exact hnamed
      exact hnot ((scanTopicV3_model_ok_iff hlength htopic).mp
        ⟨extendId, hok⟩)

/-! ## Round trips -/

/-- A text of one segment that fits an array of this size. -/
structure Segment (size : ℕ) (text : CString) : Prop where
  nonempty : text ≠ []
  length_lt : text.length < size
  no_slash : ∀ char ∈ text, char ≠ '/'

/-- The fields of a message, and of the device, that a topic is spelled
from. -/
structure Spellable (kernel : DasKernel) (pubmsg : KernelPubmsgV3) :
    Prop where
  extendId : pubmsg.extendId ∈
    [sdkEvent, sdkAttribution, sdkService, sdkShadow, sdkOta]
  devSubserial : Segment 72 kernel.devSubserial
  subSerial : pubmsg.subSerial ≠ [] → Segment 72 pubmsg.subSerial
  resourceId : Segment 64 pubmsg.resourceId
  resourceId_no_dash : ∀ char ∈ pubmsg.resourceId, char ≠ '-'
  resourceType : Segment 64 pubmsg.resourceType
  businessType : Segment 64 pubmsg.businessType
  domainId : Segment 64 pubmsg.domainId
  identifier : Segment 64 pubmsg.identifier
  topic_lt : (topicTextV3 kernel pubmsg).length < ezdevSdkRecvTopicLen

/-- The stored texts are those of the message; a shadow topic has no segments
for the domain and the identifier, an ota topic none for the domain. -/
structure Recovers (kernel : DasKernel) (pubmsg : KernelPubmsgV3)
    (stored : Stored) : Prop where
  subSerial : stored.value .subSerial =
    topicSubserial kernel pubmsg.subSerial
  resourceId : stored.value .resourceId = pubmsg.resourceId
  resourceType : stored.value .resourceType = pubmsg.resourceType
  businessType : stored.value .businessType = pubmsg.businessType
  domainId : stored.value .domainId =
    if pubmsg.extendId = sdkShadow ∨ pubmsg.extendId = sdkOta then []
    else pubmsg.domainId
  identifier : stored.value .identifier =
    if pubmsg.extendId = sdkShadow then [] else pubmsg.identifier

/-- The receiver takes the sender's topic apart into what it was made of. -/
def TopicRoundTrips (kernel : DasKernel) (pubmsg : KernelPubmsgV3) : Prop :=
  ∃ stored,
    scanTopicV3 (CString.strncpy (topicTextV3 kernel pubmsg)
        (ezdevSdkRecvTopicLen - 1)) = (stored, .ok pubmsg.extendId) ∧
      Recovers kernel pubmsg stored

/-- The identifier is not one that `%s` has to take across a blank. -/
def BlankFree (pubmsg : KernelPubmsgV3) : Prop :=
  pubmsg.extendId = sdkShadow ∨ pubmsg.extendId = sdkOta ∨
    ∀ char ∈ pubmsg.identifier, isSpace char = false

theorem Segment.accepts
    {size width : ℕ} {text : CString} (hsegment : Segment size text)
    (hwidth : size ≤ width) : (Conversion.set width '/').Accepts text :=
  ⟨hsegment.nonempty, (hsegment.length_lt.trans_le hwidth).le,
    hsegment.no_slash⟩

theorem topicSubserial_accepts
    (kernel : DasKernel) {subSerial : CString}
    (hsegment : subSerial ≠ [] → Segment 72 subSerial) :
    (Conversion.set 72 '/').Accepts (topicSubserial kernel subSerial) := by
  unfold topicSubserial
  split_ifs with hhub
  · have hnonempty : subSerial ≠ [] := List.ne_nil_of_length_pos hhub.2
    have hfits := hsegment hnonempty
    have hlt := hfits.length_lt
    rw [CString.strncpy_of_length_le
      (by simp only [ezdevSdkDevserialMaxlen]; omega)]
    exact hfits.accepts le_rfl
  · simp [Conversion.Accepts]

/-- The texts that every topic of the message starts with. -/
def headTexts (kernel : DasKernel) (pubmsg : KernelPubmsgV3) :
    List CString :=
  [kernel.devSubserial, topicSubserial kernel pubmsg.subSerial,
    pubmsg.resourceId, pubmsg.resourceType]

theorem Spellable.headTexts
    {kernel : DasKernel} {pubmsg : KernelPubmsgV3}
    (hspellable : Spellable kernel pubmsg) :
    Accepts topicHead (headTexts kernel pubmsg) := by
  have hresource : (Conversion.set 64 '-').Accepts pubmsg.resourceId :=
    ⟨hspellable.resourceId.nonempty, hspellable.resourceId.length_lt.le,
      hspellable.resourceId_no_dash⟩
  exact .cons (hspellable.devSubserial.accepts le_rfl)
    (.cons (topicSubserial_accepts kernel hspellable.subSerial)
      (.cons hresource
        (.cons (hspellable.resourceType.accepts le_rfl) .nil)))

theorem scan_segments
    (name : CString) {kind : CString} {heads : List CString}
    (more : CString) (after : List Item)
    (hheads : Accepts topicHead heads)
    (hkind : (Conversion.set 64 '/').Accepts kind) :
    scan (topicHead ++ namedItem name :: after)
        (render topicHead heads ++ ("/".toList ++ (name ++ ("/".toList ++
          (kind ++ ("/".toList ++ more)))))) =
      heads ++ kind :: scan after ("/".toList ++ more) := by
  have hitem := scan_cons_of_accepts (namedItem name) after
    ("/".toList ++ more) hkind
    (by
      intro width stop hset char hchar
      cases hset
      exact (Option.mem_some_iff.mp hchar).symm)
    nofun
  rw [scan_append _ chainedTo_topicHead hheads rfl, ← hitem, namedItem]
  simp only [List.append_assoc]

theorem scan_segment
    {kind : CString} (more : CString) (after : List Item)
    (hkind : (Conversion.set 64 '/').Accepts kind) :
    scan (segmentItem :: after)
        ("/".toList ++ (kind ++ ("/".toList ++ more))) =
      kind :: scan after ("/".toList ++ more) :=
  scan_cons_of_accepts segmentItem after _ hkind
    (by
      intro width stop hset char hchar
      cases hset
      exact (Option.mem_some_iff.mp hchar).symm)
    nofun

theorem scan_last_segment
    {kind : CString} (hkind : (Conversion.set 64 '/').Accepts kind) :
    scan [segmentItem] ("/".toList ++ kind) = [kind] := by
  have hitem := scan_cons_of_accepts segmentItem [] []
    hkind
    (by
      intro width stop hset char hchar
      cases hchar)
    nofun
  rw [List.append_nil] at hitem
  exact hitem

/-- What every branch stores for the message. -/
structure StoredHead (kernel : DasKernel) (pubmsg : KernelPubmsgV3)
    (stored : Stored) : Prop where
  subSerial : stored.value .subSerial =
    topicSubserial kernel pubmsg.subSerial
  resourceId : stored.value .resourceId = pubmsg.resourceId
  resourceType : stored.value .resourceType = pubmsg.resourceType
  businessType : stored.value .businessType = pubmsg.businessType

/-- The rest of a topic behind its head. -/
def topicTail (name kind more : CString) : CString :=
  "/".toList ++ (name ++ ("/".toList ++ (kind ++ ("/".toList ++ more))))

/-- The branch that such a topic takes, and what the first scan stored. -/
theorem opening_topicTail
    {heads : List CString} {name kind : CString} (more : CString)
    (hheads : Accepts topicHead heads)
    (hname : (Conversion.set 64 '/').Accepts name)
    (hkind : (Conversion.set 64 '/').Accepts kind) :
    opening (render topicHead heads ++ topicTail name kind more) =
      List.zip (TopicField.head ++ [TopicField.modelName, .modelType])
        (heads ++ [name, kind]) := by
  have htext := text_accepted ("/".toList ++ more) hkind
    (by
      intro char hchar
      exact (Option.mem_some_iff.mp hchar).symm)
  have hne : (Conversion.set 64 '/').text (kind ++ ("/".toList ++ more)) ≠
      [] := by
    rw [htext]
    exact hkind.1
  rw [topicTail, opening_eq hheads hname hne, htext]

theorem scanTopicV3_eq_rescan
    {topic : CString} (hlength : topic.length < ezdevSdkRecvTopicLen)
    (hsix : (opening topic).length = 6) :
    scanTopicV3 topic =
      (if (opening topic).value .modelName = "model".toList then
        rescanTopic (opening topic) modelFormat
          (TopicField.head ++
            [TopicField.modelType, .businessType, .domainId, .identifier])
          topic modelExtendId
      else if (opening topic).value .modelName = "basic".toList ∧
          (opening topic).value .modelType = "shadow".toList then
        rescanTopic (opening topic) basicFormat
          (TopicField.head ++ [TopicField.modelType, .businessType]) topic
          fun _ => sdkShadow
      else if (opening topic).value .modelName = "ota".toList then
        rescanTopic (opening topic) otaFormat
          (TopicField.head ++ [TopicField.identifier, .businessType]) topic
          fun _ => sdkOta
      else (opening topic, .error .platformAppointError) :
        Stored × Except MkernelInternalError ℕ) := by
  rw [scanTopicV3_of_lt hlength, if_neg (not_not.mpr hsix)]

/-- A second scan that stores a text for each of its fields. -/
theorem rescanTopic_of_scan
    {format : List Item} {fields : List TopicField} {topic : CString}
    {texts : List CString} (stored : Stored) (accept : Stored → ℕ)
    (hscan : scan format topic = texts)
    (hlength : texts.length = fields.length) :
    rescanTopic stored format fields topic accept =
      (stored ++ fields.zip texts, .ok (accept (stored ++ fields.zip texts)))
      := by
  have hzip : (fields.zip texts).length = fields.length := by
    rw [List.length_zip, hlength, min_self]
  simp only [rescanTopic, sscanfTopic, hscan, hzip, ne_eq, not_true_eq_false,
    if_false]

section Spelled

variable {kernel : DasKernel} {pubmsg : KernelPubmsgV3}

theorem scanTopicV3_ota
    (hspellable : Spellable kernel pubmsg)
    {topic : CString} (hlength : topic.length < ezdevSdkRecvTopicLen)
    (htopic : topic = render topicHead (headTexts kernel pubmsg) ++
      topicTail "ota".toList pubmsg.identifier pubmsg.businessType) :
    ∃ stored, scanTopicV3 topic = (stored, .ok sdkOta) ∧
      StoredHead kernel pubmsg stored ∧
      stored.value .domainId = [] ∧
      stored.value .identifier = pubmsg.identifier := by
  have hotaName : (Conversion.set 64 '/').Accepts "ota".toList := by
    simp [Conversion.Accepts]
  have hheads := hspellable.headTexts
  have hidentifier := hspellable.identifier.accepts (le_refl 64)
  have hbusiness := hspellable.businessType.accepts (le_refl 64)
  have hopening := opening_topicTail pubmsg.businessType hheads hotaName
    hidentifier
  rw [← htopic] at hopening
  have hscan : scan otaFormat topic = headTexts kernel pubmsg ++
      [pubmsg.identifier, pubmsg.businessType] := by
    rw [htopic]
    exact (scan_segments _ pubmsg.businessType [segmentItem] hheads
      hidentifier).trans
      (by rw [scan_last_segment hbusiness])
  have hsix : (opening topic).length = 6 := by
    rw [hopening]
    rfl
  have hname : (opening topic).value .modelName = "ota".toList := by
    rw [hopening]
    rfl
  rw [scanTopicV3_eq_rescan hlength hsix, hname, if_neg (by decide),
    if_neg (fun hbasic => absurd hbasic.1 (by decide)), if_pos rfl,
    rescanTopic_of_scan _ _ hscan rfl, hopening]
  exact ⟨_, rfl, ⟨rfl, rfl, rfl, rfl⟩, rfl, rfl⟩

theorem scanTopicV3_shadow
    (hspellable : Spellable kernel pubmsg)
    {topic : CString} (hlength : topic.length < ezdevSdkRecvTopicLen)
    (htopic : topic = render topicHead (headTexts kernel pubmsg) ++
      topicTail "basic".toList "shadow".toList pubmsg.businessType) :
    ∃ stored, scanTopicV3 topic = (stored, .ok sdkShadow) ∧
      StoredHead kernel pubmsg stored ∧
      stored.value .domainId = [] ∧ stored.value .identifier = [] := by
  have hbasicName : (Conversion.set 64 '/').Accepts "basic".toList := by
    simp [Conversion.Accepts]
  have hshadowType : (Conversion.set 64 '/').Accepts "shadow".toList := by
    simp [Conversion.Accepts]
  have hheads := hspellable.headTexts
  have hbusiness := hspellable.businessType.accepts (le_refl 64)
  have hopening := opening_topicTail pubmsg.businessType hheads hbasicName
    hshadowType
  rw [← htopic] at hopening
  have hscan : scan basicFormat topic = headTexts kernel pubmsg ++
      ["shadow".toList, pubmsg.businessType] := by
    rw [htopic]
    exact (scan_segments _ pubmsg.businessType [segmentItem] hheads
      hshadowType).trans
      (by rw [scan_last_segment hbusiness])
  have hsix : (opening topic).length = 6 := by
    rw [hopening]
    rfl
  have hname : (opening topic).value .modelName = "basic".toList := by
    rw [hopening]
    rfl
  have htype : (opening topic).value .modelType = "shadow".toList := by
    rw [hopening]
    rfl
  rw [scanTopicV3_eq_rescan hlength hsix, hname, htype, if_neg (by decide),
    if_pos ⟨rfl, rfl⟩, rescanTopic_of_scan _ _ hscan rfl, hopening]
  exact ⟨_, rfl, ⟨rfl, rfl, rfl, rfl⟩, rfl, rfl⟩

/-- What `%s` takes of the identifier. -/
def identifierWord (pubmsg : KernelPubmsgV3) : CString :=
  Conversion.word.text (Conversion.word.skip pubmsg.identifier)

theorem scan_modelFormat
    (hspellable : Spellable kernel pubmsg) {kind : CString}
    (hkind : (Conversion.set 64 '/').Accepts kind) :
    scan modelFormat (render topicHead (headTexts kernel pubmsg) ++
        topicTail "model".toList kind (pubmsg.businessType ++
          ("/".toList ++ (pubmsg.domainId ++
            ("/".toList ++ pubmsg.identifier))))) =
      headTexts kernel pubmsg ++
        [kind, pubmsg.businessType, pubmsg.domainId] ++
          if identifierWord pubmsg = [] then []
          else [identifierWord pubmsg] := by
  have hbusiness := hspellable.businessType.accepts (le_refl 64)
  have hdomain := hspellable.domainId.accepts (le_refl 64)
  have hlast : scan [⟨"/".toList, .word⟩]
      ("/".toList ++ pubmsg.identifier) =
        if identifierWord pubmsg = [] then []
        else [identifierWord pubmsg] := scan_cons _ [] pubmsg.identifier
  have hfirst := scan_segments "model".toList
    (pubmsg.businessType ++ ("/".toList ++ (pubmsg.domainId ++
      ("/".toList ++ pubmsg.identifier))))
    [segmentItem, segmentItem, ⟨"/".toList, .word⟩] hspellable.headTexts
    hkind
  rw [scan_segment _ _ hbusiness, scan_segment _ _ hdomain, hlast] at hfirst
  rw [List.append_assoc]
  exact hfirst

theorem scanTopicV3_model
    (hspellable : Spellable kernel pubmsg) {kind : CString}
    (hkind : (Conversion.set 64 '/').Accepts kind)
    {topic : CString} (hlength : topic.length < ezdevSdkRecvTopicLen)
    (htopic : topic = render topicHead (headTexts kernel pubmsg) ++
      topicTail "model".toList kind (pubmsg.businessType ++
        ("/".toList ++ (pubmsg.domainId ++
          ("/".toList ++ pubmsg.identifier))))) :
    if identifierWord pubmsg = [] then
      ∀ extendId, (scanTopicV3 topic).2 ≠ .ok extendId
    else
      ∃ stored, scanTopicV3 topic = (stored, .ok (modelExtendId stored)) ∧
        StoredHead kernel pubmsg stored ∧
        stored.value .modelType = kind ∧
        stored.value .domainId = pubmsg.domainId ∧
        stored.value .identifier = identifierWord pubmsg := by
  have hmodelName : (Conversion.set 64 '/').Accepts "model".toList := by
    simp [Conversion.Accepts]
  have hopening := opening_topicTail (pubmsg.businessType ++
    ("/".toList ++ (pubmsg.domainId ++
      ("/".toList ++ pubmsg.identifier)))) hspellable.headTexts hmodelName
    hkind
  have hscan := scan_modelFormat hspellable hkind
  rw [← htopic] at hopening hscan
  have hsix : (opening topic).length = 6 := by
    rw [hopening]
    rfl
  have hname : (opening topic).value .modelName = "model".toList := by
    rw [hopening]
    rfl
  split_ifs with hempty
  · rw [if_pos hempty, List.append_nil] at hscan
    intro extendId hok
    rw [scanTopicV3_eq_rescan hlength hsix, hname, if_pos rfl] at hok
    have hlong := (rescanTopic_snd_ok_iff _ _ _ _ _).mp ⟨extendId, hok⟩
    rw [hscan] at hlong
    exact absurd hlong (by simp [TopicField.head, headTexts])
  · rw [if_neg hempty] at hscan
    rw [scanTopicV3_eq_rescan hlength hsix, hname, if_pos rfl,
      rescanTopic_of_scan _ _ hscan rfl, hopening]
    exact ⟨_, rfl, ⟨rfl, rfl, rfl, rfl⟩, rfl, rfl, rfl⟩

theorem identifierWord_eq_iff (hspellable : Spellable kernel pubmsg) :
    identifierWord pubmsg = pubmsg.identifier ↔
      ∀ char ∈ pubmsg.identifier, isSpace char = false := by
  constructor
  · intro hword char hchar
    rw [← hword] at hchar
    simpa using List.mem_takeWhile_imp hchar
  · intro hblank
    have htext := @text_of_accepts .word _ []
      ⟨hspellable.identifier.nonempty, hblank⟩ nofun (fun _ => rfl)
    rw [List.append_nil] at htext
    exact htext

theorem strncpy_topicTextV3 (hspellable : Spellable kernel pubmsg) :
    CString.strncpy (topicTextV3 kernel pubmsg)
      (ezdevSdkRecvTopicLen - 1) = topicTextV3 kernel pubmsg := by
  have hlt := hspellable.topic_lt
  exact CString.strncpy_of_length_le (by omega)

theorem topicRoundTrips_model
    (hspellable : Spellable kernel pubmsg) (kind : CString)
    (hkind : (Conversion.set 64 '/').Accepts kind)
    (hshadow : pubmsg.extendId ≠ sdkShadow)
    (hota : pubmsg.extendId ≠ sdkOta)
    (hextendId : ∀ stored : Stored, stored.value .modelType = kind →
      modelExtendId stored = pubmsg.extendId)
    (htopic : topicTextV3 kernel pubmsg =
      render topicHead (headTexts kernel pubmsg) ++
        topicTail "model".toList kind (pubmsg.businessType ++
          ("/".toList ++ (pubmsg.domainId ++
            ("/".toList ++ pubmsg.identifier))))) :
    TopicRoundTrips kernel pubmsg ↔
      ∀ char ∈ pubmsg.identifier, isSpace char = false := by
  have hmodel := scanTopicV3_model hspellable hkind hspellable.topic_lt htopic
  have hnoShadowOta : ¬ (pubmsg.extendId = sdkShadow ∨
      pubmsg.extendId = sdkOta) := by
    rintro (hbad | hbad)
    · exact hshadow hbad
    · exact hota hbad
  rw [← identifierWord_eq_iff hspellable, TopicRoundTrips,
    strncpy_topicTextV3 hspellable]
  constructor
  · rintro ⟨stored, hscan, hrecovers⟩
    split_ifs at hmodel with hempty
    · have hok : (scanTopicV3 (topicTextV3 kernel pubmsg)).2 =
          .ok pubmsg.extendId := by rw [hscan]
      exact absurd hok (hmodel pubmsg.extendId)
    · obtain ⟨stored', hscan', -, -, -, hidentifier⟩ := hmodel
      rw [hscan', Prod.mk.injEq] at hscan
      rw [← hidentifier, hscan.1, hrecovers.identifier, if_neg hshadow]
  · intro hword
    have hne : identifierWord pubmsg ≠ [] := by
      rw [hword]
      exact hspellable.identifier.nonempty
    rw [if_neg hne] at hmodel
    obtain ⟨stored, hscan, hhead, htype, hdomain, hidentifier⟩ := hmodel
    refine ⟨stored, by rw [hscan, hextendId stored htype], ?_⟩
    exact ⟨hhead.subSerial, hhead.resourceId, hhead.resourceType,
      hhead.businessType, by rw [hdomain, if_neg hnoShadowOta],
      by rw [hidentifier, hword, if_neg hshadow]⟩

/-- The sender's topic is read back unless `%s` meets a blank. -/
theorem topicRoundTrips_iff (hspellable : Spellable kernel pubmsg) :
    TopicRoundTrips kernel pubmsg ↔ BlankFree pubmsg := by
  have hids : pubmsg.extendId = sdkEvent ∨ pubmsg.extendId = sdkAttribution ∨
      pubmsg.extendId = sdkService ∨ pubmsg.extendId = sdkShadow ∨
      pubmsg.extendId = sdkOta := by
    simpa using hspellable.extendId
  rcases hids with hid | hid | hid | hid | hid
  · rw [topicRoundTrips_model hspellable "event".toList
      (by simp [Conversion.Accepts]) (by rw [hid]; decide)
      (by rw [hid]; decide)
      (by
        intro stored htype
        rw [modelExtendId, htype, hid]
        decide)
      (by simp [topicTextV3, render, topicHead, headTexts, topicTail, hid,
        sdkEvent, sdkAttribution])]
    simp [BlankFree, hid, sdkEvent, sdkShadow, sdkOta]
  · rw [topicRoundTrips_model hspellable "attribute".toList
      (by simp [Conversion.Accepts]) (by rw [hid]; decide)
      (by rw [hid]; decide)
      (by
        intro stored htype
        rw [modelExtendId, htype, hid]
        decide)
      (by simp [topicTextV3, render, topicHead, headTexts, topicTail, hid])]
    simp [BlankFree, hid, sdkAttribution, sdkShadow, sdkOta]
  · rw [topicRoundTrips_model hspellable "service".toList
      (by simp [Conversion.Accepts]) (by rw [hid]; decide)
      (by rw [hid]; decide)
      (by
        intro stored htype
        rw [modelExtendId, htype, hid]
        decide)
      (by simp [topicTextV3, render, topicHead, headTexts, topicTail, hid,
        sdkEvent, sdkAttribution, sdkService])]
    simp [BlankFree, hid, sdkService, sdkShadow, sdkOta]
  · have htopic : topicTextV3 kernel pubmsg =
        render topicHead (headTexts kernel pubmsg) ++
          topicTail "basic".toList "shadow".toList pubmsg.businessType := by
      simp [topicTextV3, render, topicHead, headTexts, topicTail, hid,
        sdkEvent, sdkAttribution, sdkService, sdkShadow]
    obtain ⟨stored, hscan, hhead, hdomain, hidentifier⟩ :=
      scanTopicV3_shadow hspellable hspellable.topic_lt htopic
    have hround : TopicRoundTrips kernel pubmsg := by
      refine ⟨stored, ?_, hhead.subSerial, hhead.resourceId,
        hhead.resourceType, hhead.businessType, ?_, ?_⟩
      · rw [strncpy_topicTextV3 hspellable, hscan, hid]
      · rw [hdomain, if_pos (Or.inl hid)]
      · rw [hidentifier, if_pos hid]
    exact iff_of_true hround (Or.inl hid)
  · have htopic : topicTextV3 kernel pubmsg =
        render topicHead (headTexts kernel pubmsg) ++
          topicTail "ota".toList pubmsg.identifier
            pubmsg.businessType := by
      simp [topicTextV3, render, topicHead, headTexts, topicTail, hid,
        sdkEvent, sdkAttribution, sdkService, sdkShadow, sdkOta]
    have hnoShadow : ¬ (pubmsg.extendId = sdkShadow) := by
      rw [hid]
      decide
    obtain ⟨stored, hscan, hhead, hdomain, hidentifier⟩ :=
      scanTopicV3_ota hspellable hspellable.topic_lt htopic
    have hround : TopicRoundTrips kernel pubmsg := by
      refine ⟨stored, ?_, hhead.subSerial, hhead.resourceId,
        hhead.resourceType, hhead.businessType, ?_, ?_⟩
      · rw [strncpy_topicTextV3 hspellable, hscan, hid]
      · rw [hdomain, if_pos (Or.inr hid)]
      · rw [hidentifier, if_neg hnoShadow]
    exact iff_of_true hround (Or.inr (Or.inl hid))

end Spelled

/-- Messages whose topics are read back, topics that keep the members in
bounds, and topics of unknown model types that are not delivered. -/
theorem topics_codec_iff (kernel : DasKernel) (pubmsg : KernelPubmsgV3)
    (topic : CString) :
    (Spellable kernel pubmsg →
      (TopicRoundTrips kernel pubmsg ↔ BlankFree pubmsg)) ∧
    (topic.length < ezdevSdkRecvTopicLen →
      (InBounds topic ↔ SegmentsFit topic)) ∧
    (topic.length < ezdevSdkRecvTopicLen →
      (UnknownRejected topic ↔
        ∀ modelType, HasModelType modelType topic →
          modelType ∉ knownModelTypes → ¬ Complete topic)) :=
  ⟨fun hspellable => topicRoundTrips_iff hspellable,
    fun hlength => inBounds_iff_segmentsFit hlength,
    fun hlength => unknownRejected_iff hlength⟩

/-- A device that is no hub, and an attribute that it reports. -/
def plainDevice : DasKernel := ⟨"D1".toList, 0, []⟩

def attributeReport (identifier : CString) : KernelPubmsgV3 where
  msgQos := 1
  msgResponse := 0
  msgSeq := 7
  externelCtx := none
  extendId := sdkAttribution
  msgBody := none
  commandVer := []
  domainId := "lamp".toList
  resourceId := "0".toList
  resourceType := "global".toList
  businessType := "report".toList
  identifier := identifier
  subSerial := []

theorem attributeReport_spellable {identifier : CString}
    (hsegment : Segment 64 identifier) :
    Spellable plainDevice (attributeReport identifier) where
  extendId := by simp [attributeReport]
  devSubserial :=
    (⟨by decide, by decide, by simp⟩ : Segment 72 "D1".toList)
  subSerial := fun hne => absurd rfl hne
  resourceId :=
    (⟨by decide, by decide, by simp⟩ : Segment 64 "0".toList)
  resourceId_no_dash :=
    (by simp : ∀ char ∈ "0".toList, char ≠ '-')
  resourceType :=
    (⟨by decide, by decide, by simp⟩ : Segment 64 "global".toList)
  businessType :=
    (⟨by decide, by decide, by simp⟩ : Segment 64 "report".toList)
  domainId :=
    (⟨by decide, by decide, by simp⟩ : Segment 64 "lamp".toList)
  identifier := hsegment
  topic_lt := by
    have hlt := hsegment.length_lt
    have hlength :
        (topicTextV3 plainDevice (attributeReport identifier)).length =
          identifier.length + 52 := by
      simp [topicTextV3, attributeReport, plainDevice, topicSubserial]
    rw [hlength, ezdevSdkRecvTopicLen]
    omega

/-- The identifier `power` is read back, and `on off` with its blank is not. -/
theorem topics_codec_iff_attribute :
    TopicRoundTrips plainDevice (attributeReport "power".toList) ∧
      ¬ TopicRoundTrips plainDevice (attributeReport "on off".toList) := by
  constructor
  · have hspellable := @attributeReport_spellable "power".toList
      ⟨by decide, by decide, by simp⟩
    exact ((topics_codec_iff _ _ []).1 hspellable).mpr
      (.inr (.inr (by simp [attributeReport, isSpace])))
  · have hspellable := @attributeReport_spellable "on off".toList
      ⟨by decide, by decide, by simp⟩
    intro hround
    rcases ((topics_codec_iff _ _ []).1 hspellable).mp hround with
      hshadow | hota | hblank
    · exact absurd hshadow (by decide)
    · exact absurd hota (by decide)
    · exact absurd hblank (by simp [attributeReport, isSpace])

/-- A resource id of 64 characters fills its member without the NUL, and an
alarm is delivered as an event. -/
theorem topics_misread :
    ¬ InBounds ("/iot/D/S/".toList ++ List.replicate 64 'r') ∧
      ¬ UnknownRejected "/iot/D/S/0-T/model/alarm/report/P/low".toList := by
  constructor
  · intro hbounds
    have hentry := hbounds (.resourceId, List.replicate 64 'r')
      (by decide +kernel) rfl
    exact absurd hentry (by decide)
  · intro hrejected
    have htype : HasModelType "alarm".toList
        "/iot/D/S/0-T/model/alarm/report/P/low".toList := by
      refine ⟨["D".toList, "S".toList, "0".toList, "T".toList],
        "alarm/report/P/low".toList, ?_, by decide, by decide⟩
      refine .cons ?_ (.cons ?_ (.cons ?_ (.cons ?_ .nil))) <;>
        simp [Conversion.Accepts]
    exact hrejected _ htype (by decide) 0 (by decide +kernel)

end EziotSdk

import EziotSdk.JsonParser

/-!
# Messages of the base domain

`extend_data_route_cb` and the handlers of `ez_protocol.c`.  Each fetches the
parts of an XML or JSON document, changes the binding in the context of the
SDK and calls the application.  Most parts are looked at before they are used;
the texts of the NTP configuration and the `Id` of a user are not, and the
numbers of the NTP configuration are taken from members of any type.
-/

namespace EziotSdk

/-! ## XML documents -/

/-- A tag; the name is NULL when the document has no root. -/
inductive EzxmlTag where
  | tag (name : Option CString) (attr : List (CString × CString))
      (txt : CString) (children : List EzxmlTag)

/-- A document with the attributes that its type declares for each tag; one
that is declared without a value is NULL. -/
structure Ezxml where
  root : EzxmlTag
  declared : CString → List (CString × Option CString)

namespace EzxmlTag

def name : EzxmlTag → Option CString
  | .tag name _ _ _ => name

def txt : EzxmlTag → CString
  | .tag _ _ txt _ => txt

/-- `ezxml_child`. -/
def child (wanted : CString) : EzxmlTag → Option EzxmlTag
  | .tag _ _ _ children =>
      children.find? fun tag => tag.name = some wanted

end EzxmlTag

/-- `ezxml_attr`: an attribute of the tag, or else one that is declared. -/
def Ezxml.attr (xml : Ezxml) (wanted : CString) : EzxmlTag → Option CString
  | .tag name attr _ _ =>
      match attr.find? fun own => own.1 = wanted with
      | some own => some own.2
      | none => do
          let declared := xml.declared (← name)
          (← declared.find? fun own => own.1 = wanted).2

/-! ## The context of the SDK -/

/-- `ez_iot_ctx_t`; the flag is nonzero when the binding need not be
queried. -/
structure EzIotCtx where
  needQueryBingding : ℤ
  token : CString.Buffer 128
  userId : CString.Buffer 33

structure EzIotNtpInfo where
  host : CString.Buffer 64
  port : ℤ
  interval : ℤ
  timezone : CString.Buffer 16

structure EzIotChallenge where
  challengeCode : ℤ
  validityPeriod : ℤ

/-- What `recv_msg` hands to the application. -/
inductive EzIotMsg where
  | binding (userId : CString.Buffer 64)
  | unbinding
  | ntpInfo (info : EzIotNtpInfo)
  | contactBinding (info : EzIotChallenge)

/-- The arguments of `ez_iot_tsl_adapter_profile_url`. -/
structure ProfileUrlCall where
  devSn : CString
  url : CString
  md5 : CString
  expire : ℤ

/-- An answer to the cloud; its body has the result as its only member. -/
structure BaseAnswer where
  cmdId : ℤ
  msgSeq : ℕ
  result : ℤ

/-- The context, and what has left the component. -/
structure BaseState where
  ctx : EzIotCtx
  messages : List EzIotMsg
  profileUrls : List ProfileUrlCall
  answers : List BaseAnswer

/-- The two parsers, the result of the application for a message, and that of
`dev2cloud_msg_send`. -/
structure BasePlatform where
  ezxmlParseStr : CString → Option Ezxml
  bscJsonParse : CString → Option BscJson
  recvMsg : EzIotMsg → ℤ
  msgSend : BaseAnswer → ℤ

namespace EzIotCtx

theorem userId_pos : 0 < 33 := by decide

theorem token_pos : 0 < 128 := by decide

def setBindingId (userId : CString) (ctx : EzIotCtx) : EzIotCtx :=
  { ctx with userId := .copied userId_pos userId }

def clearBindingId (ctx : EzIotCtx) : EzIotCtx :=
  { ctx with userId := .copied userId_pos [] }

def clearToken (ctx : EzIotCtx) : EzIotCtx :=
  { ctx with token := .copied token_pos [] }

def setNeedQueryBinding (ctx : EzIotCtx) : EzIotCtx :=
  { ctx with needQueryBingding := 0 }

def clearQueryBinding (ctx : EzIotCtx) : EzIotCtx :=
  { ctx with needQueryBingding := 1 }

end EzIotCtx

def kCenPlt2PuDomainConfig : ℤ := 0x1

def kCenPlt2PuSetUserIdReq : ℤ := 0x4947

def kPu2CenPltGetUserListRsp : ℤ := 0x3446

def kPu2CenPltBindUserWithTokenRsp : ℤ := 0x3803

def pu2CenPltQueryFeatureProfileRsp : ℤ := 0x3871

def kCenPlt2PuBindUserTouchReq : ℤ := 0x4F14

def kCenPlt2PuBindUserTouchRsq : ℤ := 0x4F15

def civilResultGeneralParseFailed : ℤ := 3

/-- The result of a query for a device that no user has bound. -/
def unboundResult : ℤ := 0x101c02

theorem EzIotMsg.userId_pos : 0 < 64 := by decide

theorem EzIotNtpInfo.host_pos : 0 < 64 := by decide

theorem EzIotNtpInfo.timezone_pos : 0 < 16 := by decide

/-! ## The parts of a JSON payload -/

/-- A text that is copied without a look at its type; `none` for a copy from
the NULL pointer of a member of another type. -/
def ntpText {size : ℕ} (hsize : 0 < size) (name : CString) (ntp : BscJson) :
    Option (CString.Buffer size) :=
  match ntp.getObjectItem name with
  | none => some (.copied hsize [])
  | some json => json.valuestring.map fun text => .copied hsize text

/-- A number that is read from a member of any type. -/
def ntpNumber (name : CString) (ntp : BscJson) : ℤ :=
  match ntp.getObjectItem name with
  | none => 0
  | some json => json.valueint

def ntpInfoOf (ntp : BscJson) : Option EzIotNtpInfo := do
  let host ← ntpText EzIotNtpInfo.host_pos "Addr".toList ntp
  let timezone ← ntpText EzIotNtpInfo.timezone_pos "Timezone".toList ntp
  return {
    host := host
    port := ntpNumber "Port".toList ntp
    interval := (ntpNumber "Interval".toList ntp).tdiv 60
    timezone := timezone }

/-- The value of a member that is a number. -/
def memberNumberOf (name : CString) (root : BscJson) : Option ℤ :=
  ((root.getObjectItem name).filter isNumber).map BscJson.valueint

def profileUrlOf (root : BscJson) : Option ProfileUrlCall := do
  let url ← textOf (root.getObjectItem "url".toList)
  let expire ← memberNumberOf "expire".toList root
  let md5 ← textOf (root.getObjectItem "md5".toList)
  let devSn ← textOf (root.getObjectItem "devSerial".toList)
  return { devSn := devSn, url := url, md5 := md5, expire := expire }

def challengeOf (root : BscJson) : Option EzIotChallenge := do
  let token ← memberNumberOf "token".toList root
  let bindPeriod ← memberNumberOf "bindPeriod".toList root
  return { challengeCode := token, validityPeriod := bindPeriod }

/-! ## The handlers -/

namespace BasePlatform

variable (platform : BasePlatform)

def msg2devBinding (userid : CString) (state : BaseState) : ℤ × BaseState :=
  let msg := EzIotMsg.binding (.copied EzIotMsg.userId_pos userid)
  (platform.recvMsg msg,
    { state with
      ctx := ((state.ctx.setBindingId userid).clearQueryBinding).clearToken
      messages := state.messages ++ [msg] })

def msg2devUnbinding (state : BaseState) : ℤ × BaseState :=
  (platform.recvMsg .unbinding,
    { state with
      ctx := ((state.ctx.clearQueryBinding).clearBindingId).clearToken
      messages := state.messages ++ [.unbinding] })

/-- The document, when its root has this name. -/
def documentOf (name buf : CString) : Option Ezxml :=
  (platform.ezxmlParseStr buf).filter fun xml => xml.root.name = some name

def cloud2devSetuseridReq (buf : CString) (state : BaseState) :
    ℤ × BaseState :=
  match platform.documentOf "Request".toList buf with
  | none => (civilResultGeneralParseFailed, state)
  | some xml =>
      match xml.root.child "UserId".toList with
      | none => (civilResultGeneralParseFailed, state)
      | some userid =>
          if CString.strlen userid.txt = 0 then
            platform.msg2devUnbinding state
          else platform.msg2devBinding userid.txt state

/-- The result of a handler goes back to the cloud. -/
def answered (rspCmd : ℤ) (seq : ℕ) (handled : ℤ × BaseState) :
    ℤ × BaseState :=
  let answer : BaseAnswer := ⟨rspCmd, seq, handled.1⟩
  (platform.msgSend answer,
    { handled.2 with answers := handled.2.answers ++ [answer] })

def cloud2devRepBushandle (rspCmd : ℤ) (seq : ℕ)
    (procFunc : BaseState → ℤ × BaseState) (state : BaseState) :
    ℤ × BaseState :=
  platform.answered rspCmd seq (procFunc state)

/-- The part of a configuration that the handler looks into. -/
def ntpOf (buf : CString) : Option BscJson :=
  (platform.bscJsonParse buf).bind (BscJson.getObjectItem "NTP".toList)

/-- `none` for a read through NULL. -/
def cloud2devSetNtpinfoReq (buf : CString) (state : BaseState) :
    Option BaseState :=
  match platform.ntpOf buf with
  | none => some state
  | some ntp =>
      (ntpInfoOf ntp).map fun info =>
        { state with messages := state.messages ++ [.ntpInfo info] }

def dev2cloudQueryProfileUrlRsp (buf : CString) (state : BaseState) :
    ℤ × BaseState :=
  match (platform.bscJsonParse buf).bind profileUrlOf with
  | none => (-1, state)
  | some call =>
      (0, { state with profileUrls := state.profileUrls ++ [call] })

/-- `none` for a read through NULL. -/
def dev2cloudQueryBandingRsp (buf : CString) (state : BaseState) :
    Option (ℤ × BaseState) :=
  match platform.documentOf "Response".toList buf with
  | none => some (-1, state)
  | some xml =>
      match xml.root.child "Result".toList with
      | none => some (-1, state)
      | some result =>
          if CString.atoi result.txt = unboundResult then
            some (platform.msg2devUnbinding state)
          else
            match xml.root.child "User".toList with
            | none => some (platform.msg2devUnbinding state)
            | some user =>
                (xml.attr "Id".toList user).map fun id =>
                  platform.msg2devBinding id state

def cloud2devContactBind (buf : CString) (seq : ℕ) (state : BaseState) :
    ℤ × BaseState :=
  platform.answered kCenPlt2PuBindUserTouchRsq seq
    (match (platform.bscJsonParse buf).bind challengeOf with
    | none => (-1, state)
    | some info =>
        (platform.recvMsg (.contactBinding info),
          { state with
            messages := state.messages ++ [.contactBinding info] }))

def extendDataRouteCb (cmdId : ℤ) (msgSeq : ℕ) (buf : CString)
    (state : BaseState) : Option BaseState :=
  if cmdId = kCenPlt2PuDomainConfig then
    platform.cloud2devSetNtpinfoReq buf state
  else if cmdId = kCenPlt2PuSetUserIdReq then
    some (platform.cloud2devRepBushandle kCenPlt2PuSetUserIdReq msgSeq
      (platform.cloud2devSetuseridReq buf) state).2
  else if cmdId = kPu2CenPltGetUserListRsp then
    (platform.dev2cloudQueryBandingRsp buf state).map Prod.snd
  else if cmdId = kPu2CenPltBindUserWithTokenRsp then
    -- the binding is queried once the platform has answered
    some { state with ctx := state.ctx.setNeedQueryBinding }
  else if cmdId = pu2CenPltQueryFeatureProfileRsp then
    some (platform.dev2cloudQueryProfileUrlRsp buf state).2
  else if cmdId = kCenPlt2PuBindUserTouchReq then
    some (platform.cloud2devContactBind buf msgSeq state).2
  else some state

end BasePlatform

/-! ## What a payload needs -/

/-- A configuration whose members, where there are any, have their types. -/
structure NtpTyped (ntp : BscJson) : Prop where
  object : ∃ members, ntp = .object members
  addr : ∀ item, ntp.getObjectItem "Addr".toList = some item →
    item.valuestring ≠ none
  port : ∀ item, ntp.getObjectItem "Port".toList = some item → isNumber item
  interval : ∀ item, ntp.getObjectItem "Interval".toList = some item →
    isNumber item
  timezone : ∀ item, ntp.getObjectItem "Timezone".toList = some item →
    item.valuestring ≠ none

/-- A member that is a text. -/
def TextMember (name : CString) (root : BscJson) : Prop :=
  ∃ text, root.getObjectItem name = some (.string text)

/-- A member that is a number. -/
def NumberMember (name : CString) (root : BscJson) : Prop :=
  ∃ value, root.getObjectItem name = some (.number value)

/-- Binding, flag and token are as before, and nothing has been called. -/
structure BaseState.Unmoved (state next : BaseState) : Prop where
  ctx : next.ctx = state.ctx
  messages : next.messages = state.messages
  profileUrls : next.profileUrls = state.profileUrls

theorem BaseState.Unmoved.refl (state : BaseState) : state.Unmoved state :=
  ⟨rfl, rfl, rfl⟩

namespace BasePlatform

variable (platform : BasePlatform)

/-- Every user that is looked for has its id; a device that is reported as
unbound, or without a user, needs none. -/
def UserNamed (xml : Ezxml) (result : EzxmlTag) : Prop :=
  CString.atoi result.txt ≠ unboundResult →
    ∀ user, xml.root.child "User".toList = some user →
      xml.attr "Id".toList user ≠ none

/-- The parts that the handler of a command needs, in the types that it
assumes. -/
structure CompletePayload (cmdId : ℤ) (buf : CString) : Prop where
  ntp : cmdId = kCenPlt2PuDomainConfig →
    ∃ ntp, platform.ntpOf buf = some ntp ∧ NtpTyped ntp
  userid : cmdId = kCenPlt2PuSetUserIdReq →
    ∃ xml userid, platform.documentOf "Request".toList buf = some xml ∧
      xml.root.child "UserId".toList = some userid
  userList : cmdId = kPu2CenPltGetUserListRsp →
    ∃ xml result, platform.documentOf "Response".toList buf = some xml ∧
      xml.root.child "Result".toList = some result ∧ UserNamed xml result
  profileUrl : cmdId = pu2CenPltQueryFeatureProfileRsp →
    ∃ root, platform.bscJsonParse buf = some root ∧
      TextMember "url".toList root ∧ NumberMember "expire".toList root ∧
      TextMember "md5".toList root ∧ TextMember "devSerial".toList root
  challenge : cmdId = kCenPlt2PuBindUserTouchReq →
    ∃ root, platform.bscJsonParse buf = some root ∧
      NumberMember "token".toList root ∧ NumberMember "bindPeriod".toList root

/-- The message is handled without a read through NULL, and has no effect when
a part is missing. -/
def MessageSound (cmdId : ℤ) (msgSeq : ℕ) (buf : CString)
    (state : BaseState) : Prop :=
  ∃ next, platform.extendDataRouteCb cmdId msgSeq buf state = some next ∧
    (¬ platform.CompletePayload cmdId buf → state.Unmoved next)

/-- The parts that no handler looks at are as they are taken to be. -/
structure PartsAsAssumed (cmdId : ℤ) (buf : CString) : Prop where
  ntp : cmdId = kCenPlt2PuDomainConfig →
    ∀ ntp, platform.ntpOf buf = some ntp → NtpTyped ntp
  user : cmdId = kPu2CenPltGetUserListRsp →
    ∀ xml result, platform.documentOf "Response".toList buf = some xml →
      xml.root.child "Result".toList = some result → UserNamed xml result

/-! ### The configuration of the clock -/

theorem ntpText_of_text {size : ℕ} (hsize : 0 < size) {name : CString}
    {ntp : BscJson}
    (htext : ∀ item, ntp.getObjectItem name = some item →
      item.valuestring ≠ none) :
    ∃ text, ntpText hsize name ntp = some text := by
  unfold ntpText
  cases hitem : ntp.getObjectItem name with
  | none => exact ⟨_, rfl⟩
  | some item =>
      rcases Option.ne_none_iff_exists'.mp (htext item hitem) with
        ⟨text, hvalue⟩
      exact ⟨_, congrArg (Option.map _) hvalue⟩

theorem ntpInfoOf_of_typed {ntp : BscJson} (htyped : NtpTyped ntp) :
    ∃ info, ntpInfoOf ntp = some info := by
  rcases ntpText_of_text EzIotNtpInfo.host_pos htyped.addr with ⟨host, hhost⟩
  rcases ntpText_of_text EzIotNtpInfo.timezone_pos htyped.timezone with
    ⟨timezone, htimezone⟩
  unfold ntpInfoOf
  rw [hhost, htimezone]
  exact ⟨_, rfl⟩

theorem ntp_sound_iff (buf : CString) (state : BaseState) :
    (∃ next, platform.cloud2devSetNtpinfoReq buf state = some next ∧
      ((¬ ∃ ntp, platform.ntpOf buf = some ntp ∧ NtpTyped ntp) →
        state.Unmoved next)) ↔
      ∀ ntp, platform.ntpOf buf = some ntp → NtpTyped ntp := by
  unfold cloud2devSetNtpinfoReq
  cases hntp : platform.ntpOf buf with
  | none =>
      apply iff_of_true
      · exact ⟨state, rfl, fun _ => .refl state⟩
      · intro ntp hnone
        cases hnone
  | some ntp =>
      constructor
      · rintro ⟨next, hnext, hunmoved⟩ other hother
        cases hother
        by_contra hmistyped
        rcases Option.map_eq_some_iff.mp hnext with ⟨info, -, rfl⟩
        have hincomplete :
            ¬ ∃ other, some ntp = some other ∧ NtpTyped other := by
          rintro ⟨other, hother, htyped⟩
          cases hother
          exact hmistyped htyped
        have hmessages := (hunmoved hincomplete).messages
        simp at hmessages
      · intro htyped
        rcases ntpInfoOf_of_typed (htyped ntp rfl) with ⟨info, hinfo⟩
        refine ⟨_, congrArg (Option.map _) hinfo, ?_⟩
        intro hincomplete
        exact absurd ⟨ntp, rfl, htyped ntp rfl⟩ hincomplete

/-! ### The list of users -/

theorem userList_sound_iff (buf : CString) (state : BaseState) :
    (∃ handled, platform.dev2cloudQueryBandingRsp buf state = some handled ∧
      ((¬ ∃ xml result,
          platform.documentOf "Response".toList buf = some xml ∧
            xml.root.child "Result".toList = some result ∧
            UserNamed xml result) →
        state.Unmoved handled.2)) ↔
      ∀ xml result, platform.documentOf "Response".toList buf = some xml →
        xml.root.child "Result".toList = some result →
        UserNamed xml result := by
  unfold dev2cloudQueryBandingRsp
  cases hxml : platform.documentOf "Response".toList buf with
  | none =>
      apply iff_of_true
      · exact ⟨_, rfl, fun _ => .refl state⟩
      · intro xml result hnone
        cases hnone
  | some xml =>
      dsimp only
      cases hresult : xml.root.child "Result".toList with
      | none =>
          apply iff_of_true
          · exact ⟨_, rfl, fun _ => .refl state⟩
          · intro other result hother hsome
            cases hother
            rw [hresult] at hsome
            cases hsome
      | some result =>
          have hall : (∀ other found, some xml = some other →
              other.root.child "Result".toList = some found →
                UserNamed other found) ↔ UserNamed xml result := by
            constructor
            · exact fun hall => hall xml result rfl hresult
            · intro hnamed other found hother hfound
              cases hother
              rw [hresult] at hfound
              cases hfound
              exact hnamed
          rw [hall]
          have hcomplete (hnamed : UserNamed xml result) :
              ∃ other found, some xml = some other ∧
                other.root.child "Result".toList = some found ∧
                UserNamed other found := ⟨xml, result, rfl, hresult, hnamed⟩
          dsimp only
          split_ifs with hunbound
          · have hnamed : UserNamed xml result :=
              fun hother => absurd hunbound hother
            apply iff_of_true _ hnamed
            exact ⟨_, rfl, fun hnot => absurd (hcomplete hnamed) hnot⟩
          · cases huser : xml.root.child "User".toList with
            | none =>
                have hnamed : UserNamed xml result := by
                  intro _ user hsome
                  rw [huser] at hsome
                  cases hsome
                apply iff_of_true _ hnamed
                exact ⟨_, rfl, fun hnot => absurd (hcomplete hnamed) hnot⟩
            | some user =>
                dsimp only
                constructor
                · rintro ⟨handled, hhandled, -⟩ _ other hother hnone
                  rw [huser] at hother
                  cases hother
                  rw [hnone] at hhandled
                  cases hhandled
                · intro hnamed
                  rcases Option.ne_none_iff_exists'.mp
                    (hnamed hunbound user huser) with ⟨id, hid⟩
                  refine ⟨_, by rw [hid]; rfl, ?_⟩
                  exact fun hnot => absurd (hcomplete hnamed) hnot

/-! ### The other handlers -/

theorem userid_unmoved {buf : CString} (state : BaseState)
    (hincomplete : ¬ ∃ xml userid,
      platform.documentOf "Request".toList buf = some xml ∧
        xml.root.child "UserId".toList = some userid) :
    (platform.cloud2devSetuseridReq buf state).2 = state := by
  unfold cloud2devSetuseridReq
  cases hxml : platform.documentOf "Request".toList buf with
  | none => rfl
  | some xml =>
      dsimp only
      cases huserid : xml.root.child "UserId".toList with
      | none => rfl
      | some userid => exact absurd ⟨xml, userid, hxml, huserid⟩ hincomplete

theorem memberNumberOf_eq_some_iff {name : CString} {root : BscJson} :
    (∃ value, memberNumberOf name root = some value) ↔ NumberMember name root := by
  unfold memberNumberOf NumberMember
  cases hitem : root.getObjectItem name with
  | none => simp
  | some item => cases item <;> simp [isNumber]

theorem textOf_eq_some_iff {name : CString} {root : BscJson} :
    (∃ text, textOf (root.getObjectItem name) = some text) ↔
      TextMember name root := by
  unfold textOf TextMember
  cases hitem : root.getObjectItem name with
  | none => simp
  | some item => cases item <;> simp [BscJson.valuestring]

theorem profileUrlOf_complete {root : BscJson} {call : ProfileUrlCall}
    (hcall : profileUrlOf root = some call) :
    TextMember "url".toList root ∧ NumberMember "expire".toList root ∧
      TextMember "md5".toList root ∧ TextMember "devSerial".toList root := by
  unfold profileUrlOf at hcall
  simp only [Option.bind_eq_bind, Option.bind_eq_some_iff] at hcall
  rcases hcall with ⟨url, hurl, expire, hexpire, md5, hmd5, sn, hsn, -⟩
  exact ⟨textOf_eq_some_iff.mp ⟨url, hurl⟩,
    memberNumberOf_eq_some_iff.mp ⟨expire, hexpire⟩,
    textOf_eq_some_iff.mp ⟨md5, hmd5⟩, textOf_eq_some_iff.mp ⟨sn, hsn⟩⟩

theorem challengeOf_complete {root : BscJson} {info : EzIotChallenge}
    (hinfo : challengeOf root = some info) :
    NumberMember "token".toList root ∧ NumberMember "bindPeriod".toList root := by
  unfold challengeOf at hinfo
  simp only [Option.bind_eq_bind, Option.bind_eq_some_iff] at hinfo
  rcases hinfo with ⟨token, htoken, period, hperiod, -⟩
  exact ⟨memberNumberOf_eq_some_iff.mp ⟨token, htoken⟩,
    memberNumberOf_eq_some_iff.mp ⟨period, hperiod⟩⟩

theorem profileUrl_unmoved {buf : CString} (state : BaseState)
    (hincomplete : ¬ ∃ root, platform.bscJsonParse buf = some root ∧
      TextMember "url".toList root ∧ NumberMember "expire".toList root ∧
      TextMember "md5".toList root ∧ TextMember "devSerial".toList root) :
    (platform.dev2cloudQueryProfileUrlRsp buf state).2 = state := by
  unfold dev2cloudQueryProfileUrlRsp
  cases hcall : (platform.bscJsonParse buf).bind profileUrlOf with
  | none => rfl
  | some call =>
      rcases Option.bind_eq_some_iff.mp hcall with ⟨root, hroot, hparts⟩
      exact absurd ⟨root, hroot, profileUrlOf_complete hparts⟩ hincomplete

theorem answered_unmoved (rspCmd : ℤ) (seq : ℕ) {state : BaseState}
    {handled : ℤ × BaseState} (hunmoved : state.Unmoved handled.2) :
    state.Unmoved (platform.answered rspCmd seq handled).2 :=
  ⟨hunmoved.ctx, hunmoved.messages, hunmoved.profileUrls⟩

theorem contactBind_unmoved {buf : CString} (seq : ℕ) (state : BaseState)
    (hincomplete : ¬ ∃ root, platform.bscJsonParse buf = some root ∧
      NumberMember "token".toList root ∧ NumberMember "bindPeriod".toList root) :
    state.Unmoved (platform.cloud2devContactBind buf seq state).2 := by
  unfold cloud2devContactBind
  apply answered_unmoved
  cases hinfo : (platform.bscJsonParse buf).bind challengeOf with
  | none => exact .refl state
  | some info =>
      rcases Option.bind_eq_some_iff.mp hinfo with ⟨root, hroot, hparts⟩
      exact absurd ⟨root, hroot, challengeOf_complete hparts⟩ hincomplete

/-! ## Every command -/

/-- A message is handled soundly exactly when the parts that no handler looks
at are as it takes them to be. -/
theorem baseMessage_sound_iff (cmdId : ℤ) (msgSeq : ℕ) (buf : CString)
    (state : BaseState) :
    platform.MessageSound cmdId msgSeq buf state ↔
      platform.PartsAsAssumed cmdId buf := by
  by_cases hntp : cmdId = kCenPlt2PuDomainConfig
  · subst hntp
    have hcomplete : platform.CompletePayload kCenPlt2PuDomainConfig buf ↔
        ∃ ntp, platform.ntpOf buf = some ntp ∧ NtpTyped ntp := by
      constructor
      · exact fun hcomplete => hcomplete.ntp rfl
      · intro hpart
        exact {
          ntp := fun _ => hpart
          userid := fun hother => absurd hother (by decide)
          userList := fun hother => absurd hother (by decide)
          profileUrl := fun hother => absurd hother (by decide)
          challenge := fun hother => absurd hother (by decide) }
    have hparts : platform.PartsAsAssumed kCenPlt2PuDomainConfig buf ↔
        ∀ ntp, platform.ntpOf buf = some ntp → NtpTyped ntp :=
      ⟨fun hparts => hparts.ntp rfl,
        fun htyped => ⟨fun _ => htyped, fun hother => absurd hother (by decide)⟩⟩
    unfold MessageSound extendDataRouteCb
    rw [hcomplete, hparts, if_pos rfl]
    exact platform.ntp_sound_iff buf state
  by_cases hlist : cmdId = kPu2CenPltGetUserListRsp
  · subst hlist
    have hcomplete : platform.CompletePayload kPu2CenPltGetUserListRsp buf ↔
        ∃ xml result,
          platform.documentOf "Response".toList buf = some xml ∧
            xml.root.child "Result".toList = some result ∧
            UserNamed xml result := by
      constructor
      · exact fun hcomplete => hcomplete.userList rfl
      · intro hpart
        exact {
          ntp := fun hother => absurd hother (by decide)
          userid := fun hother => absurd hother (by decide)
          userList := fun _ => hpart
          profileUrl := fun hother => absurd hother (by decide)
          challenge := fun hother => absurd hother (by decide) }
    have hparts : platform.PartsAsAssumed kPu2CenPltGetUserListRsp buf ↔
        ∀ xml result, platform.documentOf "Response".toList buf = some xml →
          xml.root.child "Result".toList = some result →
          UserNamed xml result :=
      ⟨fun hparts => hparts.user rfl,
        fun hnamed => ⟨fun hother => absurd hother (by decide), fun _ => hnamed⟩⟩
    unfold MessageSound extendDataRouteCb
    rw [hcomplete, hparts, if_neg (by decide), if_neg (by decide), if_pos rfl,
      ← platform.userList_sound_iff buf state]
    constructor
    · rintro ⟨next, hnext, hunmoved⟩
      rcases Option.map_eq_some_iff.mp hnext with ⟨handled, hhandled, rfl⟩
      exact ⟨handled, hhandled, hunmoved⟩
    · rintro ⟨handled, hhandled, hunmoved⟩
      exact ⟨handled.2, by rw [hhandled]; rfl, hunmoved⟩
  have hparts : platform.PartsAsAssumed cmdId buf :=
    ⟨fun hother => absurd hother hntp, fun hother => absurd hother hlist⟩
  refine iff_of_true ?_ hparts
  have hcomplete
      (huserid : cmdId = kCenPlt2PuSetUserIdReq →
        ∃ xml userid, platform.documentOf "Request".toList buf = some xml ∧
          xml.root.child "UserId".toList = some userid)
      (hprofile : cmdId = pu2CenPltQueryFeatureProfileRsp →
        ∃ root, platform.bscJsonParse buf = some root ∧
          TextMember "url".toList root ∧ NumberMember "expire".toList root ∧
          TextMember "md5".toList root ∧ TextMember "devSerial".toList root)
      (hchallenge : cmdId = kCenPlt2PuBindUserTouchReq →
        ∃ root, platform.bscJsonParse buf = some root ∧
          NumberMember "token".toList root ∧
          NumberMember "bindPeriod".toList root) :
      platform.CompletePayload cmdId buf :=
    { ntp := fun hother => absurd hother hntp
      userid := huserid
      userList := fun hother => absurd hother hlist
      profileUrl := hprofile
      challenge := hchallenge }
  unfold MessageSound extendDataRouteCb
  rw [if_neg hntp, if_neg hlist]
  split_ifs with huserid htoken hprofile hchallenge
  · subst huserid
    refine ⟨_, rfl, fun hincomplete => ?_⟩
    apply answered_unmoved
    rw [platform.userid_unmoved state]
    · exact .refl state
    · intro hpart
      exact hincomplete (hcomplete (fun _ => hpart)
        (fun hother => absurd hother (by decide))
        (fun hother => absurd hother (by decide)))
  · subst htoken
    refine ⟨_, rfl, fun hincomplete => ?_⟩
    exact absurd (hcomplete (fun hother => absurd hother (by decide))
      (fun hother => absurd hother (by decide))
      (fun hother => absurd hother (by decide))) hincomplete
  · subst hprofile
    refine ⟨_, rfl, fun hincomplete => ?_⟩
    rw [platform.profileUrl_unmoved state]
    · exact .refl state
    · intro hpart
      exact hincomplete (hcomplete (fun hother => absurd hother (by decide))
        (fun _ => hpart) (fun hother => absurd hother (by decide)))
  · subst hchallenge
    refine ⟨_, rfl, fun hincomplete => ?_⟩
    apply platform.contactBind_unmoved
    intro hpart
    exact hincomplete (hcomplete (fun hother => absurd hother (by decide))
      (fun hother => absurd hother (by decide)) (fun _ => hpart))
  · exact ⟨state, rfl, fun _ => .refl state⟩

/-! ### Two payloads -/

/-- An NTP configuration whose port is a text. -/
def textPort : CString := 
  "\x7b\"NTP\":\x7b\"Port\":\"123\"\x7d\x7d".toList

/-- A user without an id. -/
def namelessUser : CString :=
  "<Response><Result>0</Result><User/></Response>".toList

/-- The parsers on these two payloads. -/
def sampleBase : BasePlatform where
  ezxmlParseStr buf :=
    if buf = namelessUser then
      some ⟨.tag (some "Response".toList) [] []
        [.tag (some "Result".toList) [] "0".toList [],
          .tag (some "User".toList) [] [] []], fun _ => []⟩
    else none
  bscJsonParse buf :=
    if buf = textPort then
      some (.object [("NTP".toList,
        .object [("Port".toList, .string "123".toList)])])
    else none
  recvMsg _ := 0
  msgSend _ := 0

def restingBase : BaseState where
  ctx := {
    needQueryBingding := 0
    token := .copied EzIotCtx.token_pos []
    userId := .copied EzIotCtx.userId_pos [] }
  messages := []
  profileUrls := []
  answers := []

/-- The text is taken for the port 0 and the application is called, and the
missing id is read through NULL. -/
theorem base_parts_unchecked :
    ¬ sampleBase.MessageSound kCenPlt2PuDomainConfig 1 textPort
        restingBase ∧
      ¬ sampleBase.MessageSound kPu2CenPltGetUserListRsp 1 namelessUser
        restingBase := by
  constructor
  · rintro ⟨next, hnext, hunmoved⟩
    have hntp : sampleBase.ntpOf textPort =
        some (.object [("Port".toList, .string "123".toList)]) := rfl
    have hincomplete :
        ¬ sampleBase.CompletePayload kCenPlt2PuDomainConfig textPort := by
      intro hcomplete
      rcases hcomplete.ntp rfl with ⟨ntp, hsome, htyped⟩
      rw [hntp] at hsome
      cases hsome
      exact absurd (htyped.port _ rfl) (by decide)
    have hmessages := (hunmoved hincomplete).messages
    cases hnext
    cases hmessages
  · rintro ⟨next, hnext, -⟩
    cases hnext

end BasePlatform

end EziotSdk

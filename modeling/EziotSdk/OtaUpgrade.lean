import EziotSdk.ExtendDispatch
import EziotSdk.ValueTyping

/-!
# The OTA upgrade request

`ez_ota_upgrade_to_device` reads the files of an upgrade request into records
with fields of fixed size, hands them to the application and replies.  The
loop over the files copies every member without a look at its type or length,
and leaves in the middle when it cannot allocate the record of a patch; what
it has by then goes to the application all the same.
-/

namespace EziotSdk

/-! ## Data -/

/-- `ota_file_diff_t`. -/
structure OtaFileDiff where
  url : CString.Buffer 270
  fwVerDst : CString.Buffer 64
  degist : CString.Buffer 33
  size : ℤ

/-- `ota_file_info_t`. -/
structure OtaFileInfo where
  modName : CString.Buffer 56
  url : CString.Buffer 270
  fwVer : CString.Buffer 32
  degist : CString.Buffer 33
  size : ℤ
  diffs : Option OtaFileDiff

/-- `ota_upgrade_info_t`. -/
structure OtaUpgradeInfo where
  retryMax : ℤ
  fileNum : ℕ
  interval : ℤ
  otaFiles : List OtaFileInfo

/-- `ota_res_t`. -/
structure OtaRes where
  devSerial : CString.Buffer 72

/-- `ezdev_sdk_kernel_pubmsg_v3`, with its body before it is printed. -/
structure OtaPubmsg where
  msgSeq : ℕ
  msgResponse : Bool
  msgQos : ℕ
  msgBody : List (CString × CString)
  resourceType : CString
  resourceId : CString
  subSerial : CString
  identifier : CString
  businessType : CString

/-- What the component runs on. -/
structure OtaPlatform where
  /-- What `snprintf` makes of a NULL pointer for `%s`; `none` when it does
  not survive it. -/
  nullText : Option CString
  /-- The allocations that fail: the files, the patch of a file, and the
  reply with its members and its text. -/
  filesFail : Bool
  diffsFail : ℕ → Bool
  objectFails : Bool
  memberFails : CString → Bool
  printFails : Bool
  /-- `ota_recv_msg` of the application. -/
  otaRecvMsg : OtaUpgradeInfo → ℤ

/-- The calls of the application and the messages to the platform. -/
structure OtaHandled where
  calls : List OtaUpgradeInfo
  replies : List OtaPubmsg
  ret : ℤ

def OtaHandled.nothing : OtaHandled := ⟨[], [], 0⟩

/-! ## Reading the request -/

/-- The patch of an entry; a member `diffs` of another type is none. -/
def diffsOf (entry : BscJson) : Option BscJson :=
  match entry.getObjectItem "diffs".toList with
  | some (.object members) => some (.object members)
  | _ => none

namespace OtaPlatform

/-- `snprintf` of a member into a field that was cleared; `none` for a
crash. -/
def copyText (platform : OtaPlatform) (size : ℕ) (hsize : 0 < size)
    (name : CString) (entry : BscJson) : Option (CString.Buffer size) :=
  match entry.getObjectItem name with
  | none => some ⟨[], hsize⟩
  | some member =>
      (member.valuestring.or platform.nullText).map fun text =>
        ⟨CString.strncpy text (size - 1), CString.strncpy_length_lt hsize text⟩

def copyInt (name : CString) (entry : BscJson) : ℤ :=
  match entry.getObjectItem name with
  | none => 0
  | some member => member.valueint

/-- A member that counts only when it is a number. -/
def numberOrZero (name : CString) (root : BscJson) : ℤ :=
  match root.getObjectItem name with
  | some (.number value) => BscJson.saturate value
  | _ => 0

/-- The fields have room for the NUL. -/
theorem url_pos : 0 < 270 := by decide

theorem degist_pos : 0 < 33 := by decide

theorem fwVerDst_pos : 0 < 64 := by decide

theorem modName_pos : 0 < 56 := by decide

theorem fwVer_pos : 0 < 32 := by decide

def readDiff (platform : OtaPlatform) (diffs : BscJson) :
    Option OtaFileDiff := do
  let url ← platform.copyText 270 url_pos "url".toList diffs
  let degist ← platform.copyText 33 degist_pos "degist".toList diffs
  let fwVerDst ← platform.copyText 64 fwVerDst_pos "fw_ver_dst".toList diffs
  return {
    url := url
    fwVerDst := fwVerDst
    degist := degist
    size := copyInt "size".toList diffs }

/-- A file before its `diffs` are looked at. -/
def readMembers (platform : OtaPlatform) (entry : BscJson) :
    Option OtaFileInfo := do
  let modName ← platform.copyText 56 modName_pos "module".toList entry
  let url ← platform.copyText 270 url_pos "url".toList entry
  let degist ← platform.copyText 33 degist_pos "degist".toList entry
  let fwVer ← platform.copyText 32 fwVer_pos "fw_ver".toList entry
  return {
    modName := modName
    url := url
    fwVer := fwVer
    degist := degist
    size := copyInt "size".toList entry
    diffs := none }

/-- A record of the array as `memset` leaves it. -/
def clearedFile : OtaFileInfo where
  modName := ⟨[], by decide⟩
  url := ⟨[], by decide⟩
  fwVer := ⟨[], by decide⟩
  degist := ⟨[], by decide⟩
  size := 0
  diffs := none

/-- The loop over `file_info` from an index on.  A patch that cannot be
allocated ends it. -/
def readFiles (platform : OtaPlatform) (index : ℕ) :
    List BscJson → Option (List OtaFileInfo)
  | [] => some []
  | entry :: rest => do
      let file ← platform.readMembers entry
      match diffsOf entry with
      | none => return file :: (← platform.readFiles (index + 1) rest)
      | some diffs =>
          if platform.diffsFail index then
            return file :: rest.map fun _ => clearedFile
          let diff ← platform.readDiff diffs
          return { file with diffs := some diff } ::
            (← platform.readFiles (index + 1) rest)

/-- The files that are looped over: the array `file_info`, when the records
can be allocated. -/
def fileEntries (platform : OtaPlatform) (proot : Option BscJson) :
    Option (List BscJson) :=
  match proot.bind (BscJson.getObjectItem "file_info".toList) with
  | some (.array entries) => if platform.filesFail then none else some entries
  | _ => none

/-- The record for the application; the inner `none` when the request is
refused. -/
def readRequest (platform : OtaPlatform) (proot : Option BscJson) :
    Option (Option OtaUpgradeInfo) :=
  match proot, platform.fileEntries proot with
  | some root, some entries =>
      (platform.readFiles 0 entries).map fun files =>
        some {
          retryMax := numberOrZero "maxtry".toList root
          fileNum := entries.length
          interval := numberOrZero "interval".toList root
          otaFiles := files }
  | _, _ => some none

/-! ## Replying -/

/-- `0x%#08x` of a return code. -/
def errcodeText (ret : ℤ) : CString :=
  let value := (ret % 2 ^ 32).toNat
  "0x".toList ++
    if value = 0 then "00000000".toList
    else "0x".toList ++ (Nat.toDigits 16 value).leftpad 6 '0'

/-- `ez_ota_send_msg_to_platform` for a response. -/
def sendMsgToPlatform (body : List (CString × CString)) (res : OtaRes)
    (msgType method : CString) (seq msgQos : ℕ) : OtaPubmsg where
  msgSeq := seq
  msgResponse := true
  msgQos := msgQos
  msgBody := body
  resourceType := "global".toList
  resourceId := "0".toList
  subSerial := CString.strncpy res.devSerial.1 71
  identifier := CString.strncpy method 63
  businessType := CString.strncpy msgType 63

def replyBody (platform : OtaPlatform) (ret : ℤ) : List (CString × CString) :=
  let errorMsg :=
    if ret = 0 then "Succeeded".toList else "device receive failed!".toList
  [("code".toList, errcodeText ret), ("errorMsg".toList, errorMsg)].filter
    fun member => ¬ platform.memberFails member.1

/-- The call of the application, when there is one, and the reply to its
return code. -/
def answer (platform : OtaPlatform) (res : OtaRes) (seq : ℕ)
    (request : Option OtaUpgradeInfo) : OtaHandled :=
  let ret := (request.map platform.otaRecvMsg).getD (-1)
  { calls := request.toList
    replies :=
      if platform.objectFails || platform.printFails then []
      else
        [sendMsgToPlatform (platform.replyBody ret) res
          "operate_reply".toList "upgrade".toList seq 0]
    ret := ret }

/-- `ez_ota_upgrade_to_device` on the document that the parser makes of the
payload; `none` for a crash. -/
def upgradeToDevice (platform : OtaPlatform) (res : OtaRes) (seq : ℕ)
    (proot : Option BscJson) : Option OtaHandled :=
  (platform.readRequest proot).map (platform.answer res seq)

theorem devSerial_pos : 0 < 72 := by decide

/-- `ez_ota_data_route_cb`.  Of the messages of the domain only an upgrade is
looked into; an `inform` is logged like any other. -/
def dataRouteCb (platform : OtaPlatform)
    (parse : List UInt8 → Option BscJson) (submsg : Option KernelSubmsgV3) :
    Option OtaHandled :=
  match submsg with
  | none => some OtaHandled.nothing
  | some msg =>
      match msg.buf with
      | none => some OtaHandled.nothing
      | some buf =>
          if msg.identifier = "upgrade".toList then
            platform.upgradeToDevice
              ⟨CString.Buffer.copied devSerial_pos msg.subSerial⟩ msg.msgSeq
              (parse buf)
          else some OtaHandled.nothing

end OtaPlatform

/-! ## What an entry says -/

/-- The field holds the text of the member, or nothing when the entry has no
such member. -/
def CarriesText (name : CString) (entry : BscJson) (text : CString) : Prop :=
  match entry.getObjectItem name with
  | none => text = []
  | some member => member.valuestring = some text

/-- The field holds the number of the member, or 0. -/
def CarriesInt (name : CString) (entry : BscJson) (value : ℤ) : Prop :=
  match entry.getObjectItem name with
  | none => value = 0
  | some (.number stated) => stated = value
  | some _ => False

structure OtaFileDiff.Carries (diffs : BscJson) (diff : OtaFileDiff) :
    Prop where
  url : CarriesText "url".toList diffs diff.url.1
  degist : CarriesText "degist".toList diffs diff.degist.1
  fwVerDst : CarriesText "fw_ver_dst".toList diffs diff.fwVerDst.1
  size : CarriesInt "size".toList diffs diff.size

namespace OtaFileInfo

structure CarriesMembers (entry : BscJson) (file : OtaFileInfo) : Prop where
  modName : CarriesText "module".toList entry file.modName.1
  url : CarriesText "url".toList entry file.url.1
  degist : CarriesText "degist".toList entry file.degist.1
  fwVer : CarriesText "fw_ver".toList entry file.fwVer.1
  size : CarriesInt "size".toList entry file.size

/-- The file is exactly the entry. -/
structure Carries (entry : BscJson) (file : OtaFileInfo) : Prop where
  object : ∃ members, entry = .object members
  members : file.CarriesMembers entry
  diffs : match diffsOf entry, file.diffs with
    | none, none => True
    | some diffs, some diff => diff.Carries diffs
    | _, _ => False

end OtaFileInfo

/-- The application gets the files of the request, each as its entry says. -/
structure OtaUpgradeInfo.Carries (proot : Option BscJson)
    (info : OtaUpgradeInfo) : Prop where
  files : ∃ entries,
    proot.bind (BscJson.getObjectItem "file_info".toList) =
        some (.array entries) ∧
      info.fileNum = entries.length ∧
        List.Forall₂ OtaFileInfo.Carries entries info.otaFiles

/-- The application is called at most once and only with what the request
says, and one reply with the sequence number of the request is sent. -/
structure OtaHandled.PassedOn (proot : Option BscJson) (seq : ℕ)
    (handled : OtaHandled) : Prop where
  once : handled.calls.length ≤ 1
  faithful : ∀ info ∈ handled.calls, info.Carries proot
  answered : ∃ reply, handled.replies = [reply] ∧ reply.msgSeq = seq ∧
    reply.msgResponse = true

/-! ## Entries that fit -/

/-- The member is a string that the field has room for, or absent. -/
def TextFits (size : ℕ) (name : CString) (entry : BscJson) : Prop :=
  match entry.getObjectItem name with
  | none => True
  | some member => ∃ text, member = .string text ∧ text.length < size

/-- The member is an `int`, or absent. -/
def IntFits (name : CString) (entry : BscJson) : Prop :=
  match entry.getObjectItem name with
  | none => True
  | some (.number value) => IsInt value
  | some _ => False

structure MembersFit (entry : BscJson) : Prop where
  modName : TextFits 56 "module".toList entry
  url : TextFits 270 "url".toList entry
  degist : TextFits 33 "degist".toList entry
  fwVer : TextFits 32 "fw_ver".toList entry
  size : IntFits "size".toList entry

structure DiffFits (diffs : BscJson) : Prop where
  url : TextFits 270 "url".toList diffs
  degist : TextFits 33 "degist".toList diffs
  fwVerDst : TextFits 64 "fw_ver_dst".toList diffs
  size : IntFits "size".toList diffs

/-- The entry is an object, its members and those of its patch fit, and the
patch can be allocated. -/
structure EntryFits (diffsFail : Bool) (entry : BscJson) : Prop where
  object : ∃ members, entry = .object members
  members : MembersFit entry
  diffs : ∀ diffs, diffsOf entry = some diffs →
    diffsFail = false ∧ DiffFits diffs

theorem carriesInt_copyInt_iff {name : CString} {entry : BscJson} :
    CarriesInt name entry (OtaPlatform.copyInt name entry) ↔
      IntFits name entry := by
  unfold CarriesInt OtaPlatform.copyInt IntFits
  cases entry.getObjectItem name with
  | none => simp
  | some member =>
      cases member with
      | number value =>
          constructor
          · exact isInt_of_eq_saturate
          · intro hint
            change value = (BscJson.saturate value : ℚ)
            rw [hint.saturate_eq, hint.eq_num]
      | null | bool value | string value | array items | object members =>
          rfl

namespace OtaPlatform

variable {platform : OtaPlatform}

section Text

variable {size : ℕ} {hsize : 0 < size} {name : CString} {entry : BscJson}

theorem copyText_of_fits (hfits : TextFits size name entry) :
    ∃ text, platform.copyText size hsize name entry = some text := by
  unfold TextFits at hfits
  unfold copyText
  cases hmember : entry.getObjectItem name with
  | none => exact ⟨_, rfl⟩
  | some member =>
      rw [hmember] at hfits
      obtain ⟨text, hstring, _⟩ := hfits
      rw [hstring]
      exact ⟨_, rfl⟩

/-- A copied field is the member exactly when the member fits. -/
theorem carriesText_iff_fits {text : CString.Buffer size}
    (hcopy : platform.copyText size hsize name entry = some text) :
    CarriesText name entry text.1 ↔ TextFits size name entry := by
  unfold copyText at hcopy
  unfold CarriesText TextFits
  cases hmember : entry.getObjectItem name with
  | none =>
      simp only [hmember, Option.some.injEq] at hcopy
      simp [← hcopy]
  | some member =>
      simp only [hmember, Option.map_eq_some_iff] at hcopy
      obtain ⟨source, hsource, hcopied⟩ := hcopy
      cases member with
      | string value =>
          have hvalue : value = source := by
            simpa [BscJson.valuestring] using hsource
          rw [← hcopied, hvalue]
          simp only [BscJson.valuestring, Option.some.injEq,
            BscJson.string.injEq, exists_eq_left']
          rw [eq_comm, CString.strncpy_eq_self]
          omega
      | null | bool value | number value | array items | object members =>
          simp [BscJson.valuestring]

end Text

theorem readDiff_of_fits {diffs : BscJson} (hfits : DiffFits diffs) :
    ∃ diff, platform.readDiff diffs = some diff := by
  obtain ⟨url, hurl⟩ := copyText_of_fits hfits.url
  obtain ⟨degist, hdegist⟩ := copyText_of_fits hfits.degist
  obtain ⟨fwVerDst, hfwVerDst⟩ := copyText_of_fits hfits.fwVerDst
  unfold readDiff
  rw [hurl, hdegist, hfwVerDst]
  exact ⟨_, rfl⟩

theorem carries_iff_diffFits {diffs : BscJson} {diff : OtaFileDiff}
    (hread : platform.readDiff diffs = some diff) :
    diff.Carries diffs ↔ DiffFits diffs := by
  simp only [readDiff, Option.bind_eq_bind, Option.bind_eq_some_iff] at hread
  obtain ⟨url, hurl, degist, hdegist, fwVerDst, hfwVerDst, hdiff⟩ := hread
  cases hdiff
  constructor
  · intro hcarries
    exact {
      url := (carriesText_iff_fits hurl).mp hcarries.url
      degist := (carriesText_iff_fits hdegist).mp hcarries.degist
      fwVerDst := (carriesText_iff_fits hfwVerDst).mp hcarries.fwVerDst
      size := carriesInt_copyInt_iff.mp hcarries.size }
  · intro hfits
    exact {
      url := (carriesText_iff_fits hurl).mpr hfits.url
      degist := (carriesText_iff_fits hdegist).mpr hfits.degist
      fwVerDst := (carriesText_iff_fits hfwVerDst).mpr hfits.fwVerDst
      size := carriesInt_copyInt_iff.mpr hfits.size }

theorem readMembers_of_fits {entry : BscJson} (hfits : MembersFit entry) :
    ∃ file, platform.readMembers entry = some file := by
  obtain ⟨modName, hmodName⟩ := copyText_of_fits hfits.modName
  obtain ⟨url, hurl⟩ := copyText_of_fits hfits.url
  obtain ⟨degist, hdegist⟩ := copyText_of_fits hfits.degist
  obtain ⟨fwVer, hfwVer⟩ := copyText_of_fits hfits.fwVer
  unfold readMembers
  rw [hmodName, hurl, hdegist, hfwVer]
  exact ⟨_, rfl⟩

/-- The members of a file do not depend on its patch. -/
theorem carries_iff_membersFit {entry : BscJson} {file : OtaFileInfo}
    (hread : platform.readMembers entry = some file)
    (diffs : Option OtaFileDiff) :
    { file with diffs := diffs }.CarriesMembers entry ↔ MembersFit entry := by
  simp only [readMembers, Option.bind_eq_bind, Option.bind_eq_some_iff]
    at hread
  obtain ⟨modName, hmodName, url, hurl, degist, hdegist, fwVer, hfwVer,
    hfile⟩ := hread
  cases hfile
  constructor
  · intro hcarries
    exact {
      modName := (carriesText_iff_fits hmodName).mp hcarries.modName
      url := (carriesText_iff_fits hurl).mp hcarries.url
      degist := (carriesText_iff_fits hdegist).mp hcarries.degist
      fwVer := (carriesText_iff_fits hfwVer).mp hcarries.fwVer
      size := carriesInt_copyInt_iff.mp hcarries.size }
  · intro hfits
    exact {
      modName := (carriesText_iff_fits hmodName).mpr hfits.modName
      url := (carriesText_iff_fits hurl).mpr hfits.url
      degist := (carriesText_iff_fits hdegist).mpr hfits.degist
      fwVer := (carriesText_iff_fits hfwVer).mpr hfits.fwVer
      size := carriesInt_copyInt_iff.mpr hfits.size }

theorem diffs_of_readMembers {entry : BscJson} {file : OtaFileInfo}
    (hread : platform.readMembers entry = some file) : file.diffs = none := by
  simp only [readMembers, Option.bind_eq_bind, Option.bind_eq_some_iff]
    at hread
  obtain ⟨modName, _, url, _, degist, _, fwVer, _, hfile⟩ := hread
  cases hfile
  rfl

/-! ## One turn of the loop -/

/-- A turn reads a file without a patch, a file with its patch, or leaves the
loop. -/
theorem readFiles_cons (platform : OtaPlatform) (index : ℕ) (entry : BscJson)
    (rest : List BscJson) :
    platform.readFiles index (entry :: rest) =
      (platform.readMembers entry).bind fun file =>
        match diffsOf entry with
        | none =>
            (platform.readFiles (index + 1) rest).map fun files =>
              file :: files
        | some diffs =>
            if platform.diffsFail index then
              some (file :: rest.map fun _ => clearedFile)
            else
              (platform.readDiff diffs).bind fun diff =>
                (platform.readFiles (index + 1) rest).map fun files =>
                  { file with diffs := some diff } :: files := by
  rw [readFiles]
  cases platform.readMembers entry with
  | none => rfl
  | some file =>
      change (match diffsOf entry with | none => _ | some diffs => _) = _
      cases diffsOf entry with
      | none => cases platform.readFiles (index + 1) rest <;> rfl
      | some diffs =>
          cases hfail : platform.diffsFail index with
          | true => simp
          | false =>
              cases hdiff : platform.readDiff diffs with
              | none => simp [hdiff]
              | some diff =>
                  cases platform.readFiles (index + 1) rest <;> simp [hdiff]

/-- Every entry from this index on fits. -/
def EntriesFit (platform : OtaPlatform) (index : ℕ)
    (entries : List BscJson) : Prop :=
  ∀ offset entry, entries[offset]? = some entry →
    EntryFits (platform.diffsFail (index + offset)) entry

theorem entriesFit_cons_iff {index : ℕ} {entry : BscJson}
    {rest : List BscJson} :
    platform.EntriesFit index (entry :: rest) ↔
      EntryFits (platform.diffsFail index) entry ∧
        platform.EntriesFit (index + 1) rest := by
  unfold EntriesFit
  constructor
  · intro hfits
    refine ⟨hfits 0 entry rfl, fun offset other hother => ?_⟩
    have hnext := hfits (offset + 1) other hother
    rwa [show index + (offset + 1) = index + 1 + offset by omega] at hnext
  · intro hfits offset other hother
    cases offset with
    | zero =>
        cases hother
        exact hfits.1
    | succ offset =>
        have hnext := hfits.2 offset other hother
        rwa [show index + 1 + offset = index + (offset + 1) by omega] at hnext

theorem entryFits_of_carries {index : ℕ} {entry : BscJson}
    {rest : List BscJson} {file : OtaFileInfo} {files : List OtaFileInfo}
    (hread : platform.readFiles index (entry :: rest) = some (file :: files))
    (hcarries : file.Carries entry) :
    EntryFits (platform.diffsFail index) entry ∧
      platform.readFiles (index + 1) rest = some files := by
  rw [readFiles_cons, Option.bind_eq_some_iff] at hread
  obtain ⟨read, hmembers, hread⟩ := hread
  have hdiffs := hcarries.diffs
  cases hpatch : diffsOf entry with
  | none =>
      simp only [hpatch, Option.map_eq_some_iff, List.cons.injEq] at hread
      obtain ⟨_, hrest, rfl, rfl⟩ := hread
      refine ⟨⟨hcarries.object, ?_, ?_⟩, hrest⟩
      · exact (carries_iff_membersFit hmembers read.diffs).mp hcarries.members
      · intro diffs hsome
        cases hpatch.symm.trans hsome
  | some diffs =>
      simp only [hpatch] at hread hdiffs
      split_ifs at hread with hfail
      · -- the file has been left without its patch
        cases hread
        rw [diffs_of_readMembers hmembers] at hdiffs
        exact absurd hdiffs id
      · simp only [Option.bind_eq_some_iff, Option.map_eq_some_iff,
          List.cons.injEq] at hread
        obtain ⟨diff, hdiff, _, hrest, rfl, rfl⟩ := hread
        refine ⟨⟨hcarries.object, ?_, ?_⟩, hrest⟩
        · exact (carries_iff_membersFit hmembers _).mp hcarries.members
        · intro other hother
          cases hpatch.symm.trans hother
          exact ⟨by simpa using hfail, (carries_iff_diffFits hdiff).mp hdiffs⟩

theorem carries_of_entryFits {index : ℕ} {entry : BscJson}
    {rest : List BscJson} {files : List OtaFileInfo}
    (hfits : EntryFits (platform.diffsFail index) entry)
    (hrest : platform.readFiles (index + 1) rest = some files) :
    ∃ file : OtaFileInfo, file.Carries entry ∧
      platform.readFiles index (entry :: rest) = some (file :: files) := by
  obtain ⟨read, hmembers⟩ := readMembers_of_fits hfits.members
  have hcarries := carries_iff_membersFit hmembers
  rw [readFiles_cons, hmembers, hrest]
  cases hpatch : diffsOf entry with
  | none =>
      refine ⟨read, ⟨hfits.object, ?_, ?_⟩, rfl⟩
      · exact (hcarries read.diffs).mpr hfits.members
      · rw [hpatch, diffs_of_readMembers hmembers]
        trivial
  | some diffs =>
      obtain ⟨hfail, hdiffFits⟩ := hfits.diffs diffs hpatch
      have hread : ∃ diff, platform.readDiff diffs = some diff :=
        readDiff_of_fits hdiffFits
      obtain ⟨diff, hdiff⟩ := hread
      refine ⟨{ read with diffs := some diff }, ⟨hfits.object, ?_, ?_⟩, ?_⟩
      · exact (hcarries (some diff)).mpr hfits.members
      · rw [hpatch]
        exact (carries_iff_diffFits hdiff).mpr hdiffFits
      · simp [hfail, hdiff]

/-- The files carry the entries exactly when every entry fits. -/
theorem readFiles_carries_iff (index : ℕ) (entries : List BscJson) :
    (∃ files, platform.readFiles index entries = some files ∧
      List.Forall₂ OtaFileInfo.Carries entries files) ↔
        platform.EntriesFit index entries := by
  induction entries generalizing index with
  | nil =>
      constructor
      · intro _ offset entry hentry
        cases hentry
      · intro _
        exact ⟨[], rfl, .nil⟩
  | cons entry rest ih =>
      rw [entriesFit_cons_iff, ← ih]
      constructor
      · rintro ⟨files, hread, hcarries⟩
        cases hcarries with
        | cons hentry hfiles =>
            obtain ⟨hfits, hrest⟩ := entryFits_of_carries hread hentry
            exact ⟨hfits, _, hrest, hfiles⟩
      · rintro ⟨hfits, files, hrest, hfiles⟩
        obtain ⟨file, hentry, hread⟩ := carries_of_entryFits hfits hrest
        exact ⟨file :: files, hread, .cons hentry hfiles⟩

/-! ## The whole request -/

/-- The reply can be built and printed, and the entries that the loop reads
fit. -/
structure RequestFits (platform : OtaPlatform) (proot : Option BscJson) :
    Prop where
  object : platform.objectFails = false
  prints : platform.printFails = false
  entries : ∀ entries, platform.fileEntries proot = some entries →
    platform.EntriesFit 0 entries

theorem fileEntries_eq_some {proot : Option BscJson} {entries : List BscJson}
    (hentries : platform.fileEntries proot = some entries) :
    ∃ root, proot = some root ∧
      root.getObjectItem "file_info".toList = some (.array entries) := by
  unfold fileEntries at hentries
  split at hentries
  · next items hitem =>
      split_ifs at hentries
      obtain ⟨root, hroot, harray⟩ := Option.bind_eq_some_iff.mp hitem
      cases hentries
      exact ⟨root, hroot, harray⟩
  · cases hentries

theorem readRequest_of_refused {proot : Option BscJson}
    (hentries : platform.fileEntries proot = none) :
    platform.readRequest proot = some none := by
  unfold readRequest
  rw [hentries]
  cases proot <;> rfl

theorem readRequest_carries_iff {proot : Option BscJson} :
    (∃ request, platform.readRequest proot = some request ∧
      ∀ info ∈ request, info.Carries proot) ↔
        ∀ entries, platform.fileEntries proot = some entries →
          platform.EntriesFit 0 entries := by
  cases hentries : platform.fileEntries proot with
  | none => simp [readRequest_of_refused hentries]
  | some entries =>
      obtain ⟨root, rfl, harray⟩ := fileEntries_eq_some hentries
      simp only [Option.some.injEq, forall_eq', ← readFiles_carries_iff,
        readRequest, hentries]
      constructor
      · rintro ⟨request, hrequest, hcarries⟩
        obtain ⟨files, hfiles, rfl⟩ := Option.map_eq_some_iff.mp hrequest
        obtain ⟨stated, hstated, _, hcarried⟩ := (hcarries _ rfl).files
        cases harray.symm.trans hstated
        exact ⟨files, hfiles, hcarried⟩
      · rintro ⟨files, hfiles, hcarried⟩
        rw [hfiles]
        refine ⟨_, rfl, fun info hinfo => ?_⟩
        cases hinfo
        exact ⟨entries, harray, rfl, hcarried⟩

theorem answer_passedOn_iff {res : OtaRes} {seq : ℕ}
    {request : Option OtaUpgradeInfo} {proot : Option BscJson} :
    (platform.answer res seq request).PassedOn proot seq ↔
      (platform.objectFails = false ∧ platform.printFails = false) ∧
        ∀ info ∈ request, info.Carries proot := by
  unfold answer
  constructor
  · intro hpassed
    refine ⟨?_, fun info hinfo => hpassed.faithful info (by simpa using hinfo)⟩
    obtain ⟨reply, hreply, _⟩ := hpassed.answered
    split_ifs at hreply with hfails
    simpa using hfails
  · rintro ⟨⟨hobject, hprints⟩, hcarries⟩
    refine ⟨?_, fun info hinfo => hcarries info (by simpa using hinfo), ?_⟩
    · cases request <;> simp
    · simp only [hobject, hprints, Bool.or_self, Bool.false_eq_true, if_false]
      exact ⟨_, rfl, rfl, rfl⟩

/-- An upgrade request is passed on faithfully or not at all, and answered,
exactly when it fits. -/
theorem upgradeToDevice_passedOn_iff (platform : OtaPlatform) (res : OtaRes)
    (seq : ℕ) (proot : Option BscJson) :
    (∃ handled, platform.upgradeToDevice res seq proot = some handled ∧
      handled.PassedOn proot seq) ↔
        platform.RequestFits proot := by
  unfold upgradeToDevice
  constructor
  · rintro ⟨handled, hhandled, hpassed⟩
    obtain ⟨request, hrequest, rfl⟩ := Option.map_eq_some_iff.mp hhandled
    obtain ⟨⟨hobject, hprints⟩, hcarries⟩ := answer_passedOn_iff.mp hpassed
    exact ⟨hobject, hprints,
      readRequest_carries_iff.mp ⟨request, hrequest, hcarries⟩⟩
  · intro hfits
    obtain ⟨request, hrequest, hcarries⟩ :=
      readRequest_carries_iff.mpr hfits.entries
    exact ⟨platform.answer res seq request, by rw [hrequest]; rfl,
      answer_passedOn_iff.mpr ⟨⟨hfits.object, hfits.prints⟩, hcarries⟩⟩

/-- Only an upgrade reaches the application, and what is answered is the
message that came, to the sub-device that it names. -/
theorem dataRouteCb_answers {parse : List UInt8 → Option BscJson}
    {msg : KernelSubmsgV3} {handled : OtaHandled}
    (hhandled : platform.dataRouteCb parse (some msg) = some handled) :
    (handled.calls ≠ [] → msg.identifier = "upgrade".toList) ∧
      ∀ reply ∈ handled.replies, reply.msgSeq = msg.msgSeq ∧
        reply.subSerial = CString.strncpy msg.subSerial 71 := by
  have hnothing : (OtaHandled.nothing.calls ≠ [] →
      msg.identifier = "upgrade".toList) ∧
      ∀ reply ∈ OtaHandled.nothing.replies, reply.msgSeq = msg.msgSeq ∧
        reply.subSerial = CString.strncpy msg.subSerial 71 :=
    ⟨fun hcalls => absurd rfl hcalls, fun reply hmem => by cases hmem⟩
  unfold dataRouteCb at hhandled
  dsimp only at hhandled
  split at hhandled
  · cases hhandled
    exact hnothing
  · split_ifs at hhandled with hupgrade
    · refine ⟨fun _ => hupgrade, ?_⟩
      obtain ⟨request, -, rfl⟩ := Option.map_eq_some_iff.mp hhandled
      intro reply hreply
      unfold answer at hreply
      split_ifs at hreply with hfails
      · cases hreply
      · rw [List.mem_singleton] at hreply
        subst hreply
        exact ⟨rfl, CString.strncpy_idem msg.subSerial 71⟩
    · cases hhandled
      exact hnothing

/-- A platform on which nothing fails and the application accepts. -/
def sound (nullText : Option CString) : OtaPlatform where
  nullText := nullText
  filesFail := false
  diffsFail := fun _ => false
  objectFails := false
  memberFails := fun _ => false
  printFails := false
  otaRecvMsg := fun _ => 0

/-- A module name of 56 bytes reaches the application without its last
byte. -/
theorem module_name_cut_off :
    let entry := BscJson.object
      [("module".toList, .string (List.replicate 56 'a'))]
    let proot := BscJson.object [("file_info".toList, .array [entry])]
    ¬ ∃ handled,
      (sound none).upgradeToDevice ⟨⟨[], by decide⟩⟩ 7 (some proot) =
          some handled ∧
        handled.PassedOn (some proot) 7 := by
  rintro entry proot ⟨handled, hhandled, hpassed⟩
  obtain ⟨request, hrequest, rfl⟩ := Option.map_eq_some_iff.mp hhandled
  have hcarries := (answer_passedOn_iff.mp hpassed).2
  have hfits := readRequest_carries_iff.mp ⟨request, hrequest, hcarries⟩
  have hentry := hfits [entry] rfl 0 entry rfl
  have hname := hentry.members.modName
  obtain ⟨text, hstring, hlt⟩ := hname
  cases hstring
  exact absurd hlt (by decide)

end OtaPlatform

end EziotSdk

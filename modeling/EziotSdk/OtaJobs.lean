import EziotSdk.OtaDownload

/-!
# The download jobs

`ez_iot_ota_download` fills one of two slots, and a thread walks the slots
once.  The caller and the thread take turns in any order; what a call has read
or written by itself before the thread can look is one event.
-/

namespace EziotSdk

/-- `ota_download_info_t` and whether both callbacks are given. -/
structure OtaDownloadInfo where
  url : CString.Buffer 286
  degist : CString.Buffer 33
  blockSize : ℤ
  totalSize : ℤ
  timeoutS : ℤ
  retryMax : ℤ
  callbacks : Bool
  deriving DecidableEq, Repr

/-- The check of `ez_iot_ota_download`. -/
def OtaDownloadInfo.valid (info : OtaDownloadInfo) : Bool :=
  CString.strlen info.url.1 ≠ 0 && 0 < info.blockSize &&
    0 < info.totalSize && info.callbacks

/-- The fields up to the total size. -/
def EzOtaFileInfo.sized (info : OtaDownloadInfo) (slot : EzOtaFileInfo) :
    EzOtaFileInfo :=
  { slot with
    recvSize := info.blockSize.toNat
    timeoutS := info.timeoutS
    retryMax := info.retryMax
    totalSize := info.totalSize.toNat }

/-- The fields after the total size. -/
def EzOtaFileInfo.named (info : OtaDownloadInfo) (userData : Option ℕ)
    (slot : EzOtaFileInfo) : EzOtaFileInfo :=
  { slot with
    userData := userData
    url := CString.strncpy info.url.1 269
    checkSum := CString.strncpy info.degist.1 32 }

def EzOtaFileInfo.zeroed : EzOtaFileInfo where
  url := []
  checkSum := []
  totalSize := 0
  recvSize := 0
  timeoutS := 0
  retryMax := 0
  userData := none

/-- The thread before its next slot, or in the retry loop of one. -/
structure OtaThread where
  fileIndex : ℕ
  downloading : Bool
  loop : OtaLoop
  deriving DecidableEq, Repr

/-- Where the calling thread is. -/
inductive OtaCaller where
  | idle
  /-- The download status was read as set, and the second slot as free. -/
  | toSecond (info : OtaDownloadInfo)
  /-- The second slot has its total size. -/
  | filling (info : OtaDownloadInfo)
  /-- The download thread was created. -/
  | created
  deriving DecidableEq, Repr

/-- The calls that are going to return success are numbered, and the number is
the user data of the call.  `firstJob` and `secondJob` say whose slots the two
are, `notified` is what the application was told, and `refusedIdle` whether a
call was refused with every earlier job at its end. -/
structure OtaState where
  downloadStatus : Bool
  first : EzOtaFileInfo
  second : EzOtaFileInfo
  thread : Option OtaThread
  caller : OtaCaller
  jobs : ℕ
  firstJob : Option ℕ
  secondJob : Option ℕ
  notified : List (Option ℕ × Bool)
  refusedIdle : Bool
  deriving DecidableEq, Repr

inductive OtaEvent where
  /-- A call up to its first effect, and whether a thread can be created. -/
  | call (info : OtaDownloadInfo) (created : Bool)
  | fill
  | fillRest
  | setStatus
  /-- The thread looks at its next slot. -/
  | look
  | session (session : OtaSession)
  | finish

/-- A step of the download thread. -/
def OtaEvent.ofThread : OtaEvent → Bool
  | .look => true
  | .session _ => true
  | .finish => true
  | _ => false

namespace OtaState

def init : OtaState where
  downloadStatus := false
  first := EzOtaFileInfo.zeroed
  second := EzOtaFileInfo.zeroed
  thread := none
  caller := .idle
  jobs := 0
  firstJob := none
  secondJob := none
  notified := []
  refusedIdle := false

def answered (state : OtaState) : List (Option ℕ) :=
  state.notified.map Prod.fst

def allAnswered (state : OtaState) : Bool :=
  (List.range state.jobs).all fun job => some job ∈ state.answered

def slot (state : OtaState) (fileIndex : ℕ) : EzOtaFileInfo :=
  if fileIndex = 0 then state.first else state.second

/-- `ez_ota_file_download`. -/
def ezOtaFileDownload (info : OtaDownloadInfo) (created : Bool)
    (state : OtaState) : OtaState :=
  if state.downloadStatus then
    if state.second.totalSize = 0 then { state with caller := .toSecond info }
    else
      { state with
        refusedIdle := state.refusedIdle || state.allAnswered }
  else if state.first.totalSize = 0 then
    let filled := { state with
      first := (state.first.sized info).named info (some state.jobs) }
    if created then
      { filled with
        thread := some ⟨0, false, ⟨0, false, OtaProgress.start⟩⟩
        caller := .created
        jobs := state.jobs + 1
        firstJob := some state.jobs }
    else filled
  -- nothing is stored, and the call succeeds
  else { state with downloadStatus := true, jobs := state.jobs + 1 }

/-- The thread at its next slot. -/
def threadLook (thread : OtaThread) (state : OtaState) : OtaThread :=
  let file := state.slot thread.fileIndex
  let loop := { thread.loop with progress := OtaProgress.start }
  if file.totalSize = 0 then
    { thread with fileIndex := thread.fileIndex + 1, loop := loop }
  else if file.retryMax < thread.loop.retryTimes then
    { thread with fileIndex := 2, loop := loop }
  else { thread with downloading := true, loop := loop }

/-- One pass of the thread's retry loop. -/
def threadSession (md5Hex : List UInt8 → CString) (session : OtaSession)
    (thread : OtaThread) (state : OtaState) : OtaState :=
  let file := state.slot thread.fileIndex
  match downloadPass md5Hex file session thread.loop with
  | (none, loop) => { state with thread := some { thread with loop := loop } }
  | (some code, loop) =>
      { state with
        thread := some ⟨thread.fileIndex + 1, false, loop⟩
        notified := state.notified ++ [(file.userData, decide (code = .none))] }

def step (md5Hex : List UInt8 → CString) (state : OtaState) :
    OtaEvent → Option OtaState
  | .call info created =>
      if state.caller = .idle then
        if info.valid then some (state.ezOtaFileDownload info created)
        else some state
      else none
  | .fill =>
      match state.caller with
      | .toSecond info => some { state with
          second := state.second.sized info
          caller := .filling info
          jobs := state.jobs + 1
          secondJob := some state.jobs }
      | _ => none
  | .fillRest =>
      match state.caller with
      | .filling info => some { state with
          second := state.second.named info state.secondJob
          caller := .idle }
      | _ => none
  | .setStatus =>
      if state.caller = .created then
        some { state with downloadStatus := true, caller := .idle }
      else none
  | .look =>
      match state.thread with
      | some thread =>
          if thread.fileIndex < 2 ∧ thread.downloading = false then
            some { state with thread := some (state.threadLook thread) }
          else none
      | none => none
  | .session session =>
      match state.thread with
      | some thread =>
          if thread.downloading then
            some (state.threadSession md5Hex session thread)
          else none
      | none => none
  | .finish =>
      match state.thread with
      | some thread =>
          if 2 ≤ thread.fileIndex ∧ thread.downloading = false then
            some { state with downloadStatus := false, thread := none }
          else none
      | none => none

end OtaState

end EziotSdk

import EziotSdk.CStrings
import EziotSdk.StepSystem

/-!
# The download of one upgrade file

`file_download` of `ez_ota.c` and the retry loop around it.  A session reads
blocks from the current offset on and hands each to the application; a session
that breaks is followed by one that resumes.  The digest is started anew in
every session, so it covers what the last session has read.
-/

namespace EziotSdk

/-- The values of `ota_errcode_e` that a download returns. -/
inductive OtaCode where
  | none
  | download
  | sign
  | genneral
  | cancel
  deriving DecidableEq, Repr

/-- `ez_ota_file_info_t`; a slot of total size zero is free. -/
structure EzOtaFileInfo where
  url : CString
  checkSum : CString
  totalSize : ℕ
  recvSize : ℕ
  timeoutS : ℤ
  retryMax : ℤ
  userData : Option ℕ
  deriving DecidableEq, Repr

/-! ## The surroundings of a session -/

/-- One pass of the read loop: what `webclient_read` delivers, whether the
upgrade was cancelled meanwhile, and what the application answers. -/
structure OtaRead where
  bytes : List UInt8
  cancelled : Bool
  fileCb : ℤ
  deriving DecidableEq, Repr

/-- `request` is the answer's status, for a request of the whole file or from a
position on. -/
structure OtaSession where
  created : Bool
  request : Option ℕ → ℤ
  contentLength : ℕ
  reads : List OtaRead
  cancelled : Bool

/-! ## The download -/

/-- The offset, and the blocks that the application was given. -/
structure OtaProgress where
  offset : ℕ
  received : List (ℕ × List UInt8)
  deriving DecidableEq, Repr

namespace OtaProgress

def start : OtaProgress := ⟨0, []⟩

def bytes (progress : OtaProgress) : List UInt8 :=
  progress.received.flatMap Prod.snd

def given (block : List UInt8) (progress : OtaProgress) : OtaProgress :=
  { progress with received := progress.received ++ [(progress.offset, block)] }

end OtaProgress

/-- The read loop; `digested` is what the digest has been given. -/
def readFile (md5Hex : List UInt8 → CString) (info : EzOtaFileInfo) :
    List OtaRead → ℕ → List UInt8 → OtaProgress → OtaCode × OtaProgress
  -- the connection breaks
  | [], _, _, progress => (.download, progress)
  | read :: reads, readlen, digested, progress =>
      let needReadlen := info.totalSize - progress.offset
      let readlen := if needReadlen ≤ readlen then needReadlen else readlen
      if read.bytes.length ≠ readlen then (.download, progress)
      else if read.cancelled then (.cancel, progress)
      else
        let given := progress.given read.bytes
        if read.fileCb ≠ 0 then (.genneral, given)
        else
          let passed := { given with offset := progress.offset + readlen }
          let digested := digested ++ read.bytes
          if 0 < needReadlen - readlen then
            readFile md5Hex info reads readlen digested passed
          else if md5Hex digested = info.checkSum then (.none, passed)
          else (.sign, passed)

def fileDownload (md5Hex : List UInt8 → CString) (info : EzOtaFileInfo)
    (retryFlg : Bool) (session : OtaSession) (progress : OtaProgress) :
    OtaCode × OtaProgress :=
  let status := session.request
    (if retryFlg then some progress.offset else Option.none)
  if !session.created then (.genneral, progress)
  else if status ≠ 200 ∧ status ≠ 206 then (.download, progress)
  else if session.contentLength ≠ info.totalSize - progress.offset then
    (.download, progress)
  else readFile md5Hex info session.reads info.recvSize [] progress

/-- The variables of the retry loop. -/
structure OtaLoop where
  retryTimes : ℤ
  retryFlag : Bool
  progress : OtaProgress
  deriving DecidableEq, Repr

/-- One pass of the retry loop, and the result when it is the last one. -/
def downloadPass (md5Hex : List UInt8 → CString) (info : EzOtaFileInfo)
    (session : OtaSession) (loop : OtaLoop) : Option OtaCode × OtaLoop :=
  let result := fileDownload md5Hex info loop.retryFlag session loop.progress
  let after := { loop with progress := result.2 }
  if result.1 = .download then
    let counted := { after with retryTimes := loop.retryTimes + 1 }
    if info.retryMax < loop.retryTimes + 1 then (some .download, counted)
    else if session.cancelled then (some .download, counted)
    else (Option.none, { counted with retryFlag := true })
  else (some result.1, after)

/-- A pass after which the file is tried again. -/
def retryStep (md5Hex : List UInt8 → CString) (info : EzOtaFileInfo)
    (loop : OtaLoop) (session : OtaSession) : Option OtaLoop :=
  match downloadPass md5Hex info session loop with
  | (Option.none, after) => some after
  | (some _, _) => Option.none

/-! ## Blocks in order -/

/-- The blocks follow each other from an offset on. -/
def InOrder : ℕ → List (ℕ × List UInt8) → Prop
  | _, [] => True
  | offset, block :: rest =>
      block.1 = offset ∧ InOrder (offset + block.2.length) rest

theorem InOrder.append {offset : ℕ} {blocks : List (ℕ × List UInt8)}
    (horder : InOrder offset blocks) (block : List UInt8) :
    InOrder offset (blocks ++
      [(offset + (blocks.flatMap Prod.snd).length, block)]) := by
  induction blocks generalizing offset with
  | nil => simp [InOrder]
  | cons first rest ih =>
      have hrest := ih horder.2
      refine ⟨horder.1, ?_⟩
      rw [List.flatMap_cons, List.length_append, ← Nat.add_assoc]
      exact hrest

namespace OtaProgress

/-- A part of the file has been given. -/
structure Partial (total : ℕ) (progress : OtaProgress) : Prop where
  inOrder : InOrder 0 progress.received
  counted : progress.offset = progress.bytes.length
  unfinished : progress.offset < total

/-- All of the file has been given. -/
structure Complete (total : ℕ) (progress : OtaProgress) : Prop where
  inOrder : InOrder 0 progress.received
  whole : progress.bytes.length = total
  finished : progress.offset = total

theorem bytes_given (block : List UInt8) (progress : OtaProgress) :
    (progress.given block).bytes = progress.bytes ++ block := by
  simp [given, bytes]

theorem Partial.inOrder_given {total : ℕ} {progress : OtaProgress}
    (hpart : progress.Partial total) (block : List UInt8) :
    InOrder 0 (progress.given block).received := by
  have horder := hpart.inOrder.append block
  rw [Nat.zero_add] at horder
  unfold given
  rw [hpart.counted]
  exact horder

end OtaProgress

/-! ## What a session leaves behind -/

/-- The outcome of a session from a progress on, with what the digest was given
before. -/
structure ReadOutcome (md5Hex : List UInt8 → CString) (info : EzOtaFileInfo)
    (digested : List UInt8) (before : OtaProgress)
    (result : OtaCode × OtaProgress) : Prop where
  broken : result.1 = .download → result.2.Partial info.totalSize
  unfinished : result.1 ≠ .none → result.1 ≠ .sign →
    result.2.offset < info.totalSize
  complete : result.1 = .none ∨ result.1 = .sign →
    result.2.Complete info.totalSize ∧
      ∃ passed, result.2.bytes = before.bytes ++ passed ∧
        (result.1 = .none ↔ md5Hex (digested ++ passed) = info.checkSum)

variable {md5Hex : List UInt8 → CString} {info : EzOtaFileInfo}

/-- A session that breaks before its next block. -/
theorem ReadOutcome.of_broken {before : OtaProgress}
    (hpart : before.Partial info.totalSize) (digested : List UInt8) :
    ReadOutcome md5Hex info digested before (.download, before) where
  broken := fun _ => hpart
  unfinished := fun _ _ => hpart.unfinished
  complete := by simp

theorem ReadOutcome.of_stopped {before after : OtaProgress} {code : OtaCode}
    (hcode : code = .cancel ∨ code = .genneral)
    (hunfinished : after.offset < info.totalSize) (digested : List UInt8) :
    ReadOutcome md5Hex info digested before (code, after) where
  broken := by
    intro hbroken
    rcases hcode with hcancel | hgenneral
    · rw [hcancel] at hbroken
      cases hbroken
    · rw [hgenneral] at hbroken
      cases hbroken
  unfinished := fun _ _ => hunfinished
  complete := by
    rcases hcode with hcancel | hgenneral
    · simp [hcancel]
    · simp [hgenneral]

/-- The last block has been given. -/
theorem ReadOutcome.of_finished {before given : OtaProgress}
    {code : OtaCode} {digested block : List UInt8} {offset : ℕ}
    (horder : InOrder 0 given.received)
    (hgiven : given.bytes = before.bytes ++ block)
    (hwhole : given.bytes.length = info.totalSize)
    (hfinished : offset = info.totalSize)
    (hdigest : code = .none ↔ md5Hex (digested ++ block) = info.checkSum)
    (hcode : code = .none ∨ code = .sign) :
    ReadOutcome md5Hex info digested before
      (code, { given with offset := offset }) where
  broken := by
    rcases hcode with hnone | hsign
    · simp [hnone]
    · simp [hsign]
  unfinished := by
    intro hnone hsign
    rcases hcode with hcode | hcode
    · exact absurd hcode hnone
    · exact absurd hcode hsign
  complete := fun _ =>
    ⟨⟨horder, hwhole, hfinished⟩, block, hgiven, hdigest⟩

/-- One more block in front of the rest of a session. -/
theorem ReadOutcome.after_block {before passed : OtaProgress}
    {digested block : List UInt8} {result : OtaCode × OtaProgress}
    (hrest : ReadOutcome md5Hex info (digested ++ block) passed result)
    (hbytes : passed.bytes = before.bytes ++ block) :
    ReadOutcome md5Hex info digested before result where
  broken := hrest.broken
  unfinished := hrest.unfinished
  complete := by
    intro hcode
    rcases hrest.complete hcode with ⟨hcomplete, more, hmore, hdigest⟩
    rw [hbytes, List.append_assoc] at hmore
    rw [List.append_assoc] at hdigest
    exact ⟨hcomplete, block ++ more, hmore, hdigest⟩

theorem readFile_outcome (reads : List OtaRead) (readlen : ℕ)
    (digested : List UInt8) {before : OtaProgress}
    (hpart : before.Partial info.totalSize) :
    ReadOutcome md5Hex info digested before
      (readFile md5Hex info reads readlen digested before) := by
  induction reads generalizing readlen digested before with
  | nil => exact ReadOutcome.of_broken hpart digested
  | cons read reads ih =>
      have hunfinished := hpart.unfinished
      have hcounted := hpart.counted
      have horder := hpart.inOrder_given read.bytes
      have hgiven := before.bytes_given read.bytes
      have hlength := congrArg List.length hgiven
      rw [List.length_append] at hlength
      unfold readFile
      dsimp only
      generalize hblock : (if info.totalSize - before.offset ≤ readlen then
        info.totalSize - before.offset else readlen) = block
      have hle : block ≤ info.totalSize - before.offset := by
        rw [← hblock]
        split_ifs <;> omega
      by_cases hshort : read.bytes.length = block
      · rw [if_neg (not_not.mpr hshort)]
        split_ifs with hcancelled hrefused hmore hdigest
        · exact ReadOutcome.of_stopped (Or.inl rfl) hunfinished digested
        · have hstopped : (before.given read.bytes).offset <
              info.totalSize := hunfinished
          exact ReadOutcome.of_stopped (Or.inr rfl) hstopped digested
        · -- another block is due
          have hpassed : OtaProgress.Partial info.totalSize
              { before.given read.bytes with
                offset := before.offset + block } := by
            constructor
            · exact horder
            · dsimp only
              rw [hcounted, ← hshort]
              exact hlength.symm
            · dsimp only
              omega
          exact (ih block (digested ++ read.bytes) hpassed).after_block hgiven
        · exact ReadOutcome.of_finished horder hgiven
            (by omega) (by omega) (iff_of_true rfl hdigest)
            (Or.inl rfl)
        · exact ReadOutcome.of_finished horder hgiven
            (by omega) (by omega) (iff_of_false nofun hdigest)
            (Or.inr rfl)
      · rw [if_pos hshort]
        exact ReadOutcome.of_broken hpart digested

theorem fileDownload_outcome (md5Hex : List UInt8 → CString)
    (retryFlg : Bool) (session : OtaSession) {before : OtaProgress}
    (hpart : before.Partial info.totalSize) :
    ReadOutcome md5Hex info [] before
      (fileDownload md5Hex info retryFlg session before) := by
  unfold fileDownload
  generalize session.request
    (if retryFlg then some before.offset else Option.none) = status
  dsimp only
  split_ifs
  · exact ReadOutcome.of_stopped (Or.inr rfl) hpart.unfinished []
  · exact ReadOutcome.of_broken hpart []
  · exact ReadOutcome.of_broken hpart []
  · exact readFile_outcome session.reads info.recvSize [] hpart

/-! ## The retry loop -/

theorem OtaProgress.start_part {total : ℕ} (htotal : 0 < total) :
    OtaProgress.start.Partial total where
  inOrder := trivial
  counted := rfl
  unfinished := htotal

/-- A pass that is followed by another one leaves a part of the file. -/
theorem OtaProgress.Partial.retryStep {before after : OtaLoop}
    {session : OtaSession}
    (hpart : before.progress.Partial info.totalSize)
    (hstep : retryStep md5Hex info before session = some after) :
    after.progress.Partial info.totalSize := by
  have houtcome := fileDownload_outcome md5Hex before.retryFlag session
    hpart
  unfold EziotSdk.retryStep downloadPass at hstep
  dsimp only at hstep
  split_ifs at hstep with hbroken hmax hcancelled
  cases hstep
  exact houtcome.broken hbroken

theorem OtaProgress.Partial.retries {before after : OtaLoop}
    {sessions : List OtaSession}
    (hpart : before.progress.Partial info.totalSize)
    (hretries : StepSystem.exec (EziotSdk.retryStep md5Hex info) before
      sessions = some after) :
    after.progress.Partial info.totalSize := by
  have halong : StepSystem.Along (EziotSdk.retryStep md5Hex info)
      (fun loop => loop.progress.Partial info.totalSize) before sessions := by
    apply StepSystem.along_of_invariant
    · intro loop session next hpart hstep
      exact hpart.retryStep hstep
    · exact hpart
  exact halong sessions [] after (List.append_nil _).symm hretries

/-- The result of the last pass is that of its session. -/
theorem downloadPass_outcome {before after : OtaLoop} {session : OtaSession}
    {code : OtaCode} (hpart : before.progress.Partial info.totalSize)
    (hpass : downloadPass md5Hex info session before = (some code, after)) :
    ReadOutcome md5Hex info [] before.progress (code, after.progress) := by
  have houtcome := fileDownload_outcome md5Hex before.retryFlag session
    hpart
  unfold downloadPass at hpass
  generalize fileDownload md5Hex info before.retryFlag session
    before.progress = result at houtcome hpass
  dsimp only at hpass
  split_ifs at hpass with hbroken hmax hcancelled
  · cases hpass
    rw [← hbroken]
    exact houtcome
  · cases hpass
    rw [← hbroken]
    exact houtcome
  · cases hpass
  · cases hpass
    exact houtcome

/-- What a download promises: success for the declared file, and only for it,
given to the application once and in order. -/
structure DownloadSound (md5Hex : List UInt8 → CString) (info : EzOtaFileInfo)
    (code : OtaCode) (progress : OtaProgress) : Prop where
  succeeds : progress.offset = info.totalSize →
    md5Hex progress.bytes = info.checkSum → code = .none
  faithful : code = .none →
    progress.Complete info.totalSize ∧
      md5Hex progress.bytes = info.checkSum

/-- The digest of the last session stands for the digest of the file: the
session starts the file, or, by accident, both have the declared digest or
neither. -/
def DigestCovers (md5Hex : List UInt8 → CString) (info : EzOtaFileInfo)
    (before progress : OtaProgress) : Prop :=
  before.offset = 0 ∨ progress.offset ≠ info.totalSize ∨
    (md5Hex (progress.bytes.drop before.offset) = info.checkSum ↔
      md5Hex progress.bytes = info.checkSum)

/-- A download over any number of interrupted sessions is sound exactly when
the last session's digest covers the file. -/
theorem downloadSound_iff_digestCovers
    (md5Hex : List UInt8 → CString) (info : EzOtaFileInfo)
    (htotal : 0 < info.totalSize) (start before after : OtaLoop)
    (hstart : start.progress = OtaProgress.start)
    (interrupted : List OtaSession)
    (hretries : StepSystem.exec (retryStep md5Hex info) start interrupted =
      some before)
    (last : OtaSession) (code : OtaCode)
    (hlast : downloadPass md5Hex info last before = (some code, after)) :
    DownloadSound md5Hex info code after.progress ↔
      DigestCovers md5Hex info before.progress after.progress := by
  have hfirst := OtaProgress.start_part htotal
  rw [← hstart] at hfirst
  have hpart := hfirst.retries hretries
  have houtcome := downloadPass_outcome hpart hlast
  by_cases hfinished : code = .none ∨ code = .sign
  · rcases houtcome.complete hfinished with
      ⟨hcomplete, passed, hbytes, hdigest⟩
    have hdrop : after.progress.bytes.drop before.progress.offset =
        passed := by
      dsimp only at hbytes
      rw [hbytes, hpart.counted, List.drop_left]
    have hcovers : DigestCovers md5Hex info before.progress after.progress ↔
        (md5Hex passed = info.checkSum ↔
          md5Hex after.progress.bytes = info.checkSum) := by
      unfold DigestCovers
      rw [hdrop]
      constructor
      · rintro (hzero | hopen | hsame)
        · rw [hzero, List.drop_zero] at hdrop
          rw [hdrop]
        · exact absurd hcomplete.finished hopen
        · exact hsame
      · exact fun hsame => Or.inr (Or.inr hsame)
    rw [List.nil_append] at hdigest
    rw [hcovers, ← hdigest]
    constructor
    · intro hsound
      constructor
      · exact fun hnone => (hsound.faithful hnone).2
      · exact hsound.succeeds hcomplete.finished
    · intro hsame
      constructor
      · exact fun _ => hsame.mpr
      · exact fun hnone => ⟨hcomplete, hsame.mp hnone⟩
  · rw [not_or] at hfinished
    have hopen := houtcome.unfinished hfinished.1 hfinished.2
    refine iff_of_true ?_ (Or.inr (Or.inl hopen.ne))
    constructor
    · exact fun hwhole => absurd hwhole hopen.ne
    · exact fun hnone => absurd hnone hfinished.1

/-! ## A file of two blocks -/

/-- The digests of the texts `ab` and `b`. -/
def sampleMd5Hex (bytes : List UInt8) : CString :=
  if bytes = [97, 98] then "187ef4436122d1cc2f40dc2b92f0eba0".toList
  else if bytes = [98] then "92eb5ffee6ae2fec3ad71c777531578f".toList
  else []

def sampleFile : EzOtaFileInfo where
  url := "http://ota/fw.bin".toList
  checkSum := "187ef4436122d1cc2f40dc2b92f0eba0".toList
  totalSize := 2
  recvSize := 1
  timeoutS := 10
  retryMax := 3
  userData := some 0

/-- A session that is asked for the bytes from a position on. -/
def sampleSession (contentLength : ℕ) (bytes : List UInt8) : OtaSession where
  created := true
  request := fun position => if position.isSome then 206 else 200
  contentLength := contentLength
  reads := bytes.map fun byte => ⟨[byte], false, 0⟩
  cancelled := false

/-- A session that breaks before its first block does no harm: the next one
starts the file. -/
theorem downloadSound_restarted :
    DownloadSound sampleMd5Hex sampleFile .none ⟨2, [(0, [97]), (1, [98])]⟩ :=
  (downloadSound_iff_digestCovers sampleMd5Hex sampleFile (by decide)
    ⟨0, false, OtaProgress.start⟩ ⟨1, true, OtaProgress.start⟩
    ⟨1, true, ⟨2, [(0, [97]), (1, [98])]⟩⟩ rfl [sampleSession 2 []]
    (by decide +kernel)
    (sampleSession 2 [97, 98]) .none (by decide +kernel)).mpr (Or.inl rfl)

/-- The connection breaks after the first of two bytes, and the second session
gives the other one: the application has the declared file, and the download
is reported as failed. -/
theorem resumed_download_fails :
    ∃ before after, StepSystem.exec (retryStep sampleMd5Hex sampleFile)
        ⟨0, false, OtaProgress.start⟩ [sampleSession 2 [97]] = some before ∧
      downloadPass sampleMd5Hex sampleFile (sampleSession 1 [98]) before =
        (some .sign, after) ∧
      after.progress.bytes = [97, 98] ∧
      sampleMd5Hex [97, 98] = sampleFile.checkSum ∧
      ¬ DownloadSound sampleMd5Hex sampleFile .sign after.progress := by
  refine ⟨⟨1, true, ⟨1, [(0, [97])]⟩⟩,
    ⟨1, true, ⟨2, [(0, [97]), (1, [98])]⟩⟩, by decide +kernel,
    by decide +kernel, rfl, by decide, ?_⟩
  intro hsound
  have hcode := hsound.succeeds rfl (by decide)
  cases hcode

end EziotSdk

import EziotSdk.OtaJobs

/-!
# Every accepted job is answered once

A call that succeeds is served when its slot is filled before the thread has
gone past it.  No slot is ever freed, so this is the case for two calls at
most: the first one, and one more while the first slot is being downloaded.
-/

namespace EziotSdk

namespace OtaState

/-- The thread is still going to visit the slot of a job. -/
def Waiting (state : OtaState) (job : ℕ) : Prop :=
  ∃ thread, state.thread = some thread ∧
    (thread.fileIndex = 0 ∧ state.firstJob = some job ∨
      thread.fileIndex ≤ 1 ∧ state.secondJob = some job)

/-- Every accepted job has its one answer or is going to be visited, and no
call is refused when nothing is left to do. -/
structure Served (state : OtaState) : Prop where
  named : none ∉ state.answered
  once : state.answered.Nodup
  held : ∀ job < state.jobs, some job ∈ state.answered ∨ state.Waiting job
  accepting : state.refusedIdle = false

/-- The state before a step that keeps the jobs served. -/
def JobKept (md5Hex : List UInt8 → CString) (state : OtaState) :
    OtaEvent → Prop
  | .call info _ =>
      state.caller = .idle → info.valid = true →
        if state.downloadStatus then
          state.second.totalSize ≠ 0 → state.allAnswered = false
        else state.first.totalSize = 0
  | .fill =>
      ∀ info, state.caller = .toSecond info →
        ∃ thread, state.thread = some thread ∧ thread.fileIndex ≤ 1
  | .look =>
      ∀ thread, state.thread = some thread → thread.fileIndex < 2 →
        thread.downloading = false →
          (state.slot thread.fileIndex).totalSize ≠ 0 →
            thread.loop.retryTimes ≤ (state.slot thread.fileIndex).retryMax
  | .session session =>
      ∀ thread, state.thread = some thread → thread.downloading = true →
        (state.slot thread.fileIndex).userData = none →
          (downloadPass md5Hex (state.slot thread.fileIndex) session
            thread.loop).1 = none
  | _ => True

/-! ## The thread's steps -/

theorem look_eq_some {md5Hex : List UInt8 → CString} {state next : OtaState}
    (hstep : state.step md5Hex .look = some next) :
    ∃ thread, state.thread = some thread ∧ thread.fileIndex < 2 ∧
      thread.downloading = false ∧
        next = { state with thread := some (state.threadLook thread) } := by
  unfold step at hstep
  dsimp only at hstep
  split at hstep
  next thread hthread =>
    split_ifs at hstep with hready
    cases hstep
    exact ⟨thread, hthread, hready.1, hready.2, rfl⟩
  next => cases hstep

theorem session_eq_some {md5Hex : List UInt8 → CString}
    {state next : OtaState} {session : OtaSession}
    (hstep : state.step md5Hex (.session session) = some next) :
    ∃ thread, state.thread = some thread ∧ thread.downloading = true ∧
      next = state.threadSession md5Hex session thread := by
  unfold step at hstep
  dsimp only at hstep
  split at hstep
  next thread hthread =>
    split_ifs at hstep with hdownloading
    cases hstep
    exact ⟨thread, hthread, hdownloading, rfl⟩
  next => cases hstep

theorem finish_eq_some {md5Hex : List UInt8 → CString} {state next : OtaState}
    (hstep : state.step md5Hex .finish = some next) :
    ∃ thread, state.thread = some thread ∧ 2 ≤ thread.fileIndex ∧
      thread.downloading = false ∧
        next = { state with downloadStatus := false, thread := none } := by
  unfold step at hstep
  dsimp only at hstep
  split at hstep
  next thread hthread =>
    split_ifs at hstep with hready
    cases hstep
    exact ⟨thread, hthread, hready.1, hready.2, rfl⟩
  next => cases hstep

/-! ## What holds in every run -/

structure JobsSound (state : OtaState) : Prop where
  known : ∀ job, some job ∈ state.answered → job < state.jobs
  firstKnown : ∀ job, state.firstJob = some job → job < state.jobs
  secondKnown : ∀ job, state.secondJob = some job → job < state.jobs
  apart : ∀ job, state.firstJob = some job → state.secondJob ≠ some job
  fresh : state.first.totalSize = 0 →
    state.downloadStatus = false ∧ state.caller = .idle ∧
      state.thread = none ∧ state.secondJob = none
  atFirst : ∀ thread, state.thread = some thread → thread.fileIndex = 0 →
    ∃ job, state.firstJob = some job ∧ state.first.userData = some job ∧
      some job ∉ state.answered
  atSecond : ∀ thread, state.thread = some thread → thread.fileIndex ≤ 1 →
    ∀ job, state.secondJob = some job → some job ∉ state.answered
  secondFree : state.second.totalSize = 0 →
    state.secondJob = none ∧ state.second.userData = none
  secondUsed : state.second.totalSize ≠ 0 →
    ∃ job, state.secondJob = some job ∧
      (state.second.userData = some job ∨ state.second.userData = none)
  toSecond : ∀ info, state.caller = .toSecond info →
    info.valid = true ∧ state.second.totalSize = 0
  filling : ∀ info, state.caller = .filling info →
    state.second.totalSize ≠ 0
  downloading : ∀ thread, state.thread = some thread →
    thread.downloading = true →
      thread.fileIndex < 2 ∧ (state.slot thread.fileIndex).totalSize ≠ 0

theorem jobsSound_init : init.JobsSound := by
  constructor <;> simp [init, answered, EzOtaFileInfo.zeroed]

theorem totalSize_of_valid {info : OtaDownloadInfo}
    (hvalid : info.valid = true) : info.totalSize.toNat ≠ 0 := by
  unfold OtaDownloadInfo.valid at hvalid
  simp only [Bool.and_eq_true, decide_eq_true_eq] at hvalid
  omega

theorem JobsSound.new_not_answered {state : OtaState}
    (hsound : state.JobsSound) : some state.jobs ∉ state.answered := by
  intro hmem
  exact absurd (hsound.known state.jobs hmem) (lt_irrefl _)

theorem JobsSound.call {state : OtaState} (hsound : state.JobsSound)
    {info : OtaDownloadInfo} (hvalid : info.valid = true) (created : Bool) :
    (state.ezOtaFileDownload info created).JobsSound := by
  have htotal := totalSize_of_valid hvalid
  have hmore : ∀ job, job < state.jobs → job < state.jobs + 1 :=
    fun job hjob => hjob.trans (Nat.lt_succ_self _)
  unfold ezOtaFileDownload
  split_ifs with hstatus hsecond hfirst hcreated
  · exact { hsound with
      fresh := by
        intro hfirst
        rw [(hsound.fresh hfirst).1] at hstatus
        exact absurd hstatus Bool.false_ne_true
      toSecond := by
        intro info' hcaller
        cases hcaller
        exact ⟨hvalid, hsecond⟩
      filling := nofun }
  · exact { hsound with }
  · have hfresh := hsound.fresh hfirst
    exact { hsound with
      known := fun job hmem => hmore job (hsound.known job hmem)
      firstKnown := by
        intro job hjob
        cases hjob
        exact Nat.lt_succ_self _
      secondKnown := fun job hjob => hmore job (hsound.secondKnown job hjob)
      apart := by
        intro job _ hjob
        rw [hfresh.2.2.2] at hjob
        cases hjob
      fresh := fun hfree => absurd hfree htotal
      atFirst := by
        intro thread _ _
        exact ⟨state.jobs, rfl, rfl, hsound.new_not_answered⟩
      atSecond := by
        intro thread _ _ job hjob
        rw [hfresh.2.2.2] at hjob
        cases hjob
      toSecond := nofun
      filling := nofun
      downloading := by
        intro thread hthread hdownloading
        cases hthread
        cases hdownloading }
  · have hfresh := hsound.fresh hfirst
    exact { hsound with
      fresh := fun hfree => absurd hfree htotal
      atFirst := by
        intro thread hthread
        rw [hfresh.2.2.1] at hthread
        cases hthread
      downloading := by
        intro thread hthread
        rw [hfresh.2.2.1] at hthread
        cases hthread }
  · exact { hsound with
      known := fun job hmem => hmore job (hsound.known job hmem)
      firstKnown := fun job hjob => hmore job (hsound.firstKnown job hjob)
      secondKnown := fun job hjob => hmore job (hsound.secondKnown job hjob)
      fresh := fun hfree => absurd hfree hfirst }

theorem JobsSound.fill {state : OtaState} (hsound : state.JobsSound)
    {info : OtaDownloadInfo} (hcaller : state.caller = .toSecond info) :
    JobsSound { state with
      second := state.second.sized info
      caller := .filling info
      jobs := state.jobs + 1
      secondJob := some state.jobs } := by
  have htotal := totalSize_of_valid (hsound.toSecond info hcaller).1
  have hfree := hsound.secondFree (hsound.toSecond info hcaller).2
  have hmore : ∀ job, job < state.jobs → job < state.jobs + 1 :=
    fun job hjob => hjob.trans (Nat.lt_succ_self _)
  exact { hsound with
    known := fun job hmem => hmore job (hsound.known job hmem)
    firstKnown := fun job hjob => hmore job (hsound.firstKnown job hjob)
    secondKnown := by
      intro job hjob
      cases hjob
      exact Nat.lt_succ_self _
    apart := by
      intro job hjob hsecond
      cases hsecond
      exact absurd (hsound.firstKnown _ hjob) (lt_irrefl _)
    fresh := by
      intro hfirst
      rw [(hsound.fresh hfirst).2.1] at hcaller
      cases hcaller
    atSecond := by
      intro thread _ _ job hjob
      cases hjob
      exact hsound.new_not_answered
    secondFree := fun htotal' => absurd htotal' htotal
    secondUsed := fun _ => ⟨state.jobs, rfl, Or.inr hfree.2⟩
    toSecond := nofun
    filling := fun _ _ => htotal
    downloading := by
      intro thread hthread hdownloading
      have hslot := hsound.downloading thread hthread hdownloading
      refine ⟨hslot.1, ?_⟩
      unfold slot at hslot ⊢
      split_ifs at hslot ⊢ with hindex
      · exact hslot.2
      · exact htotal }

theorem JobsSound.fillRest {state : OtaState} (hsound : state.JobsSound)
    {info : OtaDownloadInfo} (hcaller : state.caller = .filling info) :
    JobsSound { state with
      second := state.second.named info state.secondJob
      caller := .idle } := by
  have hused := hsound.filling info hcaller
  exact { hsound with
    fresh := by
      intro hfirst
      rw [(hsound.fresh hfirst).2.1] at hcaller
      cases hcaller
    secondFree := fun hfree => absurd hfree hused
    secondUsed := by
      intro _
      rcases hsound.secondUsed hused with ⟨job, hjob, _⟩
      exact ⟨job, hjob, Or.inl hjob⟩
    toSecond := nofun
    filling := nofun
    downloading := by
      intro thread hthread hdownloading
      have hslot := hsound.downloading thread hthread hdownloading
      refine ⟨hslot.1, ?_⟩
      unfold slot at hslot ⊢
      split_ifs at hslot ⊢ with hindex
      · exact hslot.2
      · exact hused }

theorem JobsSound.setStatus {state : OtaState} (hsound : state.JobsSound)
    (hcaller : state.caller = .created) :
    JobsSound { state with downloadStatus := true, caller := .idle } :=
  { hsound with
    fresh := by
      intro hfirst
      rw [(hsound.fresh hfirst).2.1] at hcaller
      cases hcaller
    toSecond := nofun
    filling := nofun }

/-- The thread's position after it has looked at a slot. -/
theorem threadLook_cases (thread : OtaThread) (state : OtaState) :
    ((state.slot thread.fileIndex).totalSize = 0 ∧
        (state.threadLook thread).fileIndex = thread.fileIndex + 1 ∧
        (state.threadLook thread).downloading = thread.downloading) ∨
      ((state.slot thread.fileIndex).totalSize ≠ 0 ∧
        (state.slot thread.fileIndex).retryMax < thread.loop.retryTimes ∧
        (state.threadLook thread).fileIndex = 2 ∧
        (state.threadLook thread).downloading = thread.downloading) ∨
      ((state.slot thread.fileIndex).totalSize ≠ 0 ∧
        thread.loop.retryTimes ≤ (state.slot thread.fileIndex).retryMax ∧
        (state.threadLook thread).fileIndex = thread.fileIndex ∧
        (state.threadLook thread).downloading = true) := by
  unfold threadLook
  dsimp only
  split_ifs with hfree hretries
  · exact Or.inl ⟨hfree, rfl, rfl⟩
  · exact Or.inr (Or.inl ⟨hfree, hretries, rfl, rfl⟩)
  · exact Or.inr (Or.inr ⟨hfree, not_lt.mp hretries, rfl, rfl⟩)

theorem JobsSound.look {state : OtaState} (hsound : state.JobsSound)
    {thread : OtaThread} (hthread : state.thread = some thread)
    (hindex : thread.fileIndex < 2) (hidle : thread.downloading = false) :
    JobsSound { state with thread := some (state.threadLook thread) } := by
  have hcases := threadLook_cases thread state
  exact { hsound with
    fresh := by
      intro hfirst
      rw [(hsound.fresh hfirst).2.2.1] at hthread
      cases hthread
    atFirst := by
      intro thread' hthread' hzero
      cases hthread'
      have hbefore : thread.fileIndex = 0 := by
        rcases hcases with ⟨_, hnext, _⟩ | ⟨_, _, hnext, _⟩ | ⟨_, _, hnext, _⟩
        · omega
        · omega
        · omega
      exact hsound.atFirst thread hthread hbefore
    atSecond := by
      intro thread' _ _
      exact hsound.atSecond thread hthread (by omega)
    downloading := by
      intro thread' hthread' hdownloading
      cases hthread'
      rcases hcases with ⟨_, _, hsame⟩ | ⟨_, _, _, hsame⟩ | ⟨hused, _, hnext, _⟩
      · rw [hsame, hidle] at hdownloading
        cases hdownloading
      · rw [hsame, hidle] at hdownloading
        cases hdownloading
      · rw [hnext]
        exact ⟨hindex, hused⟩ }

/-- The user data of the slot that is downloaded belongs to its job. -/
theorem JobsSound.slot_userData {state : OtaState} (hsound : state.JobsSound)
    {thread : OtaThread} (hthread : state.thread = some thread)
    (hdownloading : thread.downloading = true) :
    ∃ job, job < state.jobs ∧ some job ∉ state.answered ∧
      ((thread.fileIndex = 0 ∧ state.firstJob = some job ∧
          (state.slot thread.fileIndex).userData = some job) ∨
        (thread.fileIndex = 1 ∧ state.secondJob = some job ∧
          ((state.slot thread.fileIndex).userData = some job ∨
            (state.slot thread.fileIndex).userData = none))) := by
  have hslot := hsound.downloading thread hthread hdownloading
  by_cases hindex : thread.fileIndex = 0
  · rcases hsound.atFirst thread hthread hindex with
      ⟨job, hjob, huser, hunanswered⟩
    refine ⟨job, hsound.firstKnown job hjob, hunanswered, Or.inl ?_⟩
    unfold slot
    rw [if_pos hindex]
    exact ⟨hindex, hjob, huser⟩
  · have hone : thread.fileIndex = 1 := by omega
    unfold slot at hslot ⊢
    rw [if_neg hindex] at hslot ⊢
    rcases hsound.secondUsed hslot.2 with ⟨job, hjob, huser⟩
    have hunanswered := hsound.atSecond thread hthread hone.le job hjob
    exact ⟨job, hsound.secondKnown job hjob, hunanswered,
      Or.inr ⟨hone, hjob, huser⟩⟩

theorem threadSession_of_none {md5Hex : List UInt8 → CString}
    {session : OtaSession} {thread : OtaThread} {state : OtaState}
    {loop : OtaLoop}
    (hpass : downloadPass md5Hex (state.slot thread.fileIndex) session
      thread.loop = (none, loop)) :
    state.threadSession md5Hex session thread =
      { state with thread := some { thread with loop := loop } } := by
  unfold threadSession
  dsimp only
  rw [hpass]

theorem threadSession_of_some {md5Hex : List UInt8 → CString}
    {session : OtaSession} {thread : OtaThread} {state : OtaState}
    {code : OtaCode} {loop : OtaLoop}
    (hpass : downloadPass md5Hex (state.slot thread.fileIndex) session
      thread.loop = (some code, loop)) :
    state.threadSession md5Hex session thread =
      { state with
        thread := some ⟨thread.fileIndex + 1, false, loop⟩
        notified := state.notified ++
          [((state.slot thread.fileIndex).userData,
            decide (code = .none))] } := by
  unfold threadSession
  dsimp only
  rw [hpass]

theorem answered_append (state : OtaState) (thread : Option OtaThread)
    (userData : Option ℕ) (success : Bool) :
    answered { state with
      thread := thread
      notified := state.notified ++ [(userData, success)] } =
      state.answered ++ [userData] := by
  simp [answered]

theorem JobsSound.retried {state : OtaState} (hsound : state.JobsSound)
    {thread : OtaThread} (hthread : state.thread = some thread)
    (loop : OtaLoop) :
    JobsSound { state with thread := some { thread with loop := loop } } :=
  { hsound with
    fresh := by
      intro hfirst
      rw [(hsound.fresh hfirst).2.2.1] at hthread
      cases hthread
    atFirst := by
      intro thread' hthread' hzero
      cases hthread'
      exact hsound.atFirst thread hthread hzero
    atSecond := by
      intro thread' hthread' hle
      cases hthread'
      exact hsound.atSecond thread hthread hle
    downloading := by
      intro thread' hthread' hdownloading
      cases hthread'
      exact hsound.downloading thread hthread hdownloading }

theorem JobsSound.ended {state : OtaState} (hsound : state.JobsSound)
    {thread : OtaThread} (hthread : state.thread = some thread)
    (hdownloading : thread.downloading = true) (loop : OtaLoop)
    (success : Bool) :
    JobsSound { state with
      thread := some ⟨thread.fileIndex + 1, false, loop⟩
      notified := state.notified ++
        [((state.slot thread.fileIndex).userData, success)] } := by
  rcases hsound.slot_userData hthread hdownloading with
    ⟨job, hknown, hunanswered, howner⟩
  exact { hsound with
    known := by
      intro other hmem
      rw [answered_append, List.mem_append, List.mem_singleton] at hmem
      rcases hmem with hold | hnew
      · exact hsound.known other hold
      · rcases howner with ⟨_, _, huser⟩ | ⟨_, _, huser | huser⟩
        · rw [huser] at hnew
          cases hnew
          exact hknown
        · rw [huser] at hnew
          cases hnew
          exact hknown
        · rw [huser] at hnew
          cases hnew
    fresh := by
      intro hfirst
      rw [(hsound.fresh hfirst).2.2.1] at hthread
      cases hthread
    atFirst := by
      intro thread' hthread' hzero
      cases hthread'
      exact absurd hzero (Nat.succ_ne_zero _)
    atSecond := by
      intro thread' hthread' hle other hother
      cases hthread'
      dsimp only at hle
      rw [answered_append, List.mem_append, List.mem_singleton]
      rintro (hold | hnew)
      · exact hsound.atSecond thread hthread (by omega) other hother hold
      · rcases howner with ⟨_, hjob, huser⟩ | ⟨hone, _⟩
        · rw [huser] at hnew
          cases hnew
          exact hsound.apart job hjob hother
        · omega
    downloading := by
      intro thread' hthread' hdownloading'
      cases hthread'
      cases hdownloading' }

theorem JobsSound.finish {state : OtaState} (hsound : state.JobsSound) :
    JobsSound { state with downloadStatus := false, thread := none } :=
  { hsound with
    fresh := by
      intro hfirst
      have hfresh := hsound.fresh hfirst
      exact ⟨rfl, hfresh.2.1, rfl, hfresh.2.2.2⟩
    atFirst := nofun
    atSecond := nofun
    downloading := nofun }

theorem JobsSound.step {md5Hex : List UInt8 → CString}
    {state next : OtaState} (hsound : state.JobsSound) {event : OtaEvent}
    (hstep : state.step md5Hex event = some next) : next.JobsSound := by
  cases event with
  | call info created =>
      unfold OtaState.step at hstep
      dsimp only at hstep
      split_ifs at hstep with hidle hvalid
      · cases hstep
        exact hsound.call hvalid created
      · cases hstep
        exact hsound
  | fill =>
      unfold OtaState.step at hstep
      dsimp only at hstep
      split at hstep
      next info hcaller =>
        cases hstep
        exact hsound.fill hcaller
      next => cases hstep
  | fillRest =>
      unfold OtaState.step at hstep
      dsimp only at hstep
      split at hstep
      next info hcaller =>
        cases hstep
        exact hsound.fillRest hcaller
      next => cases hstep
  | setStatus =>
      unfold OtaState.step at hstep
      dsimp only at hstep
      split_ifs at hstep with hcaller
      cases hstep
      exact hsound.setStatus hcaller
  | look =>
      rcases look_eq_some hstep with ⟨thread, hthread, hindex, hidle, hnext⟩
      rw [hnext]
      exact hsound.look hthread hindex hidle
  | session session =>
      rcases session_eq_some hstep with ⟨thread, hthread, hdownloading, hnext⟩
      rw [hnext]
      cases hpass : downloadPass md5Hex (state.slot thread.fileIndex) session
        thread.loop with
      | mk result loop =>
          cases result with
          | none =>
              rw [threadSession_of_none hpass]
              exact hsound.retried hthread loop
          | some code =>
              rw [threadSession_of_some hpass]
              exact hsound.ended hthread hdownloading loop _
  | finish =>
      rcases finish_eq_some hstep with ⟨thread, _, _, _, hnext⟩
      rw [hnext]
      exact hsound.finish

/-! ## What a step does to the jobs -/

theorem JobsSound.waiting_known {state : OtaState} (hsound : state.JobsSound)
    {job : ℕ} (hwaiting : state.Waiting job) : job < state.jobs := by
  rcases hwaiting with ⟨thread, _, ⟨_, hjob⟩ | ⟨_, hjob⟩⟩
  · exact hsound.firstKnown job hjob
  · exact hsound.secondKnown job hjob

theorem not_waiting_of_no_thread {state : OtaState} (hnone : state.thread = none)
    (job : ℕ) : ¬ state.Waiting job := by
  rintro ⟨thread, hthread, _⟩
  rw [hnone] at hthread
  cases hthread

theorem Served.call_iff {state : OtaState} (hserved : state.Served)
    (hsound : state.JobsSound) (info : OtaDownloadInfo) (created : Bool) :
    (state.ezOtaFileDownload info created).Served ↔
      if state.downloadStatus then
        state.second.totalSize ≠ 0 → state.allAnswered = false
      else state.first.totalSize = 0 := by
  unfold ezOtaFileDownload
  by_cases hstatus : state.downloadStatus = true
  · rw [if_pos hstatus, if_pos hstatus]
    by_cases hsecond : state.second.totalSize = 0
    · rw [if_pos hsecond]
      refine iff_of_true ?_ fun hused => absurd hsecond hused
      exact { hserved with }
    · rw [if_neg hsecond]
      have haccepting := hserved.accepting
      constructor
      · intro hafter _
        have hrefused := hafter.accepting
        dsimp only at hrefused
        rw [haccepting, Bool.false_or] at hrefused
        exact hrefused
      · intro hpending
        exact { hserved with
          accepting := by
            dsimp only
            rw [haccepting, Bool.false_or]
            exact hpending hsecond }
  · rw [if_neg hstatus, if_neg hstatus]
    by_cases hfirst : state.first.totalSize = 0
    · rw [if_pos hfirst]
      refine iff_of_true ?_ hfirst
      have hnone := (hsound.fresh hfirst).2.2.1
      split_ifs with hcreated
      · exact { hserved with
          held := by
            intro job hjob
            by_cases hnew : job = state.jobs
            · rw [hnew]
              exact Or.inr ⟨_, rfl, Or.inl ⟨rfl, rfl⟩⟩
            · have hold : job < state.jobs := by
                dsimp only at hjob
                omega
              rcases hserved.held job hold with hanswered | hwaiting
              · exact Or.inl hanswered
              · exact absurd hwaiting (not_waiting_of_no_thread hnone job) }
      · exact { hserved with held := hserved.held }
    · rw [if_neg hfirst]
      refine iff_of_false ?_ hfirst
      intro hafter
      rcases hafter.held state.jobs (Nat.lt_succ_self _) with
        hanswered | hwaiting
      · exact hsound.new_not_answered hanswered
      · exact absurd (hsound.waiting_known hwaiting) (lt_irrefl _)

theorem Served.fill_iff {state : OtaState} (hserved : state.Served)
    (hsound : state.JobsSound) {info : OtaDownloadInfo}
    (hcaller : state.caller = .toSecond info) :
    Served { state with
      second := state.second.sized info
      caller := .filling info
      jobs := state.jobs + 1
      secondJob := some state.jobs } ↔
      ∃ thread, state.thread = some thread ∧ thread.fileIndex ≤ 1 := by
  have hfree := hsound.secondFree (hsound.toSecond info hcaller).2
  constructor
  · intro hafter
    rcases hafter.held state.jobs (Nat.lt_succ_self _) with
      hanswered | ⟨thread, hthread, ⟨_, hjob⟩ | ⟨hindex, _⟩⟩
    · exact absurd hanswered hsound.new_not_answered
    · exact absurd (hsound.firstKnown _ hjob) (lt_irrefl _)
    · exact ⟨thread, hthread, hindex⟩
  · rintro ⟨thread, hthread, hindex⟩
    exact { hserved with
      held := by
        intro job hjob
        by_cases hnew : job = state.jobs
        · rw [hnew]
          exact Or.inr ⟨thread, hthread, Or.inr ⟨hindex, rfl⟩⟩
        · have hold : job < state.jobs := by
            dsimp only at hjob
            omega
          rcases hserved.held job hold with
            hanswered | ⟨thread', hthread', hfirst | ⟨_, hsecond⟩⟩
          · exact Or.inl hanswered
          · exact Or.inr ⟨thread', hthread', Or.inl hfirst⟩
          · rw [hfree.1] at hsecond
            cases hsecond }

/-- Some job waits for the thread that looks at a used slot. -/
theorem JobsSound.exists_waiting {state : OtaState}
    (hsound : state.JobsSound) {thread : OtaThread}
    (hthread : state.thread = some thread) (hindex : thread.fileIndex < 2)
    (hused : (state.slot thread.fileIndex).totalSize ≠ 0) :
    ∃ job < state.jobs, some job ∉ state.answered := by
  by_cases hzero : thread.fileIndex = 0
  · rcases hsound.atFirst thread hthread hzero with
      ⟨job, hjob, _, hunanswered⟩
    exact ⟨job, hsound.firstKnown job hjob, hunanswered⟩
  · unfold slot at hused
    rw [if_neg hzero] at hused
    rcases hsound.secondUsed hused with ⟨job, hjob, _⟩
    exact ⟨job, hsound.secondKnown job hjob,
      hsound.atSecond thread hthread (by omega) job hjob⟩

/-- Nobody waits for a slot that is free. -/
theorem JobsSound.not_waiting_of_free {state : OtaState}
    (hsound : state.JobsSound) {thread : OtaThread}
    (hthread : state.thread = some thread)
    (hfree : (state.slot thread.fileIndex).totalSize = 0) (job : ℕ) :
    ¬ state.Waiting job := by
  have hused : state.first.totalSize ≠ 0 := by
    intro hfirst
    rw [(hsound.fresh hfirst).2.2.1] at hthread
    cases hthread
  unfold slot at hfree
  by_cases hzero : thread.fileIndex = 0
  · rw [if_pos hzero] at hfree
    exact absurd hfree hused
  · rw [if_neg hzero] at hfree
    rintro ⟨thread', hthread', ⟨hindex, _⟩ | ⟨_, hjob⟩⟩
    · rw [hthread] at hthread'
      cases hthread'
      exact hzero hindex
    · rw [(hsound.secondFree hfree).1] at hjob
      cases hjob

theorem Served.look_iff {state : OtaState} (hserved : state.Served)
    (hsound : state.JobsSound) {thread : OtaThread}
    (hthread : state.thread = some thread) (hindex : thread.fileIndex < 2) :
    Served { state with thread := some (state.threadLook thread) } ↔
      ((state.slot thread.fileIndex).totalSize ≠ 0 →
        thread.loop.retryTimes ≤ (state.slot thread.fileIndex).retryMax) := by
  rcases threadLook_cases thread state with
    ⟨hfree, _⟩ | ⟨hused, hretries, hnext, _⟩ | ⟨_, hretries, hnext, _⟩
  · refine iff_of_true ?_ fun hused => absurd hfree hused
    exact { hserved with
      held := by
        intro job hjob
        rcases hserved.held job hjob with hanswered | hwaiting
        · exact Or.inl hanswered
        · exact absurd hwaiting
            (hsound.not_waiting_of_free hthread hfree job) }
  · refine iff_of_false ?_ fun hkept => ?_
    · rcases hsound.exists_waiting hthread hindex hused with
        ⟨job, hjob, hunanswered⟩
      intro hafter
      rcases hafter.held job hjob with
        hanswered | ⟨thread', hthread', ⟨hzero, _⟩ | ⟨hle, _⟩⟩
      · exact hunanswered hanswered
      · cases hthread'
        omega
      · cases hthread'
        omega
    · exact absurd (hkept hused) (not_le.mpr hretries)
  · refine iff_of_true ?_ fun _ => hretries
    exact { hserved with
      held := by
        intro job hjob
        rcases hserved.held job hjob with hanswered | hwaiting
        · exact Or.inl hanswered
        · rcases hwaiting with ⟨thread', hthread', howner⟩
          rw [hthread] at hthread'
          cases hthread'
          right
          refine ⟨_, rfl, ?_⟩
          rw [hnext]
          exact howner }

theorem Served.retried {state : OtaState} (hserved : state.Served)
    {thread : OtaThread} (hthread : state.thread = some thread)
    (loop : OtaLoop) :
    Served { state with thread := some { thread with loop := loop } } :=
  { hserved with
    held := by
      intro job hjob
      rcases hserved.held job hjob with hanswered | hwaiting
      · exact Or.inl hanswered
      · rcases hwaiting with ⟨thread', hthread', howner⟩
        rw [hthread] at hthread'
        cases hthread'
        exact Or.inr ⟨_, rfl, howner⟩ }

theorem Served.ended_iff {state : OtaState} (hserved : state.Served)
    (hsound : state.JobsSound) {thread : OtaThread}
    (hthread : state.thread = some thread)
    (hdownloading : thread.downloading = true) (loop : OtaLoop)
    (success : Bool) :
    Served { state with
      thread := some ⟨thread.fileIndex + 1, false, loop⟩
      notified := state.notified ++
        [((state.slot thread.fileIndex).userData, success)] } ↔
      (state.slot thread.fileIndex).userData ≠ none := by
  constructor
  · intro hafter hnone
    apply hafter.named
    rw [answered_append, hnone]
    exact List.mem_append_right _ (List.mem_singleton_self none)
  · intro huser
    rcases hsound.slot_userData hthread hdownloading with
      ⟨job, _, hunanswered, howner⟩
    have hsome : (state.slot thread.fileIndex).userData = some job := by
      rcases howner with ⟨_, _, hsome⟩ | ⟨_, _, hsome | hnone⟩
      · exact hsome
      · exact hsome
      · exact absurd hnone huser
    rw [hsome]
    constructor
    · rw [answered_append, List.mem_append, List.mem_singleton]
      rintro (hold | hnew)
      · exact hserved.named hold
      · cases hnew
    · rw [answered_append, List.nodup_append]
      refine ⟨hserved.once, List.nodup_singleton _, ?_⟩
      intro entry hentry other hother heq
      rw [List.mem_singleton] at hother
      rw [heq, hother] at hentry
      exact hunanswered hentry
    · intro other hother
      rw [answered_append, List.mem_append, List.mem_singleton]
      rcases hserved.held other hother with hanswered | hwaiting
      · exact Or.inl (Or.inl hanswered)
      · rcases hwaiting with ⟨thread', hthread', hwaits⟩
        rw [hthread] at hthread'
        cases hthread'
        rcases howner with ⟨hindex, hjob, _⟩ | ⟨hindex, hjob, _⟩
        · rcases hwaits with ⟨_, hfirst⟩ | ⟨_, hsecond⟩
          · rw [hjob] at hfirst
            exact Or.inl (Or.inr hfirst.symm)
          · refine Or.inr ⟨_, rfl, Or.inr ⟨?_, hsecond⟩⟩
            dsimp only
            omega
        · rcases hwaits with ⟨hzero, _⟩ | ⟨_, hsecond⟩
          · omega
          · rw [hjob] at hsecond
            exact Or.inl (Or.inr hsecond.symm)
    · exact hserved.accepting

theorem Served.finish {state : OtaState} (hserved : state.Served)
    {thread : OtaThread} (hthread : state.thread = some thread)
    (hindex : 2 ≤ thread.fileIndex) :
    Served { state with downloadStatus := false, thread := none } :=
  { hserved with
    held := by
      intro job hjob
      rcases hserved.held job hjob with hanswered | hwaiting
      · exact Or.inl hanswered
      · rcases hwaiting with ⟨thread', hthread', howner⟩
        rw [hthread] at hthread'
        cases hthread'
        omega }

/-! ## Runs -/

theorem Served.session_iff {md5Hex : List UInt8 → CString}
    {state : OtaState} (hserved : state.Served) (hsound : state.JobsSound)
    {thread : OtaThread} (hthread : state.thread = some thread)
    (hdownloading : thread.downloading = true) (session : OtaSession) :
    (state.threadSession md5Hex session thread).Served ↔
      ((state.slot thread.fileIndex).userData = none →
        (downloadPass md5Hex (state.slot thread.fileIndex) session
          thread.loop).1 = none) := by
  cases hpass : downloadPass md5Hex (state.slot thread.fileIndex) session
    thread.loop with
  | mk result loop =>
      cases result with
      | none =>
          rw [threadSession_of_none hpass]
          exact iff_of_true (hserved.retried hthread loop) fun _ => rfl
      | some code =>
          rw [threadSession_of_some hpass,
            hserved.ended_iff hsound hthread hdownloading]
          simp

/-- One step keeps the jobs served exactly under the condition. -/
theorem Served.step_iff {md5Hex : List UInt8 → CString}
    {state next : OtaState} (hserved : state.Served)
    (hsound : state.JobsSound) {event : OtaEvent}
    (hstep : state.step md5Hex event = some next) :
    next.Served ↔ state.JobKept md5Hex event := by
  cases event with
  | call info created =>
      unfold OtaState.step at hstep
      dsimp only at hstep
      unfold JobKept
      split_ifs at hstep with hidle hvalid
      · cases hstep
        rw [hserved.call_iff hsound info created]
        simp [hidle, hvalid]
      · cases hstep
        exact iff_of_true hserved fun _ hvalid' => absurd hvalid' hvalid
  | fill =>
      unfold OtaState.step at hstep
      dsimp only at hstep
      unfold JobKept
      split at hstep
      next info hcaller =>
        cases hstep
        rw [hserved.fill_iff hsound hcaller]
        simp [hcaller]
      next => cases hstep
  | fillRest =>
      unfold OtaState.step at hstep
      dsimp only at hstep
      split at hstep
      next info hcaller =>
        cases hstep
        exact iff_of_true { hserved with held := hserved.held } trivial
      next => cases hstep
  | setStatus =>
      unfold OtaState.step at hstep
      dsimp only at hstep
      split_ifs at hstep with hcaller
      cases hstep
      exact iff_of_true { hserved with held := hserved.held } trivial
  | look =>
      rcases look_eq_some hstep with ⟨thread, hthread, hindex, hidle, hnext⟩
      rw [hnext, hserved.look_iff hsound hthread hindex]
      constructor
      · intro hkept thread' hthread' _ _
        rw [hthread] at hthread'
        cases hthread'
        exact hkept
      · intro hkept
        exact hkept thread hthread hindex hidle
  | session session =>
      rcases session_eq_some hstep with ⟨thread, hthread, hdownloading, hnext⟩
      rw [hnext, hserved.session_iff hsound hthread hdownloading]
      simp [JobKept, hthread, hdownloading]
  | finish =>
      rcases finish_eq_some hstep with ⟨thread, hthread, hindex, _, hnext⟩
      rw [hnext]
      exact iff_of_true (hserved.finish hthread hindex) trivial

theorem exists_step_of_not_jobKept {md5Hex : List UInt8 → CString}
    {state : OtaState} {event : OtaEvent}
    (hnot : ¬ state.JobKept md5Hex event) :
    ∃ next, state.step md5Hex event = some next := by
  cases event with
  | call info created =>
      unfold JobKept at hnot
      push Not at hnot
      simp [step, hnot.1, hnot.2.1]
  | fill =>
      unfold JobKept at hnot
      push Not at hnot
      rcases hnot with ⟨info, hcaller, _⟩
      simp [step, hcaller]
  | look =>
      unfold JobKept at hnot
      push Not at hnot
      rcases hnot with ⟨thread, hthread, hindex, hidle, _⟩
      simp [step, hthread, hindex, hidle]
  | session session =>
      unfold JobKept at hnot
      push Not at hnot
      rcases hnot with ⟨thread, hthread, hdownloading, _⟩
      simp [step, hthread, hdownloading]
  | fillRest => exact absurd trivial hnot
  | setStatus => exact absurd trivial hnot
  | finish => exact absurd trivial hnot

theorem served_init : init.Served := by
  constructor <;> simp [init, answered]

/-! ## The thread comes to its end -/

/-- No slot allows more retries than this. -/
def mostRetries (state : OtaState) : ℤ :=
  max state.first.retryMax state.second.retryMax

/-- The steps that the thread can still take at most. -/
def remainingSteps (state : OtaState) : ℕ :=
  match state.thread with
  | none => 0
  | some thread =>
      (state.mostRetries + 1 - thread.loop.retryTimes).toNat +
        2 * (2 - thread.fileIndex) + (if thread.downloading then 0 else 1)

theorem slot_retryMax_le (state : OtaState) (fileIndex : ℕ) :
    (state.slot fileIndex).retryMax ≤ state.mostRetries := by
  unfold slot mostRetries
  split_ifs
  · exact le_max_left _ _
  · exact le_max_right _ _

/-- A pass that is repeated is counted, and the last ones are counted or not. -/
theorem downloadPass_retryTimes {md5Hex : List UInt8 → CString}
    {info : EzOtaFileInfo} {session : OtaSession} {loop after : OtaLoop}
    {result : Option OtaCode}
    (hpass : downloadPass md5Hex info session loop = (result, after)) :
    (result = none → after.retryTimes = loop.retryTimes + 1 ∧
      loop.retryTimes + 1 ≤ info.retryMax) ∧
        loop.retryTimes ≤ after.retryTimes := by
  unfold downloadPass at hpass
  dsimp only at hpass
  split_ifs at hpass with hbroken hmax hcancelled
  · cases hpass
    simp
  · cases hpass
    simp
  · cases hpass
    simp
    omega
  · cases hpass
    simp

theorem remainingSteps_lt {md5Hex : List UInt8 → CString}
    {state next : OtaState} (hsound : state.JobsSound) {event : OtaEvent}
    (hthread : event.ofThread = true)
    (hstep : state.step md5Hex event = some next) :
    next.remainingSteps < state.remainingSteps := by
  cases event with
  | look =>
      rcases look_eq_some hstep with ⟨thread, hsome, hindex, hidle, hnext⟩
      have hretries : (state.threadLook thread).loop.retryTimes =
          thread.loop.retryTimes := by
        unfold threadLook
        dsimp only
        split_ifs <;> rfl
      rw [hnext]
      unfold remainingSteps mostRetries
      dsimp only
      rw [hsome, hretries]
      dsimp only
      rcases threadLook_cases thread state with
        ⟨_, hafter, hbusy⟩ | ⟨_, _, hafter, hbusy⟩ | ⟨_, _, hafter, hbusy⟩
      · rw [hafter, hbusy, hidle]
        omega
      · rw [hafter, hbusy, hidle]
        omega
      · rw [hafter, hbusy, hidle]
        simp
  | session session =>
      rcases session_eq_some hstep with ⟨thread, hsome, hbusy, hnext⟩
      have hindex := (hsound.downloading thread hsome hbusy).1
      have hmax := state.slot_retryMax_le thread.fileIndex
      rw [hnext]
      cases hpass : downloadPass md5Hex (state.slot thread.fileIndex) session
        thread.loop with
      | mk result loop =>
          have hretries := downloadPass_retryTimes hpass
          cases result with
          | none =>
              rw [threadSession_of_none hpass]
              have hcounted := hretries.1 rfl
              unfold remainingSteps mostRetries at *
              dsimp only
              rw [hsome]
              dsimp only
              omega
          | some code =>
              rw [threadSession_of_some hpass]
              unfold remainingSteps mostRetries at *
              dsimp only
              rw [hsome]
              dsimp only
              rw [hbusy]
              have hcounted := hretries.2
              simp only [Bool.false_eq_true, if_false, if_true]
              omega
  | finish =>
      rcases finish_eq_some hstep with ⟨thread, hsome, _, hidle, hnext⟩
      rw [hnext]
      unfold remainingSteps
      dsimp only
      rw [hsome]
      dsimp only
      rw [hidle]
      simp
  | call info created => cases hthread
  | fill => cases hthread
  | fillRest => cases hthread
  | setStatus => cases hthread

/-- The thread's own steps come to an end. -/
theorem thread_steps_le {md5Hex : List UInt8 → CString}
    {state last : OtaState} (hsound : state.JobsSound) {own : List OtaEvent}
    (hown : ∀ event ∈ own, event.ofThread = true)
    (hexec : StepSystem.exec (step md5Hex) state own = some last) :
    own.length + last.remainingSteps ≤ state.remainingSteps := by
  induction own generalizing state with
  | nil =>
      cases hexec
      simp
  | cons event rest ih =>
      rw [StepSystem.exec_cons, Option.bind_eq_some_iff] at hexec
      rcases hexec with ⟨next, hstep, hrest⟩
      have hless := remainingSteps_lt hsound
        (hown event List.mem_cons_self) hstep
      have hmore := ih (hsound.step hstep)
        (fun later hlater => hown later (List.mem_cons_of_mem event hlater))
        hrest
      rw [List.length_cons]
      omega

/-- Until then the thread can take a step, whatever a session is like. -/
theorem thread_can_step (md5Hex : List UInt8 → CString) (state : OtaState)
    (hthread : state.thread ≠ none) (session : OtaSession) :
    ∃ event, event.ofThread = true ∧
      (state.step md5Hex event).isSome = true := by
  rcases Option.ne_none_iff_exists'.mp hthread with ⟨thread, hsome⟩
  by_cases hbusy : thread.downloading = true
  · exact ⟨.session session, rfl, by simp [step, hsome, hbusy]⟩
  · by_cases hindex : thread.fileIndex < 2
    · exact ⟨.look, rfl, by simp [step, hsome, hbusy, hindex]⟩
    · exact ⟨.finish, rfl, by simp [step, hsome, hbusy, not_lt.mp hindex]⟩

/-! ## The promise -/

/-- The accepted jobs are served, each has exactly one answer when the thread
is gone, and the thread does not go on forever. -/
structure JobsServed (md5Hex : List UInt8 → CString) (state : OtaState) :
    Prop extends Served state where
  answeredOnce : state.thread = none →
    ∀ job < state.jobs, state.answered.count (some job) = 1
  ends : ∀ own last, (∀ event ∈ own, event.ofThread = true) →
    StepSystem.exec (step md5Hex) state own = some last →
      own.length ≤ state.remainingSteps

theorem Served.jobsServed {state : OtaState} (hserved : state.Served)
    (hsound : state.JobsSound) (md5Hex : List UInt8 → CString) :
    state.JobsServed md5Hex where
  toServed := hserved
  answeredOnce := by
    intro hnone job hjob
    rcases hserved.held job hjob with hanswered | hwaiting
    · exact List.count_eq_one_of_mem hserved.once hanswered
    · exact absurd hwaiting (not_waiting_of_no_thread hnone job)
  ends := by
    intro own last hown hexec
    have hsteps := thread_steps_le hsound hown hexec
    omega

/-- In every run, whatever the sessions and the turns of caller and thread, the
accepted jobs are served exactly if each step meets the condition. -/
theorem jobsServed_along_iff_jobKept
    (md5Hex : List UInt8 → CString) (events : List OtaEvent) :
    StepSystem.Along (step md5Hex) (JobsServed md5Hex) init events ↔
      StepSystem.StepsMeet (step md5Hex) (JobKept md5Hex) init events := by
  have hstart : init.JobsSound ∧ init.Served := ⟨jobsSound_init, served_init⟩
  have hkeep : ∀ (state : OtaState) (event : OtaEvent) (next : OtaState),
      state.JobsSound ∧ state.Served → state.JobKept md5Hex event →
        state.step md5Hex event = some next →
          next.JobsSound ∧ next.Served := by
    intro state event next hinvariant hcondition hstep
    have hserved := (hinvariant.2.step_iff hinvariant.1 hstep).mpr hcondition
    exact ⟨hinvariant.1.step hstep, hserved⟩
  have hbreak : ∀ (state : OtaState) (event : OtaEvent),
      state.JobsSound ∧ state.Served → ¬ state.JobKept md5Hex event →
        ∃ next, state.step md5Hex event = some next ∧
          ¬ next.JobsServed md5Hex := by
    intro state event hinvariant hnot
    rcases exists_step_of_not_jobKept hnot with ⟨next, hstep⟩
    refine ⟨next, hstep, ?_⟩
    intro hserved
    have hafter := hserved.toServed
    rw [hinvariant.2.step_iff hinvariant.1 hstep] at hafter
    exact hnot hafter
  exact StepSystem.along_iff_stepsMeet
    (fun state hinvariant => hinvariant.2.jobsServed hinvariant.1 md5Hex)
    hkeep hbreak hstart

def sampleDownloadInfo : OtaDownloadInfo where
  url := ⟨"http://ota/fw.bin".toList, by decide⟩
  degist := ⟨"187ef4436122d1cc2f40dc2b92f0eba0".toList, by decide⟩
  blockSize := 1
  totalSize := 2
  timeoutS := 10
  retryMax := 3
  callbacks := true

/-- The first job is downloaded and its thread ends; the next call succeeds, and
nothing is ever going to download it. -/
theorem second_job_never_runs :
    ¬ StepSystem.Along (step sampleMd5Hex) (JobsServed sampleMd5Hex) init
      [.call sampleDownloadInfo true, .setStatus, .look,
        .session (sampleSession 2 [97, 98]), .look, .finish,
        .call sampleDownloadInfo true] := by
  intro halong
  have hsome : (StepSystem.exec (step sampleMd5Hex) init
      [.call sampleDownloadInfo true, .setStatus, .look,
        .session (sampleSession 2 [97, 98]), .look, .finish,
        .call sampleDownloadInfo true]).any (fun last =>
      last.thread.isNone && last.jobs = 2 &&
        last.answered = [some 0]) = true := by decide +kernel
  rcases (Option.any_eq_true _ _).mp hsome with ⟨last, hexec, hlast⟩
  have hserved := halong _ [] last (List.append_nil _).symm hexec
  simp only [Bool.and_eq_true, decide_eq_true_eq,
    Option.isNone_iff_eq_none] at hlast
  have hcount := hserved.answeredOnce hlast.1.1 1 (by
    rw [hlast.1.2]
    decide)
  rw [hlast.2] at hcount
  revert hcount
  decide

end OtaState

end EziotSdk

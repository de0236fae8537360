import EziotSdk.TslAdapter

/-!
# The download thread

The critical sections of `ez_iot_tsl_adapter.c` on its device list, in any
order: registrations, the two halves of a profile url response, and the passes
of the download thread.  A request leaves its device in the list first and
looks at the running flag of the thread in a later section; the thread sets the
flag when it begins to run, and clears it some time after it found nothing left
to do.
-/

namespace EziotSdk

open FirstMatch

/-! ## State -/

/-- Where the download thread is. -/
inductive ThreadPhase where
  /-- There is none, or its function has returned. -/
  | none
  | created
  | looping
  | copied (dev : AdapterDev)
  /-- The profile of its device is loaded. -/
  | installed (dev : AdapterDev)
  /-- It found no device, and its flag is still set. -/
  | leaving
  deriving DecidableEq, Repr

structure DownloadState where
  devices : List AdapterDev
  phase : ThreadPhase
  /-- `g_profile_download_thread_running`. -/
  running : Bool
  /-- The requests that have not looked at the flag yet. -/
  requests : ℕ
  /-- A request holds the lock and waits for the thread to return. -/
  joining : Bool
  /-- The responses between their two halves. -/
  responses : List CString
  deriving DecidableEq, Repr

inductive DownloadEvent where
  | devAdd (devInfo : TslDevinfo) (needGet : Bool)
  | yeild
  | devDel (sn : CString)
  | urlRecord (answer : ProfileUrl)
  | urlUpdate (sn : CString)
  | start
  | pick
  | downloaded
  | finish
  | queried (sent : Bool)
  | dropped
  | leave
  deriving DecidableEq, Repr

namespace DownloadState

def init : DownloadState where
  devices := []
  phase := .none
  running := false
  requests := 0
  joining := false
  responses := []

/-- `tsl_adapter_dl_task_yeild`, with a thread that can be created.  Without
the flag it waits for the last thread to return, under the lock. -/
def dlTaskYeild (state : DownloadState) : DownloadState :=
  if state.running then { state with requests := state.requests - 1 }
  else if state.phase = .none then
    { state with phase := .created, requests := state.requests - 1 }
  else { state with joining := true }

/-- The scan at the head of the loop. -/
def pickDevice (state : DownloadState) : DownloadState :=
  match AdapterState.unfinished state.devices with
  | some dev => { state with phase := .copied dev }
  | none => { state with phase := .leaving }

/-- The device of a pass that has begun. -/
def copiedDev (state : DownloadState) : Option AdapterDev :=
  match state.phase with
  | .copied dev => some dev
  | _ => none

/-- The device of a pass that has only to report it done. -/
def installedDev (state : DownloadState) : Option AdapterDev :=
  match state.phase with
  | .installed dev => some dev
  | _ => none

/-- Everything but the first and the last statement of the thread needs the
lock, which a waiting request holds. -/
def Enabled (state : DownloadState) : DownloadEvent → Prop
  | .devAdd _ _ => state.joining = false
  | .yeild => state.joining = false ∧ 0 < state.requests
  | .devDel _ => state.joining = false
  | .urlRecord _ => state.joining = false
  | .urlUpdate sn => state.joining = false ∧ sn ∈ state.responses
  | .start => state.phase = .created
  | .pick => state.joining = false ∧ state.phase = .looping
  | .downloaded =>
      state.copiedDev.any (fun dev => dev.status = .loading) = true
  | .finish => state.joining = false ∧ state.installedDev.isSome = true
  | .queried _ =>
      state.joining = false ∧
        state.copiedDev.any (fun dev => dev.status ≠ .loading) = true
  | .dropped => state.copiedDev.isSome = true
  | .leave => state.phase = .leaving

instance (state : DownloadState) :
    (event : DownloadEvent) → Decidable (state.Enabled event)
  | .devAdd _ _ => inferInstanceAs (Decidable (_ = _))
  | .yeild => inferInstanceAs (Decidable (_ ∧ _))
  | .devDel _ => inferInstanceAs (Decidable (_ = _))
  | .urlRecord _ => inferInstanceAs (Decidable (_ = _))
  | .urlUpdate _ => inferInstanceAs (Decidable (_ ∧ _))
  | .start => inferInstanceAs (Decidable (_ = _))
  | .pick => inferInstanceAs (Decidable (_ ∧ _))
  | .downloaded => inferInstanceAs (Decidable (_ = _))
  | .finish => inferInstanceAs (Decidable (_ ∧ _))
  | .queried _ => inferInstanceAs (Decidable (_ ∧ _))
  | .dropped => inferInstanceAs (Decidable (_ = _))
  | .leave => inferInstanceAs (Decidable (_ = _))

def next (state : DownloadState) : DownloadEvent → DownloadState
  | .devAdd devInfo needGet =>
      { state with
        devices := tslAdapterDevAdd devInfo needGet state.devices
        requests := state.requests + if needGet then 1 else 0 }
  | .yeild => state.dlTaskYeild
  | .devDel sn => { state with devices := tslAdapterDevDel sn state.devices }
  | .urlRecord answer =>
      { state with
        devices := recordProfileUrl answer state.devices
        responses := urlSerial answer state.devices :: state.responses }
  | .urlUpdate sn =>
      { state with
        devices := tslAdapterDevUpdate sn .loading state.devices
        responses := state.responses.erase sn }
  | .start => { state with phase := .looping, running := true }
  | .pick => state.pickDevice
  | .downloaded =>
      match state.copiedDev with
      | some dev => { state with phase := .installed dev }
      | none => state
  | .finish =>
      match state.installedDev with
      | some dev =>
          { state with
            phase := .looping
            devices := tslAdapterDevUpdate dev.devSn .done state.devices }
      | none => state
  | .queried sent =>
      match state.copiedDev with
      | some dev =>
          { state with
            phase := .looping
            devices := tslAdapterDevUpdate dev.devSn
              (if sent then .query else .needUpdate) state.devices }
      | none => state
  | .dropped => { state with phase := .looping }
  | .leave => { state with phase := .none, running := false }

def step (state : DownloadState) (event : DownloadEvent) :
    Option DownloadState :=
  if state.Enabled event then some (state.next event) else none

theorem step_eq_some_iff {state later : DownloadState}
    {event : DownloadEvent} :
    state.step event = some later ↔
      state.Enabled event ∧ state.next event = later := by
  unfold step
  split_ifs with henabled
  · simp [henabled]
  · simp [henabled]

/-! ## Status and record -/

/-- A device that loads has a download record, and a device that is done has
none. -/
def RecordMatches (dev : AdapterDev) : Prop :=
  (dev.status = .loading → dev.downloadInfo ≠ none) ∧
    (dev.status = .done → dev.downloadInfo = none)

def Consistent (state : DownloadState) : Prop :=
  ∀ dev ∈ state.devices, RecordMatches dev

/-- The device that the second half of a response updates has a record. -/
def RecordHeld (state : DownloadState) : DownloadEvent → Prop
  | .urlUpdate sn =>
      state.joining = false → sn ∈ state.responses → ∀ dev,
        state.devices.find? (hasSn sn) = some dev → dev.downloadInfo ≠ none
  | _ => True

theorem recordMatches_updated {dev : AdapterDev} (hdev : RecordMatches dev)
    {status : DevStatus} (hloading : status ≠ .loading) :
    RecordMatches (dev.updated status) := by
  cases status with
  | done => exact ⟨nofun, fun _ => rfl⟩
  | needUpdate => exact hdev
  | query => exact ⟨nofun, nofun⟩
  | loading => exact absurd rfl hloading

theorem recordMatches_loading (dev : AdapterDev) :
    RecordMatches (dev.updated .loading) ↔ dev.downloadInfo ≠ none := by
  constructor
  · intro hdev
    exact hdev.1 rfl
  · intro hheld
    exact ⟨fun _ => hheld, nofun⟩

theorem recordMatches_devUpdate {devices : List AdapterDev}
    (hdevices : ∀ dev ∈ devices, RecordMatches dev) (sn : CString)
    {status : DevStatus} (hloading : status ≠ .loading) :
    ∀ dev ∈ tslAdapterDevUpdate sn status devices, RecordMatches dev := by
  intro dev hdev
  rcases mem_updateFirst hdev with hold | ⟨changed, hfind, rfl⟩
  · exact hdevices dev hold
  · have hchanged := hdevices changed (List.mem_of_find?_eq_some hfind)
    exact recordMatches_updated hchanged hloading

theorem recordMatches_urlRecord {devices : List AdapterDev}
    (hdevices : ∀ dev ∈ devices, RecordMatches dev) (answer : ProfileUrl) :
    ∀ dev ∈ recordProfileUrl answer devices, RecordMatches dev := by
  intro dev hdev
  rcases mem_updateFirst hdev with hold | ⟨changed, hfind, rfl⟩
  · exact hdevices dev hold
  · have hawaited := List.find?_some hfind
    have hwaits : changed.devSn = answer.devSn ∧ changed.status ≠ .done := by
      simpa [ProfileUrl.awaitedBy] using hawaited
    exact ⟨nofun, fun hdone => absurd hdone hwaits.2⟩

theorem Consistent.step_iff {state later : DownloadState}
    {event : DownloadEvent} (hconsistent : state.Consistent)
    (hstep : state.step event = some later) :
    later.Consistent ↔ state.RecordHeld event := by
  rcases step_eq_some_iff.mp hstep with ⟨henabled, rfl⟩
  cases event with
  | devAdd devInfo needGet =>
      refine iff_of_true ?_ trivial
      intro dev hdev
      rcases List.mem_append.mp hdev with hold | hnew
      · exact hconsistent dev hold
      · rw [List.mem_singleton.mp hnew]
        cases needGet <;> exact ⟨nofun, fun _ => rfl⟩
  | yeild =>
      refine iff_of_true ?_ trivial
      dsimp only [next, dlTaskYeild]
      split_ifs <;> exact hconsistent
  | devDel sn =>
      refine iff_of_true ?_ trivial
      intro dev hdev
      exact hconsistent dev (List.mem_of_mem_eraseP hdev)
  | urlRecord answer =>
      exact iff_of_true (recordMatches_urlRecord hconsistent answer) trivial
  | urlUpdate sn =>
      constructor
      · intro hlater _ _ dev hfind
        rw [← recordMatches_loading]
        exact hlater _ (change_mem_updateFirst _ hfind)
      · intro hheld dev hdev
        rcases mem_updateFirst hdev with hold | ⟨changed, hfind, rfl⟩
        · exact hconsistent dev hold
        · rw [recordMatches_loading]
          exact hheld henabled.1 henabled.2 changed hfind
  | start => exact iff_of_true hconsistent trivial
  | pick =>
      refine iff_of_true ?_ trivial
      dsimp only [next, pickDevice]
      split <;> exact hconsistent
  | downloaded =>
      refine iff_of_true ?_ trivial
      dsimp only [next]
      split <;> exact hconsistent
  | finish =>
      refine iff_of_true ?_ trivial
      dsimp only [next]
      split
      · exact recordMatches_devUpdate hconsistent _ (by decide)
      · exact hconsistent
  | queried sent =>
      refine iff_of_true ?_ trivial
      dsimp only [next]
      split
      · exact recordMatches_devUpdate hconsistent _ (by cases sent <;> decide)
      · exact hconsistent
  | dropped => exact iff_of_true hconsistent trivial
  | leave => exact iff_of_true hconsistent trivial

theorem enabled_of_not_recordHeld {state : DownloadState}
    {event : DownloadEvent} (hheld : ¬ state.RecordHeld event) :
    state.Enabled event := by
  cases event with
  | urlUpdate sn =>
      simp only [RecordHeld, not_forall] at hheld
      rcases hheld with ⟨hjoining, hmem, _⟩
      exact ⟨hjoining, hmem⟩
  | _ => exact absurd trivial hheld

/-- Status and record agree at every release of the lock exactly if every
second half of a response finds a device with a record. -/
theorem consistent_iff_recordHeld (events : List DownloadEvent) :
    StepSystem.Along step Consistent init events ↔
      StepSystem.StepsMeet step RecordHeld init events := by
  apply StepSystem.along_iff_stepsMeet (fun _ hconsistent => hconsistent)
  · intro state event later hconsistent hheld hstep
    exact (hconsistent.step_iff hstep).mpr hheld
  · intro state event hconsistent hheld
    have hstep := step_eq_some_iff.mpr
      ⟨enabled_of_not_recordHeld hheld, rfl⟩
    refine ⟨_, hstep, ?_⟩
    rw [hconsistent.step_iff hstep]
    exact hheld
  · intro dev hdev
    exact absurd hdev List.not_mem_nil

/-- A device registers, its url is asked for and comes, and the thread has
taken it up. -/
def downloadBegun (sn : CString) : List DownloadEvent :=
  [.devAdd ⟨sn, "CS-C6".toList, "V5.3.0".toList⟩ true, .yeild, .start, .pick,
    .queried true, .urlRecord ⟨sn, "host/profile".toList, [], 0⟩,
    .urlUpdate sn, .pick]

/-- A second response to the same query, with the end of the download between
its halves. -/
theorem duplicate_response_loads :
    ¬ StepSystem.Along step Consistent init
      (downloadBegun "E1".toList ++
        [.urlRecord ⟨"E1".toList, "host/profile".toList, [], 0⟩, .downloaded,
          .finish, .urlUpdate "E1".toList]) := by
  have hlast : (StepSystem.exec step init
      (downloadBegun "E1".toList ++
        [.urlRecord ⟨"E1".toList, "host/profile".toList, [], 0⟩, .downloaded,
          .finish, .urlUpdate "E1".toList])).any
        (fun last => last.devices.any fun dev =>
          dev.status = .loading ∧ dev.downloadInfo = none) = true := by
    decide +kernel
  intro halong
  rcases (Option.any_eq_true _ _).mp hlast with ⟨last, hexec, hbad⟩
  rcases List.any_eq_true.mp hbad with ⟨dev, hdev, hstatus⟩
  have hboth := of_decide_eq_true hstatus
  exact (halong _ [] last (List.append_nil _).symm hexec dev hdev).1
    hboth.1 hboth.2

/-! ## Lost requests -/

/-- With no thread and no request on its way, no device waits. -/
def NoneForgotten (state : DownloadState) : Prop :=
  state.phase = .none → state.requests = 0 →
    ∀ dev ∈ state.devices, dev.status = .done

/-- The thread will scan the list again. -/
def Scans (state : DownloadState) : Prop :=
  state.phase ≠ .none ∧ state.phase ≠ .leaving

/-- No request looks at the flag of a thread that has already found nothing,
and no late response takes up a device that is done while nobody scans. -/
def Attended (state : DownloadState) : DownloadEvent → Prop
  | .yeild => state.phase ≠ .leaving
  | .urlUpdate sn =>
      state.Scans ∨ (state.devices.find? (hasSn sn)).all
        (fun dev => dev.status ≠ .done) = true
  | _ => True

instance (state : DownloadState) :
    (event : DownloadEvent) → Decidable (state.Attended event)
  | .yeild => inferInstanceAs (Decidable (_ ≠ _))
  | .urlUpdate _ => inferInstanceAs (Decidable ((_ ∧ _) ∨ _))
  | .devAdd _ _ => instDecidableTrue
  | .devDel _ => instDecidableTrue
  | .urlRecord _ => instDecidableTrue
  | .start => instDecidableTrue
  | .pick => instDecidableTrue
  | .downloaded => instDecidableTrue
  | .finish => instDecidableTrue
  | .queried _ => instDecidableTrue
  | .dropped => instDecidableTrue
  | .leave => instDecidableTrue

/-- The flag is that of a thread which has begun and not yet returned, and a
device that waits has somebody to look after it. -/
structure AttendedInvariant (state : DownloadState) : Prop where
  flag : state.running = true ↔
    state.phase ≠ .none ∧ state.phase ≠ .created
  waiting : ∀ dev ∈ state.devices, dev.status ≠ .done →
    state.Scans ∨ 0 < state.requests

theorem AttendedInvariant.noneForgotten {state : DownloadState}
    (hinv : state.AttendedInvariant) : state.NoneForgotten := by
  intro hphase hrequests dev hdev
  by_contra hstatus
  rcases hinv.waiting dev hdev hstatus with hscans | hrequest
  · exact hscans.1 hphase
  · omega

/-- No step adds a device that waits, unless somebody looks after it. -/
theorem AttendedInvariant.of_waiting {state : DownloadState}
    (hinv : state.AttendedInvariant) (later : DownloadState)
    (hrunning : later.running = state.running)
    (hphase : later.phase = state.phase)
    (hrequests : state.requests ≤ later.requests)
    (hwaiting : ∀ dev ∈ later.devices, dev.status ≠ .done →
      (later.Scans ∨ 0 < later.requests) ∨
        ∃ old ∈ state.devices, old.status ≠ .done) :
    later.AttendedInvariant := by
  constructor
  · rw [hrunning, hphase]
    exact hinv.flag
  · intro dev hdev hstatus
    rcases hwaiting dev hdev hstatus with hnow | ⟨old, hold, holdStatus⟩
    · exact hnow
    · rcases hinv.waiting old hold holdStatus with hscans | hrequest
      · left
        unfold Scans at hscans ⊢
        rwa [hphase]
      · right
        omega

/-- A thread that goes on scanning looks after every device. -/
theorem AttendedInvariant.of_scanning {later : DownloadState}
    (hrunning : later.running = true) (hnone : later.phase ≠ .none)
    (hcreated : later.phase ≠ .created) (hleaving : later.phase ≠ .leaving) :
    later.AttendedInvariant := by
  constructor
  · exact iff_of_true hrunning ⟨hnone, hcreated⟩
  · intro dev hdev hstatus
    exact Or.inl ⟨hnone, hleaving⟩

theorem phase_of_copiedDev {state : DownloadState} {dev : AdapterDev}
    (hcopied : state.copiedDev = some dev) : state.phase = .copied dev := by
  unfold copiedDev at hcopied
  split at hcopied
  · next found hphase => rw [hphase, Option.some.inj hcopied]
  · cases hcopied

theorem phase_of_installedDev {state : DownloadState} {dev : AdapterDev}
    (hinstalled : state.installedDev = some dev) :
    state.phase = .installed dev := by
  unfold installedDev at hinstalled
  split at hinstalled
  · next found hphase => rw [hphase, Option.some.inj hinstalled]
  · cases hinstalled

/-- The end of a pass. -/
theorem AttendedInvariant.looping {state : DownloadState}
    (hinv : state.AttendedInvariant) (hnone : state.phase ≠ .none)
    (hcreated : state.phase ≠ .created) (devices : List AdapterDev) :
    AttendedInvariant { state with phase := .looping, devices := devices } :=
  .of_scanning (hinv.flag.mpr ⟨hnone, hcreated⟩) nofun nofun nofun

theorem AttendedInvariant.yeild {state : DownloadState}
    (hinv : state.AttendedInvariant) (hleaving : state.phase ≠ .leaving)
    (hrequests : 0 < state.requests) :
    state.dlTaskYeild.AttendedInvariant := by
  unfold dlTaskYeild
  split_ifs with hrunning hphase
  · have hbegun := hinv.flag.mp hrunning
    exact .of_scanning hrunning hbegun.1 hbegun.2 hleaving
  · constructor
    · simp [hrunning]
    · intro dev hdev hstatus
      exact Or.inl ⟨nofun, nofun⟩
  · apply hinv.of_waiting { state with joining := true } rfl rfl (le_refl _)
    intro dev hdev hstatus
    exact Or.inl (Or.inr hrequests)

theorem AttendedInvariant.pick {state : DownloadState}
    (hinv : state.AttendedInvariant) (hphase : state.phase = .looping) :
    state.pickDevice.AttendedInvariant := by
  have hrunning := hinv.flag.mpr (by simp [hphase])
  unfold pickDevice
  cases hpick : AdapterState.unfinished state.devices with
  | some dev => exact .of_scanning hrunning nofun nofun nofun
  | none =>
      constructor
      · exact iff_of_true hrunning ⟨nofun, nofun⟩
      · intro dev hdev hstatus
        have hdone := List.find?_eq_none.mp hpick dev hdev
        simp [hstatus] at hdone

theorem AttendedInvariant.step {state later : DownloadState}
    {event : DownloadEvent} (hinv : state.AttendedInvariant)
    (hattended : state.Attended event)
    (hstep : state.step event = some later) : later.AttendedInvariant := by
  rcases step_eq_some_iff.mp hstep with ⟨henabled, rfl⟩
  cases event with
  | devAdd devInfo needGet =>
      apply hinv.of_waiting (state.next (.devAdd devInfo needGet)) rfl rfl
        (Nat.le_add_right _ _)
      intro dev hdev hstatus
      rcases List.mem_append.mp hdev with hold | hnew
      · exact Or.inr ⟨dev, hold, hstatus⟩
      · cases needGet with
        | true => exact Or.inl (Or.inr (Nat.succ_pos _))
        | false =>
            rw [List.mem_singleton.mp hnew] at hstatus
            exact absurd rfl hstatus
  | yeild => exact hinv.yeild hattended henabled.2
  | devDel sn =>
      apply hinv.of_waiting (state.next (.devDel sn)) rfl rfl (le_refl _)
      intro dev hdev hstatus
      exact Or.inr ⟨dev, List.mem_of_mem_eraseP hdev, hstatus⟩
  | urlRecord answer =>
      apply hinv.of_waiting (state.next (.urlRecord answer)) rfl rfl (le_refl _)
      intro dev hdev hstatus
      rcases mem_updateFirst hdev with hold | ⟨changed, hfind, rfl⟩
      · exact Or.inr ⟨dev, hold, hstatus⟩
      · exact Or.inr ⟨changed, List.mem_of_find?_eq_some hfind, hstatus⟩
  | urlUpdate sn =>
      apply hinv.of_waiting (state.next (.urlUpdate sn)) rfl rfl (le_refl _)
      intro dev hdev hstatus
      rcases mem_updateFirst hdev with hold | ⟨changed, hfind, rfl⟩
      · exact Or.inr ⟨dev, hold, hstatus⟩
      · rcases hattended with hscans | hwaits
        · exact Or.inl (Or.inl hscans)
        · rw [hfind, Option.all_some, decide_eq_true_eq] at hwaits
          exact Or.inr ⟨changed, List.mem_of_find?_eq_some hfind, hwaits⟩
  | start => exact .of_scanning rfl nofun nofun nofun
  | pick => exact hinv.pick henabled.2
  | downloaded =>
      rcases (Option.any_eq_true _ _).mp henabled with ⟨dev, hcopied, _⟩
      have hphase := phase_of_copiedDev hcopied
      simp only [next, hcopied]
      exact .of_scanning (hinv.flag.mpr (by simp [hphase])) nofun nofun nofun
  | finish =>
      rcases Option.isSome_iff_exists.mp henabled.2 with ⟨dev, hinstalled⟩
      have hphase := phase_of_installedDev hinstalled
      simp only [next, hinstalled]
      exact hinv.looping (by simp [hphase]) (by simp [hphase]) _
  | queried sent =>
      rcases (Option.any_eq_true _ _).mp henabled.2 with ⟨dev, hcopied, _⟩
      have hphase := phase_of_copiedDev hcopied
      simp only [next, hcopied]
      exact hinv.looping (by simp [hphase]) (by simp [hphase]) _
  | dropped =>
      rcases Option.isSome_iff_exists.mp henabled with ⟨dev, hcopied⟩
      have hphase := phase_of_copiedDev hcopied
      exact hinv.looping (by simp [hphase]) (by simp [hphase]) _
  | leave =>
      constructor
      · simp [next]
      · intro dev hdev hstatus
        rcases hinv.waiting dev hdev hstatus with hscans | hrequest
        · exact absurd henabled hscans.2
        · exact Or.inr hrequest

/-- No device is forgotten in a run in which no request meets a thread that is
leaving. -/
theorem noneForgotten_of_attended (events : List DownloadEvent)
    (hattended : StepSystem.StepsMeet DownloadState.step Attended init
      events) :
    StepSystem.Along DownloadState.step NoneForgotten init events := by
  have hstart : init.AttendedInvariant := by
    constructor
    · simp [init]
    · intro dev hdev
      exact absurd hdev List.not_mem_nil
  have hrun := StepSystem.along_of_stepsMeet
    (fun _ _ _ hinv hmeets hstep =>
      AttendedInvariant.step hinv hmeets hstep)
    hstart hattended
  exact hrun.mono fun state hinv => hinv.noneForgotten

/-- The second device registers when the thread has gone. -/
theorem noneForgotten_of_attended_two :
    StepSystem.Along DownloadState.step NoneForgotten init
      (downloadBegun "E1".toList ++ [.downloaded, .finish, .pick, .leave] ++
        downloadBegun "E2".toList) :=
  noneForgotten_of_attended
    (downloadBegun "E1".toList ++ [.downloaded, .finish, .pick, .leave] ++
      downloadBegun "E2".toList) (by decide +kernel)

/-- The second device registers when the thread has found nothing more, but
its flag is still set. -/
theorem second_device_forgotten :
    ¬ StepSystem.Along DownloadState.step NoneForgotten init
      (downloadBegun "E1".toList ++ [.downloaded, .finish, .pick,
        .devAdd ⟨"E2".toList, "CS-C6".toList, "V5.3.0".toList⟩ true, .yeild,
        .leave]) := by
  have hlast : (StepSystem.exec DownloadState.step init
      (downloadBegun "E1".toList ++ [.downloaded, .finish, .pick,
        .devAdd ⟨"E2".toList, "CS-C6".toList, "V5.3.0".toList⟩ true, .yeild,
        .leave])).any
        (fun last => last.phase = .none ∧ last.requests = 0 ∧
          last.devices.any (fun dev => dev.status ≠ .done) = true) = true := by
    decide +kernel
  intro halong
  rcases (Option.any_eq_true _ _).mp hlast with ⟨last, hexec, hbad⟩
  have hforgotten := of_decide_eq_true hbad
  rcases List.any_eq_true.mp hforgotten.2.2 with ⟨dev, hdev, hstatus⟩
  exact of_decide_eq_true hstatus
    (halong _ [] last (List.append_nil _).symm hexec hforgotten.1
      hforgotten.2.1 dev hdev)

end DownloadState

end EziotSdk

import EziotSdk.ShadowKeys
import EziotSdk.StepSystem

/-!
# The events of the shadow

Other threads set three flags under the lock; the shadow's thread reads them
one after the other without it, acts on the first it finds set, and clears all
three.  Each read, each action and each locked section is one step, so that an
event may come between any two of them.
-/

namespace EziotSdk

/-- `shadow_event_type_e`. -/
inductive ShadowEventType where
  | reset
  | add
  | online
  | offline
  | report
  | recv
  deriving DecidableEq, Repr

/-- `shadow_core_status_e`. -/
inductive ShadowCoreStatus where
  | report
  | sync
  | chg
  deriving DecidableEq, Repr

/-- `g_need_reset`, `g_need_sync` and `g_need_report`. -/
inductive ShadowFlag where
  | reset
  | sync
  | report
  deriving DecidableEq, Repr

/-- What a run records: a flag is set, `shadow_status_reset` or
`shadow_status2sync` ran, the state machine was put back to its report
state. -/
inductive ShadowMark where
  | raised (flag : ShadowFlag)
  | statusReset
  | status2sync
  | restarted
  deriving DecidableEq, Repr

/-- The action of a flag. -/
def ShadowFlag.servedBy : ShadowFlag → ShadowMark → Bool
  | .reset, .statusReset => true
  | .sync, .statusReset => true
  | .sync, .status2sync => true
  | .report, .restarted => true
  | _, _ => false

/-- Whether the mark is one of the two actions on the tree. -/
def ShadowMark.isAction : ShadowMark → Bool
  | .statusReset => true
  | .status2sync => true
  | _ => false

/-- Where the shadow's thread is; `clearing` keeps the flag it acted on. -/
inductive ShadowPoint where
  | waiting
  | testReset
  | testSync
  | testReport
  | resetting
  | syncing
  | clearing (flag : ShadowFlag)
  | processing
  deriving DecidableEq, Repr

/-- `reporters` counts the threads that have read the status as syncing and
wait for the lock; the newest mark of the history comes first. -/
structure ShadowCore where
  needReset : Bool
  needSync : Bool
  needReport : Bool
  status : ShadowCoreStatus
  point : ShadowPoint
  devs : List NodeDev
  reporters : ℕ
  history : List ShadowMark

inductive ShadowTurn where
  | occured (eventType : ShadowEventType)
  /-- A thread that has read the status as syncing gets the lock. -/
  | raiseReport
  /-- The other functions of the module change the tree. -/
  | change (devs : List NodeDev)
  /-- The semaphore is posted, or the last pass was not complete. -/
  | wake
  /-- Nothing happened for a day. -/
  | timeout
  | test
  | act
  | clear
  /-- The pass returns. -/
  | processed (result : ℤ)

namespace ShadowCore

def init : ShadowCore where
  needReset := false
  needSync := false
  needReport := false
  status := .report
  point := .waiting
  devs := []
  reporters := 0
  history := []

def flag (core : ShadowCore) : ShadowFlag → Bool
  | .reset => core.needReset
  | .sync => core.needSync
  | .report => core.needReport

/-- A flag is set under the lock. -/
def raise (raised : ShadowFlag) (core : ShadowCore) : ShadowCore :=
  let core := { core with history := .raised raised :: core.history }
  match raised with
  | .reset => { core with needReset := true }
  | .sync => { core with needSync := true }
  | .report => { core with needReport := true }

/-- `shadow_core_event_occured`, up to the wait for the lock where it reads
the status first. -/
def occured (core : ShadowCore) : ShadowEventType → ShadowCore
  | .reset => core.raise .reset
  | .online => core.raise .report
  | .add => core.raise .report
  | .offline => core.raise .sync
  | .report =>
      if core.status = .sync then
        { core with reporters := core.reporters + 1 }
      else core
  | .recv => core

def runStatusReset (core : ShadowCore) : ShadowCore :=
  { core with
    devs := shadowStatusReset core.devs
    history := .statusReset :: core.history }

def runStatus2sync (core : ShadowCore) : ShadowCore :=
  { core with
    devs := shadowStatus2sync core.devs
    history := .status2sync :: core.history }

def moveTo (point : ShadowPoint) (core : ShadowCore) : ShadowCore :=
  { core with point := point }

/-- The locked end of `check_status_update`. -/
def clearFlags (core : ShadowCore) : ShadowCore :=
  { core with
    needReset := false
    needSync := false
    needReport := false
    status := .report
    point := .processing
    history := .restarted :: core.history }

/-- The end of `shadow_proc_do`. -/
def advance (result : ℤ) (core : ShadowCore) : ShadowCore :=
  let status :=
    if result = 0 then
      match core.status with
      | .report => .sync
      | _ => .chg
    else core.status
  { core with status := status, point := .waiting }

def step (core : ShadowCore) : ShadowTurn → Option ShadowCore
  | .occured eventType => some (core.occured eventType)
  | .raiseReport =>
      if core.reporters = 0 then none
      else some ({ core with reporters := core.reporters - 1 }.raise .report)
  | .change devs => some { core with devs := devs }
  | .wake =>
      if core.point = .waiting then some (core.moveTo .testReset) else none
  | .timeout =>
      if core.point = .waiting then
        some (core.runStatusReset.moveTo .testReset)
      else none
  | .test =>
      match core.point with
      | .testReset =>
          some (core.moveTo (if core.needReset then .resetting else .testSync))
      | .testSync =>
          some (core.moveTo (if core.needSync then .syncing else .testReport))
      | .testReport =>
          some (core.moveTo
            (if core.needReport then .clearing .report else .processing))
      | _ => none
  | .act =>
      match core.point with
      | .resetting => some (core.runStatusReset.moveTo (.clearing .reset))
      | .syncing => some (core.runStatus2sync.moveTo (.clearing .sync))
      | _ => none
  | .clear =>
      match core.point with
      | .clearing _ => some core.clearFlags
      | _ => none
  | .processed result =>
      if core.point = .processing then some (core.advance result) else none

end ShadowCore

/-! ## Events that are served -/

/-- After every time the flag was set, its action ran. -/
def ShadowFlag.Served (flag : ShadowFlag) (history : List ShadowMark) : Prop :=
  ∀ newer older, history = newer ++ .raised flag :: older →
    ∃ mark ∈ newer, flag.servedBy mark = true

@[simp] theorem ShadowFlag.servedBy_raised (flag raised : ShadowFlag) :
    flag.servedBy (.raised raised) = false := by
  cases flag <;> rfl

theorem ShadowFlag.served_nil (flag : ShadowFlag) : flag.Served [] := by
  intro newer older hsplit
  simp at hsplit

theorem ShadowFlag.served_cons_iff (flag : ShadowFlag) (mark : ShadowMark)
    (history : List ShadowMark) :
    flag.Served (mark :: history) ↔
      mark ≠ .raised flag ∧ (flag.servedBy mark = true ∨
        flag.Served history) := by
  constructor
  · intro hserved
    refine ⟨?_, ?_⟩
    · intro heq
      rcases hserved [] history (by rw [heq]; rfl) with ⟨served, hmem, -⟩
      exact List.not_mem_nil hmem
    · by_cases hmark : flag.servedBy mark = true
      · exact Or.inl hmark
      · right
        intro newer older hsplit
        rcases hserved (mark :: newer) older (by rw [hsplit]; rfl) with
          ⟨served, hmem, hserves⟩
        rcases List.mem_cons.mp hmem with heq | hnewer
        · exact absurd (heq ▸ hserves) hmark
        · exact ⟨served, hnewer, hserves⟩
  · rintro ⟨hne, hserved⟩ newer older hsplit
    cases newer with
    | nil =>
        rw [List.nil_append, List.cons.injEq] at hsplit
        exact absurd hsplit.1 hne
    | cons first rest =>
        rw [List.cons_append, List.cons.injEq] at hsplit
        rcases hserved with hmark | hold
        · exact ⟨mark, hsplit.1 ▸ List.mem_cons_self, hmark⟩
        · rcases hold rest older hsplit.2 with ⟨served, hmem, hserves⟩
          exact ⟨served, List.mem_cons_of_mem first hmem, hserves⟩

theorem ShadowFlag.served_raised_iff (flag raised : ShadowFlag)
    (history : List ShadowMark) :
    flag.Served (.raised raised :: history) ↔
      flag ≠ raised ∧ flag.Served history := by
  rw [flag.served_cons_iff]
  simp [eq_comm]

theorem ShadowFlag.served_of_servedBy {flag : ShadowFlag} {mark : ShadowMark}
    (hserves : flag.servedBy mark = true) (history : List ShadowMark) :
    flag.Served (mark :: history) := by
  rw [flag.served_cons_iff]
  constructor
  · intro hmark
    rw [hmark, flag.servedBy_raised] at hserves
    cases hserves
  · exact Or.inl hserves

/-- The marks since the last action on the tree. -/
def sinceAction (history : List ShadowMark) : List ShadowMark :=
  history.takeWhile fun mark => !mark.isAction

theorem not_mem_sinceAction_raised_iff (flag raised : ShadowFlag)
    (history : List ShadowMark) :
    .raised flag ∉ sinceAction (.raised raised :: history) ↔
      flag ≠ raised ∧ .raised flag ∉ sinceAction history := by
  simp [sinceAction, ShadowMark.isAction]

theorem sinceAction_of_isAction {mark : ShadowMark}
    (haction : mark.isAction = true) (history : List ShadowMark) :
    sinceAction (mark :: history) = [] := by
  simp [sinceAction, haction]

namespace ShadowCore

/-- A flag that is clear has no event which its action did not follow. -/
def EventsServed (core : ShadowCore) : Prop :=
  ∀ flag, core.flag flag = false → flag.Served core.history

/-- The turns that drop no event: when the flags are cleared, none was set
since the branch was taken that its action did not serve. -/
def ClearsServed (core : ShadowCore) : ShadowTurn → Prop
  | .clear =>
      match core.point with
      | .clearing .reset =>
          .raised .reset ∉ sinceAction core.history ∧
            .raised .sync ∉ sinceAction core.history
      | .clearing .sync =>
          core.needReset = false ∧ .raised .sync ∉ sinceAction core.history
      | .clearing .report => core.needReset = false ∧ core.needSync = false
      | _ => True
  | _ => True

end ShadowCore

/-! ## What the thread knows at each point -/

namespace ShadowCore

@[simp] theorem raise_history (core : ShadowCore) (raised : ShadowFlag) :
    (core.raise raised).history = .raised raised :: core.history := by
  cases raised <;> rfl

@[simp] theorem raise_point (core : ShadowCore) (raised : ShadowFlag) :
    (core.raise raised).point = core.point := by
  cases raised <;> rfl

theorem flag_raise (core : ShadowCore) (flag raised : ShadowFlag) :
    (core.raise raised).flag flag =
      (decide (flag = raised) || core.flag flag) := by
  cases flag <;> cases raised <;> rfl

/-- A set flag with no action after it. -/
def Unserved (core : ShadowCore) (flag : ShadowFlag) : Prop :=
  core.flag flag = true → ¬ flag.Served core.history

/-- The action ran and what is not served came after it. -/
def LateOnly (core : ShadowCore) (flag : ShadowFlag) : Prop :=
  flag.Served core.history ↔ .raised flag ∉ sinceAction core.history

/-- What holds of the flags that the clear will take away. -/
def PointTracked (core : ShadowCore) : Prop :=
  match core.point with
  | .clearing .reset => core.LateOnly .reset ∧ core.LateOnly .sync
  | .clearing .sync => core.Unserved .reset ∧ core.LateOnly .sync
  | .clearing .report => core.Unserved .reset ∧ core.Unserved .sync
  | .testReport => core.Unserved .reset ∧ core.Unserved .sync
  | .testSync => core.Unserved .reset
  | .syncing => core.Unserved .reset
  | _ => True

structure Tracked (core : ShadowCore) : Prop where
  served : core.EventsServed
  point : core.PointTracked

theorem tracked_init : Tracked init := by
  constructor
  · intro flag _
    exact flag.served_nil
  · trivial

theorem Unserved.raise {core : ShadowCore} {flag : ShadowFlag}
    (hunserved : core.Unserved flag) (raised : ShadowFlag) :
    (core.raise raised).Unserved flag := by
  intro hset hserved
  rw [raise_history, flag.served_raised_iff] at hserved
  rw [flag_raise, decide_eq_false hserved.1, Bool.false_or] at hset
  exact hunserved hset hserved.2

theorem LateOnly.raise {core : ShadowCore} {flag : ShadowFlag}
    (hlate : core.LateOnly flag) (raised : ShadowFlag) :
    (core.raise raised).LateOnly flag := by
  unfold LateOnly
  rw [raise_history, flag.served_raised_iff, not_mem_sinceAction_raised_iff]
  exact and_congr_right' hlate

theorem Tracked.raise {core : ShadowCore} (htracked : core.Tracked)
    (raised : ShadowFlag) : (core.raise raised).Tracked := by
  constructor
  · intro flag hclear
    rw [flag_raise, Bool.or_eq_false_iff, decide_eq_false_iff_not] at hclear
    rw [raise_history, flag.served_raised_iff]
    exact ⟨hclear.1, htracked.served flag hclear.2⟩
  · have hpoint := htracked.point
    unfold PointTracked at hpoint ⊢
    rw [raise_point]
    split at hpoint
    · exact ⟨hpoint.1.raise raised, hpoint.2.raise raised⟩
    · exact ⟨hpoint.1.raise raised, hpoint.2.raise raised⟩
    · exact ⟨hpoint.1.raise raised, hpoint.2.raise raised⟩
    · exact ⟨hpoint.1.raise raised, hpoint.2.raise raised⟩
    · exact hpoint.raise raised
    · exact hpoint.raise raised
    · trivial

theorem Tracked.occured {core : ShadowCore} (htracked : core.Tracked)
    (eventType : ShadowEventType) : (core.occured eventType).Tracked := by
  cases eventType with
  | reset => exact htracked.raise .reset
  | add => exact htracked.raise .report
  | online => exact htracked.raise .report
  | offline => exact htracked.raise .sync
  | report =>
      simp only [ShadowCore.occured]
      split
      · exact ⟨htracked.served, htracked.point⟩
      · exact htracked
  | recv => exact htracked

theorem Unserved.of_clear {core : ShadowCore} {flag : ShadowFlag}
    (hclear : core.flag flag = false) : core.Unserved flag := by
  intro hset
  rw [hclear] at hset
  cases hset

/-! ## The turns of the thread -/

theorem Tracked.test {core next : ShadowCore} (htracked : core.Tracked)
    (hstep : core.step .test = some next) : next.Tracked := by
  have hpoint := htracked.point
  unfold PointTracked at hpoint
  simp only [step] at hstep
  split at hstep
  case h_1 =>
    cases hstep
    split
    · exact ⟨htracked.served, trivial⟩
    · rename_i hflag
      have hreset : core.Unserved .reset :=
        Unserved.of_clear (Bool.not_eq_true _ ▸ hflag)
      exact ⟨htracked.served, hreset⟩
  case h_2 hat =>
    rw [hat] at hpoint
    cases hstep
    split
    · exact ⟨htracked.served, hpoint⟩
    · rename_i hflag
      have hsync : core.Unserved .sync :=
        Unserved.of_clear (Bool.not_eq_true _ ▸ hflag)
      exact ⟨htracked.served, hpoint, hsync⟩
  case h_3 hat =>
    rw [hat] at hpoint
    cases hstep
    split
    · exact ⟨htracked.served, hpoint⟩
    · exact ⟨htracked.served, trivial⟩
  case h_4 => cases hstep

/-- A mark that no event made leaves what was served so. -/
theorem EventsServed.cons {core next : ShadowCore}
    (hserved : core.EventsServed) (mark : ShadowMark)
    (hflags : ∀ flag, next.flag flag = core.flag flag)
    (hhistory : next.history = mark :: core.history)
    (hmark : ∀ flag, mark ≠ .raised flag) : next.EventsServed := by
  intro flag hclear
  rw [hflags] at hclear
  rw [hhistory, flag.served_cons_iff]
  exact ⟨hmark flag, Or.inr (hserved flag hclear)⟩

theorem lateOnly_of_action {core : ShadowCore} {flag : ShadowFlag}
    {mark : ShadowMark} {older : List ShadowMark}
    (hhistory : core.history = mark :: older)
    (haction : mark.isAction = true) (hserves : flag.servedBy mark = true) :
    core.LateOnly flag := by
  unfold LateOnly
  rw [hhistory, sinceAction_of_isAction haction]
  simp [ShadowFlag.served_of_servedBy hserves]

theorem runStatusReset_eventsServed {core : ShadowCore}
    (hserved : core.EventsServed) : core.runStatusReset.EventsServed := by
  apply hserved.cons .statusReset (fun flag => by cases flag <;> rfl)
  · rfl
  · intro flag hmark
    cases hmark

theorem runStatus2sync_eventsServed {core : ShadowCore}
    (hserved : core.EventsServed) : core.runStatus2sync.EventsServed := by
  apply hserved.cons .status2sync (fun flag => by cases flag <;> rfl)
  · rfl
  · intro flag hmark
    cases hmark

theorem Tracked.act {core next : ShadowCore} (htracked : core.Tracked)
    (hstep : core.step .act = some next) : next.Tracked := by
  have hpoint := htracked.point
  unfold PointTracked at hpoint
  simp only [step] at hstep
  split at hstep
  case h_1 =>
    cases hstep
    have hreset : (core.runStatusReset.moveTo (.clearing .reset)).LateOnly
        .reset := lateOnly_of_action rfl rfl rfl
    have hsync : (core.runStatusReset.moveTo (.clearing .reset)).LateOnly
        .sync := lateOnly_of_action rfl rfl rfl
    exact ⟨runStatusReset_eventsServed htracked.served, hreset, hsync⟩
  case h_2 hat =>
    rw [hat] at hpoint
    cases hstep
    -- `shadow_status2sync` does not serve a reset
    have hreset : (core.runStatus2sync.moveTo (.clearing .sync)).Unserved
        .reset := by
      intro hset hserved
      have hboth := (ShadowFlag.reset.served_cons_iff .status2sync
        core.history).mp hserved
      exact hpoint hset (hboth.2.resolve_left Bool.false_ne_true)
    have hsync : (core.runStatus2sync.moveTo (.clearing .sync)).LateOnly
        .sync := lateOnly_of_action rfl rfl rfl
    exact ⟨runStatus2sync_eventsServed htracked.served, hreset, hsync⟩
  case h_3 => cases hstep

/-! ## Clearing -/

theorem clearFlags_eventsServed_iff (core : ShadowCore) :
    core.clearFlags.EventsServed ↔
      ShadowFlag.reset.Served core.history ∧
        ShadowFlag.sync.Served core.history := by
  have hkept : ∀ flag : ShadowFlag, flag ≠ .report →
      (flag.Served core.clearFlags.history ↔ flag.Served core.history) := by
    intro flag hflag
    have hserves : flag.servedBy .restarted = false := by
      cases flag with
      | reset => rfl
      | sync => rfl
      | report => exact absurd rfl hflag
    have hhistory : core.clearFlags.history = .restarted :: core.history := rfl
    rw [hhistory, flag.served_cons_iff, hserves]
    simp
  constructor
  · intro hserved
    constructor
    · exact (hkept .reset (by decide)).mp (hserved .reset rfl)
    · exact (hkept .sync (by decide)).mp (hserved .sync rfl)
  · intro hserved flag _
    cases flag with
    | reset => exact (hkept .reset (by decide)).mpr hserved.1
    | sync => exact (hkept .sync (by decide)).mpr hserved.2
    | report => exact ShadowFlag.served_of_servedBy rfl core.history

theorem Tracked.served_iff_clear {core : ShadowCore} (htracked : core.Tracked)
    {flag : ShadowFlag} (hunserved : core.Unserved flag) :
    flag.Served core.history ↔ core.flag flag = false := by
  constructor
  · intro hserved
    by_contra hset
    exact hunserved (Bool.not_eq_false _ ▸ hset) hserved
  · exact htracked.served flag

theorem Tracked.clear_iff {core next : ShadowCore} (htracked : core.Tracked)
    (hstep : core.step .clear = some next) :
    next.EventsServed ↔ core.ClearsServed .clear := by
  have hpoint := htracked.point
  unfold PointTracked at hpoint
  simp only [step] at hstep
  split at hstep
  case h_1 flag hat =>
    cases hstep
    rw [clearFlags_eventsServed_iff]
    simp only [ClearsServed, hat]
    rw [hat] at hpoint
    cases flag with
    | reset => exact and_congr hpoint.1 hpoint.2
    | sync => exact and_congr (htracked.served_iff_clear hpoint.1) hpoint.2
    | report =>
        exact and_congr (htracked.served_iff_clear hpoint.1)
          (htracked.served_iff_clear hpoint.2)
  case h_2 => cases hstep

theorem step_clear_of_not_clearsServed {core : ShadowCore}
    (hnot : ¬ core.ClearsServed .clear) :
    core.step .clear = some core.clearFlags := by
  simp only [ClearsServed] at hnot
  simp only [step]
  cases hat : core.point with
  | clearing flag => rfl
  | _ => simp [hat] at hnot

theorem Tracked.step {core next : ShadowCore} {turn : ShadowTurn}
    (htracked : core.Tracked) (hserved : core.ClearsServed turn)
    (hstep : core.step turn = some next) : next.Tracked := by
  cases turn with
  | occured eventType =>
      cases hstep
      exact htracked.occured eventType
  | raiseReport =>
      simp only [ShadowCore.step] at hstep
      split at hstep
      case isTrue => cases hstep
      case isFalse =>
        cases hstep
        have hlocked : Tracked { core with
            reporters := core.reporters - 1 } :=
          ⟨htracked.served, htracked.point⟩
        exact hlocked.raise .report
  | change devs =>
      cases hstep
      exact ⟨htracked.served, htracked.point⟩
  | wake =>
      simp only [ShadowCore.step] at hstep
      split at hstep
      case isTrue =>
        cases hstep
        exact ⟨htracked.served, trivial⟩
      case isFalse => cases hstep
  | timeout =>
      simp only [ShadowCore.step] at hstep
      split at hstep
      case isTrue =>
        cases hstep
        exact ⟨runStatusReset_eventsServed htracked.served, trivial⟩
      case isFalse => cases hstep
  | test => exact htracked.test hstep
  | act => exact htracked.act hstep
  | clear =>
      have hnext := (htracked.clear_iff hstep).mpr hserved
      simp only [ShadowCore.step] at hstep
      split at hstep
      case h_1 =>
        cases hstep
        exact ⟨hnext, trivial⟩
      case h_2 => cases hstep
  | processed result =>
      simp only [ShadowCore.step] at hstep
      split at hstep
      case isTrue =>
        cases hstep
        exact ⟨htracked.served, trivial⟩
      case isFalse => cases hstep

/-- No event is dropped exactly in the runs where every clear comes with
nothing left that its branch did not serve. -/
theorem eventsServed_along_iff_clearsServed (turns : List ShadowTurn) :
    StepSystem.Along step EventsServed init turns ↔
      StepSystem.StepsMeet step ClearsServed init turns := by
  have hkeep : ∀ core turn next, Tracked core → core.ClearsServed turn →
      core.step turn = some next → Tracked next :=
    fun _ _ _ htracked hserved hstep => htracked.step hserved hstep
  have hbreak : ∀ core turn, Tracked core → ¬ core.ClearsServed turn →
      ∃ next, core.step turn = some next ∧ ¬ next.EventsServed := by
    intro core turn htracked hnot
    cases turn with
    | clear =>
        have hstep := step_clear_of_not_clearsServed hnot
        exact ⟨core.clearFlags, hstep,
          fun hserved => hnot ((htracked.clear_iff hstep).mp hserved)⟩
    | _ => exact absurd trivial hnot
  exact StepSystem.along_iff_stepsMeet (fun _ htracked => htracked.served)
    hkeep hbreak tracked_init

/-- The device goes offline after the thread has read that flag as clear and
before it clears all three for a report. -/
theorem offline_event_dropped :
    ∃ core, StepSystem.exec step init
        [.occured .online, .wake, .test, .test, .test, .occured .offline,
          .clear] = some core ∧ ¬ core.EventsServed := by
  refine ⟨_, rfl, ?_⟩
  intro hserved
  obtain ⟨mark, hmem, hserves⟩ := hserved .sync rfl [.restarted]
    [.raised .report] rfl
  rw [List.mem_singleton.mp hmem] at hserves
  cases hserves

end ShadowCore

end EziotSdk

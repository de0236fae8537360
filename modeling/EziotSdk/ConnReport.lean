import EziotSdk.ConnRules
import EziotSdk.NodeChains

/-!
# The report of a linkage rule

`conn_do` runs the actions of a rule and puts what came of them into two JSON
documents.  The entries of the first are one object that is filled again for
every action that succeeds.
-/

namespace EziotSdk

/-! ## Data -/

/-- What `report2dev` gives back for an action, and the time after it. -/
structure ConnRun where
  ret : ℤ
  rspNum : ℕ
  rspValue : Bool
  execTime : CString
  deriving DecidableEq

inductive ReportNode where
  | object (members : List (CString × CString))
  | number (value : ℤ)
  deriving DecidableEq

/-- The document of `exec_logs`. -/
structure ExecLogs where
  ruleId : ℤ
  deviceSerial : CString
  groupId : CString
  execTime : CString
  thenResultInfoTo : List ReportNode

/-- The document of `exec_fails`. -/
structure ExecFails where
  ruleId : ℤ
  thenIds : List ReportNode

inductive ConnStop where
  | endless
  | doubleFree
  deriving DecidableEq

/-- The nodes in memory, the first nodes of the two arrays, the counts, and
the actions that were handed to `report2dev`. -/
structure ConnDoState where
  content : ℕ → ReportNode
  next : NodeChain.Links
  fresh : ℕ
  results : Option ℕ
  thenIds : Option ℕ
  succCount : ℕ
  failCount : ℕ
  calls : List ConnThenInfo
  ret : ℤ

structure ConnReports where
  ret : ℤ
  calls : List ConnThenInfo
  execLogs : Option ExecLogs
  execFails : Option ExecFails

/-- The serial number of the device, the UUID and the time at the start. -/
structure ConnDoEnv where
  devSubserial : CString
  groupId : CString
  startTime : CString

/-! ## The nodes -/

namespace ReportNode

/-- `bscJSON_AddStringToObject`. -/
def addString (name text : CString) : ReportNode → ReportNode
  | .object members => .object (members ++ [(name, text)])
  | .number value => .number value

/-- The serial numbers that an entry carries. -/
def serials : ReportNode → List CString
  | .object members =>
      (members.filter fun member => member.1 = "deviceSerial".toList).map
        Prod.snd
  | .number _ => []

end ReportNode

/-- The object that is made before the loop. -/
def jsExtend : ℕ := 0

namespace ConnDoState

def initial : ConnDoState where
  content := fun _ => .object []
  next := fun _ => none
  fresh := 1
  results := none
  thenIds := none
  succCount := 0
  failCount := 0
  calls := []
  ret := -1

/-- `js_extend` with the two members of another action, at the end of the
array. -/
def addResult (fuel : ℕ) (state : ConnDoState) (target time : CString) :
    Except ConnStop ConnDoState :=
  let filled := ((state.content jsExtend).addString "deviceSerial".toList
    target).addString "execTime".toList time
  match NodeChain.append fuel state.next state.results jsExtend with
  | none => .error .endless
  | some (next, results) =>
      .ok {
        state with
        content := Function.update state.content jsExtend filled
        next := next
        results := results
        succCount := state.succCount + 1 }

/-- A number node of its own, at the end of the array. -/
def addFailure (fuel : ℕ) (state : ConnDoState) (id : ℤ) :
    Except ConnStop ConnDoState :=
  let cleared := Function.update state.next state.fresh none
  match NodeChain.append fuel cleared state.thenIds state.fresh with
  | none => .error .endless
  | some (next, thenIds) =>
      .ok {
        state with
        content := Function.update state.content state.fresh (.number id)
        next := next
        fresh := state.fresh + 1
        thenIds := thenIds
        failCount := state.failCount + 1 }

/-- One pass of the loop.  The value of the one response record is freed once
for every response. -/
def execute (fuel : ℕ) (state : ConnDoState)
    (entry : ConnThenInfo × ConnRun) : Except ConnStop ConnDoState :=
  let (info, run) := entry
  let called := { state with calls := state.calls ++ [info], ret := run.ret }
  if run.rspValue = true ∧ 2 ≤ run.rspNum then .error .doubleFree
  else if run.ret = 0 then
    called.addResult fuel info.actionTarget.1 run.execTime
  else called.addFailure fuel info.id

/-- The elements of an array, as they are printed. -/
def printArray (fuel : ℕ) (state : ConnDoState) (first : Option ℕ) :
    Except ConnStop (List ReportNode) :=
  match NodeChain.visited state.next fuel first with
  | none => .error .endless
  | some nodes => .ok (nodes.map state.content)

/-- The document of the successes, sent when there is one. -/
def execLogs (fuel : ℕ) (env : ConnDoEnv) (ruleId : ℤ)
    (state : ConnDoState) : Except ConnStop (Option ExecLogs) :=
  if state.succCount = 0 then .ok none
  else
    (state.printArray fuel state.results).map fun results =>
      some {
        ruleId := ruleId
        deviceSerial := env.devSubserial
        groupId := env.groupId
        execTime := env.startTime
        thenResultInfoTo := results }

/-- The document of the failures, sent when there is one. -/
def execFails (fuel : ℕ) (ruleId : ℤ) (state : ConnDoState) :
    Except ConnStop (Option ExecFails) :=
  if state.failCount = 0 then .ok none
  else
    (state.printArray fuel state.thenIds).map fun thenIds =>
      some ⟨ruleId, thenIds⟩

end ConnDoState

def connDo (fuel : ℕ) (env : ConnDoEnv) (ruleId : ℤ)
    (runs : List (ConnThenInfo × ConnRun)) : Except ConnStop ConnReports := do
  let state ← runs.foldlM (ConnDoState.execute fuel) .initial
  let execLogs ← state.execLogs fuel env ruleId
  let execFails ← state.execFails fuel ruleId
  return ⟨state.ret, state.calls, execLogs, execFails⟩

/-! ## Reports as they are meant -/

def succeeded (runs : List (ConnThenInfo × ConnRun)) :
    List (ConnThenInfo × ConnRun) :=
  runs.filter fun entry => entry.2.ret = 0

def failures (runs : List (ConnThenInfo × ConnRun)) :
    List (ConnThenInfo × ConnRun) :=
  runs.filter fun entry => ¬ entry.2.ret = 0

/-- Every action was run once and in order, and the reports name what
succeeded and what failed. -/
structure ReportsMatch (runs : List (ConnThenInfo × ConnRun))
    (reports : ConnReports) : Prop where
  calls : reports.calls = runs.map Prod.fst
  execLogs : reports.execLogs.map (fun logs =>
      logs.thenResultInfoTo.map ReportNode.serials) =
    if succeeded runs = [] then none
    else some ((succeeded runs).map fun entry => [entry.1.actionTarget.1])
  execFails : reports.execFails.map ExecFails.thenIds =
    if failures runs = [] then none
    else some ((failures runs).map fun entry => .number entry.1.id)

/-- `conn_do` comes to its end with the right reports. -/
def ReportsRight (env : ConnDoEnv) (ruleId : ℤ)
    (runs : List (ConnThenInfo × ConnRun)) : Prop :=
  ∃ fuel reports, connDo fuel env ruleId runs = .ok reports ∧
    ReportsMatch runs reports

/-! ## What the loop keeps -/

theorem succeeded_concat (done : List (ConnThenInfo × ConnRun))
    (entry : ConnThenInfo × ConnRun) :
    succeeded (done ++ [entry]) =
      succeeded done ++ if entry.2.ret = 0 then [entry] else [] := by
  by_cases hret : entry.2.ret = 0
  · simp [succeeded, hret]
  · simp [succeeded, hret]

theorem failures_concat (done : List (ConnThenInfo × ConnRun))
    (entry : ConnThenInfo × ConnRun) :
    failures (done ++ [entry]) =
      failures done ++ if entry.2.ret = 0 then [] else [entry] := by
  by_cases hret : entry.2.ret = 0
  · simp [failures, hret]
  · simp [failures, hret]

/-- The value of the response record is freed at most once. -/
def ConnRun.Clean (run : ConnRun) : Prop :=
  ¬ (run.rspValue = true ∧ 2 ≤ run.rspNum)

namespace ConnDoState

/-- The array of results after a number of successes: the second one makes
the object follow itself, and there is no third. -/
def ResultsAt (state : ConnDoState) : ℕ → Prop
  | 0 => state.results = none ∧ state.next jsExtend = none
  | 1 => state.results = some jsExtend ∧ state.next jsExtend = none
  | 2 => state.results = some jsExtend ∧ state.next jsExtend = some jsExtend
  | _ => False

/-- What `js_extend` is filled with. -/
def filled (runs : List (ConnThenInfo × ConnRun)) : ReportNode :=
  .object (runs.flatMap fun entry =>
    [("deviceSerial".toList, entry.1.actionTarget.1),
      ("execTime".toList, entry.2.execTime)])

structure Invariant (state : ConnDoState)
    (done : List (ConnThenInfo × ConnRun)) : Prop where
  calls : state.calls = done.map Prod.fst
  clean : ∀ entry ∈ done, entry.2.Clean
  succCount : state.succCount = (succeeded done).length
  failCount : state.failCount = (failures done).length
  fresh : state.fresh = (failures done).length + 1
  results : state.ResultsAt (succeeded done).length
  extended : state.content jsExtend = filled (succeeded done)
  chain : NodeChain.Chain state.next state.thenIds
    (List.range' 1 (failures done).length)
  ids : (List.range' 1 (failures done).length).map state.content =
    (failures done).map fun entry => .number entry.1.id

theorem initial_invariant : initial.Invariant [] where
  calls := rfl
  clean := fun _ hentry => absurd hentry List.not_mem_nil
  succCount := rfl
  failCount := rfl
  fresh := rfl
  results := ⟨rfl, rfl⟩
  extended := rfl
  chain := rfl
  ids := rfl

variable {fuel : ℕ} {state next : ConnDoState}
  {done : List (ConnThenInfo × ConnRun)} {info : ConnThenInfo} {run : ConnRun}

theorem jsExtend_not_mem (count : ℕ) : jsExtend ∉ List.range' 1 count := by
  rw [List.mem_range'_1]
  unfold jsExtend
  omega

theorem fresh_not_mem (hinv : state.Invariant done) :
    state.fresh ∉ List.range' 1 (failures done).length := by
  rw [List.mem_range'_1, hinv.fresh]
  omega

theorem filled_concat (runs : List (ConnThenInfo × ConnRun))
    (info : ConnThenInfo) (run : ConnRun) :
    ((filled runs).addString "deviceSerial".toList
        info.actionTarget.1).addString "execTime".toList run.execTime =
      filled (runs ++ [(info, run)]) := by
  simp [filled, ReportNode.addString]

theorem resultsAt_congr {count : ℕ} (hresults : next.results = state.results)
    (hnext : next.next jsExtend = state.next jsExtend)
    (hat : state.ResultsAt count) : next.ResultsAt count := by
  rcases count with _ | _ | _ | count
  · exact ⟨hresults.trans hat.1, hnext.trans hat.2⟩
  · exact ⟨hresults.trans hat.1, hnext.trans hat.2⟩
  · exact ⟨hresults.trans hat.1, hnext.trans hat.2⟩
  · exact hat.elim

/-- A success takes the array to its next shape. -/
theorem addResult_next {links : NodeChain.Links} {results : Option ℕ}
    {count : ℕ} (hresults : state.ResultsAt count)
    (happend : NodeChain.append fuel state.next state.results jsExtend =
      some (links, results)) :
    (∀ node ≠ jsExtend, links node = state.next node) ∧
      ResultsAt { state with next := links, results := results }
        (count + 1) := by
  rcases count with _ | _ | _ | count
  · rcases hresults with ⟨hnone, hend⟩
    rw [hnone, NodeChain.append, Option.some.injEq, Prod.mk.injEq] at happend
    rcases happend with ⟨rfl, rfl⟩
    exact ⟨fun _ _ => rfl, rfl, hend⟩
  · rcases hresults with ⟨hone, hend⟩
    rw [hone] at happend
    rcases NodeChain.append_only hend happend with ⟨rfl, rfl⟩
    constructor
    · intro node hnode
      rw [Function.update_of_ne hnode]
    · exact ⟨rfl, Function.update_self jsExtend (some jsExtend) state.next⟩
  · rcases hresults with ⟨htwo, hself⟩
    rw [htwo, NodeChain.append_of_self hself] at happend
    cases happend
  · exact hresults.elim

theorem success_keeps (hinv : state.Invariant done) (hclean : run.Clean)
    (hret : run.ret = 0)
    (hstep : ({ state with calls := state.calls ++ [info], ret := run.ret } :
      ConnDoState).addResult fuel info.actionTarget.1 run.execTime =
        .ok next) :
    next.Invariant (done ++ [(info, run)]) := by
  have hsucc : succeeded (done ++ [(info, run)]) =
      succeeded done ++ [(info, run)] := by
    rw [succeeded_concat, if_pos hret]
  have hfail : failures (done ++ [(info, run)]) = failures done := by
    rw [failures_concat, if_pos hret, List.append_nil]
  unfold addResult at hstep
  simp only at hstep
  split at hstep
  · cases hstep
  · next links results happend =>
      rcases addResult_next hinv.results happend with ⟨hlinks, hresults⟩
      rw [← Except.ok.inj hstep]
      exact {
        calls := by rw [List.map_append, ← hinv.calls]; rfl
        clean := by
          intro entry hentry
          rcases List.mem_append.mp hentry with hold | hnew
          · exact hinv.clean entry hold
          · rw [List.mem_singleton.mp hnew]
            exact hclean
        succCount := by
          rw [hsucc, List.length_append, ← hinv.succCount]
          rfl
        failCount := by rw [hfail]; exact hinv.failCount
        fresh := by rw [hfail]; exact hinv.fresh
        results := by
          rw [hsucc, List.length_append]
          exact hresults
        extended := by
          rw [hsucc]
          simp only [Function.update_self]
          rw [hinv.extended, filled_concat]
        chain := by
          rw [hfail]
          refine hinv.chain.congr ?_
          intro node hnode
          apply hlinks
          rintro rfl
          exact jsExtend_not_mem _ hnode
        ids := by
          rw [hfail, ← hinv.ids]
          apply List.map_congr_left
          intro node hnode
          apply Function.update_of_ne
          rintro rfl
          exact jsExtend_not_mem _ hnode }

theorem failure_keeps (hinv : state.Invariant done) (hclean : run.Clean)
    (hret : run.ret ≠ 0)
    (hstep : ({ state with calls := state.calls ++ [info], ret := run.ret } :
      ConnDoState).addFailure fuel info.id = .ok next) :
    next.Invariant (done ++ [(info, run)]) := by
  have hsucc : succeeded (done ++ [(info, run)]) = succeeded done := by
    rw [succeeded_concat, if_neg hret, List.append_nil]
  have hfail : failures (done ++ [(info, run)]) =
      failures done ++ [(info, run)] := by
    rw [failures_concat, if_neg hret]
  have hfresh := fresh_not_mem hinv
  have hcleared : NodeChain.Chain
      (Function.update state.next state.fresh none) state.thenIds
      (List.range' 1 (failures done).length) := by
    refine hinv.chain.congr ?_
    intro node hnode
    apply Function.update_of_ne
    rintro rfl
    exact hfresh hnode
  have hextend : jsExtend ≠ state.fresh := by
    rw [hinv.fresh]
    exact (Nat.succ_ne_zero _).symm
  have hrange : List.range' 1 (failures (done ++ [(info, run)])).length =
      List.range' 1 (failures done).length ++ [state.fresh] := by
    rw [hfail, List.length_append, List.length_singleton,
      List.range'_1_concat, hinv.fresh, Nat.add_comm]
  have hnodup : (List.range' 1 (failures done).length).Nodup :=
    List.nodup_range' 1
  unfold addFailure at hstep
  simp only at hstep
  split at hstep
  · cases hstep
  · next links thenIds happend =>
      rcases hcleared.append hnodup hfresh
        (Function.update_self state.fresh none state.next) happend with
        ⟨hchain, hlinks⟩
      have hsame : links jsExtend = state.next jsExtend := by
        rw [hlinks _ (jsExtend_not_mem _), Function.update_of_ne hextend]
      rw [← Except.ok.inj hstep]
      exact {
        calls := by rw [List.map_append, ← hinv.calls]; rfl
        clean := by
          intro entry hentry
          rcases List.mem_append.mp hentry with hold | hnew
          · exact hinv.clean entry hold
          · rw [List.mem_singleton.mp hnew]
            exact hclean
        succCount := by rw [hsucc]; exact hinv.succCount
        failCount := by
          rw [hfail, List.length_append, ← hinv.failCount]
          rfl
        fresh := by
          rw [hfail, List.length_append, List.length_singleton,
            ← hinv.fresh]
        results := by
          rw [hsucc]
          refine resultsAt_congr ?_ ?_ hinv.results
          · rfl
          · exact hsame
        extended := by
          rw [hsucc, ← hinv.extended]
          exact Function.update_of_ne hextend (.number info.id) state.content
        chain := by rw [hrange]; exact hchain
        ids := by
          rw [hrange, hfail, List.map_append, List.map_append, ← hinv.ids]
          refine congrArg₂ (· ++ ·) ?_ ?_
          · apply List.map_congr_left
            intro node hnode
            apply Function.update_of_ne
            rintro rfl
            exact hfresh hnode
          · rw [List.map_singleton, List.map_singleton]
            simp only [Function.update_self] }

/-- One pass that comes to its end. -/
theorem execute_keeps (hinv : state.Invariant done)
    {entry : ConnThenInfo × ConnRun}
    (hstep : state.execute fuel entry = .ok next) :
    next.Invariant (done ++ [entry]) := by
  rcases entry with ⟨info, run⟩
  unfold execute at hstep
  simp only at hstep
  split_ifs at hstep with hdouble hret
  · exact success_keeps hinv hdouble hret hstep
  · exact failure_keeps hinv hdouble hret hstep

theorem run_keeps {todo : List (ConnThenInfo × ConnRun)}
    (hinv : state.Invariant done)
    (hrun : todo.foldlM (execute fuel) state = .ok next) :
    next.Invariant (done ++ todo) := by
  induction todo generalizing done state with
  | nil =>
      rw [List.append_nil, ← Except.ok.inj hrun]
      exact hinv
  | cons entry rest ih =>
      rw [List.foldlM_cons] at hrun
      cases hstep : state.execute fuel entry with
      | error stop =>
          rw [hstep] at hrun
          cases hrun
      | ok middle =>
          rw [hstep] at hrun
          have hrest := ih (execute_keeps hinv hstep) hrun
          rw [List.append_assoc] at hrest
          exact hrest

/-- A pass comes to its end unless it is the second success. -/
theorem execute_isOk (hinv : state.Invariant done)
    {entry : ConnThenInfo × ConnRun} (hclean : entry.2.Clean)
    (hsucc : (succeeded (done ++ [entry])).length ≤ 1)
    (hfuel : done.length ≤ fuel) :
    ∃ next, state.execute fuel entry = .ok next := by
  rcases entry with ⟨info, run⟩
  unfold execute
  simp only
  rw [if_neg hclean]
  split_ifs with hret
  · have hnone : (succeeded done).length = 0 := by
      rw [succeeded_concat, if_pos hret, List.length_append,
        List.length_singleton] at hsucc
      omega
    have hresults := hinv.results
    rw [hnone] at hresults
    unfold addResult
    simp only [hresults.1, NodeChain.append]
    exact ⟨_, rfl⟩
  · have hcleared : NodeChain.Chain
        (Function.update state.next state.fresh none) state.thenIds
        (List.range' 1 (failures done).length) := by
      refine hinv.chain.congr ?_
      intro node hnode
      apply Function.update_of_ne
      rintro rfl
      exact fresh_not_mem hinv hnode
    have hlength : (List.range' 1 (failures done).length).length ≤ fuel := by
      rw [List.length_range']
      exact (List.length_filter_le _ _).trans hfuel
    rcases hcleared.append_isSome state.fresh hlength with
      ⟨⟨links, thenIds⟩, happend⟩
    unfold addFailure
    simp only [happend]
    exact ⟨_, rfl⟩

theorem run_isOk {todo : List (ConnThenInfo × ConnRun)}
    (hinv : state.Invariant done) (hclean : ∀ entry ∈ todo, entry.2.Clean)
    (hsucc : (succeeded (done ++ todo)).length ≤ 1)
    (hfuel : (done ++ todo).length ≤ fuel) :
    ∃ last, todo.foldlM (execute fuel) state = .ok last := by
  induction todo generalizing done state with
  | nil => exact ⟨state, rfl⟩
  | cons entry rest ih =>
      have happend : done ++ entry :: rest = done ++ [entry] ++ rest := by
        rw [List.append_assoc, List.singleton_append]
      rw [happend] at hsucc hfuel
      have hfirst : (succeeded (done ++ [entry])).length ≤ 1 := by
        rw [succeeded, List.filter_append, List.length_append] at hsucc
        exact (Nat.le_add_right _ _).trans hsucc
      have hdone : done.length ≤ fuel := by
        rw [List.length_append, List.length_append] at hfuel
        omega
      rcases execute_isOk hinv (hclean entry List.mem_cons_self) hfirst hdone
        with ⟨middle, hmiddle⟩
      rcases ih (execute_keeps hinv hmiddle)
        (fun later hlater => hclean later (List.mem_cons_of_mem _ hlater))
        hsucc hfuel with ⟨last, hlast⟩
      refine ⟨last, ?_⟩
      rw [List.foldlM_cons, hmiddle]
      exact hlast

/-! ## The two documents -/

/-- The array of the failures, as it is printed. -/
theorem printArray_thenIds (hinv : state.Invariant done)
    (hfuel : done.length ≤ fuel) :
    state.printArray fuel state.thenIds =
      .ok ((failures done).map fun entry => .number entry.1.id) := by
  have hlength : (List.range' 1 (failures done).length).length ≤ fuel := by
    rw [List.length_range']
    exact (List.length_filter_le _ _).trans hfuel
  rw [printArray, NodeChain.visited_of_chain hinv.chain hlength]
  simp only [hinv.ids]

/-- The array of one success. -/
theorem printArray_results (hinv : state.Invariant done)
    (hone : (succeeded done).length = 1) (hfuel : 0 < fuel) :
    state.printArray fuel state.results = .ok [filled (succeeded done)] := by
  have hresults := hinv.results
  rw [hone] at hresults
  have hchain : NodeChain.Chain state.next state.results [jsExtend] :=
    ⟨hresults.1, hresults.2⟩
  rw [printArray, NodeChain.visited_of_chain hchain hfuel]
  simp only [List.map_singleton, hinv.extended]

/-- The array of two successes has no end. -/
theorem printArray_endless (hinv : state.Invariant done)
    (htwo : 1 < (succeeded done).length) :
    state.printArray fuel state.results = .error .endless := by
  have hresults := hinv.results
  generalize (succeeded done).length = count at htwo hresults
  rcases count with _ | _ | _ | count
  · exact absurd htwo (by decide)
  · exact absurd htwo (by decide)
  · rw [printArray, hresults.1, NodeChain.visited_of_self hresults.2]
  · exact hresults.elim

end ConnDoState

namespace ConnDoState

variable {fuel : ℕ} {env : ConnDoEnv} {ruleId : ℤ} {state : ConnDoState}
  {done : List (ConnThenInfo × ConnRun)}

theorem execFails_of_invariant (hinv : state.Invariant done)
    (hfuel : done.length ≤ fuel) :
    ∃ fails, state.execFails fuel ruleId = .ok fails ∧
      fails.map ExecFails.thenIds =
        if failures done = [] then none
        else some ((failures done).map fun entry => .number entry.1.id) := by
  rw [execFails, hinv.failCount, printArray_thenIds hinv hfuel]
  by_cases hnone : failures done = []
  · rw [hnone, List.length_nil, if_pos rfl, if_pos rfl]
    exact ⟨none, rfl, rfl⟩
  · rw [if_neg hnone, if_neg (mt List.length_eq_zero_iff.mp hnone)]
    exact ⟨_, rfl, rfl⟩

/-- The object of one success carries one serial number. -/
theorem serials_filled (entry : ConnThenInfo × ConnRun) :
    (filled [entry]).serials = [entry.1.actionTarget.1] := by
  simp [filled, ReportNode.serials]

theorem execLogs_of_invariant (hinv : state.Invariant done)
    (hsucc : (succeeded done).length ≤ 1) (hfuel : 0 < fuel) :
    ∃ logs, state.execLogs fuel env ruleId = .ok logs ∧
      logs.map (fun doc => doc.thenResultInfoTo.map ReportNode.serials) =
        if succeeded done = [] then none
        else
          some ((succeeded done).map fun entry =>
            [entry.1.actionTarget.1]) := by
  rw [execLogs, hinv.succCount]
  by_cases hnone : succeeded done = []
  · rw [hnone, List.length_nil, if_pos rfl, if_pos rfl]
    exact ⟨none, rfl, rfl⟩
  · have hzero := mt List.length_eq_zero_iff.mp hnone
    have hone : (succeeded done).length = 1 := by omega
    rw [if_neg hnone, if_neg hzero, printArray_results hinv hone hfuel]
    refine ⟨_, rfl, ?_⟩
    rcases List.length_eq_one_iff.mp hone with ⟨entry, hentry⟩
    rw [hentry, Option.map_some, List.map_singleton, List.map_singleton,
      serials_filled]

/-- After two successes there is no first document. -/
theorem execLogs_endless (hinv : state.Invariant done)
    (htwo : 1 < (succeeded done).length) :
    state.execLogs fuel env ruleId = .error .endless := by
  have hcount : state.succCount ≠ 0 := by
    rw [hinv.succCount]
    omega
  rw [execLogs, if_neg hcount, printArray_endless hinv htwo]
  rfl

end ConnDoState

/-- A call that comes to its end has freed no value twice and has had one
success at most. -/
theorem connDo_ends {fuel : ℕ} {env : ConnDoEnv} {ruleId : ℤ}
    {runs : List (ConnThenInfo × ConnRun)} {reports : ConnReports}
    (hdo : connDo fuel env ruleId runs = .ok reports) :
    (succeeded runs).length ≤ 1 ∧ ∀ entry ∈ runs, entry.2.Clean := by
  unfold connDo at hdo
  cases hrun : runs.foldlM (ConnDoState.execute fuel) .initial with
  | error stop =>
      rw [hrun] at hdo
      cases hdo
  | ok state =>
      have hinv := ConnDoState.run_keeps ConnDoState.initial_invariant hrun
      rw [List.nil_append] at hinv
      refine ⟨?_, hinv.clean⟩
      by_contra hmany
      have hendless : state.execLogs fuel env ruleId = .error .endless :=
        ConnDoState.execLogs_endless hinv (Nat.lt_of_not_le hmany)
      rw [hrun] at hdo
      change (do let execLogs ← state.execLogs fuel env ruleId; _) = _ at hdo
      rw [hendless] at hdo
      cases hdo

/-- `conn_do` ends with the right reports exactly if at most one action
succeeds and no response value is freed twice. -/
theorem connDo_reports_iff (env : ConnDoEnv) (ruleId : ℤ)
    (runs : List (ConnThenInfo × ConnRun)) :
    ReportsRight env ruleId runs ↔
      (succeeded runs).length ≤ 1 ∧ ∀ entry ∈ runs, entry.2.Clean := by
  constructor
  · rintro ⟨fuel, reports, hdo, -⟩
    exact connDo_ends hdo
  · rintro ⟨hsucc, hclean⟩
    have hfuel : runs.length ≤ runs.length + 1 := Nat.le_succ _
    rcases ConnDoState.run_isOk ConnDoState.initial_invariant hclean hsucc
      hfuel with ⟨state, hrun⟩
    have hinv := ConnDoState.run_keeps ConnDoState.initial_invariant hrun
    rw [List.nil_append] at hinv
    rcases @ConnDoState.execLogs_of_invariant (runs.length + 1) env ruleId _ _
      hinv hsucc (Nat.succ_pos _) with ⟨logs, hlogs, hserials⟩
    rcases @ConnDoState.execFails_of_invariant (runs.length + 1) ruleId _ _
      hinv hfuel with ⟨fails, hfails, hids⟩
    refine ⟨runs.length + 1, ⟨state.ret, state.calls, logs, fails⟩, ?_,
      hinv.calls, hserials, hids⟩
    rw [connDo, hrun]
    change (do let execLogs ← state.execLogs _ env ruleId; _) = _
    rw [hlogs]
    change (do let execFails ← state.execFails _ ruleId; _) = _
    rw [hfails]
    rfl

/-- An action for a device that succeeds without a response. -/
def succeeding (target : CString) : ConnThenInfo × ConnRun :=
  ({ ConnThenInfo.cleared with
      actionTarget := .copied fortyEight_pos target },
    ⟨0, 0, false, "2021-01-01T00:00:00".toList⟩)

theorem two_successes_endless :
    ¬ ReportsRight ⟨"E1".toList, "G".toList, "2021-01-01T00:00:00".toList⟩ 1
      [succeeding "A".toList, succeeding "B".toList] := by
  rintro ⟨fuel, reports, hdo, -⟩
  have hends := connDo_ends hdo
  exact absurd hends.1 (by decide)

end EziotSdk

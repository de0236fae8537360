import EziotSdk.ShadowKeys
import EziotSdk.StepSystem

/-!
# Runs of the shadow

Registrations, pushes, resets, report passes, timer expiries and
acknowledgements in any order.  A report pass holds the module's lock from its
first key to its end, so nothing else that takes the lock comes between; the
numbers of the messages are never zero and never used twice.
-/

namespace EziotSdk

/-- `walk` is the place of the key that a report pass has come to, `seqs` the
numbers under which reports were sent. -/
structure ShadowState where
  devs : List NodeDev
  walk : Option ℕ
  seqs : List ℕ

inductive ShadowEvent where
  | register (res : ShadowRes) (domainId : CString)
      (props : List ShadowBusiness)
  | push (res : ShadowRes) (domainId pkey : CString)
      (value : Option ShadowValue)
  | reset
  | toSync
  | startReport
  | report (answer : ReportAnswer)
  | expire (place : ℕ)
  | ack (seq : ℕ) (code : ℤ)

namespace ShadowState

def init : ShadowState := ⟨[], none, []⟩

def keys (state : ShadowState) : List NodeKey := treeKeys state.devs

/-- The key to which the report pass has come. -/
def current (state : ShadowState) : Option NodeKey :=
  state.walk.bind fun place => state.keys[place]?

/-- The key which the handler of an acknowledgement finds. -/
def addressee (seq : ℕ) (state : ShadowState) : Option NodeKey :=
  state.keys.find? fun node => node.msgSeq = seq

/-- One call of `do_report` in the loop of `shadow_proc_report`. -/
def reportAt (parse : CString → Option BscJson) (answer : ReportAnswer)
    (place : ℕ) (key : NodeKey) (state : ShadowState) : Option ShadowState :=
  let devs := modifyKey (fun node => (node.doReport parse answer).2) place
    state.devs
  match (key.doReport parse answer).1 with
  | .failed => some { state with devs := devs, walk := none }
  | .sent seq =>
      if seq ≠ 0 ∧ seq ∉ state.seqs then
        some ⟨devs, some (place + 1), seq :: state.seqs⟩
      else none
  | _ => some { state with devs := devs, walk := some (place + 1) }

/-- An event that takes the lock. -/
def locked (change : List NodeDev → List NodeDev) (state : ShadowState) :
    Option ShadowState :=
  if state.walk = none then
    some { state with devs := change state.devs }
  else none

def step (parse : CString → Option BscJson) (devSubserial : CString)
    (state : ShadowState) : ShadowEvent → Option ShadowState
  | .register res domainId props =>
      state.locked fun devs =>
        (shadowCoreModuleAddv3 devSubserial res domainId props devs).2
  | .push res domainId pkey value =>
      state.locked fun devs =>
        (shadowCorePropertieChanged parse devSubserial res domainId pkey
          value devs).2
  | .reset => state.locked shadowStatusReset
  | .toSync => state.locked shadowStatus2sync
  | .startReport =>
      if state.walk = none then some { state with walk := some 0 } else none
  | .report answer =>
      match state.walk with
      | none => none
      | some place =>
          match state.keys[place]? with
          | none => some { state with walk := none }
          | some key => state.reportAt parse answer place key
  | .expire place =>
      match state.keys[place]? with
      | none => none
      | some _ => some { state with
          devs := modifyKey NodeKey.expire place state.devs }
  | .ack seq code =>
      state.locked fun devs =>
        shadowReply2report seq code (recordAck seq code devs)

variable {parse : CString → Option BscJson} {devSubserial : CString}
  {state next : ShadowState} {key : NodeKey} {change : List NodeDev → List NodeDev}

theorem locked_eq_some (hlocked : state.locked change = some next) :
    state.walk = none ∧ next = { state with devs := change state.devs } := by
  unfold locked at hlocked
  split_ifs at hlocked with hwalk
  exact ⟨hwalk, (Option.some.inj hlocked).symm⟩

theorem locked_of_walk_eq_none (hwalk : state.walk = none)
    (change : List NodeDev → List NodeDev) :
    state.locked change = some { state with devs := change state.devs } :=
  if_pos hwalk

/-- What one call of `do_report` changes in a run. -/
theorem reportAt_cases {answer : ReportAnswer} {place : ℕ}
    (hreport : state.reportAt parse answer place key = some next) :
    next.devs = modifyKey (fun node => (node.doReport parse answer).2) place
        state.devs ∧
      ((next.seqs = state.seqs ∧
          ∀ seq, (key.doReport parse answer).1 ≠ .sent seq) ∨
        ∃ seq, (key.doReport parse answer).1 = .sent seq ∧ seq ≠ 0 ∧
          seq ∉ state.seqs ∧ next.seqs = seq :: state.seqs) := by
  unfold reportAt at hreport
  cases hresult : (key.doReport parse answer).1 with
  | idle | waiting | failed =>
      rw [hresult] at hreport
      rw [← Option.some.inj hreport]
      exact ⟨rfl, Or.inl ⟨rfl, nofun⟩⟩
  | sent seq =>
      rw [hresult] at hreport
      dsimp only at hreport
      split_ifs at hreport with hfresh
      rw [← Option.some.inj hreport]
      exact ⟨rfl, Or.inr ⟨seq, rfl, hfresh.1, hfresh.2, rfl⟩⟩

theorem current_eq_some (hcurrent : state.current = some key) :
    ∃ place, state.walk = some place ∧ state.keys[place]? = some key :=
  Option.bind_eq_some_iff.mp hcurrent

theorem step_report_of_current
    (parse : CString → Option BscJson) (devSubserial : CString)
    (answer : ReportAnswer) (hcurrent : state.current = some key) :
    ∃ place, state.keys[place]? = some key ∧
      state.step parse devSubserial (.report answer) =
        state.reportAt parse answer place key := by
  rcases current_eq_some hcurrent with ⟨place, hwalk, hget⟩
  refine ⟨place, hget, ?_⟩
  simp only [step, hwalk, hget]

theorem replaces_reportAt {answer : ReportAnswer} {place : ℕ}
    (hget : state.keys[place]? = some key)
    (hreport : state.reportAt parse answer place key = some next) :
    NodeLists.Replaces key (key.doReport parse answer).2 state.keys
      next.keys := by
  unfold keys
  rw [(reportAt_cases hreport).1]
  exact replaces_modifyKey (fun node => (node.doReport parse answer).2) hget

/-- The keys after an acknowledgement with code 0. -/
theorem keys_ack {seq : ℕ} (hstep :
    state.step parse devSubserial (.ack seq 0) = some next) :
    next.keys = FirstMatch.updateFirst (fun node => node.msgSeq = seq)
      (NodeKey.replied seq 0)
      (state.keys.map (NodeKey.acknowledged seq)) := by
  simp only [step] at hstep
  rw [(locked_eq_some hstep).2]
  unfold keys
  rw [shadowReply2report, treeKeys_updateKey, treeKeys_recordAck]

theorem find?_acknowledged {seq : ℕ} :
    (state.keys.map (NodeKey.acknowledged seq)).find?
        (fun node => node.msgSeq = seq) =
      (state.addressee seq).map (NodeKey.acknowledged seq) :=
  List.find?_map

/-- The rule for a property of every key: each way in which a step changes a
key keeps it. -/
theorem forall_keys_of_step (property : NodeKey → Prop)
    {event : ShadowEvent}
    (hstep : state.step parse devSubserial event = some next)
    (hregistered : ∀ business node, property node →
      property (NodeKey.registered business node))
    (hcreate : ∀ business, property (NodeKey.create business))
    (hpushed : ∀ value node, property node →
      property (NodeKey.pushed parse value node))
    (hreset : ∀ node, property node → property node.reset)
    (hexpire : ∀ node, property node → property node.expire)
    (hreport : ∀ answer node, event = .report answer →
      state.current = some node → property node →
      (∀ seq, (node.doReport parse answer).1 = .sent seq → seq ≠ 0) →
        property (node.doReport parse answer).2)
    (hacknowledged : ∀ seq node, property node →
      property (node.acknowledged seq))
    (hcleared : ∀ seq node, event = .ack seq 0 →
      state.addressee seq = some node → property node →
        property ((node.acknowledged seq).replied seq 0))
    (hrefused : ∀ seq code node, code ≠ 0 → property node →
      property (node.replied seq code))
    (hall : ∀ node ∈ state.keys, property node) :
    ∀ node ∈ next.keys, property node := by
  cases event with
  | register res domainId props =>
      simp only [step] at hstep
      rw [(locked_eq_some hstep).2]
      exact forall_shadowCoreModuleAddv3 hregistered hcreate devSubserial res
        domainId props hall
  | push res domainId pkey value =>
      simp only [step] at hstep
      rw [(locked_eq_some hstep).2]
      unfold keys
      cases hfind : findKey (res.keyName devSubserial domainId pkey)
          state.devs with
      | none =>
          rw [shadowCorePropertieChanged_of_none value hfind]
          exact hall
      | some found =>
          rw [shadowCorePropertieChanged_of_some value hfind]
          have hreplaces := replaces_changeKey (NodeKey.pushed parse value)
            hfind
          exact hreplaces.forall_mem hall
            (hpushed value found (hall found hreplaces.old_mem))
  | reset =>
      rw [(locked_eq_some hstep).2]
      unfold keys
      rw [treeKeys_shadowStatusReset]
      intro node hmem
      rcases List.mem_map.mp hmem with ⟨old, hold, heq⟩
      rw [← heq]
      exact hreset old (hall old hold)
  | toSync =>
      rw [(locked_eq_some hstep).2]
      unfold keys
      rw [treeKeys_shadowStatus2sync]
      exact hall
  | startReport =>
      unfold step at hstep
      split_ifs at hstep with hwalk
      rw [← Option.some.inj hstep]
      exact hall
  | report answer =>
      cases hcurrent : state.current with
      | none =>
          unfold step at hstep
          cases hwalk : state.walk with
          | none => simp only [hwalk] at hstep; cases hstep
          | some place =>
              have hget : state.keys[place]? = none := by
                rw [current, hwalk] at hcurrent
                exact hcurrent
              simp only [hwalk, hget, Option.some.injEq] at hstep
              rw [← hstep]
              exact hall
      | some node =>
          rcases step_report_of_current parse devSubserial answer hcurrent
            with ⟨place, hget, hreportAt⟩
          rw [hreportAt] at hstep
          have hreplaces := replaces_reportAt hget hstep
          apply hreplaces.forall_mem hall
          apply hreport answer node rfl hcurrent
            (hall node hreplaces.old_mem)
          intro seq hsent
          rcases (reportAt_cases hstep).2 with ⟨-, hnot⟩ |
            ⟨used, hused, hne, -, -⟩
          · exact absurd hsent (hnot seq)
          · rw [hused] at hsent
            cases hsent
            exact hne
  | expire place =>
      unfold step at hstep
      cases hget : state.keys[place]? with
      | none => simp only [hget] at hstep; cases hstep
      | some node =>
          simp only [hget, Option.some.injEq] at hstep
          rw [← hstep]
          have hreplaces := replaces_modifyKey NodeKey.expire hget
          exact hreplaces.forall_mem hall
            (hexpire node (hall node hreplaces.old_mem))
  | ack seq code =>
      by_cases hcode : code = 0
      · rw [hcode] at hstep hcleared
        rw [keys_ack hstep]
        intro node hmem
        rcases FirstMatch.mem_updateFirst hmem with hold | ⟨found, hfind, heq⟩
        · rcases List.mem_map.mp hold with ⟨old, hmemold, heq⟩
          rw [← heq]
          exact hacknowledged seq old (hall old hmemold)
        · rw [find?_acknowledged] at hfind
          rcases Option.map_eq_some_iff.mp hfind with ⟨old, hold, hfound⟩
          rw [heq, ← hfound]
          exact hcleared seq old rfl hold
            (hall old (List.mem_of_find?_eq_some hold))
      · simp only [step] at hstep
        rw [(locked_eq_some hstep).2]
        unfold keys
        rw [recordAck, if_neg hcode, shadowReply2report, treeKeys_updateKey]
        intro node hmem
        rcases FirstMatch.mem_updateFirst hmem with hold | ⟨found, hfind, heq⟩
        · exact hall node hold
        · rw [heq]
          exact hrefused seq code found hcode
            (hall found (List.mem_of_find?_eq_some hfind))

end ShadowState

end EziotSdk

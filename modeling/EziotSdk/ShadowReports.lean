import EziotSdk.ShadowRuns

/-!
# Updates and acknowledgements

Two promises about the flag that asks for a report.  The last push of a key
asks until it was sent in an acknowledged report; a reset or a repeated
registration asks until a report which was sent afterwards is acknowledged.
Both are promises of one key, so one key's invariant carries each.
-/

namespace EziotSdk

variable {parse : CString → Option BscJson} {devSubserial : CString}
  {state next : ShadowState} {node : NodeKey}

/-! ## The last push -/

namespace KeyTrace

/-- The report was built after the last push, and from its value if the push
had one. -/
def Carried (trace : KeyTrace) (report : ShadowReport) : Prop :=
  report.pushes = trace.pushes ∧
    ∀ value, trace.value = some value → report.json = value

/-- The last push, if there was one, was sent in an acknowledged report. -/
def Delivered (trace : KeyTrace) : Prop :=
  trace.pushes = 0 ∨
    ∃ report ∈ trace.reports, report.acked = true ∧ trace.Carried report

/-- Reports that stay as they are, or of which more is known. -/
theorem Delivered.mono {trace later : KeyTrace}
    (hdelivered : trace.Delivered) (hpushes : later.pushes = trace.pushes)
    (hvalue : later.value = trace.value)
    (hreports : ∀ report ∈ trace.reports, report.acked = true →
      ∃ kept ∈ later.reports, kept.acked = true ∧
        kept.pushes = report.pushes ∧ kept.json = report.json) :
    later.Delivered := by
  rcases hdelivered with hnever | ⟨report, hmem, hacked, hcarried⟩
  · exact Or.inl (hpushes.trans hnever)
  · rcases hreports report hmem hacked with ⟨kept, hkept, hstill, heq, hjson⟩
    refine Or.inr ⟨kept, hkept, hstill, ?_, ?_⟩
    · rw [heq, hpushes]
      exact hcarried.1
    · intro value hsome
      rw [hjson]
      exact hcarried.2 value (hvalue ▸ hsome)

theorem Delivered.acknowledged {trace : KeyTrace} (seq : ℕ)
    (hdelivered : trace.Delivered) : (trace.acknowledged seq).Delivered := by
  refine hdelivered.mono rfl rfl ?_
  intro report hmem hacked
  refine ⟨report.acknowledge seq, List.mem_map_of_mem hmem, ?_, ?_, ?_⟩
  · simp [hacked]
  · simp
  · simp

theorem Delivered.settled {trace : KeyTrace} (seq : ℕ) (lost : Bool)
    (hdelivered : trace.Delivered) :
    (trace.settled seq lost).Delivered := by
  refine hdelivered.mono rfl rfl ?_
  intro report hmem hacked
  refine ⟨report.settle seq, List.mem_map_of_mem hmem, ?_, ?_, ?_⟩
  · simp [hacked]
  · simp
  · simp

end KeyTrace

namespace NodeKey

/-- The flag is clear only once the last push was delivered, and no
acknowledgement took anything away that was not one of its reports. -/
structure UpdateKept (node : NodeKey) : Prop where
  delivered : node.needReport = false → node.trace.Delivered
  grounded : node.trace.misacked = false

/-- The stored number is that of a report built after the last push, and the
cached value is that of the last push. -/
structure ReportSound (node : NodeKey) : Prop extends node.UpdateKept where
  numbered : ∀ report ∈ node.trace.reports, report.seq ≠ 0
  outstanding : node.msgSeq ≠ 0 → ∃ report ∈ node.trace.reports,
    report.seq = node.msgSeq ∧ report.pushes = node.trace.pushes ∧
      (node.trace.Carried report ∨ node.trace.Delivered)
  cached : ∀ value, node.jsonValue = some value →
    node.trace.value = some value
  uncached : node.jsonValue = none →
    node.trace.value = none ∨ node.trace.Delivered

namespace ReportSound

theorem create (business : ShadowBusiness) :
    (NodeKey.create business).ReportSound where
  delivered := nofun
  grounded := rfl
  numbered := nofun
  outstanding := fun hseq => absurd rfl hseq
  cached := nofun
  uncached := fun _ => Or.inl rfl

theorem registered (business : ShadowBusiness) (hsound : node.ReportSound) :
    (NodeKey.registered business node).ReportSound :=
  { hsound with delivered := nofun }

theorem reset (hsound : node.ReportSound) : node.reset.ReportSound :=
  { hsound with delivered := nofun }

theorem pushed (value : Option ShadowValue) (hsound : node.ReportSound) :
    (NodeKey.pushed parse value node).ReportSound where
  delivered := nofun
  grounded := hsound.grounded
  numbered := hsound.numbered
  outstanding := fun hseq => absurd rfl hseq
  cached := fun _ hvalue => hvalue
  uncached := fun hnone => Or.inl hnone

theorem timed (timer : ShadowTimer) (hsound : node.ReportSound) :
    ReportSound { node with timer := timer } :=
  { hsound with }

theorem expire (hsound : node.ReportSound) : node.expire.ReportSound := by
  unfold NodeKey.expire
  split_ifs
  · exact hsound.timed .expired
  · exact hsound

theorem acknowledged (seq : ℕ) (hsound : node.ReportSound) :
    (node.acknowledged seq).ReportSound where
  delivered := fun hclear => (hsound.delivered hclear).acknowledged seq
  grounded := hsound.grounded
  numbered := by
    intro report hmem
    rcases List.mem_map.mp hmem with ⟨old, hold, heq⟩
    rw [← heq, ShadowReport.acknowledge_seq]
    exact hsound.numbered old hold
  outstanding := by
    intro hseq
    rcases hsound.outstanding hseq with
      ⟨report, hmem, hnumber, hpushes, hvalue⟩
    refine ⟨report.acknowledge seq, List.mem_map_of_mem hmem, ?_, ?_, ?_⟩
    · rw [ShadowReport.acknowledge_seq]
      exact hnumber
    · rw [ShadowReport.acknowledge_pushes]
      exact hpushes
    · rcases hvalue with hcarried | hdelivered
      · left
        unfold KeyTrace.Carried
        rw [ShadowReport.acknowledge_pushes, ShadowReport.acknowledge_json]
        exact hcarried
      · exact Or.inr (hdelivered.acknowledged seq)
  cached := hsound.cached
  uncached := fun hnone =>
    (hsound.uncached hnone).imp id fun hdelivered =>
      hdelivered.acknowledged seq

theorem refused {seq : ℕ} {code : ℤ} (hcode : code ≠ 0)
    (hsound : node.ReportSound) : (node.replied seq code).ReportSound := by
  unfold NodeKey.replied
  rw [if_neg hcode]
  exact { hsound with outstanding := fun hseq => absurd rfl hseq }

/-- A pass that gives up a key whose last push is delivered. -/
theorem givenUp (hdelivered : node.trace.Delivered)
    (hsound : node.ReportSound) :
    ReportSound { node with timer := .none, needReport := false } :=
  { hsound with delivered := fun _ => hdelivered }

theorem reported {json : BscJson} {seq : ℕ} (hseq : seq ≠ 0)
    (hneed : node.needReport = true)
    (hjson : ∀ value, node.jsonValue = some value → json = value)
    (hsound : node.ReportSound) :
    (node.reported json seq).ReportSound := by
  have hdelivered (hold : node.trace.Delivered) :
      (node.reported json seq).trace.Delivered := by
    refine hold.mono rfl rfl ?_
    intro report hmem hacked
    exact ⟨report, List.mem_append_left _ hmem, hacked, rfl, rfl⟩
  refine
    { delivered := fun hclear => absurd (hneed.symm.trans hclear) nofun
      grounded := hsound.grounded
      numbered := ?_
      outstanding := ?_
      cached := hsound.cached
      uncached := fun hnone => (hsound.uncached hnone).imp id hdelivered }
  · intro report hmem
    rcases List.mem_append.mp hmem with hold | hnew
    · exact hsound.numbered report hold
    · rw [List.mem_singleton.mp hnew]
      exact hseq
  · intro _
    refine ⟨_, List.mem_append_right _ List.mem_cons_self, rfl, rfl, ?_⟩
    cases hcached : node.jsonValue with
    | some value =>
        left
        refine ⟨rfl, ?_⟩
        intro pushed hpushed
        have hvalue : (node.reported json seq).trace.value = some value :=
          hsound.cached value hcached
        rw [hvalue, Option.some.injEq] at hpushed
        exact (hjson value hcached).trans hpushed
    | none =>
        rcases hsound.uncached hcached with hnone | hold
        · left
          refine ⟨rfl, ?_⟩
          intro pushed hpushed
          exact nomatch hnone.symm.trans hpushed
        · exact Or.inr (hdelivered hold)

/-- An acknowledgement that finds nothing to take away. -/
theorem replied_idle (hneed : node.needReport = false)
    (hjson : node.jsonValue = none) (hsound : node.ReportSound) (seq : ℕ) :
    (node.replied seq 0).ReportSound := by
  have hnumbered : ∀ report ∈ (node.trace.settled seq false).reports,
      report.seq ≠ 0 := by
    intro report hmem
    rcases List.mem_map.mp hmem with ⟨old, hold, heq⟩
    rw [← heq, ShadowReport.settle_seq]
    exact hsound.numbered old hold
  unfold NodeKey.replied
  rw [if_pos rfl, hneed, hjson]
  exact
    { delivered := fun _ => (hsound.delivered hneed).settled seq false
      grounded := by
        simpa [KeyTrace.settled] using hsound.grounded
      numbered := hnumbered
      outstanding := fun hseq => absurd rfl hseq
      cached := nofun
      uncached := fun _ =>
        Or.inr ((hsound.delivered hneed).settled seq false) }

/-- The acknowledgement whose number the key has stored. -/
theorem replied_outstanding {seq : ℕ} (hseq : seq ≠ 0)
    (hmatch : node.msgSeq = seq) (hsound : node.ReportSound) :
    ((node.acknowledged seq).replied seq 0).ReportSound := by
  have hacked := hsound.acknowledged seq
  rcases hsound.outstanding (hmatch ▸ hseq) with
    ⟨report, hmem, hnumber, hpushes, hvalue⟩
  rw [hmatch] at hnumber
  have hreport : report.acknowledge seq ∈
      (node.acknowledged seq).trace.reports := List.mem_map_of_mem hmem
  have hdelivered : (node.acknowledged seq).trace.Delivered := by
    rcases hvalue with hcarried | hdelivered
    · refine Or.inr ⟨report.acknowledge seq, hreport, ?_, ?_, ?_⟩
      · simp [hnumber]
      · rw [ShadowReport.acknowledge_pushes]
        exact hcarried.1
      · rw [ShadowReport.acknowledge_json]
        exact hcarried.2
    · exact hdelivered.acknowledged seq
  have hgrounded : ((node.acknowledged seq).trace.reports.any fun report =>
      report.seq = seq &&
        report.pushes = (node.acknowledged seq).trace.pushes) = true := by
    refine List.any_eq_true.mpr ⟨report.acknowledge seq, hreport, ?_⟩
    rw [ShadowReport.acknowledge_seq, ShadowReport.acknowledge_pushes]
    simpa using ⟨hnumber, hpushes⟩
  unfold NodeKey.replied
  rw [if_pos rfl]
  refine
    { delivered := fun _ => hdelivered.settled seq _
      grounded := ?_
      numbered := ?_
      outstanding := fun hzero => absurd rfl hzero
      cached := nofun
      uncached := fun _ => Or.inr (hdelivered.settled seq _) }
  · simp only [KeyTrace.settled, hgrounded, Bool.not_true, Bool.and_false,
      Bool.or_false]
    exact hacked.grounded
  · intro report hmem
    rcases List.mem_map.mp hmem with ⟨old, hold, heq⟩
    rw [← heq, ShadowReport.settle_seq]
    exact hacked.numbered old hold

end ReportSound

/-- A number of no report takes something away. -/
theorem misacked_replied_zero (hsound : node.ReportSound)
    (hlost : ¬ (node.needReport = false ∧ node.jsonValue = none)) :
    ((node.acknowledged 0).replied 0 0).trace.misacked = true := by
  have hnone : ((node.acknowledged 0).trace.reports.any fun report =>
      report.seq = 0 &&
        report.pushes = (node.acknowledged 0).trace.pushes) = false := by
    rw [List.any_eq_false]
    intro report hmem
    have hseq := (hsound.acknowledged 0).numbered report hmem
    simp [hseq]
  have htaken : ((node.acknowledged 0).needReport ||
      (node.acknowledged 0).jsonValue.isSome) = true := by
    rw [Bool.or_eq_true, Option.isSome_iff_ne_none]
    by_contra hkept
    rw [not_or, Bool.not_eq_true, not_not] at hkept
    exact hlost hkept
  unfold NodeKey.replied
  rw [if_pos rfl]
  simp only [KeyTrace.settled, htaken, hnone, Bool.not_false, Bool.and_self,
    Bool.or_true]

end NodeKey

namespace ShadowState

/-- The steps that keep the last pushes: an acknowledgement with the number 0
finds nothing to take away, and a key is given up only after its last push was
delivered. -/
def PushKept (state : ShadowState) : ShadowEvent → Prop
  | .report answer => ∀ node, state.current = some node →
      node.dropped answer = true → node.trace.Delivered
  | .ack seq code => state.walk = none → seq = 0 → code = 0 →
      ∀ node, state.addressee seq = some node →
        node.needReport = false ∧ node.jsonValue = none
  | _ => True

/-- The key that an acknowledgement with code 0 clears. -/
theorem replied_mem_of_ack {seq : ℕ}
    (haddressee : state.addressee seq = some node)
    (hstep : state.step parse devSubserial (.ack seq 0) = some next) :
    (node.acknowledged seq).replied seq 0 ∈ next.keys := by
  rw [keys_ack hstep]
  apply FirstMatch.change_mem_updateFirst
  rw [find?_acknowledged, haddressee]
  rfl

theorem step_ack_of_walk_eq_none
    (parse : CString → Option BscJson) (devSubserial : CString)
    (hwalk : state.walk = none) (seq : ℕ) (code : ℤ) :
    ∃ next, state.step parse devSubserial (.ack seq code) = some next := by
  simp only [step]
  exact ⟨_, locked_of_walk_eq_none hwalk _⟩

theorem step_report_of_dropped
    (parse : CString → Option BscJson) (devSubserial : CString)
    {answer : ReportAnswer} (hcurrent : state.current = some node)
    (hdropped : node.dropped answer = true) :
    ∃ next, state.step parse devSubserial (.report answer) = some next ∧
      { node with timer := .none, needReport := false } ∈ next.keys := by
  have hresult := node.doReport_of_dropped parse hdropped
  rcases step_report_of_current parse devSubserial answer hcurrent with
    ⟨place, hget, hreportAt⟩
  have hsome : ∃ next, state.reportAt parse answer place node = some next := by
    simp only [reportAt, hresult]
    exact ⟨_, rfl⟩
  rcases hsome with ⟨next, hnext⟩
  refine ⟨next, hreportAt.trans hnext, ?_⟩
  have hmem := (replaces_reportAt hget hnext).new_mem
  rw [hresult] at hmem
  exact hmem

theorem reportSound_step {event : ShadowEvent}
    (hsound : ∀ node ∈ state.keys, node.ReportSound)
    (hkept : state.PushKept event)
    (hstep : state.step parse devSubserial event = some next) :
    ∀ node ∈ next.keys, node.ReportSound := by
  have hwalk (seq : ℕ) (heq : event = .ack seq 0) : state.walk = none := by
    rw [heq] at hstep
    simp only [step] at hstep
    exact (locked_eq_some hstep).1
  apply forall_keys_of_step NodeKey.ReportSound hstep
  · exact fun business node => NodeKey.ReportSound.registered business
  · exact NodeKey.ReportSound.create
  · exact fun value node => NodeKey.ReportSound.pushed value
  · exact fun node => NodeKey.ReportSound.reset
  · exact fun node => NodeKey.ReportSound.expire
  · intro answer node heq hcurrent hnode hfresh
    rcases node.doReport_cases parse answer with
      ⟨result, timer, hresult, -, -⟩ | ⟨hdropped, hresult⟩ |
      ⟨seq, json, hneed, -, hjson, hresult⟩
    · rw [hresult]
      exact hnode.timed timer
    · rw [hresult]
      rw [heq] at hkept
      exact hnode.givenUp (hkept node hcurrent hdropped)
    · rw [hresult]
      have hseq : seq ≠ 0 := hfresh seq (by rw [hresult])
      exact (hnode.timed .none).reported hseq hneed hjson
  · exact fun seq node => NodeKey.ReportSound.acknowledged seq
  · intro seq node heq haddressee hnode
    have hmatch : node.msgSeq = seq := by
      simpa [addressee] using List.find?_some haddressee
    by_cases hseq : seq = 0
    · rw [heq, hseq] at hkept
      rw [hseq] at haddressee ⊢
      have hidle : (node.acknowledged 0).needReport = false ∧
          (node.acknowledged 0).jsonValue = none :=
        hkept (hwalk seq heq) rfl rfl node haddressee
      exact (hnode.acknowledged 0).replied_idle hidle.1 hidle.2 0
    · exact hnode.replied_outstanding hseq hmatch
  · exact fun seq code node hcode => NodeKey.ReportSound.refused hcode
  · exact hsound

theorem updateLost_of_not_pushKept {event : ShadowEvent}
    (hsound : ∀ node ∈ state.keys, node.ReportSound)
    (hnot : ¬ state.PushKept event) :
    ∃ next, state.step parse devSubserial event = some next ∧
      ¬ ∀ node ∈ next.keys, node.UpdateKept := by
  cases event with
  | report answer =>
      simp only [PushKept, not_forall] at hnot
      rcases hnot with ⟨node, hcurrent, hdropped, hlost⟩
      rcases step_report_of_dropped parse devSubserial hcurrent hdropped with
        ⟨next, hstep, hmem⟩
      refine ⟨next, hstep, ?_⟩
      intro hall
      exact hlost ((hall _ hmem).delivered rfl)
  | ack seq code =>
      simp only [PushKept, not_forall] at hnot
      rcases hnot with ⟨hwalk, hseq, hcode, node, haddressee, hlost⟩
      rw [hseq] at haddressee
      rw [hseq, hcode]
      rcases step_ack_of_walk_eq_none parse devSubserial hwalk 0 0 with
        ⟨next, hstep⟩
      refine ⟨next, hstep, ?_⟩
      intro hall
      have hmem := replied_mem_of_ack haddressee hstep
      have hnode := hsound node (List.mem_of_find?_eq_some haddressee)
      have hmisacked := NodeKey.misacked_replied_zero hnode hlost
      exact absurd ((hall _ hmem).grounded.symm.trans hmisacked) nofun
  | register | push | reset | toSync | startReport | expire =>
      exact absurd trivial hnot

/-- Along a run every last push is reported until it is acknowledged, exactly
if the steps keep the last pushes. -/
theorem updateKept_along_iff_pushKept
    (parse : CString → Option BscJson) (devSubserial : CString)
    (events : List ShadowEvent) :
    StepSystem.Along (step parse devSubserial)
        (fun state => ∀ node ∈ state.keys, node.UpdateKept) init events ↔
      StepSystem.StepsMeet (step parse devSubserial) PushKept init events := by
  have hkeep : ∀ state event next,
      (∀ node ∈ keys state, node.ReportSound) → PushKept state event →
      step parse devSubserial state event = some next →
        ∀ node ∈ next.keys, node.ReportSound :=
    fun _ _ _ hsound hkept hstep => reportSound_step hsound hkept hstep
  have hbreak : ∀ state event,
      (∀ node ∈ keys state, node.ReportSound) → ¬ PushKept state event →
        ∃ next, step parse devSubserial state event = some next ∧
          ¬ ∀ node ∈ next.keys, node.UpdateKept :=
    fun _ _ hsound hnot => updateLost_of_not_pushKept hsound hnot
  have hstart : ∀ node ∈ init.keys, node.ReportSound := nofun
  apply StepSystem.along_iff_stepsMeet _ hkeep hbreak hstart
  intro state hsound node hmem
  exact (hsound node hmem).toUpdateKept

/-- A switch of the main device. -/
def sampleRes : ShadowRes where
  devSerial := storedName 72 "global".toList ShadowRes.devSerial_pos
  resType := storedName 64 "Switch".toList ShadowRes.resType_pos
  localIndex := 0

def sampleBusiness : ShadowBusiness where
  key := storedName 64 "on".toList ShadowBusiness.key_pos
  business2dev := some 0
  business2cloud := some 1

def sampleRegister : ShadowEvent :=
  .register sampleRes "Power".toList [sampleBusiness]

def samplePush : ShadowEvent :=
  .push sampleRes "Power".toList "on".toList (some ⟨.bool 1, 4⟩)

/-- An acknowledgement with the number 0 finds the pushed key, of which
nothing was sent yet. -/
theorem ack_zero_loses_push :
    ¬ StepSystem.Along (step (fun _ => none) [])
      (fun state => ∀ node ∈ state.keys, node.UpdateKept) init
      [sampleRegister, samplePush, .ack 0 0] := by
  intro halong
  have hsome : (StepSystem.exec (step (fun _ => none) []) init
      [sampleRegister, samplePush, .ack 0 0]).any (fun last =>
        last.keys.any fun node => node.trace.misacked) = true := by
    decide +kernel
  rcases (Option.any_eq_true _ _).mp hsome with ⟨last, hexec, hlost⟩
  rcases List.any_eq_true.mp hlost with ⟨node, hmem, hmisacked⟩
  have hkept := halong _ [] last (List.append_nil _).symm hexec node hmem
  exact absurd (hkept.grounded.symm.trans hmisacked) nofun

end ShadowState

/-! ## Resets and repeated registrations -/

namespace NodeKey

/-- Since the last mark, a report was sent and its acknowledgement cleared the
key. -/
def Answered (node : NodeKey) : Prop :=
  ∀ count, node.trace.marked = some count →
    ∃ report ∈ node.trace.reports.drop count, report.settled = true

/-- The number belongs to a report that was sent after the last mark. -/
def SentSince (seq : ℕ) (node : NodeKey) : Prop :=
  ∀ count, node.trace.marked = some count →
    ∃ report ∈ node.trace.reports.drop count, report.seq = seq

/-- A marked key asks for a report until one sent since is acknowledged. -/
def MarkKept (node : NodeKey) : Prop :=
  node.needReport = false → node.Answered

theorem drop_reports_cleared (seq count : ℕ) (node : NodeKey) :
    ((node.acknowledged seq).replied seq 0).trace.reports.drop count =
      (node.trace.reports.drop count).map fun report =>
        (report.acknowledge seq).settle seq := by
  rw [replied, if_pos rfl]
  simp only [acknowledged, KeyTrace.settled, KeyTrace.acknowledged,
    List.map_map, ← List.map_drop]
  rfl

theorem answered_cleared_iff (seq : ℕ) (node : NodeKey) :
    ((node.acknowledged seq).replied seq 0).Answered ↔
      node.Answered ∨ node.SentSince seq := by
  have hmarked : ((node.acknowledged seq).replied seq 0).trace.marked =
      node.trace.marked := by
    rw [replied, if_pos rfl]
    rfl
  have hsettled (report : ShadowReport) :
      ((report.acknowledge seq).settle seq).settled = true ↔
        report.settled = true ∨ report.seq = seq := by
    simp
  unfold Answered SentSince
  rw [hmarked]
  cases hcount : node.trace.marked with
  | none => simp
  | some count =>
      simp only [Option.some.injEq, forall_eq', drop_reports_cleared,
        List.mem_map, exists_exists_and_eq_and, hsettled]
      constructor
      · rintro ⟨report, hmem, hold | hnew⟩
        · exact Or.inl ⟨report, hmem, hold⟩
        · exact Or.inr ⟨report, hmem, hnew⟩
      · rintro (⟨report, hmem, hold⟩ | ⟨report, hmem, hnew⟩)
        · exact ⟨report, hmem, Or.inl hold⟩
        · exact ⟨report, hmem, Or.inr hnew⟩

theorem needReport_cleared (seq : ℕ) (node : NodeKey) :
    ((node.acknowledged seq).replied seq 0).needReport = false := by
  rw [replied, if_pos rfl]

theorem Answered.acknowledged {seq : ℕ} (hanswered : node.Answered) :
    (node.acknowledged seq).Answered := by
  intro count hmarked
  rcases hanswered count hmarked with ⟨report, hmem, hsettled⟩
  refine ⟨report.acknowledge seq, ?_, ?_⟩
  · simp only [NodeKey.acknowledged, KeyTrace.acknowledged, ← List.map_drop]
    exact List.mem_map_of_mem hmem
  · rw [ShadowReport.acknowledge_settled]
    exact hsettled

end NodeKey

namespace ShadowState

/-- The steps that keep the marks: what clears a marked key is the
acknowledgement of a report sent after the mark, or comes after one. -/
def MarkRespected (state : ShadowState) : ShadowEvent → Prop
  | .report answer => ∀ node, state.current = some node →
      node.dropped answer = true → node.Answered
  | .ack seq code => state.walk = none → code = 0 →
      ∀ node, state.addressee seq = some node →
        node.Answered ∨ node.SentSince seq
  | _ => True

theorem markKept_step {event : ShadowEvent}
    (hmarks : ∀ node ∈ state.keys, node.MarkKept)
    (hrespected : state.MarkRespected event)
    (hstep : state.step parse devSubserial event = some next) :
    ∀ node ∈ next.keys, node.MarkKept := by
  have hwalk (seq : ℕ) (heq : event = .ack seq 0) : state.walk = none := by
    rw [heq] at hstep
    simp only [step] at hstep
    exact (locked_eq_some hstep).1
  apply forall_keys_of_step NodeKey.MarkKept hstep
  · exact fun _ _ _ hclear => Bool.noConfusion hclear
  · exact fun _ hclear => Bool.noConfusion hclear
  · exact fun _ _ _ hclear => Bool.noConfusion hclear
  · exact fun _ _ hclear => Bool.noConfusion hclear
  · intro node hnode
    unfold NodeKey.expire
    split_ifs
    · exact hnode
    · exact hnode
  · intro answer node heq hcurrent hnode hfresh
    rcases node.doReport_cases parse answer with
      ⟨result, timer, hresult, -, -⟩ | ⟨hdropped, hresult⟩ |
      ⟨seq, json, hneed, -, -, hresult⟩
    · rw [hresult]
      exact hnode
    · rw [hresult]
      rw [heq] at hrespected
      exact fun _ => hrespected node hcurrent hdropped
    · rw [hresult]
      exact fun hclear => Bool.noConfusion (hneed.symm.trans hclear)
  · intro seq node hnode hclear
    exact (hnode hclear).acknowledged
  · intro seq node heq haddressee hnode _
    rw [heq] at hrespected
    exact (node.answered_cleared_iff seq).mpr
      (hrespected (hwalk seq heq) rfl node haddressee)
  · intro seq code node hcode hnode
    unfold NodeKey.replied
    rw [if_neg hcode]
    exact hnode
  · exact hmarks

theorem markLost_of_not_markRespected {event : ShadowEvent}
    (hnot : ¬ state.MarkRespected event) :
    ∃ next, state.step parse devSubserial event = some next ∧
      ¬ ∀ node ∈ next.keys, node.MarkKept := by
  cases event with
  | report answer =>
      simp only [MarkRespected, not_forall] at hnot
      rcases hnot with ⟨node, hcurrent, hdropped, hlost⟩
      rcases step_report_of_dropped parse devSubserial hcurrent hdropped with
        ⟨next, hstep, hmem⟩
      refine ⟨next, hstep, ?_⟩
      intro hall
      have hanswered := hall _ hmem rfl
      exact hlost hanswered
  | ack seq code =>
      simp only [MarkRespected, not_forall] at hnot
      rcases hnot with ⟨hwalk, hcode, node, haddressee, hlost⟩
      rw [hcode]
      rcases step_ack_of_walk_eq_none parse devSubserial hwalk seq 0 with
        ⟨next, hstep⟩
      refine ⟨next, hstep, ?_⟩
      intro hall
      have hmem := replied_mem_of_ack haddressee hstep
      have hanswered := hall _ hmem (node.needReport_cleared seq)
      exact hlost ((node.answered_cleared_iff seq).mp hanswered)
  | register | push | reset | toSync | startReport | expire =>
      exact absurd trivial hnot

/-- Along a run every mark is answered before the key is cleared, exactly if
the steps keep the marks. -/
theorem markKept_along_iff_markRespected
    (parse : CString → Option BscJson) (devSubserial : CString)
    (events : List ShadowEvent) :
    StepSystem.Along (step parse devSubserial)
        (fun state => ∀ node ∈ state.keys, node.MarkKept) init events ↔
      StepSystem.StepsMeet (step parse devSubserial) MarkRespected init
        events := by
  have hkeep : ∀ state event next,
      (∀ node ∈ keys state, node.MarkKept) → MarkRespected state event →
      step parse devSubserial state event = some next →
        ∀ node ∈ next.keys, node.MarkKept :=
    fun _ _ _ hmarks hrespected hstep => markKept_step hmarks hrespected hstep
  have hbreak : ∀ state event,
      (∀ node ∈ keys state, node.MarkKept) → ¬ MarkRespected state event →
        ∃ next, step parse devSubserial state event = some next ∧
          ¬ ∀ node ∈ next.keys, node.MarkKept :=
    fun _ _ _ hnot => markLost_of_not_markRespected hnot
  have hstart : ∀ node ∈ init.keys, node.MarkKept := nofun
  exact StepSystem.along_iff_stepsMeet (fun _ hmarks => hmarks) hkeep hbreak
    hstart

/-- A report is sent, the shadow is reset, and only then the report's
acknowledgement arrives. -/
theorem early_ack_clears_reset :
    ¬ StepSystem.Along (step (fun _ => none) [])
      (fun state => ∀ node ∈ state.keys, node.MarkKept) init
      [sampleRegister, .startReport, .report ⟨some ⟨.bool 1, 4⟩, some 5⟩,
        .report ⟨none, none⟩, .reset, .ack 5 0] := by
  intro halong
  have hsome : (StepSystem.exec (step (fun _ => none) []) init
      [sampleRegister, .startReport, .report ⟨some ⟨.bool 1, 4⟩, some 5⟩,
        .report ⟨none, none⟩, .reset, .ack 5 0]).any (fun last =>
      last.keys.any fun node => !node.needReport &&
        node.trace.marked = some 1 && node.trace.reports.length = 1) =
      true := by decide +kernel
  rcases (Option.any_eq_true _ _).mp hsome with ⟨last, hexec, hlost⟩
  rcases List.any_eq_true.mp hlost with ⟨node, hmem, hcleared⟩
  simp only [Bool.and_eq_true, Bool.not_eq_true', decide_eq_true_eq]
    at hcleared
  rcases hcleared with ⟨⟨hclear, hmarked⟩, hlength⟩
  have hkept := halong _ [] last (List.append_nil _).symm hexec node hmem
  rcases hkept hclear 1 hmarked with ⟨report, hreport, -⟩
  rw [List.drop_of_length_le hlength.le] at hreport
  exact List.not_mem_nil hreport

end ShadowState

end EziotSdk

import EziotSdk.NodeWalks
import EziotSdk.ShadowPayloads

/-!
# One report pass

`shadow_proc_report` walks over all keys and reports each that needs it.  The
first report that cannot be encoded or sent ends the pass.  A key without a
value of its own whose callback is missing or fails is given up instead.
-/

namespace EziotSdk

open NodeLists

/-- The value of `do_report` on which the pass leaves its loops. -/
def ReportResult.stops (result : ReportResult) : Bool := result = .failed

section Pass

variable (parse : CString → Option BscJson) (answers : ℕ → ReportAnswer)

def NodeDomain.procReport (before : ℕ) (domain : NodeDomain) :
    List ReportResult × NodeDomain :=
  let walked := walkLeaves ReportResult.stops
    (fun place node => node.doReport parse (answers place)) before
    domain.keyLst
  (walked.1, { domain with keyLst := walked.2 })

def NodeIndex.procReport (before : ℕ) (index : NodeIndex) :
    List ReportResult × NodeIndex :=
  let walked := walk ReportResult.stops (fun node => node.keyLst.length)
    (NodeDomain.procReport parse answers) before index.domainLst
  (walked.1, { index with domainLst := walked.2 })

def NodeIndexSet.procReport (before : ℕ) (set : NodeIndexSet) :
    List ReportResult × NodeIndexSet :=
  let walked := walk ReportResult.stops (fun node => node.keys.length)
    (NodeIndex.procReport parse answers) before set.indexLst
  (walked.1, { set with indexLst := walked.2 })

def NodeDev.procReport (before : ℕ) (dev : NodeDev) :
    List ReportResult × NodeDev :=
  let walked := walk ReportResult.stops (fun node => node.keys.length)
    (NodeIndexSet.procReport parse answers) before dev.typeLst
  (walked.1, { dev with typeLst := walked.2 })

/-- The value of the pass and the tree; the keys are answered by their places
in the order of the tree. -/
def shadowProcReport (devs : List NodeDev) : ℤ × List NodeDev :=
  let walked := walk ReportResult.stops (fun node => node.keys.length)
    (NodeDev.procReport parse answers) 0 devs
  let rv :=
    if walked.1.any ReportResult.stops then -1
    else if .waiting ∈ walked.1 then 1
    else 0
  (rv, walked.2)

theorem NodeIndex.keys_procReport (before : ℕ) (index : NodeIndex) :
    ((index.procReport parse answers before).1,
        (index.procReport parse answers before).2.keys) =
      walkLeaves ReportResult.stops
        (fun place node => node.doReport parse (answers place)) before
        index.keys :=
  walk_flatMap (fun _ _ => rfl) before index.domainLst

theorem NodeIndexSet.keys_procReport (before : ℕ) (set : NodeIndexSet) :
    ((set.procReport parse answers before).1,
        (set.procReport parse answers before).2.keys) =
      walkLeaves ReportResult.stops
        (fun place node => node.doReport parse (answers place)) before
        set.keys :=
  walk_flatMap (NodeIndex.keys_procReport parse answers) before set.indexLst

theorem NodeDev.keys_procReport (before : ℕ) (dev : NodeDev) :
    ((dev.procReport parse answers before).1,
        (dev.procReport parse answers before).2.keys) =
      walkLeaves ReportResult.stops
        (fun place node => node.doReport parse (answers place)) before
        dev.keys :=
  walk_flatMap (NodeIndexSet.keys_procReport parse answers) before dev.typeLst

theorem treeKeys_shadowProcReport (devs : List NodeDev) :
    treeKeys (shadowProcReport parse answers devs).2 =
      (walkLeaves ReportResult.stops
        (fun place node => node.doReport parse (answers place)) 0
        (treeKeys devs)).2 :=
  congrArg Prod.snd
    (walk_flatMap (NodeDev.keys_procReport parse answers) 0 devs)

end Pass

/-! ## What a pass owes its keys -/

namespace NodeKey

variable (parse : CString → Option BscJson) (answer : ReportAnswer)
  (node : NodeKey)

/-- The key needs a report, and waits for none. -/
def Due : Prop := node.needReport = true ∧ node.timer ≠ .running

/-- What there is to send: the cached value, or else that of the callback. -/
def reportValue : Option BscJson :=
  match node.jsonValue with
  | some json => some json
  | none => answer.value.bind (tlv2json parse)

/-- The report cannot be encoded or sent. -/
def Fails : Prop :=
  node.Due ∧ node.dropped answer = false ∧
    (node.reportValue parse answer = none ∨ answer.seq = none)

/-- An attempt to report a key, with the key that it leaves. -/
inductive Attempted (after : NodeKey) : Prop where
  | sent (json : BscJson) (seq : ℕ)
      (hvalue : node.reportValue parse answer = some json)
      (hseq : answer.seq = some seq)
      (hafter : after = NodeKey.reported json seq { node with timer := .none })
  | failed (hfails : node.Fails parse answer)
      (hafter : after = { node with timer := .none })
  | dropped (hdropped : node.dropped answer = true)
      (hafter : after = { node with timer := .none, needReport := false })

theorem doReport_of_not_due (hdue : ¬ node.Due) :
    (node.doReport parse answer).2 = node ∧
      (node.doReport parse answer).1.stops = false := by
  unfold doReport
  by_cases hneed : node.needReport = true
  · have hwait : node.timer = .running := by
      by_contra hidle
      exact hdue ⟨hneed, hidle⟩
    simp [hneed, hwait, ReportResult.stops]
  · simp [hneed, ReportResult.stops]

theorem dropped_eq_of_due (hdue : node.Due) :
    node.dropped answer = (node.jsonValue.isNone &&
      (node.dev2cloud.isNone || answer.value.isNone)) := by
  simp [dropped, hdue.1, hdue.2]

variable {parse answer node} in
theorem doReport_of_due {idle gone : NodeKey} (hdue : node.Due)
    (hidle : idle = { node with timer := .none })
    (hgone : gone = { node with timer := .none, needReport := false }) :
    node.doReport parse answer =
      match node.jsonValue with
      | some json => idle.sendReport json answer.seq
      | none =>
          match node.dev2cloud with
          | none => (.idle, gone)
          | some _ =>
              match answer.value with
              | none => (.idle, gone)
              | some value =>
                  match tlv2json parse value with
                  | none => (.failed, idle)
                  | some json => idle.sendReport json answer.seq := by
  subst hidle
  subst hgone
  have hneed : ¬ (!node.needReport) = true := by simp [hdue.1]
  exact (if_neg hneed).trans (if_neg hdue.2)

variable {parse answer node} in
/-- Sending a value is an attempt, and fails without a number. -/
theorem attempted_sendReport {idle : NodeKey} {json : BscJson}
    (hdue : node.Due) (hidle : idle = { node with timer := .none })
    (hkept : node.dropped answer = false)
    (hvalue : node.reportValue parse answer = some json) :
    node.Attempted parse answer (idle.sendReport json answer.seq).2 ∧
      ((idle.sendReport json answer.seq).1.stops = true ↔
        node.Fails parse answer) := by
  unfold sendReport
  cases hseq : answer.seq with
  | none =>
      have hfails : node.Fails parse answer := ⟨hdue, hkept, Or.inr hseq⟩
      exact ⟨.failed hfails hidle, iff_of_true rfl hfails⟩
  | some seq =>
      constructor
      · rw [hidle]
        exact .sent json seq hvalue hseq rfl
      · apply iff_of_false
        · simp [ReportResult.stops]
        · rintro ⟨-, -, hnone | hnone⟩
          · rw [hvalue] at hnone
            cases hnone
          · rw [hseq] at hnone
            cases hnone

/-- A key that is due is sent, fails, or is dropped. -/
theorem attempted_of_due (hdue : node.Due) :
    node.Attempted parse answer (node.doReport parse answer).2 ∧
      ((node.doReport parse answer).1.stops = true ↔
        node.Fails parse answer) := by
  have hdropped := node.dropped_eq_of_due answer hdue
  obtain ⟨idle, hidle⟩ : ∃ idle : NodeKey,
      idle = { node with timer := .none } := ⟨_, rfl⟩
  obtain ⟨gone, hgone⟩ : ∃ gone : NodeKey,
      gone = { node with timer := .none, needReport := false } := ⟨_, rfl⟩
  have hdrop (hgiven : node.dropped answer = true) :
      node.Attempted parse answer gone ∧
        (ReportResult.idle.stops = true ↔ node.Fails parse answer) := by
    constructor
    · exact .dropped hgiven hgone
    · apply iff_of_false
      · simp [ReportResult.stops]
      · rintro ⟨-, hkept, -⟩
        rw [hgiven] at hkept
        cases hkept
  rw [doReport_of_due hdue hidle hgone]
  cases hjson : node.jsonValue with
  | some json =>
      apply attempted_sendReport hdue hidle
      · rw [hdropped, hjson]
        rfl
      · rw [reportValue, hjson]
  | none =>
      cases hcallback : node.dev2cloud with
      | none =>
          apply hdrop
          rw [hdropped, hjson, hcallback]
          rfl
      | some callback =>
          cases hanswer : answer.value with
          | none =>
              apply hdrop
              rw [hdropped, hjson, hanswer]
              simp
          | some value =>
              have hkept : node.dropped answer = false := by
                rw [hdropped, hcallback, hanswer]
                simp
              have hvalue : node.reportValue parse answer =
                  tlv2json parse value := by
                rw [reportValue, hjson, hanswer, Option.bind_some]
              dsimp only
              cases htlv : tlv2json parse value with
              | none =>
                  have hfails : node.Fails parse answer :=
                    ⟨hdue, hkept, Or.inl (hvalue.trans htlv)⟩
                  exact ⟨.failed hfails hidle, iff_of_true rfl hfails⟩
              | some json =>
                  exact attempted_sendReport hdue hidle hkept
                    (hvalue.trans htlv)

theorem stops_doReport_iff :
    (node.doReport parse answer).1.stops = true ↔
      node.Fails parse answer := by
  by_cases hdue : node.Due
  · exact (node.attempted_of_due parse answer hdue).2
  · rw [(node.doReport_of_not_due parse answer hdue).2]
    apply iff_of_false Bool.false_ne_true
    intro hfails
    exact hdue hfails.1

variable {parse answer node}

theorem Attempted.needReport_or_dropped {after : NodeKey}
    (hattempted : node.Attempted parse answer after) (hdue : node.Due) :
    after.needReport = true ∨ node.dropped answer = true := by
  cases hattempted with
  | sent json seq hvalue hseq hafter =>
      left
      rw [hafter]
      exact hdue.1
  | failed hfails hafter =>
      left
      rw [hafter]
      exact hdue.1
  | dropped hdropped hafter =>
      right
      exact hdropped

end NodeKey

/-- Every key that is due is attempted as long as no key before it fails, and
a key stops needing a report only when it is given up. -/
structure PassAttempts (parse : CString → Option BscJson)
    (answers : ℕ → ReportAnswer) (devs : List NodeDev) : Prop where
  attempted : ∀ (place : ℕ) (node : NodeKey),
    (treeKeys devs)[place]? = some node → node.Due →
    (∀ earlier < place, ∀ other : NodeKey,
      (treeKeys devs)[earlier]? = some other →
        ¬ other.Fails parse (answers earlier)) →
    ∃ after : NodeKey,
      (treeKeys (shadowProcReport parse answers devs).2)[place]? =
        some after ∧
      node.Attempted parse (answers place) after
  needed : ∀ (place : ℕ) (node after : NodeKey),
    (treeKeys devs)[place]? = some node →
    (treeKeys (shadowProcReport parse answers devs).2)[place]? = some after →
    node.needReport = true →
      after.needReport = true ∨
        (node.Due ∧ node.dropped (answers place) = true)

theorem passAttempts (parse : CString → Option BscJson)
    (answers : ℕ → ReportAnswer) (devs : List NodeDev) :
    PassAttempts parse answers devs := by
  constructor
  · intro place node hnode hdue hearlier
    have hreached : NodeLists.Reached ReportResult.stops
        (fun place node => node.doReport parse (answers place)) 0
        (treeKeys devs) place := by
      intro earlier hlt other hother
      rw [Nat.zero_add, ← Bool.not_eq_true, NodeKey.stops_doReport_iff]
      exact hearlier earlier hlt other hother
    have hafter := walkLeaves_of_reached _ _ hnode hreached
    rw [Nat.zero_add] at hafter
    rw [treeKeys_shadowProcReport]
    exact ⟨_, hafter, (node.attempted_of_due parse (answers place) hdue).1⟩
  · intro place node after hnode hafter hneed
    rw [treeKeys_shadowProcReport] at hafter
    by_cases hreached : NodeLists.Reached ReportResult.stops
        (fun place node => node.doReport parse (answers place)) 0
        (treeKeys devs) place
    · rw [walkLeaves_of_reached _ _ hnode hreached, Nat.zero_add,
        Option.some.injEq] at hafter
      subst hafter
      by_cases hdue : node.Due
      · rcases (node.attempted_of_due parse (answers place)
            hdue).1.needReport_or_dropped hdue with hkept | hdropped
        · exact Or.inl hkept
        · exact Or.inr ⟨hdue, hdropped⟩
      · left
        rw [(node.doReport_of_not_due parse (answers place) hdue).1]
        exact hneed
    · rw [walkLeaves_of_not_reached _ _ hreached, hnode,
        Option.some.injEq] at hafter
      subst hafter
      exact Or.inl hneed

/-- Two keys of which the first cannot be sent: the second, with a value to
send and an answer for it, is not attempted.  A key whose callback fails no
longer needs a report. -/
theorem pass_starved :
    let keys : List ShadowBusiness :=
      [⟨⟨"on".toList, by decide⟩, none, some 0⟩,
        ⟨⟨"level".toList, by decide⟩, none, some 1⟩]
    let devs := (shadowCoreModuleAddv3 "hub".toList lampRes "power".toList
      keys []).2
    let value : Option ShadowValue := some ⟨.bool 1, 4⟩
    ((treeKeys (shadowProcReport (fun _ => none)
        (fun place => if place = 0 then ⟨value, none⟩ else ⟨value, some 9⟩)
        devs).2).map fun node => (node.needReport, node.msgSeq)) =
      [(true, 0), (true, 0)] ∧
    ((treeKeys (shadowProcReport (fun _ => none) (fun _ => ⟨none, some 9⟩)
        devs).2).map fun node => (node.needReport, node.msgSeq)) =
      [(false, 0), (false, 0)] := by
  decide +kernel

end EziotSdk

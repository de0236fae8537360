import EziotSdk.ShadowTree

/-!
# The keys of the shadow tree

The functions that change keys: a push, the report of one key, the handler of
an acknowledgement, a reset.  Each walks the tree; seen in the list of all
keys, each replaces one element or maps them all.
-/

namespace EziotSdk

variable {devs : List NodeDev} {node key : NodeKey}

/-! ## One key -/

namespace ShadowReport

variable (seq : ℕ) (report : ShadowReport)

def acknowledge : ShadowReport :=
  if report.seq = seq then { report with acked := true } else report

def settle : ShadowReport :=
  if report.seq = seq then { report with settled := true } else report

@[simp] theorem acknowledge_seq : (report.acknowledge seq).seq = report.seq := by
  unfold acknowledge
  split_ifs <;> rfl

@[simp] theorem acknowledge_json :
    (report.acknowledge seq).json = report.json := by
  unfold acknowledge
  split_ifs <;> rfl

@[simp] theorem acknowledge_pushes :
    (report.acknowledge seq).pushes = report.pushes := by
  unfold acknowledge
  split_ifs <;> rfl

@[simp] theorem acknowledge_settled :
    (report.acknowledge seq).settled = report.settled := by
  unfold acknowledge
  split_ifs <;> rfl

@[simp] theorem acknowledge_acked :
    (report.acknowledge seq).acked =
      (report.acked || decide (report.seq = seq)) := by
  unfold acknowledge
  split_ifs with hseq <;> simp [hseq]

@[simp] theorem settle_seq : (report.settle seq).seq = report.seq := by
  unfold settle
  split_ifs <;> rfl

@[simp] theorem settle_json : (report.settle seq).json = report.json := by
  unfold settle
  split_ifs <;> rfl

@[simp] theorem settle_pushes :
    (report.settle seq).pushes = report.pushes := by
  unfold settle
  split_ifs <;> rfl

@[simp] theorem settle_acked : (report.settle seq).acked = report.acked := by
  unfold settle
  split_ifs <;> rfl

@[simp] theorem settle_settled :
    (report.settle seq).settled =
      (report.settled || decide (report.seq = seq)) := by
  unfold settle
  split_ifs with hseq <;> simp [hseq]

end ShadowReport

namespace KeyTrace

/-- An acknowledgement with code 0 arrives. -/
def acknowledged (seq : ℕ) (trace : KeyTrace) : KeyTrace :=
  { trace with
    reports := trace.reports.map (ShadowReport.acknowledge seq) }

/-- An acknowledgement clears the key; `lost` says whether it takes something
away. -/
def settled (seq : ℕ) (lost : Bool) (trace : KeyTrace) : KeyTrace :=
  { trace with
    reports := trace.reports.map (ShadowReport.settle seq)
    misacked := trace.misacked ||
      lost && !trace.reports.any fun report =>
        report.seq = seq && report.pushes = trace.pushes }

end KeyTrace

/-- What a report pass meets at a key: the value which the callback gives, and
the number under which the message is sent. -/
structure ReportAnswer where
  value : Option ShadowValue
  seq : Option ℕ
  deriving Repr

/-- The three return values of `do_report`, and the number that was sent. -/
inductive ReportResult where
  | idle
  | waiting
  | failed
  | sent (seq : ℕ)
  deriving DecidableEq, Repr

namespace NodeKey

/-- The changes of `shadow_core_propertie_changed`. -/
def pushed (parse : CString → Option BscJson) (value : Option ShadowValue)
    (node : NodeKey) : NodeKey :=
  let json := value.bind (tlv2json parse)
  { node with
    timer := .none
    statVer := (node.statVer + 1) % 2 ^ 32
    needReport := true
    msgSeq := 0
    jsonValue := json
    trace := { node.trace with
      pushes := node.trace.pushes + 1
      value := json } }

def reset (node : NodeKey) : NodeKey :=
  { node with
    needReport := true
    timer := .none
    trace := node.markTrace }

/-- The key after its report was sent. -/
def reported (json : BscJson) (seq : ℕ) (node : NodeKey) : NodeKey :=
  { node with
    msgSeq := seq
    timer := .running
    trace := { node.trace with
      reports := node.trace.reports ++
        [⟨seq, json, node.statVer, node.trace.pushes, false, false⟩] } }

/-- The message of `ezDevSDK_Shadow_Report_v3` is sent or not. -/
def sendReport (json : BscJson) (seq : Option ℕ) (node : NodeKey) :
    ReportResult × NodeKey :=
  match seq with
  | none => (.failed, node)
  | some seq => (.sent seq, node.reported json seq)

def doReport (parse : CString → Option BscJson) (answer : ReportAnswer)
    (node : NodeKey) : ReportResult × NodeKey :=
  if !node.needReport then (.idle, node)
  else if node.timer = .running then (.waiting, node)
  else
    let node := { node with timer := .none }
    match node.jsonValue with
    | some json => node.sendReport json answer.seq
    | none =>
        match node.dev2cloud with
        | none => (.idle, { node with needReport := false })
        | some _ =>
            match answer.value with
            | none => (.idle, { node with needReport := false })
            | some value =>
                match tlv2json parse value with
                | none => (.failed, node)
                | some json => node.sendReport json answer.seq

/-- A pass that gives the key up: it needs a report, no value is cached, and
the callback is missing or fails. -/
def dropped (answer : ReportAnswer) (node : NodeKey) : Bool :=
  node.needReport && node.timer ≠ .running && node.jsonValue.isNone &&
    (node.dev2cloud.isNone || answer.value.isNone)

/-- What `shadow_reply2report` does with the key it finds. -/
def replied (seq : ℕ) (code : ℤ) (node : NodeKey) : NodeKey :=
  if code = 0 then
    { node with
      needReport := false
      jsonValue := none
      msgSeq := 0
      timer := .none
      trace := node.trace.settled seq
        (node.needReport || node.jsonValue.isSome) }
  else { node with msgSeq := 0, timer := .none }

def acknowledged (seq : ℕ) (node : NodeKey) : NodeKey :=
  { node with trace := node.trace.acknowledged seq }

def expire (node : NodeKey) : NodeKey :=
  if node.timer = .running then { node with timer := .expired } else node

end NodeKey

/-- The three things that one call of `do_report` does. -/
theorem NodeKey.doReport_cases (parse : CString → Option BscJson)
    (answer : ReportAnswer) (node : NodeKey) :
    (∃ result timer,
      node.doReport parse answer = (result, { node with timer := timer }) ∧
        node.dropped answer = false ∧ ∀ seq, result ≠ .sent seq) ∨
      (node.dropped answer = true ∧
        node.doReport parse answer =
          (.idle, { node with timer := .none, needReport := false })) ∨
      ∃ seq json, node.needReport = true ∧ node.dropped answer = false ∧
        (∀ value, node.jsonValue = some value → json = value) ∧
        node.doReport parse answer =
          (.sent seq, NodeKey.reported json seq
            { node with timer := .none }) := by
  rcases node with ⟨key, cloud2dev, dev2cloud, statVer, needReport, timer,
    msgSeq, jsonValue, trace⟩
  cases needReport with
  | false => exact Or.inl ⟨.idle, timer, rfl, rfl, nofun⟩
  | true =>
      cases timer with
      | running => exact Or.inl ⟨.waiting, .running, rfl, rfl, nofun⟩
      | none | expired =>
          cases jsonValue with
          | some json =>
              cases hseq : answer.seq with
              | none =>
                  refine Or.inl ⟨.failed, .none, ?_, rfl, nofun⟩
                  simp [NodeKey.doReport, NodeKey.sendReport, hseq]
              | some seq =>
                  refine Or.inr (Or.inr ⟨seq, json, rfl, rfl, ?_, ?_⟩)
                  · intro value hvalue
                    exact Option.some.inj hvalue
                  · simp [NodeKey.doReport, NodeKey.sendReport, hseq]
          | none =>
              cases dev2cloud with
              | none => exact Or.inr (Or.inl ⟨rfl, rfl⟩)
              | some callback =>
                  cases hvalue : answer.value with
                  | none =>
                      refine Or.inr (Or.inl ⟨?_, ?_⟩)
                      · simp [NodeKey.dropped, hvalue]
                      · simp [NodeKey.doReport, hvalue]
                  | some value =>
                      have hkept : NodeKey.dropped answer ⟨key, cloud2dev,
                          some callback, statVer, true, .none, msgSeq, none,
                          trace⟩ = false := by
                        simp [NodeKey.dropped, hvalue]
                      cases htlv : tlv2json parse value with
                      | none =>
                          refine Or.inl ⟨.failed, .none, ?_, hkept, nofun⟩
                          simp [NodeKey.doReport, hvalue, htlv]
                      | some json =>
                          cases hseq : answer.seq with
                          | none =>
                              refine Or.inl ⟨.failed, .none, ?_, hkept, nofun⟩
                              simp [NodeKey.doReport, NodeKey.sendReport,
                                hvalue, htlv, hseq]
                          | some seq =>
                              refine Or.inr (Or.inr ⟨seq, json, rfl, hkept,
                                nofun, ?_⟩)
                              simp [NodeKey.doReport, NodeKey.sendReport,
                                hvalue, htlv, hseq]

theorem NodeKey.doReport_of_dropped (parse : CString → Option BscJson)
    {answer : ReportAnswer} (hdropped : node.dropped answer = true) :
    node.doReport parse answer =
      (.idle, { node with timer := .none, needReport := false }) := by
  rcases node.doReport_cases parse answer with
    ⟨result, timer, -, hkept, -⟩ | ⟨-, hresult⟩ |
    ⟨seq, json, -, hkept, -, -⟩
  · exact absurd (hdropped.symm.trans hkept) nofun
  · exact hresult
  · exact absurd (hdropped.symm.trans hkept) nofun

/-! ## The walks -/

namespace NodeDomain

def mapKeys (change : NodeKey → NodeKey) (domain : NodeDomain) : NodeDomain :=
  { domain with keyLst := domain.keyLst.map change }

def updateKey (chosen : NodeKey → Bool) (change : NodeKey → NodeKey)
    (domain : NodeDomain) : NodeDomain :=
  { domain with
    keyLst := FirstMatch.updateFirst chosen change domain.keyLst }

def modifyKey (change : NodeKey → NodeKey) (place : ℕ)
    (domain : NodeDomain) : NodeDomain :=
  { domain with keyLst := domain.keyLst.modify place change }

end NodeDomain

namespace NodeIndex

def mapKeys (change : NodeKey → NodeKey) (index : NodeIndex) : NodeIndex :=
  { index with domainLst := index.domainLst.map (NodeDomain.mapKeys change) }

def updateKey (chosen : NodeKey → Bool) (change : NodeKey → NodeKey)
    (index : NodeIndex) : NodeIndex :=
  { index with
    domainLst := FirstMatch.updateFirst
      (fun domain => domain.keyLst.any chosen)
      (NodeDomain.updateKey chosen change) index.domainLst }

def modifyKey (change : NodeKey → NodeKey) (place : ℕ)
    (index : NodeIndex) : NodeIndex :=
  { index with
    domainLst := NodeLists.modifyLeaf NodeDomain.keyLst
      (NodeDomain.modifyKey change) place index.domainLst }

/-- `shadow_status_reset` in one channel. -/
def reset (index : NodeIndex) : NodeIndex :=
  { index.mapKeys NodeKey.reset with needSync := true, timer := .none }

/-- `shadow_status2sync` in one channel. -/
def toSync (index : NodeIndex) : NodeIndex :=
  { index with needSync := true, timer := .none, retryCount := 0 }

end NodeIndex

namespace NodeIndexSet

def mapIndexes (change : NodeIndex → NodeIndex) (set : NodeIndexSet) :
    NodeIndexSet :=
  { set with indexLst := set.indexLst.map change }

def updateKey (chosen : NodeKey → Bool) (change : NodeKey → NodeKey)
    (set : NodeIndexSet) : NodeIndexSet :=
  { set with
    indexLst := FirstMatch.updateFirst (fun index => index.keys.any chosen)
      (NodeIndex.updateKey chosen change) set.indexLst }

def modifyKey (change : NodeKey → NodeKey) (place : ℕ)
    (set : NodeIndexSet) : NodeIndexSet :=
  { set with
    indexLst := NodeLists.modifyLeaf NodeIndex.keys
      (NodeIndex.modifyKey change) place set.indexLst }

end NodeIndexSet

namespace NodeDev

def mapIndexes (change : NodeIndex → NodeIndex) (dev : NodeDev) : NodeDev :=
  { dev with typeLst := dev.typeLst.map (NodeIndexSet.mapIndexes change) }

def updateKey (chosen : NodeKey → Bool) (change : NodeKey → NodeKey)
    (dev : NodeDev) : NodeDev :=
  { dev with
    typeLst := FirstMatch.updateFirst (fun set => set.keys.any chosen)
      (NodeIndexSet.updateKey chosen change) dev.typeLst }

def modifyKey (change : NodeKey → NodeKey) (place : ℕ) (dev : NodeDev) :
    NodeDev :=
  { dev with
    typeLst := NodeLists.modifyLeaf NodeIndexSet.keys
      (NodeIndexSet.modifyKey change) place dev.typeLst }

end NodeDev

def mapIndexes (change : NodeIndex → NodeIndex) (devs : List NodeDev) :
    List NodeDev :=
  devs.map (NodeDev.mapIndexes change)

/-- The change of the first key with a property. -/
def updateKey (chosen : NodeKey → Bool) (change : NodeKey → NodeKey)
    (devs : List NodeDev) : List NodeDev :=
  FirstMatch.updateFirst (fun dev => dev.keys.any chosen)
    (NodeDev.updateKey chosen change) devs

/-- The change of the key at a place in the order of the tree. -/
def modifyKey (change : NodeKey → NodeKey) (place : ℕ)
    (devs : List NodeDev) : List NodeDev :=
  NodeLists.modifyLeaf NodeDev.keys (NodeDev.modifyKey change) place devs

def shadowStatusReset (devs : List NodeDev) : List NodeDev :=
  mapIndexes NodeIndex.reset devs

def shadowStatus2sync (devs : List NodeDev) : List NodeDev :=
  mapIndexes NodeIndex.toSync devs

def shadowReply2report (seq : ℕ) (code : ℤ) (devs : List NodeDev) :
    List NodeDev :=
  updateKey (fun node => node.msgSeq = seq) (NodeKey.replied seq code) devs

/-- The arrival of an acknowledgement, as the traces record it. -/
def recordAck (seq : ℕ) (code : ℤ) (devs : List NodeDev) : List NodeDev :=
  if code = 0 then
    mapIndexes (NodeIndex.mapKeys (NodeKey.acknowledged seq)) devs
  else devs

/-! ## Search by names -/

def NodeDomain.findKey (name : KeyName) (domain : NodeDomain) :
    Option NodeKey :=
  domain.keyLst.find? fun node => node.key.1 = name.key

def NodeIndex.findKey (name : KeyName) (index : NodeIndex) : Option NodeKey :=
  (index.domainLst.find? fun domain => domain.domainString.1 = name.domain).bind
    (NodeDomain.findKey name)

def NodeIndexSet.findKey (name : KeyName) (set : NodeIndexSet) :
    Option NodeKey :=
  (set.indexLst.find? fun index => index.index = name.index).bind
    (NodeIndex.findKey name)

def NodeDev.findKey (name : KeyName) (dev : NodeDev) : Option NodeKey :=
  (dev.typeLst.find? fun set => set.type.1 = name.type).bind
    (NodeIndexSet.findKey name)

def findKey (name : KeyName) (devs : List NodeDev) : Option NodeKey :=
  (devs.find? fun dev => dev.devSn.1 = name.sn).bind (NodeDev.findKey name)

def NodeDomain.changeKey (name : KeyName) (change : NodeKey → NodeKey)
    (domain : NodeDomain) : NodeDomain :=
  domain.updateKey (fun node => node.key.1 = name.key) change

def NodeIndex.changeKey (name : KeyName) (change : NodeKey → NodeKey)
    (index : NodeIndex) : NodeIndex :=
  { index with
    domainLst := FirstMatch.updateFirst
      (fun domain => domain.domainString.1 = name.domain)
      (NodeDomain.changeKey name change) index.domainLst }

def NodeIndexSet.changeKey (name : KeyName) (change : NodeKey → NodeKey)
    (set : NodeIndexSet) : NodeIndexSet :=
  { set with
    indexLst := FirstMatch.updateFirst (fun index => index.index = name.index)
      (NodeIndex.changeKey name change) set.indexLst }

def NodeDev.changeKey (name : KeyName) (change : NodeKey → NodeKey)
    (dev : NodeDev) : NodeDev :=
  { dev with
    typeLst := FirstMatch.updateFirst (fun set => set.type.1 = name.type)
      (NodeIndexSet.changeKey name change) dev.typeLst }

def changeKey (name : KeyName) (change : NodeKey → NodeKey)
    (devs : List NodeDev) : List NodeDev :=
  FirstMatch.updateFirst (fun dev => dev.devSn.1 = name.sn)
    (NodeDev.changeKey name change) devs

/-- The names for which a local call with a resource searches. -/
def ShadowRes.keyName (devSubserial : CString) (res : ShadowRes)
    (domainId pkey : CString) : KeyName where
  sn := ownSerial devSubserial res.devSerial.1
  type := res.resType.1
  index := res.localIndex
  domain := domainId
  key := pkey

/-- Whether the key is found, and the tree. -/
def shadowCorePropertieChanged (parse : CString → Option BscJson)
    (devSubserial : CString) (res : ShadowRes) (domainId pkey : CString)
    (value : Option ShadowValue) (devs : List NodeDev) :
    Bool × List NodeDev :=
  let name := res.keyName devSubserial domainId pkey
  match findKey name devs with
  | none => (false, devs)
  | some _ => (true, changeKey name (NodeKey.pushed parse value) devs)

/-- The module that a push registers for a key it does not find. -/
def pushedBusiness (pkey : CString) : ShadowBusiness where
  key := storedName 64 pkey (by decide)
  business2dev := none
  business2cloud := none

def ezIotShadowPushV3 (parse : CString → Option BscJson)
    (devSubserial : CString) (res : ShadowRes) (domainId pkey : CString)
    (value : Option ShadowValue) (devs : List NodeDev) :
    Bool × List NodeDev :=
  match shadowCorePropertieChanged parse devSubserial res domainId pkey value
      devs with
  | (true, devs) => (true, devs)
  | (false, devs) =>
      match shadowCoreModuleAddv3 devSubserial res domainId
          [pushedBusiness pkey] devs with
      | (false, devs) => (false, devs)
      | (true, devs) =>
          shadowCorePropertieChanged parse devSubserial res domainId pkey
            value devs

section Push

variable {parse : CString → Option BscJson} {devSubserial : CString}
  {res : ShadowRes} {domainId pkey : CString}

theorem shadowCorePropertieChanged_of_none (value : Option ShadowValue)
    (hfind : findKey (res.keyName devSubserial domainId pkey) devs = none) :
    shadowCorePropertieChanged parse devSubserial res domainId pkey value
      devs = (false, devs) := by
  simp only [shadowCorePropertieChanged, hfind]

theorem shadowCorePropertieChanged_of_some (value : Option ShadowValue)
    (hfind : findKey (res.keyName devSubserial domainId pkey) devs =
      some key) :
    shadowCorePropertieChanged parse devSubserial res domainId pkey value
      devs = (true, changeKey (res.keyName devSubserial domainId pkey)
        (NodeKey.pushed parse value) devs) := by
  simp only [shadowCorePropertieChanged, hfind]

theorem ezIotShadowPushV3_of_some (value : Option ShadowValue)
    (hfind : findKey (res.keyName devSubserial domainId pkey) devs =
      some key) :
    ezIotShadowPushV3 parse devSubserial res domainId pkey value devs =
      (true, changeKey (res.keyName devSubserial domainId pkey)
        (NodeKey.pushed parse value) devs) := by
  unfold ezIotShadowPushV3
  rw [shadowCorePropertieChanged_of_some value hfind]

theorem ezIotShadowPushV3_of_none (value : Option ShadowValue)
    (hfind : findKey (res.keyName devSubserial domainId pkey) devs = none) :
    ezIotShadowPushV3 parse devSubserial res domainId pkey value devs =
      shadowCorePropertieChanged parse devSubserial res domainId pkey value
        (shadowCoreModuleAddv3 devSubserial res domainId
          [pushedBusiness pkey] devs).2 := by
  unfold ezIotShadowPushV3
  rw [shadowCorePropertieChanged_of_none value hfind]
  rfl

end Push

/-! ## The walks in the list of all keys -/

theorem treeKeys_mapIndexes {change : NodeIndex → NodeIndex}
    {keyChange : NodeKey → NodeKey}
    (hchange : ∀ index : NodeIndex,
      (change index).keys = index.keys.map keyChange)
    (devs : List NodeDev) :
    treeKeys (mapIndexes change devs) = (treeKeys devs).map keyChange := by
  apply NodeLists.flatMap_map_leaves
  intro dev
  apply NodeLists.flatMap_map_leaves
  intro set
  exact NodeLists.flatMap_map_leaves hchange set.indexLst

theorem NodeIndex.keys_mapKeys (change : NodeKey → NodeKey)
    (index : NodeIndex) :
    (index.mapKeys change).keys = index.keys.map change := by
  apply NodeLists.flatMap_map_leaves
  intro domain
  rfl

theorem treeKeys_shadowStatusReset (devs : List NodeDev) :
    treeKeys (shadowStatusReset devs) = (treeKeys devs).map NodeKey.reset := by
  apply treeKeys_mapIndexes
  intro index
  exact NodeIndex.keys_mapKeys NodeKey.reset index

theorem treeKeys_shadowStatus2sync (devs : List NodeDev) :
    treeKeys (shadowStatus2sync devs) = treeKeys devs := by
  have hindex (index : NodeIndex) :
      index.toSync.keys = index.keys.map id := (List.map_id index.keys).symm
  exact (treeKeys_mapIndexes hindex devs).trans (List.map_id _)

theorem treeKeys_recordAck (seq : ℕ) (devs : List NodeDev) :
    treeKeys (recordAck seq 0 devs) =
      (treeKeys devs).map (NodeKey.acknowledged seq) :=
  treeKeys_mapIndexes (NodeIndex.keys_mapKeys (NodeKey.acknowledged seq)) devs

theorem treeKeys_updateKey (chosen : NodeKey → Bool)
    (change : NodeKey → NodeKey) (devs : List NodeDev) :
    treeKeys (updateKey chosen change devs) =
      FirstMatch.updateFirst chosen change (treeKeys devs) := by
  apply NodeLists.flatMap_updateFirst_any
  intro dev
  apply NodeLists.flatMap_updateFirst_any
  intro set
  apply NodeLists.flatMap_updateFirst_any
  intro index
  apply NodeLists.flatMap_updateFirst_any
  intro domain
  rfl

theorem replaces_modifyKey (change : NodeKey → NodeKey) {place : ℕ}
    (hget : (treeKeys devs)[place]? = some key) :
    NodeLists.Replaces key (change key) (treeKeys devs)
      (treeKeys (modifyKey change place devs)) := by
  apply NodeLists.replaces_modifyLeaf _ hget
  intro place dev key hget
  apply NodeLists.replaces_modifyLeaf _ hget
  intro place set key hget
  apply NodeLists.replaces_modifyLeaf _ hget
  intro place index key hget
  apply NodeLists.replaces_modifyLeaf _ hget
  intro place domain key hget
  exact NodeLists.replaces_modify change hget

theorem replaces_changeKey {name : KeyName} (change : NodeKey → NodeKey)
    (hfind : findKey name devs = some key) :
    NodeLists.Replaces key (change key) (treeKeys devs)
      (treeKeys (changeKey name change devs)) := by
  rcases Option.bind_eq_some_iff.mp hfind with ⟨dev, hdev, hinDev⟩
  rcases Option.bind_eq_some_iff.mp hinDev with ⟨set, hset, hinSet⟩
  rcases Option.bind_eq_some_iff.mp hinSet with ⟨index, hindex, hinIndex⟩
  rcases Option.bind_eq_some_iff.mp hinIndex with
    ⟨domain, hdomain, hinDomain⟩
  apply (NodeLists.replaces_updateFirst (NodeDev.changeKey name change)
    hdev).flatMap
  apply (NodeLists.replaces_updateFirst (NodeIndexSet.changeKey name change)
    hset).flatMap
  apply (NodeLists.replaces_updateFirst (NodeIndex.changeKey name change)
    hindex).flatMap
  apply (NodeLists.replaces_updateFirst (NodeDomain.changeKey name change)
    hdomain).flatMap
  exact NodeLists.replaces_updateFirst change hinDomain

/-! ## The keys after a registration -/

section Registration

variable {property : NodeKey → Prop}

theorem NodeDomain.forall_addKeys
    (hregistered : ∀ business node, property node →
      property (NodeKey.registered business node))
    (hcreate : ∀ business, property (NodeKey.create business))
    (props : List ShadowBusiness) {domain : NodeDomain}
    (hall : ∀ node ∈ domain.keyLst, property node) :
    ∀ node ∈ (domain.addKeys props).keyLst, property node := by
  induction props generalizing domain with
  | nil => exact hall
  | cons business rest ih =>
      apply ih
      intro node hmem
      rcases FirstMatch.mem_findOrAdd hmem with
        hold | ⟨changed, hfind, heq⟩ | ⟨-, heq⟩
      · exact hall node hold
      · rw [heq]
        exact hregistered business changed
          (hall changed (List.mem_of_find?_eq_some hfind))
      · rw [heq]
        exact hcreate business

theorem NodeIndex.forall_addDomain
    (hregistered : ∀ business node, property node →
      property (NodeKey.registered business node))
    (hcreate : ∀ business, property (NodeKey.create business))
    (domainId : CString) (props : List ShadowBusiness) {index : NodeIndex}
    (hall : ∀ node ∈ index.keys, property node) :
    ∀ node ∈ (index.addDomain domainId props).keys, property node := by
  have hdomain (domain : NodeDomain)
      (hkeys : ∀ node ∈ domain.keyLst, property node) :
      ∀ node ∈ (domain.addKeys props).keyLst, property node :=
    NodeDomain.forall_addKeys hregistered hcreate props hkeys
  unfold NodeIndex.addDomain
  split_ifs with hprops
  · exact hall
  · apply NodeLists.forall_leaves_findOrAdd hall hdomain
    exact hdomain _ fun _ hmem => absurd hmem List.not_mem_nil

/-- What a registration does to the keys, said once: it creates keys, and it
registers existing ones again. -/
theorem forall_shadowCoreModuleAddv3
    (hregistered : ∀ business node, property node →
      property (NodeKey.registered business node))
    (hcreate : ∀ business, property (NodeKey.create business))
    (devSubserial : CString) (res : ShadowRes) (domainId : CString)
    (props : List ShadowBusiness)
    (hall : ∀ node ∈ treeKeys devs, property node) :
    ∀ node ∈ treeKeys
        (shadowCoreModuleAddv3 devSubserial res domainId props devs).2,
      property node := by
  have hindex (index : NodeIndex)
      (hkeys : ∀ node ∈ index.keys, property node) :
      ∀ node ∈ (index.addDomain domainId props).keys, property node :=
    NodeIndex.forall_addDomain hregistered hcreate domainId props hkeys
  have hset (set : NodeIndexSet)
      (hkeys : ∀ node ∈ set.keys, property node) :
      ∀ node ∈ (set.addIndex res.localIndex domainId props).keys,
        property node := by
    apply NodeLists.forall_leaves_findOrAdd hkeys hindex
    exact hindex _ fun _ hmem => absurd hmem List.not_mem_nil
  have hdev (dev : NodeDev) (hkeys : ∀ node ∈ dev.keys, property node) :
      ∀ node ∈ (dev.addIndexSet res.resType.1 res.localIndex domainId
          props).keys, property node := by
    apply NodeLists.forall_leaves_findOrAdd hkeys hset
    exact hset _ fun _ hmem => absurd hmem List.not_mem_nil
  apply NodeLists.forall_leaves_findOrAdd hall hdev
  exact hdev _ fun _ hmem => absurd hmem List.not_mem_nil

end Registration

section Views

variable {β : Type*} {view : NodeKey → List β}

theorem NodeDomain.flatMap_addKeys
    (hregistered : ∀ business node,
      view (NodeKey.registered business node) = view node)
    (hcreate : ∀ business, view (NodeKey.create business) = [])
    (props : List ShadowBusiness) (domain : NodeDomain) :
    (domain.addKeys props).keyLst.flatMap view =
      domain.keyLst.flatMap view := by
  induction props generalizing domain with
  | nil => rfl
  | cons business rest ih =>
      have hrest := ih (domain.addKey business)
      rw [NodeDomain.addKeys, List.foldl_cons]
      refine hrest.trans ?_
      exact FirstMatch.flatMap_findOrAdd_of_same (hregistered business)
        (hcreate business) domain.keyLst

/-- A view of the keys that does not see registrations. -/
theorem flatMap_shadowCoreModuleAddv3
    (hregistered : ∀ business node,
      view (NodeKey.registered business node) = view node)
    (hcreate : ∀ business, view (NodeKey.create business) = [])
    (devSubserial : CString) (res : ShadowRes) (domainId : CString)
    (props : List ShadowBusiness) (devs : List NodeDev) :
    (treeKeys (shadowCoreModuleAddv3 devSubserial res domainId props
        devs).2).flatMap view = (treeKeys devs).flatMap view := by
  have hdomain (domain : NodeDomain) :
      (domain.addKeys props).keyLst.flatMap view =
        domain.keyLst.flatMap view :=
    NodeDomain.flatMap_addKeys hregistered hcreate props domain
  have hindex (index : NodeIndex) :
      (index.addDomain domainId props).keys.flatMap view =
        index.keys.flatMap view := by
    unfold NodeIndex.addDomain
    split_ifs with hprops
    · rfl
    · exact NodeLists.flatMap_leaves_findOrAdd hdomain (hdomain _)
        index.domainLst
  have hset (set : NodeIndexSet) :
      (set.addIndex res.localIndex domainId props).keys.flatMap view =
        set.keys.flatMap view :=
    NodeLists.flatMap_leaves_findOrAdd hindex (hindex _) set.indexLst
  have hdev (dev : NodeDev) :
      (dev.addIndexSet res.resType.1 res.localIndex domainId
          props).keys.flatMap view = dev.keys.flatMap view :=
    NodeLists.flatMap_leaves_findOrAdd hset (hset _) dev.typeLst
  exact NodeLists.flatMap_leaves_findOrAdd hdev (hdev _) devs

end Views

end EziotSdk

import EziotSdk.NodePlaces
import EziotSdk.ShadowRuns

/-!
# Searches through the shadow tree

What a search by names finds along a run: a key that was registered under
names which its nodes can store is found from then on, with the callback of
its last registration.  Only registrations change names and callbacks.
-/

namespace EziotSdk

open NodeLists

variable {devs devs' : List NodeDev} {name : KeyName}

/-! ## Changes that a search does not see -/

structure NodeKey.SameKey (old new : NodeKey) : Prop where
  key : new.key = old.key
  cloud2dev : new.cloud2dev = old.cloud2dev

structure NodeDomain.SameKeys (old new : NodeDomain) : Prop where
  domainString : new.domainString = old.domainString
  keyLst : List.Forall₂ NodeKey.SameKey old.keyLst new.keyLst

structure NodeIndex.SameKeys (old new : NodeIndex) : Prop where
  index : new.index = old.index
  domainLst : List.Forall₂ NodeDomain.SameKeys old.domainLst new.domainLst

structure NodeIndexSet.SameKeys (old new : NodeIndexSet) : Prop where
  type : new.type = old.type
  indexLst : List.Forall₂ NodeIndex.SameKeys old.indexLst new.indexLst

structure NodeDev.SameKeys (old new : NodeDev) : Prop where
  devSn : new.devSn = old.devSn
  typeLst : List.Forall₂ NodeIndexSet.SameKeys old.typeLst new.typeLst

def SameTree (devs devs' : List NodeDev) : Prop :=
  List.Forall₂ NodeDev.SameKeys devs devs'

theorem NodeKey.SameKey.refl (node : NodeKey) : node.SameKey node := ⟨rfl, rfl⟩

theorem NodeDomain.SameKeys.refl (domain : NodeDomain) :
    domain.SameKeys domain :=
  ⟨rfl, List.forall₂_same.mpr fun node _ => NodeKey.SameKey.refl node⟩

theorem NodeIndex.SameKeys.refl (index : NodeIndex) : index.SameKeys index :=
  ⟨rfl, List.forall₂_same.mpr fun domain _ => NodeDomain.SameKeys.refl domain⟩

theorem NodeIndexSet.SameKeys.refl (set : NodeIndexSet) : set.SameKeys set :=
  ⟨rfl, List.forall₂_same.mpr fun index _ => NodeIndex.SameKeys.refl index⟩

theorem NodeDev.SameKeys.refl (dev : NodeDev) : dev.SameKeys dev :=
  ⟨rfl, List.forall₂_same.mpr fun set _ => NodeIndexSet.SameKeys.refl set⟩

section Walks

variable {change : NodeKey → NodeKey}

theorem sameTree_mapIndexes {change : NodeIndex → NodeIndex}
    (hchange : ∀ index, NodeIndex.SameKeys index (change index))
    (devs : List NodeDev) : SameTree devs (mapIndexes change devs) := by
  have hset (set : NodeIndexSet) : set.SameKeys (set.mapIndexes change) :=
    ⟨rfl, forall₂_map hchange set.indexLst⟩
  have hdev (dev : NodeDev) : dev.SameKeys (dev.mapIndexes change) :=
    ⟨rfl, forall₂_map hset dev.typeLst⟩
  exact forall₂_map hdev devs

theorem NodeIndex.sameKeys_mapKeys
    (hchange : ∀ node, NodeKey.SameKey node (change node))
    (index : NodeIndex) : index.SameKeys (index.mapKeys change) := by
  have hdomain (domain : NodeDomain) :
      domain.SameKeys (domain.mapKeys change) :=
    ⟨rfl, forall₂_map hchange domain.keyLst⟩
  exact ⟨rfl, forall₂_map hdomain index.domainLst⟩

theorem sameTree_updateKey
    (hchange : ∀ node, NodeKey.SameKey node (change node))
    (chosen : NodeKey → Bool) (devs : List NodeDev) :
    SameTree devs (updateKey chosen change devs) := by
  have hdomain (domain : NodeDomain) :
      domain.SameKeys (domain.updateKey chosen change) :=
    ⟨rfl, forall₂_updateFirst NodeKey.SameKey.refl hchange _ domain.keyLst⟩
  have hindex (index : NodeIndex) :
      index.SameKeys (index.updateKey chosen change) :=
    ⟨rfl, forall₂_updateFirst NodeDomain.SameKeys.refl hdomain _
      index.domainLst⟩
  have hset (set : NodeIndexSet) :
      set.SameKeys (set.updateKey chosen change) :=
    ⟨rfl, forall₂_updateFirst NodeIndex.SameKeys.refl hindex _ set.indexLst⟩
  have hdev (dev : NodeDev) : dev.SameKeys (dev.updateKey chosen change) :=
    ⟨rfl, forall₂_updateFirst NodeIndexSet.SameKeys.refl hset _ dev.typeLst⟩
  exact forall₂_updateFirst NodeDev.SameKeys.refl hdev _ devs

theorem sameTree_changeKey
    (hchange : ∀ node, NodeKey.SameKey node (change node))
    (name : KeyName) (devs : List NodeDev) :
    SameTree devs (changeKey name change devs) := by
  have hdomain (domain : NodeDomain) :
      domain.SameKeys (domain.changeKey name change) :=
    ⟨rfl, forall₂_updateFirst NodeKey.SameKey.refl hchange _ domain.keyLst⟩
  have hindex (index : NodeIndex) :
      index.SameKeys (index.changeKey name change) :=
    ⟨rfl, forall₂_updateFirst NodeDomain.SameKeys.refl hdomain _
      index.domainLst⟩
  have hset (set : NodeIndexSet) :
      set.SameKeys (set.changeKey name change) :=
    ⟨rfl, forall₂_updateFirst NodeIndex.SameKeys.refl hindex _ set.indexLst⟩
  have hdev (dev : NodeDev) : dev.SameKeys (dev.changeKey name change) :=
    ⟨rfl, forall₂_updateFirst NodeIndexSet.SameKeys.refl hset _ dev.typeLst⟩
  exact forall₂_updateFirst NodeDev.SameKeys.refl hdev _ devs

theorem sameTree_modifyKey
    (hchange : ∀ node, NodeKey.SameKey node (change node)) (place : ℕ)
    (devs : List NodeDev) : SameTree devs (modifyKey change place devs) := by
  have hdomain (place : ℕ) (domain : NodeDomain) :
      domain.SameKeys (domain.modifyKey change place) :=
    ⟨rfl, forall₂_modify NodeKey.SameKey.refl hchange place domain.keyLst⟩
  have hindex (place : ℕ) (index : NodeIndex) :
      index.SameKeys (index.modifyKey change place) :=
    ⟨rfl, forall₂_modifyLeaf NodeDomain.SameKeys.refl hdomain place
      index.domainLst⟩
  have hset (place : ℕ) (set : NodeIndexSet) :
      set.SameKeys (set.modifyKey change place) :=
    ⟨rfl, forall₂_modifyLeaf NodeIndex.SameKeys.refl hindex place
      set.indexLst⟩
  have hdev (place : ℕ) (dev : NodeDev) :
      dev.SameKeys (dev.modifyKey change place) :=
    ⟨rfl, forall₂_modifyLeaf NodeIndexSet.SameKeys.refl hset place
      dev.typeLst⟩
  exact forall₂_modifyLeaf NodeDev.SameKeys.refl hdev place devs

end Walks

/-- The callback under a name: whether there is a key, and what it stores. -/
def callbackOf (name : KeyName) (devs : List NodeDev) : Option (Option ℕ) :=
  (findKey name devs).map NodeKey.cloud2dev

section CallbackOf

theorem NodeDomain.SameKeys.findKey {old new : NodeDomain}
    (hsame : old.SameKeys new) :
    (new.findKey name).map NodeKey.cloud2dev =
      (old.findKey name).map NodeKey.cloud2dev := by
  unfold NodeDomain.findKey
  rw [Option.map_eq_bind, Option.map_eq_bind]
  apply find?_bind_of_forall₂ hsame.keyLst
  · intro old new hkey
    rw [hkey.key]
  · intro old new hkey
    exact congrArg some hkey.cloud2dev

theorem NodeIndex.SameKeys.findKey {old new : NodeIndex}
    (hsame : old.SameKeys new) :
    (new.findKey name).map NodeKey.cloud2dev =
      (old.findKey name).map NodeKey.cloud2dev := by
  unfold NodeIndex.findKey
  rw [Option.map_bind, Option.map_bind]
  apply find?_bind_of_forall₂ hsame.domainLst
  · intro old new hdomain
    rw [hdomain.domainString]
  · intro old new hdomain
    exact hdomain.findKey

theorem NodeIndexSet.SameKeys.findKey {old new : NodeIndexSet}
    (hsame : old.SameKeys new) :
    (new.findKey name).map NodeKey.cloud2dev =
      (old.findKey name).map NodeKey.cloud2dev := by
  unfold NodeIndexSet.findKey
  rw [Option.map_bind, Option.map_bind]
  apply find?_bind_of_forall₂ hsame.indexLst
  · intro old new hindex
    rw [hindex.index]
  · intro old new hindex
    exact hindex.findKey

theorem NodeDev.SameKeys.findKey {old new : NodeDev}
    (hsame : old.SameKeys new) :
    (new.findKey name).map NodeKey.cloud2dev =
      (old.findKey name).map NodeKey.cloud2dev := by
  unfold NodeDev.findKey
  rw [Option.map_bind, Option.map_bind]
  apply find?_bind_of_forall₂ hsame.typeLst
  · intro old new hset
    rw [hset.type]
  · intro old new hset
    exact hset.findKey

theorem SameTree.callbackOf (hsame : SameTree devs devs') (name : KeyName) :
    callbackOf name devs' = callbackOf name devs := by
  unfold EziotSdk.callbackOf EziotSdk.findKey
  rw [Option.map_bind, Option.map_bind]
  apply find?_bind_of_forall₂ hsame
  · intro old new hdev
    rw [hdev.devSn]
  · intro old new hdev
    exact hdev.findKey

end CallbackOf

/-! ## Registrations -/

/-- The names which the nodes of the tree can store as they are given. -/
structure KeyName.Fits (name : KeyName) : Prop where
  sn : name.sn.length < 48
  type_ne_nil : name.type ≠ []
  type : name.type.length < 32
  domain : name.domain.length < 32
  key : name.key.length < 32

theorem storedName_of_lt {size : ℕ} {text : CString} (hsize : 0 < size)
    (hfits : text.length < size) : (storedName size text hsize).1 = text :=
  CString.strncpy_of_length_le (by omega)

theorem storedType_of_lt {text : CString} (hne : text ≠ [])
    (hfits : text.length < 32) : (storedType text).1 = text := by
  have hlength : ¬ CString.strlen text = 0 := by
    rw [CString.strlen_eq_length, List.length_eq_zero_iff]
    exact hne
  unfold storedType
  rw [if_neg hlength]
  exact storedName_of_lt _ hfits

/-- The callback under a key after one property of a registration. -/
def registeredKey (pkey : CString) (known : Option (Option ℕ))
    (business : ShadowBusiness) : Option (Option ℕ) :=
  if business.key.1 = pkey then some business.business2dev else known

/-- The callback under a name after an event, if a registration gave one. -/
def ShadowEvent.registers (devSubserial : CString) (name : KeyName)
    (known : Option (Option ℕ)) : ShadowEvent → Option (Option ℕ)
  | .register res domainId props =>
      if ownSerial devSubserial res.devSerial.1 = name.sn then
        if res.resType.1 = name.type then
          if res.localIndex = name.index then
            if domainId = name.domain then
              props.foldl (registeredKey name.key) known
            else known
          else known
        else known
      else known
  | _ => known

section Registration

variable {known : Option (Option ℕ)}

theorem NodeDomain.findKey_addKeys (hkey : name.key.length < 32)
    (props : List ShadowBusiness) {domain : NodeDomain}
    (hknown : ∀ callback, known = some callback →
      (domain.findKey name).map NodeKey.cloud2dev = some callback) :
    ∀ callback, props.foldl (registeredKey name.key) known = some callback →
      ((domain.addKeys props).findKey name).map NodeKey.cloud2dev =
        some callback := by
  induction props generalizing domain known with
  | nil => exact hknown
  | cons business rest ih =>
      have hname (node : NodeKey) :
          (NodeKey.registered business node).key.1 = node.key.1 := rfl
      apply ih
      unfold NodeDomain.findKey at hknown ⊢
      rw [Option.map_eq_bind] at hknown ⊢
      refine find?_bind_findOrAdd hname ?_ ?_ ?_ hknown
      · intro hgiven
        exact storedName_of_lt (by decide) (hgiven ▸ hkey)
      · exact fun _ _ hlater => hlater
      · exact fun _ _ _ hlater => hlater

theorem NodeIndex.findKey_addDomain (hfits : name.Fits) (domainId : CString)
    (props : List ShadowBusiness) {index : NodeIndex}
    (hknown : ∀ callback, known = some callback →
      (index.findKey name).map NodeKey.cloud2dev = some callback) :
    ∀ callback, (if domainId = name.domain then
        props.foldl (registeredKey name.key) known else known) =
          some callback →
      ((index.addDomain domainId props).findKey name).map NodeKey.cloud2dev =
        some callback := by
  have hname (domain : NodeDomain) :
      (domain.addKeys props).domainString.1 = domain.domainString.1 := by
    rw [NodeDomain.domainString_addKeys]
  have hfound (domain : NodeDomain) (hbefore : ∀ callback,
      known = some callback →
        (domain.findKey name).map NodeKey.cloud2dev = some callback) :=
    NodeDomain.findKey_addKeys hfits.key props hbefore
  by_cases hprops : props = []
  · rw [hprops, NodeIndex.addDomain_nil, List.foldl_nil, ite_self]
    exact hknown
  · unfold NodeIndex.findKey at hknown ⊢
    rw [Option.map_bind] at hknown ⊢
    rw [NodeIndex.domainLst_addDomain domainId hprops]
    refine find?_bind_findOrAdd hname ?_ ?_ hfound hknown
    · intro hgiven
      rw [hname]
      exact storedName_of_lt (by decide) (hgiven ▸ hfits.domain)
    · intro hnone
      apply hfound
      rw [hnone]
      exact nofun

theorem NodeIndexSet.findKey_addIndex (hfits : name.Fits) (index : ℤ)
    (domainId : CString) (props : List ShadowBusiness) {set : NodeIndexSet}
    (hknown : ∀ callback, known = some callback →
      (set.findKey name).map NodeKey.cloud2dev = some callback) :
    ∀ callback, (if index = name.index then
        if domainId = name.domain then
          props.foldl (registeredKey name.key) known
        else known
      else known) = some callback →
      ((set.addIndex index domainId props).findKey name).map
        NodeKey.cloud2dev = some callback := by
  have hname (child : NodeIndex) :
      (child.addDomain domainId props).index = child.index :=
    NodeIndex.index_addDomain domainId props child
  have hfound (child : NodeIndex) (hbefore : ∀ callback,
      known = some callback →
        (child.findKey name).map NodeKey.cloud2dev = some callback) :=
    NodeIndex.findKey_addDomain hfits domainId props hbefore
  unfold NodeIndexSet.findKey at hknown ⊢
  rw [Option.map_bind] at hknown ⊢
  refine find?_bind_findOrAdd hname ?_ ?_ hfound hknown
  · intro _
    exact hname (NodeIndex.create index)
  · intro hnone
    apply hfound
    rw [hnone]
    exact nofun

theorem NodeDev.findKey_addIndexSet (hfits : name.Fits) (resType : CString)
    (index : ℤ) (domainId : CString) (props : List ShadowBusiness)
    {dev : NodeDev}
    (hknown : ∀ callback, known = some callback →
      (dev.findKey name).map NodeKey.cloud2dev = some callback) :
    ∀ callback, (if resType = name.type then
        if index = name.index then
          if domainId = name.domain then
            props.foldl (registeredKey name.key) known
          else known
        else known
      else known) = some callback →
      ((dev.addIndexSet resType index domainId props).findKey name).map
        NodeKey.cloud2dev = some callback := by
  have hname (set : NodeIndexSet) :
      (set.addIndex index domainId props).type.1 = set.type.1 := rfl
  have hfound (set : NodeIndexSet) (hbefore : ∀ callback,
      known = some callback →
        (set.findKey name).map NodeKey.cloud2dev = some callback) :=
    NodeIndexSet.findKey_addIndex hfits index domainId props hbefore
  unfold NodeDev.findKey at hknown ⊢
  rw [Option.map_bind] at hknown ⊢
  refine find?_bind_findOrAdd hname ?_ ?_ hfound hknown
  · intro hgiven
    exact storedType_of_lt (hgiven ▸ hfits.type_ne_nil)
      (hgiven ▸ hfits.type)
  · intro hnone
    apply hfound
    rw [hnone]
    exact nofun

/-- A registration keeps what is known of a name, or names it itself. -/
theorem callbackOf_addv3 (hfits : name.Fits) (devSubserial : CString)
    (res : ShadowRes) (domainId : CString) (props : List ShadowBusiness)
    (hknown : ∀ callback, known = some callback →
      callbackOf name devs = some callback) :
    ∀ callback, ShadowEvent.registers devSubserial name known
        (.register res domainId props) = some callback →
      callbackOf name (shadowCoreModuleAddv3 devSubserial res domainId props
        devs).2 = some callback := by
  have hname (dev : NodeDev) :
      (dev.addIndexSet res.resType.1 res.localIndex domainId props).devSn.1 =
        dev.devSn.1 := rfl
  have hfound (dev : NodeDev) (hbefore : ∀ callback,
      known = some callback →
        (dev.findKey name).map NodeKey.cloud2dev = some callback) :=
    NodeDev.findKey_addIndexSet hfits res.resType.1 res.localIndex domainId
      props hbefore
  unfold callbackOf findKey at hknown ⊢
  rw [Option.map_bind] at hknown ⊢
  refine find?_bind_findOrAdd hname ?_ ?_ hfound hknown
  · intro hgiven
    exact storedName_of_lt (by decide) (hgiven ▸ hfits.sn)
  · intro hnone
    apply hfound
    rw [hnone]
    exact nofun

end Registration

/-! ## Along a run -/

theorem NodeKey.sameKey_replied (seq : ℕ) (code : ℤ) (node : NodeKey) :
    node.SameKey (node.replied seq code) := by
  unfold NodeKey.replied
  split_ifs
  · exact ⟨rfl, rfl⟩
  · exact ⟨rfl, rfl⟩

theorem NodeKey.sameKey_expire (node : NodeKey) : node.SameKey node.expire := by
  unfold NodeKey.expire
  split_ifs
  · exact ⟨rfl, rfl⟩
  · exact ⟨rfl, rfl⟩

theorem NodeKey.sameKey_doReport (parse : CString → Option BscJson)
    (answer : ReportAnswer) (node : NodeKey) :
    node.SameKey (node.doReport parse answer).2 := by
  rcases node.doReport_cases parse answer with
    ⟨result, timer, hresult, -, -⟩ | ⟨-, hresult⟩ |
    ⟨seq, json, -, -, -, hresult⟩
  · rw [hresult]
    exact ⟨rfl, rfl⟩
  · rw [hresult]
    exact ⟨rfl, rfl⟩
  · rw [hresult]
    exact ⟨rfl, rfl⟩

theorem NodeIndex.sameKeys_reset (index : NodeIndex) :
    index.SameKeys index.reset := by
  have hkeys := index.sameKeys_mapKeys fun node =>
    (⟨rfl, rfl⟩ : NodeKey.SameKey node node.reset)
  exact ⟨rfl, hkeys.domainLst⟩

theorem NodeIndex.sameKeys_toSync (index : NodeIndex) :
    index.SameKeys index.toSync :=
  ⟨rfl, (NodeIndex.SameKeys.refl index).domainLst⟩

theorem callbackOf_recordAck (seq : ℕ) (code : ℤ) (devs : List NodeDev) :
    callbackOf name (recordAck seq code devs) = callbackOf name devs := by
  unfold recordAck
  split_ifs
  · have hkey (node : NodeKey) : node.SameKey (node.acknowledged seq) :=
      ⟨rfl, rfl⟩
    apply SameTree.callbackOf
    exact sameTree_mapIndexes (NodeIndex.sameKeys_mapKeys hkey) devs
  · rfl

namespace ShadowState

variable {parse : CString → Option BscJson} {devSubserial : CString}
  {state next last : ShadowState}

/-- Only a registration changes what a search by name finds. -/
theorem callbackOf_step {event : ShadowEvent} (name : KeyName)
    (hstep : state.step parse devSubserial event = some next)
    (hother : ∀ res domainId props, event ≠ .register res domainId props) :
    callbackOf name next.devs = callbackOf name state.devs := by
  cases event with
  | register res domainId props => exact absurd rfl (hother res domainId props)
  | push res domainId pkey value =>
      simp only [step] at hstep
      rw [(locked_eq_some hstep).2]
      dsimp only
      cases hfind : findKey (res.keyName devSubserial domainId pkey)
          state.devs with
      | none => rw [shadowCorePropertieChanged_of_none value hfind]
      | some node =>
          rw [shadowCorePropertieChanged_of_some value hfind]
          have hkey (node : NodeKey) :
              node.SameKey (NodeKey.pushed parse value node) := ⟨rfl, rfl⟩
          exact (sameTree_changeKey hkey _ state.devs).callbackOf name
  | reset =>
      rw [(locked_eq_some hstep).2]
      apply SameTree.callbackOf
      exact sameTree_mapIndexes NodeIndex.sameKeys_reset state.devs
  | toSync =>
      rw [(locked_eq_some hstep).2]
      apply SameTree.callbackOf
      exact sameTree_mapIndexes NodeIndex.sameKeys_toSync state.devs
  | startReport =>
      unfold step at hstep
      split_ifs at hstep
      rw [← Option.some.inj hstep]
  | report answer =>
      unfold step at hstep
      cases hwalk : state.walk with
      | none => simp only [hwalk] at hstep; cases hstep
      | some place =>
          cases hget : state.keys[place]? with
          | none =>
              simp only [hwalk, hget, Option.some.injEq] at hstep
              rw [← hstep]
          | some key =>
              simp only [hwalk, hget] at hstep
              rw [(reportAt_cases hstep).1]
              apply SameTree.callbackOf
              exact sameTree_modifyKey
                (NodeKey.sameKey_doReport parse answer) place state.devs
  | expire place =>
      unfold step at hstep
      cases hget : state.keys[place]? with
      | none => simp only [hget] at hstep; cases hstep
      | some key =>
          simp only [hget, Option.some.injEq] at hstep
          rw [← hstep]
          apply SameTree.callbackOf
          exact sameTree_modifyKey NodeKey.sameKey_expire place state.devs
  | ack seq code =>
      simp only [step] at hstep
      rw [(locked_eq_some hstep).2]
      have hreply := sameTree_updateKey (NodeKey.sameKey_replied seq code)
        (fun node => node.msgSeq = seq) (recordAck seq code state.devs)
      exact (hreply.callbackOf name).trans
        (callbackOf_recordAck seq code state.devs)

theorem registers_step {event : ShadowEvent} {name : KeyName}
    (hfits : name.Fits) {known : Option (Option ℕ)}
    (hknown : ∀ callback, known = some callback →
      callbackOf name state.devs = some callback)
    (hstep : state.step parse devSubserial event = some next) :
    ∀ callback, event.registers devSubserial name known = some callback →
      callbackOf name next.devs = some callback := by
  cases event with
  | register res domainId props =>
      simp only [step] at hstep
      rw [(locked_eq_some hstep).2]
      exact callbackOf_addv3 hfits devSubserial res domainId props hknown
  | push | reset | toSync | startReport | report | expire | ack =>
      intro callback hcallback
      rw [callbackOf_step name hstep (by rintro _ _ _ ⟨⟩)]
      exact hknown callback hcallback

/-- The callback of the last registration of a name in a run. -/
def lastRegistered (devSubserial : CString) (name : KeyName)
    (events : List ShadowEvent) : Option (Option ℕ) :=
  events.foldl (ShadowEvent.registers devSubserial name) none

/-- A registered name that the nodes can store is found at the end of a run,
with the callback of its last registration. -/
theorem callbackOf_of_lastRegistered {name : KeyName} (hfits : name.Fits)
    {events : List ShadowEvent} {callback : Option ℕ}
    (hexec : StepSystem.exec (step parse devSubserial) init events =
      some last)
    (hregistered : lastRegistered devSubserial name events =
      some callback) :
    callbackOf name last.devs = some callback := by
  have hrun : ∀ (events : List ShadowEvent) (state : ShadowState)
      (known : Option (Option ℕ)),
      (∀ callback, known = some callback →
        callbackOf name state.devs = some callback) →
      StepSystem.exec (step parse devSubserial) state events = some last →
      ∀ callback,
        events.foldl (ShadowEvent.registers devSubserial name) known =
          some callback → callbackOf name last.devs = some callback := by
    intro events
    induction events with
    | nil =>
        intro state known hknown hexec
        rw [StepSystem.exec_nil, Option.some.injEq] at hexec
        rw [← hexec]
        exact hknown
    | cons event rest ih =>
        intro state known hknown hexec
        rw [StepSystem.exec_cons] at hexec
        rcases Option.bind_eq_some_iff.mp hexec with ⟨next, hstep, hrest⟩
        exact ih next _ (registers_step hfits hknown hstep) hrest
  exact hrun events init none nofun hexec callback hregistered

end ShadowState

/-! ## The numbers that are waited for -/

/-- The number of the outstanding report, if there is one. -/
def NodeKey.outstanding (node : NodeKey) : List ℕ :=
  if node.msgSeq = 0 then [] else [node.msgSeq]

namespace ShadowState

variable {parse : CString → Option BscJson} {devSubserial : CString}
  {state next : ShadowState}

/-- No two keys wait for one number, and every number was sent. -/
structure NumbersApart (state : ShadowState) : Prop where
  nodup : (state.keys.flatMap NodeKey.outstanding).Nodup
  sent : ∀ seq ∈ state.keys.flatMap NodeKey.outstanding, seq ∈ state.seqs

theorem NumbersApart.of_sublist (happart : state.NumbersApart)
    (hsublist : (next.keys.flatMap NodeKey.outstanding).Sublist
      (state.keys.flatMap NodeKey.outstanding))
    (hseqs : ∀ seq ∈ state.seqs, seq ∈ next.seqs) : next.NumbersApart where
  nodup := happart.nodup.sublist hsublist
  sent := fun seq hmem => hseqs seq (happart.sent seq (hsublist.subset hmem))

theorem outstanding_replied (seq : ℕ) (code : ℤ) (node : NodeKey) :
    (node.replied seq code).outstanding = [] := by
  unfold NodeKey.replied
  split_ifs
  · rfl
  · rfl

theorem NumbersApart.report {answer : ReportAnswer} {place : ℕ}
    {key : NodeKey} (hget : state.keys[place]? = some key)
    (hreport : state.reportAt parse answer place key = some next)
    (happart : state.NumbersApart) : next.NumbersApart := by
  have hreplaces := replaces_reportAt hget hreport
  rcases reportAt_cases hreport with ⟨-, ⟨hseqs, hnot⟩ |
    ⟨seq, hsent, hne, hfresh, hseqs⟩⟩
  · rcases key.doReport_cases parse answer with
      ⟨result, timer, hresult, -, -⟩ | ⟨-, hresult⟩ |
      ⟨seq, json, -, -, -, hresult⟩
    · have hview : (key.doReport parse answer).2.outstanding =
          key.outstanding := by
        rw [hresult]
        rfl
      apply happart.of_sublist
      · rw [hreplaces.flatMap_eq hview]
      · rw [hseqs]
        exact fun _ hmem => hmem
    · have hview : (key.doReport parse answer).2.outstanding =
          key.outstanding := by
        rw [hresult]
        rfl
      apply happart.of_sublist
      · rw [hreplaces.flatMap_eq hview]
      · rw [hseqs]
        exact fun _ hmem => hmem
    · rw [hresult] at hnot
      exact absurd rfl (hnot seq)
  · have hview : (key.doReport parse answer).2.outstanding = [seq] := by
      rcases key.doReport_cases parse answer with
        ⟨result, timer, hresult, -, hnot⟩ | ⟨-, hresult⟩ |
        ⟨used, json, -, -, -, hresult⟩
      · rw [hresult] at hsent
        exact absurd hsent (hnot seq)
      · rw [hresult] at hsent
        cases hsent
      · rw [hresult] at hsent ⊢
        cases hsent
        exact if_neg hne
    have hnot : seq ∉ state.keys.flatMap NodeKey.outstanding :=
      fun hmem => hfresh (happart.sent seq hmem)
    have hnodup := hreplaces.nodup_flatMap hview hnot happart.nodup
    refine ⟨hnodup.1, ?_⟩
    intro other hmem
    rw [hseqs, List.mem_cons]
    exact (hnodup.2 other hmem).imp id (happart.sent other)

theorem NumbersApart.ack {seq : ℕ} {code : ℤ}
    (hstep : state.step parse devSubserial (.ack seq code) = some next)
    (happart : state.NumbersApart) : next.NumbersApart := by
  simp only [step] at hstep
  rw [(locked_eq_some hstep).2]
  have hrecorded : (treeKeys (recordAck seq code state.devs)).flatMap
      NodeKey.outstanding = state.keys.flatMap NodeKey.outstanding := by
    by_cases hcode : code = 0
    · rw [hcode, treeKeys_recordAck, List.flatMap_map]
      rfl
    · rw [recordAck, if_neg hcode]
      rfl
  refine happart.of_sublist ?_ fun _ hmem => hmem
  unfold keys shadowReply2report
  rw [treeKeys_updateKey]
  cases hfind : (treeKeys (recordAck seq code state.devs)).find?
      (fun node => node.msgSeq = seq) with
  | none =>
      rw [FirstMatch.updateFirst_of_find?_eq_none _ hfind, hrecorded]
      exact List.Sublist.refl _
  | some node =>
      have hreplaces := NodeLists.replaces_updateFirst
        (NodeKey.replied seq code) hfind
      have hsublist := hreplaces.flatMap_sublist
        (outstanding_replied seq code node)
      rw [hrecorded] at hsublist
      exact hsublist

theorem NumbersApart.step {event : ShadowEvent}
    (happart : state.NumbersApart)
    (hstep : state.step parse devSubserial event = some next) :
    next.NumbersApart := by
  cases event with
  | register res domainId props =>
      simp only [ShadowState.step] at hstep
      rw [(locked_eq_some hstep).2]
      refine happart.of_sublist ?_ fun _ hmem => hmem
      unfold keys
      rw [flatMap_shadowCoreModuleAddv3 (fun _ _ => rfl) (fun _ => rfl)]
  | push res domainId pkey value =>
      simp only [ShadowState.step] at hstep
      rw [(locked_eq_some hstep).2]
      refine happart.of_sublist ?_ fun _ hmem => hmem
      unfold keys
      cases hfind : findKey (res.keyName devSubserial domainId pkey)
          state.devs with
      | none =>
          rw [shadowCorePropertieChanged_of_none value hfind]
      | some node =>
          rw [shadowCorePropertieChanged_of_some value hfind]
          exact (replaces_changeKey (NodeKey.pushed parse value)
            hfind).flatMap_sublist rfl
  | reset =>
      rw [(locked_eq_some hstep).2]
      refine happart.of_sublist ?_ fun _ hmem => hmem
      unfold keys
      rw [treeKeys_shadowStatusReset, List.flatMap_map]
      exact List.Sublist.refl _
  | toSync =>
      rw [(locked_eq_some hstep).2]
      refine happart.of_sublist ?_ fun _ hmem => hmem
      unfold keys
      rw [treeKeys_shadowStatus2sync]
  | startReport =>
      unfold ShadowState.step at hstep
      split_ifs at hstep
      rw [← Option.some.inj hstep]
      exact happart.of_sublist (List.Sublist.refl _) fun _ hmem => hmem
  | report answer =>
      unfold ShadowState.step at hstep
      cases hwalk : state.walk with
      | none => simp only [hwalk] at hstep; cases hstep
      | some place =>
          cases hget : state.keys[place]? with
          | none =>
              simp only [hwalk, hget, Option.some.injEq] at hstep
              rw [← hstep]
              exact happart.of_sublist (List.Sublist.refl _)
                fun _ hmem => hmem
          | some key =>
              simp only [hwalk, hget] at hstep
              exact happart.report hget hstep
  | expire place =>
      unfold ShadowState.step at hstep
      cases hget : state.keys[place]? with
      | none => simp only [hget] at hstep; cases hstep
      | some key =>
          simp only [hget, Option.some.injEq] at hstep
          rw [← hstep]
          have hview : key.expire.outstanding = key.outstanding := by
            unfold NodeKey.expire
            split_ifs
            · rfl
            · rfl
          have hreplaces := replaces_modifyKey NodeKey.expire hget
          refine happart.of_sublist ?_ fun _ hmem => hmem
          unfold keys
          rw [hreplaces.flatMap_eq hview]
  | ack seq code => exact happart.ack hstep

/-- In every state of a run the outstanding numbers are apart. -/
theorem numbersApart_of_exec {last : ShadowState} {events : List ShadowEvent}
    (hexec : StepSystem.exec (step parse devSubserial) init events =
      some last) : last.NumbersApart := by
  have hstart : init.NumbersApart := ⟨List.nodup_nil, nofun⟩
  have hkeep : ∀ state event next, NumbersApart state →
      step parse devSubserial state event = some next → next.NumbersApart :=
    fun _ _ _ happart hstep => happart.step hstep
  have halong := StepSystem.along_of_invariant hkeep events hstart
  exact halong events [] last (List.append_nil _).symm hexec

end ShadowState

end EziotSdk

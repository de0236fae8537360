import EziotSdk.ShadowSearch

/-!
# Local and cloud addresses

A push searches the tree with the names of its caller, a message of the
platform with the names that the router hands on, and an acknowledgement with
its number.  They end in one node when the nodes can store the names and both
sides write the serial of the device in the same way.
-/

namespace EziotSdk

open NodeLists

variable {devs : List NodeDev} {name : KeyName}

/-! ## The router -/

/-- The parts of `ezdev_sdk_kernel_submsg_v3` that name a resource. -/
structure ShadowSubmsg where
  subSerial : CString.Buffer 72
  resourceType : CString.Buffer 64
  resourceId : CString.Buffer 64
  deriving Repr

/-- The conversion of an `int` to `int16_t`. -/
def int16 (value : ℤ) : ℤ := Int.bmod value (2 ^ 16)

/-- The serial which the router takes for a message. -/
def routedSerial (subSerial : CString) : CString :=
  if CString.strlen subSerial = 0 then shadowDefaultName else subSerial

/-- The resource that `Shadow_v3_extend_data_route_cb` hands on. -/
def shadowV3ExtendDataRouteCb (message : ShadowSubmsg) : ShadowRes where
  devSerial := storedName 72 (routedSerial message.subSerial.1)
    ShadowRes.devSerial_pos
  resType := storedName 64 message.resourceType.1 ShadowRes.resType_pos
  localIndex := int16 (CString.atoi message.resourceId.1)

/-- The names for which `do_set` and `shadow_status_sync_disable` search. -/
def ShadowSubmsg.keyName (message : ShadowSubmsg) (domainId pkey : CString) :
    KeyName where
  sn := (shadowV3ExtendDataRouteCb message).devSerial.1
  type := (shadowV3ExtendDataRouteCb message).resType.1
  index := (shadowV3ExtendDataRouteCb message).localIndex
  domain := domainId
  key := pkey

/-- The callback that `do_set` calls. -/
def doSetCallback (name : KeyName) (devs : List NodeDev) : Option ℕ :=
  (findKey name devs).bind NodeKey.cloud2dev

/-- A message with the type and the channel of a resource, for whichever
device. -/
structure ShadowSubmsg.Names (message : ShadowSubmsg) (res : ShadowRes) :
    Prop where
  type : message.resourceType.1 = res.resType.1
  index : int16 (CString.atoi message.resourceId.1) = res.localIndex

/-! ## Places in the tree -/

/-- What a walk through the tree chooses in each list. -/
structure TreeSearch where
  dev : NodeDev → Bool
  set : NodeIndexSet → Bool
  index : NodeIndex → Bool
  domain : NodeDomain → Bool
  key : NodeKey → Bool

namespace TreeSearch

/-- The `shadow_module_find_*` functions. -/
def byName (name : KeyName) : TreeSearch where
  dev := fun dev => dev.devSn.1 = name.sn
  set := fun set => set.type.1 = name.type
  index := fun index => index.index = name.index
  domain := fun domain => domain.domainString.1 = name.domain
  key := fun node => node.key.1 = name.key

/-- The walk of `shadow_reply2report`. -/
def byNumber (seq : ℕ) : TreeSearch where
  dev := fun dev => dev.keys.any fun node => node.msgSeq = seq
  set := fun set => set.keys.any fun node => node.msgSeq = seq
  index := fun index => index.keys.any fun node => node.msgSeq = seq
  domain := fun domain => domain.keyLst.any fun node => node.msgSeq = seq
  key := fun node => node.msgSeq = seq

def indexPlace (search : TreeSearch) (devs : List NodeDev) :
    Option (ℕ × ℕ × ℕ) :=
  locate search.dev (fun dev =>
    locate search.set (fun set =>
      set.indexLst.findIdx? search.index) dev.typeLst) devs

def keyPlace (search : TreeSearch) (devs : List NodeDev) :
    Option (ℕ × ℕ × ℕ × ℕ × ℕ) :=
  locate search.dev (fun dev =>
    locate search.set (fun set =>
      locate search.index (fun index =>
        locate search.domain (fun domain =>
          domain.keyLst.findIdx? search.key) index.domainLst)
        set.indexLst) dev.typeLst) devs

end TreeSearch

def keyAt (place : ℕ × ℕ × ℕ × ℕ × ℕ) (devs : List NodeDev) :
    Option NodeKey :=
  devs[place.1]?.bind fun dev =>
    dev.typeLst[place.2.1]?.bind fun set =>
      set.indexLst[place.2.2.1]?.bind fun index =>
        index.domainLst[place.2.2.2.1]?.bind fun domain =>
          domain.keyLst[place.2.2.2.2]?

/-- A push, a set, the sync logic and the acknowledgement of an outstanding
report come to one place, and a set calls the registered callback. -/
structure AgreeAt (devSubserial : CString) (res : ShadowRes)
    (domainId pkey : CString) (message : ShadowSubmsg)
    (callback : Option ℕ) (devs : List NodeDev)
    (place : ℕ × ℕ × ℕ × ℕ × ℕ) (node : NodeKey) : Prop where
  held : keyAt place devs = some node
  pushed : (TreeSearch.byName
    (res.keyName devSubserial domainId pkey)).keyPlace devs = some place
  set : (TreeSearch.byName (message.keyName domainId pkey)).keyPlace devs =
    some place
  called : doSetCallback (message.keyName domainId pkey) devs = callback
  synced : (TreeSearch.byName (message.keyName domainId pkey)).indexPlace
    devs = some (place.1, place.2.1, place.2.2.1)
  acked : node.msgSeq ≠ 0 →
    (TreeSearch.byNumber node.msgSeq).keyPlace devs = some place

def AddressesAgree (devSubserial : CString) (res : ShadowRes)
    (domainId pkey : CString) (message : ShadowSubmsg)
    (callback : Option ℕ) (devs : List NodeDev) : Prop :=
  ∃ place node,
    AgreeAt devSubserial res domainId pkey message callback devs place node

/-- The nodes can store the names of the resource as they are given, and the
router takes the serial that the local calls use. -/
structure AddressFits (devSubserial : CString) (res : ShadowRes)
    (domainId pkey : CString) (message : ShadowSubmsg) : Prop where
  names : (res.keyName devSubserial domainId pkey).Fits
  serial : ownSerial devSubserial res.devSerial.1 =
    routedSerial message.subSerial.1

/-! ## What a search by names finds -/

theorem keyPlace_of_findKey {node : NodeKey}
    (hfind : findKey name devs = some node) :
    ∃ place, (TreeSearch.byName name).keyPlace devs = some place ∧
      keyAt place devs = some node ∧
      (TreeSearch.byName name).indexPlace devs =
        some (place.1, place.2.1, place.2.2.1) := by
  rcases Option.bind_eq_some_iff.mp hfind with ⟨dev, hdev, hinDev⟩
  rcases Option.bind_eq_some_iff.mp hinDev with ⟨set, hset, hinSet⟩
  rcases Option.bind_eq_some_iff.mp hinSet with ⟨index, hindex, hinIndex⟩
  rcases Option.bind_eq_some_iff.mp hinIndex with
    ⟨domain, hdomain, hinDomain⟩
  rcases findIdx?_of_find? hdev with ⟨i, hi, hiDev⟩
  rcases findIdx?_of_find? hset with ⟨j, hj, hjSet⟩
  rcases findIdx?_of_find? hindex with ⟨k, hk, hkIndex⟩
  rcases findIdx?_of_find? hdomain with ⟨l, hl, hlDomain⟩
  rcases findIdx?_of_find? hinDomain with ⟨m, hm, hmKey⟩
  refine ⟨(i, j, k, l, m), ?_, ?_, ?_⟩
  · exact locate_eq_some_iff.mpr ⟨hi, dev, hiDev,
      locate_eq_some_iff.mpr ⟨hj, set, hjSet,
        locate_eq_some_iff.mpr ⟨hk, index, hkIndex,
          locate_eq_some_iff.mpr ⟨hl, domain, hlDomain, hm⟩⟩⟩⟩
  · simp only [keyAt, hiDev, hjSet, hkIndex, hlDomain, hmKey,
      Option.bind_some]
  · exact locate_eq_some_iff.mpr ⟨hi, dev, hiDev,
      locate_eq_some_iff.mpr ⟨hj, set, hjSet, hk⟩⟩

theorem findKey_of_keyPlace {place : ℕ × ℕ × ℕ × ℕ × ℕ}
    (hplace : (TreeSearch.byName name).keyPlace devs = some place) :
    ∃ node, findKey name devs = some node := by
  rcases place with ⟨i, j, k, l, m⟩
  rcases locate_eq_some_iff.mp hplace with ⟨hi, dev, hiDev, hinDev⟩
  rcases locate_eq_some_iff.mp hinDev with ⟨hj, set, hjSet, hinSet⟩
  rcases locate_eq_some_iff.mp hinSet with ⟨hk, index, hkIndex, hinIndex⟩
  rcases locate_eq_some_iff.mp hinIndex with ⟨hl, domain, hlDomain, hm⟩
  have hkey : ∃ node, domain.keyLst[m]? = some node := by
    have hlt := (List.findIdx?_eq_some_iff_getElem.mp hm).1
    exact ⟨_, List.getElem?_eq_getElem hlt⟩
  rcases hkey with ⟨node, hmKey⟩
  refine ⟨node, ?_⟩
  exact Option.bind_eq_some_iff.mpr ⟨dev, find?_of_findIdx? hi hiDev,
    Option.bind_eq_some_iff.mpr ⟨set, find?_of_findIdx? hj hjSet,
      Option.bind_eq_some_iff.mpr ⟨index, find?_of_findIdx? hk hkIndex,
        Option.bind_eq_some_iff.mpr ⟨domain, find?_of_findIdx? hl hlDomain,
          find?_of_findIdx? hm hmKey⟩⟩⟩⟩

/-- Only names that the nodes can store are found. -/
theorem fits_of_findKey {node : NodeKey}
    (hfind : findKey name devs = some node) : name.Fits := by
  rcases Option.bind_eq_some_iff.mp hfind with ⟨dev, hdev, hinDev⟩
  rcases Option.bind_eq_some_iff.mp hinDev with ⟨set, hset, hinSet⟩
  rcases Option.bind_eq_some_iff.mp hinSet with ⟨index, hindex, hinIndex⟩
  rcases Option.bind_eq_some_iff.mp hinIndex with
    ⟨domain, hdomain, hinDomain⟩
  have hsn : dev.devSn.1 = name.sn := by simpa using List.find?_some hdev
  have htype : set.type.1 = name.type := by simpa using List.find?_some hset
  have hdomainId : domain.domainString.1 = name.domain := by
    simpa using List.find?_some hdomain
  have hkey : node.key.1 = name.key := by
    simpa using List.find?_some hinDomain
  exact
    { sn := hsn ▸ dev.devSn.2
      type_ne_nil := htype ▸ set.type_ne_nil
      type := htype ▸ set.type.2
      domain := hdomainId ▸ domain.domainString.2
      key := hkey ▸ node.key.2 }

/-- Two searches by names that come to one place have one serial. -/
theorem sn_eq_of_keyPlace {other : KeyName} {place : ℕ × ℕ × ℕ × ℕ × ℕ}
    (hplace : (TreeSearch.byName name).keyPlace devs = some place)
    (hother : (TreeSearch.byName other).keyPlace devs = some place) :
    name.sn = other.sn := by
  rcases place with ⟨i, rest⟩
  rcases locate_eq_some_iff.mp hplace with ⟨hi, dev, hiDev, -⟩
  rcases locate_eq_some_iff.mp hother with ⟨hj, dev', hjDev, -⟩
  rw [hiDev, Option.some.injEq] at hjDev
  have hsn := List.find?_some (find?_of_findIdx? hi hiDev)
  have hsn' := List.find?_some (find?_of_findIdx? hj (hjDev ▸ hiDev))
  simp only [TreeSearch.byName, decide_eq_true_eq] at hsn hsn'
  exact hsn.symm.trans (hjDev ▸ hsn')

/-! ## What a search by number finds -/

theorem findIdx?_of_unique {α : Type*} {wanted : α → Bool} {list : List α}
    {position : ℕ} {node : α} (hunique : list.countP wanted ≤ 1)
    (hnode : list[position]? = some node) (hwanted : wanted node = true) :
    list.findIdx? wanted = some position := by
  have hcount : (list.flatMap fun node => [node]).countP wanted ≤ 1 := by
    rw [List.flatMap_singleton']
    exact hunique
  have hany : [node].any wanted = true := by simpa using hwanted
  have hfound := findIdx?_any_of_unique hcount hnode hany
  simpa using hfound

theorem keyPlace_byNumber {place : ℕ × ℕ × ℕ × ℕ × ℕ} {node : NodeKey}
    {seq : ℕ}
    (hunique : (treeKeys devs).countP (fun node => node.msgSeq = seq) ≤ 1)
    (hheld : keyAt place devs = some node) (hseq : node.msgSeq = seq) :
    (TreeSearch.byNumber seq).keyPlace devs = some place := by
  rcases place with ⟨i, j, k, l, m⟩
  rcases Option.bind_eq_some_iff.mp hheld with ⟨dev, hiDev, hinDev⟩
  rcases Option.bind_eq_some_iff.mp hinDev with ⟨set, hjSet, hinSet⟩
  rcases Option.bind_eq_some_iff.mp hinSet with ⟨index, hkIndex, hinIndex⟩
  rcases Option.bind_eq_some_iff.mp hinIndex with ⟨domain, hlDomain, hmKey⟩
  have hnode : node ∈ domain.keyLst := List.mem_of_getElem? hmKey
  have hindexKey : node ∈ index.keys :=
    List.mem_flatMap.mpr ⟨domain, List.mem_of_getElem? hlDomain, hnode⟩
  have hsetKey : node ∈ set.keys :=
    List.mem_flatMap.mpr ⟨index, List.mem_of_getElem? hkIndex, hindexKey⟩
  have hdevKey : node ∈ dev.keys :=
    List.mem_flatMap.mpr ⟨set, List.mem_of_getElem? hjSet, hsetKey⟩
  have hany {keys : List NodeKey} (hmem : node ∈ keys) :
      (keys.any fun node => node.msgSeq = seq) = true :=
    List.any_eq_true.mpr ⟨node, hmem, by simpa using hseq⟩
  have hdev : dev.keys.countP (fun node => node.msgSeq = seq) ≤ 1 :=
    (countP_leaves_le (List.mem_of_getElem? hiDev)).trans hunique
  have hset : set.keys.countP (fun node => node.msgSeq = seq) ≤ 1 :=
    (countP_leaves_le (List.mem_of_getElem? hjSet)).trans hdev
  have hindex : index.keys.countP (fun node => node.msgSeq = seq) ≤ 1 :=
    (countP_leaves_le (List.mem_of_getElem? hkIndex)).trans hset
  have hdomain : domain.keyLst.countP (fun node => node.msgSeq = seq) ≤ 1 :=
    (countP_leaves_le (List.mem_of_getElem? hlDomain)).trans hindex
  exact locate_eq_some_iff.mpr
    ⟨findIdx?_any_of_unique hunique hiDev (hany hdevKey), dev, hiDev,
      locate_eq_some_iff.mpr
        ⟨findIdx?_any_of_unique hdev hjSet (hany hsetKey), set, hjSet,
          locate_eq_some_iff.mpr
            ⟨findIdx?_any_of_unique hset hkIndex (hany hindexKey), index,
              hkIndex, locate_eq_some_iff.mpr
                ⟨findIdx?_any_of_unique hindex hlDomain (hany hnode), domain,
                  hlDomain, findIdx?_of_unique hdomain hmKey
                    (decide_eq_true hseq)⟩⟩⟩⟩

theorem countP_msgSeq {seq : ℕ} (hseq : seq ≠ 0) (keys : List NodeKey) :
    keys.countP (fun node => node.msgSeq = seq) =
      (keys.flatMap NodeKey.outstanding).count seq := by
  induction keys with
  | nil => rfl
  | cons node rest ih =>
      have hnode : node.outstanding.count seq =
          if node.msgSeq = seq then 1 else 0 := by
        unfold NodeKey.outstanding
        split_ifs with hzero hmatch hmatch
        · exact absurd (hmatch.symm.trans hzero) hseq
        · rfl
        · rw [hmatch]
          exact List.count_singleton_self
        · exact List.count_singleton.trans (if_neg (by simpa using hmatch))
      rw [List.flatMap_cons, List.count_append, List.countP_cons, ih, hnode,
        add_comm]
      simp

theorem ShadowState.NumbersApart.countP_le {state : ShadowState}
    (happart : state.NumbersApart) {seq : ℕ} (hseq : seq ≠ 0) :
    (treeKeys state.devs).countP (fun node => node.msgSeq = seq) ≤ 1 := by
  rw [countP_msgSeq hseq]
  exact List.nodup_iff_count_le_one.mp happart.nodup seq

/-! ## Agreement -/

theorem routedSerial_length (subSerial : CString.Buffer 72) :
    (routedSerial subSerial.1).length < 72 := by
  unfold routedSerial
  split_ifs
  · decide
  · exact subSerial.2

theorem ShadowSubmsg.keyName_sn (message : ShadowSubmsg)
    (domainId pkey : CString) :
    (message.keyName domainId pkey).sn = routedSerial message.subSerial.1 :=
  storedName_of_lt (by decide) (routedSerial_length message.subSerial)

/-- The router changes nothing but the serial. -/
theorem ShadowSubmsg.keyName_eq {message : ShadowSubmsg} {res : ShadowRes}
    (hnames : message.Names res) (domainId pkey devSubserial : CString) :
    message.keyName domainId pkey =
      { res.keyName devSubserial domainId pkey with
        sn := routedSerial message.subSerial.1 } := by
  have htype : (shadowV3ExtendDataRouteCb message).resType.1 =
      res.resType.1 :=
    (storedName_of_lt (by decide) message.resourceType.2).trans hnames.type
  have hindex : (shadowV3ExtendDataRouteCb message).localIndex =
      res.localIndex := hnames.index
  have hsn : (shadowV3ExtendDataRouteCb message).devSerial.1 =
      routedSerial message.subSerial.1 := message.keyName_sn domainId pkey
  unfold keyName
  rw [hsn, htype, hindex]
  rfl

namespace ShadowState

variable {parse : CString → Option BscJson} {devSubserial : CString}
  {last : ShadowState}

/-- For a registered resource, the local calls and the platform come to one
node exactly if the names fit and the serial is routed as it is stored. -/
theorem addressesAgree_iff_addressFits {events : List ShadowEvent}
    (hexec : StepSystem.exec (step parse devSubserial) init events =
      some last)
    {res : ShadowRes} {domainId pkey : CString} {callback : Option ℕ}
    (hregistered : lastRegistered devSubserial
      (res.keyName devSubserial domainId pkey) events = some callback)
    {message : ShadowSubmsg} (hnames : message.Names res) :
    AddressesAgree devSubserial res domainId pkey message callback
        last.devs ↔
      AddressFits devSubserial res domainId pkey message := by
  constructor
  · rintro ⟨place, node, hagree⟩
    rcases findKey_of_keyPlace hagree.pushed with ⟨found, hfound⟩
    refine ⟨fits_of_findKey hfound, ?_⟩
    have hsn := sn_eq_of_keyPlace hagree.pushed hagree.set
    rw [message.keyName_sn] at hsn
    exact hsn
  · intro hfits
    have heq : message.keyName domainId pkey =
        res.keyName devSubserial domainId pkey := by
      rw [message.keyName_eq hnames domainId pkey devSubserial,
        ← hfits.serial]
      rfl
    have hcallback := callbackOf_of_lastRegistered hfits.names hexec
      hregistered
    rcases Option.map_eq_some_iff.mp hcallback with ⟨node, hfind, hcalled⟩
    rcases keyPlace_of_findKey hfind with ⟨place, hplace, hheld, hindex⟩
    refine ⟨place, node, ?_⟩
    exact
      { held := hheld
        pushed := hplace
        set := by rw [heq]; exact hplace
        called := by
          unfold doSetCallback
          rw [heq, hfind]
          exact hcalled
        synced := by rw [heq]; exact hindex
        acked := fun hseq => keyPlace_byNumber
          ((numbersApart_of_exec hexec).countP_le hseq) hheld rfl }

/-- A switch of the device with the serial dev1. -/
def ownRes : ShadowRes where
  devSerial := storedName 72 "dev1".toList ShadowRes.devSerial_pos
  resType := storedName 64 "Switch".toList ShadowRes.resType_pos
  localIndex := 0

def ownRegister : ShadowEvent :=
  .register ownRes "Power".toList
    [⟨storedName 64 "on".toList ShadowBusiness.key_pos, some 0, some 1⟩]

/-- A message for the same channel under a serial of the platform. -/
def channelMessage (subSerial : CString.Buffer 72) : ShadowSubmsg where
  subSerial := subSerial
  resourceType := storedName 64 "Switch".toList ShadowRes.resType_pos
  resourceId := storedName 64 "0".toList ShadowRes.resType_pos

theorem addressesAgree_global :
    ∃ last, StepSystem.exec (step (fun _ => none) "dev1".toList) init
        [ownRegister] = some last ∧
      AddressesAgree "dev1".toList ownRes "Power".toList "on".toList
        (channelMessage ⟨"global".toList, by decide⟩) (some 0) last.devs := by
  have hregistered : lastRegistered "dev1".toList
      (ownRes.keyName "dev1".toList "Power".toList "on".toList)
      [ownRegister] = some (some 0) := by decide +kernel
  have hnames : (channelMessage ⟨"global".toList, by decide⟩).Names ownRes :=
    ⟨rfl, by decide +kernel⟩
  have hsome : ∃ last, StepSystem.exec (step (fun _ => none) "dev1".toList)
      init [ownRegister] = some last := ⟨_, rfl⟩
  rcases hsome with ⟨last, hexec⟩
  refine ⟨last, hexec, ?_⟩
  apply (addressesAgree_iff_addressFits hexec hregistered hnames).mpr
  exact
    { names := ⟨by decide, by decide, by decide, by decide, by decide⟩
      serial := by decide +kernel }

/-- Under its own serial the device is not found. -/
theorem own_serial_not_routed :
    ∃ last, StepSystem.exec (step (fun _ => none) "dev1".toList) init
        [ownRegister] = some last ∧
      ¬ AddressesAgree "dev1".toList ownRes "Power".toList "on".toList
        (channelMessage ⟨"dev1".toList, by decide⟩) (some 0) last.devs := by
  have hsome : (StepSystem.exec (step (fun _ => none) "dev1".toList) init
      [ownRegister]).any (fun last =>
        ((TreeSearch.byName
          ((channelMessage ⟨"dev1".toList, by decide⟩).keyName
            "Power".toList "on".toList)).keyPlace last.devs).isNone) =
      true := by decide +kernel
  rcases (Option.any_eq_true _ _).mp hsome with ⟨last, hexec, hnone⟩
  refine ⟨last, hexec, ?_⟩
  rintro ⟨place, node, hagree⟩
  rw [hagree.set] at hnone
  cases hnone

end ShadowState

end EziotSdk

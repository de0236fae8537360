import EziotSdk.ShadowKeys
import EziotSdk.StepSystem

/-!
# The names of the shadow tree

A level has at most one node of a name as long as every name that a
registration does not find is also absent in the form in which it is stored.
-/

namespace EziotSdk

open NodeLists

variable {devs : List NodeDev}

/-! ## One name, one node -/

def NodeDomain.Unique (domain : NodeDomain) : Prop :=
  Apart (fun node => node.key.1) (fun _ : NodeKey => True) domain.keyLst

def NodeIndex.Unique (index : NodeIndex) : Prop :=
  Apart (fun domain => domain.domainString.1) NodeDomain.Unique index.domainLst

def NodeIndexSet.Unique (set : NodeIndexSet) : Prop :=
  Apart NodeIndex.index NodeIndex.Unique set.indexLst

def NodeDev.Unique (dev : NodeDev) : Prop :=
  Apart (fun set => set.type.1) NodeIndexSet.Unique dev.typeLst

def TreeUnique (devs : List NodeDev) : Prop :=
  Apart (fun dev => dev.devSn.1) NodeDev.Unique devs

/-! ## The names of a registration -/

/-- The keys of a registration, one after the other. -/
def NodeDomain.KeysFit : List ShadowBusiness → NodeDomain → Prop
  | [], _ => True
  | business :: rest, domain =>
      NameFits (domain.keyLst.map fun node => node.key.1) business.key.1
          (NodeKey.create business).key.1 ∧
        KeysFit rest (domain.addKey business)

def NodeIndex.DomainFits (domainId : CString) (props : List ShadowBusiness)
    (index : NodeIndex) : Prop :=
  props ≠ [] →
    NameFits (index.domainLst.map fun domain => domain.domainString.1)
        domainId (NodeDomain.create domainId).domainString.1 ∧
      ((index.domainLst.find? fun domain =>
        domain.domainString.1 = domainId).getD
          (NodeDomain.create domainId)).KeysFit props

def NodeIndexSet.IndexFits (index : ℤ) (domainId : CString)
    (props : List ShadowBusiness) (set : NodeIndexSet) : Prop :=
  ((set.indexLst.find? fun child => child.index = index).getD
    (NodeIndex.create index)).DomainFits domainId props

def NodeDev.TypeFits (resType : CString) (index : ℤ) (domainId : CString)
    (props : List ShadowBusiness) (dev : NodeDev) : Prop :=
  NameFits (dev.typeLst.map fun set => set.type.1) resType
      (NodeIndexSet.create resType).type.1 ∧
    ((dev.typeLst.find? fun set => set.type.1 = resType).getD
      (NodeIndexSet.create resType)).IndexFits index domainId props

/-- Every name of a registration that is not found at its level is absent
there in its stored form too. -/
def NamesFit (devSubserial : CString) (res : ShadowRes) (domainId : CString)
    (props : List ShadowBusiness) (devs : List NodeDev) : Prop :=
  let sn := ownSerial devSubserial res.devSerial.1
  NameFits (devs.map fun dev => dev.devSn.1) sn (NodeDev.create sn).devSn.1 ∧
    ((devs.find? fun dev => dev.devSn.1 = sn).getD
      (NodeDev.create sn)).TypeFits res.resType.1 res.localIndex domainId props

/-! ## A registration, level by level -/

theorem NodeDomain.addKey_unique_iff {domain : NodeDomain}
    (hunique : domain.Unique) (business : ShadowBusiness) :
    (domain.addKey business).Unique ↔
      NameFits (domain.keyLst.map fun node => node.key.1) business.key.1
        (NodeKey.create business).key.1 := by
  have hname (node : NodeKey) :
      (NodeKey.registered business node).key.1 = node.key.1 := rfl
  exact (apart_findOrAdd_iff hunique business.key.1 hname
    (NodeKey.create business)).trans (and_iff_left trivial)

theorem NodeDomain.unique_of_addKey {domain : NodeDomain}
    {business : ShadowBusiness} (hunique : (domain.addKey business).Unique) :
    domain.Unique := by
  have hname (node : NodeKey) :
      (NodeKey.registered business node).key.1 = node.key.1 := rfl
  exact ⟨hunique.1.sublist (map_findOrAdd_sublist hname), fun _ _ => trivial⟩

theorem NodeDomain.unique_of_addKeys {props : List ShadowBusiness}
    {domain : NodeDomain} (hunique : (domain.addKeys props).Unique) :
    domain.Unique := by
  induction props generalizing domain with
  | nil => exact hunique
  | cons business rest ih =>
      have hrest : (domain.addKey business).Unique := ih hunique
      exact NodeDomain.unique_of_addKey hrest

theorem NodeDomain.addKeys_unique_iff {domain : NodeDomain}
    (hunique : domain.Unique) (props : List ShadowBusiness) :
    (domain.addKeys props).Unique ↔ domain.KeysFit props := by
  induction props generalizing domain with
  | nil => exact iff_of_true hunique trivial
  | cons business rest ih =>
      rw [KeysFit, ← addKey_unique_iff hunique]
      constructor
      · intro hadded
        have hfirst : (domain.addKey business).Unique :=
          unique_of_addKeys hadded
        exact ⟨hfirst, (ih hfirst).mp hadded⟩
      · rintro ⟨hfirst, hfit⟩
        exact (ih hfirst).mpr hfit

theorem NodeIndex.addDomain_unique_iff {index : NodeIndex}
    (hunique : index.Unique) (domainId : CString)
    (props : List ShadowBusiness) :
    (index.addDomain domainId props).Unique ↔
      index.DomainFits domainId props := by
  have hname (domain : NodeDomain) :
      (domain.addKeys props).domainString.1 = domain.domainString.1 := by
    rw [NodeDomain.domainString_addKeys]
  have hfresh : (NodeDomain.create domainId).Unique := ⟨List.nodup_nil, nofun⟩
  unfold addDomain DomainFits
  split_ifs with hprops
  · exact iff_of_true hunique fun hnot => absurd hprops hnot
  · rw [forall_prop_of_true hprops]
    exact apart_findOrAdd_change_iff hunique domainId hname
      (fun _ hdomain => NodeDomain.addKeys_unique_iff hdomain props) hfresh

theorem NodeIndexSet.addIndex_unique_iff {set : NodeIndexSet}
    (hunique : set.Unique) (index : ℤ) (domainId : CString)
    (props : List ShadowBusiness) :
    (set.addIndex index domainId props).Unique ↔
      set.IndexFits index domainId props := by
  have hname (child : NodeIndex) :
      (child.addDomain domainId props).index = child.index :=
    NodeIndex.index_addDomain domainId props child
  have hfresh : (NodeIndex.create index).Unique := ⟨List.nodup_nil, nofun⟩
  have hadd := apart_findOrAdd_change_iff hunique index hname
    (fun _ hchild => NodeIndex.addDomain_unique_iff hchild domainId props)
    hfresh
  exact hadd.trans (and_iff_right (nameFits_self _ index))

theorem NodeDev.addIndexSet_unique_iff {dev : NodeDev}
    (hunique : dev.Unique) (resType : CString) (index : ℤ)
    (domainId : CString) (props : List ShadowBusiness) :
    (dev.addIndexSet resType index domainId props).Unique ↔
      dev.TypeFits resType index domainId props := by
  have hname (set : NodeIndexSet) :
      (set.addIndex index domainId props).type.1 = set.type.1 := rfl
  have hfresh : (NodeIndexSet.create resType).Unique :=
    ⟨List.nodup_nil, nofun⟩
  exact apart_findOrAdd_change_iff hunique resType hname
    (fun _ hset => NodeIndexSet.addIndex_unique_iff hset index domainId props)
    hfresh

theorem addv3_unique_iff (hunique : TreeUnique devs)
    (devSubserial : CString) (res : ShadowRes) (domainId : CString)
    (props : List ShadowBusiness) :
    TreeUnique
        (shadowCoreModuleAddv3 devSubserial res domainId props devs).2 ↔
      NamesFit devSubserial res domainId props devs := by
  have hname (dev : NodeDev) :
      (dev.addIndexSet res.resType.1 res.localIndex domainId props).devSn.1 =
        dev.devSn.1 := rfl
  have hfresh : (NodeDev.create
      (ownSerial devSubserial res.devSerial.1)).Unique :=
    ⟨List.nodup_nil, nofun⟩
  exact apart_findOrAdd_change_iff hunique _ hname
    (fun _ hdev => NodeDev.addIndexSet_unique_iff hdev res.resType.1
      res.localIndex domainId props) hfresh

/-! ## A push -/

theorem changeKey_unique_iff {name : KeyName} {change : NodeKey → NodeKey}
    (hkey : ∀ node, (change node).key = node.key) (devs : List NodeDev) :
    TreeUnique (changeKey name change devs) ↔ TreeUnique devs := by
  have hname (node : NodeKey) : (change node).key.1 = node.key.1 :=
    congrArg Subtype.val (hkey node)
  have hdomain (domain : NodeDomain) :
      (domain.changeKey name change).Unique ↔ domain.Unique := by
    apply apart_updateFirst_iff change hname
    intro node
    rfl
  have hindex (index : NodeIndex) :
      (index.changeKey name change).Unique ↔ index.Unique :=
    apart_updateFirst_iff (NodeDomain.changeKey name change) (fun _ => rfl)
      hdomain index.domainLst
  have hset (set : NodeIndexSet) :
      (set.changeKey name change).Unique ↔ set.Unique :=
    apart_updateFirst_iff (NodeIndex.changeKey name change) (fun _ => rfl)
      hindex set.indexLst
  have hdev (dev : NodeDev) :
      (dev.changeKey name change).Unique ↔ dev.Unique :=
    apart_updateFirst_iff (NodeIndexSet.changeKey name change) (fun _ => rfl)
      hset dev.typeLst
  exact apart_updateFirst_iff (NodeDev.changeKey name change) (fun _ => rfl)
    hdev devs

theorem pushed_unique_iff (parse : CString → Option BscJson)
    (value : Option ShadowValue) (name : KeyName) (devs : List NodeDev) :
    TreeUnique (changeKey name (NodeKey.pushed parse value) devs) ↔
      TreeUnique devs := by
  have hkey (node : NodeKey) :
      (NodeKey.pushed parse value node).key = node.key := rfl
  exact changeKey_unique_iff hkey devs

theorem propertieChanged_unique_iff (parse : CString → Option BscJson)
    (devSubserial : CString) (res : ShadowRes) (domainId pkey : CString)
    (value : Option ShadowValue) (devs : List NodeDev) :
    TreeUnique (shadowCorePropertieChanged parse devSubserial res domainId
        pkey value devs).2 ↔ TreeUnique devs := by
  cases hfind : findKey (res.keyName devSubserial domainId pkey) devs with
  | none => rw [shadowCorePropertieChanged_of_none value hfind]
  | some node =>
      rw [shadowCorePropertieChanged_of_some value hfind]
      exact pushed_unique_iff parse value _ devs

/-- A call of the interface of the shadow. -/
inductive ShadowCall where
  | register (res : ShadowRes) (domainId : CString)
      (props : List ShadowBusiness)
  | push (res : ShadowRes) (domainId pkey : CString)
      (value : Option ShadowValue)

namespace ShadowCall

variable (parse : CString → Option BscJson) (devSubserial : CString)

/-- The tree after a call. -/
def perform (devs : List NodeDev) : ShadowCall → List NodeDev
  | .register res domainId props =>
      (shadowCoreModuleAddv3 devSubserial res domainId props devs).2
  | .push res domainId pkey value =>
      (ezIotShadowPushV3 parse devSubserial res domainId pkey value devs).2

/-- A push registers only a key that it does not find. -/
def Fits (devs : List NodeDev) : ShadowCall → Prop
  | .register res domainId props =>
      NamesFit devSubserial res domainId props devs
  | .push res domainId pkey _ =>
      findKey (res.keyName devSubserial domainId pkey) devs = none →
        NamesFit devSubserial res domainId [pushedBusiness pkey] devs

theorem perform_unique_iff (hunique : TreeUnique devs) (call : ShadowCall) :
    TreeUnique (call.perform parse devSubserial devs) ↔
      call.Fits devSubserial devs := by
  cases call with
  | register res domainId props =>
      exact addv3_unique_iff hunique devSubserial res domainId props
  | push res domainId pkey value =>
      simp only [perform, Fits]
      cases hfind : findKey (res.keyName devSubserial domainId pkey) devs with
      | none =>
          rw [ezIotShadowPushV3_of_none value hfind, forall_prop_of_true rfl,
            propertieChanged_unique_iff]
          exact addv3_unique_iff hunique devSubserial res domainId _
      | some node =>
          rw [ezIotShadowPushV3_of_some value hfind]
          refine iff_of_true ?_ nofun
          exact (pushed_unique_iff parse value _ devs).mpr hunique

/-- Through any calls, every level of the tree has one node for a name exactly
if the names of every call fit. -/
theorem unique_along_iff_fits (calls : List ShadowCall) :
    StepSystem.Along
        (fun devs call => some (perform parse devSubserial devs call))
        TreeUnique [] calls ↔
      StepSystem.StepsMeet
        (fun devs call => some (perform parse devSubserial devs call))
        (Fits devSubserial) [] calls := by
  have hkeep : ∀ devs call next, TreeUnique devs → Fits devSubserial devs call →
      some (perform parse devSubserial devs call) = some next →
        TreeUnique next := by
    intro devs call next hunique hfits hnext
    rw [← Option.some.inj hnext]
    exact (perform_unique_iff parse devSubserial hunique call).mpr hfits
  have hbreak : ∀ devs call, TreeUnique devs → ¬ Fits devSubserial devs call →
      ∃ next, some (perform parse devSubserial devs call) = some next ∧
        ¬ TreeUnique next := by
    intro devs call hunique hnot
    refine ⟨_, rfl, ?_⟩
    rw [perform_unique_iff parse devSubserial hunique call]
    exact hnot
  have hstart : TreeUnique [] := ⟨List.nodup_nil, nofun⟩
  exact StepSystem.along_iff_stepsMeet (fun _ hunique => hunique) hkeep hbreak
    hstart

/-- A channel of the main device without a type, and its one key. -/
def untypedRegister : ShadowCall :=
  .register ⟨⟨"global".toList, by decide⟩, ⟨[], by decide⟩, 0⟩ "Power".toList
    [⟨⟨"on".toList, by decide⟩, some 0, some 1⟩]

/-- Without a type, the same registration twice makes two nodes of the default
type. -/
theorem empty_type_forks :
    ¬ StepSystem.Along
      (fun devs call => some (perform (fun _ => none) [] devs call))
      TreeUnique [] [untypedRegister, untypedRegister] := by
  intro halong
  have hsome : (StepSystem.exec
      (fun devs call => some (perform (fun _ => none) [] devs call)) []
      [untypedRegister, untypedRegister]).any (fun last =>
        last.any fun dev =>
          !decide (dev.typeLst.map fun set => set.type.1).Nodup) = true := by
    decide +kernel
  rcases (Option.any_eq_true _ _).mp hsome with ⟨last, hexec, hforked⟩
  rcases List.any_eq_true.mp hforked with ⟨dev, hmem, htwice⟩
  have hunique := halong _ [] last (List.append_nil _).symm hexec
  have hnodup : (dev.typeLst.map fun set => set.type.1).Nodup :=
    (hunique.2 dev hmem).1
  simp [hnodup] at htwice

end ShadowCall

end EziotSdk

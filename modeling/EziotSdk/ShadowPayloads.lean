import EziotSdk.JsonParser
import EziotSdk.ShadowKeys
import EziotSdk.ValueTyping

/-!
# Payloads of the shadow

What `shadow_core_cloud_data_in` makes of a message of the platform.  A value
that is set is handed to the callback of its key, which the names in the
payload choose; neither name is asked for its type.  A reply to a query ends
the synchronization of its channel, whatever it says.  An acknowledgement reads
its code out of the payload itself.
-/

namespace EziotSdk

def NodeIndexSet.changeIndex (res : ShadowRes)
    (change : NodeIndex → NodeIndex) (set : NodeIndexSet) : NodeIndexSet :=
  { set with
    indexLst := FirstMatch.updateFirst
      (fun index => index.index = res.localIndex) change set.indexLst }

def NodeDev.changeIndex (res : ShadowRes) (change : NodeIndex → NodeIndex)
    (dev : NodeDev) : NodeDev :=
  { dev with
    typeLst := FirstMatch.updateFirst (fun set => set.type.1 = res.resType.1)
      (NodeIndexSet.changeIndex res change) dev.typeLst }

def changeIndex (res : ShadowRes) (change : NodeIndex → NodeIndex)
    (devs : List NodeDev) : List NodeDev :=
  FirstMatch.updateFirst (fun dev => dev.devSn.1 = res.devSerial.1)
    (NodeDev.changeIndex res change) devs

def NodeIndex.syncDisabled (index : NodeIndex) : NodeIndex :=
  { index with needSync := false, timer := .none, retryCount := 0 }

def shadowStatusSyncDisable (res : ShadowRes) (devs : List NodeDev) :
    List NodeDev :=
  changeIndex res NodeIndex.syncDisabled devs

/-! ## One value -/

section

variable {α : Type} {nameOf : α → CString} {wanted : Option CString}
  {list : List α}

end

section

variable {codec : TslCodec} {cloud2dev : SetCall → ℤ} {res : ShadowRes}
  {seq : ℕ} {payload : Option CString} {devs : List NodeDev}

end

def lampRes : ShadowRes where
  devSerial := storedName 72 "sub1".toList ShadowRes.devSerial_pos
  resType := storedName 64 "Lamp".toList ShadowRes.resType_pos
  localIndex := 0

def lampTree : List NodeDev :=
  (shadowCoreModuleAddv3 "hub".toList lampRes "power".toList
    [⟨storedName 64 "on".toList ShadowBusiness.key_pos, some 0, none⟩] []).2

end EziotSdk

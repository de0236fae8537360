import EziotSdk.KernelDefs
import EziotSdk.CStrings
import EziotSdk.SlotTable

/-!
# The extension tables of the micro kernel

`ezdev_sdk_kernel_extend.c` keeps three tables of fixed length: the domains of
protocol 2.0, the extensions of protocol 3.0 and the hub extensions.  An id of
`0` marks a free slot in each of them, while `sdk_event`, whose value is `0`,
is an id that a module may register.
-/

namespace EziotSdk

/-- `ezdev_sdk_kernel_extend`, the record a 2.0 domain registers. -/
structure KernelExtend where
  domainId : ℕ
  extendStart : FunctionPointer
  extendStop : FunctionPointer
  extendDataRoute : FunctionPointer
  extendEvent : FunctionPointer
  pUser : Option ℕ
  extendModuleName : CString
  extendModuleVersion : CString
  deriving DecidableEq, Repr

/-- `ezdev_sdk_kernel_extend_v3`, the record a 3.0 extension registers. -/
structure KernelExtendV3 where
  extendId : ℕ
  dataRoute : FunctionPointer
  extendEvent : FunctionPointer
  pUser : Option ℕ
  extendModuleName : CString
  deriving DecidableEq, Repr

structure KernelHubExtend where
  extendId : ℕ
  extendHubDataRoute : FunctionPointer
  deriving DecidableEq, Repr

inductive RiskControlFlag where
  | noRiskControl
  | riskControl
  deriving DecidableEq, Repr

/-- `ezdev_sdk_kernel_domain_info`.  The array has
`ezdev_sdk_risk_control_cmd_max` cells, `0` in the unused ones. -/
structure DomainInfo where
  domainRisk : RiskControlFlag
  cmdRiskArray : List ℕ
  kernelExtend : KernelExtend
  deriving DecidableEq, Repr

namespace KernelExtend

def zero : KernelExtend where
  domainId := 0
  extendStart := none
  extendStop := none
  extendDataRoute := none
  extendEvent := none
  pUser := none
  extendModuleName := []
  extendModuleVersion := []

end KernelExtend

namespace KernelExtendV3

def zero : KernelExtendV3 where
  extendId := 0
  dataRoute := none
  extendEvent := none
  pUser := none
  extendModuleName := []

end KernelExtendV3

def KernelHubExtend.zero : KernelHubExtend where
  extendId := 0
  extendHubDataRoute := none

def DomainInfo.zero (cmdMax : ℕ) : DomainInfo where
  domainRisk := .noRiskControl
  cmdRiskArray := List.replicate cmdMax 0
  kernelExtend := .zero

/-- The key of a slot of `g_kernel_domains`. -/
def DomainInfo.domainId (info : DomainInfo) : ℕ :=
  info.kernelExtend.domainId

/-- The three tables. -/
structure ExtendTables where
  kernelDomains : List DomainInfo
  kernelExtends : List KernelExtendV3
  kernelHubExtends : List KernelHubExtend
  deriving DecidableEq, Repr

/-- `extend_init`: the tables are zeroed.  The number of slots
`ezdev_sdk_extend_count` and the number of risk cells depend on the build. -/
def extendInit (extendCount cmdMax : ℕ) : ExtendTables where
  kernelDomains := List.replicate extendCount (.zero cmdMax)
  kernelExtends := List.replicate extendCount .zero
  kernelHubExtends := List.replicate hubExtendMaxNum .zero

def extendGet (domainId : ℕ) (kernelDomains : List DomainInfo) :
    Option DomainInfo :=
  SlotTable.find DomainInfo.domainId domainId kernelDomains

def extendGetByExtendId
    (extendId : ℕ) (kernelExtends : List KernelExtendV3) :
    Option KernelExtendV3 :=
  SlotTable.find KernelExtendV3.extendId extendId kernelExtends

def sdkHubExtendGet
    (extendId : ℕ) (kernelHubExtends : List KernelHubExtend) :
    Option KernelHubExtend :=
  SlotTable.find KernelHubExtend.extendId extendId kernelHubExtends

/-- `extend_load`.  The record is copied over the slot and the domain's risk
flag is cleared; the risk array of the slot stays. -/
def extendLoad
    (external : KernelExtend) (kernelDomains : List DomainInfo) :
    MkernelInternalError × List DomainInfo :=
  match SlotTable.placeUnique DomainInfo.domainId external.domainId
      kernelDomains with
  | .ready => (.extendReady, kernelDomains)
  | .full => (.extendFull, kernelDomains)
  | .at index =>
      (.succ, kernelDomains.modify index fun info =>
        { info with
          kernelExtend := external
          domainRisk := .noRiskControl })

def extendLoadV3
    (external : KernelExtendV3) (kernelExtends : List KernelExtendV3) :
    MkernelInternalError × List KernelExtendV3 :=
  match SlotTable.placeUnique KernelExtendV3.extendId external.extendId
      kernelExtends with
  | .ready => (.extendReady, kernelExtends)
  | .full => (.extendFull, kernelExtends)
  | .at index => (.succ, kernelExtends.modify index fun _ => external)

def sdkHubExtendLoad
    (extendInfo : KernelHubExtend) (kernelHubExtends : List KernelHubExtend) :
    MkernelInternalError × List KernelHubExtend :=
  match SlotTable.placeReplace KernelHubExtend.extendId extendInfo.extendId
      kernelHubExtends with
  | none => (.extendFull, kernelHubExtends)
  | some index => (.succ, kernelHubExtends.modify index fun _ => extendInfo)

end EziotSdk

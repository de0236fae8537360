import EziotSdk.ExtendTables

/-!
# Risk control of domains and commands

`ezdev_sdk_kernel_risk_control.c`: the cloud blocks whole domains or single
commands of a domain, and the send path asks before each message.  Every
function looks the domain up with `extend_get`.
-/

namespace EziotSdk

def addDomainRiskControl (domainId : ℕ) (kernelDomains : List DomainInfo) :
    List DomainInfo :=
  SlotTable.update DomainInfo.domainId domainId
    (fun info => { info with domainRisk := .riskControl }) kernelDomains

/-- The loop of `add_cmd_risk_control`: the command goes to the first cell
that holds `0`; with no such cell nothing is stored. -/
def storeCmdRisk (cmdId : ℕ) : List ℕ → List ℕ
  | [] => []
  | cell :: rest =>
      if cell = 0 then cmdId :: rest else cell :: storeCmdRisk cmdId rest

def addCmdRiskControl
    (domainId cmdId : ℕ) (kernelDomains : List DomainInfo) :
    List DomainInfo :=
  SlotTable.update DomainInfo.domainId domainId
    (fun info =>
      { info with cmdRiskArray := storeCmdRisk cmdId info.cmdRiskArray })
    kernelDomains

/-- What `check_cmd_risk_control` returns, in the order of its values
`0` to `3`. -/
inductive RiskResult where
  | allowed
  | domainNotFound
  | domainRisk
  | cmdRisk
  deriving DecidableEq, Repr

/-- The search loop of `check_cmd_risk_control`: it ends at the first cell
that holds `0`. -/
def cmdListed (cmdId : ℕ) : List ℕ → Bool
  | [] => false
  | cell :: rest =>
      if cell = 0 then false
      else if cmdId = cell then true
      else cmdListed cmdId rest

/-- The domains and the command that are never blocked. -/
def riskExempt (domainId cmdId : ℕ) : Prop :=
  dasCmdCommonFun = domainId ∨ dasCmdDomain = domainId ∨
    ezdevSdkOfflineCmdId = cmdId

instance (domainId cmdId : ℕ) : Decidable (riskExempt domainId cmdId) :=
  inferInstanceAs (Decidable (_ ∨ _))

def checkCmdRiskControl
    (kernelDomains : List DomainInfo) (domainId cmdId : ℕ) : RiskResult :=
  if riskExempt domainId cmdId then .allowed
  else
    match extendGet domainId kernelDomains with
    | none => .domainNotFound
    | some info =>
        if info.domainRisk = .riskControl then .domainRisk
        else if cmdListed cmdId info.cmdRiskArray then .cmdRisk
        else .allowed

/-- The error that the send path reports for a blocked message. -/
def RiskResult.error : RiskResult → Option MkernelInternalError
  | .allowed => none
  | .domainNotFound => some .extendNoFind
  | .domainRisk => some .forceDomainRisk
  | .cmdRisk => some .forceCmdRisk

end EziotSdk

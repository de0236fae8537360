import EziotSdk.ExtendDispatch
import EziotSdk.LbsTransport
import EziotSdk.RiskPolicy
import EziotSdk.StepSystem

/-!
# The access state machine

`ezdev_sdk_kernel_access.c` and the commands of `access_domain_bus.c`.  Each
call of `cnt_state_yield` runs one handler, chosen by `cnt_state`.  A handler
talks to the LBS or to the DAS; while it talks to the DAS the messages that
arrive are handed to `handle_sub_msg`, so a command of the platform may change
the access state before the call returns, and the handler goes on with what
the call returned.
-/

namespace EziotSdk

/-! ## State -/

inductive SdkEntranceState where
  | normal
  | switchover
  | authcodeInvalid
  deriving DecidableEq, Repr

inductive SdkCloudCntState where
  | unredirect
  | redirected
  | dasReged
  | dasBreak
  | dasFastReg
  | dasFastRegV3
  deriving DecidableEq, Repr

structure SdkSessionkeyContext where
  dasPort : ℕ
  dasUdpPort : ℕ
  dasIp : CString
  lbsIp : CString
  sessionKey : Bytes
  dasDomain : CString
  dasServerid : CString
  deriving DecidableEq

structure SdkOfflineContext where
  lastError : MkernelInternalError
  dasIp : CString
  lbsIp : CString
  deriving DecidableEq

structure SdkSwitchoverContext where
  dasUdpPort : ℕ
  dasIp : CString
  lbsIp : CString
  sessionKey : Bytes
  lbsDomain : CString
  deriving DecidableEq

/-- The events that the access code broadcasts; a runtime error is one with
the tag `TAG_ACCESS`. -/
inductive SdkKernelEvent where
  | eventOnline (context : SdkSessionkeyContext)
  | eventBreak (context : SdkOfflineContext)
  | eventSwitchover (context : SdkSwitchoverContext)
  | eventFastRegOnline (context : SdkSessionkeyContext)
  | eventRuntimeErr (errCode : EzdevSdkKernelError)
  | eventReconnectSuccess
  | eventHeartbeatIntervalChanged (interval : ℤ)
  deriving DecidableEq

/-- What a run is observed by: the broadcasts, and the moments that decide
whether a redirect of the platform takes effect. -/
inductive AccessMark where
  | broadcast (event : SdkKernelEvent)
  | redirectHandled (serverName : CString)
  | lbsRedirected (serverName : CString)
  | registered
  deriving DecidableEq

structure AccessKernel where
  cntState : SdkCloudCntState
  entrState : SdkEntranceState
  lbsRedirectTimes : ℕ
  dasRetryTimes : ℕ
  secretkeyDuration : ℕ
  accessRisk : RiskControlFlag
  dasKeepaliveInterval : ℕ
  serverName : CString
  lbs : LbsKernel
  kernelDomains : List DomainInfo
  /-- The newest mark first. -/
  trace : List AccessMark

/-- The kernel that `ezdev_sdk_kernel_init` leaves, with the domains that are
loaded before the first yield. -/
def AccessKernel.init (serverName : CString) (devInfo : DevBasicInfo)
    (devId masterKey : Bytes) (kernelDomains : List DomainInfo) :
    AccessKernel where
  cntState := .unredirect
  entrState := .normal
  lbsRedirectTimes := 0
  dasRetryTimes := 0
  secretkeyDuration := 0
  accessRisk := .noRiskControl
  dasKeepaliveInterval := 30
  serverName := serverName
  lbs :=
    { devInfo := devInfo
      serverIp := []
      devId := devId
      masterKey := masterKey
      sessionKey := List.replicate 16 0
      redirectDasInfo := DasInfo.zero }
  kernelDomains := kernelDomains
  trace := []

def mark (seen : AccessMark) (kernel : AccessKernel) : AccessKernel :=
  { kernel with trace := seen :: kernel.trace }

def broadcastUserEvent (event : SdkKernelEvent) (kernel : AccessKernel) :
    AccessKernel :=
  mark (.broadcast event) kernel

def broadcastRuntimeErr (error : MkernelInternalError)
    (kernel : AccessKernel) : AccessKernel :=
  broadcastUserEvent (.eventRuntimeErr (mkiE2ezE error)) kernel

/-! ## Commands of the platform -/

/-- The parsers that the handlers call: of a JSON document, and of the text of
the child `DomainName` of an XML document, the outer `none` for no document
and the inner one for no such child. -/
structure AccessLibraries where
  parse : Bytes → Option BscJson
  domainNameText : Bytes → Option (Option CString)

def cenplt2pusetlbsdomainnamebydasreqXmlParser (lib : AccessLibraries)
    (buf : Option Bytes) : Except MkernelInternalError CString :=
  match lib.domainNameText (buf.getD []) with
  | none => .error .xmlParseError
  | some none => .error .getErrorXml
  | some (some text) =>
      if ezdevSdkNameLen ≤ text.length then .error .getErrorXml
      else .ok text

def busHandleDevRedirect (lib : AccessLibraries) (submsg : KernelSubmsg)
    (kernel : AccessKernel) : MkernelInternalError × AccessKernel :=
  match cenplt2pusetlbsdomainnamebydasreqXmlParser lib submsg.buf with
  | .error error => (error, kernel)
  | .ok domainName =>
      if kernel.serverName = domainName then (.succ, kernel)
      else
        (.succ, mark (.redirectHandled domainName)
          { kernel with
            serverName := domainName
            lbs := { kernel.lbs with
              serverIp := []
              masterKey := List.replicate 16 0 }
            entrState := .switchover
            cntState := .unredirect })

def addAccessRiskControl (kernel : AccessKernel) : AccessKernel :=
  { kernel with accessRisk := .riskControl }

def checkAccessRiskControl (kernel : AccessKernel) : Bool :=
  kernel.accessRisk ≠ .noRiskControl

def busHandleForceOffline (kernel : AccessKernel) :
    MkernelInternalError × AccessKernel :=
  (.succ, addAccessRiskControl (broadcastRuntimeErr .forceOffline kernel))

/-- The item is a number, and then its `valueint`. -/
def numberOf (item : Option BscJson) : Option ℤ :=
  item.bind fun found =>
    if isNumber found then some found.valueint else none

def setKeepaliveInterval (interval : ℕ) (announced : ℤ)
    (kernel : AccessKernel) : AccessKernel :=
  broadcastUserEvent (.eventHeartbeatIntervalChanged announced)
    { kernel with dasKeepaliveInterval := interval }

def busHandleDomainconfigKeepalive (jsonItem : BscJson)
    (kernel : AccessKernel) : MkernelInternalError × AccessKernel :=
  match numberOf (jsonItem.getObjectItem "Interval".toList) with
  | none => (.getErrorJson, kernel)
  | some interval =>
      (.succ,
        setKeepaliveInterval (toUint32 interval) (toUint32 interval) kernel)

def busHandleDomainconfig (lib : AccessLibraries) (submsg : KernelSubmsg)
    (kernel : AccessKernel) : MkernelInternalError × AccessKernel :=
  match submsg.buf with
  | none => (.revInvalidPacket, kernel)
  | some buf =>
      match lib.parse buf with
      | none => (.jsonParseError, kernel)
      | some jsonRoot =>
          match jsonRoot.getObjectItem "KeepAlive".toList with
          | none => (.succ, kernel)
          | some jsonKeepalive =>
              (.succ,
                (busHandleDomainconfigKeepalive jsonKeepalive kernel).2)

def busHandleSetKeepliveTimeRsp (lib : AccessLibraries)
    (submsg : KernelSubmsg) (kernel : AccessKernel) :
    MkernelInternalError × AccessKernel :=
  match submsg.buf.bind lib.parse with
  | none => (.revInvalidPacket, kernel)
  | some jsonRoot =>
      match numberOf (jsonRoot.getObjectItem "retcode".toList),
        numberOf (jsonRoot.getObjectItem "interval".toList) with
      | some retcode, some interval =>
          if retcode = 0 then
            (.succ, setKeepaliveInterval (uint16 interval) interval kernel)
          else (.succ, kernel)
      | _, _ => (.getErrorJson, kernel)

def accessDomainBusHandle (lib : AccessLibraries) (submsg : KernelSubmsg)
    (kernel : AccessKernel) : MkernelInternalError × AccessKernel :=
  if submsg.msgCommandId = 0x0001 then busHandleDomainconfig lib submsg kernel
  else if submsg.msgCommandId = 0x0002 then
    let outcome := EziotSdk.busHandleDevRisk lib.parse submsg kernel.kernelDomains
    (outcome.1, { kernel with kernelDomains := outcome.2 })
  else if submsg.msgCommandId = 0x0003 then busHandleForceOffline kernel
  else if submsg.msgCommandId = 0X3453 then
    busHandleSetKeepliveTimeRsp lib submsg kernel
  else if submsg.msgCommandId = 0x3479 ∨ submsg.msgCommandId = 0x491F then
    busHandleDevRedirect lib submsg kernel
  else (.succ, kernel)

/-- `handle_sub_msg`.  A message of another domain goes to a queue, which is
no part of the access state. -/
def accessHandleSubMsg (lib : AccessLibraries) (kernel : AccessKernel)
    (submsg : KernelSubmsg) : AccessKernel :=
  if submsg.msgDomainId = dasCmdDomain then
    (accessDomainBusHandle lib submsg kernel).2
  else kernel

/-- The messages that arrive during one call are handled in their order. -/
def deliver (lib : AccessLibraries) (submsgs : List KernelSubmsg)
    (kernel : AccessKernel) : AccessKernel :=
  submsgs.foldl (accessHandleSubMsg lib) kernel

/-! ## What the environment does in one step -/

/-- A call into the MQTT client: the messages that arrive before it returns,
and its result. -/
structure DasCall where
  submsgs : List KernelSubmsg
  result : MkernelInternalError
  deriving DecidableEq

/-- A login at the DAS and the subscription that follows a successful one. -/
structure Registration where
  login : DasCall
  subscribe : DasCall
  deriving DecidableEq

/-- What the LBS functions do in one step: the result of a flow and the kernel
it leaves, `none` for a read through NULL. -/
abbrev LbsExchange :=
  LbsFlow → LbsKernel → Option (MkernelInternalError × LbsKernel)

structure YieldInput where
  /-- `time_isexpired_bydiff` of `cnt_state_timer`. -/
  timerExpired : Bool
  lbs : LbsExchange
  /-- What arrives while `das_unreg` unsubscribes. -/
  unreg : List KernelSubmsg
  reg : Registration
  lightReg : DasCall
  /-- The attempts of a fast registration. -/
  fastReg : ℕ → Registration
  mqttYield : List KernelSubmsg
  socketError : Bool
  connectTimerExpired : Bool
  messageSend : DasCall

/-! ## The DAS functions -/

def DasCall.perform (lib : AccessLibraries) (call : DasCall)
    (kernel : AccessKernel) : MkernelInternalError × AccessKernel :=
  (call.result, deliver lib call.submsgs kernel)

/-- The body that `das_reg`, `das_light_reg_v2` and `das_light_reg_v3`
share. -/
def Registration.perform (lib : AccessLibraries) (reg : Registration)
    (kernel : AccessKernel) : MkernelInternalError × AccessKernel :=
  let login := reg.login.perform lib kernel
  if login.1 ≠ .succ then login else reg.subscribe.perform lib login.2

def dasUnreg (lib : AccessLibraries) (submsgs : List KernelSubmsg)
    (kernel : AccessKernel) : MkernelInternalError × AccessKernel :=
  (.succ, deliver lib submsgs kernel)

def dasYield (lib : AccessLibraries) (input : YieldInput)
    (kernel : AccessKernel) : MkernelInternalError × AccessKernel :=
  let yielded := deliver lib input.mqttYield kernel
  if input.socketError then (.dasNeedReconnect, yielded)
  else if input.connectTimerExpired then (.dasNeedReconnect, yielded)
  else
    let sent := input.messageSend.perform lib yielded
    if sent.1 = .dasNeedReconnect then sent else (.succ, sent.2)

/-! ## The handlers -/

/-- Both branches of the waiting test: `true` when the handler returns without
a call. -/
def waits (times : ℕ) (timerExpired : Bool) : Bool :=
  times ≠ 0 && !timerExpired

def lbsWaits (input : YieldInput) (kernel : AccessKernel) : Bool :=
  if kernel.entrState = .authcodeInvalid then
    !input.timerExpired || kernel.secretkeyDuration < kernel.lbsRedirectTimes
  else waits kernel.lbsRedirectTimes input.timerExpired

/-- The flow that `cnt_state_lbs_redirect` chooses. -/
def lbsFlowOf (kernel : AccessKernel) (nUpper : Bool) : LbsFlow :=
  if textOfBytes kernel.lbs.devId = [] then .createdevidWithAuth nUpper
  else if textOfBytes kernel.lbs.masterKey = [] then .withAuth nUpper
  else .refresh

/-- A key that the LBS refuses is forgotten. -/
def forgetRefused (sdkError : MkernelInternalError) (left : LbsKernel) :
    LbsKernel :=
  if sdkError = platformDevidInconformity then
    { left with devId := List.replicate 32 0 }
  else if sdkError = platformMasterkeyInvalid then
    { left with masterKey := List.replicate 16 0 }
  else left

/-- One attempt of `cnt_state_lbs_redirect`, without the second one. -/
def lbsAttempt (input : YieldInput) (nUpper : Bool)
    (kernel : AccessKernel) : Option (MkernelInternalError × AccessKernel) :=
  (input.lbs (lbsFlowOf kernel nUpper) kernel.lbs).map fun outcome =>
    (outcome.1,
      { kernel with lbs := forgetRefused outcome.1 outcome.2 })

/-- A failed check of the signature is tried again in lower case. -/
def cntStateLbsRedirect (input : YieldInput) (kernel : AccessKernel) :
    Option (MkernelInternalError × AccessKernel) :=
  match lbsAttempt input true kernel with
  | none => none
  | some (sdkError, reached) =>
      if sdkError = platformLbsSigncheckError then
        lbsAttempt input false reached
      else some (sdkError, reached)

/-- What `cnt_lbs_redirect_do` makes of the result. -/
def lbsRedirectDone (sdkError : MkernelInternalError)
    (kernel : AccessKernel) : AccessKernel :=
  if sdkError = .succ then
    mark (.lbsRedirected kernel.serverName)
      { kernel with
        cntState := .redirected
        lbsRedirectTimes := 0
        dasRetryTimes := 0 }
  else
    let warned := broadcastRuntimeErr sdkError kernel
    if sdkError = .netConnectError ∨ sdkError = .netGethostbynameError then
      { warned with lbsRedirectTimes := 1 }
    else
      { warned with lbsRedirectTimes := min (warned.lbsRedirectTimes + 1) 60 }

def cntLbsRedirectDo (input : YieldInput) (kernel : AccessKernel) :
    Option (MkernelInternalError × AccessKernel) :=
  if lbsWaits input kernel then some (.succ, kernel)
  else
    (cntStateLbsRedirect input kernel).map fun outcome =>
      (outcome.1, lbsRedirectDone outcome.1 outcome.2)

/-- `cnt_state = sdk_cnt_das_reged`, with the counters reset. -/
def enterReged (kernel : AccessKernel) : AccessKernel :=
  mark .registered
    { kernel with
      cntState := .dasReged
      lbsRedirectTimes := 0
      dasRetryTimes := 0 }

/-- `cnt_state = sdk_cnt_unredirect`, with the counters reset. -/
def backToLbs (kernel : AccessKernel) : AccessKernel :=
  { kernel with
    cntState := .unredirect
    lbsRedirectTimes := 0
    dasRetryTimes := 0 }

def sessionkeyContext (kernel : AccessKernel) : SdkSessionkeyContext where
  dasPort := kernel.lbs.redirectDasInfo.dasPort
  dasUdpPort := kernel.lbs.redirectDasInfo.dasUdpPort
  dasIp := kernel.lbs.redirectDasInfo.dasAddress
  lbsIp := kernel.lbs.serverIp
  sessionKey := kernel.lbs.sessionKey
  dasDomain := kernel.lbs.redirectDasInfo.dasDomain
  dasServerid := kernel.lbs.redirectDasInfo.dasServerid

def switchoverContext (kernel : AccessKernel) : SdkSwitchoverContext where
  dasUdpPort := kernel.lbs.redirectDasInfo.dasUdpPort
  dasIp := kernel.lbs.redirectDasInfo.dasAddress
  lbsIp := kernel.lbs.serverIp
  sessionKey := kernel.lbs.sessionKey
  lbsDomain := kernel.serverName

def offlineContext (lastError : MkernelInternalError)
    (kernel : AccessKernel) : SdkOfflineContext where
  lastError := lastError
  dasIp := kernel.lbs.redirectDasInfo.dasAddress
  lbsIp := kernel.lbs.serverIp

def broadcastBreak (lastError : MkernelInternalError)
    (kernel : AccessKernel) : AccessKernel :=
  broadcastUserEvent (.eventBreak (offlineContext lastError kernel)) kernel

def cntStateDasReged (lib : AccessLibraries) (input : YieldInput)
    (kernel : AccessKernel) : MkernelInternalError × AccessKernel :=
  input.reg.perform lib (dasUnreg lib input.unreg kernel).2

/-- What `cnt_das_reg_do` makes of the result. -/
def dasRegDone (sdkError : MkernelInternalError) (kernel : AccessKernel) :
    AccessKernel :=
  if sdkError = .succ then
    let reged := enterReged kernel
    if reged.entrState = .switchover then
      { broadcastUserEvent (.eventSwitchover (switchoverContext reged)) reged
        with entrState := .normal }
    else
      broadcastUserEvent (.eventOnline (sessionkeyContext reged)) reged
  else
    let warned := broadcastRuntimeErr sdkError kernel
    if 5 ≤ warned.dasRetryTimes then backToLbs warned
    else { warned with dasRetryTimes := warned.dasRetryTimes + 1 }

def cntDasRegDo (lib : AccessLibraries) (input : YieldInput)
    (kernel : AccessKernel) : MkernelInternalError × AccessKernel :=
  if waits kernel.dasRetryTimes input.timerExpired then (.succ, kernel)
  else
    let tried := cntStateDasReged lib input kernel
    -- the session of the server is still there: a fast registration
    let reached :=
      if tried.1 = mqttSessionExist then
        (input.fastReg 0).perform lib tried.2
      else tried
    (reached.1, dasRegDone reached.1 reached.2)

/-- What `cnt_das_work_do` makes of the result. -/
def dasWorkDone (sdkError : MkernelInternalError) (kernel : AccessKernel) :
    AccessKernel :=
  if sdkError ≠ .succ ∧ sdkError ≠ .queueEmpty then
    let warned := broadcastRuntimeErr sdkError kernel
    if sdkError = .dasNeedReconnect then
      { warned with cntState := .dasBreak }
    else warned
  else kernel

def cntDasWorkDo (lib : AccessLibraries) (input : YieldInput)
    (kernel : AccessKernel) : MkernelInternalError × AccessKernel :=
  let reached := dasYield lib input kernel
  (reached.1, dasWorkDone reached.1 reached.2)

/-- What `cnt_das_retry_do` makes of the result. -/
def dasRetryDone (sdkError : MkernelInternalError) (kernel : AccessKernel) :
    AccessKernel :=
  if sdkError = .succ then
    broadcastUserEvent .eventReconnectSuccess (enterReged kernel)
  else
    let warned := broadcastRuntimeErr sdkError kernel
    if 3 ≤ warned.dasRetryTimes then
      backToLbs (broadcastBreak sdkError warned)
    else { warned with dasRetryTimes := warned.dasRetryTimes + 1 }

def cntDasRetryDo (lib : AccessLibraries) (input : YieldInput)
    (kernel : AccessKernel) : MkernelInternalError × AccessKernel :=
  if waits kernel.dasRetryTimes input.timerExpired then (.succ, kernel)
  else
    let reached := input.lightReg.perform lib kernel
    (reached.1, dasRetryDone reached.1 reached.2)

/-- The loop of a fast registration: attempts until one succeeds. -/
def fastAttempts (lib : AccessLibraries) (attempt : ℕ → Registration) :
    ℕ → ℕ → MkernelInternalError × AccessKernel →
      MkernelInternalError × AccessKernel
  | 0, _, reached => reached
  | count + 1, index, reached =>
      let tried := (attempt index).perform lib reached.2
      if tried.1 = .succ then tried
      else fastAttempts lib attempt count (index + 1) tried

/-- What both fast handlers make of the result. -/
def fastRegDone (sdkError : MkernelInternalError) (kernel : AccessKernel) :
    AccessKernel :=
  if sdkError = .succ then
    let reged := enterReged kernel
    broadcastUserEvent (.eventFastRegOnline (sessionkeyContext reged)) reged
  else backToLbs (broadcastRuntimeErr sdkError kernel)

/-- `cnt_das_reg_fast_do` and `cnt_das_reg_v3_fast_do`, which differ in the
registration that they attempt. -/
def cntDasRegFastDo (lib : AccessLibraries) (input : YieldInput)
    (kernel : AccessKernel) : MkernelInternalError × AccessKernel :=
  let reached := fastAttempts lib input.fastReg 3 0 (.succ, kernel)
  (reached.1, fastRegDone reached.1 reached.2)

/-! ## One step -/

/-- The `switch` of `cnt_state_yield`. -/
def cntStateHandler (lib : AccessLibraries) (input : YieldInput)
    (kernel : AccessKernel) : Option (MkernelInternalError × AccessKernel) :=
  match kernel.cntState with
  | .unredirect => cntLbsRedirectDo input kernel
  | .redirected => some (cntDasRegDo lib input kernel)
  | .dasReged => some (cntDasWorkDo lib input kernel)
  | .dasBreak => some (cntDasRetryDo lib input kernel)
  | .dasFastReg | .dasFastRegV3 => some (cntDasRegFastDo lib input kernel)

/-- What `cnt_state_yield` does after every handler. -/
def afterHandler (sdkError : MkernelInternalError) (kernel : AccessKernel) :
    AccessKernel :=
  if sdkError = mqttBlacklist then addAccessRiskControl kernel
  else if sdkError = mqttRedirect then
    backToLbs (broadcastBreak sdkError kernel)
  else kernel

def cntStateYield (lib : AccessLibraries) (input : YieldInput)
    (kernel : AccessKernel) : Option (MkernelInternalError × AccessKernel) :=
  if checkAccessRiskControl kernel then some (.forceOffline, kernel)
  else
    (cntStateHandler lib input kernel).map fun outcome =>
      (outcome.1, afterHandler outcome.1 outcome.2)

def stopYield (lib : AccessLibraries) (submsgs : List KernelSubmsg)
    (kernel : AccessKernel) : MkernelInternalError × AccessKernel :=
  let outcome := dasUnreg lib submsgs kernel
  (outcome.1, { outcome.2 with cntState := .unredirect })

/-- `ezdev_sdk_kernel_set_net_option`; the first option stores the name of a
network card, which no part of the access state depends on. -/
def ezdevSdkKernelSetNetOption (optname : ℤ) (optval : Option Bytes)
    (kernel : AccessKernel) : EzdevSdkKernelError × AccessKernel :=
  if optname = 1 then
    match optval with
    | none => (.bufferTooSmall, kernel)
    | some value =>
        if ezdevSdkNameLen < value.length + 1 then (.bufferTooSmall, kernel)
        else (.succ, kernel)
  else if optname = 3 then
    (.succ,
      if kernel.cntState = .dasReged then { kernel with cntState := .dasBreak }
      else kernel)
  else (.paramsInvalid, kernel)

inductive AccessEvent where
  | yield (input : YieldInput)
  | setNetOption (optname : ℤ) (optval : Option Bytes)
  | stop (submsgs : List KernelSubmsg)

/-- One step of the machine; `none` only where the program has crashed. -/
def accessStep (lib : AccessLibraries) (kernel : AccessKernel) :
    AccessEvent → Option AccessKernel
  | .yield input => (cntStateYield lib input kernel).map Prod.snd
  | .setNetOption optname optval =>
      some (ezdevSdkKernelSetNetOption optname optval kernel).2
  | .stop submsgs => some (stopYield lib submsgs kernel).2

end EziotSdk

import Mathlib.Tactic

/-!
# Error codes and constants of the micro kernel

The internal error codes that the modelled functions return, the error codes
of the public interface they are translated to, and the constants of
`sdk_kernel_def.h` which the functions compare with.
-/

namespace EziotSdk

/-- The members of `mkernel_internal_error` that the modelled code produces.
`platformError code` is `mkernel_internal_platform_error + code`. -/
inductive MkernelInternalError where
  | succ
  | dasNeedReconnect
  | inputParamInvalid
  | memLack
  | netGethostbynameError
  | netConnectError
  | netSendError
  | netReadError
  | netReadErrorRequest
  | mallocError
  | jsonParseError
  | getErrorJson
  | jsonFormatError
  | xmlParseError
  | getErrorXml
  | revInvalidPacket
  | forceOffline
  | forceDomainRisk
  | forceCmdRisk
  | valueSaveErr
  | internalErr
  | callMqttConnect
  | callMqttSubError
  | callMqttPubError
  | callMqttBufferTooShort
  | extendFull
  | extendReady
  | extendNoFind
  | hubExtendNoFind
  | aesInputLen
  | aesSetdeckeyError
  | aesCryptError
  | aesPaddingUnmatched
  | ecpGroupLoadErr
  | ecdhReadPublicErr
  | ecdhCalcSecretErr
  | queueEmpty
  | queueFull
  | platformAppointError
  | signCheckError
  | hmacError
  | random1CheckError
  | hmacCompareError
  | platformError (code : ℤ)
  deriving DecidableEq, Repr

/-- The members of `ezdev_sdk_kernel_error` that the modelled code returns. -/
inductive EzdevSdkKernelError where
  | succ
  | internal
  | invaldCall
  | paramsInvalid
  | bufferTooSmall
  | dataLenRange
  | memory
  | jsonInvalid
  | jsonFormat
  | extendNoFind
  | extendFull
  | extendExisted
  | queueFull
  | valueSave
  | netDns
  | netConnect
  | netDisconnected
  | netTransmit
  | dasForceDomainRisk
  | dasForceCmdRisk
  | dasForceOffline
  | dasForceDevRisk
  | platform (code : ℤ)
  deriving DecidableEq, Repr

/-- `mkiE2ezE`.  The codes above `mkernel_internal_platform_error` have a
table of their own, which is kept as the platform's code. -/
def mkiE2ezE : MkernelInternalError → EzdevSdkKernelError
  | .succ => .succ
  | .inputParamInvalid => .paramsInvalid
  | .memLack | .callMqttBufferTooShort => .bufferTooSmall
  | .mallocError => .memory
  | .jsonParseError => .jsonInvalid
  | .getErrorJson => .jsonFormat
  | .extendNoFind => .extendNoFind
  | .extendFull => .extendFull
  | .extendReady => .extendExisted
  | .queueFull => .queueFull
  | .valueSaveErr => .valueSave
  | .netGethostbynameError => .netDns
  | .netConnectError | .callMqttConnect => .netConnect
  | .dasNeedReconnect => .netDisconnected
  | .netSendError | .netReadError | .netReadErrorRequest
  | .revInvalidPacket | .callMqttSubError | .callMqttPubError => .netTransmit
  | .forceDomainRisk => .dasForceDomainRisk
  | .forceCmdRisk => .dasForceCmdRisk
  | .forceOffline => .dasForceOffline
  | .platformError code => .platform code
  | _ => .internal

/-- The codes that follow `mkernel_internal_mqtt_error_begin`, which lies
`1000` above `mkernel_internal_platform_error`. -/
def mqttError (code : ℕ) : MkernelInternalError :=
  .platformError (1000 + code)

def mqttBlacklist : MkernelInternalError := mqttError 10

def mqttRedirect : MkernelInternalError := mqttError 11

def mqttSessionExist : MkernelInternalError := mqttError 12

def platformLbsSigncheckError : MkernelInternalError := .platformError 1

def platformDevidInconformity : MkernelInternalError := .platformError 4

def platformMasterkeyInvalid : MkernelInternalError := .platformError 10

/-- Only success is translated to success. -/
theorem mkiE2ezE_eq_succ
    (error : MkernelInternalError) :
    mkiE2ezE error = .succ ↔ error = .succ := by
  cases error <;> simp [mkiE2ezE]

/-- A function pointer: `none` is NULL, otherwise the address. -/
abbrev FunctionPointer := Option ℕ

/-- The life cycle of the micro kernel, `sdk_state`. -/
inductive SdkState where
  | idle0
  | idle
  | start
  | stop
  | idle2
  deriving DecidableEq, Repr

def ezdevSdkMaxPublishCount : ℕ := 2

def ezdevSdkSendBufMax : ℕ := 1024 * 2

def ezdevSdkRecvBufMax : ℕ := 1024 * 2

def ezdevSdkComMsgMaxBuf : ℕ := 1024 * 16

def ezdevSdkQueueMax : ℕ := 16

def hubExtendMaxNum : ℕ := 16

def ezdevSdkOfflineCmdId : ℕ := 0x2807

def dasCmdDomain : ℕ := 1000

def dasCmdCommonFun : ℕ := 1001

/-- The commands of the ISAPI tunnel, exempt from the 16K limit on a body. -/
def sendISAPICommands : List ℕ :=
  [0x4D01, 0x4D02, 0x4D03, 0x4D03]

def sdkEvent : ℕ := 0

def sdkAttribution : ℕ := 1

def sdkService : ℕ := 2

def sdkShadow : ℕ := 3

def sdkOta : ℕ := 4

end EziotSdk

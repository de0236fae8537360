import EziotSdk.BscJson
import EziotSdk.ErrorState
import EziotSdk.KernelDefs

/-!
# The server information of an LBS answer

`json_parse_das_server_info` of `json_parser.c`.  The parser fills the output
structure field by field, so an error keeps the fields written before it.
-/

namespace EziotSdk

open ErrorState

/-- How a call ends early: with an error code, or by a read through NULL. -/
inductive Abort where
  | code (error : MkernelInternalError)
  | nullDereference
  deriving DecidableEq, Repr

structure DasInfo where
  dasPort : ℕ
  dasUdpPort : ℕ
  dasAddress : CString
  dasDomain : CString
  dasServerid : CString
  deriving DecidableEq, Repr

/-- The structure after `memset` with zero. -/
def DasInfo.zero : DasInfo := ⟨0, 0, [], [], []⟩

def ezdevSdkIpMaxLen : ℕ := 64

def ezdevSdkNameLen : ℕ := 64

/-- `strncpy` of a whole text over the text a buffer holds. -/
def overwriteText (held text : CString) : CString :=
  text ++ held.drop text.length

/-- The conversion of an `int` to a 16 bit port. -/
def uint16 (value : ℤ) : ℕ := (value % 2 ^ 16).toNat

def isNumber : BscJson → Bool
  | .number _ => true
  | _ => false

/-- The type test of a port. -/
def isPort (item : Option BscJson) : Bool := item.any isNumber

/-- The text of a string item; `none` for NULL and for other types. -/
def textOf (item : Option BscJson) : Option CString :=
  item.bind BscJson.valuestring

def jsonParseDasServerInfo (parsed : Option BscJson) :
    EStateM Abort DasInfo Unit := do
  let jsonItem ← required (.code .jsonParseError) parsed
  let dasJsonItem ← required (.code .jsonParseError)
    (jsonItem.getObjectItem "Type".toList)
  let dasType ← required (.code .jsonParseError) dasJsonItem.valuestring
  reject (dasType ≠ "DAS".toList) (.code .getErrorJson)
  let dasinfoJsonItem ← required (.code .getErrorJson)
    (jsonItem.getObjectItem "DasInfo".toList)
  let addressJsonItem := dasinfoJsonItem.getObjectItem "Address".toList
  let portJsonItem := dasinfoJsonItem.getObjectItem "Port".toList
  let udpportJsonItem := dasinfoJsonItem.getObjectItem "UdpPort".toList
  let domainJsonItem := dasinfoJsonItem.getObjectItem "Domain".toList
  let serveridJsonItem := dasinfoJsonItem.getObjectItem "ServerID".toList
  -- the server id is looked at twice and the address not at all
  reject (serveridJsonItem = none ∨ portJsonItem = none ∨
    domainJsonItem = none ∨ serveridJsonItem = none ∨
    udpportJsonItem = none) (.code .getErrorJson)
  reject (¬ isPort portJsonItem ∨ ¬ isPort udpportJsonItem)
    (.code .getErrorJson)
  let serverid ← required (.code .getErrorJson) (textOf serveridJsonItem)
  let domain ← required (.code .getErrorJson) (textOf domainJsonItem)
  let addressItem ← required .nullDereference addressJsonItem
  let address ← required (.code .getErrorJson) addressItem.valuestring
  reject (ezdevSdkIpMaxLen ≤ CString.strlen address)
    (.code .platformAppointError)
  modify fun info =>
    { info with dasAddress := overwriteText info.dasAddress address }
  reject (ezdevSdkIpMaxLen ≤ CString.strlen domain)
    (.code .platformAppointError)
  modify fun info =>
    { info with dasDomain := overwriteText info.dasDomain domain }
  reject (ezdevSdkNameLen ≤ CString.strlen serverid)
    (.code .platformAppointError)
  modify fun info =>
    { info with dasServerid := overwriteText info.dasServerid serverid }
  modify fun info =>
    { info with
      dasPort := uint16 (portJsonItem.elim 0 BscJson.valueint)
      dasUdpPort := uint16 (udpportJsonItem.elim 0 BscJson.valueint) }

/-- A document of type `DAS` whose information has its ports, domain and
server id in the right types, but no address. -/
structure Addressless (document info : BscJson) : Prop where
  dasType : (document.getObjectItem "Type".toList).bind
    BscJson.valuestring = some "DAS".toList
  dasInfo : document.getObjectItem "DasInfo".toList = some info
  port : isPort (info.getObjectItem "Port".toList) = true
  udpPort : isPort (info.getObjectItem "UdpPort".toList) = true
  domain : (textOf (info.getObjectItem "Domain".toList)).isSome
  serverid : (textOf (info.getObjectItem "ServerID".toList)).isSome
  address : info.getObjectItem "Address".toList = none

theorem ne_none_of_isPort
    {item : Option BscJson} (hport : isPort item = true) : item ≠ none := by
  rintro rfl
  cases hport

theorem ne_none_of_textOf
    {item : Option BscJson} {text : CString}
    (htext : textOf item = some text) : item ≠ none := by
  rintro rfl
  cases htext

theorem keeps_jsonParseDasServerInfo (parsed : Option BscJson) :
    Keeps (fun _ => ()) (· ≠ .code .succ)
      (jsonParseDasServerInfo parsed) := by
  unfold jsonParseDasServerInfo
  repeat'
    first
      | exact keeps_required (by decide) _
      | exact keeps_reject fun _ => by decide
      | exact keeps_modify fun _ => rfl
      | refine keeps_bind ?_ fun _ => ?_

/-- The parser reads through NULL exactly on the documents that lack the
address and nothing else. -/
theorem jsonParseDasServerInfo_eq_nullDereference_iff
    {parsed : Option BscJson} {info reached : DasInfo} :
    jsonParseDasServerInfo parsed info = .error .nullDereference reached ↔
      info = reached ∧ ∃ document dasInfo, parsed = some document ∧
        Addressless document dasInfo := by
  simp only [jsonParseDasServerInfo, bind_error_iff, required_error_iff,
    required_ok_iff, reject_error_iff, reject_ok_iff, modify_error_iff,
    modify_ok_iff, reduceCtorEq, false_and, and_false, exists_false,
    or_false, false_or]
  constructor
  · rintro ⟨document, _, ⟨hparsed, rfl⟩, typeItem, _, ⟨htype, rfl⟩,
      dasType, _, ⟨hvalue, rfl⟩, _, _, ⟨hdas, rfl⟩, dasInfo, _,
      ⟨hinfo, rfl⟩, _, _, ⟨_, rfl⟩, _, _, ⟨hports, rfl⟩, serverid, _,
      ⟨hserverid, rfl⟩, domain, _, ⟨hdomain, rfl⟩, haddress, _, rfl⟩
    rw [not_not] at hdas
    rw [not_or, not_not, not_not] at hports
    refine ⟨rfl, document, dasInfo, hparsed, ?_⟩
    exact {
      dasType := by rw [htype, Option.bind_some, hvalue, hdas]
      dasInfo := hinfo
      port := hports.1
      udpPort := hports.2
      domain := by rw [hdomain, Option.isSome_some]
      serverid := by rw [hserverid, Option.isSome_some]
      address := haddress }
  · rintro ⟨rfl, document, dasInfo, rfl, hless⟩
    obtain ⟨typeItem, htype, hvalue⟩ :=
      Option.bind_eq_some_iff.mp hless.dasType
    obtain ⟨serverid, hserverid⟩ := Option.isSome_iff_exists.mp hless.serverid
    obtain ⟨domain, hdomain⟩ := Option.isSome_iff_exists.mp hless.domain
    refine ⟨document, info, ⟨rfl, rfl⟩, typeItem, info, ⟨htype, rfl⟩,
      _, info, ⟨hvalue, rfl⟩, (), info, ⟨not_not.mpr rfl, rfl⟩,
      dasInfo, info, ⟨hless.dasInfo, rfl⟩, (), info, ⟨?_, rfl⟩,
      (), info, ⟨?_, rfl⟩, serverid, info, ⟨hserverid, rfl⟩,
      domain, info, ⟨hdomain, rfl⟩, hless.address, trivial, rfl⟩
    · rintro (habsent | habsent | habsent | habsent | habsent)
      · exact ne_none_of_textOf hserverid habsent
      · exact ne_none_of_isPort hless.port habsent
      · exact ne_none_of_textOf hdomain habsent
      · exact ne_none_of_textOf hserverid habsent
      · exact ne_none_of_isPort hless.udpPort habsent
    · exact not_or.mpr ⟨not_not.mpr hless.port, not_not.mpr hless.udpPort⟩

end EziotSdk

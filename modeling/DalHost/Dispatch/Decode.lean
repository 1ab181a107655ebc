import DalHost.Common.Layout
import DalHost.Lib.Scan
import DalHost.Service.Calls

/-!
# The requests the service accepts

For every command the part of its `Invoke*` handler that comes before the call: the fields are read
in the order of the source, each check answers the source's code, and what is left is the call with
its arguments. Sizes are added in 64 bits, so the sums below do not wrap. A pointer that is handed
on is logged as a read of what it stands for.
-/

namespace DalHost

open Scan

/-! ### Applet ids -/

/-- `CommandDispatcher::convertAppIDtoUpperCase`. -/
def convertAppIDtoUpperCase (pAppId : Bytes) : Option AppId := jhiUtilUUIDValidate pAppId

/-- `CommandDispatcher::verifyAppID`. -/
def verifyAppID (pAppId : AppId) : JhiRet :=
  if pAppId.text.length ≠ lenAppId then jhiInvalidAppletGuid
  -- block any command that is involved with the spooler applet
  else if pAppId = spoolerAppletUuid then jhiInvalidAppletGuid
  else jhiSuccess

/-- The checks on the id at offset 5 that six handlers share. -/
def readAppId : Scan JhiRet AppId := do
  let terminator ← u8 (5 + lenAppId)
  check (terminator = 0) jhiInternalError
  let pAppid ← bytes 5 (lenAppId + 1)
  match convertAppIDtoUpperCase (cString pAppid) with
  | none => fail jhiInternalError
  | some appId =>
    check (verifyAppID appId = jhiSuccess) jhiInvalidAppletGuid
    return appId

/-! ### Shared fields -/

/-- `cmd->dataLength != inputSize`, which every handler checks again. -/
def checkDataLength (inputSize : UInt32) (retCode : JhiRet) : Scan JhiRet Unit := do
  let dataLength ← u32 1
  check (dataLength = inputSize) retCode

/-- The session id at offset 5. -/
def readSessionId : Scan JhiRet SessionId := do
  let id ← bytes 5 16
  if h : id.length = 16 then return ⟨id, h⟩ else fail jhiInternalError

/-- The process info at an offset. -/
def readProcessInfo (off : Nat) : Scan JhiRet ProcessInfo := do
  let pid ← u32 off
  let low ← u32 (off + 4)
  let high ← u32 (off + 8)
  return ⟨pid, low, high⟩

/-! ### Commands on applets and sessions -/

section Handlers

variable (inputSize : UInt32)

/-- `InvokeInit`. -/
def invokeInit : Scan JhiRet (Option Call) := do
  check (inputSize.toNat = sizeofJhiCommand) jhiInternalError
  return none

/-- `InvokeInstall`. -/
def invokeInstall : Scan JhiRet (Option Call) := do
  checkDataLength inputSize jhiInternalError
  check (sizeofJhiCommand + sizeofCmdInstall - 1 ≤ inputSize.toNat) jhiInternalError
  let srcFileSize ← u32 38
  -- not less than an empty string and not more than FILENAME_MAX characters
  check (1 ≤ srcFileSize.toNat ∧ srcFileSize.toNat ≤ filenameMax + 1) jhiInternalError
  check (inputSize.toNat = sizeofJhiCommand + sizeofCmdInstall + srcFileSize.toNat - 2) jhiInternalError
  let terminator ← u8 (5 + lenAppId)
  check (terminator = 0) jhiInternalError
  let fileTerminator ← u8 (42 + (srcFileSize.toNat - 1))
  check (fileTerminator = 0) jhiInternalError
  -- the terminator of the id, checked above, is checked again by `JhiUtilUUID_Validate`
  let appId ← readAppId
  let pFile ← bytes 42 srcFileSize.toNat
  return some (.install appId (cString pFile))

/-- `InvokeUninstall`. -/
def invokeUninstall : Scan JhiRet (Option Call) := do
  checkDataLength inputSize jhiInternalError
  check (inputSize.toNat = sizeofJhiCommand + sizeofCmdUninstall - 1) jhiInternalError
  let appId ← readAppId
  return some (.uninstall appId)

/-- `InvokeGetSessionsCount`. -/
def invokeGetSessionsCount : Scan JhiRet (Option Call) := do
  checkDataLength inputSize jhiInternalError
  check (inputSize.toNat = sizeofJhiCommand + sizeofCmdGetSessionsCount - 1) jhiInternalError
  let appId ← readAppId
  return some (.getSessionsCount appId)

/-- `InvokeCreateSession`. -/
def invokeCreateSession : Scan JhiRet (Option Call) := do
  checkDataLength inputSize jhiInternalError
  check (sizeofJhiCommand + sizeofCmdCreateSession - 1 ≤ inputSize.toNat) jhiInternalError
  let initBufferSize ← u32 38
  check (initBufferSize.toNat ≤ jhiBufferMax) jhiInternalError
  check (initBufferSize.toNat = 0 →
    inputSize.toNat = sizeofJhiCommand + sizeofCmdCreateSession + initBufferSize.toNat - 1) jhiInternalError
  check (0 < initBufferSize.toNat →
    inputSize.toNat = sizeofJhiCommand + sizeofCmdCreateSession + initBufferSize.toNat - 2) jhiInternalError
  let appId ← readAppId
  let flags ← u32 42
  let processInfo ← readProcessInfo 46
  let initData ← bytes 58 initBufferSize.toNat
  return some (.createSession appId flags initData processInfo)

/-- `InvokeCloseSession`. -/
def invokeCloseSession : Scan JhiRet (Option Call) := do
  checkDataLength inputSize jhiInternalError
  check (inputSize.toNat = sizeofJhiCommand + sizeofCmdCloseSession - 1) jhiInternalError
  let sessionId ← readSessionId
  let processInfo ← readProcessInfo 21
  let force ← u8 33
  return some (.closeSession sessionId processInfo (force ≠ 0))

/-- `InvokeSetSessionEventHandler`. -/
def invokeSetSessionEventHandler : Scan JhiRet (Option Call) := do
  checkDataLength inputSize jhiInternalError
  check (sizeofJhiCommand + sizeofCmdSetSessionEventHandler - 1 ≤ inputSize.toNat) jhiInternalError
  let handleNameSize ← u32 21
  check (1 ≤ handleNameSize.toNat ∧ handleNameSize.toNat ≤ jhiEventHandleSize) jhiInternalError
  check (inputSize.toNat = sizeofJhiCommand + sizeofCmdSetSessionEventHandler + handleNameSize.toNat - 2)
    jhiInternalError
  let terminator ← u8 (25 + (handleNameSize.toNat - 1))
  check (terminator = 0) jhiInternalError
  let sessionId ← readSessionId
  let pHandleName ← bytes 25 handleNameSize.toNat
  return some (.setSessionEventHandler sessionId (cString pHandleName))

/-- `InvokeGetSessionInfo`. -/
def invokeGetSessionInfo : Scan JhiRet (Option Call) := do
  checkDataLength inputSize jhiInternalError
  check (inputSize.toNat = sizeofJhiCommand + sizeofCmdGetSessionInfo - 1) jhiInternalError
  let sessionId ← readSessionId
  return some (.getSessionInfo sessionId)

/-- `InvokeGetSessionEventData`. -/
def invokeGetSessionEventData : Scan JhiRet (Option Call) := do
  checkDataLength inputSize jhiInternalError
  check (inputSize.toNat = sizeofJhiCommand + sizeofCmdGetEventData - 1) jhiInternalError
  let sessionId ← readSessionId
  return some (.getSessionEventData sessionId)

/-- `InvokeSendAndRecieve`. -/
def invokeSendAndRecieve : Scan JhiRet (Option Call) := do
  checkDataLength inputSize jhiInternalError
  check (sizeofJhiCommand + sizeofCmdSendAndRecieve - 1 ≤ inputSize.toNat) jhiInternalError
  let sendBufferSize ← u32 25
  let recvBufferSize ← u32 29
  check (sendBufferSize.toNat ≤ jhiBufferMax ∧ recvBufferSize.toNat ≤ jhiBufferMax) jhiInvalidBufferSize
  check (sendBufferSize.toNat = 0 →
    inputSize.toNat = sizeofJhiCommand + sizeofCmdSendAndRecieve + sendBufferSize.toNat - 1) jhiInternalError
  check (0 < sendBufferSize.toNat →
    inputSize.toNat = sizeofJhiCommand + sizeofCmdSendAndRecieve + sendBufferSize.toNat - 2) jhiInternalError
  let sessionId ← readSessionId
  let commandId ← u32 21
  let tx ← bytes 33 sendBufferSize.toNat
  return some (.sendAndRecieve sessionId commandId tx recvBufferSize)

/-- `InvokeGetAppletProperty`. -/
def invokeGetAppletProperty : Scan JhiRet (Option Call) := do
  checkDataLength inputSize jhiInternalError
  check (sizeofJhiCommand + sizeofCmdGetAppletProperty - 1 ≤ inputSize.toNat) jhiInternalError
  let sendBufferSize ← u32 38
  let recvBufferSize ← u32 42
  check (sendBufferSize.toNat ≤ jhiBufferMax ∧ recvBufferSize.toNat ≤ jhiBufferMax) jhiInvalidBufferSize
  check (sendBufferSize.toNat = 0 →
    inputSize.toNat = sizeofJhiCommand + sizeofCmdGetAppletProperty + sendBufferSize.toNat - 1) jhiInternalError
  check (0 < sendBufferSize.toNat →
    inputSize.toNat = sizeofJhiCommand + sizeofCmdGetAppletProperty + sendBufferSize.toNat - 2) jhiInternalError
  check (sendBufferSize.toNat ≤ jhiBufferMax ∧ recvBufferSize.toNat ≤ jhiBufferMax) jhiInvalidBufferSize
  let appId ← readAppId
  let tx ← bytes 46 sendBufferSize.toNat
  return some (.getAppletProperty appId tx recvBufferSize)

/-- `InvokeGetVersionInfo`, which does not look at the length in the header. -/
def invokeGetVersionInfo : Scan JhiRet (Option Call) := do
  check (inputSize.toNat = sizeofJhiCommand) jhiInternalError
  return some .getVersionInfo

/-- `InvokeGetSessionDataTable`. -/
def invokeGetSessionDataTable : Scan JhiRet (Option Call) := do
  checkDataLength inputSize jhiInternalError
  check (inputSize.toNat = sizeofJhiCommand) jhiInternalError
  return some .getSessionsDataTable

/-- `InvokeGetLoadedApplets`. -/
def invokeGetLoadedApplets : Scan JhiRet (Option Call) := do
  checkDataLength inputSize jhiInternalError
  return some .getLoadedApplets

/-! ### Commands on security domains -/

variable (vmType : VmType) (pluginRegistered : Bool)

/-- `InvokeOpenSDSession`. -/
def invokeOpenSDSession : Scan JhiRet (Option Call) := do
  check (vmType = .beihaiV2) teeStatusUnsupportedPlatform
  checkDataLength inputSize teeStatusInternalError
  check (sizeofJhiCommand - 1 + sizeofCmdCreateSDSession ≤ inputSize.toNat) teeStatusInternalError
  let terminator ← u8 (5 + lenAppId)
  check (terminator = 0) teeStatusInternalError
  let uuid ← bytes 5 (lenAppId + 1)
  check (validateUuidString (cString uuid) = true) teeStatusInvalidUuid
  check (pluginRegistered = true) teeStatusNoFwConnection
  return some (.openSDSession (cString uuid))

/-- The part that the handlers with nothing but a handle in the body share. -/
def readSdHandle (sizeofCmd : Nat) : Scan JhiRet VmHandle := do
  check (vmType = .beihaiV2) teeStatusUnsupportedPlatform
  checkDataLength inputSize teeStatusInternalError
  check (sizeofJhiCommand + sizeofCmd - 1 ≤ inputSize.toNat) teeStatusInternalError
  let sdHandle ← u64 5
  check (sdHandle ≠ 0) teeStatusInternalError
  check (pluginRegistered = true) teeStatusNoFwConnection
  return sdHandle

/-- `InvokeCloseSDSession`. -/
def invokeCloseSDSession : Scan JhiRet (Option Call) := do
  let sdHandle ← readSdHandle inputSize vmType pluginRegistered sizeofCmdCloseSDSession
  return some (.closeSDSession sdHandle)

/-- `InvokeListInstalledTAs`. -/
def invokeListInstalledTAs : Scan JhiRet (Option Call) := do
  let sdHandle ← readSdHandle inputSize vmType pluginRegistered sizeofCmdListInstalledTAs
  return some (.listInstalledTAs sdHandle)

/-- `InvokeListInstalledSDs`. -/
def invokeListInstalledSDs : Scan JhiRet (Option Call) := do
  let sdHandle ← readSdHandle inputSize vmType pluginRegistered sizeofCmdListInstalledSDs
  return some (.listInstalledSDs sdHandle)

/-- `InvokeSendCmdPkg`. Its fields are read before any check of the size, and the handle only if the
blob is not empty. -/
def invokeSendCmdPkg : Scan JhiRet (Option Call) := do
  check (vmType = .beihaiV2) teeStatusUnsupportedPlatform
  checkDataLength inputSize teeStatusInternalError
  let blobSize ← u32 13
  check (blobSize ≠ 0) teeStatusInternalError
  let sdHandle ← u64 5
  check (sdHandle ≠ 0) teeStatusInternalError
  check (inputSize.toNat = sizeofJhiCommand - 1 + sizeofCmdSendCmdPkg - 1 + blobSize.toNat) teeStatusInternalError
  let blob ← bytes 17 blobSize.toNat
  return some (.sendCmdPkg sdHandle blob)

/-- `InvokeQueryTeeMetadata`. -/
def invokeQueryTeeMetadata : Scan JhiRet (Option Call) := do
  check (vmType = .beihaiV2) teeStatusUnsupportedPlatform
  checkDataLength inputSize teeStatusInternalError
  check (sizeofJhiCommand ≤ inputSize.toNat) teeStatusInternalError
  check (pluginRegistered = true) teeStatusNoFwConnection
  return some .queryTeeMetadata

/-- The key of a provisioning command. -/
def readKey (sizeofCmd : Nat) : Scan JhiRet Bytes := do
  check (vmType = .beihaiV2) teeStatusUnsupportedPlatform
  checkDataLength inputSize teeStatusInternalError
  check (inputSize.toNat = sizeofJhiCommand - 1 + sizeofCmd) teeStatusInternalError
  check (pluginRegistered = true) teeStatusNoFwConnection
  bytes 5 sizeofCmd

/-- `InvokeProvisionOemMasterKey`. -/
def invokeProvisionOemMasterKey : Scan JhiRet (Option Call) := do
  let key ← readKey inputSize vmType pluginRegistered sizeofCmdProvisionOemMasterKey
  return some (.provisionOemMasterKey key)

/-- `InvokeSetTAEncryptionKey`. -/
def invokeSetTAEncryptionKey : Scan JhiRet (Option Call) := do
  let key ← readKey inputSize vmType pluginRegistered sizeofCmdSetTAEncryptionKey
  return some (.setTAEncryptionKey key)

/-- The switch of `processCommand`, up to the call. -/
def decode : CommandId → Scan JhiRet (Option Call)
  | .init => invokeInit inputSize
  | .install => invokeInstall inputSize
  | .uninstall => invokeUninstall inputSize
  | .sendAndRecieve => invokeSendAndRecieve inputSize
  | .createSession => invokeCreateSession inputSize
  | .closeSession => invokeCloseSession inputSize
  | .getSessionsCount => invokeGetSessionsCount inputSize
  | .getSessionInfo => invokeGetSessionInfo inputSize
  | .setSessionEventHandler => invokeSetSessionEventHandler inputSize
  | .getEventData => invokeGetSessionEventData inputSize
  | .getAppletProperty => invokeGetAppletProperty inputSize
  | .getVersionInfo => invokeGetVersionInfo inputSize
  | .sendCmdPkg => invokeSendCmdPkg inputSize vmType
  | .createSDSession => invokeOpenSDSession inputSize vmType pluginRegistered
  | .closeSDSession => invokeCloseSDSession inputSize vmType pluginRegistered
  | .listInstalledTAs => invokeListInstalledTAs inputSize vmType pluginRegistered
  | .queryTeeMetadata => invokeQueryTeeMetadata inputSize vmType pluginRegistered
  | .listInstalledSDs => invokeListInstalledSDs inputSize vmType pluginRegistered
  | .provisionOemMasterKey => invokeProvisionOemMasterKey inputSize vmType pluginRegistered
  | .setTAEncryptionKey => invokeSetTAEncryptionKey inputSize vmType pluginRegistered
  | .getSessionsDataTable => invokeGetSessionDataTable inputSize
  | .getLoadedApplets => invokeGetLoadedApplets inputSize

end Handlers

/-! ### The call of a command -/

/-- The command that leads to a call. -/
def Call.commandId : Call → CommandId
  | .install .. => .install
  | .uninstall _ => .uninstall
  | .sendAndRecieve .. => .sendAndRecieve
  | .createSession .. => .createSession
  | .closeSession .. => .closeSession
  | .getSessionsCount _ => .getSessionsCount
  | .getSessionInfo _ => .getSessionInfo
  | .setSessionEventHandler .. => .setSessionEventHandler
  | .getSessionEventData _ => .getEventData
  | .getAppletProperty .. => .getAppletProperty
  | .getVersionInfo => .getVersionInfo
  | .sendCmdPkg .. => .sendCmdPkg
  | .openSDSession _ => .createSDSession
  | .closeSDSession _ => .closeSDSession
  | .listInstalledTAs _ => .listInstalledTAs
  | .listInstalledSDs _ => .listInstalledSDs
  | .queryTeeMetadata => .queryTeeMetadata
  | .provisionOemMasterKey _ => .provisionOemMasterKey
  | .setTAEncryptionKey _ => .setTAEncryptionKey
  | .getSessionsDataTable => .getSessionsDataTable
  | .getLoadedApplets => .getLoadedApplets

/-- The receive buffer of a property query is within the limit. -/
def Call.WithinLimit : Call → Prop
  | .getAppletProperty _ _ rxLen => rxLen.toNat ≤ jhiBufferMax
  | _ => True

/-- What the handler of a command can get to. -/
def CallOf (id : CommandId) : Option Call → Prop
  | none => id = .init
  | some c => c.commandId = id ∧ c.WithinLimit

theorem returns_callOf (inputSize : UInt32) (vmType : VmType) (pluginRegistered : Bool) (id : CommandId) :
    Returns (CallOf id) (decode inputSize vmType pluginRegistered id) := by
  cases id with
  | init => exact returns_bind fun _ => returns_pure rfl
  | getAppletProperty =>
    refine returns_bind fun _ => returns_check_bind fun _ => returns_bind fun _ => returns_bind fun _ => ?_
    refine returns_check_bind fun hlimit => ?_
    refine returns_bind fun _ => returns_bind fun _ => returns_bind fun _ => ?_
    exact returns_bind fun _ => returns_bind fun _ => returns_pure ⟨rfl, hlimit.2⟩
  | _ =>
    simp only [decode, invokeInstall, invokeUninstall, invokeGetSessionsCount, invokeCreateSession,
      invokeCloseSession, invokeSetSessionEventHandler, invokeGetSessionInfo, invokeGetSessionEventData,
      invokeSendAndRecieve, invokeGetVersionInfo, invokeGetSessionDataTable, invokeGetLoadedApplets,
      invokeOpenSDSession, invokeCloseSDSession, invokeListInstalledTAs, invokeListInstalledSDs, invokeSendCmdPkg,
      invokeQueryTeeMetadata, invokeProvisionOemMasterKey, invokeSetTAEncryptionKey]
    with_reducible repeat refine returns_bind fun _ => ?_
    exact returns_pure ⟨rfl, trivial⟩

theorem answer_checkDataLength_bind {α : Type} {m : Nat → UInt8} {inputSize : UInt32}
    (h : u32At m 1 = inputSize) (retCode : JhiRet) (f : Unit → Scan JhiRet α) :
    (checkDataLength inputSize retCode >>= f).answer m = (f ()).answer m := by
  refine answer_bind_of_ok m ?_ f
  unfold checkDataLength
  rw [answer_u32_bind, answer_check, if_pos h]

end DalHost

import DalHost.Common.Uuid
import DalHost.Lib.Buffer

/-!
# The messages between client and service

Command ids, the sizes of the packed structures of `CSTypedefs.h` and the header of a response. A
command starts with its id (one byte) and its length (four bytes), and its body starts at offset 5;
a response starts with the return code and its length, and its body starts at offset 8. Both
headers end in a member `data[1]`, which is why sizes are corrected by one or two throughout.
Offsets of fields are counted from the start of the message:

* `JHI_CMD_INSTALL`: `AppId` 5, `SrcFile_size` 38, `data` 42
* `JHI_CMD_UNINSTALL`, `JHI_CMD_GET_SESSIONS_COUNT`: `AppId` 5
* `JHI_CMD_CREATE_SESSION`: `AppId` 5, `initBuffer_size` 38, `flags` 42, `processInfo` 46, `data` 58
* `JHI_CMD_CLOSE_SESSION`: `SessionID` 5, `processInfo` 21, `force` 33
* `JHI_CMD_SET_SESSION_EVENT_HANDLER`: `SessionID` 5, `handleName_size` 21, `data` 25
* `JHI_CMD_GET_SESSION_INFO`, `JHI_CMD_GET_EVENT_DATA`: `SessionID` 5
* `JHI_CMD_SEND_AND_RECIEVE`: `SessionID` 5, `CommandId` 21, `SendBuffer_size` 25, `RecvBuffer_size` 29, `data` 33
* `JHI_CMD_GET_APPLET_PROPERTY`: `AppId` 5, `SendBuffer_size` 38, `RecvBuffer_size` 42, `data` 46
* `JHI_CMD_CREATE_SD_SESSION`: `sdId` 5; the other commands on security domains: `sdHandle` 5
* `JHI_CMD_SEND_CMD_PKG`: `sdHandle` 5, `blobSize` 13, `blob` 17
-/

namespace DalHost

/-! ### Command ids -/

/-- `JHI_COMMAND_ID`. -/
inductive CommandId
  | init
  | install
  | uninstall
  | sendAndRecieve
  | createSession
  | closeSession
  | getSessionsCount
  | getSessionInfo
  | setSessionEventHandler
  | getEventData
  | getAppletProperty
  | getVersionInfo
  | sendCmdPkg
  | createSDSession
  | closeSDSession
  | listInstalledTAs
  | queryTeeMetadata
  | listInstalledSDs
  | provisionOemMasterKey
  | setTAEncryptionKey
  | getSessionsDataTable
  | getLoadedApplets
  deriving DecidableEq

/-- The value of an id on the wire. -/
def CommandId.toByte : CommandId → UInt8
  | .init => 0
  | .install => 1
  | .uninstall => 2
  | .sendAndRecieve => 3
  | .createSession => 4
  | .closeSession => 5
  | .getSessionsCount => 6
  | .getSessionInfo => 7
  | .setSessionEventHandler => 8
  | .getEventData => 9
  | .getAppletProperty => 10
  | .getVersionInfo => 11
  | .sendCmdPkg => 12
  | .createSDSession => 13
  | .closeSDSession => 14
  | .listInstalledTAs => 15
  | .queryTeeMetadata => 16
  | .listInstalledSDs => 17
  | .provisionOemMasterKey => 18
  | .setTAEncryptionKey => 19
  | .getSessionsDataTable => 20
  | .getLoadedApplets => 21

/-- The ids in the order of the enumeration. Only a build for the emulation
(`SCHANNEL_OVER_SOCKET`) has the last two. -/
def commandIds (emulation : Bool) : List CommandId :=
  [.init, .install, .uninstall, .sendAndRecieve, .createSession, .closeSession, .getSessionsCount,
    .getSessionInfo, .setSessionEventHandler, .getEventData, .getAppletProperty, .getVersionInfo, .sendCmdPkg,
    .createSDSession, .closeSDSession, .listInstalledTAs, .queryTeeMetadata, .listInstalledSDs,
    .provisionOemMasterKey, .setTAEncryptionKey] ++
  if emulation then [.getSessionsDataTable, .getLoadedApplets] else []

/-- The command with a given id; an id from `INVALID_COMMAND_ID` on has none. -/
def CommandId.ofByte (emulation : Bool) (b : UInt8) : Option CommandId := (commandIds emulation)[b.toNat]?

theorem CommandId.ofByte_toByte (emulation : Bool) (id : CommandId) :
    CommandId.ofByte emulation id.toByte = some id ∨
      emulation = false ∧ (id = .getSessionsDataTable ∨ id = .getLoadedApplets) := by
  cases emulation <;> cases id <;> decide

/-! ### Sizes -/

def sizeofJhiCommand : Nat := 6
def sizeofJhiResponse : Nat := 9

def sizeofCmdInstall : Nat := 38
def sizeofCmdUninstall : Nat := 33
def sizeofCmdGetSessionsCount : Nat := 33
def sizeofCmdCreateSession : Nat := 54
def sizeofCmdCloseSession : Nat := 29
def sizeofCmdSetSessionEventHandler : Nat := 21
def sizeofCmdGetSessionInfo : Nat := 16
def sizeofCmdGetEventData : Nat := 16
def sizeofCmdSendAndRecieve : Nat := 29
def sizeofCmdGetAppletProperty : Nat := 42
def sizeofCmdCreateSDSession : Nat := 33
def sizeofCmdCloseSDSession : Nat := 8
def sizeofCmdListInstalledTAs : Nat := 8
def sizeofCmdListInstalledSDs : Nat := 8
def sizeofCmdSendCmdPkg : Nat := 13
/-- `JHI_CMD_PROVISION_OEM_MASTER_KEY`, a `tee_asym_key_material`. -/
def sizeofCmdProvisionOemMasterKey : Nat := 1040
/-- `JHI_CMD_SET_TA_ENCRIPTION_KEY`, a `tee_key_material`. -/
def sizeofCmdSetTAEncryptionKey : Nat := 1060

def sizeofResGetSessionsCount : UInt32 := 4
def sizeofResCreateSession : UInt32 := 16
def sizeofResGetSessionInfo : UInt32 := 88
def sizeofResGetEventData : UInt32 := 6
def sizeofResSendAndRecieve : UInt32 := 9
def sizeofResGetAppletProperty : UInt32 := 5
def sizeofResCreateSDSession : UInt32 := 8
def sizeofResListInstalled : UInt32 := 5
def sizeofResQueryTeeMetadata : UInt32 := 5
def sizeofVersionInfo : UInt32 := 188
/-- `JHI_RES_GET_SESSIONS_DATA_TABLE`: the count, four bytes of padding and a pointer. -/
def sizeofResGetSessionsDataTable : UInt32 := 16
/-- `JHI_RES_GET_LOADED_APPLETS`: the count, four bytes of padding and a pointer. -/
def sizeofResGetLoadedApplets : UInt32 := 16
def sizeofSessionExtendedInfo : UInt32 := 152
def sizeofProcessInfo : UInt32 := 12

/-- A `JHI_PROCESS_INFO` on the wire. -/
def processInfoBytes (info : ProcessInfo) : Bytes :=
  le32 info.pid ++ le32 info.creationTimeLow ++ le32 info.creationTimeHigh

theorem length_processInfoBytes (info : ProcessInfo) : (processInfoBytes info).length = 12 := by
  simp [processInfoBytes]

/-- `VERSION_BUFFER_SIZE`. -/
def versionBufferSize : Nat := 50

/-- `JHI_MAX_TRANSPORT_DATA_SIZE`. -/
def jhiMaxTransportDataSize : Nat := 5242880

end DalHost

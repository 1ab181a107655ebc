import DalHost.Common.Layout
import DalHost.Common.Message
import DalHost.Service.State

/-!
# The requests of the client library

`ClientCall` has one constructor for each `CommandInvoker::Jhis*` function, with the arguments that
go into the request, and `encode` is the part of these functions that fills the command buffer. The
structures are built on the stack and stored whole, so that fields which are set afterwards, and
`data[0]`, first hold what was on the stack. `ApiCall` and `forward` are the functions of `jhi.cpp`
in front of them: the checks on their arguments, handles apart, and the call they forward.
-/

namespace DalHost

/-! ### `CommandInvoker` -/

/-- A `Jhis*` function with its arguments. A string is given without its terminator. -/
inductive ClientCall
  | init
  | install (appId : AppId) (srcFile : Bytes)
  | uninstall (appId : AppId)
  | getSessionsCount (appId : AppId)
  | createSession (appId : AppId) (flags : UInt32) (initBuffer : Bytes) (processInfo : ProcessInfo)
  | closeSession (sessionId : SessionId) (processInfo : ProcessInfo) (force : Bool)
  | getSessionInfo (sessionId : SessionId)
  | setSessionEventHandler (sessionId : SessionId) (handleName : Bytes)
  | getEventData (sessionId : SessionId)
  | sendAndRecv (sessionId : SessionId) (commandId : UInt32) (sendBuffer : Bytes) (recvBufferSize : UInt32)
  /-- The send buffer has a terminator behind its end. -/
  | getAppletProperty (appId : AppId) (sendBuffer : Bytes) (recvBufferSize : UInt32)
  | getVersionInfo
  | openSDSession (sdId : Bytes)
  | closeSDSession (sdHandle : VmHandle)
  | sendAdminCmdPkg (sdHandle : VmHandle) (package : Bytes)
  | listInstalledTAs (sdHandle : VmHandle)
  | listInstalledSDs (sdHandle : VmHandle)
  | queryTEEMetadata (maxLength : Nat)
  | provisionOemMasterKey (key : Bytes)
  | setTAEncryptionKey (key : Bytes)
  | getSessionTable
  | getLoadedAppletsList

def ClientCall.commandId : ClientCall → CommandId
  | .init => .init
  | .install .. => .install
  | .uninstall _ => .uninstall
  | .getSessionsCount _ => .getSessionsCount
  | .createSession .. => .createSession
  | .closeSession .. => .closeSession
  | .getSessionInfo _ => .getSessionInfo
  | .setSessionEventHandler .. => .setSessionEventHandler
  | .getEventData _ => .getEventData
  | .sendAndRecv .. => .sendAndRecieve
  | .getAppletProperty .. => .getAppletProperty
  | .getVersionInfo => .getVersionInfo
  | .openSDSession _ => .createSDSession
  | .closeSDSession _ => .closeSDSession
  | .sendAdminCmdPkg .. => .sendCmdPkg
  | .listInstalledTAs _ => .listInstalledTAs
  | .listInstalledSDs _ => .listInstalledSDs
  | .queryTEEMetadata _ => .queryTeeMetadata
  | .provisionOemMasterKey _ => .provisionOemMasterKey
  | .setTAEncryptionKey _ => .setTAEncryptionKey
  | .getSessionTable => .getSessionsDataTable
  | .getLoadedAppletsList => .getLoadedApplets

/-- A request: the `JHI_COMMAND`, whose `data[0]` is not set, and the stores into the body. -/
def command (id : CommandId) (dataLength : UInt32) (body : List (Nat × List (Cell Junk))) : Message :=
  ⟨dataLength, (0, Cell.ofBytes (id.toByte :: le32 dataLength) ++ [.raw (.stack 0)]) :: body⟩

/-- The bytes of a string with its terminator. -/
def terminated (s : Bytes) : Bytes := s ++ [0]

/-- The length of the request: the structures, less the bytes of `data[1]` that the data takes the place
of, and the data. -/
def commandLength (sizeofCmd : Nat) (less : UInt32) (dataSize : UInt32) : UInt32 :=
  UInt32.ofNat (sizeofJhiCommand + sizeofCmd) + dataSize - less

/-- `JhisInstall`. -/
def encodeInstall (appId : AppId) (srcFile : Bytes) : Message :=
  let srcFileSize := UInt32.ofNat (srcFile.length + 1)
  command .install (commandLength sizeofCmdInstall 2 srcFileSize)
    [(5, raws .stack (lenAppId + 1) ++ Cell.ofBytes (le32 srcFileSize) ++ [.raw (.stack 33)]),
      (5, Cell.ofBytes (terminated appId.text)), (42, Cell.ofBytes (terminated srcFile))]

/-- `JhisCreateSession`. -/
def encodeCreateSession (appId : AppId) (flags : UInt32) (initBuffer : Bytes) (processInfo : ProcessInfo) : Message :=
  let initBufferSize := UInt32.ofNat initBuffer.length
  command .createSession (commandLength sizeofCmdCreateSession (if initBufferSize = 0 then 1 else 2) initBufferSize)
    [(5, raws .stack (lenAppId + 1) ++ Cell.ofBytes (le32 initBufferSize ++ le32 flags ++
        processInfoBytes processInfo) ++ [.raw (.stack 33)]),
      (5, Cell.ofBytes (terminated appId.text)), (58, Cell.ofBytes initBuffer)]

/-- `JhisSetSessionEventHandler`. -/
def encodeSetSessionEventHandler (sessionId : SessionId) (handleName : Bytes) : Message :=
  let handleNameSize := UInt32.ofNat (handleName.length + 1)
  command .setSessionEventHandler (commandLength sizeofCmdSetSessionEventHandler 2 handleNameSize)
    [(5, Cell.ofBytes (sessionId.bytes ++ le32 handleNameSize) ++ [.raw (.stack 20)]),
      (25, Cell.ofBytes (terminated handleName))]

/-- `JhisSendAndRecv`. -/
def encodeSendAndRecv (sessionId : SessionId) (commandId : UInt32) (sendBuffer : Bytes) (recvBufferSize : UInt32) :
    Message :=
  let sendBufferSize := UInt32.ofNat sendBuffer.length
  command .sendAndRecieve (commandLength sizeofCmdSendAndRecieve (if sendBufferSize = 0 then 1 else 2) sendBufferSize)
    [(5, Cell.ofBytes (sessionId.bytes ++ le32 commandId ++ le32 sendBufferSize ++ le32 recvBufferSize) ++
        [.raw (.stack 28)]),
      (33, Cell.ofBytes sendBuffer)]

/-- `JhisGetAppletProperty`, which turns character lengths into buffer lengths. -/
def encodeGetAppletProperty (appId : AppId) (sendBuffer : Bytes) (recvBufferSize : UInt32) : Message :=
  let sendBufferSize := UInt32.ofNat sendBuffer.length + 1
  command .getAppletProperty
    (commandLength sizeofCmdGetAppletProperty (if UInt32.ofNat sendBuffer.length = 0 then 1 else 2) sendBufferSize)
    [(5, raws .stack (lenAppId + 1) ++ Cell.ofBytes (le32 sendBufferSize ++ le32 (recvBufferSize + 1)) ++
        [.raw (.stack 33)]),
      (46, if UInt32.ofNat sendBuffer.length = 0 then [] else Cell.ofBytes (terminated sendBuffer)),
      (5, Cell.ofBytes (terminated appId.text))]

/-- `JhisSendAdminCmdPkg`. -/
def encodeSendAdminCmdPkg (sdHandle : VmHandle) (package : Bytes) : Message :=
  let blobSize := UInt32.ofNat package.length
  command .sendCmdPkg (UInt32.ofNat (sizeofJhiCommand - 1 + sizeofCmdSendCmdPkg - 1) + blobSize)
    [(13, Cell.ofBytes (le32 blobSize)), (5, Cell.ofBytes (le64 sdHandle)), (17, Cell.ofBytes package)]

/-- The request of a `Jhis*` function. -/
def encode : ClientCall → Message
  | .init => command .init (UInt32.ofNat sizeofJhiCommand) []
  | .install appId srcFile => encodeInstall appId srcFile
  | .uninstall appId => command .uninstall (UInt32.ofNat (sizeofJhiCommand + sizeofCmdUninstall - 1))
    [(5, Cell.ofBytes (terminated appId.text))]
  | .getSessionsCount appId =>
    command .getSessionsCount (UInt32.ofNat (sizeofJhiCommand + sizeofCmdGetSessionsCount - 1))
      [(5, Cell.ofBytes (terminated appId.text))]
  | .createSession appId flags initBuffer processInfo => encodeCreateSession appId flags initBuffer processInfo
  | .closeSession sessionId processInfo force =>
    command .closeSession (UInt32.ofNat (sizeofJhiCommand + sizeofCmdCloseSession - 1))
      [(5, Cell.ofBytes (sessionId.bytes ++ processInfoBytes processInfo ++ [if force then 1 else 0]))]
  | .getSessionInfo sessionId =>
    command .getSessionInfo (UInt32.ofNat (sizeofJhiCommand + sizeofCmdGetSessionInfo - 1))
      [(5, Cell.ofBytes sessionId.bytes)]
  | .setSessionEventHandler sessionId handleName => encodeSetSessionEventHandler sessionId handleName
  | .getEventData sessionId => command .getEventData (UInt32.ofNat (sizeofJhiCommand + sizeofCmdGetEventData - 1))
    [(5, Cell.ofBytes sessionId.bytes)]
  | .sendAndRecv sessionId commandId sendBuffer recvBufferSize =>
    encodeSendAndRecv sessionId commandId sendBuffer recvBufferSize
  | .getAppletProperty appId sendBuffer recvBufferSize => encodeGetAppletProperty appId sendBuffer recvBufferSize
  | .getVersionInfo => command .getVersionInfo (UInt32.ofNat sizeofJhiCommand) []
  | .openSDSession sdId => command .createSDSession (UInt32.ofNat (sizeofJhiCommand - 1 + sizeofCmdCreateSDSession))
    [(5, Cell.ofBytes (sdId.take lenAppId)), (5 + lenAppId, [.byte 0])]
  | .closeSDSession sdHandle =>
    command .closeSDSession (UInt32.ofNat (sizeofJhiCommand - 1 + sizeofCmdCloseSDSession))
      [(5, Cell.ofBytes (le64 sdHandle))]
  | .sendAdminCmdPkg sdHandle package => encodeSendAdminCmdPkg sdHandle package
  | .listInstalledTAs sdHandle =>
    command .listInstalledTAs (UInt32.ofNat (sizeofJhiCommand - 1 + sizeofCmdListInstalledTAs))
      [(5, Cell.ofBytes (le64 sdHandle))]
  | .listInstalledSDs sdHandle =>
    command .listInstalledSDs (UInt32.ofNat (sizeofJhiCommand - 1 + sizeofCmdListInstalledSDs))
      [(5, Cell.ofBytes (le64 sdHandle))]
  | .queryTEEMetadata _ => command .queryTeeMetadata (UInt32.ofNat sizeofJhiCommand) [(5, [.byte 0])]
  | .provisionOemMasterKey key =>
    command .provisionOemMasterKey (UInt32.ofNat (sizeofJhiCommand - 1 + sizeofCmdProvisionOemMasterKey))
      [(5, Cell.ofBytes key)]
  | .setTAEncryptionKey key =>
    command .setTAEncryptionKey (UInt32.ofNat (sizeofJhiCommand - 1 + sizeofCmdSetTAEncryptionKey))
      [(5, Cell.ofBytes key)]
  | .getSessionTable => command .getSessionsDataTable (UInt32.ofNat sizeofJhiCommand) []
  | .getLoadedAppletsList => command .getLoadedApplets (UInt32.ofNat sizeofJhiCommand) []

/-! ### `jhi.cpp` -/

/-- A text as `uuid_unparse` writes it: 36 characters. -/
structure UuidText extends CText where
  length_eq : text.length = 36

/-- A function of the API with the arguments that it checks or forwards. A property name comes with
the length of its text, as its buffer declares it. A session handle stands for the session id it
holds, and the process info is that of the library's own handle. -/
inductive ApiCall
  | jhiInitialize
  | install2 (appId installFile : CText)
  | uninstall (appId : CText)
  | getSessionsCount (appId : CText)
  | createSession (appId : CText) (flags : UInt32) (initBuffer : Bytes) (processInfo : ProcessInfo)
  | closeSession (sessionId : SessionId) (processInfo : ProcessInfo)
  | forceCloseSession (sessionId : SessionId) (processInfo : ProcessInfo)
  | getSessionInfo (sessionId : SessionId)
  /-- With the name of the event that `generateHandleUUID` makes. -/
  | registerEvents (sessionId : SessionId) (uuid : UuidText)
  | unRegisterEvents (sessionId : SessionId)
  /-- The call of the library's event thread. -/
  | retriveEventData (sessionId : SessionId)
  | sendAndRecv2 (sessionId : SessionId) (commandId : UInt32) (txBuf : Bytes) (rxLen : UInt32)
  | getAppletProperty (appId property : CText) (rxLen : UInt32)
  | getVersionInfo
  | getSessionTable
  | getLoadedAppletsList

/-- `generateHandleUUID`. -/
def generateHandleUUID (uuid : UuidText) : Bytes :=
  ascii ['/', 't', 'm', 'p', '/', 'j', 'h', 'i', 'e', 'v', 'e', 'n', 't', '-'] ++ uuid.text

/-- The check that the functions with an applet id share. -/
def validateAppId (appId : CText) : Except JhiRet AppId :=
  match jhiUtilUUIDValidate appId.text with
  | some id => .ok id
  | none => .error jhiInvalidAppletGuid

/-- The checks of an API function, and the call it forwards. -/
def forward : ApiCall → Except JhiRet ClientCall
  | .jhiInitialize => .ok .init
  | .install2 appId installFile => do
    let id ← validateAppId appId
    if installFile.text.length > filenameMax then .error jhiInvalidInstallFile
    else .ok (.install id installFile.text)
  | .uninstall appId => do
    let id ← validateAppId appId
    .ok (.uninstall id)
  | .getSessionsCount appId => do
    let id ← validateAppId appId
    .ok (.getSessionsCount id)
  | .createSession appId flags initBuffer processInfo => do
    let id ← validateAppId appId
    if initBuffer.length > jhiBufferMax then .error jhiInvalidBufferSize
    else .ok (.createSession id flags initBuffer processInfo)
  | .closeSession sessionId processInfo => .ok (.closeSession sessionId processInfo false)
  | .forceCloseSession sessionId processInfo => .ok (.closeSession sessionId processInfo true)
  | .getSessionInfo sessionId => .ok (.getSessionInfo sessionId)
  | .registerEvents sessionId uuid => .ok (.setSessionEventHandler sessionId (generateHandleUUID uuid))
  | .unRegisterEvents sessionId => .ok (.setSessionEventHandler sessionId [])
  | .retriveEventData sessionId => .ok (.getEventData sessionId)
  | .sendAndRecv2 sessionId commandId txBuf rxLen =>
    if txBuf.length > jhiBufferMax ∨ rxLen.toNat > jhiBufferMax then .error jhiInvalidBufferSize
    else .ok (.sendAndRecv sessionId commandId txBuf rxLen)
  | .getAppletProperty appId property rxLen => do
    let id ← validateAppId appId
    if property.text.length = 0 then .error jhiAppletPropertyNotSupported
    else if property.text.length > jhiBufferMax ∨ rxLen.toNat > jhiBufferMax then .error jhiInvalidBufferSize
    else .ok (.getAppletProperty id property.text rxLen)
  | .getVersionInfo => .ok .getVersionInfo
  | .getSessionTable => .ok .getSessionTable
  | .getLoadedAppletsList => .ok .getLoadedAppletsList

end DalHost

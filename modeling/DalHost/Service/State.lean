import DalHost.Common.Uuid
import DalHost.Lib.OrdMap
import DalHost.Lib.Prog

/-!
# The state of the service and the world behind it

`Service φ` is what the process keeps between two commands: the session table
(`SessionsManager`), the applet table (`AppletsManager`), the globals a command reads
(`GlobalsManager`) and the state `φ` of everything outside the process. `World φ` is that outside:
the operating system and the VM plugin, each operation a function of the state `φ` it is called
in. Nothing is assumed of `φ` or of the operations, so a statement for every world is a statement
for every sequence of answers.

The field `log` is not in the source: it records, with the two tables of that moment, the calls that
the properties of this development talk about.
-/

namespace DalHost

/-! ### Sessions -/

/-- `VM_SESSION_HANDLE`, `SD_SESSION_HANDLE`: a pointer of the VM library. -/
abbrev VmHandle := UInt64

/-- `JHI_SESSION_STATE`. -/
inductive SessionState
  | active
  | notExists
  deriving DecidableEq

/-- `JHI_EVENT_DATA`. -/
structure EventData where
  dataType : UInt32
  data : Bytes
  deriving DecidableEq

/-- `JhiEvent`, as far as the table reads it: whether it is open. -/
structure EventHandle where
  name : Bytes
  created : Bool
  deriving DecidableEq

/-- `JHI_SESSION_FLAGS.bits.sharedSession`. -/
def sharedSession (flags : UInt32) : Bool := flags &&& 1 = 1

/-- `SessionRecord`. The session lock is modelled with the threads that use it. -/
structure SessionRecord where
  sessionId : SessionId
  vmSessionHandle : VmHandle
  appId : Bytes
  sessionFlags : UInt32
  state : SessionState
  ownersList : List ProcessInfo
  eventsDataQueue : List EventData
  lastUsedTime : UInt32
  eventHandle : Option EventHandle
  deriving DecidableEq

def SessionRecord.shared (r : SessionRecord) : Bool := sharedSession r.sessionFlags

/-- `map<JHI_SESSION_ID, SessionRecord, lt_sessionId>`. -/
abbrev SessionTable := OrdMap SessionId SessionRecord

/-! ### Applets -/

/-- `JHI_APPLET_STATUS`. -/
inductive AppletStatus
  | notInstalled
  | pendingInstall
  | installed
  deriving DecidableEq

/-- `AppletRecord`. -/
structure AppletRecord where
  status : AppletStatus
  sharedSessionSupport : Bool
  sharedSessionSupportRetrievedFromFW : Bool
  deriving DecidableEq

/-- `map<string, AppletRecord>`. -/
abbrev AppletTable := OrdMap Bytes AppletRecord

/-- `JHI_VM_TYPE`. -/
inductive VmType
  | invalid
  | tl
  | beihaiV1
  | beihaiV2
  deriving DecidableEq

/-! ### The world -/

/-- What `JHI_Plugin_SendAndRecv` leaves in its out parameters. -/
structure SarAnswer where
  retCode : JhiRet
  responseCode : UInt32
  /-- `RxBuf->length` after the call. -/
  length : UInt32
  /-- The bytes copied to the receive buffer. -/
  written : Bytes

/-- What `JHI_Plugin_GetAppletProperty` leaves in its out parameters. -/
structure PropertyAnswer where
  retCode : JhiRet
  /-- `RxBuf->length` after the call. -/
  length : UInt32
  /-- The text in the (zeroed) receive buffer. -/
  text : Bytes

/-- The fields of `JHI_VERSION_INFO` that the service fills in. -/
structure VersionInfo where
  fwVersion : Bytes
  jhiVersion : Bytes
  commType : UInt32
  platformId : UInt32
  vmType : UInt32

/-- `AC_CMD_ID`, the type of a command package. -/
inductive PackageType
  | invalid
  | installSD
  | uninstallSD
  | installJTA
  | uninstallJTA
  | installNTA
  | uninstallNTA
  | updateSVL
  | installJTAProp
  | other
  deriving DecidableEq

/-- `PACKAGE_INFO`. -/
structure PackageInfo where
  packageType : PackageType
  uuid : Bytes
  deriving DecidableEq

/-- The operating system and the VM plugin. A file operation answers `true` when it succeeds. -/
structure World (φ : Type) where
  processIsDead : ProcessInfo → StateM φ Bool
  generateNewSessionId : StateM φ (Option SessionId)
  /-- `getpid`, with the creation time that `jhis_get_applet_property` leaves uninitialised. -/
  ownProcessInfo : StateM φ ProcessInfo
  openEvent : Bytes → StateM φ Bool
  fileExists : FileString → StateM φ Bool
  copyFile : FileString → FileString → StateM φ Bool
  createFileFromBuff : FileString → Bytes → StateM φ Bool
  chmod : FileString → StateM φ Bool
  removeFile : FileString → StateM φ Bool
  renameFile : FileString → FileString → StateM φ Bool
  syncFile : FileString → StateM φ Bool
  /-- The contents of a file, if it can be opened. -/
  readFile : FileString → StateM φ (Option Bytes)
  /-- `AppletsPackageReader` on a DALP file: `none` for an invalid package, `some none` when its
  blobs cannot be read. -/
  readPackage : FileString → StateM φ (Option (Option (List Bytes)))
  pluginCreateSession : Bytes → Option Bytes → SessionId → Bytes → StateM φ (JhiRet × VmHandle)
  pluginCloseSession : VmHandle → StateM φ JhiRet
  pluginForceCloseSession : VmHandle → StateM φ JhiRet
  pluginSendAndRecv : VmHandle → UInt32 → Bytes → UInt32 → StateM φ SarAnswer
  pluginDownloadApplet : Bytes → Bytes → StateM φ JhiRet
  pluginUnloadApplet : Bytes → StateM φ JhiRet
  pluginSendCmdPkg : VmHandle → Bytes → StateM φ JhiRet
  pluginParsePackage : Bytes → StateM φ (Except JhiRet PackageInfo)
  pluginGetAppletProperty : Bytes → Bytes → UInt32 → StateM φ PropertyAnswer
  pluginOpenSDSession : Bytes → StateM φ (JhiRet × VmHandle)
  pluginCloseSDSession : VmHandle → StateM φ JhiRet
  pluginListInstalledTAs : VmHandle → StateM φ (JhiRet × List Bytes)
  pluginListInstalledSDs : VmHandle → StateM φ (JhiRet × List Bytes)
  pluginQueryTeeMetadata : StateM φ (JhiRet × Bytes)
  pluginProvisionOemMasterKey : Bytes → StateM φ JhiRet
  pluginSetTAEncryptionKey : Bytes → StateM φ JhiRet
  pluginDeInit : StateM φ JhiRet
  versionInfo : StateM φ VersionInfo

/-- The session id of sixteen equal bytes. -/
def SessionId.replicate (b : UInt8) : SessionId := ⟨List.replicate 16 b, List.length_replicate⟩

/-- A world in which every operation succeeds and changes nothing; every file exists and every
package has one blob. Examples override the operations they are about. -/
def World.quiet (φ : Type) : World φ where
  processIsDead _ := pure false
  generateNewSessionId := pure (some (.replicate 0))
  ownProcessInfo := pure ⟨0, 0, 0⟩
  openEvent _ := pure true
  fileExists _ := pure true
  copyFile _ _ := pure true
  createFileFromBuff _ _ := pure true
  chmod _ := pure true
  removeFile _ := pure true
  renameFile _ _ := pure true
  syncFile _ := pure true
  readFile _ := pure (some [0])
  readPackage _ := pure (some (some [[0]]))
  pluginCreateSession _ _ _ _ := pure (jhiSuccess, 1)
  pluginCloseSession _ := pure jhiSuccess
  pluginForceCloseSession _ := pure jhiSuccess
  pluginSendAndRecv _ _ _ _ := pure ⟨jhiSuccess, 0, 0, []⟩
  pluginDownloadApplet _ _ := pure jhiSuccess
  pluginUnloadApplet _ := pure jhiSuccess
  pluginSendCmdPkg _ _ := pure jhiSuccess
  pluginParsePackage _ := pure (.error jhiInvalidPackageFormat)
  pluginGetAppletProperty _ _ _ := pure ⟨jhiSuccess, 0, []⟩
  pluginOpenSDSession _ := pure (jhiSuccess, 1)
  pluginCloseSDSession _ := pure jhiSuccess
  pluginListInstalledTAs _ := pure (jhiSuccess, [])
  pluginListInstalledSDs _ := pure (jhiSuccess, [])
  pluginQueryTeeMetadata := pure (jhiSuccess, [])
  pluginProvisionOemMasterKey _ := pure jhiSuccess
  pluginSetTAEncryptionKey _ := pure jhiSuccess
  pluginDeInit := pure jhiSuccess
  versionInfo := pure ⟨[], [], 0, 0, 0⟩

/-! ### The service -/

/-- Calls recorded in the log. -/
inductive LogCall
  /-- `SessionsManager::addSessionOwner` on a session. -/
  | addSessionOwner (sessionId : SessionId)
  /-- `SessionsManager::remove` of a session that is there. -/
  | removeSession (sessionId : SessionId)
  /-- The close of a session just opened whose record could not be added, with its result. -/
  | undoCreate (handle : VmHandle) (retCode : JhiRet)
  /-- `JHI_Plugin_UnloadApplet`. -/
  | unloadApplet (appId : Bytes)
  /-- An uninstall package forwarded to the firmware. -/
  | uninstallPackage (appId : Bytes)

/-- One entry of the log: the call and the tables it was made in. -/
structure LogEntry where
  call : LogCall
  table : SessionTable
  applets : AppletTable

structure Service (φ : Type) where
  sessionList : SessionTable
  sharedSessionLRUCounter : UInt32
  appletTable : AppletTable
  vmType : VmType
  /-- `GlobalsManager::getPluginTable` succeeds with a plugin. -/
  pluginRegistered : Bool
  appletsFolder : FileString
  env : φ
  log : List LogEntry

section

variable {φ α : Type}

/-- Run an operation of the world. -/
def onEnv (op : StateM φ α) : StateM (Service φ) α := fun s =>
  ((op.exe s.env).1, { s with env := (op.exe s.env).2 })

@[simp] theorem exe_onEnv (op : StateM φ α) (s : Service φ) :
    (onEnv op).exe s = ((op.exe s.env).1, { s with env := (op.exe s.env).2 }) := Prod.ext rfl rfl

def modifySessions (f : SessionTable → SessionTable) : StateM (Service φ) PUnit :=
  modify fun s => { s with sessionList := f s.sessionList }

@[simp] theorem exe_modifySessions (f : SessionTable → SessionTable) (s : Service φ) :
    (modifySessions f).exe s = (⟨⟩, { s with sessionList := f s.sessionList }) := Prod.ext rfl rfl

def modifyApplets (f : AppletTable → AppletTable) : StateM (Service φ) PUnit :=
  modify fun s => { s with appletTable := f s.appletTable }

@[simp] theorem exe_modifyApplets (f : AppletTable → AppletTable) (s : Service φ) :
    (modifyApplets f).exe s = (⟨⟩, { s with appletTable := f s.appletTable }) := Prod.ext rfl rfl

def record (call : LogCall) : StateM (Service φ) PUnit :=
  modify fun s => { s with log := s.log ++ [⟨call, s.sessionList, s.appletTable⟩] }

@[simp] theorem exe_record (call : LogCall) (s : Service φ) :
    (record call).exe s = (⟨⟩, { s with log := s.log ++ [⟨call, s.sessionList, s.appletTable⟩] }) := Prod.ext rfl rfl

end

end DalHost

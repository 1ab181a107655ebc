import DalHost.Service.State

/-!
# The Beihai plugins

The session functions of the two VM plugins over the Beihai library they call. The library talks to
the firmware and is a parameter (`Firmware ψ`); its other functions and the operating system are a
world over the same state. A plugin translates the library's codes into JHI codes and, once the
library has opened a session, sends the session its JHI id. The answers to these id exchanges are
kept in a list (`exchanges`), so that a statement about a run can say how they went.
-/

namespace DalHost

/-! ### Error codes -/

/-- `BH_ERRNO`, `BH_RET`: a code of the Beihai library. -/
abbrev BhRet := UInt32

def bhSuccess : BhRet := 0
def bpeNotInit : BhRet := 0x001
def bpeInvalidParams : BhRet := 0x006

/-- The rows of a `switch` from library codes to a JHI code. -/
abbrev ErrorRows := List (List BhRet × JhiRet)

/-- The code of the first row that lists `bhError`. -/
def translateError (rows : ErrorRows) (bhError : BhRet) (defaultError : JhiRet) : JhiRet :=
  match rows.find? fun row => row.1.contains bhError with
  | some row => row.2
  | none => defaultError

/-- The `switch` of `JhiErrorTranslate` in the Beihai v1 plugin. -/
def bhV1Rows : ErrorRows := [
  ([bhSuccess], jhiSuccess),
  ([0xF000100C], jhiInvalidSessionHandle), -- BPE_INVALID_SESSION_HANDLE
  ([0x103, 0x403, 0x1005], jhiInsufficientBuffer), -- BHE_INSUFFICIENT_BUFFER, BHE_APPLET_SMALL_BUFFER, HAL_BUFFER_TOO_SMALL
  ([0x404], jhiAppletBadState), -- BHE_APPLET_BAD_STATE
  ([0xF0001008], jhiNoConnectionToFirmware), -- BPE_NO_CONNECTION_TO_FIRMWARE
  -- HAL_OUT_OF_MEMORY, BHE_UNCAUGHT_EXCEPTION, BHE_APPLET_CRASHED, BHE_WD_TIMEOUT, HAL_TIMED_OUT
  ([0x1004, 0x401, 0x201, 0x106, 0x1001], jhiAppletFatal),
  -- HAL_ILLEGAL_SIGNATURE, HAL_ILLEGAL_VERSION, HAL_FW_VERSION_MISMATCH and the HAL_UNSUPPORTED_* types
  ([0x2001, 0x2008, 0x2000, 0x2005, 0x2006, 0x2007, 0x2004], jhiFileErrorAuth),
  ([0x303], jhiTaPlatformMismatch), -- BHE_LOAD_JEFF_FAIL
  ([0x308], jhiBadAppletFormat), -- BHE_INVALID_BPK_FILE
  ([0x2009], jhiFileIdentical), -- HAL_ALREADY_INSTALLED
  ([0x1003, 0x2003], jhiMaxInstalledAppletsReached), -- HAL_OUT_OF_RESOURCES, HAL_OUT_OF_STORAGE
  ([0x305], jhiInstallFailureSessionsExists), -- BHE_EXIST_LIVE_SESSION
  ([0x307], jhiAppletPropertyNotSupported), -- BHE_QUERY_PROP_NOT_SUPPORT
  ([0x304], jhiAppletNotInstalled)] -- BHE_PACKAGE_NOT_FOUND

/-- `JhiErrorTranslate`. -/
def jhiErrorTranslate (bhError : BhRet) : JhiRet := translateError bhV1Rows bhError jhiInternalError

/-- The `switch` of `beihaiToJhiError` in the Beihai v2 plugin. -/
def bhV2Rows : ErrorRows := [
  ([bhSuccess], jhiSuccess),
  ([0x006], jhiInvalidParams), -- BPE_INVALID_PARAMS
  ([0x00F], jhiInvalidSessionHandle), -- BPE_INVALID_SESSION_HANDLE
  ([0x103, 0x403, 0x1005], jhiInsufficientBuffer), -- BHE_INSUFFICIENT_BUFFER, BHE_APPLET_SMALL_BUFFER, HAL_BUFFER_TOO_SMALL
  ([0x004, 0x001, 0x009], jhiNoConnectionToFirmware), -- BPE_COMMS_ERROR, BPE_NOT_INIT, BPE_NO_CONNECTION_TO_FIRMWARE
  ([0x306, 0x101], jhiFirmwareOutOfResources), -- BHE_VM_INSTANCE_INIT_FAIL, BHE_OUT_OF_MEMORY
  ([0x106], jhiAppletTimeout), -- BHE_WD_TIMEOUT
  -- HAL_OUT_OF_MEMORY, BHE_UNCAUGHT_EXCEPTION, BHE_APPLET_CRASHED, HAL_TIMED_OUT, BHE_APPLET_GENERIC, BHE_BAD_STATE
  ([0x1004, 0x401, 0x201, 0x1001, 0x400, 0x404], jhiAppletFatal),
  -- the signature and platform codes of v1, BHE_SDM_SIGNATURE_VERIFY_FAIL
  ([0x2001, 0x2008, 0x2000, 0x2005, 0x2006, 0x2007, 0x2004, 0x806], jhiFileErrorAuth),
  ([0x303], jhiTaPlatformMismatch), -- BHE_LOAD_JEFF_FAIL
  ([0x318, 0x308, 0x00E], jhiInvalidPackageFormat), -- BHE_TA_PACKAGE_HASH_VERIFY_FAIL, BHE_INVALID_BPK_FILE, BPE_INVALID_BPK_FILE
  ([0x2009, 0x803], jhiFileIdentical), -- HAL_ALREADY_INSTALLED, BHE_SDM_ALREADY_EXIST
  ([0x1003, 0x805], jhiMaxInstalledAppletsReached), -- HAL_OUT_OF_RESOURCES, BHE_SDM_TA_NUMBER_LIMIT
  ([0x80D], jhiSvlCheckFail), -- BHE_SDM_SVL_CHECK_FAIL
  ([0x809], jhiSvnCheckFail), -- BHE_SDM_SVN_CHECK_FAIL
  ([0x2017], jhiTaEncryptionKeyNotSet), -- HAL_TA_ENCRYPTION_KEY_NOT_SET
  ([0x31C], jhiAppletNotInstalled), -- BHE_TA_PACKAGE_HMAC_VERIFY_FAIL
  ([0x305], jhiUninstallFailureSessionsExists), -- BHE_EXIST_LIVE_SESSION
  ([0x304, 0x801], jhiAppletNotInstalled), -- BHE_PACKAGE_NOT_FOUND, BHE_SDM_NOT_FOUND
  ([0x307], jhiAppletPropertyNotSupported), -- BHE_QUERY_PROP_NOT_SUPPORT
  ([0x247], jhiIacServerSessionExist), -- BHE_IAC_SERVICE_HOST_SESSION_NUM_EXCEED
  ([0x244], jhiIacServerInternalSessionsExist), -- BHE_IAC_EXIST_INTERNAL_SESSION
  ([0x314], jhiMissingAccessControl), -- BHE_GROUP_CHECK_FAIL
  ([0x317], jhiMaxSessionsReached), -- BHE_SESSION_NUM_EXCEED
  ([0x2011], jhiIllegalPlatformId), -- HAL_ILLEGAL_PLATFORM_ID
  ([0x406], jhiOnlySingleInstanceAllowed), -- BHE_ONLY_SINGLE_INSTANCE_ALLOWED
  ([0x810], jhiErrorOemSigningDisabled), -- BHE_SDM_SD_INTERFACE_DISABLED
  ([0x811], jhiErrorSdPublickeyHashFailed), -- BHE_SDM_SD_PUBLICKEY_HASH_VERIFY_FAIL
  ([0x80B], jhiErrorSdDbNoFreeSlot), -- BHE_SDM_SD_DB_NO_FREE_SLOT
  ([0x812], jhiErrorSdTaInstallationUnallowed), -- BHE_SDM_TA_INSTALL_UNALLOWED
  ([0x31A], jhiOperationNotPermitted)] -- BHE_OPERATION_NOT_PERMITTED

/-- `beihaiToJhiError`. -/
def beihaiToJhiError (bhError : BhRet) : JhiRet := translateError bhV2Rows bhError jhiInternalError

theorem translateError_eq_success {rows : ErrorRows} {bhError : BhRet}
    (hrows : ∀ row ∈ rows, row.2 = jhiSuccess → row.1 = [bhSuccess])
    (h : translateError rows bhError jhiInternalError = jhiSuccess) : bhError = bhSuccess := by
  unfold translateError at h
  cases hfind : rows.find? fun row => row.1.contains bhError with
  | none =>
    rw [hfind] at h
    exact absurd h (by decide)
  | some row =>
    rw [hfind] at h
    have hmem := List.find?_some hfind
    rw [hrows row (List.mem_of_find?_eq_some hfind) h] at hmem
    simpa using hmem

theorem jhiErrorTranslate_eq_success {bhError : BhRet} :
    jhiErrorTranslate bhError = jhiSuccess ↔ bhError = bhSuccess := by
  refine ⟨translateError_eq_success (by decide), ?_⟩
  rintro rfl
  decide

theorem beihaiToJhiError_eq_success {bhError : BhRet} :
    beihaiToJhiError bhError = jhiSuccess ↔ bhError = bhSuccess := by
  refine ⟨translateError_eq_success (by decide), ?_⟩
  rintro rfl
  decide

/-! ### The library and the plugins -/

/-- The session functions of the Beihai library. -/
structure Firmware (ψ : Type) where
  /-- `BH_PluginCreateSession`, `BHP_OpenTASession`: applet, package (v2), init buffer. -/
  openTASession : Bytes → Option Bytes → Bytes → StateM ψ (BhRet × VmHandle)
  /-- `BH_PluginSendAndRecvInternal`, `BHP_SendAndRecvInternal` with the session id: the code and
  the applet's response. -/
  sendAndRecvInternal : VmHandle → SessionId → StateM ψ (BhRet × UInt32)
  closeTASession : VmHandle → StateM ψ BhRet
  forceCloseTASession : VmHandle → StateM ψ BhRet
  /-- The code, the response code, the output length and the output. -/
  sendAndRecv : VmHandle → UInt32 → Bytes → UInt32 → StateM ψ (BhRet × UInt32 × UInt32 × Option Bytes)

/-- The answer to an id exchange: the JHI code of the exchange and the applet's response. -/
structure IdExchange where
  handle : VmHandle
  retCode : JhiRet
  appletResponse : UInt32
  deriving DecidableEq

/-- The state of the firmware, with the id exchanges so far. -/
structure VmEnv (ψ : Type) where
  fw : ψ
  exchanges : List IdExchange

/-- The two plugins. -/
inductive PluginVersion
  | v1
  | v2
  deriving DecidableEq

def PluginVersion.vmType : PluginVersion → VmType
  | .v1 => .beihaiV1
  | .v2 => .beihaiV2

/-- How the plugin translates the codes of its library. -/
def PluginVersion.toJhiError : PluginVersion → BhRet → JhiRet
  | .v1 => jhiErrorTranslate
  | .v2 => beihaiToJhiError

theorem PluginVersion.toJhiError_eq_success {v : PluginVersion} {bhError : BhRet} :
    v.toJhiError bhError = jhiSuccess ↔ bhError = bhSuccess := by
  cases v
  · exact jhiErrorTranslate_eq_success
  · exact beihaiToJhiError_eq_success

section Plugins

variable {ψ α : Type} (F : Firmware ψ)

/-- Run an operation of the firmware. -/
def onFw (op : StateM ψ α) : StateM (VmEnv ψ) α := fun e =>
  ((op.exe e.fw).1, { e with fw := (op.exe e.fw).2 })

@[simp] theorem exe_onFw (op : StateM ψ α) (e : VmEnv ψ) :
    (onFw op).exe e = ((op.exe e.fw).1, { e with fw := (op.exe e.fw).2 }) := Prod.ext rfl rfl

/-- Send a session its id and note the answer. -/
def sendSessionIDtoApplet (v : PluginVersion) (handle : VmHandle) (sessionId : SessionId) :
    StateM (VmEnv ψ) (BhRet × UInt32) := do
  let a ← onFw (F.sendAndRecvInternal handle sessionId)
  modify fun e => { e with exchanges := e.exchanges ++ [⟨handle, v.toJhiError a.1, a.2⟩] }
  return a

/-- `JHI_Plugin_CreateSession` of Beihai v1; the package is not used. -/
def jhiPluginCreateSessionV1 (appId : Bytes) (sessionId : SessionId) (initBuffer : Bytes) :
    StateM (VmEnv ψ) (JhiRet × VmHandle) := do
  let opened ← onFw (F.openTASession appId none initBuffer)
  if opened.1 = bhSuccess then
    let a ← sendSessionIDtoApplet F .v1 opened.2 sessionId
    if jhiErrorTranslate a.1 ≠ jhiSuccess ∨ a.2 ≠ 0 then return (jhiInternalError, opened.2)
    else return (jhiErrorTranslate opened.1, opened.2)
  else return (jhiErrorTranslate opened.1, opened.2)

/-- `JHI_Plugin_CreateSession` of Beihai v2. -/
def jhiPluginCreateSessionV2 (appId : Bytes) (blob : Option Bytes) (sessionId : SessionId) (initBuffer : Bytes) :
    StateM (VmEnv ψ) (JhiRet × VmHandle) := do
  let opened ← onFw (F.openTASession appId blob initBuffer)
  if opened.1 = bhSuccess then
    let a ← sendSessionIDtoApplet F .v2 opened.2 sessionId
    if a.1 ≠ bhSuccess ∨ a.2 ≠ 0 then return (jhiInternalError, opened.2)
    else return (beihaiToJhiError opened.1, opened.2)
  else return (beihaiToJhiError opened.1, opened.2)

/-- `JHI_Plugin_SendAndRecv`: the output is copied if it fits the caller's buffer. -/
def jhiPluginSendAndRecv (v : PluginVersion) (handle : VmHandle) (commandId : UInt32) (tx : Bytes) (rxLen : UInt32) :
    StateM (VmEnv ψ) SarAnswer := do
  let (ret, responseCode, length, output) ← onFw (F.sendAndRecv handle commandId tx rxLen)
  let written :=
    match output with
    | some out => if ret = bhSuccess ∧ length ≤ rxLen then out.take length.toNat else []
    | none => []
  return ⟨v.toJhiError ret, responseCode, length, written⟩

/-- A world over the firmware state, under the exchanges. -/
def World.lift (R : World ψ) : World (VmEnv ψ) where
  processIsDead p := onFw (R.processIsDead p)
  generateNewSessionId := onFw R.generateNewSessionId
  ownProcessInfo := onFw R.ownProcessInfo
  openEvent n := onFw (R.openEvent n)
  fileExists f := onFw (R.fileExists f)
  copyFile d f := onFw (R.copyFile d f)
  createFileFromBuff f b := onFw (R.createFileFromBuff f b)
  chmod f := onFw (R.chmod f)
  removeFile f := onFw (R.removeFile f)
  renameFile f g := onFw (R.renameFile f g)
  syncFile f := onFw (R.syncFile f)
  readFile f := onFw (R.readFile f)
  readPackage f := onFw (R.readPackage f)
  pluginCreateSession a b id i := onFw (R.pluginCreateSession a b id i)
  pluginCloseSession h := onFw (R.pluginCloseSession h)
  pluginForceCloseSession h := onFw (R.pluginForceCloseSession h)
  pluginSendAndRecv h c tx n := onFw (R.pluginSendAndRecv h c tx n)
  pluginDownloadApplet a b := onFw (R.pluginDownloadApplet a b)
  pluginUnloadApplet a := onFw (R.pluginUnloadApplet a)
  pluginSendCmdPkg h b := onFw (R.pluginSendCmdPkg h b)
  pluginParsePackage b := onFw (R.pluginParsePackage b)
  pluginGetAppletProperty a tx n := onFw (R.pluginGetAppletProperty a tx n)
  pluginOpenSDSession sd := onFw (R.pluginOpenSDSession sd)
  pluginCloseSDSession h := onFw (R.pluginCloseSDSession h)
  pluginListInstalledTAs h := onFw (R.pluginListInstalledTAs h)
  pluginListInstalledSDs h := onFw (R.pluginListInstalledSDs h)
  pluginQueryTeeMetadata := onFw R.pluginQueryTeeMetadata
  pluginProvisionOemMasterKey k := onFw (R.pluginProvisionOemMasterKey k)
  pluginSetTAEncryptionKey k := onFw (R.pluginSetTAEncryptionKey k)
  pluginDeInit := onFw R.pluginDeInit
  versionInfo := onFw R.versionInfo

/-- The world with a Beihai plugin: its session functions over the library, the rest from `R`. -/
def beihaiWorld (v : PluginVersion) (R : World ψ) : World (VmEnv ψ) where
  __ := R.lift
  pluginCreateSession appId blob sessionId initBuffer :=
    match v with
    | .v1 => jhiPluginCreateSessionV1 F appId sessionId initBuffer
    | .v2 => jhiPluginCreateSessionV2 F appId blob sessionId initBuffer
  pluginCloseSession handle := do return v.toJhiError (← onFw (F.closeTASession handle))
  pluginForceCloseSession handle := do return v.toJhiError (← onFw (F.forceCloseTASession handle))
  pluginSendAndRecv := jhiPluginSendAndRecv F v

end Plugins

end DalHost

import DalHost.Service.CreateSession

/-!
# The calls behind the commands

`Call` lists what the dispatcher asks of the service: the `jhis_*` functions, the two methods of
the event and session managers it calls directly, and the plugin functions it calls directly.
`exec` is the service's answer to a call, and a run of the service is a list of operations:
calls, resets and the start-ups that follow them.
-/

namespace DalHost

/-- A call of the dispatcher, with its arguments. -/
inductive Call
  | install (appId : AppId) (file : FileString)
  | uninstall (appId : AppId)
  | sendAndRecieve (sessionId : SessionId) (commandId : UInt32) (tx : Bytes) (rxLen : UInt32)
  | createSession (appId : AppId) (flags : UInt32) (initBuffer : Bytes) (processInfo : ProcessInfo)
  | closeSession (sessionId : SessionId) (processInfo : ProcessInfo) (force : Bool)
  | getSessionsCount (appId : AppId)
  | getSessionInfo (sessionId : SessionId)
  | setSessionEventHandler (sessionId : SessionId) (handleName : Bytes)
  | getSessionEventData (sessionId : SessionId)
  | getAppletProperty (appId : AppId) (tx : Bytes) (rxLen : UInt32)
  | getVersionInfo
  | sendCmdPkg (handle : VmHandle) (blob : Bytes)
  | openSDSession (sdId : Bytes)
  | closeSDSession (handle : VmHandle)
  | listInstalledTAs (handle : VmHandle)
  | listInstalledSDs (handle : VmHandle)
  | queryTeeMetadata
  | provisionOemMasterKey (key : Bytes)
  | setTAEncryptionKey (key : Bytes)
  | getSessionsDataTable
  | getLoadedApplets
  deriving DecidableEq

/-- What a call leaves in its return value and out parameters. -/
def Answer : Call → Type
  | .install .. | .uninstall .. | .closeSession .. | .setSessionEventHandler .. => JhiRet
  | .sendCmdPkg .. | .closeSDSession .. | .provisionOemMasterKey .. | .setTAEncryptionKey .. => JhiRet
  | .sendAndRecieve .. => JhiRet × Option SarAnswer
  | .createSession .. => JhiRet × Option SessionId
  | .getSessionsCount .. => JhiRet × UInt32
  | .getSessionInfo .. => JhiRet × SessionState × UInt32
  | .getSessionEventData .. => JhiRet × Option EventData
  | .getAppletProperty .. => PropertyResult
  | .getVersionInfo => VersionInfo
  | .openSDSession .. => JhiRet × VmHandle
  | .listInstalledTAs .. | .listInstalledSDs .. => JhiRet × List Bytes
  | .queryTeeMetadata => JhiRet × Bytes
  | .getSessionsDataTable => JhiRet × List SessionRecord
  | .getLoadedApplets => JhiRet × List Bytes

section Exec

variable {φ : Type} (W : World φ)

/-- `jhis_get_sessions_count`. -/
def jhisGetSessionsCount (appId : Bytes) : StateM (Service φ) (JhiRet × UInt32) := do
  if getAppletState (← get).appletTable appId = .notInstalled then
    match ← appletExistInRepository W appId with
    | some _ => return (jhiSuccess, 0)
    | none => return (jhiAppletNotInstalled, 0)
  else return (jhiSuccess, UInt32.ofNat (getJHISessionHandles (← get).sessionList appId).length)

/-- `EventManager::SetSessionEventHandler`; an empty name unregisters the session. -/
def setSessionEventHandler (sessionId : SessionId) (handleName : Bytes) : StateM (Service φ) JhiRet := do
  let info := getSessionInfo (← get).sessionList sessionId
  if info.1 = .notExists then return jhiInvalidSessionHandle
  else if sharedSession info.2 then return jhiEventsNotSupported
  else
    let name := cString (handleName.take jhiEventHandleSize)
    let opened ← if name = [] then pure true else onEnv (W.openEvent name)
    if !opened then return jhiInternalError
    else if ← setEventHandle sessionId ⟨name, name ≠ []⟩ then return jhiSuccess
    else return jhiInternalError

/-- The service's answer to a call. -/
def exec : (c : Call) → StateM (Service φ) (Answer c)
  | .install appId file => jhisInstall W appId.text file true false
  | .uninstall appId => jhisUninstall W appId.text none
  | .sendAndRecieve sessionId commandId tx rxLen => jhisTxrxRaw W sessionId commandId tx rxLen
  | .createSession appId flags initBuffer processInfo => jhisCreateSession W appId.text flags initBuffer processInfo
  | .closeSession sessionId processInfo force => jhisCloseSession W sessionId (some processInfo) force true
  | .getSessionsCount appId => jhisGetSessionsCount W appId.text
  | .getSessionInfo sessionId => do return (jhiSuccess, getSessionInfo (← get).sessionList sessionId)
  | .setSessionEventHandler sessionId handleName => setSessionEventHandler W sessionId handleName
  | .getSessionEventData sessionId => getSessionEventData sessionId
  | .getAppletProperty appId tx rxLen => jhisGetAppletProperty W appId.text tx rxLen
  | .getVersionInfo => onEnv W.versionInfo
  | .sendCmdPkg handle blob => jhisSendCmdPkg W handle blob
  | .openSDSession sdId => onEnv (W.pluginOpenSDSession sdId)
  | .closeSDSession handle => onEnv (W.pluginCloseSDSession handle)
  | .listInstalledTAs handle => onEnv (W.pluginListInstalledTAs handle)
  | .listInstalledSDs handle => onEnv (W.pluginListInstalledSDs handle)
  | .queryTeeMetadata => onEnv W.pluginQueryTeeMetadata
  | .provisionOemMasterKey key => onEnv (W.pluginProvisionOemMasterKey key)
  | .setTAEncryptionKey key => onEnv (W.pluginSetTAEncryptionKey key)
  | .getSessionsDataTable => do return (jhiSuccess, (← get).sessionList.entries.map Prod.snd)
  | .getLoadedApplets => do return (jhiSuccess, getLoadedAppletsList (← get).appletTable)

/-- Close in the VM whatever sessions the table lists (`closeSessionsInVM`). -/
def closeSessionsInVM : StateM (Service φ) PUnit := do
  if (← get).pluginRegistered then
    let handles := (← get).sessionList.entries.map fun e => e.2.vmSessionHandle
    let _ ← iterateAny (fun h => do return (← onEnv (W.pluginCloseSession h)) = jhiSuccess) handles
    return ⟨⟩
  else return ⟨⟩

/-- `JhiReset`, as far as the tables and the plugin go. -/
def jhiReset : StateM (Service φ) PUnit := do
  closeSessionsInVM W
  modifyApplets fun _ => OrdMap.empty
  resetSessionManager
  let _ ← onEnv W.pluginDeInit
  modify fun s => { s with pluginRegistered := false }

end Exec

/-! ### Runs -/

/-- One operation of a run. A start-up may leave any applet table and any globals. -/
inductive Op
  | call (c : Call)
  | reset
  | startUp (vmType : VmType) (appletsFolder : FileString) (appletTable : AppletTable)

section Runs

variable {φ : Type} (W : World φ)

def execOp : Op → StateM (Service φ) PUnit
  | .call c => do
    let _ ← exec W c
    return ⟨⟩
  | .reset => jhiReset W
  | .startUp vmType folder applets => modify fun s =>
    { s with vmType := vmType, appletsFolder := folder, appletTable := applets, pluginRegistered := true }

/-- The state after a list of operations. -/
def runOps (ops : List Op) (s : Service φ) : Service φ :=
  ops.foldl (fun s op => ((execOp W op).exe s).2) s

/-- The service after a list of calls. -/
def runCalls (calls : List Call) (s : Service φ) : Service φ := runOps W (calls.map .call) s

theorem runOps_invariant {I : Service φ → Prop} (h : ∀ op, Keeps I (execOp W op)) (ops : List Op) (s : Service φ)
    (hs : I s) : I (runOps W ops s) := by
  induction ops generalizing s with
  | nil => exact hs
  | cons op ops ih => exact ih _ (h op s hs)

end Runs

end DalHost

import DalHost.Service.Install

/-!
# Creating and using sessions

`jhis_create_session`, `jhis_txrx_raw` and `jhis_get_applet_property`. A create looks for the
applet in the repository, clears what is dead, reuses the shared session if one is asked for and
there is one, and otherwise opens a new session in the VM, evicting an unused shared session when
the VM is full. On Beihai v2 a property query opens a session of its own when the applet has none.
-/

namespace DalHost

variable {φ : Type} (W : World φ)

/-! ### Applet properties -/

/-- The property names that `isSupportedProperty` accepts. -/
def supportedProperties : List Bytes := [
  ascii ['a', 'p', 'p', 'l', 'e', 't', '.', 'n', 'a', 'm', 'e'],
  ascii ['a', 'p', 'p', 'l', 'e', 't', '.', 'v', 'e', 'n', 'd', 'o', 'r'],
  ascii ['a', 'p', 'p', 'l', 'e', 't', '.', 'd', 'e', 's', 'c', 'r', 'i', 'p', 't', 'i', 'o', 'n'],
  ascii ['a', 'p', 'p', 'l', 'e', 't', '.', 'v', 'e', 'r', 's', 'i', 'o', 'n'],
  ascii ['s', 'e', 'c', 'u', 'r', 'i', 't', 'y', '.', 'v', 'e', 'r', 's', 'i', 'o', 'n'],
  ascii ['a', 'p', 'p', 'l', 'e', 't', '.', 'f', 'l', 'a', 's', 'h', '.', 'q', 'u', 'o', 't', 'a'],
  ascii ['a', 'p', 'p', 'l', 'e', 't', '.', 'd', 'e', 'b', 'u', 'g', '.', 'e', 'n', 'a', 'b', 'l', 'e'],
  ascii ['a', 'p', 'p', 'l', 'e', 't', '.', 's', 'h', 'a', 'r', 'e', 'd', '.', 's', 'e', 's', 's', 'i', 'o', 'n',
    '.', 's', 'u', 'p', 'p', 'o', 'r', 't'],
  ascii ['a', 'p', 'p', 'l', 'e', 't', '.', 'p', 'l', 'a', 't', 'f', 'o', 'r', 'm']]

/-- `isSupportedProperty` on the transmit buffer. -/
def isSupportedProperty (tx : Bytes) : Bool :=
  tx.getLast? = some 0 && supportedProperties.contains (cString tx)

/-- What `jhis_get_applet_property` answers: the code, `RxBuf->length` and the text copied to the
caller's buffer, if any. -/
structure PropertyResult where
  retCode : JhiRet
  length : UInt32
  text : Option Bytes

/-- An applet without a record is installed from the repository; `false` when that is impossible. -/
def ensureInstalled (appId : Bytes) : StateM (Service φ) Bool := do
  if getAppletState (← get).appletTable appId = .notInstalled then
    match ← appletExistInRepository W appId with
    | none => return false
    | some (filename, isAcp) => return (← jhisInstall W appId filename true isAcp) = jhiSuccess
  else return true

/-- The query itself; `rxLen` is the caller's receive capacity. -/
def queryProperty (appId tx : Bytes) (rxLen : UInt32) : StateM (Service φ) PropertyResult := do
  if !(← get).pluginRegistered then return ⟨jhiNoConnectionToFirmware, rxLen, none⟩
  else
    let a ← onEnv (W.pluginGetAppletProperty appId (cString tx ++ [0]) (rxLen - 1))
    if a.retCode = jhiSuccess then return ⟨a.retCode, a.length + 1, some (cString a.text)⟩
    else if a.retCode = jhiInsufficientBuffer then return ⟨a.retCode, a.length + 1, none⟩
    else return ⟨a.retCode, rxLen, none⟩

/-- The part of `jhis_get_applet_property` that `isSharedSessionSupported` reaches: only a VM other
than Beihai v2 gets there, and then no session is needed. -/
def getAppletPropertyV1 (appId tx : Bytes) (rxLen : UInt32) : StateM (Service φ) PropertyResult := do
  if !isSupportedProperty tx then return ⟨jhiAppletPropertyNotSupported, rxLen, none⟩
  else if !(← ensureInstalled W appId) then return ⟨jhiAppletNotInstalled, rxLen, none⟩
  else queryProperty W appId tx rxLen

def sharedSessionSupportProperty : Bytes :=
  ascii ['a', 'p', 'p', 'l', 'e', 't', '.', 's', 'h', 'a', 'r', 'e', 'd', '.', 's', 'e', 's', 's', 'i', 'o', 'n',
    '.', 's', 'u', 'p', 'p', 'o', 'r', 't'] ++ [0]

/-- `AppletsManager::updateSharedSessionSupport`. -/
def updateSharedSessionSupport (appletId : Bytes) : StateM (Service φ) PUnit := do
  let a ← getAppletPropertyV1 W appletId sharedSessionSupportProperty 6
  let supported := a.text = some (ascii ['t', 'r', 'u', 'e'])
  modifyApplets fun t => (t.insert appletId ⟨.notInstalled, false, false⟩).modify appletId fun r =>
    { r with
      sharedSessionSupportRetrievedFromFW := a.retCode = jhiSuccess || r.sharedSessionSupportRetrievedFromFW
      sharedSessionSupport := a.retCode = jhiSuccess && supported }

/-- `AppletsManager::isSharedSessionSupported`. -/
def isSharedSessionSupported (appletId : Bytes) : StateM (Service φ) Bool := do
  match (← get).appletTable.find? appletId with
  | none => return false
  | some r =>
    if !r.sharedSessionSupportRetrievedFromFW then updateSharedSessionSupport W appletId
    match (← get).appletTable.find? appletId with
    | none => return false
    | some r => return r.sharedSessionSupport

/-! ### Create -/

/-- The start of `jhis_create_session`: the blobs for the VM (none of them before Beihai v2), or the
code with which the create ends. -/
def locateApplet (appId : Bytes) : StateM (Service φ) (Except JhiRet (List Bytes)) := do
  if !(← get).pluginRegistered then return .error jhiNoConnectionToFirmware
  else
    match ← appletExistInRepository W appId with
    | none => return .error jhiAppletNotInstalled
    | some (filename, isAcp) =>
      if (← get).vmType = .beihaiV2 then getAppletBlobs W filename isAcp
      else if getAppletState (← get).appletTable appId = .notInstalled then
        if (← jhisInstall W appId filename true isAcp) = jhiSuccess then return .ok []
        else return .error jhiAppletNotInstalled
      else return .ok []

/-- The codes that end the loop over the blobs. -/
def createStops (ret : JhiRet) : Bool :=
  ret = jhiSuccess ∨ ret = jhiMaxInstalledAppletsReached ∨ ret = jhiMaxSessionsReached

/-- One round of attempts to open a session in the VM. -/
def openInVm (appId : Bytes) (blobs : List Bytes) (newSessionID : SessionId) (initBuffer : Bytes)
    (last : JhiRet × VmHandle) : StateM (Service φ) (JhiRet × VmHandle) := do
  if (← get).vmType ≠ .beihaiV2 then onEnv (W.pluginCreateSession appId none newSessionID initBuffer)
  else
    tryEach (fun r => createStops r.1)
      (fun blob => onEnv (W.pluginCreateSession appId (some blob) newSessionID initBuffer)) last blobs

/-- `true` for the codes that make the service evict an unused shared session. -/
def vmFull (ret : JhiRet) : Bool := ret = jhiMaxSessionsReached ∨ ret = jhiMaxInstalledAppletsReached

/-- Attempt, evict, attempt again. -/
def openWithEviction (appId : Bytes) (blobs : List Bytes) (newSessionID : SessionId) (initBuffer : Bytes) :
    StateM (Service φ) (JhiRet × VmHandle) := do
  let first ← openInVm W appId blobs newSessionID initBuffer (jhiSuccess, 0)
  if vmFull first.1 then
    if ← tryRemoveUnusedSharedSession W true then openInVm W appId blobs newSessionID initBuffer first
    else return first
  else return first

/-- A new session: open it in the VM and add its record. -/
def createNewSession (appId : Bytes) (blobs : List Bytes) (flags : UInt32) (initBuffer : Bytes)
    (processInfo : ProcessInfo) : StateM (Service φ) (JhiRet × Option SessionId) := do
  match ← onEnv W.generateNewSessionId with
  | none => return (jhiInternalError, none)
  | some newSessionID =>
    let opened ← openWithEviction W appId blobs newSessionID initBuffer
    if opened.1 = jhiMaxInstalledAppletsReached then return (jhiMaxSessionsReached, none)
    else if opened.1 = jhiSuccess then
      if ← add appId opened.2 newSessionID flags processInfo then return (jhiSuccess, some newSessionID)
      else
        let ret ← onEnv (W.pluginCloseSession opened.2)
        record (.undoCreate opened.2 ret)
        return (jhiInternalError, none)
    else return (opened.1, none)

/-- A shared session is asked for: why it cannot be had, the session that exists, or `none` when it
has to be created. -/
def lookForShared (appId : Bytes) : StateM (Service φ) (Except JhiRet (Option SessionId)) := do
  if (← get).vmType ≠ .beihaiV2 then
    if !(← isSharedSessionSupported W appId) then return .error jhiSharedSessionNotSupported
    else return .ok (getSharedSessionID (← get).sessionList appId)
  else return .ok (getSharedSessionID (← get).sessionList appId)

/-- `jhis_create_session` once the applet was found. -/
def createLocated (appId : Bytes) (blobs : List Bytes) (flags : UInt32) (initBuffer : Bytes)
    (processInfo : ProcessInfo) : StateM (Service φ) (JhiRet × Option SessionId) := do
  clearDeadAndAbandoned W
  if sharedSession flags then
    match ← lookForShared W appId with
    | .error ret => return (ret, none)
    | .ok (some sessionId) =>
      if ← addSessionOwner sessionId processInfo then return (jhiSuccess, some sessionId)
      else return (jhiMaxSharedSessionReached, some sessionId)
    | .ok none => createNewSession W appId blobs flags initBuffer processInfo
  else createNewSession W appId blobs flags initBuffer processInfo

/-- `jhis_create_session`; the session id is the out parameter. -/
def jhisCreateSession (appId : Bytes) (flags : UInt32) (initBuffer : Bytes) (processInfo : ProcessInfo) :
    StateM (Service φ) (JhiRet × Option SessionId) := do
  match ← locateApplet W appId with
  | .error ret => return (ret, none)
  | .ok blobs => createLocated W appId blobs flags initBuffer processInfo

/-! ### Send and receive -/

/-- `jhis_txrx_raw`. The answer is `none` when the VM was not reached. -/
def jhisTxrxRaw (sessionId : SessionId) (commandId : UInt32) (tx : Bytes) (rxLen : UInt32) :
    StateM (Service φ) (JhiRet × Option SarAnswer) := do
  if (getSessionInfo (← get).sessionList sessionId).1 = .notExists then return (jhiInvalidSessionHandle, none)
  -- GetSessionLock
  else if !isSessionPresent (← get).sessionList sessionId then return (jhiInvalidSessionHandle, none)
  else
    match getVMSessionHandle (← get).sessionList sessionId with
    | none => return (jhiInternalError, none)
    | some handle =>
      if !(← get).pluginRegistered then return (jhiNoConnectionToFirmware, none)
      else
        let a ← onEnv (W.pluginSendAndRecv handle commandId tx rxLen)
        if sessionDied a.retCode then
          let _ ← jhisCloseSession W sessionId none false false
          return (a.retCode, some a)
        else return (a.retCode, some a)

/-! ### Property queries of clients -/

/-- The session a property query runs under on Beihai v2: an error code, or the session it opened. -/
def propertySession (appId : Bytes) : StateM (Service φ) (Except JhiRet (Option (SessionId × ProcessInfo))) := do
  if (← get).vmType = .beihaiV2 ∧ !hasLiveSessions (← get).sessionList appId then
    let processInfo ← onEnv W.ownProcessInfo
    match ← jhisCreateSession W appId 0 [] processInfo with
    | (ret, some sessionId) =>
      if ret = jhiSuccess then return .ok (some (sessionId, processInfo))
      else return .error jhiAppletNotInstalled
    | (_, none) => return .error jhiAppletNotInstalled
  else return .ok none

/-- `jhis_get_applet_property`. -/
def jhisGetAppletProperty (appId tx : Bytes) (rxLen : UInt32) : StateM (Service φ) PropertyResult := do
  if !isSupportedProperty tx then return ⟨jhiAppletPropertyNotSupported, rxLen, none⟩
  else if !(← ensureInstalled W appId) then return ⟨jhiAppletNotInstalled, rxLen, none⟩
  else
    match ← propertySession W appId with
    | .error ret => return ⟨ret, rxLen, none⟩
    | .ok none => queryProperty W appId tx rxLen
    | .ok (some (sessionId, processInfo)) =>
      let a ← queryProperty W appId tx rxLen
      let _ ← jhisCloseSession W sessionId (some processInfo) false true
      return a

end DalHost

import DalHost.Service.State

/-!
# The session table

The methods of `SessionsManager`. A method that only reads the table is a function of it; a method
that changes it is a program on the service. All of them run under `_locker`, so each is one step.
The clean-ups that close sessions are in `CloseSession.lean`, after `jhis_close_session`.
-/

namespace DalHost

/-! ### Queries -/

section Queries

variable (t : SessionTable)

def isSessionPresent (sessionId : SessionId) : Bool := t.contains sessionId

def getVMSessionHandle (sessionId : SessionId) : Option VmHandle :=
  (t.find? sessionId).map SessionRecord.vmSessionHandle

/-- State and flags of a session. -/
def getSessionInfo (sessionId : SessionId) : SessionState × UInt32 :=
  match t.find? sessionId with
  | none => (.notExists, 0)
  | some r => (r.state, r.sessionFlags)

def getJHISessionHandles (appId : Bytes) : List SessionId :=
  (t.entries.filter fun e => toUpperCase appId = e.2.appId).map Prod.fst

def hasLiveSessions (appId : Bytes) : Bool := t.entries.any fun e => toUpperCase appId = e.2.appId

def appletHasNonSharedSessions (appId : Bytes) : Bool :=
  t.entries.any fun e => toUpperCase appId = e.2.appId && !e.2.shared

/-- The first shared session of the applet; the id is compared as it is given. -/
def getSharedSessionID (appId : Bytes) : Option SessionId :=
  (t.entries.find? fun e => e.2.appId = appId && e.2.shared).map Prod.fst

def isSessionOwnerValid (sessionId : SessionId) (info : ProcessInfo) : Bool :=
  match t.find? sessionId with
  | none => false
  | some r => r.ownersList.contains info

/-- `-1` for a session that is not there. -/
def getOwnersCount (sessionId : SessionId) : Int :=
  match t.find? sessionId with
  | none => -1
  | some r => r.ownersList.length

/-- `SessionsManager::getEventHandle`: the event of a session that is registered for events. -/
def getEventHandle (sessionId : SessionId) : Option EventHandle :=
  match t.find? sessionId with
  | none => none
  | some r => r.eventHandle.filter EventHandle.created

/-- `SessionsManager::enqueueEventData`: the table with the event, or `none` when it is not accepted. -/
def enqueueEventData (sessionId : SessionId) (event : EventData) : Option SessionTable :=
  match t.find? sessionId with
  | none => none
  | some r =>
    if r.eventsDataQueue.length ≥ maxEventsDataInQueue then none
    else some (t.modify sessionId fun r => { r with eventsDataQueue := r.eventsDataQueue ++ [event] })

end Queries

/-! ### Updates -/

section Updates

variable {φ : Type}

/-- The record that `add` inserts. -/
def newRecord (appId : Bytes) (handle : VmHandle) (sessionId : SessionId) (flags : UInt32)
    (processInfo : ProcessInfo) : SessionRecord where
  sessionId := sessionId
  vmSessionHandle := handle
  appId := toUpperCase appId
  sessionFlags := flags
  state := .active
  ownersList := [processInfo]
  eventsDataQueue := []
  lastUsedTime := 0
  eventHandle := none

/-- `SessionsManager::add`. Its callers never pass a null process. -/
def add (appId : Bytes) (handle : VmHandle) (sessionId : SessionId) (flags : UInt32)
    (processInfo : ProcessInfo) : StateM (Service φ) Bool := do
  if isSessionPresent (← get).sessionList sessionId then return false
  else
    modifySessions fun t => t.insert sessionId (newRecord appId handle sessionId flags processInfo)
    return true

/-- `SessionsManager::remove`. -/
def remove (sessionId : SessionId) : StateM (Service φ) Bool := do
  if isSessionPresent (← get).sessionList sessionId then
    record (.removeSession sessionId)
    modifySessions fun t => t.erase sessionId
    return true
  else return false

/-- `SessionsManager::addSessionOwner`. -/
def addSessionOwner (sessionId : SessionId) (info : ProcessInfo) : StateM (Service φ) Bool := do
  record (.addSessionOwner sessionId)
  match (← get).sessionList.find? sessionId with
  | none => return false
  | some r =>
    if r.ownersList.length ≥ maxSessionOwners then return false
    else
      modifySessions fun t => t.modify sessionId fun r => { r with ownersList := r.ownersList ++ [info] }
      return true

/-- `updateSessionLastUsage`: the record with a new stamp, and the counter after it. -/
def updateSessionLastUsage (r : SessionRecord) (counter : UInt32) : SessionRecord × UInt32 :=
  if r.ownersList.length = 0 ∧ r.shared then ({ r with lastUsedTime := counter }, counter + 1)
  else (r, counter)

/-- Give a record a new owner list and update its stamp. -/
def setOwners (sessionId : SessionId) (r : SessionRecord) (owners : List ProcessInfo) :
    StateM (Service φ) PUnit := do
  let p := updateSessionLastUsage { r with ownersList := owners } (← get).sharedSessionLRUCounter
  modify fun s => { s with
    sessionList := s.sessionList.modify sessionId fun _ => p.1
    sharedSessionLRUCounter := p.2 }

/-- `SessionsManager::removeSessionOwner`: the first occurrence goes. -/
def removeSessionOwner (sessionId : SessionId) (info : ProcessInfo) : StateM (Service φ) Bool := do
  match (← get).sessionList.find? sessionId with
  | none => return false
  | some r =>
    if r.ownersList.contains info then
      setOwners sessionId r (r.ownersList.erase info)
      return true
    else return false

/-- `ownersList.remove_if(processIsDead)`. -/
def removeDead (W : World φ) : List ProcessInfo → StateM φ (List ProcessInfo)
  | [] => return []
  | p :: ps => do
    let isDead ← W.processIsDead p
    let rest ← removeDead W ps
    return if isDead then rest else p :: rest

/-- `SessionsManager::ClearSessionDeadOwners`. -/
def clearSessionDeadOwners (W : World φ) (sessionId : SessionId) : StateM (Service φ) Bool := do
  match (← get).sessionList.find? sessionId with
  | none => return false
  | some r =>
    let owners ← onEnv (removeDead W r.ownersList)
    if owners.length < r.ownersList.length then
      setOwners sessionId r owners
      return true
    else return false

/-- `SessionsManager::ClearSessionsDeadOwners`. -/
def clearSessionsDeadOwners (W : World φ) : StateM (Service φ) Bool := do
  let ids := (← get).sessionList.entries.map fun e => e.2.sessionId
  iterateAny (clearSessionDeadOwners W) ids

/-- `SessionsManager::resetSessionManager`. -/
def resetSessionManager : StateM (Service φ) PUnit := modifySessions fun _ => OrdMap.empty

/-- `SessionsManager::setEventHandle`; an unopened handle unregisters the session. -/
def setEventHandle (sessionId : SessionId) (handle : EventHandle) : StateM (Service φ) Bool := do
  if isSessionPresent (← get).sessionList sessionId then
    modifySessions fun t => t.modify sessionId fun r =>
      { r with
        eventHandle := some handle
        eventsDataQueue := if handle.created then r.eventsDataQueue else [] }
    return true
  else return false

/-- `SessionsManager::getSessionEventData`. -/
def getSessionEventData (sessionId : SessionId) : StateM (Service φ) (JhiRet × Option EventData) := do
  match (← get).sessionList.find? sessionId with
  | none => return (jhiInvalidSessionHandle, none)
  | some r =>
    if !(r.eventHandle.any EventHandle.created) then return (jhiInternalError, none)
    else
      match r.eventsDataQueue with
      | [] => return (jhiGetEventFailNoEvents, none)
      | d :: ds =>
        modifySessions fun t => t.modify sessionId fun r => { r with eventsDataQueue := ds }
        return (jhiSuccess, some d)

end Updates

end DalHost

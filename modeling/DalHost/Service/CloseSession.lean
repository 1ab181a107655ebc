import DalHost.Service.SessionsManager

/-!
# Closing sessions

`jhis_close_session` and the clean-ups that call it. One command runs at a time here, so taking a
session lock succeeds exactly when the session is in the table; what the lock does between threads
is the subject of the concurrent model.
-/

namespace DalHost

variable {φ : Type} (W : World φ)

/-- What `jhis_close_session` decides before it touches the VM. -/
inductive CloseBranch
  /-- The session does not exist. -/
  | notExists
  /-- The caller does not own the session. -/
  | notOwner
  /-- The caller gives up one ownership; the session stays. -/
  | dropOwner
  /-- The session is to be removed. -/
  | removal
  deriving DecidableEq

/-- The decision of `jhis_close_session`; `none` for the process is an internal request. -/
def closeBranch (t : SessionTable) (sessionId : SessionId) (processInfo : Option ProcessInfo) (force : Bool) :
    CloseBranch :=
  let info := getSessionInfo t sessionId
  if info.1 = .notExists then .notExists
  else
    match processInfo with
    | none => .removal
    | some p =>
      if isSessionOwnerValid t sessionId p then
        if getOwnersCount t sessionId = 1 ∧ !sharedSession info.2 then .removal
        else if !force then .dropOwner
        else .removal
      else .notOwner

/-- The record goes if the VM no longer has the session; otherwise the lock is released. -/
def finishClose (sessionId : SessionId) (force : Bool) (ret : JhiRet) : StateM (Service φ) JhiRet := do
  if closedInVm ret then
    if !(← remove sessionId) && !force then return jhiInternalError
    else return ret
  else return ret

/-- The plugin's close, forced or not. -/
def pluginClose (force : Bool) (handle : VmHandle) : StateM φ JhiRet :=
  if force then W.pluginForceCloseSession handle else W.pluginCloseSession handle

/-- The removal branch of `jhis_close_session`. -/
def closeRemoval (sessionId : SessionId) (force removeFromVM : Bool) : StateM (Service φ) JhiRet := do
  -- GetSessionLock
  if !force && !isSessionPresent (← get).sessionList sessionId then return jhiInvalidSessionHandle
  else if removeFromVM then
    match getVMSessionHandle (← get).sessionList sessionId with
    | none => return jhiInternalError
    | some handle =>
      if !(← get).pluginRegistered then finishClose sessionId force jhiNoConnectionToFirmware
      else
        let ret ← onEnv (pluginClose W force handle)
        if force && !isSessionPresent (← get).sessionList sessionId then return ret
        else finishClose sessionId force ret
  else finishClose sessionId force jhiSuccess

/-- `jhis_close_session`. -/
def jhisCloseSession (sessionId : SessionId) (processInfo : Option ProcessInfo) (force removeFromVM : Bool) :
    StateM (Service φ) JhiRet := do
  match closeBranch (← get).sessionList sessionId processInfo force with
  | .notExists => return jhiInvalidSessionHandle
  | .notOwner => return jhiInternalError
  | .dropOwner =>
    match processInfo with
    | none => return jhiSuccess
    | some p =>
      let _ ← removeSessionOwner sessionId p
      return jhiSuccess
  | .removal => closeRemoval W sessionId force removeFromVM

/-! ### Clean-ups -/

/-- An internal close, with whether it succeeded. -/
def closeInternally (sessionId : SessionId) : StateM (Service φ) Bool := do
  return (← jhisCloseSession W sessionId none false true) = jhiSuccess

/-- `SessionsManager::ClearAbandonedNonSharedSessions`. -/
def clearAbandonedNonSharedSessions : StateM (Service φ) Bool := do
  let slist := ((← get).sessionList.entries.filter fun e => e.2.ownersList.isEmpty && !e.2.shared).map Prod.fst
  iterateAny (closeInternally W) slist

/-- `SessionsManager::ClearAppletSharedSession`. -/
def clearAppletSharedSession (appId : Bytes) : StateM (Service φ) Bool := do
  match (← get).sessionList.entries.find? fun e =>
      toUpperCase appId = e.2.appId && e.2.shared && e.2.ownersList.isEmpty with
  | none => return false
  | some e => closeInternally W e.2.sessionId

/-- The candidate with the smallest stamp, the first of them if there are several. -/
def leastRecentlyUsed (best : SessionId × UInt32) : List (SessionId × UInt32) → SessionId
  | [] => best.1
  | c :: cs => if c.2 < best.2 then leastRecentlyUsed c cs else leastRecentlyUsed best cs

/-- The shared sessions without owners that `TryRemoveUnusedSharedSession` may close. -/
def unusedSharedSessions (t : SessionTable) (allowNonSharedSessions : Bool) : List (SessionId × UInt32) :=
  (t.entries.filter fun e => e.2.ownersList.isEmpty && e.2.shared &&
    (allowNonSharedSessions || !appletHasNonSharedSessions t e.2.appId)).map fun e => (e.1, e.2.lastUsedTime)

/-- `SessionsManager::TryRemoveUnusedSharedSession`. -/
def tryRemoveUnusedSharedSession (allowNonSharedSessions : Bool) : StateM (Service φ) Bool := do
  match unusedSharedSessions (← get).sessionList allowNonSharedSessions with
  | [] => return false
  | c :: cs => closeInternally W (leastRecentlyUsed c cs)

/-- The clean-up that opens create, install and unload. -/
def clearDeadAndAbandoned : StateM (Service φ) PUnit := do
  let _ ← clearSessionsDeadOwners W
  let _ ← clearAbandonedNonSharedSessions W

end DalHost

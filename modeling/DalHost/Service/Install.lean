import DalHost.Service.AppletsManager

/-!
# Installing and removing applets

`jhis_unload`, `jhis_uninstall`, `jhis_install` and the command-package forms of `SendCmdPkg.cpp`.
Each of them first clears dead owners and abandoned sessions, and the shared session of the applet
when it has no owner; the Beihai v1 install evicts an unused applet when the VM is full.
-/

namespace DalHost

variable {φ : Type} (W : World φ)

/-- The clean-up of install and unload for one applet. -/
def clearForApplet (appId : Bytes) : StateM (Service φ) PUnit := do
  clearDeadAndAbandoned W
  if !appletHasNonSharedSessions (← get).sessionList appId then
    let _ ← clearAppletSharedSession W appId
    return ⟨⟩
  else return ⟨⟩

/-- `JHI_Plugin_UnloadApplet`. -/
def unloadApplet (appId : Bytes) : StateM (Service φ) JhiRet := do
  record (.unloadApplet appId)
  onEnv (W.pluginUnloadApplet appId)

/-! ### Unload and uninstall -/

/-- The part of `jhis_unload` after the tests: the VM call and the applet record. -/
def unloadFromVm (appId : Bytes) (pkg : Option (VmHandle × Bytes)) : StateM (Service φ) JhiRet := do
  let ret ← match pkg with
    | none => unloadApplet W appId
    | some (handle, blob) => do
      record (.uninstallPackage appId)
      onEnv (W.pluginSendCmdPkg handle blob)
  if ret = jhiSuccess then
    if !(← removeAppletRecord appId) && (← get).vmType ≠ .beihaiV2 then return jhiInternalError
    else return ret
  else return ret

/-- `jhis_unload`; `pkg` is the uninstall package and the SD session it goes to, if there is one. -/
def jhisUnload (appId : Bytes) (pkg : Option (VmHandle × Bytes)) : StateM (Service φ) JhiRet := do
  let s ← get
  if getAppletState s.appletTable appId = .notInstalled ∧ s.vmType ≠ .beihaiV2 then
    return jhiAppletNotInstalled
  else
    clearForApplet W appId
    if hasLiveSessions (← get).sessionList appId then return jhiUninstallFailureSessionsExists
    else if !(← get).pluginRegistered then return jhiNoConnectionToFirmware
    else unloadFromVm W appId pkg

/-- `jhis_uninstall`. -/
def jhisUninstall (appId : Bytes) (pkg : Option (VmHandle × Bytes)) : StateM (Service φ) JhiRet := do
  let ret ← jhisUnload W appId pkg
  if ret = jhiSuccess ∨ ret = jhiAppletNotInstalled ∨ ret = teeStatusTaDoesNotExist then
    match ← appletExistInRepository W appId with
    | none => return ret
    | some (filename, _) =>
      if !(← onEnv (W.removeFile filename)) then
        return if ret = jhiSuccess then jhiDeleteFromRepositoryFailure else ret
      else
        let _ ← syncAppletRepoToDisk W
        return jhiSuccess
  else return ret

/-! ### Making room (Beihai v1) -/

/-- `UnloadAppletWithNoSessions`. -/
def unloadAppletWithNoSessions : List Bytes → StateM (Service φ) Bool
  | [] => return false
  | a :: as => do
    if (getJHISessionHandles (← get).sessionList a).isEmpty then
      return (← jhisUnload W a none) = jhiSuccess
    else unloadAppletWithNoSessions as

/-- `TryUnloadUnusedApplet`. -/
def tryUnloadUnusedApplet : StateM (Service φ) Bool := do
  let loaded := getLoadedAppletsList (← get).appletTable
  if ← unloadAppletWithNoSessions W loaded then return true
  else if ← tryRemoveUnusedSharedSession W false then unloadAppletWithNoSessions W loaded
  else return false

/-! ### Install -/

/-- The first round of downloads of `jhis_install`; `ret` is the code so far. -/
def downloadBlobs (appId : Bytes) (ret : JhiRet) : List Bytes → StateM (Service φ) JhiRet
  | [] => return ret
  | blob :: blobs => do
    let ret ← onEnv (W.pluginDownloadApplet appId blob)
    if ret = jhiFileIdentical then
      -- Force re-install
      let _ ← unloadApplet W appId
      onEnv (W.pluginDownloadApplet appId blob)
    else if ret = jhiMaxInstalledAppletsReached ∨ ret = jhiSuccess then return ret
    else downloadBlobs appId ret blobs

/-- The second round of downloads, after an applet was evicted. -/
def downloadAgain (appId : Bytes) (ret : JhiRet) (blobs : List Bytes) : StateM (Service φ) JhiRet :=
  tryEach (fun r => r = jhiSuccess) (fun blob => onEnv (W.pluginDownloadApplet appId blob)) ret blobs

/-- On Beihai v1 an install that finds the VM full evicts an unused applet and tries again. -/
def evictAndRetry (ret : JhiRet) (retry : StateM (Service φ) JhiRet) : StateM (Service φ) JhiRet := do
  if (← get).vmType = .beihaiV1 ∧ ret = jhiMaxInstalledAppletsReached then
    if ← tryUnloadUnusedApplet W then retry else return ret
  else return ret

/-- The downloads of `jhis_install`. -/
def downloadWithEviction (appId : Bytes) (blobs : List Bytes) : StateM (Service φ) JhiRet := do
  let ret ← downloadBlobs W appId jhiSuccess blobs
  evictAndRetry W ret (downloadAgain W appId ret blobs)

/-- `errorRemoveApplet`: the pending file and a pending record go. -/
def errorRemoveApplet (appId : Bytes) (isAcp : Bool) : StateM (Service φ) PUnit := do
  let _ ← onEnv (W.removeFile (getPendingFileName (← get).appletsFolder appId isAcp))
  if getAppletState (← get).appletTable appId = .pendingInstall then
    let _ ← removeAppletRecord appId
    return ⟨⟩
  else return ⟨⟩

/-- The end of an install: `ret` is the result of the downloads. -/
def finishInstall (appId : Bytes) (visibleApp isAcp : Bool) (ret : JhiRet) : StateM (Service φ) JhiRet := do
  if ret ≠ jhiSuccess then
    if visibleApp then errorRemoveApplet W appId isAcp
    return ret
  else if visibleApp then
    if !(← completeInstall W appId isAcp) then
      let _ ← unloadApplet W appId
      errorRemoveApplet W appId isAcp
      return jhiInternalError
    else return jhiSuccess
  else return jhiSuccess

/-- The blobs of the package, from the pending copy in the repository or from the file itself. -/
def installBlobs (appId : Bytes) (file : FileString) (visibleApp isAcp : Bool) :
    StateM (Service φ) (Except JhiRet (List Bytes)) :=
  if visibleApp then prepareInstallFromFile W file appId isAcp
  else getAppletBlobs W file isAcp

/-- `jhis_install` after its clean-up. -/
def installCleared (appId : Bytes) (file : FileString) (visibleApp isAcp : Bool) : StateM (Service φ) JhiRet := do
  if !(← get).pluginRegistered then return jhiNoConnectionToFirmware
  else if !(← onEnv (W.fileExists file)) then return jhiFileNotFound
  else if !compareFileExtension file (fileExt isAcp) then return jhiInvalidFileExtension
  else
    match ← installBlobs W appId file visibleApp isAcp with
    | .error ret => return ret
    | .ok blobs => finishInstall W appId visibleApp isAcp (← downloadWithEviction W appId blobs)

/-- `jhis_install`. -/
def jhisInstall (appId : Bytes) (file : FileString) (visibleApp isAcp : Bool) : StateM (Service φ) JhiRet := do
  clearForApplet W appId
  installCleared W appId file visibleApp isAcp

/-! ### Command packages -/

/-- `JHI_Plugin_SendCmdPkg` of an install package, with the forced re-install of an identical one. -/
def sendInstallPkg (appId : Bytes) (handle : VmHandle) (blob : Bytes) : StateM (Service φ) JhiRet := do
  let ret ← onEnv (W.pluginSendCmdPkg handle blob)
  if ret = teeStatusIdenticalPackage then
    let _ ← unloadApplet W appId
    onEnv (W.pluginSendCmdPkg handle blob)
  else return ret

/-- The sends of `cmd_pkg_install_jta`. -/
def sendWithEviction (appId : Bytes) (handle : VmHandle) (blob : Bytes) : StateM (Service φ) JhiRet := do
  let ret ← sendInstallPkg W appId handle blob
  evictAndRetry W ret (onEnv (W.pluginSendCmdPkg handle blob))

/-- `cmd_pkg_install_jta` after its clean-up. -/
def cmdPkgInstallCleared (appId : Bytes) (handle : VmHandle) (blob : Bytes) : StateM (Service φ) JhiRet := do
  if !(← get).pluginRegistered then return jhiNoConnectionToFirmware
  else
    let prepared ← prepareInstallFromBuffer W blob appId
    if prepared ≠ jhiSuccess then return prepared
    else finishInstall W appId true true (← sendWithEviction W appId handle blob)

/-- `cmd_pkg_install_jta`. -/
def cmdPkgInstallJta (appId : Bytes) (handle : VmHandle) (blob : Bytes) : StateM (Service φ) JhiRet := do
  clearForApplet W appId
  cmdPkgInstallCleared W appId handle blob

/-- `jhis_send_cmd_pkg`. -/
def jhisSendCmdPkg (handle : VmHandle) (blob : Bytes) : StateM (Service φ) JhiRet := do
  if blob.length = 0 then return teeStatusInvalidParams
  else if !(← get).pluginRegistered then return teeStatusNoFwConnection
  else
    match ← onEnv (W.pluginParsePackage blob) with
    | .error ret => return ret
    | .ok info =>
      -- the id is compared with the spooler's as it stands in the package
      if info.uuid = spoolerAppletUuid.text then return teeStatusInvalidUuid
      else
        let uuid := toUpperCase info.uuid
        match info.packageType with
        | .installSD | .uninstallSD | .updateSVL => onEnv (W.pluginSendCmdPkg handle blob)
        | .installNTA | .uninstallNTA | .installJTAProp => return teeStatusUnsupportedPlatform
        | .installJTA => return jhiErrorToTeeError (← cmdPkgInstallJta W uuid handle blob)
        | .uninstallJTA => return jhiErrorToTeeError (← jhisUninstall W uuid (some (handle, blob)))
        | .invalid | .other => return teeStatusInvalidParams

end DalHost

import DalHost.Service.CloseSession

/-!
# The applet table and the applet repository

The methods of `AppletsManager` that the commands call. The repository is a directory of the
world; the operations on its files are those of `World`.
-/

namespace DalHost

variable {φ : Type} (W : World φ)

/-! ### File names -/

def dalpFileExt : Bytes := ascii ['.', 'd', 'a', 'l', 'p']
def acpFileExt : Bytes := ascii ['.', 'a', 'c', 'p']
def pendingHeader : Bytes := ascii ['/', 'P', 'E', 'N', 'D', 'I', 'N', 'G', '-']

def fileExt (isAcp : Bool) : Bytes := if isAcp then acpFileExt else dalpFileExt

def getPendingFileName (folder : FileString) (appletId : Bytes) (isAcp : Bool) : FileString :=
  folder ++ (pendingHeader ++ appletId ++ fileExt isAcp)

def getFileName (folder : FileString) (appletId : Bytes) (isAcp : Bool) : FileString :=
  folder ++ (ascii ['/'] ++ appletId ++ fileExt isAcp)

/-- A package for examples. -/
def exampleFile : FileString := ascii ['a', '.', 'd', 'a', 'l', 'p']

/-- The text from the last `.` on, if there is one. -/
def extension : FileString → Option Bytes
  | [] => none
  | c :: cs =>
    match extension cs with
    | some ext => some ext
    | none => if c = 46 then some (c :: cs) else none

/-- `AppletsManager::compareFileExtension`, without regard to case. -/
def compareFileExtension (file : FileString) (ext : Bytes) : Bool :=
  match extension file with
  | none => false
  | some ext' => toUpperCase ext' = toUpperCase ext

/-! ### The table -/

/-- `AppletsManager::getAppletState`. -/
def getAppletState (t : AppletTable) (appletId : Bytes) : AppletStatus :=
  match t.find? appletId with
  | none => .notInstalled
  | some r => r.status

/-- `AppletsManager::remove`: whether there was a record to erase. -/
def removeAppletRecord (appletId : Bytes) : StateM (Service φ) Bool := do
  let present := (← get).appletTable.contains appletId
  modifyApplets fun t => t.erase appletId
  return present

/-- The record of an applet whose installation has begun. -/
def pendingRecord : AppletRecord where
  status := .pendingInstall
  sharedSessionSupport := false
  sharedSessionSupportRetrievedFromFW := false

/-- An applet without a record gets one in the pending state. -/
def markPending (appletId : Bytes) : StateM (Service φ) PUnit := do
  if getAppletState (← get).appletTable appletId = .notInstalled then
    modifyApplets fun t => t.insert appletId pendingRecord
  else return ⟨⟩

/-- `AppletsManager::getLoadedAppletsList`. -/
def getLoadedAppletsList (t : AppletTable) : List Bytes :=
  (t.entries.filter fun e => e.2.status = .installed).map Prod.fst

/-! ### The repository -/

/-- `AppletsManager::appletExistInRepository`: the file of the applet and whether it is an ACP. -/
def appletExistInRepository (appletId : Bytes) : StateM (Service φ) (Option (FileString × Bool)) := do
  let folder := (← get).appletsFolder
  if ← onEnv (W.fileExists (getFileName folder appletId false)) then
    return some (getFileName folder appletId false, false)
  else if ← onEnv (W.fileExists (getFileName folder appletId true)) then
    return some (getFileName folder appletId true, true)
  else return none

/-- `AppletsManager::readFileAsBlob`: whatever the length of the file, the code ends as a success. -/
def readFileAsBlob (file : FileString) : StateM (Service φ) (Except JhiRet (List Bytes)) := do
  match ← onEnv (W.readFile file) with
  | none => return .error jhiInternalError
  | some blob => return .ok [blob]

/-- `AppletsManager::getAppletBlobs`. -/
def getAppletBlobs (file : FileString) (isAcp : Bool) : StateM (Service φ) (Except JhiRet (List Bytes)) := do
  if isAcp then readFileAsBlob W file
  else if compareFileExtension file dalpFileExt then
    match ← onEnv (W.readPackage file) with
    | none => return .error jhiInvalidPackageFormat
    | some none => return .error jhiReadFromFileFailed
    | some (some []) => return .error jhiInstallFailed
    | some (some (blob :: blobs)) => return .ok (blob :: blobs)
  else return .error jhiInvalidFileExtension

/-- A pending file left by a failed preparation is deleted. -/
def dropPendingFile (file : FileString) : StateM (Service φ) PUnit := do
  if ← onEnv (W.fileExists file) then
    let _ ← onEnv (W.removeFile file)
    return ⟨⟩
  else return ⟨⟩

/-- `AppletsManager::prepareInstallFromFile`. -/
def prepareInstallFromFile (file : FileString) (appletId : Bytes) (isAcp : Bool) :
    StateM (Service φ) (Except JhiRet (List Bytes)) := do
  let dstFile := getPendingFileName (← get).appletsFolder appletId isAcp
  if !(← onEnv (W.copyFile dstFile file)) then
    dropPendingFile W dstFile
    return .error jhiFileErrorCopy
  else if !(← onEnv (W.chmod dstFile)) then
    dropPendingFile W dstFile
    return .error jhiFileErrorCopy
  else
    match ← getAppletBlobs W dstFile isAcp with
    | .error ret =>
      dropPendingFile W dstFile
      return .error ret
    | .ok blobs =>
      markPending appletId
      return .ok blobs

/-- `AppletsManager::prepareInstallFromBuffer`. -/
def prepareInstallFromBuffer (blob : Bytes) (appletId : Bytes) : StateM (Service φ) JhiRet := do
  let dstFile := getPendingFileName (← get).appletsFolder appletId true
  if !(← onEnv (W.createFileFromBuff dstFile blob)) then
    dropPendingFile W dstFile
    return jhiFileErrorCopy
  else if !(← onEnv (W.fileExists dstFile)) then
    dropPendingFile W dstFile
    return jhiFileErrorCopy
  else if !(← onEnv (W.chmod dstFile)) then
    dropPendingFile W dstFile
    return jhiFileErrorCopy
  else
    markPending appletId
    return jhiSuccess

/-- `AppletsManager::syncAppletRepoToDisk`. -/
def syncAppletRepoToDisk : StateM (Service φ) Bool := do
  onEnv (W.syncFile (← get).appletsFolder)

/-- `AppletsManager::syncAppletToDisk`; the file name is the one with the default extension. -/
def syncAppletToDisk (appletId : Bytes) : StateM (Service φ) Bool := do
  if !(← onEnv (W.syncFile (getFileName (← get).appletsFolder appletId false))) then return false
  else syncAppletRepoToDisk W

/-- `_appletTable[appletId].status = INSTALLED`: a missing record is created. -/
def setInstalled (t : AppletTable) (appletId : Bytes) : AppletTable :=
  (t.insert appletId ⟨.notInstalled, false, false⟩).modify appletId fun r => { r with status := .installed }

/-- `AppletsManager::completeInstall`. -/
def completeInstall (appletId : Bytes) (isAcp : Bool) : StateM (Service φ) Bool := do
  let folder := (← get).appletsFolder
  let _ ← onEnv (W.removeFile (getFileName folder appletId isAcp))
  let _ ← onEnv (W.removeFile (getFileName folder appletId !isAcp))
  let renamed ← onEnv (W.renameFile (getPendingFileName folder appletId isAcp) (getFileName folder appletId isAcp))
  let _ ← syncAppletToDisk W appletId
  if !renamed then return false
  else
    modifyApplets fun t => setInstalled t appletId
    return true

end DalHost

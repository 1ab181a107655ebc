import DalHost.Plugin.Beihai

/-!
# Security domains

The functions of the Beihai v2 plugin on security domains. Besides the session of the Intel domain, which is
open from `JHI_Plugin_Init` to `JHI_Plugin_DeInit` (`OPEN_INTEL_SD_SESSION_ONCE`), the plugin remembers one
more session: a flag, a handle and the id as it was spelled when the session was opened.
-/

namespace DalHost

/-! ### Error codes -/

/-- The `switch` of `beihaiToTeeError`. -/
def bhTeeRows : ErrorRows := [
  ([bhSuccess], teeStatusSuccess),
  ([0x006], teeStatusInvalidParams), -- BPE_INVALID_PARAMS
  ([0x004, 0x001, 0x009], teeStatusNoFwConnection), -- BPE_COMMS_ERROR, BPE_NOT_INIT, BPE_NO_CONNECTION_TO_FIRMWARE
  ([0x2005, 0x2006, 0x2007, 0x2004], teeStatusUnsupportedPlatform), -- the HAL_UNSUPPORTED_* types
  -- HAL_ILLEGAL_SIGNATURE, HAL_ILLEGAL_VERSION, HAL_FW_VERSION_MISMATCH, BHE_SDM_SIGNATURE_VERIFY_FAIL
  ([0x2001, 0x2008, 0x2000, 0x806], teeStatusInvalidSignature),
  ([0x308, 0x00E, 0x318], teeStatusInvalidPackage), -- BHE_INVALID_BPK_FILE, BPE_INVALID_BPK_FILE, BHE_TA_PACKAGE_HASH_VERIFY_FAIL
  ([0x80C], teeStatusMaxSvlRecords), -- BHE_SDM_SVL_DB_NO_FREE_SLOT
  ([0x80D], teeStatusSvlCheckFail), -- BHE_SDM_SVL_CHECK_FAIL
  ([0x809], teeStatusInvalidTaSvn), -- BHE_SDM_SVN_CHECK_FAIL
  ([0x1003, 0x805], teeStatusMaxTasReached), -- HAL_OUT_OF_RESOURCES, BHE_SDM_TA_NUMBER_LIMIT
  ([0x303], teeStatusTaPlatformMismatch), -- BHE_LOAD_JEFF_FAIL
  ([0x803], teeStatusIdenticalPackage), -- BHE_SDM_ALREADY_EXIST
  ([0x305], teeStatusCmdFailureSessionsExists), -- BHE_EXIST_LIVE_SESSION
  ([0x304, 0x801], teeStatusTaDoesNotExist), -- BHE_PACKAGE_NOT_FOUND, BHE_SDM_NOT_FOUND
  ([0x815], teeStatusSdDoesNotExist), -- BHE_SDM_SD_NOT_FOUND
  ([0x314], teeStatusMissingAccessControl), -- BHE_GROUP_CHECK_FAIL
  ([0x2011], teeStatusIllegalPlatformId), -- HAL_ILLEGAL_PLATFORM_ID
  ([0x810], teeStatusSdInterfaceDisabled), -- BHE_SDM_SD_INTERFACE_DISABLED
  ([0x811], teeStatusSdPublickeyHashVerifyFail), -- BHE_SDM_SD_PUBLICKEY_HASH_VERIFY_FAIL
  ([0x80B], teeStatusSdDbNoFreeSlot), -- BHE_SDM_SD_DB_NO_FREE_SLOT
  ([0x814, 0x812], teeStatusSdTaInstallationUnallowed), -- BHE_SDM_SVL_UPDATE_UNALLOWED, BHE_SDM_TA_INSTALL_UNALLOWED
  ([0x816, 0x807], teeStatusSdInvalidProperties), -- BHE_SDM_SD_INVALID_PROPERTIES, BHE_SDM_PERMGROUP_CHECK_FAIL
  ([0x813], teeStatusSdInstallUnallowed), -- BHE_SDM_SD_INSTALL_UNALLOWED
  ([0x2014], teeStatusPlatformAfterEom), -- HAL_PLATFORM_AFTER_EOM
  ([0x2015], teeStatusMaxInvocations), -- HAL_MAX_INVOCATIONS
  ([0x2016], teeStatusCounterMismatch), -- HAL_COUNTER_MISMATCH
  ([0x2017], teeStatusTaEncryptionKeyNotSet), -- HAL_TA_ENCRYPTION_KEY_NOT_SET
  ([0x2018], teeStatusOmkNotProvisioned), -- HAL_OMK_NOT_PROVISIONED
  ([0x2019], teeStatusTaEncryptionKeyInvalid)] -- HAL_TA_ENCRYPTION_KEY_INVALID

/-- `beihaiToTeeError` with `TEE_STATUS_INTERNAL_ERROR`, which every caller here passes as the default. -/
def beihaiToTeeError (bhError : BhRet) : JhiRet := translateError bhTeeRows bhError teeStatusInternalError

def bpeInternalError : BhRet := 0x003
def bheSdmNotFound : BhRet := 0x801

/-- `INTEL_SD_UUID`. -/
def intelSdUuid : Bytes :=
  ascii ['B', 'D', '2', 'F', 'B', 'A', '3', '6', 'A', '2', 'D', '6', '4', 'D', 'A', 'B',
    '9', '3', '9', '0', 'F', 'F', '6', 'D', 'A', '2', 'F', 'E', 'F', '3', '1', 'C']

/-! ### The library -/

/-- The out parameters of `BHP_ListInstalledTAs` and `BHP_ListInstalledSDs`: a count, and an array of as many strings or
a null pointer. A string may be missing too. -/
structure ListAnswer where
  ret : BhRet
  count : UInt32
  strs : Option (List (Option Bytes))
  sized : ∀ entries, strs = some entries → entries.length = count.toNat

/-- The functions of the Beihai library on security domains. -/
structure SdFirmware (ψ : Type) where
  init : Bool → StateM ψ BhRet
  deinit : Bool → StateM ψ BhRet
  /-- The transport interface is torn down, or was not initialised. -/
  teardown : StateM ψ Bool
  /-- `BHP_OpenSDSession`, with the handle of a session that it opened. -/
  openSDSession : Bytes → StateM ψ (BhRet × VmHandle)
  closeSDSession : VmHandle → StateM ψ BhRet
  listInstalledTAs : VmHandle → Bytes → StateM ψ ListAnswer
  listInstalledSDs : VmHandle → StateM ψ ListAnswer

/-- The members of `BeihaiPlugin` about security domains, over the state of the firmware. -/
structure SdPlugin (ψ : Type) where
  intelSdHandle : VmHandle
  isIntelSdOpen : Bool
  oemSdHandle : VmHandle
  isOemSdOpen : Bool
  oemSdId : Bytes
  fw : ψ

section Plugin

variable {ψ : Type}

/-- The plugin as it is constructed. -/
def SdPlugin.fresh (fw : ψ) : SdPlugin ψ := ⟨0, false, 0, false, [], fw⟩

/-- Call the library. -/
def onSdFw {α : Type} (op : StateM ψ α) : StateM (SdPlugin ψ) α := fun p =>
  ((op.exe p.fw).1, { p with fw := (op.exe p.fw).2 })

@[simp] theorem exe_onSdFw {α : Type} (op : StateM ψ α) (p : SdPlugin ψ) :
    (onSdFw op).exe p = ((op.exe p.fw).1, { p with fw := (op.exe p.fw).2 }) := Prod.ext rfl rfl

variable (F : SdFirmware ψ)

/-! ### Sessions -/

def openIntelSD : StateM (SdPlugin ψ) BhRet := do
  if (← get).isIntelSdOpen then return bhSuccess
  else
    let opened ← onSdFw (F.openSDSession intelSdUuid)
    if opened.1 = bhSuccess then modify fun p => { p with intelSdHandle := opened.2, isIntelSdOpen := true }
    return opened.1

def closeIntelSD : StateM (SdPlugin ψ) BhRet := do
  if !(← get).isIntelSdOpen then return bhSuccess
  else
    let ret ← onSdFw (F.closeSDSession (← get).intelSdHandle)
    modify fun p => { p with intelSdHandle := 0, isIntelSdOpen := false }
    return ret

/-- `JHI_Plugin_Init`. The Intel session is opened whatever `BHP_Init` says. -/
def jhiPluginInit (doVmReset : Bool) : StateM (SdPlugin ψ) JhiRet := do
  let ret ← onSdFw (F.init doVmReset)
  let _ ← openIntelSD F
  return translateError bhV2Rows ret jhiNoConnectionToFirmware

/-- The OEM session is closed if it is open, and its result ignored. -/
def closeOemSD : StateM (SdPlugin ψ) PUnit := do
  if (← get).isOemSdOpen then
    let _ ← onSdFw (F.closeSDSession (← get).oemSdHandle)
    modify fun p => { p with isOemSdOpen := false, oemSdHandle := 0, oemSdId := [] }
  else return ⟨⟩

/-- `JHI_Plugin_DeInit`. -/
def jhiPluginDeInit (doVmReset : Bool) : StateM (SdPlugin ψ) JhiRet := do
  let _ ← closeIntelSD F
  closeOemSD F
  let ret ← onSdFw (F.deinit doVmReset)
  if !(← onSdFw F.teardown) then return jhiInternalError
  else return beihaiToJhiError ret

/-- `JHI_Plugin_OpenSDSession`; the handle is 0 where the source leaves the caller's pointer alone. -/
def jhiPluginOpenSDSession (sdId : Bytes) : StateM (SdPlugin ψ) (JhiRet × VmHandle) := do
  if !validateUuidString sdId then return (beihaiToTeeError bpeInvalidParams, 0)
  -- strcasecmp
  else if toUpperCase sdId = intelSdUuid then return (beihaiToTeeError bhSuccess, (← get).intelSdHandle)
  else if (← get).isOemSdOpen ∧ sdId = (← get).oemSdId then return (beihaiToTeeError bhSuccess, (← get).oemSdHandle)
  else
    let opened ← onSdFw (F.openSDSession sdId)
    if opened.1 = bhSuccess then
      modify fun p => { p with isOemSdOpen := true, oemSdHandle := opened.2, oemSdId := sdId }
      return (beihaiToTeeError opened.1, opened.2)
    else return (beihaiToTeeError opened.1, 0)

/-- `JHI_Plugin_CloseSDSession`. The two sessions that the plugin remembers stay open. -/
def jhiPluginCloseSDSession (handle : VmHandle) : StateM (SdPlugin ψ) JhiRet := do
  if handle = (← get).intelSdHandle then return beihaiToTeeError bhSuccess
  else if (← get).isOemSdOpen ∧ handle = (← get).oemSdHandle then return beihaiToTeeError bhSuccess
  else return beihaiToTeeError (← onSdFw (F.closeSDSession handle))

/-! ### Lists -/

/-- An entry that the loops over the list take: `strnlen_s(entry, 32) == 32`. -/
def longEntry (entry : Option Bytes) : Option Bytes :=
  entry.bind fun id => if lenAppId ≤ (cString id).length then some (cString id) else none

/-- The loop over the entries: it stops at the first that is missing or too short, and the code is left as it is. -/
def pushEntries : List (Option Bytes) → List Bytes
  | [] => []
  | entry :: entries =>
    match longEntry entry with
    | none => []
    | some id => id :: pushEntries entries

/-- `JHI_Plugin_ListInstalledTAs` after the call of the library. -/
def takeInstalledTAs (a : ListAnswer) : JhiRet × List Bytes :=
  if a.ret ≠ bhSuccess then (beihaiToTeeError a.ret, [])
  else
    match a.strs with
    | none => if a.count ≠ 0 then (beihaiToTeeError bpeInternalError, []) else (beihaiToTeeError a.ret, [])
    | some entries => (beihaiToTeeError a.ret, pushEntries entries)

/-- `JHI_Plugin_ListInstalledSDs` after the call of the library. Two of its exits return a library code. -/
def takeInstalledSDs (a : ListAnswer) : JhiRet × List Bytes :=
  if a.ret ≠ bhSuccess then (a.ret, [])
  else
    match a.strs with
    | none => (bpeInternalError, [])
    | some entries => (beihaiToTeeError a.ret, pushEntries entries)

/-- The domain whose session a handle names. -/
def sdOfHandle (p : SdPlugin ψ) (handle : VmHandle) : Except BhRet Bytes :=
  if handle = 0 then .error bpeInvalidParams
  else if handle = p.intelSdHandle then .ok intelSdUuid
  else if p.isOemSdOpen ∧ handle = p.oemSdHandle then .ok p.oemSdId
  else .error bheSdmNotFound

/-- `JHI_Plugin_ListInstalledTAs`. -/
def jhiPluginListInstalledTAs (handle : VmHandle) : StateM (SdPlugin ψ) (JhiRet × List Bytes) := do
  match sdOfHandle (← get) handle with
  | .error ret => return (beihaiToTeeError ret, [])
  | .ok sdId => return takeInstalledTAs (← onSdFw (F.listInstalledTAs handle sdId))

/-- `JHI_Plugin_ListInstalledSDs`; the status of another handle passes through `beihaiToTeeError`. -/
def jhiPluginListInstalledSDs (handle : VmHandle) : StateM (SdPlugin ψ) (JhiRet × List Bytes) := do
  if handle = (← get).intelSdHandle then return takeInstalledSDs (← onSdFw (F.listInstalledSDs handle))
  else return (beihaiToTeeError teeStatusUnsupportedPlatform, [])

end Plugin

end DalHost

/-!
# Return codes and limits

The numbers of `jhi.h`, `teemanagement.h`, `jhi_i.h` and `SessionsManager.h` that the modelled
functions return or compare with, and the translation of a JHI code into a TEE status.
-/

namespace DalHost

/-- `JHI_RET`, `TEE_STATUS`: a 32-bit return code. -/
abbrev JhiRet := UInt32

/-- A byte string. -/
abbrev Bytes := List UInt8

/-- A name of the file system (`FILESTRING`). -/
abbrev FileString := Bytes

/-- The bytes of an ASCII string constant. -/
def ascii (cs : List Char) : Bytes := cs.map fun c => UInt8.ofNat c.toNat

/-- The C string at the start of a buffer. -/
def cString (b : Bytes) : Bytes := b.takeWhile (· ≠ 0)

/-- A string of the caller: what stands before its terminator. -/
structure CText where
  text : Bytes
  no_terminator : (0 : UInt8) ∉ text

/-- `strncpy`: what it leaves in a destination of `n` bytes, and so does `strcpy_s`. -/
def strncpy (n : Nat) (src : Bytes) : Bytes := (cString src ++ List.replicate n 0).take n

/-! ### `jhi.h` -/

def jhiSuccess : JhiRet := 0x00
def jhiFileMissingSrc : JhiRet := 0x101
def jhiFileErrorAuth : JhiRet := 0x102
def jhiFileErrorCopy : JhiRet := 0x103
def jhiFileErrorDelete : JhiRet := 0x104
def jhiFileIdentical : JhiRet := 0x108
def jhiInsufficientBuffer : JhiRet := 0x200
def jhiInvalidHandle : JhiRet := 0x201
def jhiInvalidParams : JhiRet := 0x203
def jhiIllegalValue : JhiRet := 0x204
def jhiCommsError : JhiRet := 0x300
def jhiServiceUnavailable : JhiRet := 0x301
def jhiAppletFatal : JhiRet := 0x400
def jhiAppletTimeout : JhiRet := 0x401
def jhiAppidNotExist : JhiRet := 0x402
def jhiJomOverflow : JhiRet := 0x404
def jhiAppletBadState : JhiRet := 0x407
def jhiErrorRegistry : JhiRet := 0x501
def jhiInternalError : JhiRet := 0x601
def jhiErrorRepositoryNotFound : JhiRet := 0x1000
def jhiInvalidBufferSize : JhiRet := 0x1001
def jhiInvalidCommBuffer : JhiRet := 0x1002
def jhiInvalidInstallFile : JhiRet := 0x1003
def jhiReadFromFileFailed : JhiRet := 0x1004
def jhiInvalidPackageFormat : JhiRet := 0x1005
def jhiInvalidInitBuffer : JhiRet := 0x1006
def jhiInvalidFileExtension : JhiRet := 0x1007
def jhiInstallFailureSessionsExists : JhiRet := 0x1008
def jhiInstallFailed : JhiRet := 0x1009
def jhiUninstallFailureSessionsExists : JhiRet := 0x100A
def jhiMaxSessionsReached : JhiRet := 0x100C
def jhiSharedSessionNotSupported : JhiRet := 0x100D
def jhiMaxSharedSessionReached : JhiRet := 0x100E
def jhiInvalidSessionHandle : JhiRet := 0x100F
def jhiSessionNotRegistered : JhiRet := 0x1010
def jhiSessionAlreadyRegsitered : JhiRet := 0x1011
def jhiEventsNotSupported : JhiRet := 0x1012
def jhiAppletPropertyNotSupported : JhiRet := 0x1013
def jhiSpoolerNotFound : JhiRet := 0x1014
def jhiInvalidSpooler : JhiRet := 0x1015
def jhiVmDllFileNotFound : JhiRet := 0x1016
def jhiVmDllVerifyFailed : JhiRet := 0x1017
def jhiFirmwareOutOfResources : JhiRet := 0x1018
def jhiOnlySingleInstanceAllowed : JhiRet := 0x1019
def jhiOperationNotPermitted : JhiRet := 0x101A
def jhiIacServerSessionExist : JhiRet := 0x1020
def jhiIacServerInternalSessionsExist : JhiRet := 0x1021
def jhiMissingAccessControl : JhiRet := 0x1030
def jhiSvlCheckFail : JhiRet := 0x1040
def jhiIllegalPlatformId : JhiRet := 0x1041
def jhiSvnCheckFail : JhiRet := 0x1042
def jhiTaEncryptionKeyNotSet : JhiRet := 0x1043
def jhiTaPlatformMismatch : JhiRet := 0x1044
def jhiErrorOemSigningDisabled : JhiRet := 0x1050
def jhiErrorSdPublickeyHashFailed : JhiRet := 0x1051
def jhiErrorSdDbNoFreeSlot : JhiRet := 0x1052
def jhiErrorSdTaInstallationUnallowed : JhiRet := 0x1053
def jhiBadAppletFormat : JhiRet := 0x2001

/-- `JHI_GET_EVENT_FAIL_NO_EVENTS`. -/
def jhiGetEventFailNoEvents : JhiRet := 0x2000

/-! Second names of the same numbers. -/

def jhiInvalidAppletGuid : JhiRet := jhiIllegalValue
def jhiFileNotFound : JhiRet := jhiFileMissingSrc
def jhiMaxInstalledAppletsReached : JhiRet := jhiJomOverflow
def jhiDeleteFromRepositoryFailure : JhiRet := jhiFileErrorDelete
def jhiAppletNotInstalled : JhiRet := jhiAppidNotExist
def jhiNoConnectionToFirmware : JhiRet := jhiCommsError

/-! ### `teemanagement.h` -/

def teeStatusSuccess : JhiRet := 0x0000
def teeStatusInternalError : JhiRet := 0x2001
def teeStatusInvalidParams : JhiRet := 0x2002
def teeStatusInvalidHandle : JhiRet := 0x2003
def teeStatusInvalidUuid : JhiRet := 0x2004
def teeStatusNoFwConnection : JhiRet := 0x2005
def teeStatusUnsupportedPlatform : JhiRet := 0x2006
def teeStatusServiceUnavailable : JhiRet := 0x2100
def teeStatusRegistryError : JhiRet := 0x2101
def teeStatusRepositoryError : JhiRet := 0x2102
def teeStatusSpoolerMissing : JhiRet := 0x2103
def teeStatusSpoolerInvalid : JhiRet := 0x2104
def teeStatusPluginMissing : JhiRet := 0x2105
def teeStatusPluginVerifyFailed : JhiRet := 0x2106
def teeStatusInvalidPackage : JhiRet := 0x2200
def teeStatusInvalidSignature : JhiRet := 0x2201
def teeStatusCmdFailureSessionsExists : JhiRet := 0x2300
def teeStatusCmdFailure : JhiRet := 0x2301
def teeStatusMaxTasReached : JhiRet := 0x2302
def teeStatusMissingAccessControl : JhiRet := 0x2303
def teeStatusTaDoesNotExist : JhiRet := 0x2304
def teeStatusInvalidTaSvn : JhiRet := 0x2305
def teeStatusIdenticalPackage : JhiRet := 0x2306
def teeStatusIllegalPlatformId : JhiRet := 0x2307
def teeStatusMaxSvlRecords : JhiRet := 0x2202
def teeStatusSvlCheckFail : JhiRet := 0x2308
def teeStatusTaPlatformMismatch : JhiRet := 0x2309
def teeStatusSdInterfaceDisabled : JhiRet := 0x2400
def teeStatusSdPublickeyHashVerifyFail : JhiRet := 0x2401
def teeStatusSdDbNoFreeSlot : JhiRet := 0x2402
def teeStatusSdTaInstallationUnallowed : JhiRet := 0x2403
def teeStatusSdTaDbNoFreeSlot : JhiRet := 0x2404
def teeStatusSdInvalidProperties : JhiRet := 0x2405
def teeStatusSdDoesNotExist : JhiRet := 0x2406
def teeStatusSdInstallUnallowed : JhiRet := 0x2407
def teeStatusPlatformAfterEom : JhiRet := 0x2500
def teeStatusMaxInvocations : JhiRet := 0x2501
def teeStatusCounterMismatch : JhiRet := 0x2502
def teeStatusTaEncryptionKeyNotSet : JhiRet := 0x2503
def teeStatusOmkNotProvisioned : JhiRet := 0x2504
def teeStatusTaEncryptionKeyInvalid : JhiRet := 0x2505

/-- The enumerators of `TEE_STATUS` that stand for an error. -/
def teeStatusErrors : List JhiRet := [
  teeStatusInternalError, teeStatusInvalidParams, teeStatusInvalidHandle, teeStatusInvalidUuid, teeStatusNoFwConnection,
  teeStatusUnsupportedPlatform, teeStatusServiceUnavailable, teeStatusRegistryError, teeStatusRepositoryError,
  teeStatusSpoolerMissing, teeStatusSpoolerInvalid, teeStatusPluginMissing, teeStatusPluginVerifyFailed,
  teeStatusInvalidPackage, teeStatusInvalidSignature, teeStatusMaxSvlRecords, teeStatusCmdFailureSessionsExists,
  teeStatusCmdFailure, teeStatusMaxTasReached, teeStatusMissingAccessControl, teeStatusTaDoesNotExist,
  teeStatusInvalidTaSvn, teeStatusIdenticalPackage, teeStatusIllegalPlatformId, teeStatusSvlCheckFail,
  teeStatusTaPlatformMismatch, teeStatusSdInterfaceDisabled, teeStatusSdPublickeyHashVerifyFail, teeStatusSdDbNoFreeSlot,
  teeStatusSdTaInstallationUnallowed, teeStatusSdTaDbNoFreeSlot, teeStatusSdInvalidProperties, teeStatusSdDoesNotExist,
  teeStatusSdInstallUnallowed, teeStatusPlatformAfterEom, teeStatusMaxInvocations, teeStatusCounterMismatch,
  teeStatusTaEncryptionKeyNotSet, teeStatusOmkNotProvisioned, teeStatusTaEncryptionKeyInvalid]

/-- `isJhiError`. -/
def isJhiError (error : JhiRet) : Bool := error < 0x2000

/-- `jhiErrorToTeeError`: a code that is not a JHI code passes unchanged. -/
def jhiErrorToTeeError (jhiError : JhiRet) : JhiRet :=
  if !isJhiError jhiError then jhiError
  else if jhiError = jhiSuccess then teeStatusSuccess
  else if jhiError = jhiInternalError then teeStatusInternalError
  else if jhiError = jhiInvalidParams then teeStatusInvalidParams
  else if jhiError = jhiInvalidAppletGuid then teeStatusInvalidUuid
  else if jhiError = jhiNoConnectionToFirmware then teeStatusNoFwConnection
  else if jhiError = jhiServiceUnavailable then teeStatusServiceUnavailable
  else if jhiError = jhiErrorRegistry then teeStatusRegistryError
  else if jhiError = jhiErrorRepositoryNotFound ∨ jhiError = jhiDeleteFromRepositoryFailure ∨
      jhiError = jhiFileErrorCopy then teeStatusRepositoryError
  else if jhiError = jhiSpoolerNotFound then teeStatusSpoolerMissing
  else if jhiError = jhiInvalidSpooler then teeStatusSpoolerInvalid
  else if jhiError = jhiVmDllFileNotFound then teeStatusPluginMissing
  else if jhiError = jhiVmDllVerifyFailed then teeStatusPluginVerifyFailed
  else if jhiError = jhiInvalidPackageFormat then teeStatusInvalidPackage
  else if jhiError = jhiFileErrorAuth then teeStatusInvalidSignature
  else if jhiError = jhiMissingAccessControl then teeStatusMissingAccessControl
  else if jhiError = jhiMaxInstalledAppletsReached then teeStatusMaxTasReached
  else if jhiError = jhiInstallFailureSessionsExists ∨ jhiError = jhiUninstallFailureSessionsExists then
    teeStatusCmdFailureSessionsExists
  else if jhiError = jhiSvlCheckFail then teeStatusInvalidTaSvn
  else if jhiError = jhiAppletNotInstalled then teeStatusTaDoesNotExist
  else if jhiError = jhiFileIdentical then teeStatusIdenticalPackage
  else if jhiError = jhiInstallFailed then teeStatusCmdFailure
  else if jhiError = jhiIllegalPlatformId then teeStatusIllegalPlatformId
  else teeStatusInternalError

/-! ### Limits -/

def jhiBufferMax : Nat := 2097152
def filenameMax : Nat := 4096
def lenAppId : Nat := 32
def maxSessionOwners : Nat := 20
def maxEventsDataInQueue : Nat := 100
def jhiEventHandleSize : Nat := 88

/-- A session that answered with one of these codes is gone from the VM. -/
def sessionDied (code : JhiRet) : Bool :=
  code = jhiAppletFatal ∨ code = jhiAppletTimeout ∨ code = jhiInvalidSessionHandle

/-- Codes of a close after which the VM no longer has the session. -/
def closedInVm (code : JhiRet) : Bool := code = jhiSuccess ∨ sessionDied code

end DalHost

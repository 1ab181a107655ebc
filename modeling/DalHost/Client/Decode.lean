import DalHost.Client.Encode
import DalHost.Lib.Scan

/-!
# The responses as the client library reads them

For every `CommandInvoker::Jhis*` function the part that comes after the request was sent: the
checks on the response, in the order of the source, the code the function returns and its OUT
parameters. `break` and `goto error` leave with a result, so a decoder stops with a `ClientResult`
as well as it ends with one. Sizes are compared in 64 bits, where the sums below do not wrap;
subtractions of sizes and copies are logged.
-/

namespace DalHost

open Scan

/-- What a function has written to its OUT parameters. -/
inductive ClientOut
  | none
  | sessionCount (count : UInt32)
  | sessionId (id : Bytes)
  /-- The 88 bytes of a `JHI_SESSION_INFO`. -/
  | sessionInfo (info : Bytes)
  | event (dataType : UInt8) (size : UInt32) (data : Option Bytes)
  /-- The new receive length and the receive buffer, where they are set, and the response code. -/
  | exchange (size : Option UInt32) (data : Option Bytes) (responseCode : UInt32)
  | property (size : Option UInt32) (data : Option Bytes)
  /-- The 188 bytes of a `JHI_VERSION_INFO`. -/
  | version (info : Bytes)
  | sdHandle (handle : VmHandle)
  /-- `uuidCount`, and the buffer of the ids. -/
  | uuids (count : UInt8) (ids : Bytes)
  | metadata (bytes : Bytes)
  /-- The copy of the table, and where in it each row's `ownersList` points to. -/
  | sessionTable (table : Bytes) (ownersLists : List Int)
  | loadedApplets (guids : List Bytes)

structure ClientResult where
  retCode : JhiRet
  out : ClientOut

/-- A code alone. -/
def ClientResult.code (retCode : JhiRet) : ClientResult := ⟨retCode, .none⟩

/-- The result of a decoder, however it ends. -/
def received (x : Scan ClientResult ClientResult) (m : Nat → UInt8) : ClientResult :=
  match x.answer m with
  | .ok r => r
  | .error r => r

section Receive

variable (n : UInt32)

/-! ### Shared steps -/

/-- `outputBufferSize < sizeof(JHI_RESPONSE)`. -/
def checkHeader (r : ClientResult) : Scan ClientResult Unit := check (sizeofJhiResponse ≤ n.toNat) r

/-- `outputBufferSize != res->dataLength`. -/
def checkOutputSize (r : ClientResult) : Scan ClientResult Unit := do
  let dataLength ← u32 4
  check (dataLength = n) r

/-- The functions that expect nothing but a code. -/
def receiveCode (internalError : JhiRet) : Scan ClientResult JhiRet := do
  check (n.toNat = sizeofJhiResponse) (.code internalError)
  checkOutputSize n (.code internalError)
  u32 0

/-- The functions that read their OUT parameter when the response has its one size, whatever the code. -/
def receiveSized (internalError : JhiRet) (size : UInt32) (out : Scan ClientResult ClientOut) :
    Scan ClientResult (JhiRet × ClientOut) := do
  checkHeader n (.code internalError)
  checkOutputSize n (.code internalError)
  let out ← (if n = size then out else pure .none)
  let retCode ← u32 0
  return (retCode, out)

/-- The copy into a buffer of the caller, under a condition. -/
def copyOut (c : Prop) [Decidable c] (off : Nat) (size : UInt32) (capacity : Nat) : Scan ClientResult (Option Bytes) :=
  if c then do
    note (.copy size.toNat capacity)
    return some (← bytes off size.toNat)
  else pure none

/-! ### Applets and sessions -/

/-- `JhisInit`, `JhisInstall`, `JhisUninstall`, `JhisCloseSession`, `JhisSetSessionEventHandler`. -/
def receiveJhiCode : Scan ClientResult ClientResult := do
  let retCode ← receiveCode n jhiInternalError
  return .code retCode

/-- `JhisGetSessionsCount`. -/
def receiveGetSessionsCount : Scan ClientResult ClientResult := do
  let r ← receiveSized n jhiInternalError (UInt32.ofNat sizeofJhiResponse + sizeofResGetSessionsCount)
    (do return .sessionCount (← u32 8))
  return ⟨r.1, r.2⟩

/-- `JhisCreateSession`. -/
def receiveCreateSession : Scan ClientResult ClientResult := do
  let r ← receiveSized n jhiInternalError (UInt32.ofNat sizeofJhiResponse + sizeofResCreateSession)
    (do return .sessionId (← bytes 8 16))
  return ⟨r.1, r.2⟩

/-- `JhisGetSessionInfo`. -/
def receiveGetSessionInfo : Scan ClientResult ClientResult := do
  let r ← receiveSized n jhiInternalError (UInt32.ofNat sizeofJhiResponse + sizeofResGetSessionInfo)
    (do return .sessionInfo (← bytes 8 88))
  return ⟨r.1, r.2⟩

/-- `JhisGetEventData`. Type and size are set before the size is compared. -/
def receiveGetEventData : Scan ClientResult ClientResult := do
  checkHeader n (.code jhiInternalError)
  checkOutputSize n (.code jhiInternalError)
  if n.toNat < sizeofJhiResponse + sizeofResGetEventData.toNat then
    if n.toNat = sizeofJhiResponse then return .code (← u32 0)
    else return .code jhiInternalError
  else
    let dataType ← u8 12
    let size ← u32 8
    check (n.toNat = sizeofJhiResponse + sizeofResGetEventData.toNat + size.toNat)
      ⟨jhiInternalError, .event dataType size none⟩
    let retCode ← u32 0
    if 0 < size then
      note (.copy size.toNat size.toNat)
      return ⟨retCode, .event dataType size (some (← bytes 13 size.toNat))⟩
    else return ⟨retCode, .event dataType size none⟩

/-- `JhisSendAndRecv`, with the capacity of the caller's buffer. -/
def receiveSendAndRecv (recvBufferSize : UInt32) : Scan ClientResult ClientResult := do
  checkHeader n (.code jhiInternalError)
  checkOutputSize n (.code jhiInternalError)
  let retCode ← u32 0
  if n.toNat = sizeofJhiResponse then return .code retCode
  else if retCode = jhiInternalError ∨ retCode = jhiInvalidBufferSize then return .code retCode
  else
    check (sizeofJhiResponse + sizeofResSendAndRecieve.toNat ≤ n.toNat) (.code jhiInternalError)
    let size ← u32 12
    check (n.toNat = sizeofJhiResponse + sizeofResSendAndRecieve.toNat +
      if retCode = jhiSuccess then size.toNat else 0) (.code jhiInternalError)
    let data ← copyOut (retCode = jhiSuccess ∧ 0 < size ∧ size ≤ recvBufferSize) 16 size recvBufferSize.toNat
    let responseCode ← u32 8
    return ⟨retCode, .exchange (if retCode = jhiSuccess ∨ retCode = jhiInsufficientBuffer then some size else none)
      data responseCode⟩

/-- `JhisGetAppletProperty`. The caller has allocated one byte more than it declares, and nothing for
a length of zero. -/
def receiveGetAppletProperty (recvBufferSize : UInt32) : Scan ClientResult ClientResult := do
  checkHeader n (.code jhiInternalError)
  checkOutputSize n (.code jhiInternalError)
  let retCode ← u32 0
  if n.toNat = sizeofJhiResponse then return .code retCode
  else if retCode = jhiInternalError ∨ retCode = jhiInvalidBufferSize then return .code retCode
  else
    check (sizeofJhiResponse + sizeofResGetAppletProperty.toNat ≤ n.toNat) (.code jhiInternalError)
    let size ← u32 8
    check (n.toNat = sizeofJhiResponse + sizeofResGetAppletProperty.toNat +
      if retCode = jhiSuccess then size.toNat else 0) (.code jhiInternalError)
    let data ← copyOut (retCode = jhiSuccess ∧ 0 < size ∧ size ≤ recvBufferSize + 1 ∧ recvBufferSize ≠ 0) 12 size
      (recvBufferSize.toNat + 1)
    if retCode = jhiSuccess ∨ retCode = jhiInsufficientBuffer then
      -- the length is returned as characters
      note (.sub size.toNat 1)
      return ⟨retCode, .property (some (size - 1)) data⟩
    else return ⟨retCode, .property none data⟩

/-- `JhisGetVersionInfo`. -/
def receiveGetVersionInfo : Scan ClientResult ClientResult := do
  checkHeader n (.code jhiInternalError)
  let retCode ← u32 0
  check (retCode = jhiSuccess → n.toNat = sizeofJhiResponse + sizeofVersionInfo.toNat) (.code jhiInternalError)
  check (retCode ≠ jhiSuccess → n.toNat = sizeofJhiResponse) (.code jhiInternalError)
  checkOutputSize n (.code jhiInternalError)
  if retCode = jhiSuccess then return ⟨retCode, .version (← bytes 8 sizeofVersionInfo.toNat)⟩
  else return .code retCode

/-! ### Security domains -/

/-- `JhisOpenSDSession`. -/
def receiveOpenSDSession : Scan ClientResult ClientResult := do
  let r ← receiveSized n teeStatusInternalError
    (UInt32.ofNat sizeofJhiResponse - 1 + sizeofResCreateSDSession) (do return .sdHandle (← u64 8))
  return ⟨jhiErrorToTeeError r.1, r.2⟩

/-- `JhisCloseSDSession`, which clears the caller's handle on success. -/
def receiveCloseSDSession : Scan ClientResult ClientResult := do
  let retCode ← receiveCode n teeStatusInternalError
  let ret := jhiErrorToTeeError retCode
  return ⟨ret, if ret = teeStatusSuccess then .sdHandle 0 else .none⟩

/-- `JhisSendAdminCmdPkg`. -/
def receiveSendAdminCmdPkg : Scan ClientResult ClientResult := do
  let retCode ← receiveCode n teeStatusInternalError
  return .code (jhiErrorToTeeError retCode)

/-- The checks that the other functions share: a response with an error code is not looked at further. -/
def receiveSuccess (error : JhiRet → ClientResult) : Scan ClientResult Unit := do
  checkHeader n (error teeStatusInternalError)
  let retCode ← u32 0
  check (retCode = jhiSuccess) (error (jhiErrorToTeeError retCode))
  checkOutputSize n (error teeStatusInternalError)

/-- `validateUuidList`: `count` entries of the buffer. -/
def validateUuidList (count : Nat) (ids : Bytes) : Bool :=
  (List.range count).all fun i => validateUuidChar ((ids.drop (33 * i)).take 33)

/-- After an error the list is empty. -/
def noUuids (retCode : JhiRet) : ClientResult := ⟨retCode, .uuids 0 []⟩

/-- The end of both list functions: `dataLength` bytes are copied from where the ids start. -/
def takeUuids (count : UInt32) : Scan ClientResult ClientResult := do
  note (.copy n.toNat n.toNat)
  let ids ← bytes 12 n.toNat
  check (validateUuidList count.toUInt8.toNat ids = true) (noUuids teeStatusInternalError)
  return ⟨teeStatusSuccess, .uuids count.toUInt8 ids⟩

/-- `JhisListInstalledTAs`. -/
def receiveListInstalledTAs : Scan ClientResult ClientResult := do
  receiveSuccess n noUuids
  note (.sub n.toNat 13)
  let dataBufferLen := n - 13
  let count ← u32 8
  check (dataBufferLen = 33 * count) (noUuids teeStatusInternalError)
  takeUuids n count

/-- `JhisListInstalledSDs`, which also looks at the last byte of the ids. -/
def receiveListInstalledSDs : Scan ClientResult ClientResult := do
  receiveSuccess n noUuids
  note (.sub n.toNat 13)
  let dataBufferLen := n - 13
  let count ← u32 8
  check (dataBufferLen = 33 * count) (noUuids teeStatusInternalError)
  note (.sub dataBufferLen.toNat 1)
  let last ← u8 (12 + (dataBufferLen - 1).toNat)
  check (last = 0) (noUuids teeStatusInternalError)
  takeUuids n count

/-- `JhisQueryTEEMetadata`; the length is a `size_t`. -/
def receiveQueryTEEMetadata (maxLength : Nat) : Scan ClientResult ClientResult := do
  receiveSuccess n .code
  note (.sub n.toNat 12)
  let dataBufferLen := (n.toUInt64 - 12).toNat
  check (maxLength ≤ dataBufferLen) (.code teeStatusInternalError)
  note (.copy maxLength maxLength)
  return ⟨teeStatusSuccess, .metadata (← bytes 12 maxLength)⟩

/-- `JhisProvisionOemMasterKey`, `JhisSetTAEncryptionKey`. -/
def receiveKeyStatus : Scan ClientResult ClientResult := do
  receiveSuccess n .code
  return .code teeStatusSuccess

/-! ### The emulation -/

/-- The checks of the two functions below. -/
def receiveTable (sizeofRes : UInt32) : Scan ClientResult Unit := do
  check (sizeofJhiResponse + sizeofRes.toNat ≤ n.toNat) (.code jhiInternalError)
  let retCode ← u32 0
  check (retCode = jhiSuccess) (.code retCode)
  checkOutputSize n (.code jhiInternalError)

/-- The loop that sets the pointers of `k` rows from row `i` on, in a copy of `tableSize` bytes: row `i`
starts at 16 + 152 * `i` of the copy, its `ownersListCount` at 56 and its `ownersList` at 64. -/
def setOwnersLists (tableSize : Nat) : Nat → Nat → Int → Scan ClientResult (List Int)
  | 0, _, _ => pure []
  | k + 1, i, ownersListsOffset => do
    note (.copy (16 + 152 * i + 72) tableSize)
    let ownersListCount ← u32 (8 + 16 + 152 * i + 56)
    let rest ← setOwnersLists tableSize k (i + 1) (ownersListsOffset + 12 * ownersListCount.toNat)
    return ownersListsOffset :: rest

/-- `JhisGetSessionTable`. -/
def receiveGetSessionTable : Scan ClientResult ClientResult := do
  receiveTable n sizeofResGetSessionsDataTable
  note (.sub n.toNat sizeofJhiResponse)
  let tableSize := n.toNat - sizeofJhiResponse
  note (.copy tableSize tableSize)
  let table ← bytes 8 tableSize
  let sessionsCount ← u32 8
  -- `sessionInfoSize` is an `int`
  let sessionInfoSize := (152 * sessionsCount.toNat : Int).bmod (2 ^ 32)
  let ownersLists ← setOwnersLists tableSize sessionsCount.toNat 0 (16 + sessionInfoSize)
  return ⟨jhiSuccess, .sessionTable table ownersLists⟩

/-- `strcpy_s` from an offset: it reads up to the terminator. -/
def copyText (off size : Nat) : Scan ClientResult Bytes := fun m =>
  (.ok (strncpy size (slice m off size)), [.read off (min size ((cString (slice m off size)).length + 1))])

/-- The loop that copies `k` ids from entry `i` on. -/
def copyGuids : Nat → Nat → Scan ClientResult (List Bytes)
  | 0, _ => pure []
  | k + 1, i => do
    let guid ← copyText (24 + 33 * i) (lenAppId + 1)
    let rest ← copyGuids k (i + 1)
    return guid :: rest

/-- `JhisGetLoadedAppletsList`. -/
def receiveGetLoadedAppletsList : Scan ClientResult ClientResult := do
  receiveTable n sizeofResGetLoadedApplets
  let _ ← bytes 8 16
  let loadedAppletsCount ← u32 8
  let guids ← copyGuids loadedAppletsCount.toNat 0
  return ⟨jhiSuccess, .loadedApplets guids⟩

/-- The response of a `Jhis*` function. -/
def receive : ClientCall → Scan ClientResult ClientResult
  | .init | .install .. | .uninstall _ | .closeSession .. | .setSessionEventHandler .. => receiveJhiCode n
  | .getSessionsCount _ => receiveGetSessionsCount n
  | .createSession .. => receiveCreateSession n
  | .getSessionInfo _ => receiveGetSessionInfo n
  | .getEventData _ => receiveGetEventData n
  | .sendAndRecv _ _ _ recvBufferSize => receiveSendAndRecv n recvBufferSize
  | .getAppletProperty _ _ recvBufferSize => receiveGetAppletProperty n recvBufferSize
  | .getVersionInfo => receiveGetVersionInfo n
  | .openSDSession _ => receiveOpenSDSession n
  | .closeSDSession _ => receiveCloseSDSession n
  | .sendAdminCmdPkg .. => receiveSendAdminCmdPkg n
  | .listInstalledTAs _ => receiveListInstalledTAs n
  | .listInstalledSDs _ => receiveListInstalledSDs n
  | .queryTEEMetadata maxLength => receiveQueryTEEMetadata n maxLength
  | .provisionOemMasterKey _ | .setTAEncryptionKey _ => receiveKeyStatus n
  | .getSessionTable => receiveGetSessionTable n
  | .getLoadedAppletsList => receiveGetLoadedAppletsList n

end Receive

end DalHost

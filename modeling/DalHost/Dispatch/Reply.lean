import DalHost.Common.Layout
import DalHost.Common.Message
import DalHost.Service.Calls

/-!
# The responses the service builds

For every command the part of its `Invoke*` handler that comes after the call: how many bytes are
allocated and what is stored in them. `respond` is the response to an answer of the service and
`refuse` the response to a request that a check of the handler has turned down.
-/

namespace DalHost

/-! ### Headers -/

/-- The store of a `JHI_RESPONSE`; its last byte is `data[0]`. -/
def headerStore (retCode dataLength : UInt32) (data : Cell Junk) : Nat × List (Cell Junk) :=
  (0, Cell.ofBytes (le32 retCode ++ le32 dataLength) ++ [data])

/-- A response: the header, whose `data[0]` no handler but one sets, and the stores into the body. -/
def response (retCode dataLength : UInt32) (body : List (Nat × List (Cell Junk))) : Message :=
  ⟨dataLength, headerStore retCode dataLength (.raw (.stack 8)) :: body⟩

theorem take_bytes_of_headerStore {size retCode dataLength : UInt32} {data : Cell Junk}
    {body : List (Nat × List (Cell Junk))} (hbody : ∀ w ∈ body, 8 ≤ w.1) (hsize : 8 ≤ size.toNat)
    (ρ : Junk → UInt8) :
    (Message.bytes ⟨size, headerStore retCode dataLength data :: body⟩ ρ).take 8 =
      le32 retCode ++ le32 dataLength := by
  have hcell : ∀ i, i < 8 → Message.cell ⟨size, headerStore retCode dataLength data :: body⟩ i =
      store (fun i => .raw (.heap i)) 0 (headerStore retCode dataLength data).2 i := by
    intro i hi
    unfold Message.cell
    rw [storeAll_cons]
    refine storeAll_apply_of_outside fun w hw => .inl ?_
    have hw8 := hbody w hw
    omega
  unfold Message.bytes
  rw [take_slice _ _ hsize, slice_congr fun i hi => by rw [Nat.zero_add, hcell i hi], slice_map,
    slice_store_of_subset _ _ _ le_rfl (by simp [headerStore])]
  rw [Nat.sub_self, List.drop_zero, List.map_take, headerStore, List.map_append, Cell.map_render_ofBytes]
  exact List.take_left' (by simp)

/-- The response starts with this return code. -/
def Message.Carries (o : Message) (retCode : JhiRet) : Prop := ∀ ρ, (o.bytes ρ).take 4 = le32 retCode

theorem carries_of_headerStore {size retCode dataLength : UInt32} {data : Cell Junk}
    {body : List (Nat × List (Cell Junk))} (hbody : ∀ w ∈ body, 8 ≤ w.1) (hsize : 8 ≤ size.toNat) :
    Message.Carries ⟨size, headerStore retCode dataLength data :: body⟩ retCode := by
  intro ρ
  rw [← @List.take_left' _ (le32 retCode) (le32 dataLength) 4 (length_le32 retCode), ← take_bytes_of_headerStore hbody hsize ρ,
    List.take_take]
  rfl

/-! ### Commands on applets and sessions -/

/-- The response of the commands that answer nothing but a code. -/
def respondCode (retCode : JhiRet) : Message := response retCode (UInt32.ofNat sizeofJhiResponse) []

/-- `InvokeGetSessionsCount`. -/
def respondGetSessionsCount (retCode : JhiRet) (count : UInt32) : Message :=
  response retCode (UInt32.ofNat sizeofJhiResponse + sizeofResGetSessionsCount) [(8, Cell.ofBytes (le32 count))]

/-- `InvokeCreateSession`. -/
def respondCreateSession (retCode : JhiRet) (sessionId : Option SessionId) : Message :=
  response retCode (UInt32.ofNat sizeofJhiResponse + sizeofResCreateSession)
    [(8, Cell.ofBytes ((sessionId.map SessionId.bytes).getD (List.replicate 16 0)))]

/-- `JHI_SESSION_STATE` on the wire. -/
def SessionState.code : SessionState → UInt32
  | .active => 0
  | .notExists => 1

/-- `InvokeGetSessionInfo`. -/
def respondGetSessionInfo (retCode : JhiRet) (state flags : UInt32) : Message :=
  response retCode (UInt32.ofNat sizeofJhiResponse + sizeofResGetSessionInfo)
    [(8, Cell.ofBytes (le32 state ++ le32 flags ++ List.replicate 80 0))]

/-- `InvokeGetSessionEventData`, given the `DataType` it stores and the data. -/
def respondGetSessionEventData (retCode : JhiRet) (dataType : Cell Junk) (data : Bytes) : Message :=
  let datalen := UInt32.ofNat data.length
  response retCode (UInt32.ofNat sizeofJhiResponse + sizeofResGetEventData + datalen)
    [(8, Cell.ofBytes (le32 datalen) ++ [dataType, .byte 0]), (13, Cell.ofBytes (data.take datalen.toNat))]

section SendAndRecieve

variable (rxLen : UInt32) (answer : Option SarAnswer)

/-- `RxBuf->length` after the call; without an exchange it is the size of the receive buffer. -/
def recvBufferSize : UInt32 := (answer.map SarAnswer.length).getD rxLen

/-- The receive buffer after the call; it was cleared before it. -/
def recvBuffer : Bytes :=
  (((answer.map SarAnswer.written).getD []) ++ List.replicate rxLen.toNat 0).take rxLen.toNat

/-- `InvokeSendAndRecieve` after the call; `rxLen` is the size of the receive buffer. -/
def respondSendAndRecieve (retCode : JhiRet) : Message :=
  let size := recvBufferSize rxLen answer
  let responseCode := (answer.map SarAnswer.responseCode).getD 0
  response retCode (UInt32.ofNat sizeofJhiResponse + sizeofResSendAndRecieve + if retCode = jhiSuccess then size else 0)
    (if retCode = jhiInternalError ∨ retCode = jhiInvalidBufferSize then []
    else (8, Cell.ofBytes (le32 responseCode ++ le32 size ++ [0])) ::
      -- copy only if the returned size can fit the given buffer
      if retCode = jhiSuccess ∧ 0 < size ∧ size ≤ rxLen then
        [(16, Cell.ofBytes ((recvBuffer rxLen answer).take size.toNat))]
      else [])

end SendAndRecieve

/-- The receive buffer of a property query; it is not cleared before the call. -/
def propertyBuffer (rxLen : UInt32) : Option Bytes → List (Cell Junk)
  | some text => Cell.ofBytes (strncpy rxLen.toNat text)
  | none => raws .rx rxLen.toNat

/-- `InvokeGetAppletProperty` after the call. -/
def respondGetAppletProperty (rxLen : UInt32) (result : PropertyResult) : Message :=
  response result.retCode (UInt32.ofNat sizeofJhiResponse + sizeofResGetAppletProperty +
      if result.retCode = jhiSuccess then result.length else 0)
    (if result.retCode = jhiSuccess ∨ result.retCode = jhiInsufficientBuffer then
      (8, Cell.ofBytes (le32 result.length ++ [0])) ::
      -- copy only if the returned size can fit in the given buffer
      if result.retCode = jhiSuccess ∧ 0 < result.length ∧ result.length ≤ rxLen then
        [(12, (propertyBuffer rxLen result.text).take result.length.toNat)]
      else []
    else [])

/-- The `JHI_VERSION_INFO` that `InvokeGetVersionInfo` fills in on its stack. -/
def versionInfoCells (info : VersionInfo) : List (Cell Junk) :=
  Cell.ofBytes (strncpy versionBufferSize info.jhiVersion) ++
  (Cell.ofBytes (cString info.fwVersion ++ [0]) ++ raws .stack versionBufferSize).take versionBufferSize ++
  Cell.ofBytes (le32 info.commType ++ le32 info.platformId ++ le32 info.vmType) ++
  raws (fun i => .stack (versionBufferSize + i)) 76

/-- `InvokeGetVersionInfo`. -/
def respondGetVersionInfo (info : VersionInfo) : Message :=
  response jhiSuccess (UInt32.ofNat sizeofJhiResponse + sizeofVersionInfo) [(8, versionInfoCells info)]

/-! ### Commands on security domains -/

/-- `InvokeOpenSDSession`. A success without a handle becomes an error, but the size stays. -/
def respondOpenSDSession (retCode : JhiRet) (sdHandle : VmHandle) : Message :=
  if retCode = teeStatusSuccess then
    let dataLength := UInt32.ofNat sizeofJhiResponse - 1 + sizeofResCreateSDSession
    if sdHandle = 0 then response teeStatusInternalError dataLength []
    else response retCode dataLength [(8, Cell.ofBytes (le64 sdHandle))]
  else respondCode retCode

/-- `InvokeListInstalledTAs`, `InvokeListInstalledSDs`: the count, and the ids one after the other with
a terminator at the end. -/
def respondListInstalled (retCode : JhiRet) (uuids : List Bytes) : Message :=
  if retCode = teeStatusSuccess then
    let count := UInt32.ofNat uuids.length
    let ids := (uuids.take count.toNat).flatMap (strncpy (lenAppId + 1))
    response retCode ((UInt32.ofNat sizeofJhiResponse - 1) + (sizeofResListInstalled - 1) +
        count * (UInt32.ofNat lenAppId + 1) + 1)
      ((8, Cell.ofBytes (le32 count ++ [0])) ::
        if 0 < count then [(12, Cell.ofBytes (ids ++ [0]))] else [])
  else respondCode retCode

/-- `InvokeQueryTeeMetadata`, the one handler that clears its `JHI_RESPONSE`. -/
def respondQueryTeeMetadata (retCode : JhiRet) (metadata : Bytes) : Message :=
  if retCode = teeStatusSuccess then
    let length := UInt32.ofNat metadata.length
    let dataLength := (UInt32.ofNat sizeofJhiResponse - 1) + (sizeofResQueryTeeMetadata - 1) + length
    ⟨dataLength, [headerStore retCode dataLength (.byte 0), (8, Cell.ofBytes (le32 length ++ [0])),
      (12, Cell.ofBytes (metadata.take length.toNat))]⟩
  else
    let dataLength := UInt32.ofNat sizeofJhiResponse
    ⟨dataLength, [headerStore retCode dataLength (.byte 0)]⟩

/-! ### Commands of the emulation -/

/-- An error of the two handlers below: they leave `dataLength` at zero. -/
def respondEmulationError (retCode : JhiRet) : Message :=
  ⟨UInt32.ofNat sizeofJhiResponse, [headerStore retCode 0 (.raw (.stack 8))]⟩

/-- The count, the padding and the pointer of the two bodies below. -/
def countAndPointer (count : UInt32) : List (Cell Junk) :=
  Cell.ofBytes (le32 count) ++ raws .stack 4 ++ raws .address 8

/-- One row of the table, as `getSessionExtendedInfo` makes it and with its pointer redirected. -/
def sessionExtendedInfo (record : SessionRecord) : List (Cell Junk) :=
  Cell.ofBytes record.sessionId.bytes ++
  (Cell.ofBytes (record.appId ++ [0]) ++ raws .stack 32).take 32 ++
  Cell.ofBytes (le32 record.sessionFlags ++ le32 record.state.code ++
    le32 (UInt32.ofNat record.ownersList.length)) ++
  raws (fun i => .stack (32 + i)) 4 ++ raws .address 8 ++ raws (fun i => .stack (36 + i)) 80

/-- The size that `InvokeGetSessionDataTable` allocates: the rows, and the owners of all rows. -/
def sessionTableSize (rows : List SessionRecord) : UInt32 :=
  UInt32.ofNat sizeofJhiResponse + sizeofResGetSessionsDataTable +
    sizeofSessionExtendedInfo * UInt32.ofNat rows.length +
    sizeofProcessInfo * UInt32.ofNat (rows.flatMap SessionRecord.ownersList).length

/-- `InvokeGetSessionDataTable`: the rows, and behind them the owners of one row after the other. -/
def respondGetSessionDataTable (retCode : JhiRet) (table : List SessionRecord) : Message :=
  if retCode ≠ jhiSuccess then respondEmulationError retCode
  else
    let count := UInt32.ofNat table.length
    let rows := table.take count.toNat
    response retCode (sessionTableSize rows)
      [(8, countAndPointer count), (24, rows.flatMap sessionExtendedInfo),
        (24 + 152 * rows.length, Cell.ofBytes ((rows.flatMap SessionRecord.ownersList).flatMap processInfoBytes))]

/-- The size that `InvokeGetLoadedApplets` allocates. -/
def loadedAppletsSize (count : UInt32) : UInt32 :=
  UInt32.ofNat sizeofJhiResponse + sizeofResGetLoadedApplets + count * (UInt32.ofNat lenAppId + 1)

/-- `InvokeGetLoadedApplets`. -/
def respondGetLoadedApplets (retCode : JhiRet) (applets : List Bytes) : Message :=
  if retCode ≠ jhiSuccess then respondEmulationError retCode
  else
    let count := UInt32.ofNat applets.length
    response retCode (loadedAppletsSize count)
      [(8, countAndPointer count),
        (24, Cell.ofBytes ((applets.take count.toNat).flatMap (strncpy (lenAppId + 1))))]

/-! ### All commands -/

/-- The response to the answer of a call. -/
def respond : (c : Call) → Answer c → Message
  | .install .., retCode | .uninstall .., retCode | .closeSession .., retCode
  | .setSessionEventHandler .., retCode | .sendCmdPkg .., retCode | .closeSDSession .., retCode
  | .provisionOemMasterKey .., retCode | .setTAEncryptionKey .., retCode => respondCode retCode
  | .sendAndRecieve _ _ _ rxLen, a => respondSendAndRecieve rxLen a.2 a.1
  | .createSession .., a => respondCreateSession a.1 a.2
  | .getSessionsCount _, a => respondGetSessionsCount a.1 a.2
  | .getSessionInfo _, a => respondGetSessionInfo a.1 a.2.1.code a.2.2
  | .getSessionEventData _, a =>
    match a.2 with
    | some event => respondGetSessionEventData a.1 (.byte event.dataType.toUInt8) event.data
    | none => respondGetSessionEventData a.1 (.raw (.stack 0)) []
  | .getAppletProperty _ _ rxLen, a => respondGetAppletProperty rxLen a
  | .getVersionInfo, info => respondGetVersionInfo info
  | .openSDSession _, a => respondOpenSDSession a.1 a.2
  | .listInstalledTAs _, a | .listInstalledSDs _, a => respondListInstalled a.1 a.2
  | .queryTeeMetadata, a => respondQueryTeeMetadata a.1 a.2
  | .getSessionsDataTable, a => respondGetSessionDataTable a.1 a.2
  | .getLoadedApplets, a => respondGetLoadedApplets a.1 a.2

/-! ### Sizes -/

theorem length_strncpy (n : Nat) (src : Bytes) : (strncpy n src).length = n := by
  simp [strncpy]

theorem length_versionInfoCells (info : VersionInfo) : (versionInfoCells info).length = 188 := by
  simp [versionInfoCells, length_strncpy, versionBufferSize]

theorem toNat_add_of_toNat {a : UInt32} {k : Nat} (h : a.toNat = k) (b : UInt32) :
    (a + b).toNat = (k + b.toNat) % 2 ^ 32 := by
  rw [UInt32.toNat_add, h]

theorem toNat_add_entries {a : UInt32} {k : Nat} (h : a.toNat = k) (count : UInt32) :
    (a + count * (UInt32.ofNat lenAppId + 1)).toNat = (k + 33 * count.toNat) % 2 ^ 32 := by
  have hentry : (UInt32.ofNat lenAppId + 1).toNat = 33 := by decide
  rw [UInt32.toNat_add, UInt32.toNat_mul, h, hentry]
  omega

theorem length_take_toNat {α : Type} (l : List α) :
    (l.take (UInt32.ofNat l.length).toNat).length = (UInt32.ofNat l.length).toNat := by
  rw [List.length_take, UInt32.toNat_ofNat']
  have hmod := Nat.mod_le l.length (2 ^ 32)
  omega

/-! ### Refusals -/

/-- The response to a request that fails a check of its handler. A request for the session table that
does leaves without a response. -/
def refuse : CommandId → JhiRet → Option Message
  | .getSessionsCount, retCode => some (respondGetSessionsCount retCode 0)
  | .createSession, retCode => some (respondCreateSession retCode none)
  | .getSessionInfo, retCode => some (respondGetSessionInfo retCode 0 0)
  | .getEventData, retCode => some (respondGetSessionEventData retCode (.byte 0) [])
  | .getVersionInfo, retCode =>
    some (response retCode (UInt32.ofNat sizeofJhiResponse + sizeofVersionInfo) [])
  | .queryTeeMetadata, retCode => some (respondQueryTeeMetadata retCode [])
  | .getSessionsDataTable, _ => none
  | .getLoadedApplets, retCode => some (respondEmulationError retCode)
  | _, retCode => some (respondCode retCode)

theorem refuse_isSome {id : CommandId} (hid : id ≠ .getSessionsDataTable) (retCode : JhiRet) :
    ∃ o, refuse id retCode = some o := by
  cases id with
  | getSessionsDataTable => exact absurd rfl hid
  | _ => exact ⟨_, rfl⟩

theorem respondCode_carries (retCode : JhiRet) : (respondCode retCode).Carries retCode :=
  carries_of_headerStore (by simp) (by decide)

theorem refuse_carries {id : CommandId} (hid : id ≠ .getSessionsDataTable) {retCode : JhiRet}
    (hret : retCode ≠ jhiSuccess) : ∃ o, refuse id retCode = some o ∧ o.Carries retCode := by
  cases id with
  | getSessionsDataTable => exact absurd rfl hid
  | getSessionsCount | createSession | getSessionInfo | getEventData =>
    exact ⟨_, rfl, carries_of_headerStore (by simp) (by decide)⟩
  | getVersionInfo | getLoadedApplets => exact ⟨_, rfl, carries_of_headerStore (by simp) (by decide)⟩
  | queryTeeMetadata =>
    refine ⟨_, rfl, ?_⟩
    unfold respondQueryTeeMetadata
    rw [if_neg (by exact hret)]
    exact carries_of_headerStore (by simp) (by decide)
  | _ => exact ⟨_, rfl, respondCode_carries retCode⟩

end DalHost

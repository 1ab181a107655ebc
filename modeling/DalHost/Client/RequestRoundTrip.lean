import DalHost.Client.Encode
import DalHost.Dispatch.Process

/-!
# Requests arrive as they were sent

The encoder of every `Jhis*` function behind the API against the handler of its command. A request
is first read field by field in the sender's buffer (`fields_*`), where a later store may overwrite
an earlier one; the handler then finds the same fields in the buffer it received (`accepted_*`).
`requestRoundTrip` puts the checks of the API in front: what it accepts and forwards, the service
asks of itself with the same arguments, except for the one applet the service keeps for itself and,
for a property, at the limit of the buffer sizes, which the two sides count differently.
-/

namespace DalHost

open Scan

/-! ### The fields of a request -/

section Fields

variable (ρ : Junk → UInt8)

theorem memory_command (id : CommandId) (n : UInt32) (body : List (Nat × List (Cell Junk))) :
    (command id n body).memory ρ = storeAll (store (fun i => ρ (.heap i)) 0
      (id.toByte :: le32 n ++ [ρ (.stack 0)])) (body.map fun w => (w.1, w.2.map (Cell.render ρ))) := by
  rw [Message.memory_eq]
  simp [command, Cell.render]

theorem slice_header {id : CommandId} {n : UInt32} {body : List (Nat × List (Cell Junk))}
    (hbody : ∀ w ∈ body, 5 ≤ w.1) : slice ((command id n body).memory ρ) 0 5 = id.toByte :: le32 n := by
  have hheader : slice ((command id n body).memory ρ) 0 5 =
      slice (store (fun i => ρ (.heap i)) 0 (id.toByte :: le32 n ++ [ρ (.stack 0)])) 0 5 := by
    rw [memory_command]
    refine slice_congr fun i hi => storeAll_apply_of_outside fun w hw => .inl ?_
    obtain ⟨v, hv, rfl⟩ := List.mem_map.1 hw
    have hv5 := hbody v hv
    simp only
    omega
  rw [hheader, slice_store_of_subset _ _ _ le_rfl (by simp), Nat.sub_self, List.drop_zero]
  exact List.take_left' (by simp)

theorem slice_body (id : CommandId) (n : UInt32) (bs : Bytes) {len : Nat} (hlen : len = bs.length) :
    slice ((command id n [(5, Cell.ofBytes bs)]).memory ρ) 5 len = bs := by
  rw [memory_command]
  simp only [List.map_cons, List.map_nil, Cell.map_render_ofBytes, storeAll_cons, storeAll_nil]
  exact slice_store_self _ _ _ hlen

theorem length_terminated (s : Bytes) : (terminated s).length = s.length + 1 := by
  simp [terminated]

theorem AppId.length_terminated_text (appId : AppId) : (terminated appId.text).length = 33 := by
  rw [length_terminated, appId.valid.1]
  rfl

theorem fields_encodeInstall (appId : AppId) (srcFile : Bytes) :
    slice ((encodeInstall appId srcFile).memory ρ) 5 33 = terminated appId.text ∧
    slice ((encodeInstall appId srcFile).memory ρ) 38 4 = le32 (UInt32.ofNat (srcFile.length + 1)) ∧
    slice ((encodeInstall appId srcFile).memory ρ) 42 (srcFile.length + 1) = terminated srcFile := by
  have happ := appId.length_terminated_text
  have hfile := length_terminated srcFile
  unfold encodeInstall
  simp only [memory_command, List.map_cons, List.map_nil, List.map_append, Cell.map_render_ofBytes, storeAll_cons,
    storeAll_nil, store_append, List.length_append, List.length_map, length_raws, length_le32, lenAppId,
    Nat.reduceAdd]
  simp (disch := omega) only [slice_store_of_disjoint, slice_store_self, slice_store_le32, and_self]

theorem fields_encodeCreateSession (appId : AppId) (flags : UInt32) (initBuffer : Bytes) (processInfo : ProcessInfo) :
    slice ((encodeCreateSession appId flags initBuffer processInfo).memory ρ) 5 33 = terminated appId.text ∧
    slice ((encodeCreateSession appId flags initBuffer processInfo).memory ρ) 38 4 =
      le32 (UInt32.ofNat initBuffer.length) ∧
    slice ((encodeCreateSession appId flags initBuffer processInfo).memory ρ) 42 4 = le32 flags ∧
    slice ((encodeCreateSession appId flags initBuffer processInfo).memory ρ) 46 12 = processInfoBytes processInfo ∧
    slice ((encodeCreateSession appId flags initBuffer processInfo).memory ρ) 58 initBuffer.length = initBuffer := by
  have happ := appId.length_terminated_text
  have hinfo := length_processInfoBytes processInfo
  unfold encodeCreateSession
  simp only [memory_command, List.map_cons, List.map_nil, List.map_append, Cell.map_render_ofBytes, storeAll_cons,
    storeAll_nil, store_append, List.length_append, List.length_map, length_raws, length_le32, lenAppId, hinfo,
    Nat.reduceAdd]
  simp (disch := omega) only [slice_store_of_disjoint, slice_store_self, slice_store_le32, and_self]

theorem fields_encodeSetSessionEventHandler (sessionId : SessionId) (handleName : Bytes) :
    slice ((encodeSetSessionEventHandler sessionId handleName).memory ρ) 5 16 = sessionId.bytes ∧
    slice ((encodeSetSessionEventHandler sessionId handleName).memory ρ) 21 4 =
      le32 (UInt32.ofNat (handleName.length + 1)) ∧
    slice ((encodeSetSessionEventHandler sessionId handleName).memory ρ) 25 (handleName.length + 1) =
      terminated handleName := by
  have hid := sessionId.length_eq
  have hname := length_terminated handleName
  unfold encodeSetSessionEventHandler
  simp only [memory_command, List.map_cons, List.map_nil, List.map_append, Cell.map_render_ofBytes, storeAll_cons,
    storeAll_nil, store_append, List.length_append, length_le32, hid, Nat.reduceAdd]
  simp (disch := omega) only [slice_store_of_disjoint, slice_store_self, slice_store_le32, and_self]

theorem fields_encodeSendAndRecv (sessionId : SessionId) (commandId : UInt32) (sendBuffer : Bytes)
    (recvBufferSize : UInt32) :
    slice ((encodeSendAndRecv sessionId commandId sendBuffer recvBufferSize).memory ρ) 5 16 = sessionId.bytes ∧
    slice ((encodeSendAndRecv sessionId commandId sendBuffer recvBufferSize).memory ρ) 21 4 = le32 commandId ∧
    slice ((encodeSendAndRecv sessionId commandId sendBuffer recvBufferSize).memory ρ) 25 4 =
      le32 (UInt32.ofNat sendBuffer.length) ∧
    slice ((encodeSendAndRecv sessionId commandId sendBuffer recvBufferSize).memory ρ) 29 4 = le32 recvBufferSize ∧
    slice ((encodeSendAndRecv sessionId commandId sendBuffer recvBufferSize).memory ρ) 33 sendBuffer.length =
      sendBuffer := by
  have hid := sessionId.length_eq
  unfold encodeSendAndRecv
  simp only [memory_command, List.map_cons, List.map_nil, List.map_append, Cell.map_render_ofBytes, storeAll_cons,
    storeAll_nil, store_append, List.length_append, length_le32, hid, Nat.reduceAdd]
  simp (disch := omega) only [slice_store_of_disjoint, slice_store_self, slice_store_le32, and_self]

theorem fields_encodeGetAppletProperty (appId : AppId) {sendBuffer : Bytes} (recvBufferSize : UInt32)
    (hne : UInt32.ofNat sendBuffer.length ≠ 0) :
    slice ((encodeGetAppletProperty appId sendBuffer recvBufferSize).memory ρ) 5 33 = terminated appId.text ∧
    slice ((encodeGetAppletProperty appId sendBuffer recvBufferSize).memory ρ) 38 4 =
      le32 (UInt32.ofNat sendBuffer.length + 1) ∧
    slice ((encodeGetAppletProperty appId sendBuffer recvBufferSize).memory ρ) 42 4 = le32 (recvBufferSize + 1) ∧
    slice ((encodeGetAppletProperty appId sendBuffer recvBufferSize).memory ρ) 46 (sendBuffer.length + 1) =
      terminated sendBuffer := by
  have happ := appId.length_terminated_text
  have hname := length_terminated sendBuffer
  unfold encodeGetAppletProperty
  simp only [memory_command, List.map_cons, List.map_nil, List.map_append, Cell.map_render_ofBytes, storeAll_cons,
    storeAll_nil, store_append, List.length_append, List.length_map, length_raws, length_le32, lenAppId,
    Nat.reduceAdd, if_neg hne]
  simp (disch := omega) only [slice_store_of_disjoint, slice_store_self, slice_store_le32, and_self]

end Fields

/-! ### Shared reads of the handlers -/

section Reads

variable {m : Nat → UInt8}

theorem apply_of_slice {off len i : Nat} {xs : Bytes} (h : slice m off len = xs) (hi : i < len) :
    some (m (off + i)) = xs[i]? := by
  rw [← h, getElem?_slice, if_pos hi]

theorem apply_terminator {off : Nat} {s : Bytes} (h : slice m off (s.length + 1) = terminated s) :
    m (off + s.length) = 0 := by
  have hlast := apply_of_slice h (Nat.lt_succ_self s.length)
  simpa [terminated] using hlast

theorem cString_terminated {s : Bytes} (h : (0 : UInt8) ∉ s) : cString (terminated s) = s := by
  unfold cString terminated
  have hne : ∀ c ∈ s, (c ≠ 0) := fun c hc h0 => h (h0 ▸ hc)
  rw [List.takeWhile_append_of_pos (by simpa using hne)]
  simp

theorem AppId.zero_notMem (appId : AppId) : (0 : UInt8) ∉ appId.text :=
  fun h => absurd (appId.valid.2 0 h) (by decide)

theorem apply_appId_terminator {appId : AppId} (h : slice m 5 33 = terminated appId.text) : m (5 + lenAppId) = 0 := by
  have hlen : appId.text.length = lenAppId := appId.valid.1
  have hlast := apply_terminator (by rw [hlen]; exact h : slice m 5 (appId.text.length + 1) = _)
  rwa [hlen] at hlast

theorem answer_readAppId {appId : AppId} (h : slice m 5 33 = terminated appId.text)
    (hspooler : appId ≠ spoolerAppletUuid) : readAppId.answer m = .ok appId := by
  have hvalid : convertAppIDtoUpperCase (cString (terminated appId.text)) = some appId := by
    rw [cString_terminated appId.zero_notMem]
    exact jhiUtilUUIDValidate_text appId
  have hverify : verifyAppID appId = jhiSuccess := by
    unfold verifyAppID
    rw [if_neg (by simp [appId.valid.1]), if_neg hspooler]
  unfold readAppId
  rw [answer_u8_bind, answer_check_bind m (apply_appId_terminator h), answer_bytes_bind,
    show slice m 5 (lenAppId + 1) = terminated appId.text from h]
  simp only [hvalid]
  rw [answer_check_bind m hverify, answer_pure]

theorem answer_readSessionId {sessionId : SessionId} (h : slice m 5 16 = sessionId.bytes) :
    readSessionId.answer m = .ok sessionId := by
  unfold readSessionId
  rw [answer_bytes_bind, h, dif_pos sessionId.length_eq, answer_pure]

theorem answer_readProcessInfo {off : Nat} {info : ProcessInfo} (h : slice m off 12 = processInfoBytes info) :
    (readProcessInfo off).answer m = .ok info := by
  have hparts : slice m off 4 ++ (slice m (off + 4) 4 ++ slice m (off + 8) 4) = processInfoBytes info := by
    rw [← h, show 12 = 4 + (4 + 4) from rfl, slice_add, slice_add]
  unfold processInfoBytes at hparts
  rw [List.append_assoc] at hparts
  obtain ⟨hpid, htime⟩ := List.append_inj hparts (by simp)
  obtain ⟨hlow, hhigh⟩ := List.append_inj htime (by simp)
  unfold readProcessInfo
  rw [answer_u32_bind, answer_u32_bind, answer_u32_bind, answer_pure, u32At_eq hpid, u32At_eq hlow, u32At_eq hhigh]

end Reads

/-! ### What the handlers find -/

/-- The service reads the request as a call, or as `INIT`, whatever memory the two sides have used. -/
def Accepted (o : Message) (id : CommandId) (c : Option Call) : Prop :=
  ∀ (ρ : Junk → UInt8) (rest : Nat → UInt8) (emulation : Bool) (vmType : VmType) (pluginRegistered : Bool),
    CommandId.ofByte emulation id.toByte = some id →
    (readHeader emulation o.size).answer (o.received ρ rest) = .ok id ∧
      (decode o.size vmType pluginRegistered id).answer (o.received ρ rest) = .ok c

section Accepted

theorem accepted_of {o : Message} {id : CommandId} {c : Option Call}
    (hheader : ∀ ρ, slice (o.memory ρ) 0 5 = id.toByte :: le32 o.size) (hn : 6 ≤ o.size.toNat)
    (h : ∀ n, o.size = n → ∀ ρ m vmType pluginRegistered, u32At m 1 = n →
      (∀ off len, off + len ≤ n.toNat → slice m off len = slice (o.memory ρ) off len) →
      (decode n vmType pluginRegistered id).answer m = .ok c) : Accepted o id c := by
  intro ρ rest emulation vmType pluginRegistered hid
  have hslice : ∀ off len, off + len ≤ o.size.toNat →
      slice (o.received ρ rest) off len = slice (o.memory ρ) off len :=
    fun off len hle => Message.slice_received o ρ rest hle
  have hreceived : slice (o.received ρ rest) 0 (1 + 4) = [id.toByte] ++ le32 o.size := by
    rw [hslice 0 5 (by omega), hheader]
    rfl
  have hbyte : o.received ρ rest 0 = id.toByte := by
    have h0 := apply_of_slice hreceived (by omega : 0 < 5)
    simpa using h0
  have hlength : u32At (o.received ρ rest) 1 = o.size := by
    rw [slice_add] at hreceived
    exact u32At_eq (List.append_inj_right hreceived (by simp))
  refine ⟨(readHeader_eq_ok_iff emulation).2 ⟨hn, ?_, hlength⟩, ?_⟩
  · rw [hbyte, hid]
  · exact h _ rfl ρ _ vmType pluginRegistered hlength hslice

theorem accepted_of_body {id : CommandId} {k : Nat} {bs : Bytes} {c : Option Call} (hk : k = 5 + bs.length)
    (h1 : 1 ≤ bs.length) (hlt : k < 2 ^ 32)
    (h : ∀ n m vmType pluginRegistered, n.toNat = k → u32At m 1 = n → slice m 5 bs.length = bs →
      (decode n vmType pluginRegistered id).answer m = .ok c) :
    Accepted (command id (UInt32.ofNat k) [(5, Cell.ofBytes bs)]) id c := by
  have hsize : (UInt32.ofNat k).toNat = k := UInt32.toNat_ofNat_of_lt' hlt
  refine accepted_of (fun ρ => slice_header ρ (by simp)) (by rw [command, hsize]; omega)
    fun n ho ρ m vmType pluginRegistered hn hm => ?_
  have hn' : n.toNat = k := by
    rw [← ho]
    exact hsize
  refine h n m vmType pluginRegistered hn' hn ?_
  rw [hm _ _ (by omega), slice_body ρ _ _ _ rfl]

theorem toNat_commandLength {sizeofCmd : Nat} {less dataSize : UInt32} (hless : less.toNat ≤ sizeofCmd)
    (hsize : sizeofCmd + dataSize.toNat < 2 ^ 31) :
    (commandLength sizeofCmd less dataSize).toNat = 6 + sizeofCmd + dataSize.toNat - less.toNat := by
  unfold commandLength sizeofJhiCommand
  rw [UInt32.toNat_sub, UInt32.toNat_add, UInt32.toNat_ofNat']
  omega

/-- The encoders whose data may be empty take two bytes off the sum of the sizes, or one without data. -/
theorem toNat_commandLength_ite {sizeofCmd : Nat} {dataSize : UInt32} (hless : 2 ≤ sizeofCmd)
    (hsize : sizeofCmd + dataSize.toNat < 2 ^ 31) :
    (dataSize.toNat = 0 →
      (commandLength sizeofCmd (if dataSize = 0 then 1 else 2) dataSize).toNat = 5 + sizeofCmd) ∧
    (0 < dataSize.toNat → (commandLength sizeofCmd (if dataSize = 0 then 1 else 2) dataSize).toNat =
      4 + sizeofCmd + dataSize.toNat) := by
  have hzero : dataSize = 0 ↔ dataSize.toNat = 0 := by rw [← UInt32.toNat_inj]; rfl
  constructor
  · intro h
    rw [if_pos (hzero.2 h), toNat_commandLength (by simp only [UInt32.reduceToNat]; omega) hsize]
    simp only [UInt32.reduceToNat]
    omega
  · intro h
    rw [if_neg (fun h0 => absurd (hzero.1 h0) (by omega)), toNat_commandLength (by simp only [UInt32.reduceToNat]; omega) hsize]
    simp only [UInt32.reduceToNat]
    omega

theorem toNat_ofNat_length {bs : Bytes} {k : Nat} (h : bs.length + k < 2 ^ 32) :
    (UInt32.ofNat (bs.length + k)).toNat = bs.length + k := UInt32.toNat_ofNat_of_lt' h

section Applets

variable {appId : AppId} (hspooler : appId ≠ spoolerAppletUuid)
include hspooler

theorem accepted_install {srcFile : Bytes} (hlen : srcFile.length ≤ filenameMax) (h0 : (0 : UInt8) ∉ srcFile) :
    Accepted (encodeInstall appId srcFile) .install (some (.install appId srcFile)) := by
  have hmax : filenameMax = 4096 := rfl
  have hdata : (UInt32.ofNat (srcFile.length + 1)).toNat = srcFile.length + 1 := toNat_ofNat_length (by omega)
  have hsize : (encodeInstall appId srcFile).size.toNat = 43 + srcFile.length := by
    refine (toNat_commandLength (by decide) (by rw [hdata, sizeofCmdInstall]; omega)).trans ?_
    rw [hdata, sizeofCmdInstall]
    simp only [UInt32.reduceToNat]
    omega
  refine accepted_of (fun ρ => slice_header ρ (by simp)) (by omega) fun n ho ρ m vmType pluginRegistered hn hm => ?_
  rw [ho] at hsize
  obtain ⟨happ, hfileSize, hfile⟩ := fields_encodeInstall ρ appId srcFile
  rw [← hm _ _ (by omega)] at happ hfileSize hfile
  show (invokeInstall n).answer m = _
  unfold invokeInstall
  rw [answer_checkDataLength_bind hn, answer_check_bind m (by rw [sizeofJhiCommand, sizeofCmdInstall]; omega),
    answer_u32_bind, u32At_eq hfileSize, hdata, answer_check_bind m (by omega),
    answer_check_bind m (by rw [sizeofJhiCommand, sizeofCmdInstall]; omega), answer_u8_bind,
    answer_check_bind m (apply_appId_terminator happ), answer_u8_bind, Nat.add_sub_cancel,
    answer_check_bind m (apply_terminator hfile), answer_bind_of_ok m (answer_readAppId happ hspooler),
    answer_bytes_bind, hfile, cString_terminated h0, answer_pure]

theorem accepted_uninstall : Accepted (encode (.uninstall appId)) .uninstall (some (.uninstall appId)) := by
  have hlen := appId.length_terminated_text
  refine accepted_of_body (by rw [hlen]; rfl) (by omega) (by decide) fun n m vmType pluginRegistered hsize hn happ => ?_
  rw [hlen] at happ
  show (invokeUninstall n).answer m = _
  unfold invokeUninstall
  rw [answer_checkDataLength_bind hn, answer_check_bind m hsize,
    answer_bind_of_ok m (answer_readAppId happ hspooler), answer_pure]

theorem accepted_getSessionsCount :
    Accepted (encode (.getSessionsCount appId)) .getSessionsCount (some (.getSessionsCount appId)) := by
  have hlen := appId.length_terminated_text
  refine accepted_of_body (by rw [hlen]; rfl) (by omega) (by decide) fun n m vmType pluginRegistered hsize hn happ => ?_
  rw [hlen] at happ
  show (invokeGetSessionsCount n).answer m = _
  unfold invokeGetSessionsCount
  rw [answer_checkDataLength_bind hn, answer_check_bind m hsize,
    answer_bind_of_ok m (answer_readAppId happ hspooler), answer_pure]

theorem accepted_createSession {initBuffer : Bytes} (hlen : initBuffer.length ≤ jhiBufferMax) (flags : UInt32)
    (processInfo : ProcessInfo) :
    Accepted (encodeCreateSession appId flags initBuffer processInfo) .createSession
      (some (.createSession appId flags initBuffer processInfo)) := by
  have hmax : jhiBufferMax = 2097152 := rfl
  have hdata : (UInt32.ofNat initBuffer.length).toNat = initBuffer.length := toNat_ofNat_length (k := 0) (by omega)
  have hsize : (initBuffer.length = 0 →
        (encodeCreateSession appId flags initBuffer processInfo).size.toNat = 5 + sizeofCmdCreateSession) ∧
      (0 < initBuffer.length → (encodeCreateSession appId flags initBuffer processInfo).size.toNat =
        4 + sizeofCmdCreateSession + initBuffer.length) := by
    rw [← hdata]
    exact toNat_commandLength_ite (by decide) (by rw [hdata, sizeofCmdCreateSession]; omega)
  rw [sizeofCmdCreateSession] at hsize
  refine accepted_of (fun ρ => slice_header ρ (by simp)) (by omega) fun n ho ρ m vmType pluginRegistered hn hm => ?_
  rw [ho] at hsize
  obtain ⟨happ, hinitSize, hflags, hinfo, hinit⟩ := fields_encodeCreateSession ρ appId flags initBuffer processInfo
  rw [← hm _ _ (by omega)] at happ hinitSize hflags hinfo hinit
  show (invokeCreateSession n).answer m = _
  unfold invokeCreateSession
  rw [answer_checkDataLength_bind hn, answer_check_bind m (by rw [sizeofJhiCommand, sizeofCmdCreateSession]; omega),
    answer_u32_bind, u32At_eq hinitSize, hdata, answer_check_bind m hlen,
    answer_check_bind m (by rw [sizeofJhiCommand, sizeofCmdCreateSession]; omega),
    answer_check_bind m (by rw [sizeofJhiCommand, sizeofCmdCreateSession]; omega),
    answer_bind_of_ok m (answer_readAppId happ hspooler), answer_u32_bind, u32At_eq hflags,
    answer_bind_of_ok m (answer_readProcessInfo hinfo), answer_bytes_bind, hinit, answer_pure]

/-- Both lengths are sent one larger, which the service holds to the limit of the API. -/
theorem accepted_getAppletProperty {sendBuffer : Bytes} {recvBufferSize : UInt32} (hpos : 0 < sendBuffer.length)
    (hlen : sendBuffer.length < jhiBufferMax) (hrecv : recvBufferSize.toNat < jhiBufferMax) :
    Accepted (encodeGetAppletProperty appId sendBuffer recvBufferSize) .getAppletProperty
      (some (.getAppletProperty appId (terminated sendBuffer) (recvBufferSize + 1))) := by
  have hmax : jhiBufferMax = 2097152 := rfl
  have hname : (UInt32.ofNat sendBuffer.length).toNat = sendBuffer.length := toNat_ofNat_length (k := 0) (by omega)
  have hne : UInt32.ofNat sendBuffer.length ≠ 0 := by
    intro h0
    rw [h0] at hname
    exact absurd hname (by simp only [UInt32.toNat_zero]; omega)
  have hdata : (UInt32.ofNat sendBuffer.length + 1).toNat = sendBuffer.length + 1 := by
    rw [UInt32.toNat_add, hname, UInt32.toNat_one]
    omega
  have hrecv1 : (recvBufferSize + 1).toNat = recvBufferSize.toNat + 1 := by
    rw [UInt32.toNat_add, UInt32.toNat_one]
    omega
  have hsize : (encodeGetAppletProperty appId sendBuffer recvBufferSize).size.toNat = 47 + sendBuffer.length := by
    show (commandLength sizeofCmdGetAppletProperty (if UInt32.ofNat sendBuffer.length = 0 then 1 else 2) _).toNat = _
    rw [if_neg hne, toNat_commandLength (by decide) (by rw [hdata, sizeofCmdGetAppletProperty]; omega), hdata,
      sizeofCmdGetAppletProperty]
    simp only [UInt32.reduceToNat]
    omega
  have hbody : ∀ w ∈ (encodeGetAppletProperty appId sendBuffer recvBufferSize).stores.tail, 5 ≤ w.1 := by
    intro w hw
    simp only [encodeGetAppletProperty, command, List.tail_cons, List.mem_cons, List.not_mem_nil, or_false] at hw
    rcases hw with rfl | rfl | rfl <;> simp
  refine accepted_of (fun ρ => slice_header ρ hbody) (by omega) fun n ho ρ m vmType pluginRegistered hn hm => ?_
  rw [ho] at hsize
  obtain ⟨happ, hsendSize, hrecvSize, hsend⟩ := fields_encodeGetAppletProperty ρ appId recvBufferSize hne
  rw [← hm _ _ (by omega)] at happ hsendSize hrecvSize hsend
  show (invokeGetAppletProperty n).answer m = _
  unfold invokeGetAppletProperty
  rw [answer_checkDataLength_bind hn, answer_check_bind m (by rw [sizeofJhiCommand, sizeofCmdGetAppletProperty]; omega),
    answer_u32_bind, u32At_eq hsendSize, answer_u32_bind, u32At_eq hrecvSize, hdata, hrecv1,
    answer_check_bind m (by omega), answer_check_bind m (by omega),
    answer_check_bind m (by rw [sizeofJhiCommand, sizeofCmdGetAppletProperty]; omega), answer_check_bind m (by omega),
    answer_bind_of_ok m (answer_readAppId happ hspooler), answer_bytes_bind, hsend, answer_pure]

end Applets

section Sessions

variable (sessionId : SessionId)

theorem accepted_closeSession (processInfo : ProcessInfo) (force : Bool) :
    Accepted (encode (.closeSession sessionId processInfo force)) .closeSession
      (some (.closeSession sessionId processInfo force)) := by
  have hid := sessionId.length_eq
  have hinfo := length_processInfoBytes processInfo
  have hlen : (sessionId.bytes ++ processInfoBytes processInfo ++ [if force then (1 : UInt8) else 0]).length = 29 := by
    simp [hid, hinfo]
  refine accepted_of_body (by rw [hlen]; rfl) (by omega) (by decide) fun n m vmType pluginRegistered hsize hn hbody => ?_
  rw [hlen, show 29 = 16 + (12 + 1) from rfl, slice_add, slice_add, List.append_assoc] at hbody
  obtain ⟨hsession, hrest⟩ := List.append_inj hbody (by simp [hid])
  obtain ⟨hprocess, hflag⟩ := List.append_inj hrest (by simp [hinfo])
  have hforce : m 33 = if force then 1 else 0 := by simpa [slice] using hflag
  show (invokeCloseSession n).answer m = _
  unfold invokeCloseSession
  rw [answer_checkDataLength_bind hn, answer_check_bind m hsize,
    answer_bind_of_ok m (answer_readSessionId hsession), answer_bind_of_ok m (answer_readProcessInfo hprocess),
    answer_u8_bind, hforce, answer_pure]
  cases force <;> rfl

theorem accepted_getSessionInfo :
    Accepted (encode (.getSessionInfo sessionId)) .getSessionInfo (some (.getSessionInfo sessionId)) := by
  have hlen := sessionId.length_eq
  refine accepted_of_body (by rw [hlen]; rfl) (by omega) (by decide) fun n m vmType pluginRegistered hsize hn hid => ?_
  rw [hlen] at hid
  show (invokeGetSessionInfo n).answer m = _
  unfold invokeGetSessionInfo
  rw [answer_checkDataLength_bind hn, answer_check_bind m hsize, answer_bind_of_ok m (answer_readSessionId hid),
    answer_pure]

theorem accepted_getEventData :
    Accepted (encode (.getEventData sessionId)) .getEventData (some (.getSessionEventData sessionId)) := by
  have hlen := sessionId.length_eq
  refine accepted_of_body (by rw [hlen]; rfl) (by omega) (by decide) fun n m vmType pluginRegistered hsize hn hid => ?_
  rw [hlen] at hid
  show (invokeGetSessionEventData n).answer m = _
  unfold invokeGetSessionEventData
  rw [answer_checkDataLength_bind hn, answer_check_bind m hsize, answer_bind_of_ok m (answer_readSessionId hid),
    answer_pure]

theorem accepted_setSessionEventHandler {handleName : Bytes} (hlen : handleName.length < jhiEventHandleSize)
    (h0 : (0 : UInt8) ∉ handleName) :
    Accepted (encodeSetSessionEventHandler sessionId handleName) .setSessionEventHandler
      (some (.setSessionEventHandler sessionId handleName)) := by
  have hmax : jhiEventHandleSize = 88 := rfl
  have hdata : (UInt32.ofNat (handleName.length + 1)).toNat = handleName.length + 1 := toNat_ofNat_length (by omega)
  have hsize : (encodeSetSessionEventHandler sessionId handleName).size.toNat = 26 + handleName.length := by
    refine (toNat_commandLength (by decide) (by rw [hdata, sizeofCmdSetSessionEventHandler]; omega)).trans ?_
    rw [hdata, sizeofCmdSetSessionEventHandler]
    simp only [UInt32.reduceToNat]
    omega
  refine accepted_of (fun ρ => slice_header ρ (by simp)) (by omega) fun n ho ρ m vmType pluginRegistered hn hm => ?_
  rw [ho] at hsize
  obtain ⟨hid, hnameSize, hname⟩ := fields_encodeSetSessionEventHandler ρ sessionId handleName
  rw [← hm _ _ (by omega)] at hid hnameSize hname
  show (invokeSetSessionEventHandler n).answer m = _
  unfold invokeSetSessionEventHandler
  rw [answer_checkDataLength_bind hn,
    answer_check_bind m (by rw [sizeofJhiCommand, sizeofCmdSetSessionEventHandler]; omega), answer_u32_bind,
    u32At_eq hnameSize, hdata, answer_check_bind m (by omega),
    answer_check_bind m (by rw [sizeofJhiCommand, sizeofCmdSetSessionEventHandler]; omega), answer_u8_bind,
    Nat.add_sub_cancel, answer_check_bind m (apply_terminator hname), answer_bind_of_ok m (answer_readSessionId hid),
    answer_bytes_bind, hname, cString_terminated h0, answer_pure]

theorem accepted_sendAndRecv {sendBuffer : Bytes} {recvBufferSize : UInt32} (hlen : sendBuffer.length ≤ jhiBufferMax)
    (hrecv : recvBufferSize.toNat ≤ jhiBufferMax) (commandId : UInt32) :
    Accepted (encodeSendAndRecv sessionId commandId sendBuffer recvBufferSize) .sendAndRecieve
      (some (.sendAndRecieve sessionId commandId sendBuffer recvBufferSize)) := by
  have hmax : jhiBufferMax = 2097152 := rfl
  have hdata : (UInt32.ofNat sendBuffer.length).toNat = sendBuffer.length := toNat_ofNat_length (k := 0) (by omega)
  have hsize : (sendBuffer.length = 0 →
        (encodeSendAndRecv sessionId commandId sendBuffer recvBufferSize).size.toNat = 5 + sizeofCmdSendAndRecieve) ∧
      (0 < sendBuffer.length → (encodeSendAndRecv sessionId commandId sendBuffer recvBufferSize).size.toNat =
        4 + sizeofCmdSendAndRecieve + sendBuffer.length) := by
    rw [← hdata]
    exact toNat_commandLength_ite (by decide) (by rw [hdata, sizeofCmdSendAndRecieve]; omega)
  rw [sizeofCmdSendAndRecieve] at hsize
  refine accepted_of (fun ρ => slice_header ρ (by simp)) (by omega) fun n ho ρ m vmType pluginRegistered hn hm => ?_
  rw [ho] at hsize
  obtain ⟨hid, hcommand, hsendSize, hrecvSize, hsend⟩ :=
    fields_encodeSendAndRecv ρ sessionId commandId sendBuffer recvBufferSize
  rw [← hm _ _ (by omega)] at hid hcommand hsendSize hrecvSize hsend
  show (invokeSendAndRecieve n).answer m = _
  unfold invokeSendAndRecieve
  rw [answer_checkDataLength_bind hn, answer_check_bind m (by rw [sizeofJhiCommand, sizeofCmdSendAndRecieve]; omega),
    answer_u32_bind, u32At_eq hsendSize, answer_u32_bind, u32At_eq hrecvSize, hdata,
    answer_check_bind m ⟨hlen, hrecv⟩,
    answer_check_bind m (by rw [sizeofJhiCommand, sizeofCmdSendAndRecieve]; omega),
    answer_check_bind m (by rw [sizeofJhiCommand, sizeofCmdSendAndRecieve]; omega),
    answer_bind_of_ok m (answer_readSessionId hid), answer_u32_bind, u32At_eq hcommand, answer_bytes_bind, hsend,
    answer_pure]

end Sessions

/-! Requests without a body. -/

theorem accepted_init : Accepted (encode .init) .init none := by
  refine accepted_of (fun ρ => slice_header ρ (by simp)) (by decide) fun n ho ρ m vmType pluginRegistered hn hm => ?_
  rw [← ho]
  rfl

theorem accepted_getVersionInfo : Accepted (encode .getVersionInfo) .getVersionInfo (some .getVersionInfo) := by
  refine accepted_of (fun ρ => slice_header ρ (by simp)) (by decide) fun n ho ρ m vmType pluginRegistered hn hm => ?_
  rw [← ho]
  rfl

theorem accepted_getSessionTable :
    Accepted (encode .getSessionTable) .getSessionsDataTable (some .getSessionsDataTable) := by
  refine accepted_of (fun ρ => slice_header ρ (by simp)) (by decide) fun n ho ρ m vmType pluginRegistered hn hm => ?_
  have hsize : n.toNat = sizeofJhiCommand := by rw [← ho]; rfl
  show (invokeGetSessionDataTable n).answer m = _
  unfold invokeGetSessionDataTable
  rw [answer_checkDataLength_bind hn, answer_check_bind m hsize, answer_pure]

theorem accepted_getLoadedAppletsList :
    Accepted (encode .getLoadedAppletsList) .getLoadedApplets (some .getLoadedApplets) := by
  refine accepted_of (fun ρ => slice_header ρ (by simp)) (by decide) fun n ho ρ m vmType pluginRegistered hn hm => ?_
  show (invokeGetLoadedApplets n).answer m = _
  unfold invokeGetLoadedApplets
  rw [answer_checkDataLength_bind hn, answer_pure]

end Accepted

/-! ### The API and the service -/

/-- The call that an API function is meant to make of the service, `none` for `INIT`: the same
arguments, with the applet id in upper case, and for a property buffer lengths in place of character
lengths. -/
def ApiCall.Asks (c : Option Call) : ApiCall → Prop
  | .jhiInitialize => c = none
  | .install2 appId installFile =>
    ∃ id : AppId, id.text = toUpperCase appId.text ∧ c = some (.install id installFile.text)
  | .uninstall appId => ∃ id : AppId, id.text = toUpperCase appId.text ∧ c = some (.uninstall id)
  | .getSessionsCount appId => ∃ id : AppId, id.text = toUpperCase appId.text ∧ c = some (.getSessionsCount id)
  | .createSession appId flags initBuffer processInfo =>
    ∃ id : AppId, id.text = toUpperCase appId.text ∧ c = some (.createSession id flags initBuffer processInfo)
  | .closeSession sessionId processInfo => c = some (.closeSession sessionId processInfo false)
  | .forceCloseSession sessionId processInfo => c = some (.closeSession sessionId processInfo true)
  | .getSessionInfo sessionId => c = some (.getSessionInfo sessionId)
  | .registerEvents sessionId uuid => c = some (.setSessionEventHandler sessionId (generateHandleUUID uuid))
  | .unRegisterEvents sessionId => c = some (.setSessionEventHandler sessionId [])
  | .retriveEventData sessionId => c = some (.getSessionEventData sessionId)
  | .sendAndRecv2 sessionId commandId txBuf rxLen => c = some (.sendAndRecieve sessionId commandId txBuf rxLen)
  | .getAppletProperty appId property rxLen =>
    ∃ id : AppId, id.text = toUpperCase appId.text ∧
      c = some (.getAppletProperty id (terminated property.text) (rxLen + 1))
  | .getVersionInfo => c = some .getVersionInfo
  | .getSessionTable => c = some .getSessionsDataTable
  | .getLoadedAppletsList => c = some .getLoadedApplets

/-- The applet id is not the one the service keeps for itself, and the lengths of a property query stay
below the limit. -/
def ApiCall.Admitted : ApiCall → Prop
  | .install2 appId _ | .uninstall appId | .getSessionsCount appId | .createSession appId .. =>
    toUpperCase appId.text ≠ spoolerAppletUuid.text
  | .getAppletProperty appId property rxLen =>
    toUpperCase appId.text ≠ spoolerAppletUuid.text ∧ property.text.length < jhiBufferMax ∧
      rxLen.toNat < jhiBufferMax
  | _ => True

theorem validateAppId_bind_eq_ok {appId : CText} {f : AppId → Except JhiRet ClientCall} {q : ClientCall}
    (h : (validateAppId appId >>= f) = .ok q) : ∃ id : AppId, id.text = toUpperCase appId.text ∧ f id = .ok q := by
  unfold validateAppId at h
  cases hid : jhiUtilUUIDValidate appId.text with
  | none =>
    rw [hid] at h
    cases h
  | some id =>
    rw [hid] at h
    exact ⟨id, (jhiUtilUUIDValidate_eq_some.1 hid).2.2, h⟩

theorem ne_spooler {appId : CText} {id : AppId} (h : id.text = toUpperCase appId.text)
    (hne : toUpperCase appId.text ≠ spoolerAppletUuid.text) : id ≠ spoolerAppletUuid :=
  fun heq => hne (by rw [← h, heq])

theorem length_generateHandleUUID (uuid : UuidText) : (generateHandleUUID uuid).length < jhiEventHandleSize := by
  simp [generateHandleUUID, uuid.length_eq, ascii, jhiEventHandleSize]

theorem zero_notMem_generateHandleUUID (uuid : UuidText) : (0 : UInt8) ∉ generateHandleUUID uuid := by
  unfold generateHandleUUID
  rw [List.mem_append, not_or]
  exact ⟨by decide, uuid.no_terminator⟩

/-- What the API accepts and forwards, the handler of the service reads as the same call. -/
theorem requestRoundTrip (a : ApiCall) (q : ClientCall) (hq : forward a = .ok q) (ha : a.Admitted) :
    ∃ c, a.Asks c ∧ Accepted (encode q) q.commandId c := by
  cases a with
  | jhiInitialize =>
    cases hq
    exact ⟨none, rfl, accepted_init⟩
  | install2 appId installFile =>
    obtain ⟨id, htext, hf⟩ := validateAppId_bind_eq_ok hq
    split_ifs at hf with hlen
    cases hf
    exact ⟨_, ⟨id, htext, rfl⟩, accepted_install (ne_spooler htext ha) (by omega) installFile.no_terminator⟩
  | uninstall appId =>
    obtain ⟨id, htext, hf⟩ := validateAppId_bind_eq_ok hq
    cases hf
    exact ⟨_, ⟨id, htext, rfl⟩, accepted_uninstall (ne_spooler htext ha)⟩
  | getSessionsCount appId =>
    obtain ⟨id, htext, hf⟩ := validateAppId_bind_eq_ok hq
    cases hf
    exact ⟨_, ⟨id, htext, rfl⟩, accepted_getSessionsCount (ne_spooler htext ha)⟩
  | createSession appId flags initBuffer processInfo =>
    obtain ⟨id, htext, hf⟩ := validateAppId_bind_eq_ok hq
    split_ifs at hf with hlen
    cases hf
    exact ⟨_, ⟨id, htext, rfl⟩, accepted_createSession (ne_spooler htext ha) (by omega) flags processInfo⟩
  | closeSession sessionId processInfo =>
    cases hq
    exact ⟨_, rfl, accepted_closeSession sessionId processInfo false⟩
  | forceCloseSession sessionId processInfo =>
    cases hq
    exact ⟨_, rfl, accepted_closeSession sessionId processInfo true⟩
  | getSessionInfo sessionId =>
    cases hq
    exact ⟨_, rfl, accepted_getSessionInfo sessionId⟩
  | registerEvents sessionId uuid =>
    cases hq
    exact ⟨_, rfl, accepted_setSessionEventHandler sessionId (length_generateHandleUUID uuid)
      (zero_notMem_generateHandleUUID uuid)⟩
  | unRegisterEvents sessionId =>
    cases hq
    exact ⟨_, rfl, accepted_setSessionEventHandler sessionId (by decide) List.not_mem_nil⟩
  | retriveEventData sessionId =>
    cases hq
    exact ⟨_, rfl, accepted_getEventData sessionId⟩
  | sendAndRecv2 sessionId commandId txBuf rxLen =>
    rw [forward] at hq
    split_ifs at hq with hlen
    cases hq
    exact ⟨_, rfl, accepted_sendAndRecv sessionId (by omega) (by omega) commandId⟩
  | getAppletProperty appId property rxLen =>
    obtain ⟨id, htext, hf⟩ := validateAppId_bind_eq_ok hq
    obtain ⟨hspooler, hname, hrx⟩ := ha
    split_ifs at hf with hpos hlen
    cases hf
    exact ⟨_, ⟨id, htext, rfl⟩, accepted_getAppletProperty (ne_spooler htext hspooler) (by omega) hname hrx⟩
  | getVersionInfo =>
    cases hq
    exact ⟨_, rfl, accepted_getVersionInfo⟩
  | getSessionTable =>
    cases hq
    exact ⟨_, rfl, accepted_getSessionTable⟩
  | getLoadedAppletsList =>
    cases hq
    exact ⟨_, rfl, accepted_getLoadedAppletsList⟩

/-- A property query with a name of one character and no room for the value. -/
theorem requestRoundTrip_property :
    ∃ c, (ApiCall.getAppletProperty ⟨exampleApplet.text, exampleApplet.zero_notMem⟩ ⟨[65], by decide⟩ 0).Asks c ∧
      Accepted (encode (.getAppletProperty exampleApplet [65] 0)) .getAppletProperty c :=
  requestRoundTrip _ (.getAppletProperty exampleApplet [65] 0) (by rfl)
    ⟨by decide +kernel, by decide, by decide⟩

/-- The API forwards the id of the spooler applet, and the service turns it down. -/
theorem spoolerApplet_refused :
    forward (.getSessionsCount ⟨spoolerAppletUuid.text, spoolerAppletUuid.zero_notMem⟩) =
      .ok (.getSessionsCount spoolerAppletUuid) ∧
    ¬∃ c, (ApiCall.getSessionsCount ⟨spoolerAppletUuid.text, spoolerAppletUuid.zero_notMem⟩).Asks c ∧
      Accepted (encode (.getSessionsCount spoolerAppletUuid)) .getSessionsCount c := by
  refine ⟨by rfl, ?_⟩
  rintro ⟨c, -, h⟩
  have hok := (h (fun _ => 0) (fun _ => 0) false .beihaiV2 false rfl).2
  have herror : (decode (encode (.getSessionsCount spoolerAppletUuid)).size .beihaiV2 false .getSessionsCount).answer
      ((encode (.getSessionsCount spoolerAppletUuid)).received (fun _ => 0) fun _ => 0) =
      .error jhiInvalidAppletGuid := by rfl
  exact nomatch herror.symm.trans hok

end DalHost

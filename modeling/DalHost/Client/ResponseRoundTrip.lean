import DalHost.Client.Bounds
import DalHost.Client.RequestRoundTrip
import DalHost.Dispatch.Framing

/-!
# Responses arrive as they were built

The handlers' responses against the decoders of the client library. The first part says what each
`Jhis*` function makes of a response, given its fields; the second part reads the fields in the
response of each handler, those of the emulation apart. By design, the client does not take a list with an entry that is no UUID, or metadata that is shorter than it
expects, and answers an error of its own instead of the service's success.
-/

namespace DalHost

open Scan

/-! ### Decoders -/

section Decoders

variable {n : UInt32} {m : Nat → UInt8}

theorem received_of_ok {x : Scan ClientResult ClientResult} {r : ClientResult} (h : x.answer m = .ok r) :
    received x m = r := by
  unfold received
  rw [h]

theorem received_of_error {x : Scan ClientResult ClientResult} {r : ClientResult} (h : x.answer m = .error r) :
    received x m = r := by
  unfold received
  rw [h]

theorem answer_checkHeader_bind {α : Type} (hn : 9 ≤ n.toNat) (r : ClientResult) (f : Unit → Scan ClientResult α) :
    (checkHeader n r >>= f).answer m = (f ()).answer m := answer_check_bind m hn f

variable (hlen : u32At m 4 = n)
include hlen

theorem answer_checkOutputSize_bind {α : Type} (r : ClientResult) (f : Unit → Scan ClientResult α) :
    (checkOutputSize n r >>= f).answer m = (f ()).answer m := by
  refine answer_bind_of_ok m ?_ f
  unfold checkOutputSize
  rw [answer_u32_bind, answer_check, if_pos hlen]

theorem answer_receiveCode (hn : n.toNat = sizeofJhiResponse) (internalError : JhiRet) :
    (receiveCode n internalError).answer m = .ok (u32At m 0) := by
  unfold receiveCode
  rw [answer_check_bind m hn, answer_checkOutputSize_bind hlen, answer_u32]

theorem answer_receiveSized {size : UInt32} {out : Scan ClientResult ClientOut} {o : ClientOut} (hn : 9 ≤ n.toNat)
    (hsize : n = size) (hout : out.answer m = .ok o) (internalError : JhiRet) :
    (receiveSized n internalError size out).answer m = .ok (u32At m 0, o) := by
  unfold receiveSized
  rw [answer_checkHeader_bind hn, answer_checkOutputSize_bind hlen, if_pos hsize, answer_bind_of_ok m hout,
    answer_u32_bind, answer_pure]

theorem answer_receiveSized_of_ne {size : UInt32} (hn : 9 ≤ n.toNat) (hsize : n ≠ size) (internalError : JhiRet)
    (out : Scan ClientResult ClientOut) :
    (receiveSized n internalError size out).answer m = .ok (u32At m 0, .none) := by
  unfold receiveSized
  rw [answer_checkHeader_bind hn, answer_checkOutputSize_bind hlen, if_neg hsize,
    answer_bind_of_ok m (answer_pure m _), answer_u32_bind, answer_pure]

theorem answer_receiveSuccess {error : JhiRet → ClientResult} (hn : 9 ≤ n.toNat) (hret : u32At m 0 = jhiSuccess) :
    (receiveSuccess n error).answer m = .ok () := by
  unfold receiveSuccess checkOutputSize
  rw [answer_checkHeader_bind hn, answer_u32_bind, answer_check_bind m hret, answer_u32_bind, answer_check, if_pos hlen]

theorem answer_receiveTable {sizeofRes : UInt32} (hn : sizeofJhiResponse + sizeofRes.toNat ≤ n.toNat) (hret : u32At m 0 = jhiSuccess) :
    (receiveTable n sizeofRes).answer m = .ok () := by
  unfold receiveTable checkOutputSize
  rw [answer_check_bind m hn, answer_u32_bind, answer_check_bind m hret, answer_u32_bind, answer_check, if_pos hlen]

omit hlen in
theorem answer_receiveSuccess_bind_of_error {error : JhiRet → ClientResult} {f : Unit → Scan ClientResult ClientResult}
    (hn : 9 ≤ n.toNat) (hret : u32At m 0 ≠ jhiSuccess) :
    (receiveSuccess n error >>= f).answer m = .error (error (jhiErrorToTeeError (u32At m 0))) := by
  have hfail : (receiveSuccess n error).answer m = .error (error (jhiErrorToTeeError (u32At m 0))) := by
    unfold receiveSuccess
    rw [answer_checkHeader_bind hn, answer_u32_bind, answer_check_bind_of_not m hret]
  rw [answer_bind, hfail]

end Decoders

/-- The functions of the TEE management API, which translate the code. -/
def ClientCall.isTee : ClientCall → Bool
  | .openSDSession _ | .closeSDSession _ | .sendAdminCmdPkg .. | .listInstalledTAs _ | .listInstalledSDs _
  | .queryTEEMetadata _ | .provisionOemMasterKey _ | .setTAEncryptionKey _ => true
  | _ => false

/-- The code as a function returns it. -/
def ClientCall.status (q : ClientCall) (retCode : JhiRet) : JhiRet :=
  if q.isTee then jhiErrorToTeeError retCode else retCode

/-- The two functions that only the emulation has. -/
def ClientCall.isEmulation : ClientCall → Bool
  | .getSessionTable | .getLoadedAppletsList => true
  | _ => false

/-- OUT parameters that carry nothing. -/
def BlankOut : ClientOut → Prop
  | .none => True
  | .sessionCount count => count = 0
  | .sessionId id => id = List.replicate 16 0
  | .sessionInfo info => info = List.replicate 88 0
  | .event dataType size data => dataType = 0 ∧ size = 0 ∧ data = none
  | .uuids count ids => count = 0 ∧ ids = []
  | _ => False

section BareCode

variable {n : UInt32} {m : Nat → UInt8}

theorem receive_bareCode {q : ClientCall} (hq : q.isEmulation = false) (hlen : u32At m 4 = n)
    (hn : n.toNat = sizeofJhiResponse) (hret : u32At m 0 ≠ jhiSuccess) :
    ∃ out, BlankOut out ∧ received (receive n q) m = ⟨q.status (u32At m 0), out⟩ := by
  have h9 : 9 ≤ n.toNat := hn.ge
  have hne : ∀ {size : UInt32}, size.toNat ≠ 9 → n ≠ size := fun h heq => h (heq ▸ hn)
  cases q with
  | init | install | uninstall | closeSession | setSessionEventHandler =>
    refine ⟨.none, trivial, received_of_ok ?_⟩
    exact (answer_bind_of_ok m (answer_receiveCode hlen hn _) _).trans (answer_pure m _)
  | getSessionsCount | createSession | getSessionInfo =>
    refine ⟨.none, trivial, received_of_ok ?_⟩
    exact (answer_bind_of_ok m (answer_receiveSized_of_ne hlen h9 (hne (by decide)) _ _) _).trans (answer_pure m _)
  | getEventData sessionId =>
    refine ⟨.none, trivial, received_of_ok ?_⟩
    show (receiveGetEventData n).answer m = _
    unfold receiveGetEventData
    rw [answer_checkHeader_bind h9, answer_checkOutputSize_bind hlen, if_pos (by rw [hn]; decide), if_pos hn,
      answer_u32_bind, answer_pure]
    rfl
  | sendAndRecv sessionId commandId sendBuffer recvBufferSize =>
    refine ⟨.none, trivial, received_of_ok ?_⟩
    show (receiveSendAndRecv n recvBufferSize).answer m = _
    unfold receiveSendAndRecv
    rw [answer_checkHeader_bind h9, answer_checkOutputSize_bind hlen, answer_u32_bind, if_pos hn, answer_pure]
    rfl
  | getAppletProperty appId sendBuffer recvBufferSize =>
    refine ⟨.none, trivial, received_of_ok ?_⟩
    show (receiveGetAppletProperty n recvBufferSize).answer m = _
    unfold receiveGetAppletProperty
    rw [answer_checkHeader_bind h9, answer_checkOutputSize_bind hlen, answer_u32_bind, if_pos hn, answer_pure]
    rfl
  | getVersionInfo =>
    refine ⟨.none, trivial, received_of_ok ?_⟩
    show (receiveGetVersionInfo n).answer m = _
    unfold receiveGetVersionInfo
    rw [answer_checkHeader_bind h9, answer_u32_bind, answer_check_bind m fun h => absurd h hret,
      answer_check_bind m fun _ => hn, answer_checkOutputSize_bind hlen, if_neg hret, answer_pure]
    rfl
  | openSDSession sdId =>
    refine ⟨.none, trivial, received_of_ok ?_⟩
    exact (answer_bind_of_ok m (answer_receiveSized_of_ne hlen h9 (hne (by decide)) _ _) _).trans (answer_pure m _)
  | closeSDSession sdHandle =>
    refine ⟨.none, trivial, received_of_ok ?_⟩
    show (receiveCloseSDSession n).answer m = _
    unfold receiveCloseSDSession
    rw [answer_bind_of_ok m (answer_receiveCode hlen hn _)]
    simp only [if_neg (jhiErrorToTeeError_ne_success hret), answer_pure]
    rfl
  | sendAdminCmdPkg sdHandle package =>
    refine ⟨.none, trivial, received_of_ok ?_⟩
    exact (answer_bind_of_ok m (answer_receiveCode hlen hn _) _).trans (answer_pure m _)
  | listInstalledTAs | listInstalledSDs =>
    exact ⟨.uuids 0 [], ⟨rfl, rfl⟩, received_of_error (answer_receiveSuccess_bind_of_error h9 hret)⟩
  | queryTEEMetadata | provisionOemMasterKey | setTAEncryptionKey =>
    exact ⟨.none, trivial, received_of_error (answer_receiveSuccess_bind_of_error h9 hret)⟩
  | getSessionTable | getLoadedAppletsList => cases hq

end BareCode

/-! ### The fields of a response -/

section Fields

variable (ρ : Junk → UInt8)

theorem memory_headerStore (retCode dataLength : UInt32) (data : Cell Junk) (body : List (Nat × List (Cell Junk))) :
    (Message.mk dataLength (headerStore retCode dataLength data :: body)).memory ρ =
      storeAll (store (fun i => ρ (.heap i)) 0 (le32 retCode ++ le32 dataLength ++ [data.render ρ]))
        (body.map fun w => (w.1, w.2.map (Cell.render ρ))) := by
  rw [Message.memory_eq]
  simp only [List.map_cons, headerStore, List.map_append, Cell.map_render_ofBytes, storeAll_cons, List.map_nil]

theorem memory_response (retCode dataLength : UInt32) (body : List (Nat × List (Cell Junk))) :
    (response retCode dataLength body).memory ρ =
      storeAll (store (fun i => ρ (.heap i)) 0 (le32 retCode ++ le32 dataLength ++ [ρ (.stack 8)]))
        (body.map fun w => (w.1, w.2.map (Cell.render ρ))) := memory_headerStore ρ retCode dataLength _ body

theorem slice_responseHeader {retCode dataLength : UInt32} {data : Cell Junk} {body : List (Nat × List (Cell Junk))}
    (hbody : ∀ w ∈ body, 8 ≤ w.1) :
    slice ((Message.mk dataLength (headerStore retCode dataLength data :: body)).memory ρ) 0 8 =
      le32 retCode ++ le32 dataLength := by
  rw [memory_headerStore]
  have hheader : slice (storeAll (store (fun i => ρ (.heap i)) 0 (le32 retCode ++ le32 dataLength ++ [data.render ρ]))
      (body.map fun w => (w.1, w.2.map (Cell.render ρ)))) 0 8 =
      slice (store (fun i => ρ (.heap i)) 0 (le32 retCode ++ le32 dataLength ++ [data.render ρ])) 0 8 := by
    refine slice_congr fun i hi => storeAll_apply_of_outside fun w hw => .inl ?_
    obtain ⟨v, hv, rfl⟩ := List.mem_map.1 hw
    have hv8 := hbody v hv
    simp only
    omega
  rw [hheader, slice_store_of_subset _ _ _ le_rfl (by simp), Nat.sub_self, List.drop_zero]
  exact List.take_left' (by simp)

theorem hears_of {o : Message} {retCode : UInt32} {ρ : Junk → UInt8} {rest : Nat → UInt8}
    {P : UInt32 → (Nat → UInt8) → Prop} (hheader : slice (o.memory ρ) 0 8 = le32 retCode ++ le32 o.size)
    (hsize : 9 ≤ o.size.toNat)
    (h : ∀ n m, o.size = n → u32At m 0 = retCode → u32At m 4 = n →
      (∀ off len, off + len ≤ n.toNat → slice m off len = slice (o.memory ρ) off len) → P n m) :
    P o.size (o.received ρ rest) := by
  have hslice : ∀ off len, off + len ≤ o.size.toNat →
      slice (o.received ρ rest) off len = slice (o.memory ρ) off len :=
    fun off len hle => Message.slice_received o ρ rest hle
  have hreceived : slice (o.received ρ rest) 0 (4 + 4) = le32 retCode ++ le32 o.size := by
    rw [hslice 0 8 (by omega), hheader]
  rw [slice_add] at hreceived
  obtain ⟨hret, hlen⟩ := List.append_inj hreceived (by simp)
  exact h o.size _ rfl (u32At_eq hret) (u32At_eq hlen) hslice

end Fields

/-! ### Responses of fixed size -/

section Fixed

variable (ρ : Junk → UInt8) (rest : Nat → UInt8)

theorem receive_respondCode {x : UInt32 → Scan ClientResult ClientResult} {internalError : JhiRet}
    {f : JhiRet → ClientResult} (hx : ∀ n, x n = do
      let retCode ← receiveCode n internalError
      return f retCode) (retCode : JhiRet) :
    received (x (respondCode retCode).size) ((respondCode retCode).received ρ rest) = f retCode := by
  refine hears_of (o := respondCode retCode) (P := fun n m => received (x n) m = f retCode)
    (slice_responseHeader ρ (by simp)) (by exact (by decide : 9 ≤ 9)) fun n m ho hret hlen hm => ?_
  have hn : n.toNat = sizeofJhiResponse := by rw [← ho]; rfl
  refine received_of_ok ?_
  rw [hx, answer_bind_of_ok m (answer_receiveCode hlen hn _), answer_pure, hret]

theorem received_sized {n : UInt32} {m : Nat → UInt8} {x : Scan ClientResult ClientResult} {internalError : JhiRet}
    {size : UInt32} {out : Scan ClientResult ClientOut} {g : JhiRet → ClientOut → ClientResult} {v : ClientOut}
    (hx : x = do
      let r ← receiveSized n internalError size out
      return g r.1 r.2)
    (hlen : u32At m 4 = n) (hn : 9 ≤ n.toNat) (hsize : n = size) (hout : out.answer m = .ok v) :
    received x m = g (u32At m 0) v := by
  refine received_of_ok ?_
  rw [hx, answer_bind_of_ok m (answer_receiveSized hlen hn hsize hout _), answer_pure]

theorem receive_respondGetSessionsCount (retCode : JhiRet) (count : UInt32) (appId : AppId) :
    received (receive (respondGetSessionsCount retCode count).size (.getSessionsCount appId))
      ((respondGetSessionsCount retCode count).received ρ rest) = ⟨retCode, .sessionCount count⟩ := by
  refine hears_of (o := respondGetSessionsCount retCode count)
    (P := fun n m => received (receive n (.getSessionsCount appId)) m = _)
    (slice_responseHeader ρ (by simp)) (by exact (by decide : 9 ≤ 13)) fun n m ho hret hlen hm => ?_
  have hn : n.toNat = 13 := by rw [← ho]; rfl
  have hcount : u32At m 8 = count := by
    refine u32At_eq ?_
    rw [hm 8 4 (by omega), respondGetSessionsCount, memory_response]
    simp
  rw [← hret]
  refine received_sized (g := ClientResult.mk) rfl hlen (by omega) ho.symm ?_
  rw [answer_u32_bind, answer_pure, hcount]

theorem receive_respondCreateSession (retCode : JhiRet) (id : Option SessionId) (appId : AppId) (flags : UInt32)
    (initBuffer : Bytes) (processInfo : ProcessInfo) :
    received (receive (respondCreateSession retCode id).size (.createSession appId flags initBuffer processInfo))
      ((respondCreateSession retCode id).received ρ rest) =
      ⟨retCode, .sessionId ((id.map SessionId.bytes).getD (List.replicate 16 0))⟩ := by
  refine hears_of (o := respondCreateSession retCode id)
    (P := fun n m => received (receive n (.createSession appId flags initBuffer processInfo)) m = _)
    (slice_responseHeader ρ (by simp)) (by exact (by decide : 9 ≤ 25)) fun n m ho hret hlen hm => ?_
  have hn : n.toNat = 25 := by rw [← ho]; rfl
  have hid : ((id.map SessionId.bytes).getD (List.replicate 16 0)).length = 16 := by
    cases id with
    | none => rfl
    | some id => exact id.length_eq
  have hbytes : slice m 8 16 = (id.map SessionId.bytes).getD (List.replicate 16 0) := by
    rw [hm 8 16 (by omega), respondCreateSession, memory_response]
    simp only [List.map_cons, List.map_nil, Cell.map_render_ofBytes, storeAll_cons, storeAll_nil]
    exact slice_store_self _ _ _ hid.symm
  rw [← hret]
  refine received_sized (g := ClientResult.mk) rfl hlen (by omega) ho.symm ?_
  rw [answer_bytes_bind, answer_pure, hbytes]

theorem receive_respondGetSessionInfo (retCode : JhiRet) (state flags : UInt32) (sessionId : SessionId) :
    received (receive (respondGetSessionInfo retCode state flags).size (.getSessionInfo sessionId))
      ((respondGetSessionInfo retCode state flags).received ρ rest) =
      ⟨retCode, .sessionInfo (le32 state ++ le32 flags ++ List.replicate 80 0)⟩ := by
  refine hears_of (o := respondGetSessionInfo retCode state flags)
    (P := fun n m => received (receive n (.getSessionInfo sessionId)) m = _)
    (slice_responseHeader ρ (by simp)) (by exact (by decide : 9 ≤ 97)) fun n m ho hret hlen hm => ?_
  have hn : n.toNat = 97 := by rw [← ho]; rfl
  have hbytes : slice m 8 88 = le32 state ++ le32 flags ++ List.replicate 80 0 := by
    rw [hm 8 88 (by omega), respondGetSessionInfo, memory_response]
    simp only [List.map_cons, List.map_nil, Cell.map_render_ofBytes, storeAll_cons, storeAll_nil]
    exact slice_store_self _ _ _ (by simp)
  rw [← hret]
  refine received_sized (g := ClientResult.mk) rfl hlen (by omega) ho.symm ?_
  rw [answer_bytes_bind, answer_pure, hbytes]

theorem receive_respondOpenSDSession {sdHandle : VmHandle} (h : sdHandle ≠ 0) (sdId : Bytes) :
    received (receive (respondOpenSDSession teeStatusSuccess sdHandle).size (.openSDSession sdId))
      ((respondOpenSDSession teeStatusSuccess sdHandle).received ρ rest) = ⟨teeStatusSuccess, .sdHandle sdHandle⟩ := by
  have ho : respondOpenSDSession teeStatusSuccess sdHandle =
      response teeStatusSuccess (UInt32.ofNat sizeofJhiResponse - 1 + sizeofResCreateSDSession)
        [(8, Cell.ofBytes (le64 sdHandle))] := by
    unfold respondOpenSDSession
    rw [if_pos rfl, if_neg h]
  rw [ho]
  refine hears_of (P := fun n m => received (receive n (.openSDSession sdId)) m = _)
    (slice_responseHeader ρ (by simp)) (by exact (by decide : 9 ≤ 16)) fun n m ho hret hlen hm => ?_
  have hn : n.toNat = 16 := by rw [← ho]; rfl
  have hhandle : u64At m 8 = sdHandle := by
    refine u64At_eq ?_
    rw [hm 8 8 (by omega), memory_response]
    simp only [List.map_cons, List.map_nil, Cell.map_render_ofBytes, storeAll_cons, storeAll_nil]
    exact slice_store_self _ _ _ (by simp)
  have hresult := received_sized (g := fun retCode out => ⟨jhiErrorToTeeError retCode, out⟩) (v := .sdHandle sdHandle)
    (x := receiveOpenSDSession n) (m := m) rfl hlen (by omega) ho.symm
    (by rw [answer_u64_bind, answer_pure, hhandle])
  rw [hret] at hresult
  exact hresult

/-- The fields of a `JHI_VERSION_INFO` that are set: both versions, as far as their terminators, and the
three numbers. -/
def VersionFields (info : VersionInfo) (bytes : Bytes) : Prop :=
  bytes.take 50 = strncpy 50 info.jhiVersion ∧
  (bytes.drop 50).take (min 50 ((cString info.fwVersion).length + 1)) = (cString info.fwVersion ++ [0]).take 50 ∧
  (bytes.drop 100).take 12 = le32 info.commType ++ le32 info.platformId ++ le32 info.vmType

theorem versionFields_render (info : VersionInfo) : VersionFields info ((versionInfoCells info).map (Cell.render ρ)) := by
  have hjhi := length_strncpy 50 info.jhiVersion
  unfold VersionFields versionInfoCells versionBufferSize
  simp only [List.map_append, List.map_take, Cell.map_render_ofBytes]
  generalize hfw : (cString info.fwVersion ++ [0] ++ (raws Junk.stack 50).map (Cell.render ρ)).take 50 = fw
  have hfwLen : fw.length = 50 := by
    rw [← hfw]
    simp
  refine ⟨?_, ?_, ?_⟩
  · rw [List.append_assoc, List.append_assoc]
    exact List.take_left' hjhi
  · rw [List.append_assoc, List.append_assoc, List.drop_left' hjhi, List.take_append_of_le_length (by omega), ← hfw,
      List.take_take, Nat.min_eq_left (Nat.min_le_left _ _), List.take_append_of_le_length (by simp), ← List.take_take]
    rw [List.take_of_length_le (l := cString info.fwVersion ++ [0]) (by simp)]
  · rw [List.append_assoc, List.append_assoc, ← List.drop_drop (i := 50) (j := 50), List.drop_left' hjhi,
      List.drop_left' hfwLen]
    exact List.take_left' (by simp)

theorem receive_respondGetVersionInfo (info : VersionInfo) :
    ∃ bytes, VersionFields info bytes ∧ received (receive (respondGetVersionInfo info).size .getVersionInfo)
      ((respondGetVersionInfo info).received ρ rest) = ⟨jhiSuccess, .version bytes⟩ := by
  refine ⟨_, versionFields_render ρ info, ?_⟩
  refine hears_of (o := respondGetVersionInfo info) (P := fun n m => received (receive n .getVersionInfo) m = _)
    (slice_responseHeader ρ (by simp)) (by exact (by decide : 9 ≤ 197)) fun n m ho hret hlen hm => ?_
  have hn : n.toNat = 197 := by rw [← ho]; rfl
  have hsize : n.toNat = sizeofJhiResponse + sizeofVersionInfo.toNat := hn
  have hbytes : slice m 8 188 = (versionInfoCells info).map (Cell.render ρ) := by
    rw [hm 8 188 (by omega), respondGetVersionInfo, memory_response]
    simp only [List.map_cons, List.map_nil, storeAll_cons, storeAll_nil]
    exact slice_store_self _ _ _ (by rw [List.length_map, length_versionInfoCells])
  refine received_of_ok ?_
  show (receiveGetVersionInfo n).answer m = _
  unfold receiveGetVersionInfo
  rw [answer_checkHeader_bind (by omega), answer_u32_bind, hret, answer_check_bind m fun _ => hsize,
    answer_check_bind m fun h => absurd rfl h, answer_checkOutputSize_bind hlen, if_pos rfl, answer_bytes_bind,
    answer_pure, show sizeofVersionInfo.toNat = 188 from rfl, hbytes]

end Fixed

/-! ### Responses with data -/

section Data

variable (ρ : Junk → UInt8) (rest : Nat → UInt8)

theorem receive_respondGetSessionEventData (retCode : JhiRet) (dataType : Cell Junk) {data : Bytes}
    (h : 15 + data.length < 2 ^ 32) (sessionId : SessionId) :
    received (receive (respondGetSessionEventData retCode dataType data).size (.getEventData sessionId))
      ((respondGetSessionEventData retCode dataType data).received ρ rest) =
      ⟨retCode, .event (dataType.render ρ) (UInt32.ofNat data.length) (if data = [] then none else some data)⟩ := by
  have hdata : (UInt32.ofNat data.length).toNat = data.length := toNat_ofNat_length (k := 0) (by omega)
  have hsize : (respondGetSessionEventData retCode dataType data).size.toNat = 15 + data.length := by
    show (UInt32.ofNat sizeofJhiResponse + sizeofResGetEventData + UInt32.ofNat data.length).toNat = _
    rw [toNat_add_of_toNat (k := 15) rfl, hdata]
    omega
  refine hears_of (o := respondGetSessionEventData retCode dataType data)
    (P := fun n m => received (receive n (.getEventData sessionId)) m = _)
    (slice_responseHeader ρ (by simp)) (by omega) fun n m ho hret hlen hm => ?_
  rw [ho] at hsize
  have hfields : slice m 8 4 = le32 (UInt32.ofNat data.length) ∧ slice m 12 1 = [dataType.render ρ] ∧
      slice m 13 data.length = data := by
    rw [hm 8 4 (by omega), hm 12 1 (by omega), hm 13 data.length (by omega)]
    unfold respondGetSessionEventData
    have hpair : ([dataType, .byte 0] : List (Cell Junk)) = [dataType] ++ [.byte 0] := rfl
    simp only [memory_response, List.map_cons, List.map_nil, List.map_append, Cell.map_render_ofBytes, storeAll_cons,
      storeAll_nil, hpair, store_append, length_le32, List.length_cons, List.length_nil, Nat.reduceAdd, hdata,
      List.take_length]
    simp (disch := simp) only [slice_store_of_disjoint, slice_store_self, and_self]
  obtain ⟨hlength, htype, hbytes⟩ := hfields
  have htype' : m 12 = dataType.render ρ := by simpa [slice] using htype
  refine received_of_ok ?_
  show (receiveGetEventData n).answer m = _
  have h15 : sizeofJhiResponse + sizeofResGetEventData.toNat = 15 := rfl
  unfold receiveGetEventData
  rw [answer_checkHeader_bind (by omega), answer_checkOutputSize_bind hlen, h15, if_neg (by omega), answer_u8_bind,
    answer_u32_bind, u32At_eq hlength, htype', answer_check_bind m (by omega), answer_u32_bind, hret]
  by_cases hnil : data = []
  · rw [if_neg (by rw [hnil]; decide), if_pos hnil, answer_pure]
  · have hpos := List.length_pos_iff.2 hnil
    rw [if_pos (by rw [UInt32.lt_iff_toNat_lt, hdata]; exact hpos), if_neg hnil,
      answer_bind_of_ok m (answer_note m _), answer_bytes_bind, hdata, hbytes, answer_pure]

/-- The OUT parameters of an exchange. -/
def exchangeOut (rxLen : UInt32) (answer : Option SarAnswer) (retCode : JhiRet) : ClientOut :=
  let size := recvBufferSize rxLen answer
  if retCode = jhiInternalError ∨ retCode = jhiInvalidBufferSize then .none
  else .exchange (if retCode = jhiSuccess ∨ retCode = jhiInsufficientBuffer then some size else none)
    (if retCode = jhiSuccess ∧ 0 < size ∧ size ≤ rxLen then some ((recvBuffer rxLen answer).take size.toNat) else none)
    ((answer.map SarAnswer.responseCode).getD 0)

theorem answer_copyOut {m : Nat → UInt8} {c : Prop} [Decidable c] {off : Nat} {size : UInt32} {bs : Bytes}
    (h : c → slice m off size.toNat = bs) (capacity : Nat) :
    (copyOut c off size capacity).answer m = .ok (if c then some bs else none) := by
  unfold copyOut
  by_cases hc : c
  · rw [if_pos hc, if_pos hc, answer_bind_of_ok m (answer_note m _), answer_bytes_bind, h hc, answer_pure]
  · rw [if_neg hc, if_neg hc, answer_pure]

theorem receive_respondSendAndRecieve {rxLen : UInt32} {answer : Option SarAnswer} {retCode : JhiRet}
    (h : retCode = jhiSuccess → 18 + (recvBufferSize rxLen answer).toNat < 2 ^ 32) (sessionId : SessionId)
    (commandId : UInt32) (sendBuffer : Bytes) :
    received (receive (respondSendAndRecieve rxLen answer retCode).size
        (.sendAndRecv sessionId commandId sendBuffer rxLen))
      ((respondSendAndRecieve rxLen answer retCode).received ρ rest) = ⟨retCode, exchangeOut rxLen answer retCode⟩ := by
  have hbuf : (recvBuffer rxLen answer).length = rxLen.toNat := by simp [recvBuffer]
  unfold respondSendAndRecieve exchangeOut
  generalize recvBufferSize rxLen answer = size at h ⊢
  generalize (answer.map SarAnswer.responseCode).getD 0 = responseCode
  generalize recvBuffer rxLen answer = buf at hbuf ⊢
  dsimp only
  have hsize : (UInt32.ofNat sizeofJhiResponse + sizeofResSendAndRecieve +
      if retCode = jhiSuccess then size else 0).toNat = 18 + if retCode = jhiSuccess then size.toNat else 0 := by
    rw [toNat_add_of_toNat (k := 18) rfl]
    split_ifs with hret
    · exact Nat.mod_eq_of_lt (h hret)
    · rfl
  have h18 : sizeofJhiResponse + sizeofResSendAndRecieve.toNat = 18 := rfl
  refine hears_of (P := fun n m => received (receive n (.sendAndRecv sessionId commandId sendBuffer rxLen)) m = _)
    (slice_responseHeader ρ ?_) (by rw [response, hsize]; omega) fun n m ho hret hlen hm => ?_
  · split_ifs <;> simp
  have hn : n.toNat = 18 + if retCode = jhiSuccess then size.toNat else 0 := by rw [← ho]; exact hsize
  refine received_of_ok ?_
  show (receiveSendAndRecv n rxLen).answer m = _
  unfold receiveSendAndRecv
  rw [answer_checkHeader_bind (by omega), answer_checkOutputSize_bind hlen, answer_u32_bind, hret,
    if_neg (by rw [sizeofJhiResponse]; omega)]
  by_cases hnone : retCode = jhiInternalError ∨ retCode = jhiInvalidBufferSize
  · rw [if_pos hnone, if_pos hnone, answer_pure]
    rfl
  · rw [if_neg hnone] at hm
    have hfields : slice m 8 4 = le32 responseCode ∧ slice m 12 4 = le32 size := by
      rw [hm 8 4 (by omega), hm 12 4 (by omega)]
      split_ifs <;>
      · simp only [memory_response, List.map_cons, List.map_nil, Cell.map_render_ofBytes, storeAll_cons, storeAll_nil,
          store_append, List.length_append, length_le32, Nat.reduceAdd]
        simp (disch := simp) only [slice_store_of_disjoint, slice_store_self, and_self]
    have hdata : retCode = jhiSuccess ∧ 0 < size ∧ size ≤ rxLen → slice m 16 size.toNat = buf.take size.toNat := by
      intro hcopy
      have hle : size.toNat ≤ rxLen.toNat := UInt32.le_iff_toNat_le.1 hcopy.2.2
      rw [if_pos hcopy.1] at hn
      rw [hm 16 size.toNat (by omega), if_pos hcopy, memory_response]
      simp only [List.map_cons, List.map_nil, Cell.map_render_ofBytes, storeAll_cons, storeAll_nil]
      exact slice_store_self _ _ _ (by rw [List.length_take, hbuf]; omega)
    rw [if_neg hnone, if_neg hnone, h18, answer_check_bind m (by omega), answer_u32_bind, u32At_eq hfields.2,
      answer_check_bind m hn, answer_bind_of_ok m (answer_copyOut hdata _), answer_u32_bind, u32At_eq hfields.1,
      answer_pure]

/-- The OUT parameters of a property query, for a receive buffer of `rxLen` bytes with the terminator;
a caller without room for a character has no buffer. -/
def propertyOut (rxLen : UInt32) (retCode : JhiRet) (length : UInt32) (text : Bytes) : ClientOut :=
  if retCode = jhiInternalError ∨ retCode = jhiInvalidBufferSize then .none
  else .property (if retCode = jhiSuccess ∨ retCode = jhiInsufficientBuffer then some (length - 1) else none)
    (if retCode = jhiSuccess ∧ 0 < length ∧ length ≤ rxLen ∧ rxLen ≠ 1 then
      some ((strncpy rxLen.toNat text).take length.toNat) else none)

theorem receive_respondGetAppletProperty {recvBufferSize : UInt32} {result : PropertyResult} {text : Bytes}
    (h : result.retCode = jhiSuccess → 14 + result.length.toNat < 2 ^ 32)
    (htext : result.retCode = jhiSuccess → result.text = some text) (appId : AppId) (sendBuffer : Bytes) :
    received (receive (respondGetAppletProperty (recvBufferSize + 1) result).size
        (.getAppletProperty appId sendBuffer recvBufferSize))
      ((respondGetAppletProperty (recvBufferSize + 1) result).received ρ rest) =
      ⟨result.retCode, propertyOut (recvBufferSize + 1) result.retCode result.length text⟩ := by
  obtain ⟨retCode, length, resultText⟩ := result
  unfold respondGetAppletProperty propertyOut
  dsimp only at h htext ⊢
  have hsize : (UInt32.ofNat sizeofJhiResponse + sizeofResGetAppletProperty +
      if retCode = jhiSuccess then length else 0).toNat = 14 + if retCode = jhiSuccess then length.toNat else 0 := by
    rw [toNat_add_of_toNat (k := 14) rfl]
    split_ifs with hret
    · exact Nat.mod_eq_of_lt (h hret)
    · rfl
  have h14 : sizeofJhiResponse + sizeofResGetAppletProperty.toNat = 14 := rfl
  have hroom : recvBufferSize ≠ 0 ↔ recvBufferSize + 1 ≠ 1 := by
    rw [Ne, Ne, ← UInt32.add_left_inj (a := recvBufferSize) (b := 0) 1, UInt32.zero_add]
  refine hears_of (P := fun n m => received (receive n (.getAppletProperty appId sendBuffer recvBufferSize)) m = _)
    (slice_responseHeader ρ ?_) (by rw [response, hsize]; omega) fun n m ho hret hlen hm => ?_
  · split_ifs <;> simp
  have hn : n.toNat = 14 + if retCode = jhiSuccess then length.toNat else 0 := by rw [← ho]; exact hsize
  refine received_of_ok ?_
  show (receiveGetAppletProperty n recvBufferSize).answer m = _
  unfold receiveGetAppletProperty
  rw [answer_checkHeader_bind (by omega), answer_checkOutputSize_bind hlen, answer_u32_bind, hret,
    if_neg (by rw [sizeofJhiResponse]; omega)]
  by_cases hnone : retCode = jhiInternalError ∨ retCode = jhiInvalidBufferSize
  · rw [if_pos hnone, if_pos hnone, answer_pure]
    rfl
  rw [if_neg hnone, if_neg hnone, h14, answer_check_bind m (by omega), answer_u32_bind]
  by_cases hvalue : retCode = jhiSuccess ∨ retCode = jhiInsufficientBuffer
  · have hlength : u32At m 8 = length := by
      refine u32At_eq ?_
      rw [hm 8 4 (by omega), if_pos hvalue]
      split_ifs <;>
      · simp only [memory_response, List.map_cons, List.map_nil, Cell.map_render_ofBytes, storeAll_cons, storeAll_nil,
          store_append, length_le32, Nat.reduceAdd]
        simp (disch := simp) only [slice_store_of_disjoint, slice_store_self]
    have hdata : retCode = jhiSuccess ∧ 0 < length ∧ length ≤ recvBufferSize + 1 ∧ recvBufferSize ≠ 0 →
        slice m 12 length.toNat = (strncpy (recvBufferSize + 1).toNat text).take length.toNat := by
      rintro ⟨hok, hpos, hle, -⟩
      have hle' : length.toNat ≤ (recvBufferSize + 1).toNat := UInt32.le_iff_toNat_le.1 hle
      have hcopy : retCode = jhiSuccess ∧ 0 < length ∧ length ≤ recvBufferSize + 1 := ⟨hok, hpos, hle⟩
      rw [if_pos hok] at hn
      rw [hm 12 length.toNat (by omega), if_pos hvalue, if_pos hcopy, htext hok, memory_response]
      simp only [List.map_cons, List.map_nil, List.map_take, propertyBuffer, Cell.map_render_ofBytes, storeAll_cons,
        storeAll_nil]
      exact slice_store_self _ _ _ (by rw [List.length_take, length_strncpy]; omega)
    rw [hlength, answer_check_bind m hn, answer_bind_of_ok m (answer_copyOut hdata _), if_pos hvalue, if_pos hvalue,
      answer_bind_of_ok m (answer_note m _), answer_pure]
    simp only [hroom]
  · have hfail : retCode ≠ jhiSuccess := fun hok => hvalue (.inl hok)
    rw [if_neg hfail] at hn
    have hnot : ∀ {c : Prop}, ¬(retCode = jhiSuccess ∧ c) := fun hc => hfail hc.1
    rw [answer_check_bind m (by rw [if_neg hfail]; exact hn),
      answer_bind_of_ok m (@answer_copyOut m _ _ _ _ [] (fun hc => absurd hc.1 hfail) _), if_neg hvalue, if_neg hvalue,
      if_neg hnot, if_neg hnot, answer_pure]

end Data

/-! ### Security domains -/

section Domains

variable (ρ : Junk → UInt8) (rest : Nat → UInt8)

/-- The entries of a list as they are sent, and as the client accepts them. -/
def ValidList (uuids : List Bytes) : Bool := uuids.all fun id => validateUuidChar (strncpy 33 id)

theorem entry_of_take {uuids : List Bytes} {ids : Bytes} {i : Nat} {id : Bytes}
    (h : ids.take (33 * uuids.length) = uuids.flatMap (strncpy 33)) (hi : uuids[i]? = some id) :
    (ids.drop (33 * i)).take 33 = strncpy 33 id := by
  obtain ⟨hlt, hget⟩ := List.getElem?_eq_some_iff.1 hi
  have hdrop : (uuids.flatMap (strncpy 33)).drop (33 * i) = strncpy 33 id ++ (uuids.drop (i + 1)).flatMap (strncpy 33) := by
    rw [drop_flatMap_of_length (length_strncpy 33), List.drop_eq_getElem_cons hlt, List.flatMap_cons, hget]
  have htake : ((ids.take (33 * uuids.length)).drop (33 * i)).take 33 = (ids.drop (33 * i)).take 33 := by
    rw [List.drop_take, List.take_take, Nat.min_eq_left (by omega)]
  rw [← htake, h, hdrop]
  exact List.take_left' (length_strncpy 33 id)

theorem validateUuidList_eq {uuids : List Bytes} {ids : Bytes}
    (h : ids.take (33 * uuids.length) = uuids.flatMap (strncpy 33)) :
    validateUuidList uuids.length ids = ValidList uuids := by
  rw [Bool.eq_iff_iff]
  unfold validateUuidList ValidList
  rw [List.all_eq_true, List.all_eq_true]
  constructor
  · intro hall id hid
    obtain ⟨i, hi⟩ := List.mem_iff_getElem?.1 hid
    have hlt := (List.getElem?_eq_some_iff.1 hi).1
    rw [← entry_of_take h hi]
    exact hall i (List.mem_range.2 hlt)
  · intro hall i hi
    have hlt := List.mem_range.1 hi
    rw [entry_of_take h (List.getElem?_eq_getElem hlt)]
    exact hall _ (List.getElem_mem hlt)

theorem hears_list {uuids : List Bytes} (h : 13 + 33 * uuids.length < 2 ^ 32) {P : UInt32 → (Nat → UInt8) → Prop}
    (hP : ∀ n m, n.toNat = 13 + 33 * uuids.length → u32At m 0 = teeStatusSuccess → u32At m 4 = n →
      u32At m 8 = UInt32.ofNat uuids.length → slice m 12 (33 * uuids.length) = uuids.flatMap (strncpy 33) → P n m) :
    P (respondListInstalled teeStatusSuccess uuids).size
      ((respondListInstalled teeStatusSuccess uuids).received ρ rest) := by
  have hcount : (UInt32.ofNat uuids.length).toNat = uuids.length := UInt32.toNat_ofNat_of_lt' (by omega : _ < 2 ^ 32)
  have hsize := @toNat_listSize (UInt32.ofNat uuids.length) (by rw [hcount]; exact h)
  have hids := length_flatMap_of_length (length_strncpy 33) uuids
  rw [hcount] at hsize
  unfold respondListInstalled
  rw [if_pos rfl]
  simp only [hcount, List.take_length, show lenAppId + 1 = 33 from rfl]
  generalize hids' : uuids.flatMap (strncpy 33) = ids at hids hP ⊢
  have hpos : 0 < UInt32.ofNat uuids.length ↔ 0 < uuids.length := by
    rw [UInt32.lt_iff_toNat_lt, hcount, UInt32.toNat_zero]
  refine hears_of (slice_responseHeader ρ ?_) (by rw [response, hsize]; omega) fun n m ho hret hlen hm => ?_
  · split_ifs <;> simp
  have hn : n.toNat = 13 + 33 * uuids.length := by rw [← ho]; exact hsize
  refine hP n m hn hret hlen (u32At_eq ?_) ?_
  · rw [hm 8 4 (by omega)]
    split_ifs <;>
    · simp only [memory_response, List.map_cons, List.map_nil, Cell.map_render_ofBytes, storeAll_cons, storeAll_nil,
        store_append, length_le32, Nat.reduceAdd]
      simp (disch := simp) only [slice_store_of_disjoint, slice_store_self]
  · rw [hm 12 _ (by omega)]
    by_cases hne : 0 < uuids.length
    · rw [if_pos (hpos.2 hne)]
      simp only [memory_response, List.map_cons, List.map_nil, Cell.map_render_ofBytes, storeAll_cons, storeAll_nil,
        store_append, length_le32, Nat.reduceAdd]
      rw [slice_store_of_disjoint _ _ _ (.inl (by omega)), slice_store_self _ _ _ hids.symm]
    · have hzero : uuids.length = 0 := by omega
      rw [hzero] at hids ⊢
      rw [List.length_eq_zero_iff.1 hids]
      rfl

/-- What both list functions answer. -/
def ListResult (uuids : List Bytes) (r : ClientResult) : Prop :=
  if ValidList uuids then
    ∃ (count : UInt8) (ids : Bytes), r = ⟨teeStatusSuccess, .uuids count ids⟩ ∧ count.toNat = uuids.length ∧
      ids.take (33 * uuids.length) = uuids.flatMap (strncpy 33)
  else r = noUuids teeStatusInternalError

theorem sub_13_eq {n : UInt32} {k : Nat} (h : 13 + 33 * k < 2 ^ 32) (hn : n.toNat = 13 + 33 * k) :
    n - 13 = 33 * UInt32.ofNat k := by
  have hk : (UInt32.ofNat k).toNat = k := UInt32.toNat_ofNat_of_lt' (by omega : _ < 2 ^ 32)
  rw [← UInt32.toNat_inj, toNat_sub_13 (by omega), UInt32.toNat_mul, hk, hn]
  simp only [UInt32.reduceToNat]
  omega

theorem listResult_takeUuids {n : UInt32} {m : Nat → UInt8} {uuids : List Bytes} (h256 : uuids.length < 256)
    (hn : n.toNat = 13 + 33 * uuids.length)
    (hids : slice m 12 (33 * uuids.length) = uuids.flatMap (strncpy 33)) {x : Scan ClientResult ClientResult}
    (hx : x.answer m = (takeUuids n (UInt32.ofNat uuids.length)).answer m) : ListResult uuids (received x m) := by
  have hcount : (UInt32.ofNat uuids.length).toUInt8.toNat = uuids.length := by
    rw [UInt32.toNat_toUInt8, UInt32.toNat_ofNat']
    omega
  have htake : (slice m 12 n.toNat).take (33 * uuids.length) = uuids.flatMap (strncpy 33) := by
    rw [take_slice _ _ (by omega), hids]
  unfold takeUuids at hx
  rw [answer_bind_of_ok m (answer_note m _), answer_bytes_bind] at hx
  unfold ListResult
  by_cases hvalid : ValidList uuids = true
  · rw [answer_check_bind m (by rw [hcount, validateUuidList_eq htake]; exact hvalid), answer_pure] at hx
    rw [if_pos hvalid]
    exact ⟨_, _, received_of_ok hx, hcount, htake⟩
  · rw [answer_check_bind_of_not m (by rw [hcount, validateUuidList_eq htake]; exact hvalid)] at hx
    rw [if_neg hvalid]
    exact received_of_error hx

theorem receive_listInstalledTAs {uuids : List Bytes} (h : 13 + 33 * uuids.length < 2 ^ 32)
    (h256 : uuids.length < 256) (sdHandle : VmHandle) :
    ListResult uuids (received (receive (respondListInstalled teeStatusSuccess uuids).size (.listInstalledTAs sdHandle))
      ((respondListInstalled teeStatusSuccess uuids).received ρ rest)) := by
  refine hears_list ρ rest h (P := fun n m => ListResult uuids (received (receive n (.listInstalledTAs sdHandle)) m))
    fun n m hn hret hlen hcount hids => ?_
  refine listResult_takeUuids h256 hn hids ?_
  show (receiveListInstalledTAs n).answer m = _
  unfold receiveListInstalledTAs
  rw [answer_bind_of_ok m (answer_receiveSuccess hlen (by omega) hret), answer_bind_of_ok m (answer_note m _),
    answer_u32_bind, hcount, answer_check_bind m (sub_13_eq h hn)]

/-- The last byte of the ids is the terminator of the last entry, if that is valid. -/
theorem receive_listInstalledSDs {uuids : List Bytes} (h : 13 + 33 * uuids.length < 2 ^ 32)
    (h256 : uuids.length < 256) (hne : uuids ≠ []) (sdHandle : VmHandle) :
    ListResult uuids (received (receive (respondListInstalled teeStatusSuccess uuids).size (.listInstalledSDs sdHandle))
      ((respondListInstalled teeStatusSuccess uuids).received ρ rest)) := by
  have hpos := List.length_pos_iff.2 hne
  refine hears_list ρ rest h (P := fun n m => ListResult uuids (received (receive n (.listInstalledSDs sdHandle)) m))
    fun n m hn hret hlen hcount hids => ?_
  have hshape : (receiveListInstalledSDs n).answer m = ((do
      check (m (n.toNat - 2) = 0) (noUuids teeStatusInternalError)
      takeUuids n (UInt32.ofNat uuids.length) : Scan ClientResult ClientResult)).answer m := by
    unfold receiveListInstalledSDs
    rw [answer_bind_of_ok m (answer_receiveSuccess hlen (by omega) hret), answer_bind_of_ok m (answer_note m _),
      answer_u32_bind, hcount, answer_check_bind m (sub_13_eq h hn), answer_bind_of_ok m (answer_note m _),
      answer_u8_bind, last_index (by omega)]
  by_cases hlast : m (n.toNat - 2) = 0
  · rw [answer_check_bind m hlast] at hshape
    exact listResult_takeUuids h256 hn hids hshape
  · rw [answer_check_bind_of_not m hlast] at hshape
    have hvalid : ¬ValidList uuids = true := by
      intro hall
      refine hlast ?_
      have hget : uuids[uuids.length - 1]? = some (uuids.getLast hne) := by
        rw [List.getElem?_eq_getElem (by omega), List.getLast_eq_getElem]
      have htake : (slice m 12 (33 * uuids.length)).take (33 * uuids.length) = uuids.flatMap (strncpy 33) := by
        rw [take_slice m 12 le_rfl, hids]
      have hentry := entry_of_take htake hget
      have hchar := List.all_eq_true.1 hall _ (List.getLast_mem hne)
      unfold validateUuidChar at hchar
      have hzero : (strncpy 33 (uuids.getLast hne))[32]? = some 0 :=
        of_decide_eq_true (Bool.and_eq_true_iff.1 hchar).1
      rw [← hentry, List.getElem?_take_of_lt (by omega), List.getElem?_drop, getElem?_slice, if_pos (by omega)] at hzero
      have hindex : n.toNat - 2 = 12 + (33 * (uuids.length - 1) + 32) := by omega
      rw [hindex]
      exact Option.some.inj hzero
    unfold ListResult
    rw [if_neg hvalid]
    exact received_of_error hshape

theorem receive_respondQueryTeeMetadata {metadata : Bytes} (h : 12 + metadata.length < 2 ^ 32) (maxLength : Nat) :
    received (receive (respondQueryTeeMetadata teeStatusSuccess metadata).size (.queryTEEMetadata maxLength))
      ((respondQueryTeeMetadata teeStatusSuccess metadata).received ρ rest) =
      if maxLength ≤ metadata.length then ⟨teeStatusSuccess, .metadata (metadata.take maxLength)⟩
      else .code teeStatusInternalError := by
  have hlen : (UInt32.ofNat metadata.length).toNat = metadata.length := toNat_ofNat_length (k := 0) (by omega)
  have hsize : ((UInt32.ofNat sizeofJhiResponse - 1) + (sizeofResQueryTeeMetadata - 1) +
      UInt32.ofNat metadata.length).toNat = 12 + metadata.length := by
    rw [toNat_add_of_toNat (k := 12) rfl, hlen]
    omega
  unfold respondQueryTeeMetadata
  rw [if_pos rfl]
  simp only [hlen, List.take_length]
  refine hears_of (P := fun n m => received (receive n (.queryTEEMetadata maxLength)) m = _)
    (slice_responseHeader ρ (by simp)) (by rw [hsize]; omega) fun n m ho hret hlenm hm => ?_
  have hn : n.toNat = 12 + metadata.length := by rw [← ho]; exact hsize
  have hdata : slice m 12 metadata.length = metadata := by
    rw [hm 12 _ (by omega), memory_headerStore]
    simp only [List.map_cons, List.map_nil, Cell.map_render_ofBytes, storeAll_cons, storeAll_nil]
    exact slice_store_self _ _ _ rfl
  have h64 : (n.toUInt64 - 12).toNat = metadata.length := by
    rw [UInt64.toNat_sub_of_le _ _ (UInt64.le_iff_toNat_le.2 (by simp only [UInt32.toNat_toUInt64, UInt64.reduceToNat]; omega)),
      UInt32.toNat_toUInt64, hn]
    simp only [UInt64.reduceToNat]
    omega
  by_cases hle : maxLength ≤ metadata.length
  · rw [if_pos hle]
    refine received_of_ok ?_
    show (receiveQueryTEEMetadata n maxLength).answer m = _
    unfold receiveQueryTEEMetadata
    rw [answer_bind_of_ok m (answer_receiveSuccess hlenm (by omega) hret), answer_bind_of_ok m (answer_note m _),
      answer_check_bind m (by rw [h64]; exact hle), answer_bind_of_ok m (answer_note m _), answer_bytes_bind,
      answer_pure, ← take_slice m 12 hle, hdata]
  · rw [if_neg hle]
    refine received_of_error ?_
    show (receiveQueryTEEMetadata n maxLength).answer m = _
    unfold receiveQueryTEEMetadata
    rw [answer_bind_of_ok m (answer_receiveSuccess hlenm (by omega) hret), answer_bind_of_ok m (answer_note m _),
      answer_check_bind_of_not m (by rw [h64]; exact hle)]

end Domains

end DalHost

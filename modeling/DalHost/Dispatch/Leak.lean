import DalHost.Dispatch.Process

/-!
# Memory of the service in its responses

A response shows what the memory held before exactly when one of its cells was not written
(`Message.deterministic_iff`). For every handler the size of the response and the conditions under
which it is filled are compared here. The result is that almost every response has such a cell:
the header ends in a byte `data[0]` that only `InvokeQueryTeeMetadata` clears, and the body starts
on that byte, so that a size computed as header plus body is one byte too large.
-/

namespace DalHost

/-- Whatever the memory held before, the response is the same. -/
def Message.Deterministic (o : Message) : Prop := ∀ ρ ρ', o.bytes ρ = o.bytes ρ'

theorem Message.deterministic_iff (o : Message) : o.Deterministic ↔ ∀ i, i < o.size.toNat → (o.cell i).IsByte :=
  Cell.render_independent_iff o.cell o.size.toNat

/-! ### Cells of a response -/

section Cells

variable {retCode dataLength : UInt32} {body : List (Nat × List (Cell Junk))}

theorem response_leaks_of_outside {i : Nat} (hi : 9 ≤ i) (hsize : i < dataLength.toNat)
    (h : ∀ w ∈ body, i < w.1 ∨ w.1 + w.2.length ≤ i) : ¬(response retCode dataLength body).Deterministic := by
  rw [Message.deterministic_iff]
  intro hdet
  have hcell : (response retCode dataLength body).cell i = .raw (.heap i) := by
    refine storeAll_apply_of_outside fun w hw => ?_
    rcases List.mem_cons.1 hw with rfl | hw
    · refine .inr ?_
      simpa [headerStore] using hi
    · exact h w hw
  have hbyte := hdet i hsize
  rw [hcell] at hbyte
  exact Cell.not_isByte_raw _ hbyte

theorem response_nil_leaks (hsize : 9 ≤ dataLength.toNat) : ¬(response retCode dataLength []).Deterministic := by
  rw [Message.deterministic_iff]
  intro hdet
  exact Cell.not_isByte_raw _ (hdet 8 hsize)

theorem response_deterministic (ws : List (Nat × Bytes)) (hbody : body = ws.map fun w => (w.1, Cell.ofBytes w.2))
    (h : ∀ i, 8 ≤ i → i < dataLength.toNat → ∃ w ∈ ws, w.1 ≤ i ∧ i < w.1 + w.2.length) :
    (response retCode dataLength body).Deterministic := by
  rw [Message.deterministic_iff]
  intro i hi
  change (storeAll (store _ 0 (headerStore retCode dataLength (.raw (.stack 8))).2) body i).IsByte
  subst hbody
  refine isByte_storeAll ?_ ?_
  · rintro _ hw c hc
    obtain ⟨w, -, rfl⟩ := List.mem_map.1 hw
    exact Cell.isByte_of_mem_ofBytes hc
  by_cases h8 : 8 ≤ i
  · obtain ⟨w, hw, hin⟩ := h i h8 hi
    exact .inr ⟨_, List.mem_map_of_mem hw, by simpa using hin⟩
  · left
    have hmem := store_apply_mem (fun i => .raw (.heap i)) (headerStore retCode dataLength (.raw (.stack 8))).2
      (Nat.zero_le i) (by simp [headerStore]; omega)
    have hget : (headerStore retCode dataLength (.raw (.stack 8))).2[i - 0]? =
        (Cell.ofBytes (le32 retCode ++ le32 dataLength))[i]? :=
      List.getElem?_append_left (by simp; omega)
    exact Cell.isByte_of_mem_ofBytes (List.mem_of_getElem? (hmem.trans hget).symm)

end Cells

/-! ### Responses of fixed size -/

theorem respondCode_leaks (retCode : JhiRet) : ¬(respondCode retCode).Deterministic := response_nil_leaks (by decide)

theorem respondGetSessionsCount_leaks (retCode : JhiRet) (count : UInt32) :
    ¬(respondGetSessionsCount retCode count).Deterministic :=
  response_leaks_of_outside (i := 12) (by decide) (by decide) (by simp)

theorem respondCreateSession_leaks (retCode : JhiRet) (sessionId : Option SessionId) :
    ¬(respondCreateSession retCode sessionId).Deterministic := by
  refine response_leaks_of_outside (i := 24) (by decide) (by decide) ?_
  cases sessionId with
  | none => simp
  | some id => simp [id.length_eq]

theorem respondGetSessionInfo_leaks (retCode : JhiRet) (state flags : UInt32) :
    ¬(respondGetSessionInfo retCode state flags).Deterministic :=
  response_leaks_of_outside (i := 96) (by decide) (by decide) (by simp)

theorem respondEmulationError_leaks (retCode : JhiRet) : ¬(respondEmulationError retCode).Deterministic := by
  rw [Message.deterministic_iff]
  intro hdet
  have hsize : 8 < (UInt32.ofNat sizeofJhiResponse).toNat := by decide
  exact Cell.not_isByte_raw _ (hdet 8 hsize)

theorem respondGetVersionInfo_leaks (info : VersionInfo) : ¬(respondGetVersionInfo info).Deterministic :=
  response_leaks_of_outside (i := 196) (by decide) (by decide) (by simp [length_versionInfoCells])

/-! ### Responses with data -/

/-- The size of a response with data is that of a fixed part and of the data, and its last byte is never
written: the response shows memory unless the size wraps, and then only the fixed part is left. -/
theorem response_deterministic_iff_wraps {retCode dataLength : UInt32} {body : List (Nat × List (Cell Junk))}
    {k r : Nat} (hk : 10 ≤ k) (hr : r < 2 ^ 32) (hsize : dataLength.toNat = (k + r) % 2 ^ 32)
    (ws : List (Nat × Bytes)) (hbody : body = ws.map fun w => (w.1, Cell.ofBytes w.2))
    (hfixed : ∃ bs : Bytes, (8, bs) ∈ ws ∧ bs.length = k - 9)
    (hends : ∀ w ∈ ws, w.1 + w.2.length ≤ k - 1 + r) (hk' : k < 2 ^ 32) :
    (response retCode dataLength body).Deterministic ↔ 2 ^ 32 ≤ k + r := by
  constructor
  · intro hdet
    by_contra hwrap
    refine response_leaks_of_outside (i := k - 1 + r) (by omega) (by omega) (fun w hw => .inr ?_) hdet
    subst hbody
    obtain ⟨w, hmem, rfl⟩ := List.mem_map.1 hw
    rw [Cell.length_ofBytes]
    exact hends w hmem
  · intro hwrap
    obtain ⟨bs, hbs, hlen⟩ := hfixed
    refine response_deterministic ws hbody fun i h8 hi => ⟨(8, bs), hbs, h8, ?_⟩
    rw [hlen]
    omega

theorem respondGetSessionEventData_deterministic_iff (retCode : JhiRet) (dataType : UInt8) (data : Bytes) :
    (respondGetSessionEventData retCode (.byte dataType) data).Deterministic ↔
      2 ^ 32 ≤ 15 + (UInt32.ofNat data.length).toNat := by
  have hfixed : (UInt32.ofNat sizeofJhiResponse + sizeofResGetEventData).toNat = 15 := by decide
  let fields : Bytes := le32 (UInt32.ofNat data.length) ++ [dataType, 0]
  have htake := List.length_take_le (UInt32.ofNat data.length).toNat data
  refine response_deterministic_iff_wraps (by decide) (UInt32.toNat_lt _) (toNat_add_of_toNat hfixed _)
    [(8, fields), (13, data.take (UInt32.ofNat data.length).toNat)] (by simp [fields, Cell.ofBytes])
    ⟨fields, by simp, rfl⟩ ?_ (by decide)
  have hfields : fields.length = 6 := rfl
  simp only [List.forall_mem_cons, hfields, List.not_mem_nil, false_implies, implies_true, and_true]
  omega

theorem respondSendAndRecieve_deterministic_iff (rxLen : UInt32) (answer : Option SarAnswer) (retCode : JhiRet) :
    (respondSendAndRecieve rxLen answer retCode).Deterministic ↔
      retCode = jhiSuccess ∧ 2 ^ 32 ≤ 18 + (recvBufferSize rxLen answer).toNat := by
  unfold respondSendAndRecieve
  generalize recvBufferSize rxLen answer = r
  generalize recvBuffer rxLen answer = rxBuf
  generalize (answer.map SarAnswer.responseCode).getD 0 = responseCode
  have hfixed : (UInt32.ofNat sizeofJhiResponse + sizeofResSendAndRecieve).toNat = 18 := by decide
  have hdata := List.length_take_le r.toNat rxBuf
  let fields : Bytes := le32 responseCode ++ le32 r ++ [0]
  have hfields : fields.length = 9 := rfl
  by_cases hret : retCode = jhiSuccess
  · subst hret
    have hnot : ¬(jhiSuccess = jhiInternalError ∨ jhiSuccess = jhiInvalidBufferSize) := by decide
    simp only [if_neg hnot, true_and, if_true]
    refine response_deterministic_iff_wraps (by decide) r.toNat_lt (toNat_add_of_toNat hfixed r)
      ((8, fields) :: if 0 < r ∧ r ≤ rxLen then [(16, rxBuf.take r.toNat)] else [])
      (by split_ifs <;> rfl) ⟨fields, List.mem_cons_self, rfl⟩ ?_ (by decide)
    rw [List.forall_mem_cons, hfields]
    refine ⟨by omega, fun w hw => ?_⟩
    split_ifs at hw
    · rw [List.mem_singleton.1 hw]
      dsimp only
      omega
    · cases hw
  · simp only [hret, false_and, if_false, iff_false]
    split_ifs
    · exact response_nil_leaks (by decide)
    · exact response_leaks_of_outside (i := 17) (by decide) (by decide) (by simp)

theorem respondGetAppletProperty_deterministic_iff {rxLen : UInt32} (hrx : rxLen.toNat ≤ jhiBufferMax)
    (result : PropertyResult) : (respondGetAppletProperty rxLen result).Deterministic ↔
      result.retCode = jhiSuccess ∧ 2 ^ 32 ≤ 14 + result.length.toNat := by
  unfold respondGetAppletProperty
  have hfixed : (UInt32.ofNat sizeofJhiResponse + sizeofResGetAppletProperty).toNat = 14 := by decide
  have hsize := toNat_add_of_toNat hfixed result.length
  by_cases hret : result.retCode = jhiSuccess
  · simp only [hret, true_or, true_and, if_true]
    split_ifs with hcopy
    · -- the copy fits the receive buffer, so the size does not wrap
      have hle : result.length.toNat ≤ rxLen.toNat := UInt32.le_iff_toNat_le.1 hcopy.2
      have hdata := List.length_take_le result.length.toNat (propertyBuffer rxLen result.text)
      have hsmall : 14 + result.length.toNat < 2 ^ 32 := by
        unfold jhiBufferMax at hrx
        omega
      refine iff_of_false (response_leaks_of_outside (i := 13 + result.length.toNat) (by omega) (by omega) ?_) (by omega)
      simp only [List.forall_mem_cons, List.length_append, Cell.length_ofBytes, length_le32, List.length_cons,
        List.length_nil, List.not_mem_nil, false_implies, implies_true, and_true]
      omega
    · let fields : Bytes := le32 result.length ++ [0]
      have hfields : fields.length = 5 := rfl
      refine response_deterministic_iff_wraps (by decide) result.length.toNat_lt hsize [(8, fields)] rfl
        ⟨fields, List.mem_cons_self, rfl⟩ ?_ (by decide)
      rw [List.forall_mem_singleton, hfields]
      omega
  · simp only [hret, false_and, if_false, iff_false, false_or]
    split_ifs
    · exact response_leaks_of_outside (i := 13) (by decide) (by decide) (by simp)
    · exact response_nil_leaks (by decide)

/-! ### Security domains -/

theorem respondOpenSDSession_deterministic_iff (retCode : JhiRet) (sdHandle : VmHandle) :
    (respondOpenSDSession retCode sdHandle).Deterministic ↔ retCode = teeStatusSuccess ∧ sdHandle ≠ 0 := by
  unfold respondOpenSDSession
  split_ifs with hret hhandle
  · exact iff_of_false (response_nil_leaks (by decide)) fun h => h.2 hhandle
  · refine iff_of_true (response_deterministic [(8, le64 sdHandle)] rfl fun i h8 hi => ?_) ⟨hret, hhandle⟩
    have hsize : (UInt32.ofNat sizeofJhiResponse - 1 + sizeofResCreateSDSession).toNat = 16 := by decide
    exact ⟨_, List.mem_cons_self, h8, by rw [length_le64]; omega⟩
  · exact iff_of_false (respondCode_leaks retCode) fun h => hret h.1

theorem respondListInstalled_deterministic_iff (retCode : JhiRet) (uuids : List Bytes) :
    (respondListInstalled retCode uuids).Deterministic ↔ retCode = teeStatusSuccess := by
  unfold respondListInstalled
  by_cases hret : retCode = teeStatusSuccess
  · rw [if_pos hret]
    refine iff_of_true ?_ hret
    have hlen := length_take_toNat uuids
    have hids := length_flatMap_of_length (length_strncpy (lenAppId + 1)) (uuids.take (UInt32.ofNat uuids.length).toNat)
    rw [hlen] at hids
    dsimp only
    generalize (uuids.take (UInt32.ofNat uuids.length).toNat).flatMap (strncpy (lenAppId + 1)) = ids at hids ⊢
    generalize UInt32.ofNat uuids.length = count at hids ⊢
    have hfixed : ((UInt32.ofNat sizeofJhiResponse - 1) + (sizeofResListInstalled - 1)).toNat = 12 := by decide
    have hsize := toNat_add_of_toNat (toNat_add_entries hfixed count) 1
    let fields : Bytes := le32 count ++ [0]
    have hfields : fields.length = 5 := rfl
    refine response_deterministic ((8, fields) :: if 0 < count then [(12, ids ++ [0])] else [])
      (by split_ifs <;> rfl) fun i h8 hi => ?_
    have hone : (1 : UInt32).toNat = 1 := rfl
    rw [hsize, hone] at hi
    by_cases hi13 : i < 13
    · exact ⟨_, List.mem_cons_self, h8, by rw [hfields]; omega⟩
    · have hpos : 0 < count := by
        rw [UInt32.lt_iff_toNat_lt, UInt32.toNat_zero]
        omega
      refine ⟨(12, ids ++ [0]), List.mem_cons_of_mem _ (by simp [hpos]), by omega, ?_⟩
      simp only [List.length_append, hids, lenAppId, List.length_singleton]
      omega
  · rw [if_neg hret]
    exact iff_of_false (respondCode_leaks retCode) hret

theorem deterministic_of_stores {o : Message} (ws : List (Nat × Bytes))
    (hstores : o.stores = ws.map fun w => (w.1, Cell.ofBytes w.2))
    (h : ∀ i, i < o.size.toNat → ∃ w ∈ ws, w.1 ≤ i ∧ i < w.1 + w.2.length) : o.Deterministic := by
  rw [Message.deterministic_iff]
  intro i hi
  unfold Message.cell
  rw [hstores]
  refine isByte_storeAll ?_ (.inr ?_)
  · intro w' hw c hc
    obtain ⟨w, -, rfl⟩ := List.mem_map.1 hw
    exact Cell.isByte_of_mem_ofBytes hc
  · obtain ⟨w, hw, hin⟩ := h i hi
    exact ⟨_, List.mem_map_of_mem hw, by simpa using hin⟩

theorem respondQueryTeeMetadata_deterministic (retCode : JhiRet) (metadata : Bytes) :
    (respondQueryTeeMetadata retCode metadata).Deterministic := by
  unfold respondQueryTeeMetadata
  by_cases hret : retCode = teeStatusSuccess
  · rw [if_pos hret]
    dsimp only
    have hlen := length_take_toNat metadata
    generalize metadata.take (UInt32.ofNat metadata.length).toNat = data at hlen ⊢
    generalize UInt32.ofNat metadata.length = length at hlen ⊢
    have hfixed : ((UInt32.ofNat sizeofJhiResponse - 1) + (sizeofResQueryTeeMetadata - 1)).toNat = 12 := by decide
    have hsize := toNat_add_of_toNat hfixed length
    generalize ((UInt32.ofNat sizeofJhiResponse - 1) + (sizeofResQueryTeeMetadata - 1) + length) = dataLength at hsize ⊢
    let header : Bytes := le32 retCode ++ le32 dataLength ++ [0]
    let fields : Bytes := le32 length ++ [0]
    have hheader : header.length = 9 := rfl
    have hfields : fields.length = 5 := rfl
    refine deterministic_of_stores [(0, header), (8, fields), (12, data)] rfl fun i hi => ?_
    dsimp only at hi
    by_cases h9 : i < 9
    · exact ⟨(0, header), by simp, by omega, by rw [hheader]; omega⟩
    · by_cases h13 : i < 13
      · exact ⟨(8, fields), by simp, by omega, by rw [hfields]; omega⟩
      · exact ⟨(12, data), by simp, by omega, by rw [hlen]; omega⟩
  · rw [if_neg hret]
    dsimp only
    let header : Bytes := le32 retCode ++ le32 (UInt32.ofNat sizeofJhiResponse) ++ [0]
    refine deterministic_of_stores [(0, header)] rfl fun i hi => ?_
    have hheader : header.length = 9 := rfl
    have hsize : (UInt32.ofNat sizeofJhiResponse).toNat = 9 := by decide
    exact ⟨_, List.mem_cons_self, Nat.zero_le i, by rw [hheader]; dsimp only at hi; omega⟩

/-! ### The emulation -/

theorem countAndPointer_deterministic_iff {retCode dataLength count : UInt32} {body : List (Nat × List (Cell Junk))}
    (hbody : ∀ w ∈ body, 24 ≤ w.1) :
    (response retCode dataLength ((8, countAndPointer count) :: body)).Deterministic ↔ dataLength.toNat ≤ 12 := by
  let m := store (fun i => .raw (.heap i)) 0 (headerStore retCode dataLength (.raw (.stack 8))).2
  have hcell : ∀ i, i < 24 → (response retCode dataLength ((8, countAndPointer count) :: body)).cell i =
      store m 8 (countAndPointer count) i := fun i hi => by
    change storeAll (store m 8 (countAndPointer count)) body i = _
    refine storeAll_apply_of_outside fun w hw => .inl ?_
    have h24 := hbody w hw
    omega
  constructor
  · intro hdet
    by_contra hsize
    have hbyte := (Message.deterministic_iff _).1 hdet 12 (by exact Nat.lt_of_not_le hsize)
    rw [hcell 12 (by decide)] at hbyte
    exact Cell.not_isByte_raw (Junk.stack 0) hbyte
  · intro hsize
    have hcount : (response retCode dataLength [(8, Cell.ofBytes (le32 count))]).Deterministic :=
      response_deterministic [(8, le32 count)] rfl fun i h8 hi =>
        ⟨_, List.mem_cons_self, h8, by rw [length_le32]; omega⟩
    rw [Message.deterministic_iff] at hcount ⊢
    intro i hi
    have hi12 : i < 12 := Nat.lt_of_lt_of_le hi hsize
    rw [hcell i (by omega), countAndPointer, List.append_assoc, store_append_apply _ _ _ (by simpa using hi12)]
    exact hcount i hi

theorem respondGetSessionDataTable_deterministic_iff (retCode : JhiRet) (table : List SessionRecord) :
    (respondGetSessionDataTable retCode table).Deterministic ↔
      retCode = jhiSuccess ∧ (sessionTableSize (table.take (UInt32.ofNat table.length).toNat)).toNat ≤ 12 := by
  unfold respondGetSessionDataTable
  by_cases hret : retCode = jhiSuccess
  · rw [if_neg (by simpa using hret), countAndPointer_deterministic_iff (by simp)]
    exact (and_iff_right hret).symm
  · rw [if_pos hret]
    exact iff_of_false (respondEmulationError_leaks retCode) fun h => hret h.1

theorem respondGetLoadedApplets_deterministic_iff (retCode : JhiRet) (applets : List Bytes) :
    (respondGetLoadedApplets retCode applets).Deterministic ↔
      retCode = jhiSuccess ∧ (loadedAppletsSize (UInt32.ofNat applets.length)).toNat ≤ 12 := by
  unfold respondGetLoadedApplets
  by_cases hret : retCode = jhiSuccess
  · rw [if_neg (by simpa using hret), countAndPointer_deterministic_iff (by simp)]
    exact (and_iff_right hret).symm
  · rw [if_pos hret]
    exact iff_of_false (respondEmulationError_leaks retCode) fun h => hret h.1

/-! ### All responses -/

/-- The answers that a response carries without showing memory. -/
def CleanAnswer : (c : Call) → Answer c → Prop
  | .sendAndRecieve _ _ _ rxLen, a => a.1 = jhiSuccess ∧ 2 ^ 32 ≤ 18 + (recvBufferSize rxLen a.2).toNat
  | .getAppletProperty .., a => a.retCode = jhiSuccess ∧ 2 ^ 32 ≤ 14 + a.length.toNat
  | .getSessionEventData _, a => ∃ event, a.2 = some event ∧ 2 ^ 32 ≤ 15 + (UInt32.ofNat event.data.length).toNat
  | .openSDSession _, a => a.1 = teeStatusSuccess ∧ a.2 ≠ 0
  | .listInstalledTAs _, a | .listInstalledSDs _, a => a.1 = teeStatusSuccess
  | .queryTeeMetadata, _ => True
  | .getSessionsDataTable, a =>
    a.1 = jhiSuccess ∧ (sessionTableSize (a.2.take (UInt32.ofNat a.2.length).toNat)).toNat ≤ 12
  | .getLoadedApplets, a => a.1 = jhiSuccess ∧ (loadedAppletsSize (UInt32.ofNat a.2.length)).toNat ≤ 12
  | _, _ => False

theorem respond_deterministic_iff {c : Call} (hc : c.WithinLimit) (a : Answer c) :
    (respond c a).Deterministic ↔ CleanAnswer c a := by
  cases c with
  | install | uninstall | closeSession | setSessionEventHandler | sendCmdPkg | closeSDSession
  | provisionOemMasterKey | setTAEncryptionKey => exact iff_of_false (respondCode_leaks a) id
  | sendAndRecieve => exact respondSendAndRecieve_deterministic_iff ..
  | createSession => exact iff_of_false (respondCreateSession_leaks _ _) id
  | getSessionsCount => exact iff_of_false (respondGetSessionsCount_leaks _ _) id
  | getSessionInfo => exact iff_of_false (respondGetSessionInfo_leaks _ _ _) id
  | getSessionEventData =>
    obtain ⟨retCode, event⟩ := a
    cases event with
    | none =>
      refine iff_of_false (response_leaks_of_outside (i := 14) (by decide) (by decide) (by simp)) ?_
      rintro ⟨event, hevent, -⟩
      cases hevent
    | some event =>
      refine (respondGetSessionEventData_deterministic_iff retCode event.dataType.toUInt8 event.data).trans ?_
      constructor
      · exact fun h => ⟨event, rfl, h⟩
      · rintro ⟨event', hevent, h⟩
        cases hevent
        exact h
  | getAppletProperty => exact respondGetAppletProperty_deterministic_iff hc a
  | getVersionInfo => exact iff_of_false (respondGetVersionInfo_leaks a) id
  | openSDSession => exact respondOpenSDSession_deterministic_iff ..
  | listInstalledTAs | listInstalledSDs => exact respondListInstalled_deterministic_iff ..
  | queryTeeMetadata => exact iff_of_true (respondQueryTeeMetadata_deterministic _ _) trivial
  | getSessionsDataTable => exact respondGetSessionDataTable_deterministic_iff ..
  | getLoadedApplets => exact respondGetLoadedApplets_deterministic_iff ..

theorem refuse_deterministic_iff {id : CommandId} {retCode : JhiRet} {o : Message} (h : refuse id retCode = some o) :
    o.Deterministic ↔ id = .queryTeeMetadata := by
  cases id with
  | getSessionsDataTable => cases h
  | queryTeeMetadata =>
    cases h
    exact iff_of_true (respondQueryTeeMetadata_deterministic _ _) rfl
  | getSessionsCount =>
    cases h
    exact iff_of_false (respondGetSessionsCount_leaks _ _) (by decide)
  | createSession =>
    cases h
    exact iff_of_false (respondCreateSession_leaks _ _) (by decide)
  | getSessionInfo =>
    cases h
    exact iff_of_false (respondGetSessionInfo_leaks _ _ _) (by decide)
  | getEventData =>
    cases h
    exact iff_of_false (response_leaks_of_outside (i := 14) (by decide) (by decide) (by simp)) (by decide)
  | getVersionInfo =>
    cases h
    exact iff_of_false (response_nil_leaks (by decide)) (by decide)
  | getLoadedApplets =>
    cases h
    exact iff_of_false (respondEmulationError_leaks _) (by decide)
  | _ =>
    cases h
    exact iff_of_false (respondCode_leaks _) (by decide)

/-! ### The dispatcher -/

section Dispatcher

variable {σ : Type}

/-- The response to the request, if there is one, does not depend on what the memory held before. -/
def ShowsNoMemory (B : Backend σ) (emulation : Bool) (req : Request) (s : σ) : Prop :=
  ∀ o, ((processCommand B emulation req).exe s).1.verdict.output = some o → ∀ ρ ρ', o.bytes ρ = o.bytes ρ'

/-- The handler of `id`, started in `s`, builds a response that shows no memory, or none: the handler
clears its header, or leaves without a response, or the service's answer fills the response. -/
def CleanAt (B : Backend σ) (req : Request) (id : CommandId) (s : σ) : Prop :=
  id = .queryTeeMetadata ∨
  (id = .getSessionsDataTable ∧ req.inputSize.toNat ≠ sizeofJhiCommand) ∨
  ∃ c, (decode req.inputSize (B.getVmType s) (B.pluginRegistered s) id).answer req.inputData = .ok (some c) ∧
    CleanAnswer c ((B.exec c).exe s).1

/-- The handler that gives up without a response is the one that gets more than a header. -/
theorem answer_getSessionsDataTable {req : Request} (hlen : u32At req.inputData 1 = req.inputSize)
    (vmType : VmType) (pluginRegistered : Bool) :
    (decode req.inputSize vmType pluginRegistered .getSessionsDataTable).answer req.inputData =
      if req.inputSize.toNat = sizeofJhiCommand then .ok (some .getSessionsDataTable) else .error jhiInternalError := by
  simp only [decode, invokeGetSessionDataTable, answer_checkDataLength_bind hlen]
  split_ifs with hsize
  · rw [Scan.answer_check_bind _ hsize, Scan.answer_pure]
  · rw [Scan.answer_check_bind_of_not _ hsize]

variable {B : Backend σ} {req : Request} {id : CommandId} {s : σ}

theorem handle_showsNoMemory_iff (hlen : u32At req.inputData 1 = req.inputSize) :
    (∀ o, ((handle B id req).exe s).1.verdict.output = some o → o.Deterministic) ↔ CleanAt B req id s := by
  have htable := answer_getSessionsDataTable hlen (B.getVmType s) (B.pluginRegistered s)
  have hcall := returns_callOf req.inputSize (B.getVmType s) (B.pluginRegistered s) id req.inputData
  cases hdec : (decode req.inputSize (B.getVmType s) (B.pluginRegistered s) id).answer req.inputData with
  | error retCode =>
    rw [(handle_of_error hdec).1]
    unfold CleanAt
    simp only [hdec, reduceCtorEq, false_and, exists_false, or_false]
    by_cases hid : id = .getSessionsDataTable
    · subst hid
      rw [hdec] at htable
      refine iff_of_true (fun o ho => nomatch ho) (.inr ⟨rfl, fun hsize => ?_⟩)
      rw [if_pos hsize] at htable
      cases htable
    · simp only [hid, false_and, or_false]
      obtain ⟨o, ho⟩ := refuse_isSome hid retCode
      constructor
      · exact fun h => (refuse_deterministic_iff ho).1 (h o ho)
      · exact fun h o' ho' => (refuse_deterministic_iff ho').2 h
  | ok c =>
    have hof := hcall c hdec
    -- a request for the table that passes its checks is answered
    have hsize : ¬(id = .getSessionsDataTable ∧ req.inputSize.toNat ≠ sizeofJhiCommand) := by
      rintro ⟨rfl, hsize⟩
      rw [hdec, if_neg hsize] at htable
      cases htable
    unfold CleanAt
    simp only [hdec, hsize, false_or, Except.ok.injEq]
    cases c with
    | none =>
      have hid : id = .init := hof
      rw [handle_of_done hdec, hid]
      refine iff_of_false (fun h => respondCode_leaks jhiSuccess (h _ rfl)) ?_
      simp
    | some c =>
      rw [(handle_of_call hdec).1]
      have hrespond := respond_deterministic_iff hof.2 ((B.exec c).exe s).1
      simp only [Verdict.output, Option.some.injEq, forall_eq', hrespond]
      constructor
      · exact fun h => .inr ⟨c, rfl, h⟩
      · rintro (hid | ⟨c', rfl, h⟩)
        · have hquery : c = .queryTeeMetadata := by
            have hc := hof.1.trans hid
            cases c <;> first | rfl | cases hc
          subst hquery
          trivial
        · exact h

/-- The response to a request shows memory of the service unless one of a few handlers is reached. -/
theorem processCommand_showsNoMemory_iff (B : Backend σ) (emulation : Bool) (req : Request) (s : σ) :
    ShowsNoMemory B emulation req s ↔ ∃ id s', Reaches B emulation req s id s' ∧ CleanAt B req id s' := by
  unfold ShowsNoMemory
  obtain ⟨retCode, s', -, -, hp, hno⟩ | ⟨id, s', hreach⟩ := processCommand_cases B emulation req s
  · rw [hp]
    refine iff_of_false (fun h => respondCode_leaks retCode (h _ rfl)) ?_
    rintro ⟨id, s', hreach, -⟩
    exact hno id s' hreach
  · have hlen := ((readHeader_eq_ok_iff emulation).1 hreach.1).2.2
    rw [processCommand_of_reaches hreach]
    refine (handle_showsNoMemory_iff hlen).trans ⟨fun h => ⟨id, s', hreach, h⟩, ?_⟩
    rintro ⟨id', s'', hreach', h⟩
    obtain ⟨rfl, rfl⟩ := hreach.unique hreach'
    exact h

end Dispatcher

/-- The first request of a client shows a byte of the stack. -/
theorem init_shows_memory :
    ¬ShowsNoMemory quietBackend false (.ofBytes [0, 6, 0, 0, 0, 0]) (quietState .beihaiV2) := by
  intro h
  have hbytes := h (respondCode jhiSuccess) (by rfl) (fun _ => 0) (fun _ => 1)
  revert hbytes
  decide +kernel

end DalHost

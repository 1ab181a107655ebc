import DalHost.Dispatch.Safety

/-!
# Responses are framed

A response is well framed when nothing is stored behind its end, it is at least a header long and
the header has its length. `wellFramed_output` says which responses are: all of them, but for the
two commands of the emulation when they fail, for sizes that do not fit 32 bits and for metadata of
length zero, whose fixed part is longer than the response.
-/

namespace DalHost

structure Message.WellFramed (o : Message) : Prop where
  header_le : sizeofJhiResponse ≤ o.size.toNat
  stores_le : ∀ w ∈ o.stores, w.1 + w.2.length ≤ o.size.toNat
  dataLength_eq : ∃ retCode, ∀ ρ, (o.bytes ρ).take 8 = le32 retCode ++ le32 o.size

/-! ### Single responses -/

theorem wellFramed_of_body {retCode dataLength : UInt32} {data : Cell Junk} {body : List (Nat × List (Cell Junk))}
    (h9 : 9 ≤ dataLength.toNat) (hbody : ∀ w ∈ body, 8 ≤ w.1 ∧ w.1 + w.2.length ≤ dataLength.toNat) :
    Message.WellFramed ⟨dataLength, headerStore retCode dataLength data :: body⟩ where
  header_le := h9
  stores_le := by
    rw [List.forall_mem_cons]
    refine ⟨?_, fun w hw => (hbody w hw).2⟩
    simpa [headerStore] using h9
  dataLength_eq := ⟨retCode, fun ρ => take_bytes_of_headerStore (fun w hw => (hbody w hw).1) (by omega) ρ⟩

theorem wellFramed_respondCode (retCode : JhiRet) : (respondCode retCode).WellFramed :=
  wellFramed_of_body (by decide) (by simp)

theorem wellFramed_respondGetSessionsCount (retCode : JhiRet) (count : UInt32) :
    (respondGetSessionsCount retCode count).WellFramed := wellFramed_of_body (by decide) (by simp; decide)

theorem wellFramed_respondCreateSession (retCode : JhiRet) (sessionId : Option SessionId) :
    (respondCreateSession retCode sessionId).WellFramed := by
  have hid : ((sessionId.map SessionId.bytes).getD (List.replicate 16 0)).length = 16 := by
    cases sessionId with
    | none => rfl
    | some id => exact id.length_eq
  refine wellFramed_of_body (by decide) ?_
  rw [List.forall_mem_singleton, Cell.length_ofBytes, hid]
  exact ⟨le_rfl, (by decide : 8 + 16 ≤ 25)⟩

theorem wellFramed_respondGetSessionInfo (retCode : JhiRet) (state flags : UInt32) :
    (respondGetSessionInfo retCode state flags).WellFramed := wellFramed_of_body (by decide) (by simp; decide)

theorem wellFramed_respondGetSessionEventData (retCode : JhiRet) (dataType : Cell Junk) {data : Bytes}
    (h : 15 + data.length < 2 ^ 32) : (respondGetSessionEventData retCode dataType data).WellFramed := by
  have hlen : (UInt32.ofNat data.length).toNat = data.length := UInt32.toNat_ofNat_of_lt' (by omega : _ < 2 ^ 32)
  have hsize : (UInt32.ofNat sizeofJhiResponse + sizeofResGetEventData + UInt32.ofNat data.length).toNat =
      15 + data.length := by
    rw [toNat_add_of_toNat (k := 15) rfl, hlen]
    omega
  refine wellFramed_of_body (by omega) ?_
  simp only [List.forall_mem_cons, List.length_append, Cell.length_ofBytes, length_le32, List.length_cons,
    List.length_nil, List.length_take, List.not_mem_nil, false_implies, implies_true, and_true, hsize, hlen]
  omega

theorem wellFramed_respondSendAndRecieve {rxLen : UInt32} {answer : Option SarAnswer} {retCode : JhiRet}
    (h : retCode = jhiSuccess → 18 + (recvBufferSize rxLen answer).toNat < 2 ^ 32) :
    (respondSendAndRecieve rxLen answer retCode).WellFramed := by
  unfold respondSendAndRecieve
  generalize recvBufferSize rxLen answer = size at h ⊢
  have hsize : (UInt32.ofNat sizeofJhiResponse + sizeofResSendAndRecieve +
      if retCode = jhiSuccess then size else 0).toNat = 18 + if retCode = jhiSuccess then size.toNat else 0 := by
    rw [toNat_add_of_toNat (k := 18) rfl]
    split_ifs with hret
    · exact Nat.mod_eq_of_lt (h hret)
    · rfl
  refine wellFramed_of_body (by omega) fun w hw => ?_
  rw [hsize]
  split_ifs at hw with hnone hret
  · cases hw
  · rw [if_pos hret.1]
    simp only [List.mem_cons, List.not_mem_nil, or_false] at hw
    rcases hw with rfl | rfl
    · simp
      omega
    · simp only [Cell.length_ofBytes, List.length_take]
      omega
  · rw [List.mem_singleton] at hw
    subst hw
    simp
    omega

theorem wellFramed_respondGetAppletProperty {rxLen : UInt32} {result : PropertyResult}
    (h : result.retCode = jhiSuccess → 14 + result.length.toNat < 2 ^ 32) :
    (respondGetAppletProperty rxLen result).WellFramed := by
  unfold respondGetAppletProperty
  have hsize : (UInt32.ofNat sizeofJhiResponse + sizeofResGetAppletProperty +
      if result.retCode = jhiSuccess then result.length else 0).toNat =
      14 + if result.retCode = jhiSuccess then result.length.toNat else 0 := by
    rw [toNat_add_of_toNat (k := 14) rfl]
    split_ifs with hret
    · exact Nat.mod_eq_of_lt (h hret)
    · rfl
  refine wellFramed_of_body (by omega) fun w hw => ?_
  rw [hsize]
  split_ifs at hw with hnone hret
  · rw [if_pos hret.1]
    simp only [List.mem_cons, List.not_mem_nil, or_false] at hw
    rcases hw with rfl | rfl
    · simp
      omega
    · simp only [List.length_take]
      omega
  · rw [List.mem_singleton] at hw
    subst hw
    simp
    omega
  · cases hw

theorem wellFramed_respondGetVersionInfo (info : VersionInfo) : (respondGetVersionInfo info).WellFramed :=
  wellFramed_of_body (by decide) (by simp [length_versionInfoCells]; decide)

theorem wellFramed_respondOpenSDSession (retCode : JhiRet) (sdHandle : VmHandle) :
    (respondOpenSDSession retCode sdHandle).WellFramed := by
  unfold respondOpenSDSession
  split_ifs
  · exact wellFramed_of_body (by decide) (by simp)
  · exact wellFramed_of_body (by decide) (by simp; decide)
  · exact wellFramed_respondCode retCode

theorem toNat_listSize {count : UInt32} (h : 13 + 33 * count.toNat < 2 ^ 32) :
    ((UInt32.ofNat sizeofJhiResponse - 1) + (sizeofResListInstalled - 1) + count * (UInt32.ofNat lenAppId + 1) + 1).toNat =
      13 + 33 * count.toNat := by
  have hfixed : ((UInt32.ofNat sizeofJhiResponse - 1) + (sizeofResListInstalled - 1)).toNat = 12 := by decide
  rw [UInt32.toNat_add, toNat_add_entries hfixed, UInt32.toNat_one]
  omega

theorem wellFramed_respondListInstalled {retCode : JhiRet} {uuids : List Bytes}
    (h : retCode = teeStatusSuccess → 13 + 33 * uuids.length < 2 ^ 32) :
    (respondListInstalled retCode uuids).WellFramed := by
  unfold respondListInstalled
  split_ifs with hret
  · have hcount : (UInt32.ofNat uuids.length).toNat = uuids.length :=
      UInt32.toNat_ofNat_of_lt' (by have := h hret; omega : _ < 2 ^ 32)
    have hsize := @toNat_listSize (UInt32.ofNat uuids.length) (by rw [hcount]; exact h hret)
    refine wellFramed_of_body (by omega) fun w hw => ?_
    rw [hsize, hcount]
    have hids := length_flatMap_of_length (length_strncpy (lenAppId + 1)) (uuids.take uuids.length)
    rw [List.take_length, lenAppId] at hids
    split_ifs at hw
    · simp only [List.mem_cons, List.not_mem_nil, or_false] at hw
      rcases hw with rfl | rfl
      · simp
      · simp only [Cell.length_ofBytes, List.length_append, hcount, List.take_length, lenAppId, hids, List.length_singleton]
        omega
    · rw [List.mem_singleton] at hw
      subst hw
      simp
  · exact wellFramed_respondCode retCode

theorem wellFramed_respondQueryTeeMetadata {retCode : JhiRet} {metadata : Bytes}
    (h : retCode = teeStatusSuccess → metadata ≠ [] ∧ 12 + metadata.length < 2 ^ 32) :
    (respondQueryTeeMetadata retCode metadata).WellFramed := by
  unfold respondQueryTeeMetadata
  split_ifs with hret
  · obtain ⟨hne, hlt⟩ := h hret
    have hpos := List.length_pos_iff.2 hne
    have hlen : (UInt32.ofNat metadata.length).toNat = metadata.length :=
      UInt32.toNat_ofNat_of_lt' (by omega : _ < 2 ^ 32)
    have hsize : ((UInt32.ofNat sizeofJhiResponse - 1) + (sizeofResQueryTeeMetadata - 1) +
        UInt32.ofNat metadata.length).toNat = 12 + metadata.length := by
      rw [toNat_add_of_toNat (k := 12) rfl, hlen]
      omega
    refine wellFramed_of_body (by omega) ?_
    simp only [List.forall_mem_cons, List.length_append, Cell.length_ofBytes, length_le32, List.length_cons,
      List.length_nil, List.length_take, List.not_mem_nil, false_implies, implies_true, and_true, hsize, hlen]
    omega
  · exact wellFramed_of_body (by decide) (by simp)

/-! ### The emulation -/

theorem length_sessionExtendedInfo (record : SessionRecord) : (sessionExtendedInfo record).length = 152 := by
  simp [sessionExtendedInfo, record.sessionId.length_eq]

theorem toNat_sessionTableSize {rows : List SessionRecord}
    (h : 25 + 152 * rows.length + 12 * (rows.flatMap SessionRecord.ownersList).length < 2 ^ 32) :
    (sessionTableSize rows).toNat = 25 + 152 * rows.length + 12 * (rows.flatMap SessionRecord.ownersList).length := by
  unfold sessionTableSize
  generalize (rows.flatMap SessionRecord.ownersList).length = owners at h ⊢
  have hrows : (UInt32.ofNat rows.length).toNat = rows.length := UInt32.toNat_ofNat_of_lt' (by omega : _ < 2 ^ 32)
  have howners : (UInt32.ofNat owners).toNat = owners := UInt32.toNat_ofNat_of_lt' (by omega : _ < 2 ^ 32)
  have hfixed : (UInt32.ofNat sizeofJhiResponse + sizeofResGetSessionsDataTable).toNat = 25 := by decide
  have hrow : sizeofSessionExtendedInfo.toNat = 152 := rfl
  have howner : sizeofProcessInfo.toNat = 12 := rfl
  rw [UInt32.toNat_add, UInt32.toNat_add, UInt32.toNat_mul, UInt32.toNat_mul, hfixed, hrows, howners, hrow, howner]
  omega

theorem wellFramed_respondGetSessionDataTable {table : List SessionRecord}
    (h : 25 + 152 * table.length + 12 * (table.flatMap SessionRecord.ownersList).length < 2 ^ 32) :
    (respondGetSessionDataTable jhiSuccess table).WellFramed := by
  have hcount : (UInt32.ofNat table.length).toNat = table.length := UInt32.toNat_ofNat_of_lt' (by omega : _ < 2 ^ 32)
  have hsize := toNat_sessionTableSize h
  have hrows := length_flatMap_of_length length_sessionExtendedInfo table
  have howners := length_flatMap_of_length length_processInfoBytes (table.flatMap SessionRecord.ownersList)
  unfold respondGetSessionDataTable
  rw [if_neg (by simp)]
  simp only [hcount, List.take_length]
  refine wellFramed_of_body (by omega) ?_
  simp only [List.forall_mem_cons, countAndPointer, List.length_append, Cell.length_ofBytes, length_le32, length_raws,
    List.not_mem_nil, false_implies, implies_true, and_true, hsize, hrows, howners]
  omega

theorem toNat_loadedAppletsSize {count : UInt32} (h : 25 + 33 * count.toNat < 2 ^ 32) :
    (loadedAppletsSize count).toNat = 25 + 33 * count.toNat := by
  unfold loadedAppletsSize
  rw [toNat_add_entries (k := 25) rfl]
  exact Nat.mod_eq_of_lt h

theorem wellFramed_respondGetLoadedApplets {applets : List Bytes} (h : 25 + 33 * applets.length < 2 ^ 32) :
    (respondGetLoadedApplets jhiSuccess applets).WellFramed := by
  have hcount : (UInt32.ofNat applets.length).toNat = applets.length :=
    UInt32.toNat_ofNat_of_lt' (by omega : _ < 2 ^ 32)
  have hsize := @toNat_loadedAppletsSize (UInt32.ofNat applets.length) (by rw [hcount]; exact h)
  have hids := length_flatMap_of_length (length_strncpy (lenAppId + 1)) applets
  rw [hcount] at hsize
  unfold respondGetLoadedApplets
  rw [if_neg (by simp)]
  simp only [hcount, List.take_length]
  refine wellFramed_of_body (by omega) ?_
  simp only [List.forall_mem_cons, countAndPointer, List.length_append, Cell.length_ofBytes, length_le32, length_raws,
    List.not_mem_nil, false_implies, implies_true, and_true, hsize, hids]
  rw [lenAppId]
  omega

/-! ### All responses -/

/-- The answer fits a response: the size, with what the answer adds to it, is below 2 ^ 32, metadata is
not empty, and the commands of the emulation succeed. -/
def FramedAnswer : (c : Call) → Answer c → Prop
  | .sendAndRecieve _ _ _ rxLen, a => a.1 = jhiSuccess → 18 + (recvBufferSize rxLen a.2).toNat < 2 ^ 32
  | .getSessionEventData _, a => 15 + ((a.2.map EventData.data).getD []).length < 2 ^ 32
  | .getAppletProperty .., a => a.retCode = jhiSuccess → 14 + a.length.toNat < 2 ^ 32
  | .listInstalledTAs _, a | .listInstalledSDs _, a => a.1 = teeStatusSuccess → 13 + 33 * a.2.length < 2 ^ 32
  | .queryTeeMetadata, a => a.1 = teeStatusSuccess → a.2 ≠ [] ∧ 12 + a.2.length < 2 ^ 32
  | .getSessionsDataTable, a => a.1 = jhiSuccess ∧
    25 + 152 * a.2.length + 12 * (a.2.flatMap SessionRecord.ownersList).length < 2 ^ 32
  | .getLoadedApplets, a => a.1 = jhiSuccess ∧ 25 + 33 * a.2.length < 2 ^ 32
  | _, _ => True

theorem wellFramed_respond {c : Call} {a : Answer c} (h : FramedAnswer c a) : (respond c a).WellFramed := by
  cases c with
  | install | uninstall | closeSession | setSessionEventHandler | sendCmdPkg | closeSDSession
  | provisionOemMasterKey | setTAEncryptionKey => exact wellFramed_respondCode a
  | sendAndRecieve sessionId commandId tx rxLen => exact wellFramed_respondSendAndRecieve h
  | createSession => exact wellFramed_respondCreateSession a.1 a.2
  | getSessionsCount => exact wellFramed_respondGetSessionsCount a.1 a.2
  | getSessionInfo => exact wellFramed_respondGetSessionInfo a.1 a.2.1.code a.2.2
  | getSessionEventData sessionId =>
    obtain ⟨retCode, event⟩ := a
    cases event with
    | none => exact wellFramed_respondGetSessionEventData retCode (.raw (.stack 0)) h
    | some event => exact wellFramed_respondGetSessionEventData retCode (.byte event.dataType.toUInt8) h
  | getAppletProperty appId tx rxLen => exact wellFramed_respondGetAppletProperty h
  | getVersionInfo => exact wellFramed_respondGetVersionInfo a
  | openSDSession => exact wellFramed_respondOpenSDSession a.1 a.2
  | listInstalledTAs | listInstalledSDs => exact wellFramed_respondListInstalled h
  | queryTeeMetadata => exact wellFramed_respondQueryTeeMetadata h
  | getSessionsDataTable =>
    obtain ⟨retCode, table⟩ := a
    obtain ⟨rfl, hsize⟩ := h
    exact wellFramed_respondGetSessionDataTable hsize
  | getLoadedApplets =>
    obtain ⟨retCode, applets⟩ := a
    obtain ⟨rfl, hsize⟩ := h
    exact wellFramed_respondGetLoadedApplets hsize

theorem wellFramed_refuse {id : CommandId} {retCode : JhiRet} (hret : retCode ≠ jhiSuccess)
    (hid : id ≠ .getSessionsDataTable ∧ id ≠ .getLoadedApplets) :
    ∃ o, refuse id retCode = some o ∧ o.WellFramed := by
  cases id with
  | getSessionsDataTable => exact absurd rfl hid.1
  | getLoadedApplets => exact absurd rfl hid.2
  | getSessionsCount => exact ⟨_, rfl, wellFramed_respondGetSessionsCount retCode 0⟩
  | createSession => exact ⟨_, rfl, wellFramed_respondCreateSession retCode none⟩
  | getSessionInfo => exact ⟨_, rfl, wellFramed_respondGetSessionInfo retCode 0 0⟩
  | getEventData => exact ⟨_, rfl, wellFramed_respondGetSessionEventData retCode (.byte 0) (by decide)⟩
  | getVersionInfo => exact ⟨_, rfl, wellFramed_of_body (by decide) (by simp)⟩
  | queryTeeMetadata => exact ⟨_, rfl, wellFramed_respondQueryTeeMetadata fun h => absurd h hret⟩
  | _ => exact ⟨_, rfl, wellFramed_respondCode retCode⟩

/-- The verdicts whose response is framed. -/
def Verdict.Framed : Verdict → Prop
  | .refused id _ => id ≠ .getSessionsDataTable ∧ id ≠ .getLoadedApplets
  | .answered c a => FramedAnswer c a
  | _ => True

/-- No check of a handler fails with the code of success. -/
def Verdict.Sound : Verdict → Prop
  | .refused _ retCode => retCode ≠ jhiSuccess
  | _ => True

theorem wellFramed_output {v : Verdict} (hsound : v.Sound) (h : v.Framed) : ∃ o, v.output = some o ∧ o.WellFramed := by
  cases v with
  | rejected retCode => exact ⟨_, rfl, wellFramed_respondCode retCode⟩
  | refused id retCode => exact wellFramed_refuse hsound h
  | done => exact ⟨_, rfl, wellFramed_respondCode jhiSuccess⟩
  | answered c a => exact ⟨_, rfl, wellFramed_respond h⟩

end DalHost

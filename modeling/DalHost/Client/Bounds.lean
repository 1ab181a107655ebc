import DalHost.Client.Decode

/-!
# What the client library reads of a response

Which responses make a `Jhis*` function read behind the end of what it received, wrap an unsigned
subtraction or write more than the caller has room for. Most functions never do; six do, on
responses whose header is consistent. `receive_staysInside_iff` is exact: for every function, every
length and all contents.
-/

namespace DalHost

open Scan

section Bounds

variable {n : UInt32} {m : Nat → UInt8}

/-! ### Shared steps -/

theorem safeOn_checkHeader_bind {α : Type} (r : ClientResult) (f : Unit → Scan ClientResult α) :
    SafeOn n.toNat m (checkHeader n r >>= f) ↔ (9 ≤ n.toNat → SafeOn n.toNat m (f ())) := by
  unfold checkHeader
  rw [safeOn_check_bind]
  rfl

theorem safeOn_checkOutputSize_bind {α : Type} (hn : 9 ≤ n.toNat) (r : ClientResult)
    (f : Unit → Scan ClientResult α) :
    SafeOn n.toNat m (checkOutputSize n r >>= f) ↔ (u32At m 4 = n → SafeOn n.toNat m (f ())) := by
  have hsafe : SafeOn n.toNat m (checkOutputSize n r) := by
    unfold checkOutputSize
    rw [safeOn_u32_bind]
    exact ⟨by omega, safeOn_check _ _ _ _⟩
  have hanswer : ∀ u, (checkOutputSize n r).answer m = .ok u ↔ u32At m 4 = n := by
    intro u
    unfold checkOutputSize
    rw [answer_u32_bind, answer_check_eq_ok]
  rw [safeOn_bind]
  simp only [hsafe, hanswer, true_and]
  exact ⟨fun h hlen => h () hlen, fun h _ hlen => h hlen⟩

theorem safeOn_receiveCode (internalError : JhiRet) : SafeOn n.toNat m (receiveCode n internalError) := by
  unfold receiveCode sizeofJhiResponse
  rw [safeOn_check_bind]
  intro hn
  rw [safeOn_checkOutputSize_bind (by omega)]
  intro _
  rw [safeOn_u32]
  omega

theorem safeOn_receiveSized (internalError : JhiRet) (size : UInt32) {out : Scan ClientResult ClientOut}
    (hout : n = size → SafeOn n.toNat m out) : SafeOn n.toNat m (receiveSized n internalError size out) := by
  unfold receiveSized
  rw [safeOn_checkHeader_bind]
  intro hn
  rw [safeOn_checkOutputSize_bind hn]
  intro _
  refine (safeOn_bind _ _ _ _).2 ⟨?_, fun out _ => ?_⟩
  · rw [safeOn_ite]
    exact ⟨hout, fun _ => safeOn_pure _ _ _⟩
  · rw [safeOn_u32_bind]
    exact ⟨by omega, safeOn_pure _ _ _⟩

theorem safeOn_copyOut {c : Prop} [Decidable c] {off : Nat} {size : UInt32} {capacity : Nat}
    (hread : c → off + size.toNat ≤ n.toNat) (hwrite : c → size.toNat ≤ capacity) :
    SafeOn n.toNat m (copyOut c off size capacity) := by
  unfold copyOut
  rw [safeOn_ite]
  refine ⟨fun hc => ?_, fun _ => safeOn_pure _ _ _⟩
  rw [safeOn_bind_of_ok _ _ (answer_note m _), safeOn_note, safeOn_bytes_bind]
  exact ⟨hwrite hc, .inr (hread hc), safeOn_pure _ _ _⟩

/-- A response that is looked at beyond its code: a success, with its own length in the header. -/
def SuccessHeader (n : UInt32) (m : Nat → UInt8) : Prop := 9 ≤ n.toNat ∧ u32At m 0 = jhiSuccess ∧ u32At m 4 = n

theorem safeOn_receiveSuccess_bind {α : Type} (error : JhiRet → ClientResult) (f : Unit → Scan ClientResult α) :
    SafeOn n.toNat m (receiveSuccess n error >>= f) ↔ (SuccessHeader n m → SafeOn n.toNat m (f ())) := by
  have hsafe : SafeOn n.toNat m (receiveSuccess n error) := by
    unfold receiveSuccess
    rw [safeOn_checkHeader_bind]
    intro hn
    rw [safeOn_u32_bind, safeOn_check_bind]
    refine ⟨by omega, fun _ => ?_⟩
    unfold checkOutputSize
    rw [safeOn_u32_bind]
    exact ⟨by omega, safeOn_check _ _ _ _⟩
  have hanswer : ∀ u, (receiveSuccess n error).answer m = .ok u ↔ SuccessHeader n m := by
    intro u
    unfold receiveSuccess checkHeader checkOutputSize
    rw [answer_check_bind_eq_ok, answer_u32_bind, answer_check_bind_eq_ok, answer_u32_bind, answer_check_eq_ok]
    rfl
  rw [safeOn_bind]
  simp only [hsafe, hanswer, true_and]
  exact ⟨fun h hok => h () hok, fun h _ hok => h hok⟩

/-! ### Functions that stay inside -/

theorem safeOn_receiveJhiCode : SafeOn n.toNat m (receiveJhiCode n) :=
  (safeOn_bind _ _ _ _).2 ⟨safeOn_receiveCode _, fun _ _ => safeOn_pure _ _ _⟩

theorem safeOn_receiveGetSessionsCount : SafeOn n.toNat m (receiveGetSessionsCount n) := by
  refine (safeOn_bind _ _ _ _).2 ⟨safeOn_receiveSized _ _ fun hn => ?_, fun _ _ => safeOn_pure _ _ _⟩
  have hsize : n.toNat = 13 := by rw [hn]; rfl
  rw [safeOn_u32_bind]
  exact ⟨by omega, safeOn_pure _ _ _⟩

theorem safeOn_receiveCreateSession : SafeOn n.toNat m (receiveCreateSession n) := by
  refine (safeOn_bind _ _ _ _).2 ⟨safeOn_receiveSized _ _ fun hn => ?_, fun _ _ => safeOn_pure _ _ _⟩
  have hsize : n.toNat = 25 := by rw [hn]; rfl
  rw [safeOn_bytes_bind]
  exact ⟨by omega, safeOn_pure _ _ _⟩

theorem safeOn_receiveGetSessionInfo : SafeOn n.toNat m (receiveGetSessionInfo n) := by
  refine (safeOn_bind _ _ _ _).2 ⟨safeOn_receiveSized _ _ fun hn => ?_, fun _ _ => safeOn_pure _ _ _⟩
  have hsize : n.toNat = 97 := by rw [hn]; rfl
  rw [safeOn_bytes_bind]
  exact ⟨by omega, safeOn_pure _ _ _⟩

theorem safeOn_receiveOpenSDSession : SafeOn n.toNat m (receiveOpenSDSession n) := by
  refine (safeOn_bind _ _ _ _).2 ⟨safeOn_receiveSized _ _ fun hn => ?_, fun _ _ => safeOn_pure _ _ _⟩
  have hsize : n.toNat = 16 := by rw [hn]; rfl
  rw [safeOn_u64_bind]
  exact ⟨by omega, safeOn_pure _ _ _⟩

theorem safeOn_receiveCloseSDSession : SafeOn n.toNat m (receiveCloseSDSession n) :=
  (safeOn_bind _ _ _ _).2 ⟨safeOn_receiveCode _, fun _ _ => safeOn_pure _ _ _⟩

theorem safeOn_receiveSendAdminCmdPkg : SafeOn n.toNat m (receiveSendAdminCmdPkg n) :=
  (safeOn_bind _ _ _ _).2 ⟨safeOn_receiveCode _, fun _ _ => safeOn_pure _ _ _⟩

theorem safeOn_receiveKeyStatus : SafeOn n.toNat m (receiveKeyStatus n) := by
  unfold receiveKeyStatus
  rw [safeOn_receiveSuccess_bind]
  exact fun _ => safeOn_pure _ _ _

theorem safeOn_receiveGetEventData : SafeOn n.toNat m (receiveGetEventData n) := by
  have hsize : sizeofJhiResponse + sizeofResGetEventData.toNat = 15 := rfl
  unfold receiveGetEventData
  rw [safeOn_checkHeader_bind]
  intro hn
  rw [safeOn_checkOutputSize_bind hn, hsize]
  intro _
  rw [safeOn_ite]
  constructor
  · intro _
    rw [safeOn_ite, safeOn_u32_bind]
    exact ⟨fun _ => ⟨by omega, safeOn_pure _ _ _⟩, fun _ => safeOn_pure _ _ _⟩
  · intro _
    rw [safeOn_u8_bind, safeOn_u32_bind, safeOn_check_bind]
    refine ⟨by omega, by omega, fun hlen => ?_⟩
    rw [safeOn_u32_bind, safeOn_ite]
    refine ⟨by omega, fun _ => ?_, fun _ => safeOn_pure _ _ _⟩
    rw [safeOn_bind_of_ok _ _ (answer_note m _), safeOn_note, safeOn_bytes_bind]
    exact ⟨le_rfl, .inr (by omega), safeOn_pure _ _ _⟩

theorem safeOn_receiveSendAndRecv (recvBufferSize : UInt32) :
    SafeOn n.toNat m (receiveSendAndRecv n recvBufferSize) := by
  have hsize : sizeofJhiResponse + sizeofResSendAndRecieve.toNat = 18 := rfl
  unfold receiveSendAndRecv
  rw [safeOn_checkHeader_bind]
  intro hn
  rw [safeOn_checkOutputSize_bind hn, hsize]
  intro _
  rw [safeOn_u32_bind, safeOn_ite, safeOn_ite, safeOn_check_bind, safeOn_u32_bind, safeOn_check_bind]
  refine ⟨by omega, fun _ => safeOn_pure _ _ _, fun _ => ⟨fun _ => safeOn_pure _ _ _, fun _ h18 => ?_⟩⟩
  refine ⟨by omega, fun hlen => (safeOn_bind _ _ _ _).2 ⟨?_, fun data _ => ?_⟩⟩
  · refine safeOn_copyOut (fun ⟨hok, _⟩ => ?_) fun ⟨_, _, hle⟩ => UInt32.le_iff_toNat_le.1 hle
    rw [if_pos hok] at hlen
    omega
  · rw [safeOn_u32_bind]
    exact ⟨by omega, safeOn_pure _ _ _⟩

theorem safeOn_receiveGetVersionInfo : SafeOn n.toNat m (receiveGetVersionInfo n) := by
  have hsize : sizeofJhiResponse + sizeofVersionInfo.toNat = 197 := rfl
  unfold receiveGetVersionInfo
  rw [safeOn_checkHeader_bind]
  intro hn
  rw [safeOn_u32_bind, safeOn_check_bind, safeOn_check_bind, hsize]
  refine ⟨by omega, fun hok _ => ?_⟩
  rw [safeOn_checkOutputSize_bind hn, safeOn_ite, safeOn_bytes_bind]
  exact fun _ => ⟨fun h => ⟨.inr (by rw [hok h]; decide), safeOn_pure _ _ _⟩, fun _ => safeOn_pure _ _ _⟩

/-! ### Functions that do not -/

/-- A property answer of length zero, which has no terminator to take off. -/
def EmptyProperty (n : UInt32) (m : Nat → UInt8) : Prop :=
  n.toNat = 14 ∧ u32At m 4 = n ∧ (u32At m 0 = jhiSuccess ∨ u32At m 0 = jhiInsufficientBuffer) ∧ u32At m 8 = 0

theorem safeOn_receiveGetAppletProperty_iff (recvBufferSize : UInt32) :
    SafeOn n.toNat m (receiveGetAppletProperty n recvBufferSize) ↔ ¬EmptyProperty n m := by
  have hsize : sizeofJhiResponse + sizeofResGetAppletProperty.toNat = 14 := rfl
  have hend : ∀ retCode size data, SafeOn n.toNat m
      (if retCode = jhiSuccess ∨ retCode = jhiInsufficientBuffer then do
        note (.sub size.toNat 1)
        return ⟨retCode, .property (some (size - 1)) data⟩
      else return ⟨retCode, .property none data⟩ : Scan ClientResult ClientResult) ↔
      (retCode = jhiSuccess ∨ retCode = jhiInsufficientBuffer → 1 ≤ size.toNat) := by
    intro retCode size data
    rw [safeOn_ite, safeOn_bind_of_ok _ _ (answer_note m _), safeOn_note]
    simp only [safeOn_pure, and_true, implies_true, Access.Ok]
  unfold receiveGetAppletProperty
  rw [safeOn_checkHeader_bind, hsize]
  constructor
  · rintro h ⟨h14, hlen, hret, hzero⟩
    have hbranch := h (by omega)
    rw [safeOn_checkOutputSize_bind (by omega), safeOn_u32_bind, safeOn_ite, safeOn_ite, safeOn_check_bind,
      safeOn_u32_bind, safeOn_check_bind, safeOn_bind] at hbranch
    have hlen14 : n.toNat = 14 + if u32At m 0 = jhiSuccess then (u32At m 8).toNat else 0 := by
      rw [hzero]
      simpa using h14
    have hother : ¬(u32At m 0 = jhiInternalError ∨ u32At m 0 = jhiInvalidBufferSize) := by
      rcases hret with hret | hret <;> rw [hret] <;> decide
    obtain ⟨-, hdata⟩ := (((hbranch hlen).2.2 (by rw [sizeofJhiResponse]; omega)).2 hother (by omega)).2 hlen14
    have hpos := (hend _ _ _).1 (hdata none (by
      unfold copyOut
      rw [hzero, if_neg (by simp), answer_pure])) hret
    rw [hzero] at hpos
    exact absurd hpos (by decide)
  · intro hnot hn
    rw [safeOn_checkOutputSize_bind hn]
    intro hlen
    rw [safeOn_u32_bind, safeOn_ite, safeOn_ite, safeOn_check_bind, safeOn_u32_bind, safeOn_check_bind]
    refine ⟨by omega, fun _ => safeOn_pure _ _ _, fun _ => ⟨fun _ => safeOn_pure _ _ _, fun _ h14 => ?_⟩⟩
    refine ⟨by omega, fun hsum => (safeOn_bind _ _ _ _).2 ⟨?_, fun data _ => ?_⟩⟩
    · refine safeOn_copyOut (fun hcopy => ?_) fun hcopy => ?_
      · rw [if_pos hcopy.1] at hsum
        omega
      · obtain ⟨-, -, hle, -⟩ := hcopy
        have hle' := UInt32.le_iff_toNat_le.1 hle
        rw [UInt32.toNat_add, UInt32.toNat_one] at hle'
        omega
    · refine (hend _ _ _).2 fun hret => ?_
      by_contra hzero
      have hzero0 : (u32At m 8).toNat = 0 := by omega
      refine hnot ⟨?_, hlen, hret, UInt32.toNat_inj.1 hzero0⟩
      rw [hsum, hzero0]
      simp

theorem not_safeOn_takeUuids (count : UInt32) (hn : 9 ≤ n.toNat) : ¬SafeOn n.toNat m (takeUuids n count) := by
  unfold takeUuids
  rw [safeOn_bind_of_ok _ _ (answer_note m _), safeOn_bytes_bind]
  rintro ⟨-, hread, -⟩
  omega

/-- The length of the list, as the function computes it, is that of the entries it announces. -/
def ListMatches (n : UInt32) (m : Nat → UInt8) : Prop := n - 13 = 33 * u32At m 8

theorem safeOn_receiveListInstalledTAs_iff :
    SafeOn n.toNat m (receiveListInstalledTAs n) ↔ ¬(SuccessHeader n m ∧ (n.toNat < 13 ∨ ListMatches n m)) := by
  unfold receiveListInstalledTAs
  rw [safeOn_receiveSuccess_bind, not_and]
  refine imp_congr_right fun hok => ?_
  rw [safeOn_bind_of_ok _ _ (answer_note m _), safeOn_note, safeOn_u32_bind, safeOn_check_bind]
  have htake := not_safeOn_takeUuids (m := m) (u32At m 8) hok.1
  constructor
  · rintro ⟨hsub, -, hlist⟩ (hlt | hmatch)
    · exact absurd hsub (by simp only [Access.Ok]; omega)
    · exact htake (hlist hmatch)
  · intro hnot
    rw [not_or] at hnot
    refine ⟨?_, by omega, fun hmatch => absurd hmatch hnot.2⟩
    simp only [Access.Ok]
    omega

theorem toNat_sub_13 (h : 13 ≤ n.toNat) : (n - 13).toNat = n.toNat - 13 :=
  UInt32.toNat_sub_of_le n 13 (UInt32.le_iff_toNat_le.2 h)

theorem last_index (h : 14 ≤ n.toNat) : 12 + (n - 13 - 1).toNat = n.toNat - 2 := by
  have h13 := toNat_sub_13 (n := n) (by omega)
  have hle : (1 : UInt32) ≤ n - 13 := by
    rw [UInt32.le_iff_toNat_le, h13, UInt32.toNat_one]
    omega
  rw [UInt32.toNat_sub_of_le _ _ hle, h13, UInt32.toNat_one]
  omega

theorem safeOn_receiveListInstalledSDs_iff :
    SafeOn n.toNat m (receiveListInstalledSDs n) ↔ ¬(SuccessHeader n m ∧
      (n.toNat < 13 ∨ ListMatches n m ∧ (n.toNat = 13 ∨ m (n.toNat - 2) = 0))) := by
  unfold receiveListInstalledSDs
  rw [safeOn_receiveSuccess_bind, not_and]
  refine imp_congr_right fun hok => ?_
  rw [safeOn_bind_of_ok _ _ (answer_note m _), safeOn_note, safeOn_u32_bind, safeOn_check_bind,
    safeOn_bind_of_ok _ _ (answer_note m _), safeOn_note, safeOn_u8_bind, safeOn_check_bind]
  have htake := not_safeOn_takeUuids (m := m) (u32At m 8) hok.1
  simp only [Access.Ok]
  constructor
  · rintro ⟨hsub, -, hlist⟩ (hlt | ⟨hmatch, h13 | hzero⟩)
    · omega
    · have hpos := (hlist hmatch).1
      rw [toNat_sub_13 (by omega)] at hpos
      omega
    · obtain ⟨hpos, -, hcopy⟩ := hlist hmatch
      rw [toNat_sub_13 hsub] at hpos
      rw [last_index (by omega)] at hcopy
      exact htake (hcopy hzero)
  · intro hnot
    rw [not_or, not_and, not_or] at hnot
    obtain ⟨hge, hrest⟩ := hnot
    refine ⟨by omega, by omega, fun hmatch => ?_⟩
    obtain ⟨h13, hnonzero⟩ := hrest hmatch
    rw [toNat_sub_13 (by omega), last_index (by omega)]
    exact ⟨by omega, by omega, fun hzero => absurd hzero hnonzero⟩

theorem safeOn_receiveQueryTEEMetadata_iff (maxLength : Nat) :
    SafeOn n.toNat m (receiveQueryTEEMetadata n maxLength) ↔ ¬(SuccessHeader n m ∧ n.toNat < 12) := by
  unfold receiveQueryTEEMetadata
  rw [safeOn_receiveSuccess_bind, not_and]
  refine imp_congr_right fun _ => ?_
  rw [safeOn_bind_of_ok _ _ (answer_note m _), safeOn_note, safeOn_check_bind,
    safeOn_bind_of_ok _ _ (answer_note m _), safeOn_note, safeOn_bytes_bind]
  simp only [Access.Ok]
  constructor
  · intro h
    omega
  · intro h
    have h64 : (n.toUInt64 - 12).toNat = n.toNat - 12 := by
      rw [UInt64.toNat_sub_of_le _ _ (UInt64.le_iff_toNat_le.2 (by simp only [UInt32.toNat_toUInt64, UInt64.reduceToNat]; omega)),
        UInt32.toNat_toUInt64]
      rfl
    rw [h64]
    exact ⟨by omega, fun hle => ⟨le_rfl, .inr (by omega), safeOn_pure _ _ _⟩⟩

theorem safeOn_receiveTable_bind {α : Type} {sizeofRes : UInt32} (f : Unit → Scan ClientResult α) :
    SafeOn n.toNat m (receiveTable n sizeofRes >>= f) ↔
      (9 + sizeofRes.toNat ≤ n.toNat ∧ SuccessHeader n m → SafeOn n.toNat m (f ())) := by
  have hsafe : SafeOn n.toNat m (receiveTable n sizeofRes) := by
    unfold receiveTable sizeofJhiResponse
    rw [safeOn_check_bind, safeOn_u32_bind, safeOn_check_bind]
    refine fun hn => ⟨by omega, fun _ => ?_⟩
    unfold checkOutputSize
    rw [safeOn_u32_bind]
    exact ⟨by omega, safeOn_check _ _ _ _⟩
  have hanswer : ∀ u, (receiveTable n sizeofRes).answer m = .ok u ↔
      9 + sizeofRes.toNat ≤ n.toNat ∧ SuccessHeader n m := by
    intro u
    unfold receiveTable checkOutputSize sizeofJhiResponse SuccessHeader
    rw [answer_check_bind_eq_ok, answer_u32_bind, answer_check_bind_eq_ok, answer_u32_bind, answer_check_eq_ok]
    exact and_congr_right fun hn => ⟨fun h => ⟨by omega, h⟩, fun h => h.2⟩
  rw [safeOn_bind]
  simp only [hsafe, hanswer, true_and]
  exact ⟨fun h hok => h () hok, fun h _ hok => h hok⟩

theorem safeOn_setOwnersLists_iff {tableSize : Nat} (hsize : tableSize + 9 ≤ n.toNat) (k i : Nat) (off : Int) :
    SafeOn n.toNat m (setOwnersLists tableSize k i off) ↔ (k ≠ 0 → 16 + 152 * (i + k - 1) + 72 ≤ tableSize) := by
  induction k generalizing i off with
  | zero => simp [setOwnersLists]
  | succ k ih =>
    rw [setOwnersLists, safeOn_bind_of_ok _ _ (answer_note m _), safeOn_note, safeOn_u32_bind, safeOn_bind, ih]
    simp only [safeOn_pure, implies_true, and_true, Access.Ok]
    omega

theorem safeOn_receiveGetSessionTable_iff :
    SafeOn n.toNat m (receiveGetSessionTable n) ↔ ¬((25 ≤ n.toNat ∧ SuccessHeader n m) ∧
      u32At m 8 ≠ 0 ∧ n.toNat - 9 < 16 + 152 * ((u32At m 8).toNat - 1) + 72) := by
  unfold receiveGetSessionTable
  rw [safeOn_receiveTable_bind, not_and, show 9 + sizeofResGetSessionsDataTable.toNat = 25 from rfl]
  refine imp_congr_right fun hok => ?_
  rw [safeOn_bind_of_ok _ _ (answer_note m _), safeOn_note, safeOn_bind_of_ok _ _ (answer_note m _), safeOn_note,
    safeOn_bytes_bind, safeOn_u32_bind, safeOn_bind, sizeofJhiResponse, safeOn_setOwnersLists_iff (by omega)]
  have hzero : u32At m 8 ≠ 0 ↔ (u32At m 8).toNat ≠ 0 := by rw [Ne, Ne, ← UInt32.toNat_inj]; rfl
  simp only [safeOn_pure, implies_true, and_true, Access.Ok, hzero, Nat.zero_add]
  omega

/-- What `strcpy_s` reads of entry `i`. -/
def guidExtent (m : Nat → UInt8) (i : Nat) : Nat := min 33 ((cString (slice m (24 + 33 * i) 33)).length + 1)

theorem safeOn_copyGuids_iff (k i : Nat) :
    SafeOn n.toNat m (copyGuids k i) ↔ ∀ j, i ≤ j → j < i + k → 24 + 33 * j + guidExtent m j ≤ n.toNat := by
  induction k generalizing i with
  | zero =>
    simp only [copyGuids, safeOn_pure, true_iff]
    omega
  | succ k ih =>
    have hread : SafeOn n.toNat m (copyText (24 + 33 * i) (lenAppId + 1)) ↔ 24 + 33 * i + guidExtent m i ≤ n.toNat := by
      rw [safeOn_single _ _ rfl]
      simp only [Access.Ok, guidExtent, lenAppId, Nat.reduceAdd]
      omega
    have hanswer : ∃ guid, (copyText (24 + 33 * i) (lenAppId + 1)).answer m = .ok guid := ⟨_, rfl⟩
    obtain ⟨guid, hguid⟩ := hanswer
    rw [copyGuids, safeOn_bind_of_ok _ _ hguid, hread, safeOn_bind, ih]
    simp only [safeOn_pure, implies_true, and_true]
    constructor
    · rintro ⟨hi, hrest⟩ j hij hjk
      rcases Nat.eq_or_lt_of_le hij with rfl | hlt
      · exact hi
      · exact hrest j hlt (by omega)
    · intro h
      exact ⟨h i le_rfl (by omega), fun j hij hjk => h j (by omega) (by omega)⟩

theorem safeOn_receiveGetLoadedAppletsList_iff :
    SafeOn n.toNat m (receiveGetLoadedAppletsList n) ↔ ¬((25 ≤ n.toNat ∧ SuccessHeader n m) ∧
      ∃ i, i < (u32At m 8).toNat ∧ n.toNat < 24 + 33 * i + guidExtent m i) := by
  unfold receiveGetLoadedAppletsList
  rw [safeOn_receiveTable_bind, not_and, show 9 + sizeofResGetLoadedApplets.toNat = 25 from rfl]
  refine imp_congr_right fun hok => ?_
  rw [safeOn_bytes_bind, safeOn_u32_bind, safeOn_bind, safeOn_copyGuids_iff]
  simp only [safeOn_pure, implies_true, and_true, not_exists, not_and, Nat.not_lt, Nat.zero_add, Nat.zero_le,
    true_implies]
  constructor
  · exact fun h => h.2.2
  · exact fun h => ⟨by omega, by omega, h⟩

/-! ### All functions -/

/-- An accepted list has its entries in the response. -/
def ListPresent (n : UInt32) (m : Nat → UInt8) : ClientCall → Prop
  | .listInstalledTAs sdHandle => (received (receive n (.listInstalledTAs sdHandle)) m).retCode = teeStatusSuccess →
    12 + 33 * (u32At m 8).toNat ≤ n.toNat
  | .listInstalledSDs sdHandle => (received (receive n (.listInstalledSDs sdHandle)) m).retCode = teeStatusSuccess →
    12 + 33 * (u32At m 8).toNat ≤ n.toNat
  | _ => True

/-- The responses on which a function does not stay inside. -/
def Overruns (n : UInt32) (m : Nat → UInt8) : ClientCall → Prop
  | .getAppletProperty .. => EmptyProperty n m
  | .listInstalledTAs _ => SuccessHeader n m ∧ (n.toNat < 13 ∨ ListMatches n m)
  | .listInstalledSDs _ =>
    SuccessHeader n m ∧ (n.toNat < 13 ∨ ListMatches n m ∧ (n.toNat = 13 ∨ m (n.toNat - 2) = 0))
  | .queryTEEMetadata _ => SuccessHeader n m ∧ n.toNat < 12
  | .getSessionTable => (25 ≤ n.toNat ∧ SuccessHeader n m) ∧
    u32At m 8 ≠ 0 ∧ n.toNat - 9 < 16 + 152 * ((u32At m 8).toNat - 1) + 72
  | .getLoadedAppletsList => (25 ≤ n.toNat ∧ SuccessHeader n m) ∧
    ∃ i, i < (u32At m 8).toNat ∧ n.toNat < 24 + 33 * i + guidExtent m i
  | _ => False

theorem safeOn_receive_iff (q : ClientCall) : SafeOn n.toNat m (receive n q) ↔ ¬Overruns n m q := by
  cases q with
  | init | install | uninstall | closeSession | setSessionEventHandler =>
    exact iff_of_true safeOn_receiveJhiCode not_false
  | getSessionsCount => exact iff_of_true safeOn_receiveGetSessionsCount not_false
  | createSession => exact iff_of_true safeOn_receiveCreateSession not_false
  | getSessionInfo => exact iff_of_true safeOn_receiveGetSessionInfo not_false
  | getEventData => exact iff_of_true safeOn_receiveGetEventData not_false
  | sendAndRecv _ _ _ recvBufferSize => exact iff_of_true (safeOn_receiveSendAndRecv recvBufferSize) not_false
  | getAppletProperty _ _ recvBufferSize => exact safeOn_receiveGetAppletProperty_iff recvBufferSize
  | getVersionInfo => exact iff_of_true safeOn_receiveGetVersionInfo not_false
  | openSDSession => exact iff_of_true safeOn_receiveOpenSDSession not_false
  | closeSDSession => exact iff_of_true safeOn_receiveCloseSDSession not_false
  | sendAdminCmdPkg => exact iff_of_true safeOn_receiveSendAdminCmdPkg not_false
  | listInstalledTAs => exact safeOn_receiveListInstalledTAs_iff
  | listInstalledSDs => exact safeOn_receiveListInstalledSDs_iff
  | queryTEEMetadata maxLength => exact safeOn_receiveQueryTEEMetadata_iff maxLength
  | provisionOemMasterKey | setTAEncryptionKey => exact iff_of_true safeOn_receiveKeyStatus not_false
  | getSessionTable => exact safeOn_receiveGetSessionTable_iff
  | getLoadedAppletsList => exact safeOn_receiveGetLoadedAppletsList_iff

/-! Lists that are accepted. -/

theorem jhiErrorToTeeError_of_not_jhi {jhiError : JhiRet} (h : isJhiError jhiError = false) :
    jhiErrorToTeeError jhiError = jhiError := by
  unfold jhiErrorToTeeError
  rw [h]
  rfl

theorem jhiErrorToTeeError_mem {jhiError : JhiRet} (hjhi : isJhiError jhiError = true) (h : jhiError ≠ jhiSuccess) :
    jhiErrorToTeeError jhiError ∈ teeStatusErrors := by
  have hite : ∀ {c : Prop} [Decidable c] {a b : JhiRet}, (c → a ∈ teeStatusErrors) → b ∈ teeStatusErrors →
      (if c then a else b) ∈ teeStatusErrors := by
    intro c _ a b ha hb
    split_ifs with hc
    · exact ha hc
    · exact hb
  unfold jhiErrorToTeeError
  refine hite (fun hnot => absurd hjhi (by simpa using hnot)) (hite (fun h0 => absurd h0 h) ?_)
  repeat refine hite (fun _ => by decide) ?_
  decide

theorem ne_success_of_mem {code : JhiRet} (h : code ∈ teeStatusErrors) : code ≠ teeStatusSuccess := by
  rintro rfl
  exact absurd h (by decide)

theorem jhiErrorToTeeError_ne_success {jhiError : JhiRet} (h : jhiError ≠ jhiSuccess) :
    jhiErrorToTeeError jhiError ≠ teeStatusSuccess := by
  cases hjhi : isJhiError jhiError with
  | false =>
    rw [jhiErrorToTeeError_of_not_jhi hjhi]
    exact h
  | true => exact ne_success_of_mem (jhiErrorToTeeError_mem hjhi h)

theorem fails_receiveSuccess :
    Fails (fun r => r.retCode ≠ teeStatusSuccess) (receiveSuccess n noUuids) := by
  have hinternal : (noUuids teeStatusInternalError).retCode ≠ teeStatusSuccess := by decide
  refine fails_bind (fails_check hinternal) fun _ => fails_bind (fails_u32 _) fun retCode => ?_
  refine fails_bind (fails_check_of_not fun h => jhiErrorToTeeError_ne_success h) fun _ => ?_
  exact fails_bind (fails_u32 _) fun _ => fails_check hinternal

theorem fails_takeUuids (count : UInt32) : Fails (fun r => r.retCode ≠ teeStatusSuccess) (takeUuids n count) := by
  have hinternal : (noUuids teeStatusInternalError).retCode ≠ teeStatusSuccess := by decide
  refine fails_bind (fails_note _) fun _ => fails_bind (fails_bytes _ _) fun _ => ?_
  exact fails_bind (fails_check hinternal) fun _ => fails_pure _

theorem answer_of_received {x : Scan ClientResult ClientResult}
    (hx : Fails (fun r => r.retCode ≠ teeStatusSuccess) x) (h : (received x m).retCode = teeStatusSuccess) :
    ∃ r, x.answer m = .ok r := by
  unfold received at h
  cases hm : x.answer m with
  | ok r => exact ⟨r, rfl⟩
  | error r =>
    rw [hm] at h
    exact absurd h (hx m r hm)

theorem receiveSuccess_eq_ok {u : Unit} (h : (receiveSuccess n noUuids).answer m = .ok u) : SuccessHeader n m := by
  unfold receiveSuccess checkHeader checkOutputSize at h
  rwa [answer_check_bind_eq_ok, answer_u32_bind, answer_check_bind_eq_ok, answer_u32_bind, answer_check_eq_ok] at h

theorem accepted_receiveListInstalledTAs
    (h : (received (receiveListInstalledTAs n) m).retCode = teeStatusSuccess) :
    SuccessHeader n m ∧ ListMatches n m := by
  have hinternal : (noUuids teeStatusInternalError).retCode ≠ teeStatusSuccess := by decide
  have hfails : Fails (fun r => r.retCode ≠ teeStatusSuccess) (receiveListInstalledTAs n) := by
    refine fails_bind fails_receiveSuccess fun _ => fails_bind (fails_note _) fun _ => ?_
    exact fails_bind (fails_u32 _) fun _ => fails_bind (fails_check hinternal) fun _ => fails_takeUuids _
  obtain ⟨r, hr⟩ := answer_of_received hfails h
  unfold receiveListInstalledTAs at hr
  obtain ⟨u, hok, hr⟩ := (answer_bind_eq_ok m).1 hr
  rw [answer_bind_of_ok m (answer_note m _), answer_u32_bind, answer_check_bind_eq_ok] at hr
  exact ⟨receiveSuccess_eq_ok hok, hr.1⟩

theorem accepted_receiveListInstalledSDs
    (h : (received (receiveListInstalledSDs n) m).retCode = teeStatusSuccess) :
    SuccessHeader n m ∧ ListMatches n m ∧ m (12 + (n - 13 - 1).toNat) = 0 := by
  have hinternal : (noUuids teeStatusInternalError).retCode ≠ teeStatusSuccess := by decide
  have hfails : Fails (fun r => r.retCode ≠ teeStatusSuccess) (receiveListInstalledSDs n) := by
    refine fails_bind fails_receiveSuccess fun _ => fails_bind (fails_note _) fun _ => ?_
    refine fails_bind (fails_u32 _) fun _ => fails_bind (fails_check hinternal) fun _ => ?_
    refine fails_bind (fails_note _) fun _ => fails_bind (fails_u8 _) fun _ => ?_
    exact fails_bind (fails_check hinternal) fun _ => fails_takeUuids _
  obtain ⟨r, hr⟩ := answer_of_received hfails h
  unfold receiveListInstalledSDs at hr
  obtain ⟨u, hok, hr⟩ := (answer_bind_eq_ok m).1 hr
  rw [answer_bind_of_ok m (answer_note m _), answer_u32_bind, answer_check_bind_eq_ok,
    answer_bind_of_ok m (answer_note m _), answer_u8_bind, answer_check_bind_eq_ok] at hr
  exact ⟨receiveSuccess_eq_ok hok, hr.1, hr.2.1⟩

theorem listPresent_of_not_overruns {q : ClientCall} (h : ¬Overruns n m q) : ListPresent n m q := by
  cases q with
  | listInstalledTAs sdHandle =>
    intro haccepted
    obtain ⟨hok, hmatch⟩ := accepted_receiveListInstalledTAs haccepted
    exact absurd ⟨hok, .inr hmatch⟩ h
  | listInstalledSDs sdHandle =>
    intro haccepted
    obtain ⟨hok, hmatch, hlast⟩ := accepted_receiveListInstalledSDs haccepted
    refine absurd ⟨hok, ?_⟩ h
    by_cases h13 : n.toNat < 13
    · exact .inl h13
    · refine .inr ⟨hmatch, ?_⟩
      by_cases h14 : n.toNat = 13
      · exact .inl h14
      · rw [last_index (by omega)] at hlast
        exact .inr hlast
  | _ => trivial

/-- A function stays inside the response, and its accepted lists are there, except on `Overruns`. -/
theorem receive_staysInside_iff (q : ClientCall) (n : UInt32) (m : Nat → UInt8) :
    SafeOn n.toNat m (receive n q) ∧ ListPresent n m q ↔ ¬Overruns n m q := by
  rw [safeOn_receive_iff]
  exact ⟨fun h => h.1, fun h => ⟨h, listPresent_of_not_overruns h⟩⟩

/-- The response of the service to a list without entries is read 12 bytes behind its end. -/
theorem emptyList_overrun :
    let m := fun i => (le32 0 ++ le32 13 ++ le32 0 ++ [0]).getD i 0
    ¬(SafeOn 13 m (receive 13 (.listInstalledTAs 1)) ∧ ListPresent 13 m (.listInstalledTAs 1)) := by
  intro m h
  have hread : Access.read 12 13 ∈ (receive 13 (.listInstalledTAs 1)).accesses m := by decide
  exact absurd (h.1 _ hread) (by simp [Access.Ok])

end Bounds

end DalHost

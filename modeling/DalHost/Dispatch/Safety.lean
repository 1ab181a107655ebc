import DalHost.Dispatch.Process

/-!
# The service reads only the request

`Request.SizesFit` says that the sizes written in a request agree with its length. Two facts about
every handler are proved from its text: which requests it reads past the end of
(`safeOn_decode_iff`: only `InvokeSendCmdPkg` does, on requests shorter than its fixed part), and
that it makes a call only for a request whose sizes fit (`fits_of_decode`). Together they say when
the dispatcher stays inside the request.
-/

namespace DalHost

open Scan

/-! ### Reads of the shared parts -/

section Parts

variable {n : Nat} {m : Nat → UInt8} {α β : Type}

theorem safeOn_bind_of_safe {x : Scan JhiRet α} {f : α → Scan JhiRet β} (hx : SafeOn n m x)
    (hf : ∀ a, x.answer m = .ok a → SafeOn n m (f a)) : SafeOn n m (x >>= f) :=
  (safeOn_bind n m x f).2 ⟨hx, hf⟩

theorem safeOn_checkDataLength (inputSize : UInt32) (retCode : JhiRet) (h : 5 ≤ n) :
    SafeOn n m (checkDataLength inputSize retCode) := by
  unfold checkDataLength
  rw [safeOn_u32_bind]
  exact ⟨h, safeOn_check _ _ _ _⟩

theorem safeOn_readAppId (h : 38 ≤ n) : SafeOn n m readAppId := by
  unfold readAppId
  rw [safeOn_u8_bind, safeOn_check_bind, safeOn_bytes_bind]
  refine ⟨h, fun _ => ⟨.inr h, ?_⟩⟩
  split
  · exact safeOn_fail _ _ _
  · rw [safeOn_check_bind]
    exact fun _ => safeOn_pure _ _ _

theorem safeOn_readSessionId (h : 21 ≤ n) : SafeOn n m readSessionId := by
  unfold readSessionId
  rw [safeOn_bytes_bind]
  refine ⟨.inr h, ?_⟩
  split_ifs
  · exact safeOn_pure _ _ _
  · exact safeOn_fail _ _ _

theorem safeOn_readProcessInfo {off : Nat} (h : off + 12 ≤ n) : SafeOn n m (readProcessInfo off) := by
  unfold readProcessInfo
  rw [safeOn_u32_bind, safeOn_u32_bind, safeOn_u32_bind]
  exact ⟨by omega, by omega, by omega, safeOn_pure _ _ _⟩

end Parts

/-! ### Reads of the handlers -/

section Handlers

variable {inputSize : UInt32} {m : Nat → UInt8} (hmin : 6 ≤ inputSize.toNat)

include hmin

theorem safeOn_invokeInstall : SafeOn inputSize.toNat m (invokeInstall inputSize) := by
  unfold invokeInstall
  refine safeOn_bind_of_safe (safeOn_checkDataLength _ _ (by omega)) fun _ _ => ?_
  simp only [safeOn_check_bind, safeOn_u32_bind, safeOn_u8_bind]
  unfold sizeofJhiCommand sizeofCmdInstall lenAppId
  intro hfixed
  refine ⟨by omega, fun hsize heq => ⟨by omega, fun _ => ⟨by omega, fun _ => ?_⟩⟩⟩
  refine safeOn_bind_of_safe (safeOn_readAppId (by omega)) fun _ _ => ?_
  rw [safeOn_bytes_bind]
  exact ⟨by omega, safeOn_pure _ _ _⟩

theorem safeOn_invokeUninstall : SafeOn inputSize.toNat m (invokeUninstall inputSize) := by
  unfold invokeUninstall
  refine safeOn_bind_of_safe (safeOn_checkDataLength _ _ (by omega)) fun _ _ => ?_
  simp only [safeOn_check_bind]
  unfold sizeofJhiCommand sizeofCmdUninstall
  intro hsize
  exact safeOn_bind_of_safe (safeOn_readAppId (by omega)) fun _ _ => safeOn_pure _ _ _

theorem safeOn_invokeGetSessionsCount : SafeOn inputSize.toNat m (invokeGetSessionsCount inputSize) := by
  unfold invokeGetSessionsCount
  refine safeOn_bind_of_safe (safeOn_checkDataLength _ _ (by omega)) fun _ _ => ?_
  simp only [safeOn_check_bind]
  unfold sizeofJhiCommand sizeofCmdGetSessionsCount
  intro hsize
  exact safeOn_bind_of_safe (safeOn_readAppId (by omega)) fun _ _ => safeOn_pure _ _ _

theorem safeOn_invokeCreateSession : SafeOn inputSize.toNat m (invokeCreateSession inputSize) := by
  unfold invokeCreateSession
  refine safeOn_bind_of_safe (safeOn_checkDataLength _ _ (by omega)) fun _ _ => ?_
  simp only [safeOn_check_bind, safeOn_u32_bind]
  unfold sizeofJhiCommand sizeofCmdCreateSession
  intro hfixed
  refine ⟨by omega, fun _ _ hsize => ?_⟩
  refine safeOn_bind_of_safe (safeOn_readAppId (by omega)) fun _ _ => ?_
  rw [safeOn_u32_bind]
  refine ⟨by omega, safeOn_bind_of_safe (safeOn_readProcessInfo (by omega)) fun _ _ => ?_⟩
  rw [safeOn_bytes_bind]
  exact ⟨by omega, safeOn_pure _ _ _⟩

theorem safeOn_invokeCloseSession : SafeOn inputSize.toNat m (invokeCloseSession inputSize) := by
  unfold invokeCloseSession
  refine safeOn_bind_of_safe (safeOn_checkDataLength _ _ (by omega)) fun _ _ => ?_
  simp only [safeOn_check_bind]
  unfold sizeofJhiCommand sizeofCmdCloseSession
  intro hsize
  refine safeOn_bind_of_safe (safeOn_readSessionId (by omega)) fun _ _ => ?_
  refine safeOn_bind_of_safe (safeOn_readProcessInfo (by omega)) fun _ _ => ?_
  rw [safeOn_u8_bind]
  exact ⟨by omega, safeOn_pure _ _ _⟩

theorem safeOn_invokeSetSessionEventHandler :
    SafeOn inputSize.toNat m (invokeSetSessionEventHandler inputSize) := by
  unfold invokeSetSessionEventHandler
  refine safeOn_bind_of_safe (safeOn_checkDataLength _ _ (by omega)) fun _ _ => ?_
  simp only [safeOn_check_bind, safeOn_u32_bind, safeOn_u8_bind]
  unfold sizeofJhiCommand sizeofCmdSetSessionEventHandler
  intro hfixed
  refine ⟨by omega, fun hname hsize => ⟨by omega, fun _ => ?_⟩⟩
  refine safeOn_bind_of_safe (safeOn_readSessionId (by omega)) fun _ _ => ?_
  rw [safeOn_bytes_bind]
  exact ⟨by omega, safeOn_pure _ _ _⟩

theorem safeOn_invokeGetSessionInfo : SafeOn inputSize.toNat m (invokeGetSessionInfo inputSize) := by
  unfold invokeGetSessionInfo
  refine safeOn_bind_of_safe (safeOn_checkDataLength _ _ (by omega)) fun _ _ => ?_
  simp only [safeOn_check_bind]
  unfold sizeofJhiCommand sizeofCmdGetSessionInfo
  intro hsize
  exact safeOn_bind_of_safe (safeOn_readSessionId (by omega)) fun _ _ => safeOn_pure _ _ _

theorem safeOn_invokeGetSessionEventData : SafeOn inputSize.toNat m (invokeGetSessionEventData inputSize) := by
  unfold invokeGetSessionEventData
  refine safeOn_bind_of_safe (safeOn_checkDataLength _ _ (by omega)) fun _ _ => ?_
  simp only [safeOn_check_bind]
  unfold sizeofJhiCommand sizeofCmdGetEventData
  intro hsize
  exact safeOn_bind_of_safe (safeOn_readSessionId (by omega)) fun _ _ => safeOn_pure _ _ _

theorem safeOn_invokeSendAndRecieve : SafeOn inputSize.toNat m (invokeSendAndRecieve inputSize) := by
  unfold invokeSendAndRecieve
  refine safeOn_bind_of_safe (safeOn_checkDataLength _ _ (by omega)) fun _ _ => ?_
  simp only [safeOn_check_bind, safeOn_u32_bind]
  unfold sizeofJhiCommand sizeofCmdSendAndRecieve
  intro hfixed
  refine ⟨by omega, by omega, fun _ _ hsize => ?_⟩
  refine safeOn_bind_of_safe (safeOn_readSessionId (by omega)) fun _ _ => ?_
  rw [safeOn_u32_bind, safeOn_bytes_bind]
  exact ⟨by omega, by omega, safeOn_pure _ _ _⟩

theorem safeOn_invokeGetAppletProperty : SafeOn inputSize.toNat m (invokeGetAppletProperty inputSize) := by
  unfold invokeGetAppletProperty
  refine safeOn_bind_of_safe (safeOn_checkDataLength _ _ (by omega)) fun _ _ => ?_
  simp only [safeOn_check_bind, safeOn_u32_bind]
  unfold sizeofJhiCommand sizeofCmdGetAppletProperty
  intro hfixed
  refine ⟨by omega, by omega, fun _ _ hsize _ => ?_⟩
  refine safeOn_bind_of_safe (safeOn_readAppId (by omega)) fun _ _ => ?_
  rw [safeOn_bytes_bind]
  exact ⟨by omega, safeOn_pure _ _ _⟩

variable (vmType : VmType) (pluginRegistered : Bool)

theorem safeOn_invokeOpenSDSession :
    SafeOn inputSize.toNat m (invokeOpenSDSession inputSize vmType pluginRegistered) := by
  unfold invokeOpenSDSession
  rw [safeOn_check_bind]
  intro _
  refine safeOn_bind_of_safe (safeOn_checkDataLength _ _ (by omega)) fun _ _ => ?_
  simp only [safeOn_check_bind, safeOn_u8_bind, safeOn_bytes_bind]
  unfold sizeofJhiCommand sizeofCmdCreateSDSession lenAppId
  intro hfixed
  exact ⟨by omega, fun _ => ⟨by omega, fun _ _ => safeOn_pure _ _ _⟩⟩

theorem safeOn_readSdHandle {sizeofCmd : Nat} (hcmd : sizeofCmd = 8) :
    SafeOn inputSize.toNat m (readSdHandle inputSize vmType pluginRegistered sizeofCmd) := by
  unfold readSdHandle
  rw [safeOn_check_bind]
  intro _
  refine safeOn_bind_of_safe (safeOn_checkDataLength _ _ (by omega)) fun _ _ => ?_
  simp only [safeOn_check_bind, safeOn_u64_bind]
  unfold sizeofJhiCommand
  intro hfixed
  exact ⟨by omega, fun _ _ => safeOn_pure _ _ _⟩

theorem safeOn_readKey (sizeofCmd : Nat) :
    SafeOn inputSize.toNat m (readKey inputSize vmType pluginRegistered sizeofCmd) := by
  unfold readKey
  rw [safeOn_check_bind]
  intro _
  refine safeOn_bind_of_safe (safeOn_checkDataLength _ _ (by omega)) fun _ _ => ?_
  simp only [safeOn_check_bind, safeOn_bytes]
  unfold sizeofJhiCommand
  intro hsize _
  exact .inr (by omega)

theorem safeOn_invokeQueryTeeMetadata :
    SafeOn inputSize.toNat m (invokeQueryTeeMetadata inputSize vmType pluginRegistered) := by
  unfold invokeQueryTeeMetadata
  rw [safeOn_check_bind]
  intro _
  refine safeOn_bind_of_safe (safeOn_checkDataLength _ _ (by omega)) fun _ _ => ?_
  rw [safeOn_check_bind, safeOn_check_bind]
  exact fun _ _ => safeOn_pure _ _ _

/-- The one handler that reads a field before it knows that the request has it. -/
theorem safeOn_invokeSendCmdPkg_iff (hlen : u32At m 1 = inputSize) :
    SafeOn inputSize.toNat m (invokeSendCmdPkg inputSize vmType) ↔
      ¬(vmType = .beihaiV2 ∧ inputSize.toNat < 17) := by
  have hstart : ∀ f : Unit → Scan JhiRet (Option Call),
      SafeOn inputSize.toNat m (checkDataLength inputSize teeStatusInternalError >>= f) ↔
        SafeOn inputSize.toNat m (f ()) := by
    intro f
    have hok : (checkDataLength inputSize teeStatusInternalError).answer m = .ok () := by
      unfold checkDataLength
      rw [answer_bind_of_ok m (answer_u32 m 1), answer_check, if_pos hlen]
    rw [safeOn_bind_of_ok _ _ hok]
    exact and_iff_right (safeOn_checkDataLength _ _ (by omega))
  unfold invokeSendCmdPkg
  rw [safeOn_check_bind, hstart]
  simp only [safeOn_check_bind, safeOn_u32_bind, safeOn_u64_bind, safeOn_bytes_bind]
  unfold sizeofJhiCommand sizeofCmdSendCmdPkg
  constructor
  · rintro h ⟨hvm, hlt⟩
    have hread := (h hvm).1
    omega
  · intro h hvm
    have hfixed : 17 ≤ inputSize.toNat := by
      by_contra hlt
      exact h ⟨hvm, by omega⟩
    exact ⟨by omega, fun _ => ⟨by omega, fun _ hsize => ⟨by omega, safeOn_pure _ _ _⟩⟩⟩

theorem safeOn_decode_iff (hlen : u32At m 1 = inputSize) (id : CommandId) :
    SafeOn inputSize.toNat m (decode inputSize vmType pluginRegistered id) ↔
      ¬(id = .sendCmdPkg ∧ vmType = .beihaiV2 ∧ inputSize.toNat < 17) := by
  by_cases hid : id = .sendCmdPkg
  · subst hid
    refine (safeOn_invokeSendCmdPkg_iff hmin vmType hlen).trans ?_
    simp
  · refine iff_of_true ?_ fun h => hid h.1
    cases id with
    | sendCmdPkg => exact absurd rfl hid
    | init | getVersionInfo =>
      exact (safeOn_check_bind _ _ _ _ _).2 fun _ => safeOn_pure _ _ _
    | install => exact safeOn_invokeInstall hmin
    | uninstall => exact safeOn_invokeUninstall hmin
    | sendAndRecieve => exact safeOn_invokeSendAndRecieve hmin
    | createSession => exact safeOn_invokeCreateSession hmin
    | closeSession => exact safeOn_invokeCloseSession hmin
    | getSessionsCount => exact safeOn_invokeGetSessionsCount hmin
    | getSessionInfo => exact safeOn_invokeGetSessionInfo hmin
    | setSessionEventHandler => exact safeOn_invokeSetSessionEventHandler hmin
    | getEventData => exact safeOn_invokeGetSessionEventData hmin
    | getAppletProperty => exact safeOn_invokeGetAppletProperty hmin
    | createSDSession => exact safeOn_invokeOpenSDSession hmin vmType pluginRegistered
    | closeSDSession | listInstalledTAs | listInstalledSDs =>
      exact safeOn_bind_of_safe (safeOn_readSdHandle hmin vmType pluginRegistered rfl) fun _ _ => safeOn_pure _ _ _
    | queryTeeMetadata => exact safeOn_invokeQueryTeeMetadata hmin vmType pluginRegistered
    | provisionOemMasterKey | setTAEncryptionKey =>
      exact safeOn_bind_of_safe (safeOn_readKey hmin vmType pluginRegistered _) fun _ _ => safeOn_pure _ _ _
    | getSessionsDataTable =>
      refine safeOn_bind_of_safe (safeOn_checkDataLength _ _ (by omega)) fun _ _ => ?_
      exact (safeOn_check_bind _ _ _ _ _).2 fun _ => safeOn_pure _ _ _
    | getLoadedApplets =>
      exact safeOn_bind_of_safe (safeOn_checkDataLength _ _ (by omega)) fun _ _ => safeOn_pure _ _ _

end Handlers

/-! ### Sizes that do not fit -/

/-- The size that the body of a command holds agrees with the length of the request. Commands with
a body of fixed size hold none. -/
def BodyFits (inputSize : UInt32) (m : Nat → UInt8) : CommandId → Prop
  | .install => 43 ≤ inputSize.toNat ∧ inputSize.toNat = 42 + (u32At m 38).toNat
  | .createSession => 59 ≤ inputSize.toNat ∧ inputSize.toNat = 58 + max 1 (u32At m 38).toNat
  | .setSessionEventHandler => 26 ≤ inputSize.toNat ∧ inputSize.toNat = 25 + (u32At m 21).toNat
  | .sendAndRecieve => 34 ≤ inputSize.toNat ∧ inputSize.toNat = 33 + max 1 (u32At m 25).toNat
  | .getAppletProperty => 47 ≤ inputSize.toNat ∧ inputSize.toNat = 46 + max 1 (u32At m 38).toNat
  | .sendCmdPkg => 17 ≤ inputSize.toNat ∧ inputSize.toNat = 17 + (u32At m 13).toNat
  | _ => True

/-- The sizes in a request agree with its length: the one in the header, and the one in the body of a
command that has one there. -/
def Request.SizesFit (emulation : Bool) (req : Request) : Prop :=
  sizeofJhiCommand ≤ req.inputSize.toNat ∧ u32At req.inputData 1 = req.inputSize ∧
    ∀ id, CommandId.ofByte emulation (req.inputData 0) = some id → BodyFits req.inputSize req.inputData id

theorem fits_of_decode {inputSize : UInt32} {vmType : VmType} {pluginRegistered : Bool} {id : CommandId}
    {m : Nat → UInt8} {c : Option Call} (h : (decode inputSize vmType pluginRegistered id).answer m = .ok c) :
    BodyFits inputSize m id := by
  cases id with
  | install =>
    simp only [decode, invokeInstall, answer_bind_eq_ok m (x := checkDataLength _ _)] at h
    obtain ⟨_, -, h⟩ := h
    simp only [answer_check_bind_eq_ok, answer_u32_bind] at h
    obtain ⟨hfixed, -, hsize, -⟩ := h
    simp only [sizeofJhiCommand, sizeofCmdInstall] at hfixed hsize
    exact ⟨by omega, by omega⟩
  | createSession =>
    simp only [decode, invokeCreateSession, answer_bind_eq_ok m (x := checkDataLength _ _)] at h
    obtain ⟨_, -, h⟩ := h
    simp only [answer_check_bind_eq_ok, answer_u32_bind] at h
    obtain ⟨hfixed, -, hempty, hsize, -⟩ := h
    simp only [sizeofJhiCommand, sizeofCmdCreateSession] at hfixed hempty hsize
    exact ⟨by omega, by omega⟩
  | setSessionEventHandler =>
    simp only [decode, invokeSetSessionEventHandler, answer_bind_eq_ok m (x := checkDataLength _ _)] at h
    obtain ⟨_, -, h⟩ := h
    simp only [answer_check_bind_eq_ok, answer_u32_bind] at h
    obtain ⟨hfixed, -, hsize, -⟩ := h
    simp only [sizeofJhiCommand, sizeofCmdSetSessionEventHandler] at hfixed hsize
    exact ⟨by omega, by omega⟩
  | sendAndRecieve =>
    simp only [decode, invokeSendAndRecieve, answer_bind_eq_ok m (x := checkDataLength _ _)] at h
    obtain ⟨_, -, h⟩ := h
    simp only [answer_check_bind_eq_ok, answer_u32_bind] at h
    obtain ⟨hfixed, -, hempty, hsize, -⟩ := h
    simp only [sizeofJhiCommand, sizeofCmdSendAndRecieve] at hfixed hempty hsize
    exact ⟨by omega, by omega⟩
  | getAppletProperty =>
    simp only [decode, invokeGetAppletProperty, answer_bind_eq_ok m (x := checkDataLength _ _)] at h
    obtain ⟨_, -, h⟩ := h
    simp only [answer_check_bind_eq_ok, answer_u32_bind] at h
    obtain ⟨hfixed, -, hempty, hsize, -⟩ := h
    simp only [sizeofJhiCommand, sizeofCmdGetAppletProperty] at hfixed hempty hsize
    exact ⟨by omega, by omega⟩
  | sendCmdPkg =>
    simp only [decode, invokeSendCmdPkg, answer_check_bind_eq_ok,
      answer_bind_eq_ok m (x := checkDataLength _ _)] at h
    obtain ⟨-, _, -, h⟩ := h
    simp only [answer_check_bind_eq_ok, answer_u32_bind, answer_u64_bind] at h
    obtain ⟨-, -, hsize, -⟩ := h
    simp only [sizeofJhiCommand, sizeofCmdSendCmdPkg] at hsize
    exact ⟨by omega, by omega⟩
  | _ => trivial

/-! ### Codes of refusals -/

theorem fails_checkDataLength (inputSize : UInt32) {retCode : JhiRet} (h : retCode ≠ jhiSuccess) :
    Fails (· ≠ jhiSuccess) (checkDataLength inputSize retCode) :=
  fails_bind (fails_u32 _) fun _ => fails_check h

theorem fails_readAppId : Fails (· ≠ jhiSuccess) readAppId := by
  refine fails_bind (fails_u8 _) fun _ => fails_bind (fails_check (by decide)) fun _ => ?_
  refine fails_bind (fails_bytes _ _) fun pAppid => ?_
  split
  · exact fails_fail (by decide)
  · exact fails_bind (fails_check (by decide)) fun _ => fails_pure _

theorem fails_readSessionId : Fails (· ≠ jhiSuccess) readSessionId := by
  refine fails_bind (fails_bytes _ _) fun id => ?_
  split_ifs
  · exact fails_pure _
  · exact fails_fail (by decide)

theorem fails_readProcessInfo (off : Nat) : Fails (· ≠ jhiSuccess) (readProcessInfo off) :=
  fails_bind (fails_u32 _) fun _ => fails_bind (fails_u32 _) fun _ => fails_bind (fails_u32 _) fun _ => fails_pure _

theorem fails_decode (inputSize : UInt32) (vmType : VmType) (pluginRegistered : Bool) (id : CommandId) :
    Fails (· ≠ jhiSuccess) (decode inputSize vmType pluginRegistered id) := by
  have hinternal : jhiInternalError ≠ jhiSuccess := by decide
  have hbuffer : jhiInvalidBufferSize ≠ jhiSuccess := by decide
  have htee : teeStatusInternalError ≠ jhiSuccess := by decide
  have huuid : teeStatusInvalidUuid ≠ jhiSuccess := by decide
  have hvm : teeStatusUnsupportedPlatform ≠ jhiSuccess := by decide
  have hfw : teeStatusNoFwConnection ≠ jhiSuccess := by decide
  -- the steps of a handler one after the other
  cases id <;>
  simp only [decode, invokeInit, invokeInstall, invokeUninstall, invokeGetSessionsCount, invokeCreateSession,
    invokeCloseSession, invokeSetSessionEventHandler, invokeGetSessionInfo, invokeGetSessionEventData,
    invokeSendAndRecieve, invokeGetAppletProperty, invokeGetVersionInfo, invokeGetSessionDataTable,
    invokeGetLoadedApplets, invokeOpenSDSession, invokeCloseSDSession, invokeListInstalledTAs,
    invokeListInstalledSDs, invokeSendCmdPkg, invokeQueryTeeMetadata, invokeProvisionOemMasterKey,
    invokeSetTAEncryptionKey, readSdHandle, readKey] <;>
  with_reducible repeat' first
    | exact fails_pure _
    | exact fails_readAppId
    | exact fails_readSessionId
    | exact fails_readProcessInfo _
    | exact fails_bytes _ _
    | exact fails_u8 _
    | exact fails_u32 _
    | exact fails_u64 _
    | exact fails_check (by assumption)
    | exact fails_checkDataLength _ (by assumption)
    | refine fails_bind ?_ fun _ => ?_

/-! ### The dispatcher -/

/-- The dispatcher keeps to the request: it reads only bytes of it, and if its sizes do not fit, it
answers with an error code, having made no call; at most it has started a stopped service. -/
structure KeepsToRequest {σ : Type} (B : Backend σ) (emulation : Bool) (req : Request) (s : σ) : Prop where
  reads : ∀ a ∈ ((processCommand B emulation req).exe s).1.accesses, a.Ok req.inputSize.toNat
  misfit : ¬req.SizesFit emulation → ((processCommand B emulation req).exe s).1.verdict.calls = [] ∧
    (((processCommand B emulation req).exe s).2 = s ∨
      ((processCommand B emulation req).exe s).2 = ((ensureInit B).exe s).2) ∧
    ∃ o retCode, ((processCommand B emulation req).exe s).1.verdict.output = some o ∧ o.Carries retCode ∧
      retCode ≠ jhiSuccess

theorem safeOn_readHeader (emulation : Bool) (req : Request) :
    SafeOn req.inputSize.toNat req.inputData (readHeader emulation req.inputSize) := by
  unfold readHeader
  rw [safeOn_check_bind]
  intro hmin
  unfold sizeofJhiCommand at hmin
  rw [safeOn_u8_bind]
  refine ⟨by omega, ?_⟩
  split
  · exact safeOn_fail _ _ _
  · rw [safeOn_u32_bind, safeOn_check_bind]
    exact ⟨by omega, fun _ => safeOn_pure _ _ _⟩

section Dispatcher

variable {σ : Type} {B : Backend σ} {emulation : Bool} {req : Request} {s s' : σ} {id : CommandId}

theorem misfit_of_reaches (h : Reaches B emulation req s id s') (hfit : ¬req.SizesFit emulation) :
    ∃ retCode, retCode ≠ jhiSuccess ∧ id ≠ .getSessionsDataTable ∧
      ((handle B id req).exe s').1.verdict = .refused id retCode ∧ ((handle B id req).exe s').2 = s' := by
  obtain ⟨hmin, hid, hlen⟩ := (readHeader_eq_ok_iff emulation).1 h.1
  have hbody : ¬BodyFits req.inputSize req.inputData id := by
    intro hbody
    refine hfit ⟨hmin, hlen, fun id' hid' => ?_⟩
    obtain rfl : id = id' := Option.some.inj (hid.symm.trans hid')
    exact hbody
  cases hdec : (decode req.inputSize (B.getVmType s') (B.pluginRegistered s') id).answer req.inputData with
  | ok c => exact absurd (fits_of_decode hdec) hbody
  | error retCode =>
    refine ⟨retCode, fails_decode _ _ _ _ _ _ hdec, ?_, handle_of_error hdec⟩
    rintro rfl
    exact hbody trivial

/-- The dispatcher keeps to the request unless it is a command package, shorter than the fixed part of
one, for a VM that takes such packages. -/
theorem processCommand_keepsToRequest_iff (B : Backend σ) (emulation : Bool) (req : Request) (s : σ) :
    KeepsToRequest B emulation req s ↔
      ¬∃ s', Reaches B emulation req s .sendCmdPkg s' ∧ B.getVmType s' = .beihaiV2 ∧
        req.inputSize.toNat < 17 := by
  obtain ⟨retCode, s', hret, hs', hp, hno⟩ | ⟨id, s', hreach⟩ := processCommand_cases B emulation req s
  · -- no handler is reached
    refine iff_of_true ⟨?_, fun _ => ?_⟩ ?_
    · rw [hp]
      exact safeOn_readHeader emulation req
    · rw [hp]
      exact ⟨rfl, hs', _, retCode, rfl, respondCode_carries retCode, hret⟩
    · rintro ⟨s', hreach, -⟩
      exact hno _ _ hreach
  · have hp := processCommand_of_reaches hreach
    obtain ⟨hmin, -, hlen⟩ := (readHeader_eq_ok_iff emulation).1 hreach.1
    have hsafe := safeOn_decode_iff hmin (B.getVmType s') (B.pluginRegistered s') hlen id
    constructor
    · rintro ⟨hreads, -⟩ ⟨s'', hreach', hvm, hlt⟩
      obtain ⟨rfl, rfl⟩ := hreach.unique hreach'
      refine hsafe.1 (fun a ha => hreads a ?_) ⟨rfl, hvm, hlt⟩
      rw [hp, accesses_handle]
      exact List.mem_append_right _ ha
    · intro h
      refine ⟨?_, fun hfit => ?_⟩
      · rw [hp, accesses_handle]
        have hdec := hsafe.2 fun ⟨hid, hvm, hlt⟩ => h ⟨s', hid ▸ hreach, hvm, hlt⟩
        exact List.forall_mem_append.2 ⟨safeOn_readHeader emulation req, hdec⟩
      · obtain ⟨retCode, hret, hid, hverdict, hstate⟩ := misfit_of_reaches hreach hfit
        rw [hp, hverdict, hstate, hreach.2]
        obtain ⟨o, ho, hcarries⟩ := refuse_carries hid hret
        exact ⟨rfl, .inr rfl, o, retCode, ho, hcarries, hret⟩

end Dispatcher

/-- A command package that is nothing but a header. -/
def bareCmdPkg : Request := .ofBytes [12, 6, 0, 0, 0, 0]

/-- The size of its blob is read from behind its end. -/
theorem bareCmdPkg_read_outside :
    Access.read 13 4 ∈ ((processCommand quietBackend false bareCmdPkg).exe (quietState .beihaiV2)).1.accesses ∧
      ¬KeepsToRequest quietBackend false bareCmdPkg (quietState .beihaiV2) := by
  have hread : Access.read 13 4 ∈
      ((processCommand quietBackend false bareCmdPkg).exe (quietState .beihaiV2)).1.accesses := by
    decide +kernel
  refine ⟨hread, fun h => ?_⟩
  have hok := h.reads _ hread
  have hsize : bareCmdPkg.inputSize.toNat = 6 := rfl
  simp [Access.Ok, hsize] at hok

end DalHost

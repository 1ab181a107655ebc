import DalHost.Client.TableRoundTrip

/-!
# One exchange between client and service

`processCommand` around the encoders and decoders of the client library. For a request that a
`Jhis*` function has built, the handler of its command is reached, if any, and the client makes of
the response what the service has answered: `Heard` says what that is for every call. By design
there are two exceptions, a list with an entry that is no UUID and metadata shorter than the client
expects, for which it answers an error of its own.
-/

namespace DalHost

open Scan

/-! ### The handler of a request -/

section Reach

variable {σ : Type} {B : Backend σ} {emulation : Bool} {s s' : σ} {id : CommandId}

/-- The request of a `Jhis*` function as the service receives it. -/
def ClientCall.request (q : ClientCall) (ρ : Junk → UInt8) (rest : Nat → UInt8) : Request :=
  ⟨(encode q).size, (encode q).received ρ rest⟩

theorem slice_encode_header (q : ClientCall) (ρ : Junk → UInt8) :
    slice ((encode q).memory ρ) 0 5 = q.commandId.toByte :: le32 (encode q).size := by
  cases q <;> exact slice_header ρ (by simp)

theorem commandId_of_reaches {q : ClientCall} {ρ : Junk → UInt8} {rest : Nat → UInt8}
    (h : Reaches B emulation (q.request ρ rest) s id s') :
    id = q.commandId ∧ CommandId.ofByte emulation q.commandId.toByte = some q.commandId := by
  obtain ⟨hmin, hid, -⟩ := (readHeader_eq_ok_iff emulation).1 h.1
  have hmin' : 6 ≤ (encode q).size.toNat := hmin
  have hheader : slice ((encode q).received ρ rest) 0 5 = q.commandId.toByte :: le32 (encode q).size := by
    rw [Message.slice_received _ ρ rest (by omega), slice_encode_header]
  have hbyte : (q.request ρ rest).inputData 0 = q.commandId.toByte := by
    have h0 := apply_of_slice hheader (by omega : 0 < 5)
    rw [Nat.zero_add, List.getElem?_cons_zero] at h0
    exact Option.some.inj h0
  rw [hbyte] at hid
  rcases CommandId.ofByte_toByte emulation q.commandId with hof | ⟨rfl, hq | hq⟩
  · exact ⟨Option.some.inj (hid.symm.trans hof), hof⟩
  all_goals
    rw [hq] at hid
    exact nomatch hid

/-- The call has the receive buffer of the request. -/
def SameBuffer : ClientCall → Call → Prop
  | .sendAndRecv _ _ _ recvBufferSize, .sendAndRecieve _ _ _ rxLen => rxLen = recvBufferSize
  | .getAppletProperty _ _ recvBufferSize, .getAppletProperty _ _ rxLen => rxLen = recvBufferSize + 1
  | _, _ => True

theorem slice_encodeGetAppletProperty (ρ : Junk → UInt8) (appId : AppId) (sendBuffer : Bytes) (recvBufferSize : UInt32) :
    slice ((encodeGetAppletProperty appId sendBuffer recvBufferSize).memory ρ) 42 4 = le32 (recvBufferSize + 1) := by
  have happ := appId.length_terminated_text
  unfold encodeGetAppletProperty
  simp only [memory_command, List.map_cons, List.map_nil, List.map_append, Cell.map_render_ofBytes, storeAll_cons,
    storeAll_nil, store_append, List.length_append, List.length_map, length_raws, length_le32, lenAppId, Nat.reduceAdd]
  simp (disch := omega) only [slice_store_of_disjoint, slice_store_le32]

theorem sameBuffer_of_decode {q : ClientCall} {ρ : Junk → UInt8} {rest : Nat → UInt8} {vmType : VmType}
    {pluginRegistered : Bool} {c : Call}
    (h : (decode (encode q).size vmType pluginRegistered q.commandId).answer ((encode q).received ρ rest) =
      .ok (some c)) : SameBuffer q c := by
  cases q with
  | sendAndRecv sessionId commandId sendBuffer recvBufferSize =>
    change (invokeSendAndRecieve _).answer _ = _ at h
    unfold invokeSendAndRecieve at h
    obtain ⟨-, -, h⟩ := (answer_bind_eq_ok _).1 h
    obtain ⟨hmin, h⟩ := (answer_check_bind_eq_ok _).1 h
    rw [answer_u32_bind, answer_u32_bind, answer_check_bind_eq_ok, answer_check_bind_eq_ok, answer_check_bind_eq_ok] at h
    obtain ⟨-, -, -, h⟩ := h
    obtain ⟨id, -, h⟩ := (answer_bind_eq_ok _).1 h
    rw [answer_u32_bind, answer_bytes_bind, answer_pure] at h
    cases h
    refine u32At_eq ?_
    rw [Message.slice_received _ ρ rest (le_trans (by decide) hmin)]
    exact (fields_encodeSendAndRecv ρ sessionId commandId sendBuffer recvBufferSize).2.2.2.1
  | getAppletProperty appId sendBuffer recvBufferSize =>
    change (invokeGetAppletProperty _).answer _ = _ at h
    unfold invokeGetAppletProperty at h
    obtain ⟨-, -, h⟩ := (answer_bind_eq_ok _).1 h
    obtain ⟨hmin, h⟩ := (answer_check_bind_eq_ok _).1 h
    rw [answer_u32_bind, answer_u32_bind, answer_check_bind_eq_ok, answer_check_bind_eq_ok, answer_check_bind_eq_ok,
      answer_check_bind_eq_ok] at h
    obtain ⟨-, -, -, -, h⟩ := h
    obtain ⟨id, -, h⟩ := (answer_bind_eq_ok _).1 h
    rw [answer_bytes_bind, answer_pure] at h
    cases h
    refine u32At_eq ?_
    rw [Message.slice_received _ ρ rest (le_trans (by decide) hmin)]
    exact slice_encodeGetAppletProperty ρ appId sendBuffer recvBufferSize
  | _ => trivial

end Reach

/-! ### What the client hears -/

/-- The length of the metadata that the client asks for. -/
def ClientCall.metadataLength : ClientCall → Nat
  | .queryTEEMetadata maxLength => maxLength
  | _ => 0

/-- An error code, with nothing in the OUT parameters. -/
def HeardError (q : ClientCall) (retCode : JhiRet) (r : ClientResult) : Prop :=
  r.retCode = q.status retCode ∧ BlankOut r.out

/-- What the client hears of an answer. -/
def HeardAnswer (q : ClientCall) : (c : Call) → Answer c → ClientResult → Prop
  | .install .., retCode, r | .uninstall .., retCode, r | .closeSession .., retCode, r
  | .setSessionEventHandler .., retCode, r | .sendCmdPkg .., retCode, r | .provisionOemMasterKey .., retCode, r
  | .setTAEncryptionKey .., retCode, r => r = .code (q.status retCode)
  | .closeSDSession .., retCode, r =>
    r = ⟨q.status retCode, if q.status retCode = teeStatusSuccess then .sdHandle 0 else .none⟩
  | .sendAndRecieve _ _ _ rxLen, a, r => r = ⟨a.1, exchangeOut rxLen a.2 a.1⟩
  | .createSession .., a, r => r = ⟨a.1, .sessionId ((a.2.map SessionId.bytes).getD (List.replicate 16 0))⟩
  | .getSessionsCount _, a, r => r = ⟨a.1, .sessionCount a.2⟩
  | .getSessionInfo _, a, r =>
    r = ⟨a.1, .sessionInfo (le32 a.2.1.code ++ le32 a.2.2 ++ List.replicate 80 0)⟩
  | .getSessionEventData _, a, r =>
    match a.2 with
    | some event => r = ⟨a.1, .event event.dataType.toUInt8 (UInt32.ofNat event.data.length)
      (if event.data = [] then none else some event.data)⟩
    | none => ∃ dataType, r = ⟨a.1, .event dataType 0 none⟩
  | .getAppletProperty _ _ rxLen, a, r => r = ⟨a.retCode, propertyOut rxLen a.retCode a.length (a.text.getD [])⟩
  | .getVersionInfo, info, r => ∃ bytes, VersionFields info bytes ∧ r = ⟨jhiSuccess, .version bytes⟩
  | .openSDSession _, a, r => if a.1 = teeStatusSuccess then r = ⟨a.1, .sdHandle a.2⟩ else HeardError q a.1 r
  | .listInstalledTAs _, a, r | .listInstalledSDs _, a, r =>
    if a.1 = teeStatusSuccess then ListResult a.2 r else HeardError q a.1 r
  | .queryTeeMetadata, a, r =>
    if a.1 = teeStatusSuccess then
      r = if q.metadataLength ≤ a.2.length then ⟨a.1, .metadata (a.2.take q.metadataLength)⟩
        else .code teeStatusInternalError
    else HeardError q a.1 r
  | .getSessionsDataTable, a, r =>
    ∃ table ownersLists, TableFields a.2 table ownersLists ∧ r = ⟨a.1, .sessionTable table ownersLists⟩
  | .getLoadedApplets, a, r => r = ⟨a.1, .loadedApplets (a.2.map (strncpy 33))⟩

/-- What the client hears of a verdict. -/
def Heard (q : ClientCall) : Verdict → ClientResult → Prop
  | .rejected retCode, r | .refused _ retCode, r => HeardError q retCode r
  | .done, r => r = .code jhiSuccess
  | .answered c a, r => HeardAnswer q c a r

/-- The answers that the formats can carry: the sizes fit 32 bits, a list fits the client's count of 8
bits and the session table its `int`; a property has a text and a length, a list of security domains
an entry and an open session a handle; and the commands of the emulation succeed. -/
def RegularAnswer (c : Call) (a : Answer c) : Prop :=
  FramedAnswer c a ∧ match c, a with
    | .getAppletProperty .., a => (a.retCode = jhiSuccess → a.text ≠ none) ∧
      (a.retCode = jhiSuccess ∨ a.retCode = jhiInsufficientBuffer → a.length ≠ 0)
    | .openSDSession _, a => a.1 = teeStatusSuccess → a.2 ≠ 0
    | .listInstalledTAs _, a => a.1 = teeStatusSuccess → a.2.length < 256
    | .listInstalledSDs _, a => a.1 = teeStatusSuccess → a.2.length < 256 ∧ a.2 ≠ []
    | .getSessionsDataTable, a => 152 * a.2.length < 2 ^ 31
    | _, _ => True

def Verdict.Regular (q : ClientCall) : Verdict → Prop
  | .rejected _ => q.isEmulation = false
  | .answered c a => RegularAnswer c a
  | _ => True

section Hear

variable (ρ : Junk → UInt8) (rest : Nat → UInt8)

theorem heard_headerOnly {q : ClientCall} (hq : q.isEmulation = false) {retCode : JhiRet} (hret : retCode ≠ jhiSuccess)
    (data : Cell Junk) {o : Message}
    (ho : o = ⟨UInt32.ofNat sizeofJhiResponse, [headerStore retCode (UInt32.ofNat sizeofJhiResponse) data]⟩) :
    HeardError q retCode (received (receive o.size q) (o.received ρ rest)) := by
  subst ho
  refine hears_of (P := fun n m => HeardError q retCode (received (receive n q) m))
    (slice_responseHeader ρ (by simp)) (by exact (by decide : 9 ≤ 9)) fun n m ho hcode hlen hm => ?_
  have hn : n.toNat = sizeofJhiResponse := by rw [← ho]; rfl
  obtain ⟨out, hblank, hr⟩ := receive_bareCode hq hlen hn (by rw [hcode]; exact hret)
  rw [hr, hcode]
  exact ⟨rfl, hblank⟩

theorem heard_respondCode {q : ClientCall} (hq : q.isEmulation = false) {retCode : JhiRet} (hret : retCode ≠ jhiSuccess) :
    HeardError q retCode (received (receive (respondCode retCode).size q) ((respondCode retCode).received ρ rest)) :=
  heard_headerOnly ρ rest hq hret _ rfl

theorem heard_refuse {q : ClientCall} (hq : q.isEmulation = false) (hv : q.commandId ≠ .getVersionInfo) {retCode : JhiRet}
    (hret : retCode ≠ jhiSuccess) :
    ∃ o, refuse q.commandId retCode = some o ∧ HeardError q retCode (received (receive o.size q) (o.received ρ rest)) := by
  cases q with
  | getSessionsCount appId =>
    refine ⟨_, rfl, ?_⟩
    rw [receive_respondGetSessionsCount]
    exact ⟨rfl, rfl⟩
  | createSession appId flags initBuffer processInfo =>
    refine ⟨_, rfl, ?_⟩
    rw [receive_respondCreateSession]
    exact ⟨rfl, rfl⟩
  | getSessionInfo sessionId =>
    refine ⟨_, rfl, ?_⟩
    rw [receive_respondGetSessionInfo]
    exact ⟨rfl, rfl⟩
  | getEventData sessionId =>
    refine ⟨_, rfl, ?_⟩
    rw [receive_respondGetSessionEventData ρ rest _ _ (by decide)]
    exact ⟨rfl, rfl, rfl, rfl⟩
  | getVersionInfo => exact absurd rfl hv
  | getSessionTable | getLoadedAppletsList => cases hq
  | queryTEEMetadata maxLength =>
    refine ⟨_, rfl, heard_headerOnly ρ rest hq hret (.byte 0) ?_⟩
    unfold respondQueryTeeMetadata
    rw [if_neg (show retCode ≠ teeStatusSuccess from hret)]
  | _ => exact ⟨_, rfl, heard_respondCode ρ rest hq hret⟩

theorem received_keyStatus (retCode : JhiRet) :
    received (receiveKeyStatus (respondCode retCode).size) ((respondCode retCode).received ρ rest) =
      .code (jhiErrorToTeeError retCode) := by
  refine hears_of (o := respondCode retCode) (P := fun n m => received (receiveKeyStatus n) m = _)
    (slice_responseHeader ρ (by simp)) (by exact (by decide : 9 ≤ 9)) fun n m ho hret hlen hm => ?_
  have hn : n.toNat = 9 := by rw [← ho]; rfl
  unfold receiveKeyStatus
  by_cases hok : retCode = jhiSuccess
  · subst hok
    refine received_of_ok ?_
    rw [answer_bind_of_ok m (answer_receiveSuccess hlen (by omega) hret), answer_pure]
    rfl
  · refine received_of_error ?_
    rw [answer_receiveSuccess_bind_of_error (by omega) (by rw [hret]; exact hok), hret]

theorem heard_respond {q : ClientCall} {c : Call} {a : Answer c} (hid : c.commandId = q.commandId)
    (hbuf : SameBuffer q c) (hreg : RegularAnswer c a) :
    HeardAnswer q c a (received (receive (respond c a).size q) ((respond c a).received ρ rest)) := by
  obtain ⟨hframed, hreg⟩ := hreg
  cases q with
  | init => cases c <;> cases hid
  | install appId srcFile =>
    cases c with
    | install => exact receive_respondCode ρ rest (f := ClientResult.code) (fun _ => rfl) a
    | _ => cases hid
  | uninstall appId =>
    cases c with
    | uninstall => exact receive_respondCode ρ rest (f := ClientResult.code) (fun _ => rfl) a
    | _ => cases hid
  | closeSession sessionId processInfo force =>
    cases c with
    | closeSession => exact receive_respondCode ρ rest (f := ClientResult.code) (fun _ => rfl) a
    | _ => cases hid
  | setSessionEventHandler sessionId handleName =>
    cases c with
    | setSessionEventHandler => exact receive_respondCode ρ rest (f := ClientResult.code) (fun _ => rfl) a
    | _ => cases hid
  | getSessionsCount appId =>
    cases c with
    | getSessionsCount => exact receive_respondGetSessionsCount ρ rest a.1 a.2 appId
    | _ => cases hid
  | createSession appId flags initBuffer processInfo =>
    cases c with
    | createSession => exact receive_respondCreateSession ρ rest a.1 a.2 appId flags initBuffer processInfo
    | _ => cases hid
  | getSessionInfo sessionId =>
    cases c with
    | getSessionInfo => exact receive_respondGetSessionInfo ρ rest a.1 a.2.1.code a.2.2 sessionId
    | _ => cases hid
  | getEventData sessionId =>
    cases c with
    | getSessionEventData =>
      obtain ⟨retCode, event⟩ := a
      cases event with
      | none => exact ⟨_, receive_respondGetSessionEventData ρ rest retCode (.raw (.stack 0)) hframed sessionId⟩
      | some event =>
        exact receive_respondGetSessionEventData ρ rest retCode (.byte event.dataType.toUInt8) hframed sessionId
    | _ => cases hid
  | sendAndRecv sessionId commandId sendBuffer recvBufferSize =>
    cases c with
    | sendAndRecieve =>
      obtain rfl : _ = recvBufferSize := hbuf
      exact receive_respondSendAndRecieve ρ rest hframed sessionId commandId sendBuffer
    | _ => cases hid
  | getAppletProperty appId sendBuffer recvBufferSize =>
    cases c with
    | getAppletProperty =>
      obtain rfl : _ = recvBufferSize + 1 := hbuf
      refine receive_respondGetAppletProperty ρ rest hframed (fun hok => ?_) appId sendBuffer
      obtain ⟨text, htext⟩ := Option.ne_none_iff_exists'.1 (hreg.1 hok)
      rw [htext, Option.getD_some]
    | _ => cases hid
  | getVersionInfo =>
    cases c with
    | getVersionInfo => exact receive_respondGetVersionInfo ρ rest a
    | _ => cases hid
  | openSDSession sdId =>
    cases c with
    | openSDSession =>
      obtain ⟨retCode, sdHandle⟩ := a
      by_cases hok : retCode = teeStatusSuccess
      · subst hok
        exact receive_respondOpenSDSession ρ rest (hreg rfl) sdId
      · show if retCode = teeStatusSuccess then _ else _
        rw [if_neg hok]
        exact heard_headerOnly ρ rest rfl hok _ (if_neg hok)
    | _ => cases hid
  | closeSDSession sdHandle =>
    cases c with
    | closeSDSession => exact receive_respondCode ρ rest (fun _ => rfl) a
    | _ => cases hid
  | sendAdminCmdPkg sdHandle package =>
    cases c with
    | sendCmdPkg => exact receive_respondCode ρ rest (fun _ => rfl) a
    | _ => cases hid
  | listInstalledTAs sdHandle =>
    cases c with
    | listInstalledTAs =>
      obtain ⟨retCode, uuids⟩ := a
      by_cases hok : retCode = teeStatusSuccess
      · subst hok
        exact receive_listInstalledTAs ρ rest (hframed rfl) (hreg rfl) sdHandle
      · show if retCode = teeStatusSuccess then _ else _
        rw [if_neg hok]
        exact heard_headerOnly ρ rest rfl hok _ (if_neg hok)
    | _ => cases hid
  | listInstalledSDs sdHandle =>
    cases c with
    | listInstalledSDs =>
      obtain ⟨retCode, uuids⟩ := a
      by_cases hok : retCode = teeStatusSuccess
      · subst hok
        exact receive_listInstalledSDs ρ rest (hframed rfl) (hreg rfl).1 (hreg rfl).2 sdHandle
      · show if retCode = teeStatusSuccess then _ else _
        rw [if_neg hok]
        exact heard_headerOnly ρ rest rfl hok _ (if_neg hok)
    | _ => cases hid
  | queryTEEMetadata maxLength =>
    cases c with
    | queryTeeMetadata =>
      obtain ⟨retCode, metadata⟩ := a
      by_cases hok : retCode = teeStatusSuccess
      · subst hok
        exact receive_respondQueryTeeMetadata ρ rest (hframed rfl).2 maxLength
      · show if retCode = teeStatusSuccess then _ else _
        rw [if_neg hok]
        exact heard_headerOnly ρ rest rfl hok _ (if_neg hok)
    | _ => cases hid
  | provisionOemMasterKey key =>
    cases c with
    | provisionOemMasterKey => exact received_keyStatus ρ rest a
    | _ => cases hid
  | setTAEncryptionKey key =>
    cases c with
    | setTAEncryptionKey => exact received_keyStatus ρ rest a
    | _ => cases hid
  | getSessionTable =>
    cases c with
    | getSessionsDataTable =>
      obtain ⟨retCode, rows⟩ := a
      obtain ⟨rfl, hsize⟩ := hframed
      exact receive_respondGetSessionDataTable ρ rest hsize hreg
    | _ => cases hid
  | getLoadedAppletsList =>
    cases c with
    | getLoadedApplets =>
      obtain ⟨retCode, applets⟩ := a
      obtain ⟨rfl, hsize⟩ := hframed
      exact receive_respondGetLoadedApplets ρ rest hsize
    | _ => cases hid

end Hear

/-! ### `processCommand` -/

section Dispatcher

variable {σ : Type} {B : Backend σ} {emulation : Bool} {s s' : σ}

/-- No verdict turns a request down with the code of success. -/
theorem sound_processCommand (B : Backend σ) (emulation : Bool) (req : Request) (s : σ) :
    ((processCommand B emulation req).exe s).1.verdict.Sound := by
  obtain ⟨retCode, s', -, -, hp, -⟩ | ⟨id, s', hreach⟩ := processCommand_cases B emulation req s
  · rw [hp]
    trivial
  · rw [processCommand_of_reaches hreach]
    cases hdec : (decode req.inputSize (B.getVmType s') (B.pluginRegistered s') id).answer req.inputData with
    | error retCode =>
      rw [(handle_of_error hdec).1]
      exact fails_decode _ _ _ _ _ _ hdec
    | ok c =>
      cases c with
      | none =>
        rw [handle_of_done hdec]
        trivial
      | some c =>
        rw [(handle_of_call hdec).1]
        trivial

theorem not_refused {q : ClientCall} {vmType : VmType} {pluginRegistered : Bool} {retCode : JhiRet} {ρ : Junk → UInt8}
    {rest : Nat → UInt8} (hof : CommandId.ofByte emulation q.commandId.toByte = some q.commandId)
    (h : (decode (encode q).size vmType pluginRegistered q.commandId).answer ((encode q).received ρ rest) =
      .error retCode) : q.isEmulation = false ∧ q.commandId ≠ .getVersionInfo := by
  have hok : ∀ {c}, Accepted (encode q) q.commandId c → False := fun hacc =>
    nomatch h.symm.trans (hacc ρ rest emulation vmType pluginRegistered hof).2
  cases q with
  | getVersionInfo => exact (hok accepted_getVersionInfo).elim
  | getSessionTable => exact (hok accepted_getSessionTable).elim
  | getLoadedAppletsList => exact (hok accepted_getLoadedAppletsList).elim
  | _ => exact ⟨rfl, nofun⟩

theorem heard_of_reaches {q : ClientCall} {ρ ρ' : Junk → UInt8} {rest rest' : Nat → UInt8} {id : CommandId}
    (hreach : Reaches B emulation (q.request ρ rest) s id s')
    (hreg : ((handle B id (q.request ρ rest)).exe s').1.verdict.Regular q) :
    ∃ o, ((handle B id (q.request ρ rest)).exe s').1.verdict.output = some o ∧
      Heard q ((handle B id (q.request ρ rest)).exe s').1.verdict (received (receive o.size q) (o.received ρ' rest')) := by
  obtain ⟨rfl, hof⟩ := commandId_of_reaches hreach
  cases hdec : (decode (encode q).size (B.getVmType s') (B.pluginRegistered s') q.commandId).answer
      ((encode q).received ρ rest) with
  | error retCode =>
    obtain ⟨hq, hv⟩ := not_refused hof hdec
    rw [(handle_of_error hdec).1]
    exact heard_refuse ρ' rest' hq hv (fails_decode _ _ _ _ _ _ hdec)
  | ok c =>
    have hcall := returns_callOf _ _ _ _ _ _ hdec
    cases c with
    | none =>
      rw [handle_of_done hdec]
      refine ⟨_, rfl, ?_⟩
      cases q with
      | init => exact receive_respondCode ρ' rest' (f := ClientResult.code) (fun _ => rfl) jhiSuccess
      | _ => cases hcall
    | some c =>
      rw [(handle_of_call hdec).1] at hreg ⊢
      exact ⟨_, rfl, heard_respond ρ' rest' hcall.1 (sameBuffer_of_decode hdec) hreg⟩

/-- Every response that the formats can carry is well framed, and the client that built the request
hears what the service has answered. -/
theorem responseRoundTrip (B : Backend σ) (emulation : Bool) (s : σ) :
    (∀ req, ((processCommand B emulation req).exe s).1.verdict.Framed →
      ∃ o, ((processCommand B emulation req).exe s).1.verdict.output = some o ∧ o.WellFramed) ∧
    ∀ (q : ClientCall) (ρ ρ' : Junk → UInt8) (rest rest' : Nat → UInt8),
      ((processCommand B emulation (q.request ρ rest)).exe s).1.verdict.Regular q →
      ∃ o, ((processCommand B emulation (q.request ρ rest)).exe s).1.verdict.output = some o ∧
        Heard q ((processCommand B emulation (q.request ρ rest)).exe s).1.verdict
          (received (receive o.size q) (o.received ρ' rest')) := by
  refine ⟨fun req hframed => wellFramed_output (sound_processCommand B emulation req s) hframed, ?_⟩
  intro q ρ ρ' rest rest' hreg
  obtain ⟨retCode, s', hret, -, hp, -⟩ | ⟨id, s', hreach⟩ := processCommand_cases B emulation (q.request ρ rest) s
  · rw [hp] at hreg ⊢
    exact ⟨_, rfl, heard_respondCode ρ' rest' hreg hret⟩
  · rw [processCommand_of_reaches hreach] at hreg ⊢
    exact heard_of_reaches hreach hreg

end Dispatcher

/-- A service that has no sessions answers so. -/
theorem responseRoundTrip_getSessionsCount :
    ∃ o, ((processCommand quietBackend false ((ClientCall.getSessionsCount exampleApplet).request (fun _ => 0)
        fun _ => 0)).exe (quietState .beihaiV2)).1.verdict.output = some o ∧
      received (receive o.size (.getSessionsCount exampleApplet)) (o.received (fun _ => 1) fun _ => 2) =
        ⟨jhiSuccess, .sessionCount 0⟩ :=
  (responseRoundTrip quietBackend false (quietState .beihaiV2)).2 (.getSessionsCount exampleApplet) (fun _ => 0)
    (fun _ => 1) (fun _ => 0) (fun _ => 2) ⟨trivial, trivial⟩

/-- A plugin whose metadata is one byte. -/
def shortMetadataBackend : Backend (JhiState × Service Unit) :=
  serviceBackend { World.quiet Unit with pluginQueryTeeMetadata := pure (teeStatusSuccess, [1]) } (pure jhiSuccess)

/-- The service succeeds, and the client, which expects 160 bytes, answers an error of its own. -/
theorem shortMetadata_internalError :
    ((processCommand shortMetadataBackend false ((ClientCall.queryTEEMetadata 160).request (fun _ => 0)
      fun _ => 0)).exe (quietState .beihaiV2)).1.verdict = .answered .queryTeeMetadata (teeStatusSuccess, [1]) ∧
    (received (receive (respond .queryTeeMetadata (teeStatusSuccess, [1])).size (.queryTEEMetadata 160))
      ((respond .queryTeeMetadata (teeStatusSuccess, [1])).received (fun _ => 0) fun _ => 0)).retCode ≠
      (ClientCall.queryTEEMetadata 160).status teeStatusSuccess := by
  refine ⟨by rfl, ?_⟩
  have hr := receive_respondQueryTeeMetadata (fun _ => 0) (fun _ => 0) (by decide : 12 + ([1] : Bytes).length < 2 ^ 32) 160
  rw [if_neg (by decide)] at hr
  intro heq
  have hcode : teeStatusInternalError = (ClientCall.queryTEEMetadata 160).status teeStatusSuccess :=
    (congrArg ClientResult.retCode hr).symm.trans heq
  exact absurd hcode (by decide)

end DalHost

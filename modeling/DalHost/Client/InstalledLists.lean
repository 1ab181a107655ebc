import DalHost.Client.Exchange
import DalHost.Plugin.SecurityDomains
import DalHost.Transport.Sockets

/-!
# The lists of installed applets and domains

A list of ids on its way from the Beihai library through the plugin, the dispatcher and the socket to
`JhisListInstalledTAs` and `JhisListInstalledSDs`. The client counts in a byte and checks as many entries as
it has counted; the plugin stops at an entry that is missing or too short and reports a success. What arrives is the
list of the library, or an error, under the conditions `TasOk` and `SdsOk`.
-/

namespace DalHost

open Scan

/-! ### What arrives -/

/-- The two functions. -/
inductive ListKind
  | tas
  | sds
  deriving DecidableEq

namespace ListKind

/-- The plugin's answer, from the one of the library. -/
def take : ListKind → ListAnswer → JhiRet × List Bytes
  | tas => takeInstalledTAs
  | sds => takeInstalledSDs

def decoder (n : UInt32) : ListKind → Scan ClientResult ClientResult
  | tas => receiveListInstalledTAs n
  | sds => receiveListInstalledSDs n

end ListKind

section Library

variable {ψ : Type} (F : SdFirmware ψ) (p : SdPlugin ψ)

/-- The library is asked with the domain whose session the handle names. -/
theorem exe_jhiPluginListInstalledTAs {handle : VmHandle} {sdId : Bytes} (h : sdOfHandle p handle = .ok sdId) :
    ((jhiPluginListInstalledTAs F handle).exe p).1 =
      ListKind.tas.take ((F.listInstalledTAs handle sdId).exe p.fw).1 := by
  simp only [jhiPluginListInstalledTAs, exe_bind, exe_get, h, exe_onSdFw, exe_pure, ListKind.take]

theorem exe_jhiPluginListInstalledSDs :
    ((jhiPluginListInstalledSDs F p.intelSdHandle).exe p).1 =
      ListKind.sds.take ((F.listInstalledSDs p.intelSdHandle).exe p.fw).1 := by
  simp only [jhiPluginListInstalledSDs, exe_bind, exe_get, if_true, exe_onSdFw, exe_pure, ListKind.take]

end Library

/-- The response of the dispatcher. -/
def listResponse (kind : ListKind) (a : ListAnswer) : Message := respondListInstalled (kind.take a).1 (kind.take a).2

/-- The list as the client gets it; `ρ` and `rest` are memory that nobody has written. -/
def heardList (kind : ListKind) (a : ListAnswer) (ρ : Junk → UInt8) (rest : Nat → UInt8) : ClientResult :=
  if ClientPc.accepts (listResponse kind a).size then
    received (kind.decoder (listResponse kind a).size) ((listResponse kind a).received ρ rest)
  else noUuids teeStatusServiceUnavailable

/-- The library lists exactly these ids; no ids may also be a null pointer. -/
def ListAnswer.Lists (a : ListAnswer) (ids : List Bytes) : Prop :=
  a.ret = bhSuccess ∧ (a.strs = none ∧ a.count = 0 ∧ ids = [] ∨
    ∃ entries, a.strs = some entries ∧ entries.map (Option.map cString) = ids.map some)

theorem ListAnswer.Lists.unique {a : ListAnswer} {ids ids' : List Bytes} (h : a.Lists ids) (h' : a.Lists ids') : ids = ids' := by
  rcases h with ⟨-, ⟨hnone, -, rfl⟩ | ⟨entries, hstrs, hmap⟩⟩
  · rcases h' with ⟨-, ⟨-, -, rfl⟩ | ⟨entries', hstrs', -⟩⟩
    · rfl
    · rw [hnone] at hstrs'
      cases hstrs'
  · rcases h' with ⟨-, ⟨hnone', -⟩ | ⟨entries', hstrs', hmap'⟩⟩
    · rw [hstrs] at hnone'
      cases hnone'
    · rw [hstrs, Option.some.injEq] at hstrs'
      rw [← hstrs', hmap] at hmap'
      exact (List.map_injective_iff.2 fun _ _ => Option.some.inj) hmap'

/-- The client has a success with these ids. -/
def HasList (ids : List Bytes) (r : ClientResult) : Prop :=
  ∃ (count : UInt8) (bytes : Bytes), r = ⟨teeStatusSuccess, .uuids count bytes⟩ ∧ count.toNat = ids.length ∧
    bytes.take (33 * ids.length) = ids.flatMap (· ++ [0])

/-- The round trip of one answer of the library. -/
structure ListRoundTrip (kind : ListKind) (a : ListAnswer) : Prop where
  /-- The dispatcher writes inside its buffer. -/
  framed : (listResponse kind a).WellFramed
  exact : ∀ ids, a.Lists ids → (∀ id ∈ ids, validateUuidString id = true) → 13 + 33 * ids.length ≤ jhiMaxTransportDataSize →
    ∀ ρ rest, HasList ids (heardList kind a ρ rest)
  complete : ∀ ρ rest, (heardList kind a ρ rest).retCode = teeStatusSuccess →
    ∃ ids, a.Lists ids ∧ HasList ids (heardList kind a ρ rest)
  error : ∀ ρ rest, (heardList kind a ρ rest).retCode ≠ teeStatusSuccess →
    (heardList kind a ρ rest).retCode ∈ teeStatusErrors

/-! ### The conditions -/

/-- The ids before the first entry that is missing or shorter than 32 characters. -/
def leadingIds (entries : List (Option Bytes)) : List Bytes :=
  (entries.takeWhile fun entry => (longEntry entry).isSome).filterMap (Option.map cString)

/-- Some id that the client looks at is no id; it looks at as many as a byte counts. -/
def clientRefuses (ids : List Bytes) : Prop := ∃ id ∈ ids.take (ids.length % 256), validateUuidString id = false

instance (ids : List Bytes) : Decidable (clientRefuses ids) :=
  inferInstanceAs (Decidable (∃ id ∈ ids.take (ids.length % 256), validateUuidString id = false))

/-- The entries arrive whole, or an error does. -/
def EntriesOk (entries : List (Option Bytes)) (refused : Prop) : Prop :=
  13 + 33 * (leadingIds entries).length < 2 ^ 32 ∧
    ((leadingIds entries).length = entries.length ∧ entries.length < 256 ∨
      jhiMaxTransportDataSize ≤ 13 + 33 * (leadingIds entries).length ∨ refused)

def TasOk (a : ListAnswer) : Prop :=
  a.ret = bhSuccess → ∀ entries, a.strs = some entries → EntriesOk entries (clientRefuses (leadingIds entries))

/-- The last id is longer than 32 characters. -/
def lastTooLong (ids : List Bytes) : Prop := ∃ id, ids.getLast? = some id ∧ lenAppId < id.length

def SdsOk (a : ListAnswer) : Prop :=
  (a.ret ≠ bhSuccess → isJhiError a.ret = true ∨ a.ret ∈ teeStatusErrors) ∧
  (a.ret = bhSuccess → a.strs = none → a.count ≠ 0) ∧
  (a.ret = bhSuccess → ∀ entries, a.strs = some entries → leadingIds entries ≠ [] ∧
    EntriesOk entries (clientRefuses (leadingIds entries) ∨ lastTooLong (leadingIds entries)))

/-! ### The plugin's loop -/

theorem longEntry_eq_some {entry : Option Bytes} {id : Bytes} :
    longEntry entry = some id ↔ entry.map cString = some id ∧ lenAppId ≤ id.length := by
  unfold longEntry
  cases entry with
  | none => simp
  | some e =>
    simp only [Option.bind_some, Option.map_some, Option.some.injEq]
    split_ifs with hlong
    · constructor
      · rintro ⟨rfl⟩
        exact ⟨rfl, hlong⟩
      · rintro ⟨rfl, -⟩
        rfl
    · constructor
      · intro h
        cases h
      · rintro ⟨rfl, hlong'⟩
        exact absurd hlong' hlong

theorem pushEntries_eq (entries : List (Option Bytes)) : pushEntries entries = leadingIds entries := by
  unfold leadingIds
  induction entries with
  | nil => rfl
  | cons entry entries ih =>
    unfold pushEntries
    rw [List.takeWhile_cons]
    cases hlong : longEntry entry with
    | none => rfl
    | some id =>
      have hmap := (longEntry_eq_some.1 hlong).1
      simp only [Option.isSome_some, if_true, List.filterMap_cons, hmap, ih]

theorem leadingIds_spec (entries : List (Option Bytes)) :
    (entries.map (Option.map cString)).take (leadingIds entries).length = (leadingIds entries).map some ∧
    ∀ id ∈ leadingIds entries, lenAppId ≤ id.length ∧ cString id = id := by
  rw [← pushEntries_eq]
  induction entries with
  | nil => exact ⟨rfl, by simp [pushEntries]⟩
  | cons entry entries ih =>
    unfold pushEntries
    cases hlong : longEntry entry with
    | none => exact ⟨rfl, by simp⟩
    | some id =>
      obtain ⟨hmap, hlen⟩ := longEntry_eq_some.1 hlong
      refine ⟨?_, ?_⟩
      · simp only [List.map_cons, List.length_cons, List.take_succ_cons, hmap, ih.1]
      · rw [List.forall_mem_cons]
        refine ⟨⟨hlen, ?_⟩, ih.2⟩
        obtain ⟨e, -, rfl⟩ := Option.map_eq_some_iff.1 hmap
        exact List.takeWhile_idem

/-! ### What the client makes of a list -/

theorem strncpy_of_length {id : Bytes} (hid : cString id = id) (hlen : id.length = lenAppId) : strncpy 33 id = id ++ [0] := by
  unfold strncpy
  unfold lenAppId at hlen
  rw [hid, List.take_append, hlen, List.take_of_length_le (by omega)]
  rfl

theorem validateUuidChar_strncpy {id : Bytes} (hid : cString id = id) (hlen : lenAppId ≤ id.length) :
    validateUuidChar (strncpy 33 id) = validateUuidString id := by
  by_cases heq : id.length = lenAppId
  · rw [strncpy_of_length hid heq]
    simp [validateUuidString, heq]
  · have hlong : lenAppId < id.length := by omega
    unfold lenAppId at hlong
    have hnot : validateUuidString id = false := by simp [validateUuidString, heq]
    rw [hnot]
    -- the slot has no terminator
    have hget : (strncpy 33 id)[lenAppId]? = some (id.get ⟨32, hlong⟩) := by
      unfold strncpy lenAppId
      rw [hid, List.getElem?_take_of_lt (by omega), List.getElem?_append_left hlong, List.getElem?_eq_getElem hlong]
      rfl
    have hne : id.get ⟨32, hlong⟩ ≠ 0 := by
      have hmem : id.get ⟨32, hlong⟩ ∈ cString id := by
        rw [hid]
        exact List.get_mem id ⟨32, hlong⟩
      simpa using List.mem_takeWhile_imp hmem
    unfold validateUuidChar
    rw [hget]
    simp only [Option.some.injEq, hne, decide_false, Bool.false_and]

section Client

variable (ρ : Junk → UInt8) (rest : Nat → UInt8)

theorem answer_takeUuids {n : UInt32} {m : Nat → UInt8} {uuids : List Bytes}
    (hn : n.toNat = 13 + 33 * uuids.length)
    (hids : slice m 12 (33 * uuids.length) = uuids.flatMap (strncpy 33)) :
    (takeUuids n (UInt32.ofNat uuids.length)).answer m =
      if ValidList (uuids.take (uuids.length % 256)) then
        .ok ⟨teeStatusSuccess, .uuids (UInt8.ofNat uuids.length) (slice m 12 n.toNat)⟩
      else .error (noUuids teeStatusInternalError) := by
  have hcount : (UInt32.ofNat uuids.length).toUInt8.toNat = uuids.length % 256 := by
    rw [UInt32.toNat_toUInt8, UInt32.toNat_ofNat']
    omega
  have hcount' : (UInt32.ofNat uuids.length).toUInt8 = UInt8.ofNat uuids.length := by
    rw [← UInt8.toNat_inj, hcount, UInt8.toNat_ofNat']
  have hle : uuids.length % 256 ≤ uuids.length := Nat.mod_le _ _
  have hlen : (uuids.take (uuids.length % 256)).length = uuids.length % 256 := by
    rw [List.length_take, Nat.min_eq_left hle]
  have htake : (slice m 12 n.toNat).take (33 * (uuids.take (uuids.length % 256)).length) =
      (uuids.take (uuids.length % 256)).flatMap (strncpy 33) := by
    rw [hlen, take_slice _ _ (by omega), ← take_slice m 12 (by omega : 33 * (uuids.length % 256) ≤ 33 * uuids.length), hids,
      take_flatMap_of_length (length_strncpy 33)]
  have hvalid := validateUuidList_eq htake
  rw [hlen] at hvalid
  unfold takeUuids
  rw [answer_bind_of_ok m (answer_note m _), answer_bytes_bind, answer_bind, answer_check, hcount, hvalid]
  split_ifs with hok
  · rw [← hcount']
    rfl
  · rfl

/-- Of a list that it accepts the client has the ids and the count in a byte. -/
def DecodedList (uuids : List Bytes) (accepted : Prop) (r : ClientResult) : Prop :=
  (accepted → ∃ bytes : Bytes, bytes.take (33 * uuids.length) = uuids.flatMap (strncpy 33) ∧
    r = ⟨teeStatusSuccess, .uuids (UInt8.ofNat uuids.length) bytes⟩) ∧
  (¬accepted → r = noUuids teeStatusInternalError)

theorem decodedList_of_answer {n : UInt32} {m : Nat → UInt8} {uuids : List Bytes}
    (hn : n.toNat = 13 + 33 * uuids.length)
    (hids : slice m 12 (33 * uuids.length) = uuids.flatMap (strncpy 33)) {x : Scan ClientResult ClientResult}
    (hx : x.answer m = (takeUuids n (UInt32.ofNat uuids.length)).answer m) :
    DecodedList uuids (ValidList (uuids.take (uuids.length % 256)) = true) (received x m) := by
  rw [answer_takeUuids hn hids] at hx
  refine ⟨fun hvalid => ⟨slice m 12 n.toNat, ?_, ?_⟩, fun hvalid => ?_⟩
  · rw [take_slice _ _ (by omega), hids]
  · rw [if_pos hvalid] at hx
    exact received_of_ok hx
  · rw [if_neg hvalid] at hx
    exact received_of_error hx

theorem decodedList_tas {uuids : List Bytes} (h : 13 + 33 * uuids.length < 2 ^ 32) :
    DecodedList uuids (ValidList (uuids.take (uuids.length % 256)) = true)
      (received (receiveListInstalledTAs (respondListInstalled teeStatusSuccess uuids).size)
        ((respondListInstalled teeStatusSuccess uuids).received ρ rest)) := by
  refine hears_list ρ rest h (P := fun n m => DecodedList uuids (ValidList (uuids.take (uuids.length % 256)) = true)
    (received (receiveListInstalledTAs n) m)) fun n m hn hret hlen hcount hids => decodedList_of_answer hn hids ?_
  unfold receiveListInstalledTAs
  rw [answer_bind_of_ok m (answer_receiveSuccess hlen (by omega) hret), answer_bind_of_ok m (answer_note m _),
    answer_u32_bind, hcount, answer_check_bind m (sub_13_eq h hn)]

/-- For the domains the client also wants a terminator behind the last id. -/
def lastTerminated (uuids : List Bytes) : Prop := ∀ id, uuids.getLast? = some id → (strncpy 33 id)[32]? = some 0

theorem decodedList_sds {uuids : List Bytes} (h : 13 + 33 * uuids.length < 2 ^ 32) (hne : uuids ≠ []) :
    DecodedList uuids (lastTerminated uuids ∧ ValidList (uuids.take (uuids.length % 256)) = true)
      (received (receiveListInstalledSDs (respondListInstalled teeStatusSuccess uuids).size)
        ((respondListInstalled teeStatusSuccess uuids).received ρ rest)) := by
  have hpos := List.length_pos_iff.2 hne
  refine hears_list ρ rest h (P := fun n m => DecodedList uuids
    (lastTerminated uuids ∧ ValidList (uuids.take (uuids.length % 256)) = true)
    (received (receiveListInstalledSDs n) m)) fun n m hn hret hlen hcount hids => ?_
  have htake : (slice m 12 n.toNat).take (33 * uuids.length) = uuids.flatMap (strncpy 33) := by
    rw [take_slice _ _ (by omega), hids]
  -- the byte that the client looks at is the last one of the last slot
  have hlast : lastTerminated uuids ↔ m (n.toNat - 2) = 0 := by
    have hget : uuids[uuids.length - 1]? = some (uuids.getLast hne) := by
      rw [List.getElem?_eq_getElem (by omega), List.getLast_eq_getElem]
    have hbyte : (strncpy 33 (uuids.getLast hne))[32]? = some (m (n.toNat - 2)) := by
      rw [← entry_of_take htake hget, List.getElem?_take_of_lt (by omega), List.getElem?_drop, getElem?_slice,
        if_pos (by omega)]
      have hindex : 12 + (33 * (uuids.length - 1) + 32) = n.toNat - 2 := by omega
      rw [hindex]
    unfold lastTerminated
    rw [List.getLast?_eq_getLast_of_ne_nil hne]
    simp only [Option.some.injEq, forall_eq', hbyte]
  have hanswer : (receiveListInstalledSDs n).answer m = ((do
      check (m (n.toNat - 2) = 0) (noUuids teeStatusInternalError)
      takeUuids n (UInt32.ofNat uuids.length) : Scan ClientResult ClientResult)).answer m := by
    unfold receiveListInstalledSDs
    rw [answer_bind_of_ok m (answer_receiveSuccess hlen (by omega) hret), answer_bind_of_ok m (answer_note m _),
      answer_u32_bind, hcount, answer_check_bind m (sub_13_eq h hn), answer_bind_of_ok m (answer_note m _),
      answer_u8_bind, last_index (by omega)]
  by_cases hzero : m (n.toNat - 2) = 0
  · rw [answer_check_bind m hzero] at hanswer
    have hdecoded := decodedList_of_answer hn hids hanswer
    exact ⟨fun hok => hdecoded.1 hok.2, fun hok => hdecoded.2 fun hvalid => hok ⟨hlast.2 hzero, hvalid⟩⟩
  · rw [answer_check_bind_of_not m hzero] at hanswer
    exact ⟨fun hok => absurd (hlast.1 hok.1) hzero, fun _ => received_of_error hanswer⟩

/-- Without a domain, the client reads a byte far behind its buffer, and its value decides. -/
theorem received_noSds : received (receiveListInstalledSDs (respondListInstalled teeStatusSuccess []).size)
      ((respondListInstalled teeStatusSuccess []).received ρ rest) =
    if rest (12 + 0xFFFFFFFF) = 0 then
      ⟨teeStatusSuccess, .uuids 0 (slice ((respondListInstalled teeStatusSuccess []).received ρ rest) 12 13)⟩
    else noUuids teeStatusInternalError := by
  -- the byte is behind the message
  have hrest : (respondListInstalled teeStatusSuccess []).received ρ rest (12 + 0xFFFFFFFF) = rest (12 + 0xFFFFFFFF) := by
    refine store_apply_of_ge _ _ ?_
    rw [Message.bytes, length_slice]
    decide
  have hsize : (respondListInstalled teeStatusSuccess []).size = 13 := by decide
  rw [← hrest]
  refine @hears_list ρ rest [] (by decide) (fun n m => n = 13 →
    received (receiveListInstalledSDs n) m = if m (12 + 0xFFFFFFFF) = 0 then
      ⟨teeStatusSuccess, .uuids 0 (slice m 12 13)⟩ else noUuids teeStatusInternalError)
    (fun n m hn hret hlen hcount hids h13 => ?_) hsize
  subst h13
  have hanswer : (receiveListInstalledSDs 13).answer m = ((do
      check (m (12 + 0xFFFFFFFF) = 0) (noUuids teeStatusInternalError)
      takeUuids 13 (UInt32.ofNat ([] : List Bytes).length) : Scan ClientResult ClientResult)).answer m := by
    unfold receiveListInstalledSDs
    rw [answer_bind_of_ok m (answer_receiveSuccess hlen (by decide) hret), answer_bind_of_ok m (answer_note m _),
      answer_u32_bind, hcount, answer_check_bind m (by decide), answer_bind_of_ok m (answer_note m _),
      answer_u8_bind]
    rfl
  split_ifs with hzero
  · rw [answer_check_bind m hzero, answer_takeUuids hn hids] at hanswer
    exact received_of_ok hanswer
  · rw [answer_check_bind_of_not m hzero] at hanswer
    exact received_of_error hanswer

theorem received_noList (kind : ListKind) {retCode : JhiRet} (hret : retCode ≠ teeStatusSuccess) :
    received (kind.decoder (respondCode retCode).size) ((respondCode retCode).received ρ rest) =
      noUuids (jhiErrorToTeeError retCode) := by
  refine hears_of (o := respondCode retCode) (P := fun n m => received (kind.decoder n) m = _)
    (slice_responseHeader ρ (by simp)) (by exact (by decide : 9 ≤ 9)) fun n m ho hcode hlen hm => ?_
  have hn : n.toNat = 9 := by rw [← ho]; rfl
  refine received_of_error ?_
  cases kind <;>
    exact (answer_receiveSuccess_bind_of_error (by omega) (by rw [hcode]; exact hret)).trans (by rw [hcode])

end Client

/-! ### Error codes -/

theorem jhiErrorToTeeError_mem_iff {code : JhiRet} (hcode : code ≠ jhiSuccess) :
    jhiErrorToTeeError code ∈ teeStatusErrors ↔ isJhiError code = true ∨ code ∈ teeStatusErrors := by
  cases hjhi : isJhiError code with
  | false =>
    rw [jhiErrorToTeeError_of_not_jhi hjhi]
    simp
  | true => exact iff_of_true (jhiErrorToTeeError_mem hjhi hcode) (.inl rfl)

theorem beihaiToTeeError_mem {bhError : BhRet} (h : bhError ≠ bhSuccess) : beihaiToTeeError bhError ∈ teeStatusErrors := by
  unfold beihaiToTeeError translateError
  cases hfind : bhTeeRows.find? fun row => row.1.contains bhError with
  | none => exact (by decide : teeStatusInternalError ∈ teeStatusErrors)
  | some row =>
    have hrows : ∀ row ∈ bhTeeRows, row.1 = [bhSuccess] ∨ row.2 ∈ teeStatusErrors := by decide
    have hcontains := List.find?_some hfind
    rcases hrows row (List.mem_of_find?_eq_some hfind) with hrow | hrow
    · rw [hrow] at hcontains
      exact absurd (by simpa using hcontains) h
    · exact hrow

/-! ### The round trip -/

/-- What the client refuses of a list whose ids are long enough. -/
def ListKind.refuses (ids : List Bytes) : ListKind → Prop
  | .tas => clientRefuses ids
  | .sds => clientRefuses ids ∨ lastTooLong ids

theorem length_of_validateUuidString {id : Bytes} (h : validateUuidString id = true) : id.length = lenAppId := by
  unfold validateUuidString at h
  rw [Bool.and_eq_true, decide_eq_true_eq] at h
  exact h.1

theorem not_refuses_of_valid (kind : ListKind) {ids : List Bytes} (hvalid : ∀ id ∈ ids, validateUuidString id = true) : ¬kind.refuses ids := by
  have hclient : ¬clientRefuses ids := by
    rintro ⟨id, hid, hfalse⟩
    rw [hvalid id (List.mem_of_mem_take hid)] at hfalse
    cases hfalse
  cases kind with
  | tas => exact hclient
  | sds =>
    rintro (hrefuses | ⟨id, hlast, hgt⟩)
    · exact hclient hrefuses
    · have hlen := length_of_validateUuidString (hvalid id (List.mem_of_getLast? hlast))
      omega

section Whole

variable {ids : List Bytes} (hlong : ∀ id ∈ ids, lenAppId ≤ id.length ∧ cString id = id)
include hlong

theorem validList_take_iff (k : Nat) : ValidList (ids.take k) = true ↔ ∀ id ∈ ids.take k, validateUuidString id = true := by
  unfold ValidList
  rw [List.all_eq_true]
  refine forall_congr' fun id => forall_congr' fun hid => ?_
  obtain ⟨hlen, hstr⟩ := hlong id (List.mem_of_mem_take hid)
  rw [validateUuidChar_strncpy hstr hlen]

theorem validList_iff : ValidList (ids.take (ids.length % 256)) = true ↔ ¬clientRefuses ids := by
  rw [validList_take_iff hlong]
  unfold clientRefuses
  simp only [not_exists, not_and, Bool.not_eq_false]

theorem lastTerminated_iff : lastTerminated ids ↔ ¬lastTooLong ids := by
  unfold lastTerminated lastTooLong
  simp only [not_exists, not_and, Nat.not_lt]
  refine forall_congr' fun id => forall_congr' fun hlast => ?_
  obtain ⟨hlen, hstr⟩ := hlong id (List.mem_of_getLast? hlast)
  constructor
  · intro hterm
    refine Classical.byContradiction fun hgt => ?_
    -- the byte of the slot is a character of the id
    have hlt : 32 < id.length := by
      unfold lenAppId at hgt
      omega
    unfold strncpy at hterm
    rw [hstr, List.getElem?_take_of_lt (by omega), List.getElem?_append_left hlt] at hterm
    have hmem : (0 : UInt8) ∈ cString id := by
      rw [hstr]
      exact List.mem_of_getElem? hterm
    have hne := List.mem_takeWhile_imp hmem
    simp at hne
  · intro hle
    rw [strncpy_of_length hstr (by omega), List.getElem?_append_right (by unfold lenAppId at hlen hle; omega)]
    have hzero : 32 - id.length = 0 := by unfold lenAppId at hlen hle; omega
    rw [hzero]
    rfl

theorem valid_of_not_refuses {kind : ListKind} (hcount : ids.length < 256) (h : ¬kind.refuses ids) :
    ∀ id ∈ ids, validateUuidString id = true := by
  have hnot : ¬clientRefuses ids := by
    cases kind with
    | tas => exact h
    | sds => exact fun hrefuses => h (.inl hrefuses)
  have hvalid := (validList_take_iff hlong _).1 ((validList_iff hlong).2 hnot)
  rwa [Nat.mod_eq_of_lt hcount, List.take_length] at hvalid

theorem flatMap_strncpy (hvalid : ∀ id ∈ ids, validateUuidString id = true) :
    ids.flatMap (strncpy 33) = ids.flatMap (· ++ [0]) := by
  refine List.flatMap_congr fun id hid => ?_
  exact strncpy_of_length (hlong id hid).2 (length_of_validateUuidString (hvalid id hid))

end Whole

theorem listRoundTrip_of_code {kind : ListKind} {a : ListAnswer} {code : JhiRet} (hcode : code ∈ teeStatusErrors)
    (hframed : (listResponse kind a).WellFramed) (hheard : ∀ ρ rest, heardList kind a ρ rest = noUuids code)
    (hno : ∀ ids, a.Lists ids → (∀ id ∈ ids, validateUuidString id = true) → jhiMaxTransportDataSize < 13 + 33 * ids.length) :
    ListRoundTrip kind a := by
  refine ⟨hframed, fun ids hids hvalid hfits => ?_, fun ρ rest hok => ?_, fun ρ rest _ => ?_⟩
  · have hlarge := hno ids hids hvalid
    omega
  · rw [hheard] at hok
    exact absurd hok (ne_success_of_mem hcode)
  · rw [hheard]
    exact hcode

theorem listRoundTrip_of_list {kind : ListKind} {a : ListAnswer} {ids : List Bytes} (hids : a.Lists ids)
    (hframed : (listResponse kind a).WellFramed) (hheard : ∀ ρ rest, HasList ids (heardList kind a ρ rest)) :
    ListRoundTrip kind a := by
  refine ⟨hframed, fun ids' hids' _ _ ρ rest => ?_, fun ρ rest _ => ⟨ids, hids, hheard ρ rest⟩, fun ρ rest herror => ?_⟩
  · rw [hids'.unique hids]
    exact hheard ρ rest
  · obtain ⟨count, bytes, hr, -⟩ := hheard ρ rest
    rw [hr] at herror
    exact absurd rfl herror

section Code

variable {kind : ListKind} {a : ListAnswer} (hret : (kind.take a).1 ≠ teeStatusSuccess)
include hret

theorem heardList_of_code (ρ : Junk → UInt8) (rest : Nat → UInt8) :
    heardList kind a ρ rest = noUuids (jhiErrorToTeeError (kind.take a).1) := by
  have hresponse : listResponse kind a = respondCode (kind.take a).1 := if_neg hret
  have haccepts : ClientPc.accepts (respondCode (kind.take a).1).size = true :=
    (by decide : ClientPc.accepts (UInt32.ofNat sizeofJhiResponse) = true)
  unfold heardList
  rw [hresponse, if_pos haccepts]
  exact received_noList ρ rest kind hret

theorem listRoundTrip_of_error (hno : ∀ ids, ¬a.Lists ids) :
    ListRoundTrip kind a ↔ jhiErrorToTeeError (kind.take a).1 ∈ teeStatusErrors := by
  have hresponse : listResponse kind a = respondCode (kind.take a).1 := if_neg hret
  have hheard := heardList_of_code hret
  constructor
  · intro hround
    have herror := hround.error (fun _ => 0) (fun _ => 0)
    rw [hheard] at herror
    exact herror (jhiErrorToTeeError_ne_success hret)
  · intro hmem
    refine listRoundTrip_of_code hmem ?_ hheard fun ids hids => absurd hids (hno ids)
    rw [hresponse]
    exact wellFramed_respondCode _

end Code

theorem size_of_wellFramed {ids : List Bytes} (hlt : ids.length < 2 ^ 32)
    (h : (respondListInstalled teeStatusSuccess ids).WellFramed) : 13 + 33 * ids.length < 2 ^ 32 := by
  have hcount : (UInt32.ofNat ids.length).toNat = ids.length := UInt32.toNat_ofNat_of_lt' hlt
  by_cases hpos : 0 < ids.length
  · have hstores := h.stores_le
    have hpos' : 0 < UInt32.ofNat ids.length := by
      rw [UInt32.lt_iff_toNat_lt, hcount]
      exact hpos
    have hsize : (respondListInstalled teeStatusSuccess ids).size.toNat < 2 ^ 32 := UInt32.toNat_lt _
    have hmem : (12, Cell.ofBytes ((ids.take (UInt32.ofNat ids.length).toNat).flatMap (strncpy (lenAppId + 1)) ++ [0])) ∈
        (respondListInstalled teeStatusSuccess ids).stores := by
      unfold respondListInstalled
      rw [if_pos rfl]
      simp only [if_pos hpos']
      exact List.mem_cons_of_mem _ (List.mem_cons_of_mem _ List.mem_cons_self)
    have hend := hstores _ hmem
    rw [hcount, List.take_length, Cell.length_ofBytes, List.length_append,
      length_flatMap_of_length (length_strncpy (lenAppId + 1)), List.length_singleton] at hend
    unfold lenAppId at hend
    omega
  · omega

theorem toNat_size_respondListInstalled {ids : List Bytes} (h : 13 + 33 * ids.length < 2 ^ 32) :
    (respondListInstalled teeStatusSuccess ids).size.toNat = 13 + 33 * ids.length := by
  have hcount : (UInt32.ofNat ids.length).toNat = ids.length := UInt32.toNat_ofNat_of_lt' (by omega : _ < 2 ^ 32)
  have hsize := @toNat_listSize (UInt32.ofNat ids.length) (by rw [hcount]; exact h)
  rw [hcount] at hsize
  unfold respondListInstalled
  rw [if_pos rfl]
  exact hsize

section Entries

variable {kind : ListKind} {a : ListAnswer} {ids : List Bytes} (htake : kind.take a = (teeStatusSuccess, ids))
  (hlong : ∀ id ∈ ids, lenAppId ≤ id.length ∧ cString id = id) (hne : kind = .sds → ids ≠ [])
include htake

theorem listResponse_of_take : listResponse kind a = respondListInstalled teeStatusSuccess ids := by
  unfold listResponse
  rw [htake]

theorem heardList_of_large (hsize : 13 + 33 * ids.length < 2 ^ 32) (hmax : jhiMaxTransportDataSize ≤ 13 + 33 * ids.length)
    (ρ : Junk → UInt8) (rest : Nat → UInt8) : heardList kind a ρ rest = noUuids teeStatusServiceUnavailable := by
  unfold heardList
  rw [listResponse_of_take htake]
  refine if_neg fun haccepts => ?_
  unfold ClientPc.accepts at haccepts
  rw [decide_eq_true_eq, toNat_size_respondListInstalled hsize] at haccepts
  omega

include hlong hne

theorem heardList_of_small (hmax : 13 + 33 * ids.length < jhiMaxTransportDataSize) (ρ : Junk → UInt8)
    (rest : Nat → UInt8) : DecodedList ids (¬kind.refuses ids) (heardList kind a ρ rest) := by
  have hsize : 13 + 33 * ids.length < 2 ^ 32 := by
    unfold jhiMaxTransportDataSize at hmax
    omega
  have haccepts : ClientPc.accepts (respondListInstalled teeStatusSuccess ids).size = true := by
    unfold ClientPc.accepts sizeofJhiResponse
    rw [decide_eq_true_eq, toNat_size_respondListInstalled hsize]
    omega
  unfold heardList
  rw [listResponse_of_take htake, if_pos haccepts]
  cases kind with
  | tas =>
    have hdecoded := decodedList_tas ρ rest hsize
    rwa [validList_iff hlong] at hdecoded
  | sds =>
    have hdecoded := decodedList_sds ρ rest hsize (hne rfl)
    rw [validList_iff hlong, lastTerminated_iff hlong, ← not_or, or_comm] at hdecoded
    exact hdecoded

end Entries

theorem leadingIds_of_valid {entries : List (Option Bytes)} {ids : List Bytes}
    (hmap : entries.map (Option.map cString) = ids.map some) (hvalid : ∀ id ∈ ids, validateUuidString id = true) :
    leadingIds entries = ids := by
  rw [← pushEntries_eq]
  induction entries generalizing ids with
  | nil =>
    rw [List.map_nil, eq_comm, List.map_eq_nil_iff] at hmap
    rw [hmap]
    rfl
  | cons entry entries ih =>
    cases ids with
    | nil => cases hmap
    | cons id ids =>
      rw [List.map_cons, List.map_cons, List.cons.injEq] at hmap
      rw [List.forall_mem_cons] at hvalid
      have hlen := length_of_validateUuidString hvalid.1
      unfold pushEntries
      rw [longEntry_eq_some.2 ⟨hmap.1, Nat.le_of_eq hlen.symm⟩]
      simp only [ih hmap.2 hvalid.2]

section RoundTrip

variable {kind : ListKind} {a : ListAnswer} {entries : List (Option Bytes)}

theorem length_leadingIds_le (entries : List (Option Bytes)) : (leadingIds entries).length ≤ entries.length := by
  have hlen := congrArg List.length (leadingIds_spec entries).1
  rw [List.length_take, List.length_map, List.length_map] at hlen
  omega

variable (hstrs : a.strs = some entries) (htake : kind.take a = (teeStatusSuccess, leadingIds entries))
  (hne : kind = .sds → leadingIds entries ≠ [])
include hstrs

theorem ListAnswer.Lists.map_eq {ids : List Bytes} (h : a.Lists ids) : entries.map (Option.map cString) = ids.map some := by
  rcases h with ⟨-, ⟨hnone, -⟩ | ⟨entries', hstrs', hmap⟩⟩
  · rw [hstrs] at hnone
    cases hnone
  · rw [hstrs, Option.some.injEq] at hstrs'
    rw [hstrs', hmap]

include htake hne

theorem entriesOk_of_listRoundTrip (h : ListRoundTrip kind a) : EntriesOk entries (kind.refuses (leadingIds entries)) := by
  have hle := length_leadingIds_le entries
  have hframed := h.framed
  rw [listResponse_of_take htake] at hframed
  have hcount : entries.length < 2 ^ 32 := by
    rw [a.sized entries hstrs]
    exact UInt32.toNat_lt _
  refine ⟨size_of_wellFramed (by omega) hframed, ?_⟩
  by_cases hmax : jhiMaxTransportDataSize ≤ 13 + 33 * (leadingIds entries).length
  · exact .inr (.inl hmax)
  · by_cases hrefuses : kind.refuses (leadingIds entries)
    · exact .inr (.inr hrefuses)
    · -- the client has a success, so the list is whole
      obtain ⟨bytes, -, hheard⟩ :=
        (heardList_of_small htake (leadingIds_spec entries).2 hne (by omega) (fun _ => 0) (fun _ => 0)).1 hrefuses
      obtain ⟨ids, hids, count, bytes', hheard', hcount', -⟩ := h.complete (fun _ => 0) (fun _ => 0) (by rw [hheard])
      have hlength := congrArg List.length (hids.map_eq hstrs)
      rw [List.length_map, List.length_map] at hlength
      rw [hheard, ClientResult.mk.injEq, ClientOut.uuids.injEq] at hheard'
      rw [← hlength, ← hheard'.2.1, UInt8.toNat_ofNat'] at hcount'
      exact .inl (by omega)

theorem listRoundTrip_of_entriesOk (hok : a.ret = bhSuccess) (h : EntriesOk entries (kind.refuses (leadingIds entries))) :
    ListRoundTrip kind a := by
  obtain ⟨hsize, hwhole⟩ := h
  obtain ⟨hlead, hlong⟩ := leadingIds_spec entries
  have hexact : ∀ {ids}, a.Lists ids → (∀ id ∈ ids, validateUuidString id = true) → leadingIds entries = ids :=
    fun hids hvalid => leadingIds_of_valid (hids.map_eq hstrs) hvalid
  have hframed : (listResponse kind a).WellFramed := by
    rw [listResponse_of_take htake]
    exact wellFramed_respondListInstalled fun _ => hsize
  by_cases hmax : jhiMaxTransportDataSize ≤ 13 + 33 * (leadingIds entries).length
  · refine listRoundTrip_of_code (by decide) hframed (heardList_of_large htake hsize hmax) fun ids hids hvalid => ?_
    rw [hexact hids hvalid] at hmax
    unfold jhiMaxTransportDataSize at hmax ⊢
    omega
  · have hdecoded := heardList_of_small htake hlong hne (by omega)
    by_cases hrefuses : kind.refuses (leadingIds entries)
    · refine listRoundTrip_of_code (by decide) hframed (fun ρ rest => (hdecoded ρ rest).2 (not_not.2 hrefuses))
        fun ids hids hvalid => ?_
      rw [hexact hids hvalid] at hrefuses
      exact absurd hrefuses (not_refuses_of_valid kind hvalid)
    · obtain ⟨hall, h256⟩ : (leadingIds entries).length = entries.length ∧ entries.length < 256 := by
        rcases hwhole with hwhole | hwhole | hwhole
        · exact hwhole
        · exact absurd hwhole hmax
        · exact absurd hwhole hrefuses
      have hvalid := valid_of_not_refuses hlong (by omega) hrefuses
      have hids : a.Lists (leadingIds entries) := by
        refine ⟨hok, .inr ⟨entries, hstrs, ?_⟩⟩
        rw [← hlead, hall, ← List.length_map, List.take_length]
      refine listRoundTrip_of_list hids hframed fun ρ rest => ?_
      obtain ⟨bytes, hbytes, hheard⟩ := (hdecoded ρ rest).1 hrefuses
      refine ⟨_, bytes, hheard, ?_, by rw [hbytes, flatMap_strncpy hlong hvalid]⟩
      rw [UInt8.toNat_ofNat']
      omega

end RoundTrip

theorem not_listRoundTrip_noSds {a : ListAnswer} {entries : List (Option Bytes)} (hok : a.ret = bhSuccess)
    (hstrs : a.strs = some entries) (htake : ListKind.sds.take a = (teeStatusSuccess, [])) :
    ¬ListRoundTrip .sds a := by
  intro hround
  have hheard : ∀ ρ rest, heardList .sds a ρ rest = received (receiveListInstalledSDs (respondListInstalled teeStatusSuccess []).size)
      ((respondListInstalled teeStatusSuccess []).received ρ rest) := by
    intro ρ rest
    unfold heardList
    rw [listResponse_of_take htake]
    exact if_pos (by decide)
  cases entries with
  | nil =>
    -- nothing is installed, and the client has an error
    obtain ⟨count, bytes, hr, -⟩ := hround.exact [] ⟨hok, .inr ⟨[], hstrs, rfl⟩⟩ (by simp) (by decide) (fun _ => 0) (fun _ => 1)
    rw [hheard, received_noSds, if_neg (by decide), noUuids, ClientResult.mk.injEq] at hr
    exact absurd hr.1 (by decide)
  | cons entry entries =>
    -- there is an entry, and the client has a success with none
    have hr := hheard (fun _ => 0) (fun _ => 0)
    rw [received_noSds, if_pos rfl] at hr
    obtain ⟨ids, hids, count, bytes, hr', hcount, -⟩ := hround.complete (fun _ => 0) (fun _ => 0) (by rw [hr])
    have hlength := congrArg List.length (hids.map_eq hstrs)
    rw [hr, ClientResult.mk.injEq, ClientOut.uuids.injEq] at hr'
    rw [← hr'.2.1] at hcount
    simp only [List.length_map, List.length_cons, UInt8.toNat_zero] at hlength hcount
    omega

theorem not_lists_of_error {a : ListAnswer} (h : a.ret ≠ bhSuccess) (ids : List Bytes) : ¬a.Lists ids :=
  fun hids => h hids.1

theorem not_lists_of_count {a : ListAnswer} (hstrs : a.strs = none) (h : a.count ≠ 0) (ids : List Bytes) : ¬a.Lists ids := by
  rintro ⟨-, ⟨-, hcount, -⟩ | ⟨entries, hstrs', -⟩⟩
  · exact h hcount
  · rw [hstrs] at hstrs'
    cases hstrs'

theorem listRoundTrip_tas_iff (a : ListAnswer) : ListRoundTrip .tas a ↔ TasOk a := by
  unfold TasOk
  by_cases hret : a.ret = bhSuccess
  · cases hstrs : a.strs with
    | none =>
      refine iff_of_true ?_ (by simp)
      by_cases hcount : a.count = 0
      · -- no array and no entries: an empty list
        have htake : ListKind.tas.take a = (teeStatusSuccess, []) := by
          simp only [ListKind.take, takeInstalledTAs, hret, hstrs, hcount, ne_eq, not_true, if_false]
          rfl
        refine listRoundTrip_of_list ⟨hret, .inl ⟨hstrs, hcount, rfl⟩⟩ ?_ fun ρ rest => ?_
        · rw [listResponse_of_take htake]
          exact wellFramed_respondListInstalled fun _ => by decide
        · have hdecoded := heardList_of_small htake (by simp) (fun h => ListKind.noConfusion h) (by decide) ρ rest
          obtain ⟨bytes, hbytes, hheard⟩ := hdecoded.1 (not_refuses_of_valid .tas (by simp))
          exact ⟨_, bytes, hheard, rfl, hbytes⟩
      · have htake : (ListKind.tas.take a).1 = beihaiToTeeError bpeInternalError := by
          simp only [ListKind.take, takeInstalledTAs, hret, hstrs, hcount, ne_eq, not_true, not_false_eq_true, if_true, if_false]
        refine (listRoundTrip_of_error ?_ (not_lists_of_count hstrs hcount)).2 ?_
        · rw [htake]
          decide
        · rw [htake]
          decide
    | some entries =>
      have htake : ListKind.tas.take a = (teeStatusSuccess, leadingIds entries) := by
        simp only [ListKind.take, takeInstalledTAs, hret, hstrs, ne_eq, not_true, if_false, pushEntries_eq]
        rfl
      have hne : ListKind.tas = .sds → leadingIds entries ≠ [] := fun h => ListKind.noConfusion h
      constructor
      · intro hround _ entries' hentries
        rw [← Option.some.inj hentries]
        exact entriesOk_of_listRoundTrip hstrs htake hne hround
      · exact fun hok => listRoundTrip_of_entriesOk hstrs htake hne hret (hok hret entries rfl)
  · have htake : (ListKind.tas.take a).1 = beihaiToTeeError a.ret := by
      simp only [ListKind.take, takeInstalledTAs, ne_eq, hret, not_false_eq_true, if_true]
    have hmem := beihaiToTeeError_mem hret
    refine iff_of_true ((listRoundTrip_of_error ?_ (not_lists_of_error hret)).2 ?_) fun h => absurd h hret
    · rw [htake]
      exact ne_success_of_mem hmem
    · rw [htake, jhiErrorToTeeError_mem_iff (ne_success_of_mem hmem)]
      exact .inr hmem

theorem listRoundTrip_sds_iff (a : ListAnswer) : ListRoundTrip .sds a ↔ SdsOk a := by
  unfold SdsOk
  by_cases hret : a.ret = bhSuccess
  · cases hstrs : a.strs with
    | none =>
      have htake : (ListKind.sds.take a).1 = bpeInternalError := by
        simp only [ListKind.take, takeInstalledSDs, hret, hstrs, ne_eq, not_true, if_false]
      have hne : (ListKind.sds.take a).1 ≠ teeStatusSuccess := by
        rw [htake]
        decide
      by_cases hcount : a.count = 0
      · -- an empty list, and the client has an error
        refine iff_of_false (fun hround => ?_) fun hok => hok.2.1 hret rfl hcount
        obtain ⟨count, bytes, hr, -⟩ :=
          hround.exact [] ⟨hret, .inl ⟨hstrs, hcount, rfl⟩⟩ (by simp) (by decide) (fun _ => 0) (fun _ => 0)
        rw [heardList_of_code hne, ClientResult.mk.injEq] at hr
        exact absurd hr.1 (jhiErrorToTeeError_ne_success hne)
      · refine iff_of_true ((listRoundTrip_of_error hne (not_lists_of_count hstrs hcount)).2 ?_)
          ⟨fun h => absurd hret h, fun _ _ => hcount, fun _ entries h => by cases h⟩
        rw [htake]
        decide
    | some entries =>
      have htake : ListKind.sds.take a = (teeStatusSuccess, leadingIds entries) := by
        simp only [ListKind.take, takeInstalledSDs, hret, hstrs, ne_eq, not_true, if_false, pushEntries_eq]
        rfl
      by_cases hempty : leadingIds entries = []
      · rw [hempty] at htake
        exact iff_of_false (not_listRoundTrip_noSds hret hstrs htake) fun hok => (hok.2.2 hret entries rfl).1 hempty
      · constructor
        · intro hround
          refine ⟨fun h => absurd hret h, fun _ h => by (cases h), fun _ entries' hentries => ?_⟩
          rw [← Option.some.inj hentries]
          exact ⟨hempty, entriesOk_of_listRoundTrip hstrs htake (fun _ => hempty) hround⟩
        · exact fun hok => listRoundTrip_of_entriesOk hstrs htake (fun _ => hempty) hret (hok.2.2 hret entries rfl).2
  · have htake : (ListKind.sds.take a).1 = a.ret := by
      simp only [ListKind.take, takeInstalledSDs, ne_eq, hret, not_false_eq_true, if_true]
    rw [listRoundTrip_of_error (by rw [htake]; exact hret) (not_lists_of_error hret), htake, jhiErrorToTeeError_mem_iff hret]
    constructor
    · exact fun h => ⟨fun _ => h, fun hok => absurd hok hret, fun hok => absurd hok hret⟩
    · exact fun h => h.1 hret

/-- The list of the library arrives whole, or an error code does, exactly under these conditions. -/
theorem installed_list_round_trip_iff (a : ListAnswer) :
    (ListRoundTrip .tas a ↔ TasOk a) ∧ (ListRoundTrip .sds a ↔ SdsOk a) :=
  ⟨listRoundTrip_tas_iff a, listRoundTrip_sds_iff a⟩

/-- An id and a missing entry. -/
def holedAnswer : ListAnswer where
  ret := bhSuccess
  count := 2
  strs := some [some intelSdUuid, none]
  sized := by
    rintro _ ⟨rfl⟩
    rfl

/-- As many ids as a byte cannot count. -/
def longAnswer : ListAnswer where
  ret := bhSuccess
  count := 256
  strs := some (List.replicate 256 (some intelSdUuid))
  sized := by
    rintro _ ⟨rfl⟩
    rw [List.length_replicate]
    rfl

theorem sized_of_no_list :
    ∀ entries, (none : Option (List (Option Bytes))) = some entries → entries.length = (0 : UInt32).toNat := by
  intro entries h
  cases h

/-- No domain is installed. -/
def emptyAnswer : ListAnswer where
  ret := bhSuccess
  count := 0
  strs := none
  sized := sized_of_no_list

theorem installed_list_truncated :
    ¬ListRoundTrip .tas holedAnswer ∧ ¬ListRoundTrip .tas longAnswer ∧ ¬ListRoundTrip .sds emptyAnswer := by
  refine ⟨?_, ?_, ?_⟩
  · rw [listRoundTrip_tas_iff]
    intro h
    exact absurd (h rfl _ rfl).2 (by decide +kernel)
  · rw [listRoundTrip_tas_iff]
    intro h
    exact absurd (h rfl _ rfl).2 (by decide +kernel)
  · rw [listRoundTrip_sds_iff]
    exact fun h => h.2.1 rfl rfl rfl

end DalHost

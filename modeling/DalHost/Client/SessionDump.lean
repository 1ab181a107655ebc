import DalHost.Client.TableRoundTrip
import DalHost.Transport.Sockets

/-!
# The dump of the session table

The session table of the emulation on its way from `getSessionsDataTable` through `InvokeGetSessionDataTable` and the
socket to `JhisGetSessionTable`. The service writes the rows one behind the other and then the owners of all rows; the
client has only the counts to find out where the owners of a row start. What a program sees in the copy is the table,
as long as the response is below the limit of the transport; a response above it is refused by the client.
-/

namespace DalHost

open Scan

/-! ### What arrives -/

/-- `getSessionsDataTable`: the records in the order of the map. -/
def getSessionsDataTable (table : SessionTable) : List SessionRecord := table.entries.map Prod.snd

/-- The response of `InvokeGetSessionDataTable`. -/
def dumpResponse (table : SessionTable) : Message := respondGetSessionDataTable jhiSuccess (getSessionsDataTable table)

/-- The size of the response, were it not kept in 32 bits. -/
def dumpSize (table : SessionTable) : Nat :=
  25 + 152 * (getSessionsDataTable table).length +
    12 * ((getSessionsDataTable table).flatMap SessionRecord.ownersList).length

/-- What `JhisGetSessionTable` returns; `ρ` and `rest` are memory that nobody has written. -/
def heardTable (table : SessionTable) (ρ : Junk → UInt8) (rest : Nat → UInt8) : ClientResult :=
  if ClientPc.accepts (dumpResponse table).size then
    received (receive (dumpResponse table).size .getSessionTable) ((dumpResponse table).received ρ rest)
  else .code jhiServiceUnavailable

/-- The response is the one to the answer of the service. -/
example {φ : Type} (W : World φ) (s : Service φ) :
    respond .getSessionsDataTable ((exec W .getSessionsDataTable).exe s).1 = dumpResponse s.sessionList := rfl

/-! ### What a program sees -/

/-- The fields of a row, with the owners that its pointer leads to. -/
structure SessionView where
  sessionId : Bytes
  flags : UInt32
  state : UInt32
  ownersListCount : Nat
  owners : List ProcessInfo
  deriving DecidableEq

def SessionRecord.view (r : SessionRecord) : SessionView where
  sessionId := r.sessionId.bytes
  flags := r.sessionFlags
  state := r.state.code
  ownersListCount := r.ownersList.length
  owners := r.ownersList

/-- The memory that a copy occupies. -/
def memoryOf (copy : Bytes) (i : Nat) : UInt8 := copy.getD i 0

/-- A `JHI_PROCESS_INFORMATION` in memory. -/
def ownerAt (m : Nat → UInt8) (off : Nat) : ProcessInfo := ⟨u32At m off, u32At m (off + 4), u32At m (off + 8)⟩

/-- A `JHI_SESSION_EXTENDED_INFO` in memory, with its pointer given as an offset. -/
def rowAt (m : Nat → UInt8) (i ownersList : Nat) : SessionView where
  sessionId := slice m (16 + 152 * i) 16
  flags := u32At m (16 + 152 * i + 48)
  state := u32At m (16 + 152 * i + 52)
  ownersListCount := (u32At m (16 + 152 * i + 56)).toNat
  owners := (List.range (u32At m (16 + 152 * i + 56)).toNat).map fun j => ownerAt m (ownersList + 12 * j)

/-- The `sessionsCount` rows of a `JHI_SESSIONS_DATA_TABLE`. -/
def rowsOf (copy : Bytes) (ownersLists : List Int) : List SessionView :=
  (List.range (u32At (memoryOf copy) 0).toNat).map fun i => rowAt (memoryOf copy) i (ownersLists.getD i 0).toNat

/-- The owners that each pointer leads to are inside the copy. -/
def OwnersInside (copy : Bytes) (ownersLists : List Int) : Prop :=
  ∀ (i : Nat) (off : Int), ownersLists[i]? = some off →
    0 ≤ off ∧ off.toNat + 12 * (rowAt (memoryOf copy) i off.toNat).ownersListCount ≤ copy.length

/-- The round trip of one table. -/
structure DumpRoundTrip (table : SessionTable) : Prop where
  /-- The dispatcher writes inside its buffer. -/
  framed : (dumpResponse table).WellFramed
  exact : ∀ ρ rest, ∃ copy ownersLists, heardTable table ρ rest = ⟨jhiSuccess, .sessionTable copy ownersLists⟩ ∧
    rowsOf copy ownersLists = (getSessionsDataTable table).map SessionRecord.view ∧ OwnersInside copy ownersLists

/-! ### Reading the copy -/

section Copy

variable {copy : Bytes} {off len : Nat}

theorem slice_memoryOf (h : off + len ≤ copy.length) : slice (memoryOf copy) off len = (copy.drop off).take len := by
  apply List.ext_getElem?
  intro i
  rw [getElem?_slice, List.getElem?_take, List.getElem?_drop]
  split_ifs with hi
  · rw [memoryOf, List.getD_eq_getElem?_getD, List.getElem?_eq_getElem (by omega)]
    rfl
  · rfl

theorem u32At_memoryOf {x : UInt32} (before after : Bytes) (h : off + len ≤ copy.length)
    (hpart : (copy.drop off).take len = before ++ (le32 x ++ after)) : u32At (memoryOf copy) (off + before.length) = x := by
  have hlen := congrArg List.length hpart
  rw [List.length_take, List.length_drop, List.length_append, List.length_append, length_le32] at hlen
  apply u32At_eq
  have hslice := congrArg (fun l => (l.drop before.length).take 4) (slice_memoryOf h)
  rw [take_drop_slice _ _ (by omega), hpart, List.drop_left, List.take_left' (length_le32 x)] at hslice
  exact hslice

theorem ownerAt_memoryOf {info : ProcessInfo} (h : off + 12 ≤ copy.length)
    (hpart : (copy.drop off).take 12 = processInfoBytes info) : ownerAt (memoryOf copy) off = info := by
  unfold processInfoBytes at hpart
  have hpid : u32At (memoryOf copy) off = info.pid := by
    apply u32At_memoryOf [] (le32 info.creationTimeLow ++ le32 info.creationTimeHigh) h
    rw [hpart, List.append_assoc]
    rfl
  have hlow : u32At (memoryOf copy) (off + 4) = info.creationTimeLow := by
    apply u32At_memoryOf (le32 info.pid) _ h
    rw [hpart, List.append_assoc]
  have hhigh : u32At (memoryOf copy) (off + 8) = info.creationTimeHigh := by
    apply u32At_memoryOf (le32 info.pid ++ le32 info.creationTimeLow) [] h
    rw [hpart, List.append_nil]
  rw [ownerAt, hpid, hlow, hhigh]

theorem owners_memoryOf {owners : List ProcessInfo} (h : off + 12 * owners.length ≤ copy.length)
    (hpart : (copy.drop off).take (12 * owners.length) = owners.flatMap processInfoBytes) :
    (List.range owners.length).map (fun j => ownerAt (memoryOf copy) (off + 12 * j)) = owners := by
  apply List.ext_getElem
  · simp
  · intro j hj hlt
    rw [List.getElem_map, List.getElem_range]
    apply ownerAt_memoryOf (by omega)
    have hone := congrArg (fun l => (l.drop (12 * j)).take 12) hpart
    rw [List.drop_take, List.drop_drop, List.take_take, Nat.min_eq_left (by omega),
      drop_flatMap_of_length length_processInfoBytes, List.drop_eq_getElem_cons hlt, List.flatMap_cons,
      List.take_left' (length_processInfoBytes _)] at hone
    exact hone

theorem rowAt_memoryOf {record : SessionRecord} {i : Nat} (hcount : record.ownersList.length < 2 ^ 32)
    (hrow : RowFields record ((copy.drop (16 + 152 * i)).take 152)) (hinside : 16 + 152 * i + 152 ≤ copy.length)
    (howners : off + 12 * record.ownersList.length ≤ copy.length)
    (hpart : (copy.drop off).take (12 * record.ownersList.length) = record.ownersList.flatMap processInfoBytes) :
    rowAt (memoryOf copy) i off = record.view := by
  obtain ⟨hid, -, hnumbers⟩ := hrow
  rw [List.drop_take, List.drop_drop, List.take_take, Nat.min_eq_left (by omega), List.append_assoc] at hnumbers
  have hle : 16 + 152 * i + 48 + 12 ≤ copy.length := by omega
  have hsession : slice (memoryOf copy) (16 + 152 * i) 16 = record.sessionId.bytes := by
    rw [slice_memoryOf (by omega), ← hid, List.take_take]
    rfl
  have hflags : u32At (memoryOf copy) (16 + 152 * i + 48) = record.sessionFlags := u32At_memoryOf [] _ hle hnumbers
  have hstate : u32At (memoryOf copy) (16 + 152 * i + 52) = record.state.code :=
    u32At_memoryOf (le32 record.sessionFlags) _ hle hnumbers
  have hlist : u32At (memoryOf copy) (16 + 152 * i + 56) = UInt32.ofNat record.ownersList.length := by
    apply u32At_memoryOf (le32 record.sessionFlags ++ le32 record.state.code) [] hle
    rw [hnumbers, List.append_nil, List.append_assoc]
  have hlength : (UInt32.ofNat record.ownersList.length).toNat = record.ownersList.length :=
    UInt32.toNat_ofNat_of_lt' hcount
  rw [rowAt, hsession, hflags, hstate, hlist, hlength, owners_memoryOf howners hpart]
  rfl

end Copy

/-! ### The round trip -/

theorem ownersList_length_le {rows : List SessionRecord} {i : Nat} {record : SessionRecord} (h : rows[i]? = some record) :
    ((rows.take i).flatMap SessionRecord.ownersList).length + record.ownersList.length ≤
      (rows.flatMap SessionRecord.ownersList).length := by
  obtain ⟨hlt, hget⟩ := List.getElem?_eq_some_iff.1 h
  have hsplit : rows = rows.take i ++ record :: rows.drop (i + 1) := by
    rw [← hget, ← List.drop_eq_getElem_cons hlt, List.take_append_drop]
  have hlen := congrArg (fun l => (l.flatMap SessionRecord.ownersList).length) hsplit
  rw [List.flatMap_append, List.flatMap_cons, List.length_append, List.length_append] at hlen
  omega

theorem length_ownersOffsets (off : Nat) (rows : List SessionRecord) : (ownersOffsets off rows).length = rows.length := by
  induction rows generalizing off with
  | nil => rfl
  | cons row rows ih => rw [ownersOffsets, List.length_cons, List.length_cons, ih]

theorem rowsOf_eq {rows : List SessionRecord} {copy : Bytes}
    (hfields : TableFields rows copy (ownersOffsets (16 + 152 * rows.length) rows))
    (hlength : copy.length = 16 + 152 * rows.length + 12 * (rows.flatMap SessionRecord.ownersList).length)
    (hsize : copy.length < 2 ^ 32) :
    rowsOf copy (ownersOffsets (16 + 152 * rows.length) rows) = rows.map SessionRecord.view ∧
      OwnersInside copy (ownersOffsets (16 + 152 * rows.length) rows) := by
  have hrow : ∀ (i : Nat) (record : SessionRecord), rows[i]? = some record → ∃ off : Nat,
      (ownersOffsets (16 + 152 * rows.length) rows)[i]? = some (off : Int) ∧
      off + 12 * record.ownersList.length ≤ copy.length ∧ rowAt (memoryOf copy) i off = record.view := by
    intro i record hi
    have hle := ownersList_length_le hi
    have hlt := (List.getElem?_eq_some_iff.1 hi).1
    have hoffset := getElem?_ownersOffsets hi (16 + 152 * rows.length)
    obtain ⟨off, hoff, hpart⟩ := hfields.owners i record hi
    have hsame : off = 16 + 152 * rows.length + 12 * ((rows.take i).flatMap SessionRecord.ownersList).length := by
      rw [hoff, Option.some.injEq] at hoffset
      exact Int.ofNat.inj hoffset
    refine ⟨off, hoff, by omega, ?_⟩
    exact rowAt_memoryOf (by omega) (hfields.row i record hi) (by omega) (by omega) hpart
  have hcount : (u32At (memoryOf copy) 0).toNat = rows.length := by
    have hfirst : u32At (memoryOf copy) 0 = UInt32.ofNat rows.length := by
      apply u32At_eq
      rw [slice_memoryOf (by omega), List.drop_zero, hfields.count]
    rw [hfirst]
    exact UInt32.toNat_ofNat_of_lt' (show rows.length < 2 ^ 32 by omega)
  constructor
  · unfold rowsOf
    rw [hcount]
    apply List.ext_getElem
    · simp
    · intro i hi hlt
      rw [List.length_map] at hlt
      obtain ⟨off, hoff, -, hview⟩ := hrow i rows[i] (List.getElem?_eq_getElem hlt)
      rw [List.getElem_map, List.getElem_range, List.getElem_map, List.getD_eq_getElem?_getD, hoff]
      exact hview
  · intro i off hoff
    have hlt : i < rows.length := by
      have hlt := (List.getElem?_eq_some_iff.1 hoff).1
      rwa [length_ownersOffsets] at hlt
    obtain ⟨off', hoff', hle, hview⟩ := hrow i rows[i] (List.getElem?_eq_getElem hlt)
    rw [hoff, Option.some.injEq] at hoff'
    subst hoff'
    refine ⟨Int.natCast_nonneg off', ?_⟩
    rw [Int.toNat_natCast, hview]
    exact hle

theorem size_dumpResponse {table : SessionTable} (h : dumpSize table < 2 ^ 32) :
    (dumpResponse table).size.toNat = dumpSize table := by
  have hcount : (UInt32.ofNat (getSessionsDataTable table).length).toNat = (getSessionsDataTable table).length :=
    UInt32.toNat_ofNat_of_lt' (show _ < 2 ^ 32 by unfold dumpSize at h; omega)
  unfold dumpResponse respondGetSessionDataTable
  rw [if_neg (by simp)]
  simp only [hcount, List.take_length]
  exact toNat_sessionTableSize h

theorem heardTable_of_large {table : SessionTable} (hlarge : jhiMaxTransportDataSize ≤ dumpSize table)
    (h : dumpSize table < 2 ^ 32) (ρ : Junk → UInt8) (rest : Nat → UInt8) :
    heardTable table ρ rest = .code jhiServiceUnavailable := by
  refine if_neg fun haccepts => ?_
  unfold ClientPc.accepts at haccepts
  rw [decide_eq_true_eq, size_dumpResponse h] at haccepts
  omega

theorem dumpRoundTrip_of_small {table : SessionTable} (hsmall : dumpSize table < jhiMaxTransportDataSize) :
    DumpRoundTrip table := by
  have hlimit : jhiMaxTransportDataSize = 5242880 := rfl
  have hsize : dumpSize table < 2 ^ 32 := by omega
  refine ⟨wellFramed_respondGetSessionDataTable hsize, fun ρ rest => ?_⟩
  have haccepts : ClientPc.accepts (dumpResponse table).size = true := by
    unfold ClientPc.accepts sizeofJhiResponse
    rw [decide_eq_true_eq, size_dumpResponse hsize]
    unfold dumpSize at hsmall ⊢
    omega
  unfold dumpSize at hsmall hsize
  obtain ⟨copy, hfields, hlength, hreceived⟩ := receive_sessionTable_at ρ rest hsize (by omega)
  obtain ⟨hrows, hinside⟩ := rowsOf_eq hfields hlength (by omega)
  refine ⟨copy, _, ?_, hrows, hinside⟩
  rw [heardTable, if_pos haccepts]
  exact hreceived

/-- The dump of a session table arrives whole if its response is below the limit of the transport. A larger one whose
size is an `int` is still written inside its buffer, and the client refuses it. -/
theorem session_dump_round_trip (table : SessionTable) :
    (dumpSize table < jhiMaxTransportDataSize → DumpRoundTrip table) ∧
      (jhiMaxTransportDataSize ≤ dumpSize table → dumpSize table < 2 ^ 31 →
        (dumpResponse table).WellFramed ∧ ∀ ρ rest, heardTable table ρ rest = .code jhiServiceUnavailable) := by
  refine ⟨dumpRoundTrip_of_small, fun hlarge hint => ?_⟩
  have hsize : dumpSize table < 2 ^ 32 := by omega
  exact ⟨wellFramed_respondGetSessionDataTable hsize, heardTable_of_large hlarge hsize⟩

/-! ### Large tables -/

theorem length_numberedId (n : Nat) : (le32 (UInt32.ofNat n) ++ List.replicate 12 0).length = 16 := by
  rw [List.length_append, length_le32, List.length_replicate]

def numberedId (n : Nat) : SessionId := ⟨le32 (UInt32.ofNat n) ++ List.replicate 12 0, length_numberedId n⟩

theorem numberedId_ne {n k : Nat} (hlt : n < k) (hk : k < 2 ^ 32) : numberedId k ≠ numberedId n := by
  intro h
  have hbytes := congrArg (fun id : SessionId => id.bytes.take 4) h
  simp only [numberedId, List.take_left' (length_le32 _)] at hbytes
  have hnumber := congrArg ofLe hbytes
  have hk' : (UInt32.ofNat k).toNat = k := UInt32.toNat_ofNat_of_lt' hk
  have hn' : (UInt32.ofNat n).toNat = n := UInt32.toNat_ofNat_of_lt' (show n < 2 ^ 32 by omega)
  rw [le32, le32, ofLe_leBytes, ofLe_leBytes, hk', hn'] at hnumber
  omega

/-- A session without owners. -/
def ownerlessRecord (id : SessionId) : SessionRecord := ⟨id, 0, exampleApplet.text, 0, .active, [], [], 0, none⟩

def manySessions : Nat → SessionTable
  | 0 => OrdMap.empty
  | n + 1 => (manySessions n).insert (numberedId n) (ownerlessRecord (numberedId n))

theorem find?_manySessions {n k : Nat} (hle : n ≤ k) (hk : k < 2 ^ 32) : (manySessions n).find? (numberedId k) = none := by
  induction n with
  | zero => rfl
  | succ n ih =>
    rw [manySessions, OrdMap.find?_insert, if_neg (numberedId_ne (by omega) hk)]
    exact ih (by omega)

theorem length_manySessions {n : Nat} (hn : n < 2 ^ 32) : (manySessions n).entries.length = n := by
  induction n with
  | zero => rfl
  | succ n ih =>
    show (OrdMap.insertList _ _ (manySessions n).entries).length = n + 1
    rw [OrdMap.length_insertList _ (find?_manySessions (Nat.le_refl n) (by omega)), ih (by omega)]

theorem dumpSize_manySessions {n : Nat} (hn : n < 2 ^ 32) : dumpSize (manySessions n) = 25 + 152 * n := by
  have hnone : ∀ (n : Nat), ∀ e ∈ (manySessions n).entries, e.2.ownersList = [] := by
    intro n
    induction n with
    | zero => nofun
    | succ n ih =>
      intro e he
      rcases OrdMap.mem_insertList he with rfl | he
      · rfl
      · exact ih e he
  have howners : (getSessionsDataTable (manySessions n)).flatMap SessionRecord.ownersList = [] := by
    rw [getSessionsDataTable, List.flatMap_map, List.flatMap_eq_nil_iff]
    exact hnone n
  rw [dumpSize, howners, getSessionsDataTable, List.length_map, length_manySessions hn]
  rfl

/-- A table with more sessions than a response below the limit can hold. -/
theorem many_sessions_refused : ¬DumpRoundTrip (manySessions 34493) := by
  intro h
  have hsize := dumpSize_manySessions (show 34493 < 2 ^ 32 by omega)
  have hlimit : jhiMaxTransportDataSize = 5242880 := rfl
  obtain ⟨copy, ownersLists, hheard, -⟩ := h.exact (fun _ => 0) (fun _ => 0)
  rw [heardTable_of_large (by omega) (by omega)] at hheard
  cases hheard

/-- Three sessions, with two owners, none and one. -/
def ownedSessions : SessionTable :=
  ((OrdMap.empty.insert (numberedId 2) { ownerlessRecord (numberedId 2) with ownersList := [⟨7, 0, 0⟩] }).insert
    (numberedId 0) { ownerlessRecord (numberedId 0) with ownersList := [⟨7, 0, 0⟩, ⟨8, 1, 2⟩] }).insert
    (numberedId 1) (ownerlessRecord (numberedId 1))

/-- Three sessions arrive with their owners, and the response with too many is well formed. -/
theorem owned_sessions_arrive : (dumpSize ownedSessions < jhiMaxTransportDataSize ∧ DumpRoundTrip ownedSessions) ∧
    (dumpResponse (manySessions 34493)).WellFramed := by
  have hsize := dumpSize_manySessions (show 34493 < 2 ^ 32 by omega)
  have hlimit : jhiMaxTransportDataSize = 5242880 := rfl
  exact ⟨⟨by decide +kernel, (session_dump_round_trip ownedSessions).1 (by decide +kernel)⟩,
    ((session_dump_round_trip (manySessions 34493)).2 (by omega) (by omega)).1⟩

end DalHost

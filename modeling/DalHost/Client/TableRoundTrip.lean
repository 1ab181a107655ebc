import DalHost.Client.ResponseRoundTrip
import Mathlib.Data.List.Flatten
import Mathlib.Data.List.TakeWhile

/-!
# The tables of the emulation

What the client library makes of the two responses that are tables: the sessions with their owners,
and the loaded applets. The session table travels with the service's pointers in it; the client
computes where the owners of each row start in its own copy.
-/

namespace DalHost

open Scan

section Emulation

variable (ρ : Junk → UInt8) (rest : Nat → UInt8)

/-- The fields of a row that are set: the session, its applet as far as the terminator, and the three
numbers. -/
def RowFields (record : SessionRecord) (row : Bytes) : Prop :=
  row.take 16 = record.sessionId.bytes ∧
  (row.drop 16).take (min 32 (record.appId.length + 1)) = (record.appId ++ [0]).take 32 ∧
  (row.drop 48).take 12 = le32 record.sessionFlags ++ le32 record.state.code ++
    le32 (UInt32.ofNat record.ownersList.length)

theorem rowFields_render (record : SessionRecord) : RowFields record ((sessionExtendedInfo record).map (Cell.render ρ)) := by
  have hid := record.sessionId.length_eq
  unfold RowFields sessionExtendedInfo
  simp only [List.map_append, List.map_take, Cell.map_render_ofBytes]
  generalize happ : (record.appId ++ [0] ++ (raws Junk.stack 32).map (Cell.render ρ)).take 32 = app
  have happLen : app.length = 32 := by
    rw [← happ]
    simp
  simp only [List.append_assoc]
  refine ⟨List.take_left' hid, ?_, ?_⟩
  · rw [List.drop_left' hid, List.take_append_of_le_length (by omega), ← happ, List.take_take,
      Nat.min_eq_left (Nat.min_le_left _ _), List.take_append_of_le_length (by simp), ← List.take_take,
      List.take_of_length_le (l := record.appId ++ [0]) (by simp)]
  · rw [← List.drop_drop (i := 32) (j := 16), List.drop_left' hid, List.drop_left' happLen]
    simp only [← List.append_assoc]
    rw [List.append_assoc, List.append_assoc]
    exact List.take_left' (by simp)

/-- Where the owners of the rows start, if those of the first row start at `off`. -/
def ownersOffsets : Nat → List SessionRecord → List Int
  | _, [] => []
  | off, row :: rows => (off : Int) :: ownersOffsets (off + 12 * row.ownersList.length) rows

theorem getElem?_ownersOffsets {rows : List SessionRecord} {i : Nat} {row : SessionRecord} (h : rows[i]? = some row)
    (off : Nat) : (ownersOffsets off rows)[i]? =
      some ((off + 12 * ((rows.take i).flatMap SessionRecord.ownersList).length : Nat) : Int) := by
  induction rows generalizing i off with
  | nil => simp at h
  | cons head rows ih =>
    cases i with
    | zero => simp [ownersOffsets]
    | succ i =>
      rw [List.getElem?_cons_succ] at h
      rw [ownersOffsets, List.getElem?_cons_succ, ih h, List.take_succ_cons, List.flatMap_cons, List.length_append,
        Nat.mul_add, Nat.add_assoc]

theorem answer_setOwnersLists {m : Nat → UInt8} (tableSize : Nat) {rows : List SessionRecord} {i : Nat}
    (hcounts : ∀ j row, rows[j]? = some row →
      (u32At m (8 + 16 + 152 * (i + j) + 56)).toNat = row.ownersList.length) (off : Nat) :
    (setOwnersLists tableSize rows.length i off).answer m = .ok (ownersOffsets off rows) := by
  induction rows generalizing i off with
  | nil => rfl
  | cons row rows ih =>
    have hcount : (u32At m (8 + 16 + 152 * i + 56)).toNat = row.ownersList.length := hcounts 0 row rfl
    have hrest := ih (i := i + 1) (fun j r hr => by
      rw [Nat.add_assoc i 1 j, Nat.add_comm 1 j]
      exact hcounts (j + 1) r hr) (off + 12 * row.ownersList.length)
    have hoff : (off : Int) + 12 * (u32At m (8 + 16 + 152 * i + 56)).toNat =
        ((off + 12 * row.ownersList.length : Nat) : Int) := by
      rw [hcount]
      push_cast
      rfl
    show (setOwnersLists tableSize (rows.length + 1) i off).answer m = _
    rw [setOwnersLists, answer_bind_of_ok m (answer_note m _), answer_u32_bind, hoff, answer_bind_of_ok m hrest,
      answer_pure, ownersOffsets]

/-- The table that the client copies: the count, the rows, and for each row a pointer to its owners. -/
structure TableFields (rows : List SessionRecord) (table : Bytes) (ownersLists : List Int) : Prop where
  count : table.take 4 = le32 (UInt32.ofNat rows.length)
  row : ∀ (i : Nat) (record : SessionRecord), rows[i]? = some record → RowFields record ((table.drop (16 + 152 * i)).take 152)
  owners : ∀ (i : Nat) (record : SessionRecord), rows[i]? = some record → ∃ off : Nat, ownersLists[i]? = some (off : Int) ∧
    (table.drop off).take (12 * record.ownersList.length) = record.ownersList.flatMap processInfoBytes

theorem rowFields_slice {m : Nat → UInt8} {rows : List SessionRecord} {i : Nat} {record : SessionRecord}
    (hrows : slice m 24 (152 * rows.length) = (rows.flatMap sessionExtendedInfo).map (Cell.render ρ))
    (hi : rows[i]? = some record) : RowFields record (slice m (24 + 152 * i) 152) := by
  obtain ⟨hlt, hget⟩ := List.getElem?_eq_some_iff.1 hi
  have hle : 152 * i + 152 ≤ 152 * rows.length := by omega
  have hrow : slice m (24 + 152 * i) 152 = (sessionExtendedInfo record).map (Cell.render ρ) := by
    rw [← take_drop_slice m 24 hle, hrows, ← List.map_drop, ← List.map_take,
      drop_flatMap_of_length length_sessionExtendedInfo, List.drop_eq_getElem_cons hlt, List.flatMap_cons, hget,
      List.take_left' (length_sessionExtendedInfo record)]
  rw [hrow]
  exact rowFields_render ρ record

theorem ownersListCount_of_rowFields {m : Nat → UInt8} {off : Nat} {record : SessionRecord}
    (h : RowFields record (slice m off 152)) : u32At m (off + 56) = UInt32.ofNat record.ownersList.length := by
  have hnumbers := congrArg (List.drop 8) h.2.2
  rw [take_drop_slice m off (by decide), List.drop_left' (by simp)] at hnumbers
  refine u32At_eq ?_
  rw [← hnumbers, drop_slice]

theorem tableFields_of_slices {m : Nat → UInt8} {rows : List SessionRecord} {size : Nat}
    (hsize : size = 16 + 152 * rows.length + 12 * (rows.flatMap SessionRecord.ownersList).length)
    (hcount : slice m 8 4 = le32 (UInt32.ofNat rows.length))
    (hrows : slice m 24 (152 * rows.length) = (rows.flatMap sessionExtendedInfo).map (Cell.render ρ))
    (howners : slice m (24 + 152 * rows.length) (12 * (rows.flatMap SessionRecord.ownersList).length) =
      (rows.flatMap SessionRecord.ownersList).flatMap processInfoBytes) :
    TableFields rows (slice m 8 size) (ownersOffsets (16 + 152 * rows.length) rows) := by
  refine ⟨?_, fun i record hi => ?_, fun i record hi => ?_⟩
  · rw [take_slice m 8 (by omega), hcount]
  · have hlt := (List.getElem?_eq_some_iff.1 hi).1
    rw [take_drop_slice m 8 (by omega), show 8 + (16 + 152 * i) = 24 + 152 * i by omega]
    exact rowFields_slice ρ hrows hi
  · obtain ⟨hlt, hget⟩ := List.getElem?_eq_some_iff.1 hi
    have hsplit : rows.flatMap SessionRecord.ownersList = (rows.take i).flatMap SessionRecord.ownersList ++
        (record.ownersList ++ (rows.drop (i + 1)).flatMap SessionRecord.ownersList) := by
      rw [← hget, ← List.flatMap_cons, ← List.drop_eq_getElem_cons hlt, ← List.flatMap_append, List.take_append_drop]
    have hlen := congrArg List.length hsplit
    rw [List.length_append, List.length_append] at hlen
    refine ⟨_, getElem?_ownersOffsets hi _, ?_⟩
    have hdrop : (rows.flatMap SessionRecord.ownersList).drop ((rows.take i).flatMap SessionRecord.ownersList).length =
        record.ownersList ++ (rows.drop (i + 1)).flatMap SessionRecord.ownersList := by
      rw [hsplit, List.drop_left]
    generalize ((rows.take i).flatMap SessionRecord.ownersList).length = before at hlen hdrop ⊢
    have hpart : 12 * before + 12 * record.ownersList.length ≤ 12 * (rows.flatMap SessionRecord.ownersList).length := by
      omega
    rw [take_drop_slice m 8 (by omega),
      show 8 + (16 + 152 * rows.length + 12 * before) = 24 + 152 * rows.length + 12 * before by omega,
      ← take_drop_slice m (24 + 152 * rows.length) hpart, howners,
      drop_flatMap_of_length length_processInfoBytes, hdrop, List.flatMap_append]
    exact List.take_left' (length_flatMap_of_length length_processInfoBytes _)

theorem receive_sessionTable_at {rows : List SessionRecord}
    (h : 25 + 152 * rows.length + 12 * (rows.flatMap SessionRecord.ownersList).length < 2 ^ 32)
    (hint : 152 * rows.length < 2 ^ 31) :
    ∃ table, TableFields rows table (ownersOffsets (16 + 152 * rows.length) rows) ∧
      table.length = 16 + 152 * rows.length + 12 * (rows.flatMap SessionRecord.ownersList).length ∧
      received (receive (respondGetSessionDataTable jhiSuccess rows).size .getSessionTable)
        ((respondGetSessionDataTable jhiSuccess rows).received ρ rest) =
        ⟨jhiSuccess, .sessionTable table (ownersOffsets (16 + 152 * rows.length) rows)⟩ := by
  have hcount : (UInt32.ofNat rows.length).toNat = rows.length := UInt32.toNat_ofNat_of_lt' (by omega : _ < 2 ^ 32)
  have hsize := toNat_sessionTableSize h
  have hrowsLen := length_flatMap_of_length length_sessionExtendedInfo rows
  have hownersLen := length_flatMap_of_length length_processInfoBytes (rows.flatMap SessionRecord.ownersList)
  unfold respondGetSessionDataTable
  rw [if_neg (by simp)]
  simp only [hcount, List.take_length]
  refine hears_of (P := fun n m => ∃ table, TableFields rows table (ownersOffsets (16 + 152 * rows.length) rows) ∧
      table.length = 16 + 152 * rows.length + 12 * (rows.flatMap SessionRecord.ownersList).length ∧
      received (receive n .getSessionTable) m =
        ⟨jhiSuccess, .sessionTable table (ownersOffsets (16 + 152 * rows.length) rows)⟩)
    (slice_responseHeader ρ (by simp; omega)) (by rw [response, hsize]; omega) fun n m ho hret hlen hm => ?_
  have hn : n.toNat = 25 + 152 * rows.length + 12 * (rows.flatMap SessionRecord.ownersList).length := by
    rw [← ho]
    exact hsize
  have hcells : slice m 8 4 = le32 (UInt32.ofNat rows.length) ∧
      slice m 24 (152 * rows.length) = (rows.flatMap sessionExtendedInfo).map (Cell.render ρ) ∧
      slice m (24 + 152 * rows.length) (12 * (rows.flatMap SessionRecord.ownersList).length) =
        (rows.flatMap SessionRecord.ownersList).flatMap processInfoBytes := by
    rw [hm 8 4 (by omega), hm 24 _ (by omega), hm _ _ (by omega)]
    simp only [memory_response, List.map_cons, List.map_nil, countAndPointer, List.append_assoc, List.map_append,
      Cell.map_render_ofBytes, storeAll_cons, storeAll_nil]
    refine ⟨?_, ?_, slice_store_self _ _ _ hownersLen.symm⟩
    · rw [slice_store_of_disjoint _ _ _ (.inl (by omega)), slice_store_of_disjoint _ _ _ (.inl (by omega)),
        slice_store_of_subset _ _ _ le_rfl (by simp), Nat.sub_self, List.drop_zero]
      exact List.take_left' (length_le32 _)
    · rw [slice_store_of_disjoint _ _ _ (.inl (by omega)),
        slice_store_self _ _ _ (by rw [List.length_map, hrowsLen])]
  obtain ⟨hfirst, hrows, howners⟩ := hcells
  have htable : n.toNat - sizeofJhiResponse =
      16 + 152 * rows.length + 12 * (rows.flatMap SessionRecord.ownersList).length := by
    rw [hn, sizeofJhiResponse]
    omega
  have hfields := tableFields_of_slices ρ htable hfirst hrows howners
  refine ⟨_, hfields, (length_slice m 8 _).trans htable, received_of_ok ?_⟩
  have howned : ∀ j row, rows[j]? = some row → (u32At m (8 + 16 + 152 * (0 + j) + 56)).toNat = row.ownersList.length := by
    intro j row hj
    have hle : row.ownersList.length ≤ (rows.flatMap SessionRecord.ownersList).length :=
      le_trans (by simp) ((List.singleton_sublist.2 (List.mem_of_getElem? hj)).flatMap SessionRecord.ownersList).length_le
    have hrow := ownersListCount_of_rowFields (rowFields_slice ρ hrows hj)
    rw [Nat.zero_add, hrow]
    exact UInt32.toNat_ofNat_of_lt' (by omega : _ < 2 ^ 32)
  have hinfo : (152 * rows.length : Int).bmod (2 ^ 32) = 152 * rows.length :=
    Int.bmod_eq_of_le_mul_two (by omega) (by omega)
  have hset := answer_setOwnersLists (n.toNat - sizeofJhiResponse) howned (16 + 152 * rows.length)
  push_cast at hset
  have h25 : sizeofJhiResponse + sizeofResGetSessionsDataTable.toNat ≤ n.toNat := by
    rw [hn]
    exact Nat.le_add_right_of_le (Nat.le_add_right 25 _)
  show (receiveGetSessionTable n).answer m = _
  unfold receiveGetSessionTable
  rw [answer_bind_of_ok m (answer_receiveTable hlen h25 hret), answer_bind_of_ok m (answer_note m _),
    answer_bind_of_ok m (answer_note m _), answer_bytes_bind, answer_u32_bind, u32At_eq hfirst, hcount]
  simp only [hinfo]
  rw [answer_bind_of_ok m hset, answer_pure]

theorem receive_respondGetSessionDataTable {rows : List SessionRecord}
    (h : 25 + 152 * rows.length + 12 * (rows.flatMap SessionRecord.ownersList).length < 2 ^ 32)
    (hint : 152 * rows.length < 2 ^ 31) :
    ∃ table ownersLists, TableFields rows table ownersLists ∧
      received (receive (respondGetSessionDataTable jhiSuccess rows).size .getSessionTable)
        ((respondGetSessionDataTable jhiSuccess rows).received ρ rest) =
        ⟨jhiSuccess, .sessionTable table ownersLists⟩ := by
  obtain ⟨table, hfields, -, hreceived⟩ := receive_sessionTable_at ρ rest h hint
  exact ⟨table, _, hfields, hreceived⟩

/-! ### Loaded applets -/

theorem strncpy_strncpy (n : Nat) (src : Bytes) : strncpy n (strncpy n src) = strncpy n src := by
  have hne : ∀ b ∈ (cString src).take n, decide (b ≠ 0) = true := by
    intro b hb
    have hmem : b ∈ src.takeWhile (· ≠ 0) := List.mem_of_mem_take hb
    exact List.mem_takeWhile_imp (p := fun b : UInt8 => decide (b ≠ 0)) hmem
  have htake : ∀ s : Bytes, (s ++ List.replicate n 0).take n = s.take n ++ List.replicate (n - s.length) 0 := by
    intro s
    rw [List.take_append, List.take_replicate, Nat.min_eq_left (by omega)]
  have hzeros : cString (List.replicate (n - (cString src).length) (0 : UInt8)) = [] := by
    cases n - (cString src).length with
    | zero => rfl
    | succ k => rfl
  have htext : cString (strncpy n src) = (cString src).take n := by
    unfold strncpy
    rw [htake, cString, List.takeWhile_append_of_pos hne, ← cString, hzeros, List.append_nil]
  rw [strncpy, htext, htake, List.take_take, Nat.min_self, strncpy, htake, List.length_take]
  congr 2
  omega

theorem answer_copyGuids {m : Nat → UInt8} {applets : List Bytes} {i : Nat}
    (h : ∀ j id, applets[j]? = some id → slice m (24 + 33 * (i + j)) 33 = strncpy 33 id) :
    (copyGuids applets.length i).answer m = .ok (applets.map (strncpy 33)) := by
  induction applets generalizing i with
  | nil => rfl
  | cons id applets ih =>
    have hid : (copyText (24 + 33 * i) (lenAppId + 1)).answer m = .ok (strncpy 33 id) := by
      show Except.ok (strncpy 33 (slice m (24 + 33 * i) 33)) = _
      rw [← strncpy_strncpy 33 id]
      exact congrArg _ (congrArg _ (h 0 id rfl))
    have hrest := ih (i := i + 1) fun j r hr => by
      rw [Nat.add_assoc i 1 j, Nat.add_comm 1 j]
      exact h (j + 1) r hr
    show (copyGuids (applets.length + 1) i).answer m = _
    rw [copyGuids, answer_bind_of_ok m hid, answer_bind_of_ok m hrest, answer_pure, List.map_cons]

theorem receive_respondGetLoadedApplets {applets : List Bytes} (h : 25 + 33 * applets.length < 2 ^ 32) :
    received (receive (respondGetLoadedApplets jhiSuccess applets).size .getLoadedAppletsList)
      ((respondGetLoadedApplets jhiSuccess applets).received ρ rest) =
      ⟨jhiSuccess, .loadedApplets (applets.map (strncpy 33))⟩ := by
  have hcount : (UInt32.ofNat applets.length).toNat = applets.length :=
    UInt32.toNat_ofNat_of_lt' (by omega : _ < 2 ^ 32)
  have hsize := @toNat_loadedAppletsSize (UInt32.ofNat applets.length) (by rw [hcount]; exact h)
  have hidsLen := length_flatMap_of_length (length_strncpy 33) applets
  rw [hcount] at hsize
  unfold respondGetLoadedApplets
  rw [if_neg (by simp)]
  simp only [hcount, List.take_length]
  refine hears_of (P := fun n m => received (receive n .getLoadedAppletsList) m = _)
    (slice_responseHeader ρ (by simp)) (by rw [response, hsize]; omega) fun n m ho hret hlen hm => ?_
  have hn : n.toNat = 25 + 33 * applets.length := by rw [← ho]; exact hsize
  have hcells : slice m 8 4 = le32 (UInt32.ofNat applets.length) ∧
      slice m 24 (33 * applets.length) = applets.flatMap (strncpy 33) := by
    rw [hm 8 4 (by omega), hm 24 _ (by omega)]
    simp only [memory_response, List.map_cons, List.map_nil, countAndPointer, List.append_assoc, List.map_append,
      Cell.map_render_ofBytes, storeAll_cons, storeAll_nil, show lenAppId + 1 = 33 from rfl]
    refine ⟨?_, slice_store_self _ _ _ hidsLen.symm⟩
    rw [slice_store_of_disjoint _ _ _ (.inl (by omega)), slice_store_of_subset _ _ _ le_rfl (by simp), Nat.sub_self,
      List.drop_zero]
    exact List.take_left' (length_le32 _)
  obtain ⟨hfirst, hids⟩ := hcells
  have hentries : ∀ j id, applets[j]? = some id → slice m (24 + 33 * (0 + j)) 33 = strncpy 33 id := by
    intro j id hj
    have hlt := (List.getElem?_eq_some_iff.1 hj).1
    have hpart : 33 * j + 33 ≤ 33 * applets.length := by omega
    have hids' : (slice m 24 (33 * applets.length)).take (33 * applets.length) = applets.flatMap (strncpy 33) := by
      rw [take_slice m 24 le_rfl, hids]
    rw [Nat.zero_add, ← take_drop_slice m 24 hpart]
    exact entry_of_take hids' hj
  have h25 : sizeofJhiResponse + sizeofResGetLoadedApplets.toNat ≤ n.toNat := by
    rw [hn]
    exact Nat.le_add_right 25 _
  refine received_of_ok ?_
  show (receiveGetLoadedAppletsList n).answer m = _
  unfold receiveGetLoadedAppletsList
  rw [answer_bind_of_ok m (answer_receiveTable hlen h25 hret), answer_bytes_bind, answer_u32_bind, u32At_eq hfirst,
    hcount, answer_bind_of_ok m (answer_copyGuids hentries), answer_pure]

end Emulation

end DalHost

import DalHost.Plugin.AcpLoads

/-!
# The loads of the commands

The eight functions that load a package, as one family (`AcpCall`), and what the loads of each command find in a row: the
records of its structures, and at the end the image if the command has one.
-/

namespace DalHost

namespace Acp

/-- The functions that load a package. -/
inductive AcpCall
  | insSd
  | unsSd
  | insJta
  | insNta
  | unsJta
  | unsNta
  | updateSvl
  | insJtaProp
  deriving DecidableEq

/-- What is loaded: the addresses of the structures in the order of the package, and of the image. -/
structure Loaded where
  pointers : List UInt64
  image : Option UInt64
  deriving DecidableEq

namespace AcpCall

def cmdId : AcpCall → PackageType
  | .insSd => .installSD
  | .unsSd => .uninstallSD
  | .insJta => .installJTA
  | .insNta => .installNTA
  | .unsJta => .uninstallJTA
  | .unsNta => .uninstallNTA
  | .updateSvl => .updateSVL
  | .insJtaProp => .installJTAProp

/-- How many bytes stand before the pack. -/
def skips : AcpCall → Nat
  | .insJtaProp => 0
  | _ => acpCssHeaderLength

/-- The kinds of the structures of the command. -/
def kinds : AcpCall → List (RecordKind UInt8)
  | .insSd => [countedKind sizeofAcProp 4 maxAcpPropsLength 1, .fixed sizeofAcInsSdHeader, .fixed sizeofAcInsSdSigKey]
  | .unsSd | .unsJta | .unsNta => [.fixed sizeofGuid]
  | .insJta => [countedKind sizeofAcProp 4 maxAcpPropsLength 1, .fixed sizeofAcInsTaHeader]
  | .insNta => [countedKind sizeofAcProp 4 maxAcpPropsLength 1, .fixed sizeofAcInsTaHeader,
      countedKind 4 0 maxAcpNtaMetadataLength 1]
  | .updateSvl => [countedKind sizeofAcProp 4 maxAcpPropsLength 1, countedKind 4 0 maxAcpSvlRecords sizeofAcSv]
  | .insJtaProp => [.fixed sizeofAcInsJtaPropHeader, countedKind 4 0 maxAcpInsReasonsLength 4,
      countedKind 4 0 maxAcpInsReasonsLength 4, countedKind sizeofAcProp 4 maxAcpPropsLength 1,
      countedKind 4 0 maxAcpUsedServices sizeofGuid]

/-- An image follows the structures. -/
def hasImage : AcpCall → Bool
  | .insJta | .insNta | .insJtaProp => true
  | _ => false

/-- The function, whatever structure it fills. -/
def load (c : AcpCall) (rawData : UInt64) (size : UInt32) : Scan BhRet Loaded :=
  match c with
  | .insSd => (fun p => ⟨[p.1, p.2.insCond, p.2.head, p.2.sigKey], none⟩) <$> acpPloadInsSd rawData size
  | .unsSd => (fun p => ⟨[p.1, p.2], none⟩) <$> acpPloadUnsSd rawData size
  | .insJta => (fun p => ⟨[p.1, p.2.insCond, p.2.head], some p.2.taPack⟩) <$> acpPloadInsJta rawData size
  | .insNta => (fun p => ⟨[p.1, p.2.insCond, p.2.head, p.2.mdata], some p.2.taPack⟩) <$> acpPloadInsNta rawData size
  | .unsJta => (fun p => ⟨[p.1, p.2], none⟩) <$> acpPloadUnsJta rawData size
  | .unsNta => (fun p => ⟨[p.1, p.2], none⟩) <$> acpPloadUnsNta rawData size
  | .updateSvl => (fun p => ⟨[p.1, p.2.insCond, p.2.svList], none⟩) <$> acpPloadUpdateSvl rawData size
  | .insJtaProp => (fun p => ⟨[p.2.head, p.2.postReasons, p.2.regReasons, p.2.prop, p.2.usedServiceList], some p.2.jeffPack⟩) <$>
      acpPloadInsJtaProp rawData size

end AcpCall

/-! ### Loads one after the other -/

/-- For a reader that is aligned, the load finds records of the kinds, and goes on from there with their addresses. -/
def FindsThen {α : Type} (ks : List (RecordKind UInt8)) (x : Load α)
    (g : List UInt64 → PackReader → Except BhRet (α × PackReader)) : Prop :=
  ∀ m r, r.Valid → (r.cur.toNat - r.head.toNat) % 4 = 0 → Runs (Inside r.cur.toNat r.stop) m x r
    (match readRecords 4 ks (r.text m) with
    | none => .error bheInvalidBpkFile
    | some (records, rest) => g ((offsets 4 r.cur.toNat records).map .ofNat) (r.goTo (r.stop - rest.length)))

variable {α : Type} {m : Nat → UInt8} {r : PackReader}

theorem readRecord_text (hr : r.Valid) {k : RecordKind UInt8} {record rest : Bytes}
    (h : readRecord 4 k (r.text m) = some (record, rest)) :
    r.stop - rest.length = r.cur.toNat + (record.length + padding 4 record.length) ∧ r.stop - rest.length ≤ r.stop ∧
      (r.goTo (r.stop - rest.length)).text m = rest := by
  have hle := hr.le_stop
  obtain ⟨-, pad, hpad, heq⟩ := readRecord_eq_some_iff.1 h
  have hlength := PackReader.length_text (r := r) m
  rw [heq, List.length_append, List.length_append, hpad] at hlength
  refine ⟨by omega, by omega, ?_⟩
  rw [PackReader.text_goTo hr m (by omega) (by omega), heq,
    show r.stop - rest.length - r.cur.toNat = record.length + pad.length by omega, ← List.drop_drop, List.drop_left,
    List.drop_left]

theorem FindsThen.nil {x : Load α} {g : List UInt64 → PackReader → Except BhRet (α × PackReader)}
    (h : ∀ m r, r.Valid → (r.cur.toNat - r.head.toNat) % 4 = 0 → Runs (Inside r.cur.toNat r.stop) m x r (g [] r)) :
    FindsThen [] x g := by
  intro m r hr haligned
  have hle := hr.le_stop
  simp only [readRecords, offsets, List.map_nil, PackReader.length_text]
  rw [show r.stop - (r.stop - r.cur.toNat) = r.cur.toNat by omega, PackReader.goTo_cur]
  exact h m r hr haligned

theorem FindsThen.cons {k : RecordKind UInt8} {ks : List (RecordKind UInt8)} {x : Load UInt64} {y : UInt64 → Load α}
    {g : List UInt64 → PackReader → Except BhRet (α × PackReader)} (hx : Finds k x)
    (hy : ∀ a, FindsThen ks (y a) fun as => g (a :: as)) : FindsThen (k :: ks) (x >>= y) g := by
  intro m r hr haligned
  have hhead := hr.head_le
  have hfirst := hx m r hr haligned
  cases hread : readRecord 4 k (r.text m) with
  | none =>
    rw [hread] at hfirst
    rw [readRecords_cons_of_none hread]
    apply Runs.bind_error hfirst
  | some found =>
    obtain ⟨record, rest⟩ := found
    rw [hread] at hfirst
    rw [readRecords_cons_of_some hread]
    obtain ⟨hat, hle, htext⟩ := readRecord_text hr hread
    have hcur := PackReader.cur_goTo hr hle
    have hmod := add_padding_mod (a := 4) (by decide) record.length
    have hthen := hy r.cur m (r.goTo (r.stop - rest.length)) (hr.goTo (by omega) hle) (by
      rw [hcur, PackReader.head_goTo]
      omega)
    rw [htext, hcur, PackReader.stop_goTo] at hthen
    apply Runs.bind hfirst
    have hwithin : ∀ a, Inside (r.stop - rest.length) r.stop a → Inside r.cur.toNat r.stop a := by
      intro a ha
      apply ha.mono
      · omega
      · exact Nat.le_refl _
    cases hrecords : readRecords 4 ks rest with
    | none =>
      rw [hrecords] at hthen
      exact hthen.weaken hwithin
    | some found =>
      rw [hrecords] at hthen
      simpa only [Option.map_some, offsets, List.map_cons, UInt64.ofNat_toNat, hat, PackReader.goTo_goTo] using hthen.weaken hwithin

/-! ### The end of a pack -/

theorem runs_prIsEnd {P : Access → Prop} (hr : r.Valid) :
    Runs P m prIsEnd r (if r.cur.toNat = r.stop then .ok ((), r) else .error bheInvalidBpkFile) := by
  have h := runs_check (P := P) (m := m) (r := r) (c := r.cur = r.head + r.total.toUInt64) (e := bheInvalidBpkFile)
  apply runs_get_bind
  simpa only [← UInt64.toNat_inj, PackReader.toNat_stop hr] using h

theorem runs_prMove {P : Access → Prop} (hr : r.Valid) {n : UInt64} (hn : r.cur.toNat + n.toNat ≤ r.stop) :
    Runs P m (prMove n) r (.ok ((), r.goTo (r.cur.toNat + n.toNat))) := by
  have hwrap : r.cur.toNat + n.toNat < 2 ^ 64 := Nat.lt_of_le_of_lt hn hr.bound
  have hsum := toNat_add_of_lt hwrap
  apply runs_get_bind
  apply runs_check_bind
  · refine ⟨(le_sub_uintptrMax _ _).2 hwrap, ?_⟩
    rw [UInt64.le_iff_toNat_le, hsum, PackReader.toNat_stop hr]
    exact hn
  · rw [← hsum, PackReader.goTo, UInt64.ofNat_toNat]
    apply runs_set

theorem runs_acpLoadTaPack {P : Access → Prop} (hr : r.Valid) : Runs P m acpLoadTaPack r
    (if padding 8 (r.cur.toNat - r.head.toNat) ≤ r.stop - r.cur.toNat then
      .ok (.ofNat (r.cur.toNat + padding 8 (r.cur.toNat - r.head.toNat)), r.goTo r.stop)
    else .error bheInvalidBpkFile) := by
  have hle := hr.le_stop
  have hhead := hr.head_le
  have hmove : Runs P m (prAlignedMove 8 0) r _ := runs_prAlignedMove hr (k := 3) rfl 0
  rw [show 2 ^ 3 = 8 by rfl, UInt64.toNat_zero, Nat.add_zero, Nat.add_zero] at hmove
  by_cases hfits : padding 8 (r.cur.toNat - r.head.toNat) ≤ r.stop - r.cur.toNat
  · rw [if_pos (by omega)] at hmove
    rw [if_pos hfits]
    have hat : r.cur.toNat + padding 8 (r.cur.toNat - r.head.toNat) ≤ r.stop := by omega
    generalize hstart : r.cur.toNat + padding 8 (r.cur.toNat - r.head.toNat) = start at hmove hat
    have hr' : (r.goTo start).Valid := hr.goTo (by omega) hat
    have hcur := PackReader.cur_goTo hr hat
    have hstop := PackReader.toNat_stop hr
    have hge : (r.goTo start).cur ≤ r.head + r.total.toUInt64 := by
      rw [UInt64.le_iff_toNat_le, hcur, hstop]
      exact hat
    have hlen : (r.head + r.total.toUInt64 - (r.goTo start).cur).toNat = r.stop - start := by
      rw [UInt64.toNat_sub_of_le _ _ hge, hstop, hcur]
    have hsafe := runs_prIsSafeToRead (P := P) (m := m) hr' (r.head + r.total.toUInt64 - (r.goTo start).cur)
    rw [hcur, hlen, PackReader.stop_goTo, if_pos (by omega)] at hsafe
    have hlast := runs_prMove (P := P) (m := m) hr' (n := r.head + r.total.toUInt64 - (r.goTo start).cur) (by
      rw [hcur, hlen, PackReader.stop_goTo]
      omega)
    rw [hcur, hlen, PackReader.goTo_goTo, show start + (r.stop - start) = r.stop by omega] at hlast
    apply Runs.bind hmove
    apply runs_get_bind
    apply runs_check_bind hge
    apply Runs.bind hsafe
    apply Runs.bind hlast
    apply runs_pure
  · rw [if_neg (by omega)] at hmove
    rw [if_neg hfits]
    apply Runs.bind_error hmove

/-- How a command goes on when its structures are loaded: with the image if it has one. -/
def ends (hasImage : Bool) (f : List UInt64 → UInt64 → α) (as : List UInt64) (r : PackReader) : Except BhRet (α × PackReader) :=
  if hasImage then
    if padding 8 (r.cur.toNat - r.head.toNat) ≤ r.stop - r.cur.toNat then
      .ok (f as (.ofNat (r.cur.toNat + padding 8 (r.cur.toNat - r.head.toNat))), r.goTo r.stop)
    else .error bheInvalidBpkFile
  else .ok (f as 0, r)

theorem Finds.andThen {k : RecordKind UInt8} {ks : List (RecordKind UInt8)} {x : Load UInt64} {y : UInt64 → Load α}
    {hasImage : Bool} {f : List UInt64 → UInt64 → α} (hx : Finds k x)
    (hy : ∀ a, FindsThen ks (y a) (ends hasImage fun as image => f (a :: as) image)) :
    FindsThen (k :: ks) (x >>= y) (ends hasImage f) := FindsThen.cons hx hy

theorem findsThen_pure {f : List UInt64 → UInt64 → α} (a : α) (hf : f [] 0 = a) : FindsThen [] (pure a) (ends false f) := by
  apply FindsThen.nil
  intro m r hr haligned
  unfold ends
  rw [if_neg (by decide), hf]
  apply runs_pure

theorem findsThen_taPack {f : List UInt64 → UInt64 → α} {pack : UInt64 → α} (hf : ∀ image, f [] image = pack image) :
    FindsThen [] (do let taPack ← acpLoadTaPack; return pack taPack) (ends true f) := by
  apply FindsThen.nil
  intro m r hr haligned
  have h := runs_acpLoadTaPack (P := Inside r.cur.toNat r.stop) (m := m) hr
  unfold ends
  rw [if_pos rfl]
  by_cases hfits : padding 8 (r.cur.toNat - r.head.toNat) ≤ r.stop - r.cur.toNat
  · rw [if_pos hfits] at h ⊢
    rw [hf]
    apply Runs.bind h
    apply runs_pure
  · rw [if_neg hfits] at h ⊢
    apply Runs.bind_error h

theorem Finds.findsThen {k : RecordKind UInt8} {x : Load UInt64} (hx : Finds k x) :
    FindsThen [k] x (ends false fun as _ => as.getD 0 0) := by
  intro m r hr haligned
  have h := hx m r hr haligned
  unfold ends
  cases hread : readRecord 4 k (r.text m) with
  | none =>
    rw [hread] at h
    rw [readRecords_cons_of_none hread]
    exact h
  | some found =>
    rw [hread] at h
    rw [readRecords_cons_of_some hread]
    simpa only [readRecords, Option.map_some, offsets, List.map_cons, UInt64.ofNat_toNat, List.getD_cons_zero,
      Bool.false_eq_true, if_false] using h

/-! ### The commands -/

theorem finds_acpLoadProp : Finds (countedKind sizeofAcProp 4 maxAcpPropsLength 1) acpLoadProp := by
  apply finds_counted <;> decide

theorem finds_acpLoadReasons : Finds (countedKind 4 0 maxAcpInsReasonsLength 4) acpLoadReasons := by
  apply finds_counted <;> decide

theorem finds_acpLoadTaIdList : Finds (countedKind 4 0 maxAcpUsedServices sizeofGuid) acpLoadTaIdList := by
  apply finds_counted <;> decide

theorem finds_acpLoadSvl : Finds (countedKind 4 0 maxAcpSvlRecords sizeofAcSv) acpLoadSvl := by
  apply finds_counted <;> decide

theorem finds_acpLoadMetadata : Finds (countedKind 4 0 maxAcpNtaMetadataLength 1) acpLoadMetadata := by
  apply finds_counted <;> decide

theorem findsThen_acpLoadInsSd : FindsThen AcpCall.insSd.kinds acpLoadInsSd
    (ends false fun as _ => ⟨as.getD 0 0, as.getD 1 0, as.getD 2 0⟩) := by
  apply finds_acpLoadProp.andThen
  intro insCond
  apply (finds_fixed (by decide)).andThen
  intro head
  apply (finds_fixed (by decide)).andThen
  intro sigKey
  exact findsThen_pure _ rfl

theorem findsThen_acpLoadInsJta : FindsThen AcpCall.insJta.kinds acpLoadInsJta
    (ends true fun as image => ⟨as.getD 0 0, as.getD 1 0, image⟩) := by
  apply finds_acpLoadProp.andThen
  intro insCond
  apply (finds_fixed (by decide)).andThen
  intro head
  exact findsThen_taPack fun _ => rfl

theorem findsThen_acpLoadInsNta : FindsThen AcpCall.insNta.kinds acpLoadInsNta
    (ends true fun as image => ⟨as.getD 0 0, as.getD 1 0, as.getD 2 0, image⟩) := by
  apply finds_acpLoadProp.andThen
  intro insCond
  apply (finds_fixed (by decide)).andThen
  intro head
  apply finds_acpLoadMetadata.andThen
  intro mdata
  exact findsThen_taPack fun _ => rfl

theorem findsThen_acpLoadUpdateSvl : FindsThen AcpCall.updateSvl.kinds acpLoadUpdateSvl
    (ends false fun as _ => ⟨as.getD 0 0, as.getD 1 0⟩) := by
  apply finds_acpLoadProp.andThen
  intro insCond
  apply finds_acpLoadSvl.andThen
  intro svList
  exact findsThen_pure _ rfl

theorem findsThen_acpLoadInsJtaProp : FindsThen AcpCall.insJtaProp.kinds acpLoadInsJtaProp
    (ends true fun as image => ⟨as.getD 0 0, as.getD 1 0, as.getD 2 0, as.getD 3 0, as.getD 4 0, image⟩) := by
  apply (finds_fixed (by decide)).andThen
  intro head
  apply finds_acpLoadReasons.andThen
  intro postReasons
  apply finds_acpLoadReasons.andThen
  intro regReasons
  apply finds_acpLoadProp.andThen
  intro prop
  apply finds_acpLoadTaIdList.andThen
  intro usedServiceList
  exact findsThen_taPack fun _ => rfl

end Acp

end DalHost

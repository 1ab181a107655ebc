import DalHost.Plugin.AcpFormat

/-!
# The two models of the parser

`AdminPack` reads a package on offsets, and only for the commands and the ids that the plugin needs; `AcpReader` reads it
in memory and in full. Both find the records of one format, so for a package in memory they agree
(`AcpCall.abridged_eq_some_iff`).
-/

namespace DalHost

namespace Acp

variable {α : Type} (pack : Bytes)

/-! ### Records on offsets -/

/-- At an offset that is aligned, the read finds a record of the kind. -/
def FindsAt (k : RecordKind UInt8) (x : DalHost.PackReader Nat) : Prop :=
  ∀ cur, cur ≤ pack.length → cur % 4 = 0 →
    x.run cur = (readRecord 4 k (pack.drop cur)).map fun r => (cur, pack.length - r.2.length)

/-- At an offset that is aligned, the read finds records of the kinds, and goes on from there. -/
def FindsThenAt (ks : List (RecordKind UInt8)) (x : DalHost.PackReader α) (g : List Nat → Nat → Option (α × Nat)) : Prop :=
  ∀ cur, cur ≤ pack.length → cur % 4 = 0 →
    x.run cur = (readRecords 4 ks (pack.drop cur)).bind fun r => g (offsets 4 cur r.1) (pack.length - r.2.length)

variable {pack}

theorem findsAt_fixed (size : Nat) : FindsAt pack (.fixed size) (DalHost.acpLoadFixed pack size) := by
  intro cur hcur haligned
  have hlength : (pack.drop cur).length = pack.length - cur := List.length_drop
  have hpad := padding_add (a := 4) haligned size
  unfold padding at hpad
  unfold DalHost.acpLoadFixed
  simp only [StateT.run_bind, StateT.run_get, run_prIsSafeToRead, run_prAlignMove, Option.bind_eq_bind, pure_bind]
  by_cases hhead : (pack.drop cur).length < size
  · rw [readRecord_of_lt (k := .fixed size) hhead, if_neg (by omega)]
    rfl
  · rw [readRecord_of_extent (k := .fixed size) (Nat.le_of_not_lt hhead) rfl, if_pos (by omega)]
    simp only [Option.bind_some, hpad]
    unfold padding
    by_cases hfits : size + (4 - size % 4) % 4 ≤ (pack.drop cur).length
    · rw [if_pos (by omega), if_pos hfits]
      simp only [Option.bind_some, Option.map_some, List.length_drop]
      rw [show pack.length - (pack.length - cur - (size + (4 - size % 4) % 4)) = cur + size + (4 - size % 4) % 4 by omega]
      rfl
    · rw [if_neg (by omega), if_neg hfits]
      rfl

theorem packU32_take_drop {cur size off : Nat} (hoff : off + 4 ≤ size) :
    packU32 ((pack.drop cur).take size) off = packU32 pack (cur + off) := by
  unfold packU32 u32At
  congr 2
  apply slice_congr
  intro i hi
  simp only [List.getD_eq_getElem?_getD]
  rw [List.getElem?_take_of_lt (by omega), List.getElem?_drop, Nat.add_assoc]

theorem findsAt_prop : FindsAt pack (countedKind sizeofAcProp 4 maxAcpPropsLength 1) (DalHost.acpLoadProp pack) := by
  intro cur hcur haligned
  have hlength : (pack.drop cur).length = pack.length - cur := List.length_drop
  unfold DalHost.acpLoadProp
  simp only [StateT.run_bind, StateT.run_get, run_prIsSafeToRead, Option.bind_eq_bind, pure_bind]
  by_cases hhead : (pack.drop cur).length < sizeofAcProp
  · rw [readRecord_of_lt (k := countedKind sizeofAcProp 4 maxAcpPropsLength 1) hhead, if_neg (by omega)]
    rfl
  · rw [if_pos (by omega)]
    simp only [Option.bind_some]
    have hcount : countAt 4 ((pack.drop cur).take sizeofAcProp) = (packU32 pack (cur + 4)).toNat := by
      unfold countAt
      rw [packU32_take_drop (by decide)]
    have hextent : (countedKind sizeofAcProp 4 maxAcpPropsLength 1).extent ((pack.drop cur).take sizeofAcProp) =
        if DalHost.maxAcpPropsLength < (packU32 pack (cur + 4)).toNat then none
        else some (sizeofAcProp + (packU32 pack (cur + 4)).toNat * 1) := by
      rw [← hcount]
      rfl
    generalize (packU32 pack (cur + 4)).toNat = len at hextent
    by_cases hlimit : DalHost.maxAcpPropsLength < len
    · rw [if_pos hlimit] at hextent
      rw [readRecord_of_refused (k := countedKind sizeofAcProp 4 maxAcpPropsLength 1) (Nat.le_of_not_lt hhead) hextent,
        if_pos hlimit]
      rfl
    · rw [if_neg hlimit, Nat.mul_one] at hextent
      rw [readRecord_of_extent (k := countedKind sizeofAcProp 4 maxAcpPropsLength 1) (Nat.le_of_not_lt hhead) hextent,
        if_neg hlimit]
      generalize sizeofAcProp + len = n
      have hpad := padding_add (a := 4) haligned n
      unfold padding at hpad
      simp only [StateT.run_bind, run_prIsSafeToRead, Option.bind_eq_bind]
      by_cases hsafe : cur + n ≤ pack.length
      · simp only [if_pos hsafe, Option.bind_some, run_prAlignMove, hpad]
        unfold padding
        by_cases hfits : n + (4 - n % 4) % 4 ≤ (pack.drop cur).length
        · rw [if_pos (by omega), if_pos hfits]
          simp only [Option.bind_some, Option.map_some, List.length_drop]
          rw [show pack.length - (pack.length - cur - (n + (4 - n % 4) % 4)) = cur + n + (4 - n % 4) % 4 by omega]
          rfl
        · rw [if_neg (by omega), if_neg hfits]
          rfl
      · rw [if_neg hsafe, if_neg (by omega)]
        rfl

/-! ### Records in a row -/

theorem FindsThenAt.nil {x : DalHost.PackReader α} {g : List Nat → Nat → Option (α × Nat)}
    (h : ∀ cur, cur ≤ pack.length → x.run cur = g [] cur) : FindsThenAt pack [] x g := by
  intro cur hcur haligned
  simp only [readRecords, Option.bind_some, offsets, List.length_drop]
  rw [show pack.length - (pack.length - cur) = cur by omega, h cur hcur]

theorem FindsThenAt.cons {k : RecordKind UInt8} {ks : List (RecordKind UInt8)} {x : DalHost.PackReader Nat}
    {y : Nat → DalHost.PackReader α} {g : List Nat → Nat → Option (α × Nat)} (hx : FindsAt pack k x)
    (hy : ∀ a, FindsThenAt pack ks (y a) fun as cur => g (a :: as) cur) : FindsThenAt pack (k :: ks) (x >>= y) g := by
  intro cur hcur haligned
  have hfirst := hx cur hcur haligned
  rw [StateT.run_bind, hfirst]
  cases hread : readRecord 4 k (pack.drop cur) with
  | none =>
    rw [readRecords_cons_of_none hread]
    rfl
  | some found =>
    obtain ⟨record, rest⟩ := found
    obtain ⟨hfits, pad, hpad, htext⟩ := readRecord_eq_some_iff.1 hread
    have hlength := congrArg List.length htext
    rw [List.length_drop, List.length_append, List.length_append, hpad] at hlength
    have hmod := add_padding_mod (a := 4) (by decide) record.length
    have hnext : pack.length - rest.length = cur + (record.length + padding 4 record.length) := by omega
    have hdrop : pack.drop (cur + (record.length + padding 4 record.length)) = rest := by
      rw [← List.drop_drop, htext, ← hpad, ← List.drop_drop, List.drop_left, List.drop_left]
    have hthen := hy cur (cur + (record.length + padding 4 record.length)) (by omega) (by omega)
    rw [hdrop] at hthen
    rw [readRecords_cons_of_some hread]
    simp only [Option.map_some, Option.bind_eq_bind, Option.bind_some, hnext, hthen]
    cases readRecords 4 ks rest with
    | none => rfl
    | some found => rfl

/-- How a command goes on when its structures are loaded. -/
def endsAt (pack : Bytes) (hasImage : Bool) (f : List Nat → Nat → α) (as : List Nat) (cur : Nat) : Option (α × Nat) :=
  if hasImage then
    if padding 8 cur ≤ pack.length - cur then some (f as (cur + padding 8 cur), pack.length) else none
  else some (f as 0, cur)

theorem FindsAt.andThen {k : RecordKind UInt8} {ks : List (RecordKind UInt8)} {x : DalHost.PackReader Nat}
    {y : Nat → DalHost.PackReader α} {hasImage : Bool} {f : List Nat → Nat → α} (hx : FindsAt pack k x)
    (hy : ∀ a, FindsThenAt pack ks (y a) (endsAt pack hasImage fun as image => f (a :: as) image)) :
    FindsThenAt pack (k :: ks) (x >>= y) (endsAt pack hasImage f) := FindsThenAt.cons hx hy

theorem findsThenAt_pure {f : List Nat → Nat → α} (a : α) (hf : f [] 0 = a) :
    FindsThenAt pack [] (pure a) (endsAt pack false f) := by
  apply FindsThenAt.nil
  intro cur hcur
  unfold endsAt
  rw [if_neg (by decide), hf]
  rfl

theorem findsThenAt_insSd : FindsThenAt pack AcpCall.insSd.kinds (DalHost.acpLoadInsSd pack)
    (endsAt pack false fun as _ => as.getD 1 0) := by
  apply findsAt_prop.andThen
  intro prop
  apply (findsAt_fixed sizeofAcInsSdHeader).andThen
  intro head
  apply (findsAt_fixed sizeofAcInsSdSigKey).andThen
  intro sigKey
  exact findsThenAt_pure _ rfl

theorem findsThenAt_uns : FindsThenAt pack [.fixed sizeofGuid] (DalHost.acpLoadUns pack)
    (endsAt pack false fun as _ => as.getD 0 0) := by
  rw [← bind_pure (DalHost.acpLoadUns pack)]
  apply (findsAt_fixed sizeofGuid).andThen
  intro guid
  exact findsThenAt_pure _ rfl

theorem findsThenAt_insJta : FindsThenAt pack AcpCall.insJta.kinds (DalHost.acpLoadInsJta pack)
    (endsAt pack true fun as image => (as.getD 1 0, image)) := by
  apply findsAt_prop.andThen
  intro prop
  apply (findsAt_fixed sizeofAcInsTaHeader).andThen
  intro head
  apply FindsThenAt.nil
  intro cur hcur
  unfold endsAt DalHost.acpLoadTaPack
  rw [if_pos rfl]
  simp only [StateT.run_bind, run_prAlignMove, Option.bind_eq_bind, Nat.add_zero]
  unfold padding
  by_cases hfits : (8 - cur % 8) % 8 ≤ pack.length - cur
  · rw [if_pos (by omega), if_pos hfits]
    rfl
  · rw [if_neg (by omega), if_neg hfits]
    rfl

/-! ### Packs -/

theorem run'_eq_some_iff (x : DalHost.PackReader α) (cur : Nat) (a : α) :
    x.run' cur = some a ↔ ∃ cur', x.run cur = some (a, cur') := by
  change (x.run cur).map Prod.fst = some a ↔ _
  rw [Option.map_eq_some_iff]
  constructor
  · rintro ⟨⟨b, cur'⟩, h, rfl⟩
    exact ⟨cur', h⟩
  · rintro ⟨cur', h⟩
    exact ⟨(a, cur'), h, rfl⟩

theorem run_prIsEnd_eq_some_iff {cur : Nat} {r : Unit × Nat} :
    (DalHost.prIsEnd pack).run cur = some r ↔ cur = pack.length ∧ r = ((), cur) := by
  unfold DalHost.prIsEnd
  simp only [StateT.run_bind, StateT.run_get, pure_bind]
  by_cases h : cur = pack.length
  · rw [if_pos h]
    constructor
    · intro hr
      cases hr
      exact ⟨h, rfl⟩
    · rintro ⟨-, rfl⟩
      rfl
  · rw [if_neg h]
    constructor
    · intro hr
      cases hr
    · exact fun hr => absurd hr.1 h

theorem endsAt_eq_some_iff {hasImage : Bool} {f : List Nat → Nat → α} {as : List Nat} {a : α} {rest : Bytes}
    (hrest : rest.length ≤ pack.length) :
    endsAt pack hasImage f as (pack.length - rest.length) = some (a, pack.length) ↔ ∃ image,
      AcpCall.imageOf hasImage (pack.length - rest.length) rest = some image ∧
        a = f as (image.elim 0 fun img => pack.length - img.length) := by
  unfold endsAt AcpCall.imageOf
  cases hasImage with
  | false =>
    simp only [Bool.false_eq_true, if_false, Option.some.injEq, Prod.mk.injEq]
    by_cases hempty : rest.length = 0
    · rw [if_pos hempty]
      constructor
      · rintro ⟨rfl, -⟩
        exact ⟨none, rfl, rfl⟩
      · rintro ⟨image, himage, rfl⟩
        cases himage
        exact ⟨rfl, by omega⟩
    · rw [if_neg hempty]
      constructor
      · rintro ⟨-, h⟩
        omega
      · rintro ⟨image, himage, -⟩
        cases himage
  | true =>
    simp only [if_true]
    by_cases hfits : padding 8 (pack.length - rest.length) ≤ rest.length
    · have hstart : pack.length - (rest.drop (padding 8 (pack.length - rest.length))).length =
          pack.length - rest.length + padding 8 (pack.length - rest.length) := by
        rw [List.length_drop]
        omega
      rw [if_pos (by omega), if_pos hfits]
      constructor
      · intro h
        cases h
        exact ⟨_, rfl, by rw [Option.elim_some, hstart]⟩
      · rintro ⟨image, himage, rfl⟩
        cases himage
        rw [Option.elim_some, hstart]
    · rw [if_neg (by omega), if_neg hfits]
      constructor
      · intro h
        cases h
      · rintro ⟨image, himage, -⟩
        cases himage

theorem run_acpLoadPack_eq_some_iff {c : AcpCall} (hc : c ≠ .insJtaProp) {load : DalHost.PackReader α}
    {f : List Nat → Nat → α} (hload : FindsThenAt pack c.kinds load (endsAt pack c.hasImage f)) (a : α) :
    (DalHost.acpLoadPack pack c.cmdId load).run' 0 = some a ↔ ∃ records image, c.Parses pack records image ∧
      a = f (offsets 4 0 records).tail (image.elim 0 fun img => pack.length - img.length) := by
  have hkinds : c.packKinds = .fixed sizeofAcPackHeader :: c.kinds := if_neg hc
  have hfinds : FindsAt pack _ _ := findsAt_fixed sizeofAcPackHeader
  have hhead := hfinds 0 (Nat.zero_le _) rfl
  unfold AcpCall.Parses
  rw [hkinds]
  rw [List.drop_zero] at hhead
  rw [run'_eq_some_iff]
  unfold DalHost.acpLoadPack DalHost.acpLoadPackHead
  simp only [packReader_bind_eq_some, hhead]
  cases hread : readRecord 4 (.fixed sizeofAcPackHeader) pack with
  | none =>
    rw [readRecords_cons_of_none hread]
    simp
  | some found =>
    obtain ⟨record, rest⟩ := found
    rw [readRecords_cons_of_some hread]
    obtain ⟨hfits, pad, hpad, htext⟩ := readRecord_eq_some_iff.1 hread
    have hrecord := RecordKind.fits_fixed.1 hfits
    have hlength := congrArg List.length htext
    rw [List.length_append, List.length_append, hpad] at hlength
    have hmod := add_padding_mod (a := 4) (by decide) record.length
    have hid : packU32 pack 12 = packU32 record 12 := by
      have h : packU32 ((pack.drop 0).take sizeofAcPackHeader) 12 = _ := packU32_take_drop (by decide)
      rw [List.drop_zero, Nat.zero_add, htext, ← hrecord, List.take_left] at h
      rw [htext, h]
    have hthen := hload (pack.length - rest.length) (Nat.sub_le _ _) (by omega)
    have hnext : pack.length - rest.length = 0 + (record.length + padding 4 record.length) := by omega
    have hdrop : pack.drop (pack.length - rest.length) = rest := by
      rw [hnext, Nat.zero_add, ← List.drop_drop, htext, ← hpad, List.drop_left, List.drop_left]
    rw [hdrop] at hthen
    have hle : ∀ records rest', readRecords 4 c.kinds rest = some (records, rest') → rest'.length ≤ pack.length := by
      intro records rest' h
      have := (readRecords_eq_some_iff.1 h).length_rest
      omega
    simp only [Option.map_some, Option.some.injEq, Prod.mk.injEq]
    constructor
    · rintro ⟨cur, id, cur', ⟨_, _, ⟨rfl, rfl⟩, hpure⟩, hrun⟩
      change some (PackageType.ofCmdId (packU32 pack (0 + 12)), _) = some (id, cur') at hpure
      cases hpure
      rw [Nat.zero_add, hid] at hrun
      by_cases hcmd : c.cmdId = .ofCmdId (packU32 record 12)
      · rw [if_neg (not_not.2 hcmd)] at hrun
        obtain ⟨b, cur1, hload1, hrun⟩ := packReader_bind_eq_some.1 hrun
        obtain ⟨u, cur2, hend, hpure⟩ := packReader_bind_eq_some.1 hrun
        change some (b, cur2) = some (a, cur) at hpure
        cases hpure
        obtain ⟨rfl, hcur⟩ := run_prIsEnd_eq_some_iff.1 hend
        rw [hthen, Option.bind_eq_some_iff] at hload1
        obtain ⟨⟨records, rest'⟩, hrecords, hends⟩ := hload1
        obtain ⟨image, himage, rfl⟩ := (endsAt_eq_some_iff (hle _ _ hrecords)).1 hends
        refine ⟨record :: records, image, ⟨rest', ?_, ?_, himage⟩, ?_⟩
        · rw [hrecords, Option.map_some]
        · exact fun _ => ⟨record, rfl, hcmd⟩
        · rw [hnext]
          rfl
      · rw [if_pos hcmd] at hrun
        cases hrun
    · rintro ⟨records, image, ⟨rest', hrecords, hnamed, himage⟩, rfl⟩
      rw [Option.map_eq_some_iff] at hrecords
      obtain ⟨⟨records, rest''⟩, hrecords, heq⟩ := hrecords
      cases heq
      obtain ⟨head, hmem, hcmd⟩ := hnamed hc
      cases hmem
      refine ⟨pack.length, _, _, ⟨0, _, ⟨rfl, rfl⟩, rfl⟩, ?_⟩
      rw [Nat.zero_add, hid, if_neg (not_not.2 hcmd)]
      apply packReader_bind_eq_some.2
      refine ⟨f (offsets 4 (pack.length - rest.length) records) (image.elim 0 fun img => pack.length - img.length),
        pack.length, ?_, ?_⟩
      · rw [hthen, Option.bind_eq_some_iff]
        exact ⟨_, hrecords, (endsAt_eq_some_iff (hle _ _ hrecords)).2 ⟨image, himage, rfl⟩⟩
      · apply packReader_bind_eq_some.2
        refine ⟨(), pack.length, run_prIsEnd_eq_some_iff.2 ⟨rfl, rfl⟩, ?_⟩
        rw [hnext]
        rfl

/-! ### Packages -/

/-- The part of a function that is modelled on offsets, and the place of the id among the structures. -/
def AcpCall.abridged : AcpCall → Option ((Bytes → Option Guid) × Nat)
  | .insSd => some (DalHost.acpPloadInsSd, 2)
  | .unsSd => some (DalHost.acpPloadUnsSd, 1)
  | .insJta => some (DalHost.acpPloadInsJta, 2)
  | .unsJta => some (DalHost.acpPloadUnsJta, 1)
  | _ => none

theorem pload_eq_some_iff {c : AcpCall} (hc : c ≠ .insJtaProp) {load : Bytes → DalHost.PackReader α} {f : List Nat → Nat → α}
    (hload : ∀ pack, FindsThenAt pack c.kinds (load pack) (endsAt pack c.hasImage f)) (head : α → Nat) {i : Nat}
    (hhead : ∀ as image, head (f as image) = as.getD i 0) (rawData : Bytes) (g : Guid) :
    (do
      let pack ← acpPack rawData
      let a ← (DalHost.acpLoadPack pack c.cmdId (load pack)).run' 0
      return packGuid pack (head a)) = some g ↔
    acpCssHeaderLength < rawData.length ∧ ∃ records image, c.Layout (rawData.drop acpCssHeaderLength) records image ∧
      g = packGuid (rawData.drop acpCssHeaderLength) ((offsets 4 0 records).tail.getD i 0) := by
  unfold acpPack
  by_cases hlength : rawData.length ≤ acpCssHeaderLength
  · rw [if_pos hlength]
    constructor
    · intro h
      cases h
    · rintro ⟨hlt, -⟩
      omega
  · rw [if_neg hlength]
    simp only [Option.bind_eq_bind, Option.bind_some, Option.bind_eq_some_iff, Option.pure_def, Option.some.injEq,
      run_acpLoadPack_eq_some_iff hc (hload _), AcpCall.parses_iff]
    constructor
    · rintro ⟨a, ⟨records, image, hlayout, rfl⟩, rfl⟩
      exact ⟨by omega, records, image, hlayout, by rw [hhead]⟩
    · rintro ⟨-, records, image, hlayout, rfl⟩
      exact ⟨_, ⟨records, image, hlayout, rfl⟩, by rw [hhead]⟩

theorem bytes_packGuid {m : Nat → UInt8} {data n off : Nat} (hoff : off + 16 ≤ n) :
    (packGuid (slice m data n) off).bytes = slice m (data + off) 16 := by
  change slice (fun i => (slice m data n).getD i 0) off 16 = _
  apply slice_congr
  intro i hi
  rw [List.getD_eq_getElem?_getD, getElem?_slice, if_pos (by omega), Nat.add_assoc]
  rfl

theorem AcpCall.abridged_iff_layout {c : AcpCall} {parse : Bytes → Option Guid} {i : Nat} (h : c.abridged = some (parse, i))
    (rawData : Bytes) (g : Guid) :
    parse rawData = some g ↔ acpCssHeaderLength < rawData.length ∧ ∃ records image,
      c.Layout (rawData.drop acpCssHeaderLength) records image ∧
        g = packGuid (rawData.drop acpCssHeaderLength) ((offsets 4 0 records).getD i 0) := by
  have htail : ∀ (as : List Nat) (i : Nat), as.tail.getD i 0 = as.getD (i + 1) 0 := by
    intro as i
    cases as <;> rfl
  unfold AcpCall.abridged at h
  cases c <;> simp only [Option.some.injEq, Prod.mk.injEq, reduceCtorEq] at h
  case insSd =>
    obtain ⟨rfl, rfl⟩ := h
    have hp := pload_eq_some_iff (c := .insSd) (by decide) (fun _ => findsThenAt_insSd) id (i := 1) (fun _ _ => rfl) rawData g
    simp only [htail] at hp
    exact hp
  case unsSd =>
    obtain ⟨rfl, rfl⟩ := h
    have hp := pload_eq_some_iff (c := .unsSd) (by decide) (fun _ => findsThenAt_uns) id (i := 0) (fun _ _ => rfl) rawData g
    simp only [htail] at hp
    exact hp
  case insJta =>
    obtain ⟨rfl, rfl⟩ := h
    have hp := pload_eq_some_iff (c := .insJta) (by decide) (fun _ => findsThenAt_insJta) Prod.fst (i := 1) (fun _ _ => rfl) rawData g
    simp only [htail] at hp
    exact hp
  case unsJta =>
    obtain ⟨rfl, rfl⟩ := h
    have hp := pload_eq_some_iff (c := .unsJta) (by decide) (fun _ => findsThenAt_uns) id (i := 0) (fun _ _ => rfl) rawData g
    simp only [htail] at hp
    exact hp

theorem AcpCall.id_inside {c : AcpCall} {parse : Bytes → Option Guid} {i : Nat} (h : c.abridged = some (parse, i))
    {pack : Bytes} {records : List Bytes} {image : Option Bytes} (hlayout : c.Layout pack records image) :
    (offsets 4 0 records).getD i 0 + 16 ≤ pack.length ∧ i < records.length := by
  obtain ⟨-, rest, hpadded, -⟩ := hlayout
  obtain ⟨k, hk, hhead⟩ : ∃ k, c.packKinds[i]? = some k ∧ 16 ≤ k.head := by
    cases c <;> cases h <;> exact ⟨_, rfl, by decide⟩
  obtain ⟨hi, rfl⟩ := List.getElem?_eq_some_iff.1 hk
  have hi' : i < records.length := by rwa [hpadded.length_records]
  have hoffset : i < (offsets 4 0 records).length := by rwa [length_offsets]
  have hfits := (hpadded.fits.get hi hi').head_le
  have hat := ((hpadded.at_offsets 0).get hoffset hi').2.1
  simp only [List.get_eq_getElem, Nat.zero_add] at hfits hat
  refine ⟨?_, hi'⟩
  rw [List.getD_eq_getElem?_getD, List.getElem?_eq_getElem hoffset, Option.getD_some]
  omega

/-- For a package in memory, the parser on offsets and the parser in memory accept the same, and find the same id. -/
theorem AcpCall.abridged_eq_some_iff {c : AcpCall} {parse : Bytes → Option Guid} {i : Nat}
    (h : c.abridged = some (parse, i)) (m : Nat → UInt8) {rawData : UInt64} {size : UInt32} (hraw : rawData ≠ 0)
    (hbound : rawData.toNat + size.toNat < 2 ^ 64) (g : Guid) :
    parse (slice m rawData.toNat size.toNat) = some g ↔
      ∃ l, (c.load rawData size).answer m = .ok l ∧ g.bytes = slice m (l.pointers.getD i 0).toNat 16 := by
  have hskips : c.skips = acpCssHeaderLength := by
    cases c <;> first | rfl | cases h
  have hpointer : ∀ records image, c.Layout (slice m (rawData.toNat + acpCssHeaderLength) (size.toNat - acpCssHeaderLength)) records image →
      acpCssHeaderLength < size.toNat →
      (packGuid (slice m (rawData.toNat + acpCssHeaderLength) (size.toNat - acpCssHeaderLength)) ((offsets 4 0 records).getD i 0)).bytes =
        slice m ((loadedOf (rawData.toNat + acpCssHeaderLength) (rawData.toNat + size.toNat) records image).pointers.getD i 0).toNat 16 := by
    intro records image hlayout hlt
    obtain ⟨hinside, hi⟩ := id_inside h hlayout
    rw [length_slice] at hinside
    rw [bytes_packGuid hinside]
    congr 1
    unfold loadedOf
    rw [← Nat.add_zero (rawData.toNat + acpCssHeaderLength), offsets_add]
    simp only [List.map_map, List.getD_eq_getElem?_getD, List.getElem?_map]
    rw [List.getD_eq_getElem?_getD] at hinside
    rw [List.getElem?_eq_getElem (by rw [length_offsets]; exact hi)] at hinside ⊢
    simp only [Option.map_some, Option.getD_some, Function.comp_apply] at hinside ⊢
    symm
    apply UInt64.toNat_ofNat_of_lt'
    change _ < 2 ^ 64
    omega
  rw [abridged_iff_layout h, length_slice, drop_slice]
  simp only [(c.accepts_load hbound).ok_iff, Accepted, hskips]
  constructor
  · rintro ⟨hlt, records, image, hlayout, rfl⟩
    exact ⟨_, ⟨hraw, hlt, records, image, hlayout, rfl⟩, hpointer records image hlayout hlt⟩
  · rintro ⟨l, ⟨-, hlt, records, image, hlayout, rfl⟩, hg⟩
    refine ⟨hlt, records, image, hlayout, ?_⟩
    apply Guid.ext
    rw [hg, hpointer records image hlayout hlt]

end Acp

end DalHost

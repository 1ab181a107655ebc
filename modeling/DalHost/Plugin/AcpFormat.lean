import DalHost.Plugin.AcpCommands

/-!
# The format of command packages

What the eight functions that load a package accept, said without a reader: the structures of the command one after the
other, each filled up to four bytes, and the image at a multiple of eight for the commands that carry one. A package is
accepted if and only if it has this form (`AcpCall.load_eq_ok_iff`), and then the addresses handed out are those of its
structures.
-/

namespace DalHost

namespace Acp

variable {α : Type} {m : Nat → UInt8} {r : PackReader}

namespace AcpCall

variable {c : AcpCall}

/-- The structures of a pack, of which the head is the first but for the properties of an applet. -/
def packKinds (c : AcpCall) : List (RecordKind UInt8) :=
  if c = .insJtaProp then c.kinds else .fixed sizeofAcPackHeader :: c.kinds

/-- The pack is one of the command. -/
def Named (c : AcpCall) (records : List Bytes) : Prop :=
  c ≠ .insJtaProp → ∃ head ∈ records.head?, c.cmdId = .ofCmdId (packU32 head 12)

/-- The pack is so many structures, and an image behind them if the command has one. -/
structure Layout (c : AcpCall) (pack : Bytes) (records : List Bytes) (image : Option Bytes) : Prop where
  named : c.Named records
  split : ∃ rest, Padded 4 c.packKinds records pack rest ∧
    match image with
    | none => c.hasImage = false ∧ rest = []
    | some img => c.hasImage = true ∧ ∃ pad, pad.length = padding 8 (pack.length - rest.length) ∧ rest = pad ++ img

/-- What stands behind the structures, of which there are so many bytes: an image or nothing. -/
def imageOf (hasImage : Bool) (before : Nat) (rest : Bytes) : Option (Option Bytes) :=
  if hasImage then
    if padding 8 before ≤ rest.length then some (some (rest.drop (padding 8 before))) else none
  else if rest.length = 0 then some none else none

/-- The structures and the image of a pack. -/
def Parses (c : AcpCall) (pack : Bytes) (records : List Bytes) (image : Option Bytes) : Prop :=
  ∃ rest, readRecords 4 c.packKinds pack = some (records, rest) ∧ c.Named records ∧
    imageOf c.hasImage (pack.length - rest.length) rest = some image

theorem imageOf_eq_some_iff {hasImage : Bool} {before : Nat} {rest : Bytes} {image : Option Bytes} :
    imageOf hasImage before rest = some image ↔
      match image with
      | none => hasImage = false ∧ rest = []
      | some img => hasImage = true ∧ ∃ pad, pad.length = padding 8 before ∧ rest = pad ++ img := by
  unfold imageOf
  cases hasImage with
  | false =>
    by_cases hrest : rest.length = 0
    · rw [List.length_eq_zero_iff] at hrest
      subst hrest
      cases image <;> simp
    · have hne : rest ≠ [] := fun h => hrest (h ▸ rfl)
      cases image <;> simp [hrest, hne]
  | true =>
    by_cases hfits : padding 8 before ≤ rest.length
    · simp only [if_true, if_pos hfits, Option.some.injEq]
      cases image with
      | none => simp
      | some img =>
        simp only [Option.some.injEq, true_and]
        constructor
        · rintro rfl
          refine ⟨rest.take (padding 8 before), ?_, ?_⟩
          · rw [List.length_take, Nat.min_eq_left hfits]
          · rw [List.take_append_drop]
        · rintro ⟨pad, hpad, rfl⟩
          rw [← hpad, List.drop_left]
    · simp only [if_true, if_neg hfits, reduceCtorEq, false_iff]
      cases image with
      | none => simp
      | some img =>
        rintro ⟨-, pad, hpad, rfl⟩
        rw [List.length_append] at hfits
        omega

theorem parses_iff {pack : Bytes} {records : List Bytes} {image : Option Bytes} :
    c.Parses pack records image ↔ c.Layout pack records image := by
  constructor
  · rintro ⟨rest, hread, hnamed, himage⟩
    exact ⟨hnamed, rest, readRecords_eq_some_iff.1 hread, imageOf_eq_some_iff.1 himage⟩
  · rintro ⟨hnamed, rest, hpadded, himage⟩
    exact ⟨rest, readRecords_eq_some_iff.2 hpadded, hnamed, imageOf_eq_some_iff.2 himage⟩

end AcpCall

/-! ### What is accepted -/

/-- The decoder makes only accesses that satisfy `P`, and it answers just what satisfies `Q`. -/
structure Accepts {β : Type} (P : Access → Prop) (m : Nat → UInt8) (x : Scan BhRet β) (Q : β → Prop) : Prop where
  accesses : ∀ a ∈ x.accesses m, P a
  ok_iff : ∀ b, x.answer m = .ok b ↔ Q b

theorem accepts_of_error {β : Type} {P : Access → Prop} {x : Scan BhRet β} {Q : β → Prop} {e : BhRet}
    (h : Scan.Does P m x (.error e)) (hQ : ∀ b, ¬Q b) : Accepts P m x Q := by
  refine ⟨h.accesses, fun b => ?_⟩
  rw [h.answer]
  simp [hQ b]

theorem accepts_of_ok {β : Type} {P : Access → Prop} {x : Scan BhRet β} {Q : β → Prop} {b : β}
    (h : Scan.Does P m x (.ok b)) (hQ : ∀ b', Q b' ↔ b' = b) : Accepts P m x Q := by
  refine ⟨h.accesses, fun b' => ?_⟩
  rw [h.answer, hQ, Except.ok.injEq, eq_comm]

theorem Accepts.map {β γ : Type} {P : Access → Prop} {x : Scan BhRet β} {Q : β → Prop} (h : Accepts P m x Q)
    (view : β → γ) : Accepts P m (view <$> x) fun l => ∃ b, Q b ∧ l = view b := by
  have hmap : view <$> x = x >>= fun b => pure (view b) := rfl
  refine ⟨fun a ha => ?_, fun l => ?_⟩
  · rw [hmap, Scan.accesses_bind] at ha
    cases hx : x.answer m with
    | error e =>
      rw [hx] at ha
      exact h.accesses a ha
    | ok b =>
      rw [hx] at ha
      exact h.accesses a ((List.mem_append.1 ha).resolve_right List.not_mem_nil)
  · rw [hmap, Scan.answer_bind_eq_ok]
    simp only [Scan.answer_pure, Except.ok.injEq, h.ok_iff]
    constructor
    · rintro ⟨b, hb, rfl⟩
      exact ⟨b, hb, rfl⟩
    · rintro ⟨b, hb, rfl⟩
      exact ⟨b, hb, rfl⟩

theorem runs_body {c : AcpCall} {load : Load α} {f : List UInt64 → UInt64 → α}
    (hload : FindsThen c.kinds load (ends c.hasImage f)) (hr : r.Valid) (haligned : (r.cur.toNat - r.head.toNat) % 4 = 0)
    (h : UInt64) : ∃ ans, Runs (Inside r.cur.toNat r.stop) m (do let pack ← load; prIsEnd; return (h, pack)) r ans ∧
      ∀ p, (∃ r', ans = .ok (p, r')) ↔ ∃ records rest image, readRecords 4 c.kinds (r.text m) = some (records, rest) ∧
        AcpCall.imageOf c.hasImage (r.stop - r.head.toNat - rest.length) rest = some image ∧
        p = (h, f ((offsets 4 r.cur.toNat records).map .ofNat) (image.elim 0 fun img => .ofNat (r.stop - img.length))) := by
  have hhead := hr.head_le
  have hle := hr.le_stop
  have hrun := hload m r hr haligned
  cases hrecords : readRecords 4 c.kinds (r.text m) with
  | none =>
    rw [hrecords] at hrun
    refine ⟨_, Runs.bind_error hrun, fun p => ?_⟩
    simp
  | some found =>
    obtain ⟨records, rest⟩ := found
    rw [hrecords] at hrun
    have hrest := (readRecords_eq_some_iff.1 hrecords).length_rest
    rw [PackReader.length_text] at hrest
    have hat : r.stop - rest.length ≤ r.stop := Nat.sub_le _ _
    have hcur := PackReader.cur_goTo hr hat
    simp only [Option.some.injEq, Prod.mk.injEq, ends, hcur, PackReader.head_goTo, PackReader.stop_goTo,
      PackReader.goTo_goTo] at hrun ⊢
    rw [show r.stop - rest.length - r.head.toNat = r.stop - r.head.toNat - rest.length by omega] at hrun
    unfold AcpCall.imageOf
    cases himg : c.hasImage with
    | false =>
      simp only [himg, Bool.false_eq_true, if_false] at hrun ⊢
      have hend := runs_prIsEnd (P := Inside r.cur.toNat r.stop) (m := m) (hr.goTo (c := r.stop - rest.length) (by omega) hat)
      rw [hcur, PackReader.stop_goTo] at hend
      by_cases hempty : rest.length = 0
      · rw [if_pos (by omega)] at hend
        refine ⟨_, Runs.bind hrun (Runs.bind hend (runs_pure _)), fun p => ?_⟩
        constructor
        · rintro ⟨r', hr'⟩
          cases hr'
          exact ⟨records, rest, none, ⟨rfl, rfl⟩, if_pos hempty, rfl⟩
        · rintro ⟨records', rest', image, ⟨rfl, rfl⟩, himage, rfl⟩
          rw [if_pos hempty] at himage
          cases himage
          exact ⟨_, rfl⟩
      · rw [if_neg (by omega)] at hend
        refine ⟨_, Runs.bind hrun (Runs.bind_error hend), fun p => ?_⟩
        constructor
        · rintro ⟨r', hr'⟩
          cases hr'
        · rintro ⟨records', rest', image, ⟨rfl, rfl⟩, himage, -⟩
          rw [if_neg hempty] at himage
          cases himage
    | true =>
      simp only [himg, if_true] at hrun ⊢
      by_cases hfits : padding 8 (r.stop - r.head.toNat - rest.length) ≤ rest.length
      · rw [if_pos (by omega)] at hrun
        have hend := runs_prIsEnd (P := Inside r.cur.toNat r.stop) (m := m)
          (hr.goTo (c := r.stop) (by omega) (Nat.le_refl _))
        rw [PackReader.cur_goTo hr (Nat.le_refl _), PackReader.stop_goTo, if_pos rfl] at hend
        have hstart : r.stop - (rest.drop (padding 8 (r.stop - r.head.toNat - rest.length))).length =
            r.stop - rest.length + padding 8 (r.stop - r.head.toNat - rest.length) := by
          rw [List.length_drop]
          omega
        refine ⟨_, Runs.bind hrun (Runs.bind hend (runs_pure _)), fun p => ?_⟩
        constructor
        · rintro ⟨r', hr'⟩
          cases hr'
          refine ⟨records, rest, some _, ⟨rfl, rfl⟩, if_pos hfits, ?_⟩
          simp only [Option.elim_some, hstart]
        · rintro ⟨records', rest', image, ⟨rfl, rfl⟩, himage, rfl⟩
          rw [if_pos hfits] at himage
          cases himage
          exact ⟨r.goTo r.stop, by simp only [Option.elim_some, hstart]⟩
      · rw [if_neg (by omega)] at hrun
        refine ⟨_, Runs.bind_error hrun, fun p => ?_⟩
        constructor
        · rintro ⟨r', hr'⟩
          cases hr'
        · rintro ⟨records', rest', image, ⟨rfl, rfl⟩, himage, -⟩
          rw [if_neg hfits] at himage
          cases himage

theorem runs_acpLoadHeadOf (hr : r.Valid) (haligned : (r.cur.toNat - r.head.toNat) % 4 = 0) (cmdId : PackageType) :
    Runs (Inside r.cur.toNat r.stop) m (acpLoadHeadOf cmdId) r
      (match readRecord 4 (.fixed sizeofAcPackHeader) (r.text m) with
      | none => .error bheInvalidBpkFile
      | some (record, rest) =>
        if cmdId = .ofCmdId (packU32 record 12) then .ok (r.cur, r.goTo (r.stop - rest.length)) else .error bheBadParameter) := by
  have hhead := finds_fixed (show sizeofAcPackHeader < 2 ^ 64 by decide) m r hr haligned
  cases hread : readRecord 4 (.fixed sizeofAcPackHeader) (r.text m) with
  | none =>
    rw [hread] at hhead
    apply Runs.bind_error hhead
  | some found =>
    obtain ⟨record, rest⟩ := found
    rw [hread] at hhead
    obtain ⟨hfits, pad, hpad, htext⟩ := readRecord_eq_some_iff.1 hread
    have hrecord := RecordKind.fits_fixed.1 hfits
    have hlength := congrArg List.length htext
    rw [PackReader.length_text, List.length_append, hrecord] at hlength
    have hsize : 12 + 4 ≤ sizeofAcPackHeader := by decide
    have hid : packU32 record 12 = u32At m (r.cur.toNat + 12) := by
      rw [← packU32_take_text (m := m) hsize (by omega), htext, ← hrecord, List.take_left]
    simp only [hid]
    apply Runs.bind hhead
    have hinside : Inside r.cur.toNat r.stop (.read (r.cur.toNat + 12) 4) := ⟨by omega, by omega⟩
    apply runs_lift_bind (Scan.does_u32 hinside)
    by_cases hcmd : cmdId = .ofCmdId (u32At m (r.cur.toNat + 12))
    · simp only [if_pos hcmd]
      apply runs_check_bind hcmd
      apply runs_pure
    · simp only [if_neg hcmd]
      apply runs_check_bind_error hcmd

theorem accepts_acpLoadPack_of_runs {data : UInt64} {n : UInt32} (hbound : data.toNat + n.toNat < 2 ^ 64)
    {cmdId : PackageType} {load : Load α} {ans : Except BhRet ((UInt64 × α) × PackReader)}
    (hrun : Runs (Inside data.toNat (data.toNat + n.toNat)) m (do
      let head ← if cmdId = .installJTAProp then pure 0 else acpLoadHeadOf cmdId
      let pack ← load
      prIsEnd
      return (head, pack)) ⟨data, data, n⟩ ans) :
    Accepts (Inside data.toNat (data.toNat + n.toNat)) m (acpLoadPack data n cmdId load)
      fun p => ∃ r', ans = .ok (p, r') := by
  have hinit : Scan.Does (Inside data.toNat (data.toNat + n.toNat)) m (prInit data n) (.ok ⟨data, data, n⟩) := by
    have hle : data ≤ uintptrMax - n.toUInt64 := by
      rw [le_sub_uintptrMax, UInt32.toNat_toUInt64]
      exact hbound
    have h := Scan.does_check (P := Inside data.toNat (data.toNat + n.toNat)) (m := m) (data ≤ uintptrMax - n.toUInt64)
      bheInvalidBpkFile
    rw [if_pos hle] at h
    exact Scan.Does.bind h (Scan.does_pure _)
  cases ans with
  | error e =>
    apply accepts_of_error
    · exact Scan.Does.bind hinit (Scan.Does.bind_error hrun)
    · rintro p ⟨r', hr'⟩
      cases hr'
  | ok v =>
    apply accepts_of_ok
    · exact Scan.Does.bind hinit (Scan.Does.bind hrun (Scan.does_pure _))
    · intro p
      constructor
      · rintro ⟨r', hr'⟩
        cases hr'
        rfl
      · rintro rfl
        exact ⟨v.2, rfl⟩

/-- The addresses that belong to the structures and the image of a pack between two addresses. -/
def loadedOf (data stop : Nat) (records : List Bytes) (image : Option Bytes) : Loaded :=
  ⟨(offsets 4 data records).map .ofNat, image.map fun img => .ofNat (stop - img.length)⟩

theorem PackReader.valid_start {data : UInt64} {n : UInt32} (hbound : data.toNat + n.toNat < 2 ^ 64) :
    (⟨data, data, n⟩ : PackReader).Valid := ⟨hbound, Nat.le_refl _, Nat.le_add_right _ _⟩

theorem PackReader.text_start (data : UInt64) (n : UInt32) :
    (⟨data, data, n⟩ : PackReader).text m = slice m data.toNat n.toNat := by
  unfold PackReader.text PackReader.stop
  rw [Nat.add_sub_cancel_left]

theorem accepts_acpLoadPack {c : AcpCall} (hc : c ≠ .insJtaProp) {load : Load α} {f : List UInt64 → UInt64 → α}
    (hload : FindsThen c.kinds load (ends c.hasImage f)) {data : UInt64} {n : UInt32} (hbound : data.toNat + n.toNat < 2 ^ 64) :
    Accepts (Inside data.toNat (data.toNat + n.toNat)) m (acpLoadPack data n c.cmdId load) fun p =>
      ∃ records image, c.Parses (slice m data.toNat n.toNat) records image ∧
        p = (data, f ((offsets 4 data.toNat records).tail.map .ofNat)
          (image.elim 0 fun img => .ofNat (data.toNat + n.toNat - img.length))) := by
  have hr := PackReader.valid_start hbound
  have htext := PackReader.text_start (m := m) data n
  have hhead := runs_acpLoadHeadOf (m := m) hr (by rw [Nat.sub_self]) c.cmdId
  have hcmd : c.cmdId ≠ .installJTAProp := by
    cases c <;> first | exact absurd rfl hc | decide
  have hkinds : c.packKinds = .fixed sizeofAcPackHeader :: c.kinds := if_neg hc
  rw [htext] at hhead
  cases hread : readRecord 4 (.fixed sizeofAcPackHeader) (slice m data.toNat n.toNat) with
  | none =>
    rw [hread] at hhead
    have h : Accepts _ m (acpLoadPack data n c.cmdId load) _ := accepts_acpLoadPack_of_runs hbound (by
      rw [if_neg hcmd]
      exact Runs.bind_error hhead)
    refine ⟨h.accesses, fun p => (h.ok_iff p).trans ?_⟩
    constructor
    · rintro ⟨r', hr'⟩
      cases hr'
    · rintro ⟨records, image, ⟨rest, hrecords, -, -⟩, -⟩
      rw [hkinds, readRecords_cons_of_none hread] at hrecords
      cases hrecords
  | some found =>
    obtain ⟨record, rest⟩ := found
    rw [hread] at hhead
    by_cases hid : c.cmdId = .ofCmdId (packU32 record 12)
    · simp only [if_pos hid] at hhead
      obtain ⟨hat, hle, hbehind⟩ := readRecord_text (m := m) hr (htext ▸ hread)
      have hmod := add_padding_mod (a := 4) (by decide) record.length
      have hcur := PackReader.cur_goTo hr hle
      generalize hr1 : PackReader.goTo ⟨data, data, n⟩ (PackReader.stop ⟨data, data, n⟩ - rest.length) = r1 at *
      have hstop : r1.stop = data.toNat + n.toNat := by
        rw [← hr1]
        rfl
      have hhead1 : r1.head.toNat = data.toNat := by
        rw [← hr1]
        rfl
      have hstart : (⟨data, data, n⟩ : PackReader).cur.toNat = data.toNat := rfl
      have hr' : r1.Valid := by
        rw [← hr1]
        refine hr.goTo ?_ hle
        rw [hat]
        exact Nat.le_add_right _ _
      obtain ⟨ans, hbody, hans⟩ := runs_body (m := m) hload hr' (by omega) data
      have h : Accepts _ m (acpLoadPack data n c.cmdId load) _ := accepts_acpLoadPack_of_runs hbound (by
        rw [if_neg hcmd]
        exact Runs.bind hhead (hbody.weaken fun a ha => ha.mono (by omega) (by omega)))
      refine ⟨h.accesses, fun p => (h.ok_iff p).trans ((hans p).trans ?_)⟩
      rw [hbehind, hcur, hat, hstop, hhead1, hstart, Nat.add_sub_cancel_left]
      unfold AcpCall.Parses
      rw [hkinds, readRecords_cons_of_some hread, length_slice]
      constructor
      · rintro ⟨records, rest', image, hrecords, himage, rfl⟩
        refine ⟨record :: records, image, ⟨rest', ?_, ?_, himage⟩, rfl⟩
        · rw [hrecords, Option.map_some]
        · exact fun _ => ⟨record, rfl, hid⟩
      · rintro ⟨records, image, ⟨rest', hrecords, -, himage⟩, rfl⟩
        simp only [Option.map_eq_some_iff, Prod.mk.injEq, Prod.exists] at hrecords
        obtain ⟨records, rest', hrecords, rfl, rfl⟩ := hrecords
        exact ⟨records, rest', image, hrecords, himage, rfl⟩
    · simp only [if_neg hid] at hhead
      have h : Accepts _ m (acpLoadPack data n c.cmdId load) _ := accepts_acpLoadPack_of_runs hbound (by
        rw [if_neg hcmd]
        exact Runs.bind_error hhead)
      refine ⟨h.accesses, fun p => (h.ok_iff p).trans ?_⟩
      constructor
      · rintro ⟨r', hr'⟩
        cases hr'
      · rintro ⟨records, image, ⟨rest', hrecords, hnamed, -⟩, -⟩
        rw [hkinds, readRecords_cons_of_some hread] at hrecords
        simp only [Option.map_eq_some_iff, Prod.mk.injEq, Prod.exists] at hrecords
        obtain ⟨records, rest', hrecords, rfl, rfl⟩ := hrecords
        obtain ⟨head, hmem, hhead⟩ := hnamed hc
        cases hmem
        exact absurd hhead hid

theorem accepts_acpLoadPack_prop {load : Load α} {f : List UInt64 → UInt64 → α}
    (hload : FindsThen AcpCall.insJtaProp.kinds load (ends true f)) {data : UInt64} {n : UInt32}
    (hbound : data.toNat + n.toNat < 2 ^ 64) :
    Accepts (Inside data.toNat (data.toNat + n.toNat)) m (acpLoadPack data n .installJTAProp load) fun p =>
      ∃ records image, AcpCall.insJtaProp.Parses (slice m data.toNat n.toNat) records image ∧
        p = (0, f ((offsets 4 data.toNat records).map .ofNat)
          (image.elim 0 fun img => .ofNat (data.toNat + n.toNat - img.length))) := by
  have hr := PackReader.valid_start hbound
  obtain ⟨ans, hbody, hans⟩ := runs_body (c := .insJtaProp) (m := m) hload hr (by rw [Nat.sub_self]) 0
  have h : Accepts _ m (acpLoadPack data n .installJTAProp load) _ := accepts_acpLoadPack_of_runs hbound (by
    rw [if_pos rfl]
    exact Runs.bind (runs_pure _) hbody)
  refine ⟨h.accesses, fun p => (h.ok_iff p).trans ((hans p).trans ?_)⟩
  rw [PackReader.text_start]
  unfold AcpCall.Parses PackReader.stop
  rw [length_slice, Nat.add_sub_cancel_left]
  constructor
  · rintro ⟨records, rest, image, hrecords, himage, rfl⟩
    exact ⟨records, image, ⟨rest, hrecords, fun hne => absurd rfl hne, himage⟩, rfl⟩
  · rintro ⟨records, image, ⟨rest, hrecords, -, himage⟩, rfl⟩
    exact ⟨records, rest, image, hrecords, himage, rfl⟩

/-! ### The functions that load a package -/

theorem map_getD_range {as : List UInt64} {n : Nat} (h : as.length = n) : ((List.range n).map fun i => as.getD i 0) = as := by
  apply List.ext_getElem
  · simp [h]
  · intro i hi hi'
    simp [hi']

theorem accepts_check_bind {β : Type} {P : Access → Prop} {Q : β → Prop} {e : BhRet} {p : Prop} [Decidable p]
    {f : Unit → Scan BhRet β} (hf : p → Accepts P m (f ()) Q) (hQ : ∀ b, Q b → p) : Accepts P m (Scan.check p e >>= f) Q := by
  have hcheck := Scan.does_check (P := P) (m := m) p e
  by_cases hp : p
  · rw [if_pos hp] at hcheck
    have h := hf hp
    have hbind : ∀ ans, (f ()).answer m = ans → Scan.Does P m (Scan.check p e >>= f) ans := fun ans hans =>
      Scan.Does.bind hcheck ⟨hans, h.accesses⟩
    exact ⟨(hbind _ rfl).accesses, fun b => by rw [(hbind _ rfl).answer, h.ok_iff]⟩
  · rw [if_neg hp] at hcheck
    apply accepts_of_error (Scan.Does.bind_error hcheck)
    exact fun b hb => hp (hQ b hb)

/-- What is accepted by a function that has checked the length, and what it then hands out. -/
def AcpCall.Accepted (c : AcpCall) (m : Nat → UInt8) (rawData : UInt64) (size : UInt32) (l : Loaded) : Prop :=
  rawData ≠ 0 ∧ c.skips < size.toNat ∧ ∃ records image,
    c.Layout (slice m (rawData.toNat + c.skips) (size.toNat - c.skips)) records image ∧
      l = loadedOf (rawData.toNat + c.skips) (rawData.toNat + size.toNat) records image

theorem view_eq_loadedOf {c : AcpCall} (hc : c ≠ .insJtaProp) {f : List UInt64 → UInt64 → α} {view : UInt64 × α → Loaded}
    (hview : ∀ h as image, as.length = c.kinds.length → view (h, f as image) = ⟨h :: as, if c.hasImage then some image else none⟩)
    {pack : Bytes} {records : List Bytes} {image : Option Bytes} (hlayout : c.Layout pack records image) (start stop : Nat) :
    view (.ofNat start, f ((offsets 4 start records).tail.map .ofNat) (image.elim 0 fun img => .ofNat (stop - img.length))) =
      loadedOf start stop records image := by
  obtain ⟨hnamed, rest, hpadded, himage⟩ := hlayout
  obtain ⟨head, hhead, -⟩ := hnamed hc
  have hlength := hpadded.length_records
  rw [AcpCall.packKinds, if_neg hc] at hlength
  cases records with
  | nil => cases hhead
  | cons record records =>
    have himg : (if c.hasImage then some (image.elim (0 : UInt64) fun img => .ofNat (stop - img.length)) else none) =
        image.map fun img => .ofNat (stop - img.length) := by
      cases image with
      | none =>
        rw [himage.1]
        rfl
      | some img =>
        rw [himage.1]
        rfl
    rw [hview, himg]
    · rfl
    · simpa [offsets, length_offsets] using hlength

theorem accepts_acpPload {c : AcpCall} (hc : c ≠ .insJtaProp) {load : Load α} {f : List UInt64 → UInt64 → α}
    (hload : FindsThen c.kinds load (ends c.hasImage f)) {view : UInt64 × α → Loaded}
    (hview : ∀ h as image, as.length = c.kinds.length → view (h, f as image) = ⟨h :: as, if c.hasImage then some image else none⟩)
    {rawData : UInt64} {size : UInt32} (hbound : rawData.toNat + size.toNat < 2 ^ 64) :
    Accepts (Inside (rawData.toNat + c.skips) (rawData.toNat + size.toNat)) m (view <$> acpPload rawData size c.cmdId load)
      (c.Accepted m rawData size) := by
  have hskips : c.skips = acpCssHeaderLength := by
    cases c <;> first | exact absurd rfl hc | rfl
  have hcss : (UInt32.ofNat acpCssHeaderLength).toNat = acpCssHeaderLength := rfl
  have hcss' : (UInt64.ofNat acpCssHeaderLength).toNat = acpCssHeaderLength := rfl
  unfold AcpCall.Accepted
  rw [hskips]
  have hpload : Accepts (Inside (rawData.toNat + acpCssHeaderLength) (rawData.toNat + size.toNat)) m
      (acpPload rawData size c.cmdId load) fun p => rawData ≠ 0 ∧ acpCssHeaderLength < size.toNat ∧ ∃ records image,
        c.Layout (slice m (rawData.toNat + acpCssHeaderLength) (size.toNat - acpCssHeaderLength)) records image ∧
          p = (rawData + .ofNat acpCssHeaderLength,
            f ((offsets 4 (rawData.toNat + acpCssHeaderLength) records).tail.map .ofNat)
              (image.elim 0 fun img => .ofNat (rawData.toNat + size.toNat - img.length))) := by
    apply accepts_check_bind
    · rintro ⟨hne, hlt⟩
      rw [UInt32.lt_iff_toNat_lt, hcss] at hlt
      have hdata : (rawData + .ofNat acpCssHeaderLength).toNat = rawData.toNat + acpCssHeaderLength := by
        rw [toNat_add_of_lt] <;> rw [hcss']
        omega
      have hn : (size - .ofNat acpCssHeaderLength).toNat = size.toNat - acpCssHeaderLength := by
        rw [UInt32.toNat_sub_of_le]
        · rfl
        · rw [UInt32.le_iff_toNat_le, hcss]
          omega
      have hsum : rawData.toNat + acpCssHeaderLength + (size.toNat - acpCssHeaderLength) = rawData.toNat + size.toNat := by
        omega
      have hbound' : (rawData + .ofNat acpCssHeaderLength).toNat + (size - .ofNat acpCssHeaderLength).toNat < 2 ^ 64 := by
        rw [hdata, hn, hsum]
        exact hbound
      have h := accepts_acpLoadPack (m := m) hc hload hbound'
      rw [hdata, hn, hsum] at h
      refine ⟨h.accesses, fun p => (h.ok_iff p).trans ?_⟩
      simp only [AcpCall.parses_iff, ne_eq, hne, not_false_eq_true, hlt, true_and]
    · rintro p ⟨hne, hlt, -⟩
      refine ⟨hne, ?_⟩
      rw [UInt32.lt_iff_toNat_lt, hcss]
      exact hlt
  have h := hpload.map view
  have hstart : rawData + .ofNat acpCssHeaderLength = .ofNat (rawData.toNat + acpCssHeaderLength) := by
    rw [UInt64.ofNat_add, UInt64.ofNat_toNat]
  refine ⟨h.accesses, fun l => (h.ok_iff l).trans ?_⟩
  constructor
  · rintro ⟨p, ⟨hne, hlt, records, image, hlayout, rfl⟩, rfl⟩
    refine ⟨hne, hlt, records, image, hlayout, ?_⟩
    rw [hstart]
    exact view_eq_loadedOf hc hview hlayout _ _
  · rintro ⟨hne, hlt, records, image, hlayout, rfl⟩
    refine ⟨_, ⟨hne, hlt, records, image, hlayout, rfl⟩, ?_⟩
    rw [hstart]
    exact (view_eq_loadedOf hc hview hlayout _ _).symm

theorem accepts_acpPloadInsJtaProp {rawData : UInt64} {size : UInt32} (hbound : rawData.toNat + size.toNat < 2 ^ 64) :
    Accepts (Inside rawData.toNat (rawData.toNat + size.toNat)) m (AcpCall.insJtaProp.load rawData size)
      (AcpCall.insJtaProp.Accepted m rawData size) := by
  have hpload : Accepts (Inside rawData.toNat (rawData.toNat + size.toNat)) m (acpPloadInsJtaProp rawData size) fun p =>
      rawData ≠ 0 ∧ ∃ records image, AcpCall.insJtaProp.Layout (slice m rawData.toNat size.toNat) records image ∧
        p = (0, (fun (as : List UInt64) image => (⟨as.getD 0 0, as.getD 1 0, as.getD 2 0, as.getD 3 0, as.getD 4 0, image⟩ : InsJtaProp))
          ((offsets 4 rawData.toNat records).map .ofNat)
          (image.elim 0 fun img => .ofNat (rawData.toNat + size.toNat - img.length))) := by
    apply accepts_check_bind
    · intro hne
      have h := accepts_acpLoadPack_prop (m := m) findsThen_acpLoadInsJtaProp hbound
      refine ⟨h.accesses, fun p => (h.ok_iff p).trans ?_⟩
      simp only [AcpCall.parses_iff, ne_eq, hne, not_false_eq_true, true_and]
    · exact fun p hp => hp.1
  have h := hpload.map fun p : UInt64 × InsJtaProp =>
    (⟨[p.2.head, p.2.postReasons, p.2.regReasons, p.2.prop, p.2.usedServiceList], some p.2.jeffPack⟩ : Loaded)
  have hview : ∀ records image, AcpCall.insJtaProp.Layout (slice m rawData.toNat size.toNat) records image →
      0 < size.toNat ∧ loadedOf rawData.toNat (rawData.toNat + size.toNat) records image =
        ⟨(List.range 5).map fun i => ((offsets 4 rawData.toNat records).map UInt64.ofNat).getD i 0,
          some (image.elim 0 fun img => .ofNat (rawData.toNat + size.toNat - img.length))⟩ := by
    rintro records image ⟨-, rest, hpadded, himage⟩
    have hlength := hpadded.length_records
    have hfive : ((offsets 4 rawData.toNat records).map UInt64.ofNat).length = 5 := by
      rw [List.length_map, length_offsets, hlength]
      rfl
    refine ⟨?_, ?_⟩
    · have hsize := length_slice m rawData.toNat size.toNat
      generalize slice m rawData.toNat size.toNat = pack at hpadded hsize
      cases hpadded with
      | cons hfits hpad htail =>
        have hrecord := RecordKind.fits_fixed.1 hfits
        have hpos : 0 < sizeofAcInsJtaPropHeader := by decide
        rw [List.length_append] at hsize
        omega
    · rw [map_getD_range hfive]
      cases image with
      | none => exact absurd himage.1 (by decide)
      | some img => rfl
  refine ⟨h.accesses, fun l => (h.ok_iff l).trans ?_⟩
  constructor
  · rintro ⟨p, ⟨hne, records, image, hlayout, rfl⟩, rfl⟩
    exact ⟨hne, (hview records image hlayout).1, records, image, hlayout, (hview records image hlayout).2.symm⟩
  · rintro ⟨hne, -, records, image, hlayout, rfl⟩
    exact ⟨_, ⟨hne, records, image, hlayout, rfl⟩, (hview records image hlayout).2⟩

namespace AcpCall

/-- Every function reads only what it was given, and accepts just the packages of its form. -/
theorem accepts_load (c : AcpCall) {rawData : UInt64} {size : UInt32} (hbound : rawData.toNat + size.toNat < 2 ^ 64) :
    Accepts (Inside (rawData.toNat + c.skips) (rawData.toNat + size.toNat)) m (c.load rawData size) (c.Accepted m rawData size) := by
  cases c with
  | insSd =>
    apply accepts_acpPload (c := .insSd) (by decide) findsThen_acpLoadInsSd ?_ hbound
    intro h as image has
    rw [← map_getD_range has]
    rfl
  | unsSd =>
    apply accepts_acpPload (c := .unsSd) (by decide) (finds_fixed (by decide)).findsThen ?_ hbound
    intro h as image has
    rw [← map_getD_range has]
    rfl
  | insJta =>
    apply accepts_acpPload (c := .insJta) (by decide) findsThen_acpLoadInsJta ?_ hbound
    intro h as image has
    rw [← map_getD_range has]
    rfl
  | insNta =>
    apply accepts_acpPload (c := .insNta) (by decide) findsThen_acpLoadInsNta ?_ hbound
    intro h as image has
    rw [← map_getD_range has]
    rfl
  | unsJta =>
    apply accepts_acpPload (c := .unsJta) (by decide) (finds_fixed (by decide)).findsThen ?_ hbound
    intro h as image has
    rw [← map_getD_range has]
    rfl
  | unsNta =>
    apply accepts_acpPload (c := .unsNta) (by decide) (finds_fixed (by decide)).findsThen ?_ hbound
    intro h as image has
    rw [← map_getD_range has]
    rfl
  | updateSvl =>
    apply accepts_acpPload (c := .updateSvl) (by decide) findsThen_acpLoadUpdateSvl ?_ hbound
    intro h as image has
    rw [← map_getD_range has]
    rfl
  | insJtaProp => exact accepts_acpPloadInsJtaProp hbound

/-- A package is accepted if and only if it has the form of its command, and the addresses are those of its structures. -/
theorem load_eq_ok_iff (c : AcpCall) (m : Nat → UInt8) {rawData : UInt64} {size : UInt32}
    (hbound : rawData.toNat + size.toNat < 2 ^ 64) (l : Loaded) :
    (c.load rawData size).answer m = .ok l ↔ c.Accepted m rawData size l := (c.accepts_load hbound).ok_iff l

/-- Memory with a package that installs an applet: five bytes of properties, and an image of ten bytes. -/
def installPackage : Nat → UInt8 := fun i =>
  if i = 4756 then 3 else if i = 4780 then 5 else if 4848 ≤ i then UInt8.ofNat i else 0

theorem load_installPackage :
    AcpCall.insJta.Accepted installPackage 4096 762 ⟨[4744, 4776, 4792], some 4848⟩ :=
  (load_eq_ok_iff .insJta installPackage (by decide) _).1 rfl

/-- What the addresses of a package stand for: each structure lies in the pack, apart from the others, and the image is
the end of it, at a multiple of eight and behind the structures. -/
structure PointsInto (m : Nat → UInt8) (lo hi : Nat) (records : List Bytes) (image : Option Bytes) (l : Loaded) : Prop where
  inside : List.Forall₂ (fun p record => lo ≤ p.toNat ∧ p.toNat + record.length ≤ hi ∧
    slice m p.toNat record.length = record) l.pointers records
  apart : (l.pointers.zip records).Pairwise fun x y => x.1.toNat + x.2.length ≤ y.1.toNat
  image : ∀ img ∈ image, ∃ p ∈ l.image, p.toNat + img.length = hi ∧ slice m p.toNat img.length = img ∧
    (p.toNat - lo) % 8 = 0 ∧ ∀ x ∈ l.pointers.zip records, x.1.toNat + x.2.length ≤ p.toNat

theorem pointsInto_of_layout {c : AcpCall} {data n : Nat} (hbound : data + n < 2 ^ 64) {records : List Bytes}
    {image : Option Bytes} (h : c.Layout (slice m data n) records image) :
    PointsInto m data (data + n) records image (loadedOf data (data + n) records image) := by
  obtain ⟨-, rest, hpadded, himage⟩ := h
  have hat := hpadded.at_offsets data
  have hrest := hpadded.length_rest
  rw [length_slice] at hat hrest
  have htoNat : ∀ k, k ≤ data + n → (UInt64.ofNat k).toNat = k := by
    intro k hk
    apply UInt64.toNat_ofNat_of_lt'
    exact Nat.lt_of_le_of_lt hk hbound
  have hzip : (loadedOf data (data + n) records image).pointers.zip records =
      ((offsets 4 data records).zip records).map fun x => (UInt64.ofNat x.1, x.2) := by
    unfold loadedOf
    rw [List.zip_map_left]
    rfl
  have hstop : ∀ x ∈ (offsets 4 data records).zip records, x.1 + x.2.length ≤ data + (n - rest.length) :=
    fun x hx => (List.forall₂_zip hat hx).2.1
  have htoNat' : ∀ x ∈ (offsets 4 data records).zip records, (UInt64.ofNat x.1).toNat = x.1 := by
    intro x hx
    apply htoNat
    have := hstop x hx
    omega
  constructor
  case inside =>
    apply List.forall₂_map_left_iff.2
    apply hat.imp
    rintro offset record ⟨hlo, hhi, heq⟩
    rw [htoNat offset (by omega)]
    refine ⟨hlo, by omega, ?_⟩
    rw [take_drop_slice _ _ (by omega)] at heq
    rw [← heq]
    congr 1
    · omega
    · rw [heq]
  case apart =>
    rw [hzip, List.pairwise_map]
    refine (offsets_apart records data).imp_of_mem fun hx hy hxy => ?_
    rw [htoNat' _ hx, htoNat' _ hy]
    exact hxy
  case image =>
    rintro img himg
    cases himg
    obtain ⟨-, pad, hpad, hsplit⟩ := himage
    obtain ⟨front, hfront⟩ := hpadded.suffix
    have hlength := congrArg List.length hfront
    rw [length_slice, List.length_append] at hlength
    rw [length_slice] at hpad
    have hsum := congrArg List.length hsplit
    rw [List.length_append] at hsum
    have hmod := add_padding_mod (a := 8) (by decide) (n - rest.length)
    have hp := htoNat (data + n - img.length) (Nat.sub_le _ _)
    refine ⟨.ofNat (data + n - img.length), rfl, ?_, ?_, ?_, ?_⟩
    · rw [hp]
      omega
    · have hdrop : (slice m data n).drop (n - img.length) = img := by
        rw [← hfront, hsplit, ← List.append_assoc]
        have hcut : n - img.length = (front ++ pad).length := by
          rw [List.length_append]
          omega
        rw [hcut, List.drop_left]
      rw [hp]
      rw [drop_slice] at hdrop
      rw [← hdrop, length_slice]
      congr 1
      omega
    · rw [hp]
      omega
    · rw [hzip, hp]
      rintro x hx
      obtain ⟨y, hy, rfl⟩ := List.mem_map.1 hx
      have hy' := hstop y hy
      rw [htoNat' y hy]
      change y.1 + y.2.length ≤ data + n - img.length
      omega

/-- The parser reads nothing but the pack, and what it hands out lies in the pack. -/
theorem load_inside (c : AcpCall) (m : Nat → UInt8) {rawData : UInt64} {size : UInt32}
    (hbound : rawData.toNat + size.toNat < 2 ^ 64) :
    (∀ a ∈ (c.load rawData size).accesses m, Inside (rawData.toNat + c.skips) (rawData.toNat + size.toNat) a) ∧
      ∀ l, (c.load rawData size).answer m = .ok l → ∃ records image,
        c.Layout (slice m (rawData.toNat + c.skips) (size.toNat - c.skips)) records image ∧
        PointsInto m (rawData.toNat + c.skips) (rawData.toNat + size.toNat) records image l := by
  have h := c.accepts_load (m := m) hbound
  refine ⟨h.accesses, fun l hl => ?_⟩
  obtain ⟨-, hlt, records, image, hlayout, rfl⟩ := (h.ok_iff l).1 hl
  refine ⟨records, image, hlayout, ?_⟩
  have hsum : rawData.toNat + size.toNat = rawData.toNat + c.skips + (size.toNat - c.skips) := by omega
  rw [hsum]
  apply pointsInto_of_layout _ hlayout
  omega

theorem load_installPackage_inside :
    (∀ a ∈ (AcpCall.insJta.load 4096 762).accesses installPackage,
      Inside ((4096 : UInt64).toNat + AcpCall.insJta.skips) ((4096 : UInt64).toNat + (762 : UInt32).toNat) a) ∧
    ∃ records image, AcpCall.insJta.Layout
      (slice installPackage ((4096 : UInt64).toNat + AcpCall.insJta.skips) ((762 : UInt32).toNat - AcpCall.insJta.skips))
      records image ∧
    PointsInto installPackage ((4096 : UInt64).toNat + AcpCall.insJta.skips) ((4096 : UInt64).toNat + (762 : UInt32).toNat)
      records image ⟨[4744, 4776, 4792], some 4848⟩ :=
  ⟨(load_inside .insJta installPackage (by decide)).1, (load_inside .insJta installPackage (by decide)).2 _ rfl⟩

end AcpCall

end Acp

end DalHost

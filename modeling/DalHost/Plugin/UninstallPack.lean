import DalHost.Plugin.Package

/-!
# The package that removes an applet

The plugin removes an applet with a package of its own making: a fixed text whose last sixteen bytes
are replaced by the id of the applet (`setUninstallPack`). `JHI_Plugin_ParsePackage` reads the type and
the id out of any package. For three of the four kinds of packages about an id it renders the bytes
stored in the package; for the removal of a security domain it renders the pointer to them.
-/

namespace DalHost

/-! ### The builder -/

/-- `UNINSTALL_PACK`: a signature block of 648 bytes, a header for `AC_UNINSTALL_JTA` and an empty id. -/
def uninstallPackTemplate : Bytes :=
  [0x06, 0x00, 0x00, 0x00, 0xA1, 0x00, 0x00, 0x00, 0x00, 0x00, 0x01, 0x00,
    0x00, 0x00, 0x00, 0x00, 0x86, 0x80, 0x00, 0x00, 0x27, 0x07, 0x10, 0x20,
    0xAE, 0x00, 0x00, 0x00, 0x40, 0x00, 0x00, 0x00, 0x40, 0x00, 0x00, 0x00,
    0x01, 0x00, 0x00, 0x00, 0x43, 0x53, 0x45, 0x58, 0x01, 0x00, 0x00, 0x00,
    0xBD, 0x2F, 0xBA, 0x36, 0xA2, 0xD6, 0x4D, 0xAB, 0x93, 0x90, 0xFF, 0x6D,
    0xA2, 0xFE, 0xF3, 0x1C, 0x07, 0x00, 0x00, 0x00, 0x04, 0x00, 0x00, 0x00] ++
  List.replicate 576 0 ++
  [0x42, 0x41, 0x43, 0x50, 0x01, 0x00, 0x00, 0x00, 0x30, 0x00, 0x00, 0x00,
    0x04, 0x00, 0x00, 0x00, 0x00, 0x00, 0x00, 0x00, 0x02, 0x00, 0x00, 0x00,
    0xFF, 0xFF, 0xFF, 0xFF, 0x20, 0x00, 0x00, 0x00] ++
  List.replicate 16 0

/-- `JHI_CSS_HEADER_SIZE`. -/
def jhiCssHeaderSize : Nat := 648

/-- The value of a hexadecimal digit. -/
def hexValue (c : UInt8) : UInt8 := if isDigit c then c - 48 else if isUpper c then c - 55 else c - 87

/-- `(char) strtol(text, NULL, 16)`, for text without blanks, a sign or `0x` in front. -/
def strtol16 (text : Bytes) : UInt8 := (text.takeWhile isHexDigit).foldl (fun v c => 16 * v + hexValue c) 0

/-- `BeihaiPlugin::setUninstallPack`. -/
def setUninstallPack (appId : Bytes) : Bytes :=
  (List.range 16).foldl
    (fun pkg i => pkg.set (32 + jhiCssHeaderSize + i) (strtol16 (((toUpperCase appId).drop (2 * i)).take 2)))
    uninstallPackTemplate

/-- The bytes that a text of hexadecimal digits denotes. -/
def hexBytes : Bytes → Bytes
  | [] => []
  | [_] => []
  | hi :: lo :: rest => (16 * hexValue hi + hexValue lo) :: hexBytes rest

theorem length_uninstallPack : uninstallPackTemplate.length = 696 := by decide +kernel

/-! ### What the builder writes -/

theorem getElem?_foldl_set {α : Type} (f : Nat → α) (off n : Nat) (xs : List α) (hle : off + n ≤ xs.length) (j : Nat) :
    ((List.range n).foldl (fun pkg i => pkg.set (off + i) (f i)) xs)[j]? =
      if off ≤ j ∧ j < off + n then some (f (j - off)) else xs[j]? := by
  have hlen : ∀ (m : Nat), ((List.range m).foldl (fun pkg i => pkg.set (off + i) (f i)) xs).length = xs.length := by
    intro m
    induction m with
    | zero => rfl
    | succ m ih => rw [List.range_succ, List.foldl_append, List.foldl_cons, List.foldl_nil, List.length_set, ih]
  induction n with
  | zero =>
    rw [if_neg (by omega)]
    rfl
  | succ n ih =>
    rw [List.range_succ, List.foldl_append, List.foldl_cons, List.foldl_nil, List.getElem?_set, hlen, ih (by omega)]
    by_cases hj : off + n = j
    · subst hj
      rw [if_pos rfl, if_pos (by omega), if_pos (by omega), Nat.add_sub_cancel_left]
    · rw [if_neg hj]
      by_cases hin : off ≤ j ∧ j < off + n
      · rw [if_pos hin, if_pos (by omega)]
      · rw [if_neg hin, if_neg (by omega)]

theorem length_hexBytes (text : Bytes) : (hexBytes text).length = text.length / 2 := by
  fun_induction hexBytes text with
  | case1 => rfl
  | case2 => simp
  | case3 hi lo rest ih =>
    simp only [List.length_cons, ih]
    omega

theorem hexValue_toUpper {c : UInt8} (h : isHexDigit c = true) : hexValue (toUpper c) = hexValue c :=
  forall_byte (p := fun c => isHexDigit c = true → hexValue (toUpper c) = hexValue c) (by decide +kernel) c h

theorem isHexDigit_toUpper {c : UInt8} (h : isHexDigit c = true) : isHexDigit (toUpper c) = true :=
  forall_byte (p := fun c => isHexDigit c = true → isHexDigit (toUpper c) = true) (by decide +kernel) c h

theorem strtol16_pair {hi lo : UInt8} (hhi : isHexDigit hi = true) (hlo : isHexDigit lo = true) :
    strtol16 [toUpper hi, toUpper lo] = 16 * hexValue hi + hexValue lo := by
  simp [strtol16, List.takeWhile, isHexDigit_toUpper hhi, isHexDigit_toUpper hlo, hexValue_toUpper hhi, hexValue_toUpper hlo]

theorem exists_two_digits {text : Bytes} (h : 2 ≤ text.length) : ∃ hi lo rest, text = hi :: lo :: rest := by
  obtain _ | ⟨hi, _ | ⟨lo, rest⟩⟩ := text
  · cases h
  · simp at h
  · exact ⟨hi, lo, rest, rfl⟩

theorem getElem?_hexBytes {text : Bytes} (hhex : ∀ c ∈ text, isHexDigit c = true) {i : Nat} (hi : 2 * i + 1 < text.length) :
    (hexBytes text)[i]? = some (strtol16 (((toUpperCase text).drop (2 * i)).take 2)) := by
  induction i generalizing text with
  | zero =>
    obtain ⟨hi', lo, rest, rfl⟩ := exists_two_digits (show 2 ≤ text.length by omega)
    simp only [hexBytes, toUpperCase, List.map_cons, Nat.mul_zero, List.drop_zero, List.take_succ_cons, List.take_zero,
      List.getElem?_cons_zero]
    rw [strtol16_pair (hhex hi' (by simp)) (hhex lo (by simp))]
  | succ i ih =>
    obtain ⟨hi', lo, rest, rfl⟩ := exists_two_digits (show 2 ≤ text.length by omega)
    have hlen : 2 * i + 1 < rest.length := by
      simp only [List.length_cons] at hi
      omega
    have hdrop : 2 * (i + 1) = 2 * i + 1 + 1 := by omega
    rw [hdrop]
    simp only [hexBytes, toUpperCase, List.map_cons, List.drop_succ_cons, List.getElem?_cons_succ]
    exact ih (fun c hc => hhex c (by simp [hc])) hlen

theorem getElem?_setUninstallPack {a : Bytes} (ha : IsHexId a) (j : Nat) :
    (setUninstallPack a)[j]? = if 680 ≤ j ∧ j < 696 then (hexBytes a)[j - 680]? else uninstallPackTemplate[j]? := by
  have hlen : a.length = 32 := ha.1
  have hloop := getElem?_foldl_set (fun i => strtol16 (((toUpperCase a).drop (2 * i)).take 2)) (32 + jhiCssHeaderSize) 16
    uninstallPackTemplate (by rw [length_uninstallPack]; decide) j
  have hoff : 32 + jhiCssHeaderSize = 680 := rfl
  rw [setUninstallPack, hloop, hoff]
  by_cases hj : 680 ≤ j ∧ j < 696
  · rw [if_pos hj, if_pos hj, getElem?_hexBytes ha.2 (by omega)]
  · rw [if_neg hj, if_neg hj]

theorem setUninstallPack_eq {a : Bytes} (ha : IsHexId a) : setUninstallPack a = uninstallPackTemplate.take 680 ++ hexBytes a := by
  have hlen : (hexBytes a).length = 16 := by rw [length_hexBytes, ha.1]; rfl
  have htake : (uninstallPackTemplate.take 680).length = 680 := by rw [List.length_take, length_uninstallPack]; rfl
  refine List.ext_getElem? fun j => ?_
  rw [getElem?_setUninstallPack ha]
  by_cases hlow : j < 680
  · rw [if_neg (by omega), List.getElem?_append_left (by omega), List.getElem?_take_of_lt hlow]
  · rw [List.getElem?_append_right (by omega), htake]
    by_cases hhigh : j < 696
    · rw [if_pos (by omega)]
    · rw [if_neg (by omega), List.getElem?_eq_none (by rw [length_uninstallPack]; omega),
        List.getElem?_eq_none (by omega)]

/-! ### The id of a package -/

/-- The parser accepts the package as one of the kinds that are about an id, with this id in it. -/
inductive StoredId (cmdPkg : Bytes) : PackageType → Guid → Prop
  | installSD {g : Guid} (h : acpPloadInsSd cmdPkg = some g) : StoredId cmdPkg .installSD g
  | uninstallSD {g : Guid} (h : acpPloadUnsSd cmdPkg = some g) : StoredId cmdPkg .uninstallSD g
  | installJTA {g : Guid} (h : acpPloadInsJta cmdPkg = some g) : StoredId cmdPkg .installJTA g
  | uninstallJTA {g : Guid} (h : acpPloadUnsJta cmdPkg = some g) : StoredId cmdPkg .uninstallJTA g

theorem acpGetCmdId_of_acpLoadPack {α : Type} {cmdPkg : Bytes} {cmdId : PackageType} {load : Bytes → PackReader α}
    {render : Bytes → α → Guid} {g : Guid}
    (h : (do
      let pack ← acpPack cmdPkg
      let a ← (acpLoadPack pack cmdId (load pack)).run' 0
      return render pack a) = some g) : acpGetCmdId cmdPkg = some cmdId := by
  simp only [Option.bind_eq_bind, Option.bind_eq_some_iff, Option.pure_def] at h
  obtain ⟨pack, hpack, a, hload, -⟩ := h
  obtain ⟨r, hrun, -⟩ : ∃ r, (acpLoadPack pack cmdId (load pack)).run 0 = some r ∧ r.1 = a := by
    simpa [StateT.run', StateT.run] using hload
  obtain ⟨cmdId', cur, hhead, hrest⟩ := packReader_bind_eq_some.1 hrun
  split_ifs at hrest with hne
  · cases hrest
  · have heq : cmdId = cmdId' := not_not.1 hne
    have hcmd : (acpLoadPackHead pack).run' 0 = some cmdId' := by
      rw [StateT.run'_eq, hhead]
      rfl
    rw [acpGetCmdId, hpack, heq]
    exact hcmd

theorem acpGetCmdId_of_storedId {cmdPkg : Bytes} {t : PackageType} {g : Guid} (h : StoredId cmdPkg t g) :
    acpGetCmdId cmdPkg = some t := by
  cases h with
  | installSD h => exact acpGetCmdId_of_acpLoadPack h
  | uninstallSD h => exact acpGetCmdId_of_acpLoadPack h
  | installJTA h => exact @acpGetCmdId_of_acpLoadPack _ _ _ acpLoadInsJta (fun pack heads => packGuid pack heads.1) g h
  | uninstallJTA h => exact acpGetCmdId_of_acpLoadPack h

theorem length_ne_zero_of_acpGetCmdId {cmdPkg : Bytes} {t : PackageType} (h : acpGetCmdId cmdPkg = some t) :
    cmdPkg.length ≠ 0 := by
  intro hlen
  have hnone : acpPack cmdPkg = none := by simp [acpPack, hlen]
  rw [acpGetCmdId, hnone] at h
  cases h

/-- What is reported: the id in the package, except for the removal of a security domain. -/
theorem parsePackage_of_storedId (sdIdCell : Bytes → Guid) {cmdPkg : Bytes} {t : PackageType} {g : Guid} (h : StoredId cmdPkg t g) :
    parsePackage sdIdCell cmdPkg = .ok ⟨t, uuidToString (if t = .uninstallSD then sdIdCell cmdPkg else g)⟩ := by
  have hcmd := acpGetCmdId_of_storedId h
  have hlen := length_ne_zero_of_acpGetCmdId hcmd
  rw [parsePackage, if_neg hlen, hcmd]
  cases h with
  | installSD h => simp [h, renderUuid]
  | uninstallSD h => simp [h, renderUuid]
  | installJTA h => simp [h, renderUuid]
  | uninstallJTA h => simp [h, renderUuid]

/-- The memory of a call, as far as it reaches the report: the address of the package and the eight
bytes of the stack behind the pointer `p_sdid`. -/
structure CallFrame where
  cmdPkg : UInt64
  next : Bytes
  length_next : next.length = 8

/-- The sixteen bytes at `&cmd_pack.p_sdid`: the pointer to the id, which stands behind the signature
block and the header, and what follows the pointer in memory. -/
def CallFrame.sdIdCell (m : CallFrame) : Guid where
  bytes := le64 (m.cmdPkg + UInt64.ofNat (acpCssHeaderLength + sizeofAcPackHeader)) ++ m.next
  length_eq := by rw [List.length_append, length_le64, m.length_next]

/-- `JHI_Plugin_ParsePackage` in a call with this memory. -/
def CallFrame.parsePackage (m : CallFrame) (cmdPkg : Bytes) : Except JhiRet PackageInfo :=
  DalHost.parsePackage (fun _ => m.sdIdCell) cmdPkg

/-! ### The package built for an id -/

/-- The sixteen bytes of an id. -/
def appIdGuid (a : Bytes) (ha : IsHexId a) : Guid where
  bytes := hexBytes a
  length_eq := by rw [length_hexBytes, ha.1]; rfl

/-- The header of the pack. -/
def uninstallHeader : Bytes := (uninstallPackTemplate.drop 648).take 32

theorem acpPack_setUninstallPack {a : Bytes} (ha : IsHexId a) :
    acpPack (setUninstallPack a) = some (uninstallHeader ++ hexBytes a) := by
  have hlen : (hexBytes a).length = 16 := (appIdGuid a ha).length_eq
  have htake : (uninstallPackTemplate.take 680).length = 680 := by rw [List.length_take, length_uninstallPack]; rfl
  have hdrop : (uninstallPackTemplate.take 680 ++ hexBytes a).drop acpCssHeaderLength = uninstallHeader ++ hexBytes a := by
    have hheader : acpCssHeaderLength = 648 := rfl
    rw [hheader, List.drop_append_of_le_length (by rw [htake]; decide), List.drop_take, uninstallHeader]
  rw [setUninstallPack_eq ha, acpPack, if_neg, hdrop]
  rw [List.length_append, htake, hlen]
  decide

theorem length_uninstallHeader : uninstallHeader.length = 32 := by decide +kernel

theorem packU32_uninstallHeader (rest : Bytes) : packU32 (uninstallHeader ++ rest) 12 = packU32 uninstallHeader 12 := by
  have hslice : slice (fun i => (uninstallHeader ++ rest).getD i 0) 12 4 = slice (fun i => uninstallHeader.getD i 0) 12 4 := by
    refine slice_congr fun i hi => ?_
    have hlt : 12 + i < uninstallHeader.length := by rw [length_uninstallHeader]; omega
    simp only [List.getD_eq_getElem?_getD, List.getElem?_append_left hlt]
  rw [packU32, packU32, u32At, u32At, hslice]

theorem packGuid_append {pre : Bytes} {off : Nat} (g : Guid) (hoff : pre.length = off) : packGuid (pre ++ g.bytes) off = g := by
  refine Guid.ext ?_
  subst hoff
  refine List.ext_getElem? fun i => ?_
  by_cases hi : i < 16
  · have hget : i < g.bytes.length := by rw [g.length_eq]; exact hi
    rw [packGuid, getElem?_slice, if_pos hi, List.getElem?_eq_getElem hget, Option.some.injEq,
      List.getD_eq_getElem?_getD, List.getElem?_append_right (Nat.le_add_right _ _), Nat.add_sub_cancel_left,
      List.getElem?_eq_getElem hget, Option.getD_some]
  · rw [List.getElem?_eq_none (by rw [(packGuid _ _).length_eq]; omega), List.getElem?_eq_none (by rw [g.length_eq]; omega)]

theorem acpPloadUnsJta_setUninstallPack {a : Bytes} (ha : IsHexId a) :
    acpPloadUnsJta (setUninstallPack a) = some (appIdGuid a ha) := by
  have hlen : (uninstallHeader ++ hexBytes a).length = 48 := by
    rw [List.length_append, length_uninstallHeader, show (hexBytes a).length = 16 from (appIdGuid a ha).length_eq]
  have hhead : (acpLoadPackHead (uninstallHeader ++ hexBytes a)).run 0 = some (.uninstallJTA, 32) := by
    refine packReader_bind_eq_some.2 ⟨0, 32, run_acpLoadFixed (by rw [hlen]; decide) (by decide), ?_⟩
    have hcmd : PackageType.ofCmdId (packU32 (uninstallHeader ++ hexBytes a) 12) = .uninstallJTA := by
      rw [packU32_uninstallHeader]
      decide +kernel
    rw [← hcmd]
    rfl
  have hload : (acpLoadPack (uninstallHeader ++ hexBytes a) .uninstallJTA
      (acpLoadUns (uninstallHeader ++ hexBytes a))).run 0 = some (32, 48) := by
    refine packReader_bind_eq_some.2 ⟨.uninstallJTA, 32, hhead, ?_⟩
    rw [if_neg (by simp)]
    refine packReader_bind_eq_some.2 ⟨32, 48, run_acpLoadFixed (by rw [hlen]; decide) (by decide), ?_⟩
    refine packReader_bind_eq_some.2 ⟨(), 48, ?_, rfl⟩
    simp [prIsEnd, hlen]
  have hrun : (acpLoadPack (uninstallHeader ++ hexBytes a) .uninstallJTA
      (acpLoadUns (uninstallHeader ++ hexBytes a))).run' 0 = some 32 := by
    rw [StateT.run'_eq, hload]
    rfl
  rw [acpPloadUnsJta, acpPack_setUninstallPack ha]
  simp only [Option.bind_eq_bind, Option.bind_some, hrun, Option.pure_def, Option.some.injEq]
  exact packGuid_append (appIdGuid a ha) length_uninstallHeader

theorem hex2asc_pair {hi lo : UInt8} (hhi : isHexDigit hi = true) (hlo : isHexDigit lo = true) :
    toUpper (hex2asc (((16 * hexValue hi + hexValue lo) &&& 0xf0) >>> 4)) = toUpper hi ∧
      toUpper (hex2asc ((16 * hexValue hi + hexValue lo) &&& 0xf)) = toUpper lo := by
  have hdigit : ∀ {c : UInt8}, isHexDigit c = true → hexValue c < 16 ∧ toUpper (hex2asc (hexValue c)) = toUpper c :=
    fun {c} => forall_byte (p := fun c => isHexDigit c = true → hexValue c < 16 ∧ toUpper (hex2asc (hexValue c)) = toUpper c)
      (by decide +kernel) c
  have hsplit : ∀ x y : Fin 16, ((16 * UInt8.ofNat x + UInt8.ofNat y) &&& 0xf0) >>> 4 = UInt8.ofNat x ∧
      (16 * UInt8.ofNat x + UInt8.ofNat y) &&& 0xf = UInt8.ofNat y := by decide +kernel
  obtain ⟨hhi', hhi⟩ := hdigit hhi
  obtain ⟨hlo', hlo⟩ := hdigit hlo
  have hpair := hsplit ⟨(hexValue hi).toNat, UInt8.lt_iff_toNat_lt.1 hhi'⟩ ⟨(hexValue lo).toNat, UInt8.lt_iff_toNat_lt.1 hlo'⟩
  simp only [UInt8.ofNat_toNat] at hpair
  rw [hpair.1, hpair.2]
  exact ⟨hhi, hlo⟩

theorem toUpperCase_uuidToString {a : Bytes} (ha : IsHexId a) :
    toUpperCase (uuidToString (appIdGuid a ha)) = toUpperCase a := by
  have hflat : ∀ text : Bytes, text.length % 2 = 0 → (∀ c ∈ text, isHexDigit c = true) →
      toUpperCase ((hexBytes text).flatMap fun b : UInt8 => [hex2asc ((b &&& 0xf0) >>> 4), hex2asc (b &&& 0xf)]) =
        toUpperCase text := by
    intro text
    fun_induction hexBytes text with
    | case1 => simp
    | case2 => simp
    | case3 hi lo rest ih =>
      intro hlen hhex
      obtain ⟨hfst, hsnd⟩ := hex2asc_pair (hhex hi (by simp)) (hhex lo (by simp))
      have hrest := ih (by simp only [List.length_cons] at hlen; omega) fun c hc => hhex c (by simp [hc])
      simp only [toUpperCase, List.flatMap_cons, List.map_append, List.map_cons, List.map_nil, hfst, hsnd] at hrest ⊢
      rw [hrest]
      rfl
  exact hflat a (by rw [ha.1]; rfl) ha.2

/-! ### Which packages are reported right -/

/-- The identity of packages, for the id `a` and the package `cmdPkg`. -/
structure PackageIdentity (a cmdPkg : Bytes) : Prop where
  /-- Bytes 680 to 695 are those of the id, the others those of the constant. -/
  built : ∀ j, (setUninstallPack a)[j]? = if 680 ≤ j ∧ j < 696 then (hexBytes a)[j - 680]? else uninstallPackTemplate[j]?
  /-- The id stored in the package is the one reported. -/
  reported : ∀ (m : CallFrame) t g, StoredId cmdPkg t g → m.parsePackage cmdPkg = .ok ⟨t, uuidToString g⟩
  /-- The report is a function of the bytes. -/
  bytesOnly : ∀ m m' : CallFrame, m.parsePackage cmdPkg = m'.parsePackage cmdPkg
  /-- The package built for `a` is reported as the removal of `a`. -/
  roundTrip : ∀ m : CallFrame, ∃ text,
    m.parsePackage (setUninstallPack a) = .ok ⟨.uninstallJTA, text⟩ ∧ toUpperCase text = toUpperCase a

/-- A call whose package lies at an address. -/
def CallFrame.at (cmdPkg : UInt64) : CallFrame := ⟨cmdPkg, List.replicate 8 0, List.length_replicate⟩

/-- Only the pointer's place in memory tells these two calls apart. -/
theorem uuidToString_sdIdCell_ne :
    uuidToString (CallFrame.at 0x1000).sdIdCell ≠ uuidToString (CallFrame.at 0x2000).sdIdCell := by decide +kernel

theorem parsePackage_congr {cmdPkg : Bytes} (h : acpPloadUnsSd cmdPkg = none) (c c' : Bytes → Guid) :
    parsePackage c cmdPkg = parsePackage c' cmdPkg := by
  unfold parsePackage
  split_ifs with hlen
  · rfl
  · cases acpGetCmdId cmdPkg with
    | none => rfl
    | some t => cases t <;> simp [h, renderUuid]

/-- Packages are what they say, for every applet, exactly if the package at hand is no removal of a
security domain that the parser accepts. -/
theorem packageIdentity_iff {a : Bytes} (ha : IsHexId a) (cmdPkg : Bytes) :
    PackageIdentity a cmdPkg ↔ acpPloadUnsSd cmdPkg = none := by
  constructor
  · intro h
    cases hstored : acpPloadUnsSd cmdPkg with
    | none => rfl
    | some g =>
      have hreport : ∀ m : CallFrame, m.parsePackage cmdPkg = .ok ⟨.uninstallSD, uuidToString m.sdIdCell⟩ := fun m =>
        parsePackage_of_storedId _ (.uninstallSD hstored)
      have heq := h.bytesOnly (.at 0x1000) (.at 0x2000)
      rw [hreport, hreport] at heq
      exact absurd (congrArg PackageInfo.uuid (Except.ok.inj heq)) uuidToString_sdIdCell_ne
  · intro h
    refine ⟨getElem?_setUninstallPack ha, fun m t g hstored => ?_, fun m m' => parsePackage_congr h _ _, fun m => ?_⟩
    · have hne : t ≠ .uninstallSD := by
        rintro rfl
        cases hstored with
        | uninstallSD hsome => rw [h] at hsome; cases hsome
      have hparse := parsePackage_of_storedId (fun _ => m.sdIdCell) hstored
      rw [if_neg hne] at hparse
      exact hparse
    · have hparse := parsePackage_of_storedId (fun _ => m.sdIdCell) (.uninstallJTA (acpPloadUnsJta_setUninstallPack ha))
      exact ⟨_, hparse, toUpperCase_uuidToString ha⟩

/-- A removal of the security domain whose id is sixteen ones: the constant with the number of the
command and the id replaced. -/
def removeDomainPack : Bytes := (uninstallPackTemplate.set 660 2).take 680 ++ List.replicate 16 1

/-- The domain is not the one reported, and which one is depends on where the package lies. -/
theorem removeDomain_reported_wrong : ¬PackageIdentity exampleApplet.text removeDomainPack := by
  intro h
  have hstored : StoredId removeDomainPack .uninstallSD ⟨List.replicate 16 1, List.length_replicate⟩ :=
    .uninstallSD (by decide +kernel)
  have hreport := h.reported (.at 0x1000) _ _ hstored
  exact absurd hreport (by decide +kernel)

/-- The plugin's own package is reported right. -/
theorem packageIdentity_own : PackageIdentity exampleApplet.text (setUninstallPack exampleApplet.text) :=
  (packageIdentity_iff exampleApplet.valid.isHexId _).2 (by decide +kernel)

end DalHost

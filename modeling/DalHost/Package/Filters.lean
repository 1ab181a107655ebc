import DalHost.Package.Positions

/-!
# Two ways to read a major version

The loop that selects a major version reads the versions of the records with an input stream, which
skips blanks, takes a sign and leading zeros and lets any character stand between the numbers. The
query that then collects the records compares the start of the text with the decimal number and a
dot. A record that was selected is found again only if its text starts in exactly this way.
-/

namespace DalHost

/-! ### What the selection accepts -/

/-- The new version is above that of the firmware. -/
def IsAbove (fw new : Int × Int × Int) : Prop :=
  fw.1 < new.1 ∨ fw.1 = new.1 ∧ fw.2.1 < new.2.1 ∨ fw.1 = new.1 ∧ fw.2.1 = new.2.1 ∧ fw.2.2 < new.2.2

theorem compareFWVersions_eq_some {fwVersion newVersion : Bytes} {cur cur' : Int} :
    compareFWVersions fwVersion cur newVersion = some cur' ↔
      newVersion ≠ [] ∧ fwVersion ≠ [] ∧ ∃ fw new, parseFwVersion fwVersion = some fw ∧ parseFwVersion newVersion = some new ∧
        (IsAbove fw new ∧ cur' = cur ∨ ¬IsAbove fw new ∧ cur' = max cur new.1) := by
  by_cases hnil : newVersion = [] ∨ fwVersion = []
  · rw [compareFWVersions, if_pos hnil]
    constructor
    · intro h
      cases h
    · rintro ⟨hnew, hfw, -⟩
      rcases hnil with h | h
      · exact absurd h hnew
      · exact absurd h hfw
  · have hne : newVersion ≠ [] ∧ fwVersion ≠ [] := not_or.1 hnil
    rw [compareFWVersions, if_neg hnil]
    simp only [Option.bind_eq_bind, Option.bind_eq_some_iff, Option.pure_def]
    constructor
    · rintro ⟨fw, hfw, new, hnew, h⟩
      refine ⟨hne.1, hne.2, fw, new, hfw, hnew, ?_⟩
      split_ifs at h with habove hgt
      · exact .inl ⟨habove, (Option.some.inj h).symm⟩
      · exact .inr ⟨habove, by rw [← Option.some.inj h, max_eq_right (by omega)]⟩
      · exact .inr ⟨habove, by rw [← Option.some.inj h, max_eq_left (by omega)]⟩
    · rintro ⟨-, -, fw, new, hfw, hnew, h⟩
      refine ⟨fw, hfw, new, hnew, ?_⟩
      rcases h with ⟨habove, rfl⟩ | ⟨habove, rfl⟩
      · rw [if_pos (show _ ∨ _ ∨ _ from habove)]
      · rw [if_neg (show ¬(_ ∨ _ ∨ _) from habove)]
        split_ifs with hgt
        · rw [max_eq_right (by omega)]
        · rw [max_eq_left (by omega)]

/-- `compareFWVersions` accepts the record and it is one that leads to the major version `M`. -/
def SelectsMajor (fwVersion : Bytes) (M : Int) (a : DalpApplet) : Prop :=
  compareFWVersions fwVersion (M - 1) a.fwVersion = some M

theorem parseFwVersion_of_selectsMajor {fwVersion : Bytes} {M : Int} {a : DalpApplet} (h : SelectsMajor fwVersion M a) :
    ∃ new, parseFwVersion a.fwVersion = some new ∧ new.1 = M := by
  obtain ⟨-, -, fw, new, -, hnew, hcase⟩ := compareFWVersions_eq_some.1 h
  refine ⟨new, hnew, ?_⟩
  rcases hcase with ⟨-, heq⟩ | ⟨-, heq⟩
  · omega
  · rcases le_total (M - 1) new.1 with hle | hle
    · rw [max_eq_right hle] at heq
      exact heq.symm
    · rw [max_eq_left hle] at heq
      omega

/-- The major version only grows, and where it has grown there is a record to which it is due. -/
theorem exists_selectsMajor {fwVersion : Bytes} {nodes : List DalpApplet} {cur M : Int}
    (h : nodes.foldlM (fun cur a => compareFWVersions fwVersion cur a.fwVersion) cur = some M) :
    cur ≤ M ∧ (M = cur ∨ ∃ a ∈ nodes, SelectsMajor fwVersion M a) := by
  induction nodes generalizing cur with
  | nil =>
    obtain rfl := Option.some.inj h
    exact ⟨Int.le_refl _, .inl rfl⟩
  | cons a nodes ih =>
    rw [List.foldlM_cons, Option.bind_eq_bind, Option.bind_eq_some_iff] at h
    obtain ⟨cur', hcur', hrest⟩ := h
    obtain ⟨hle, hex⟩ := ih hrest
    obtain ⟨hnew, hfw, fw, new, hfw', hnew', hcase⟩ := compareFWVersions_eq_some.1 hcur'
    have hgrow : cur ≤ cur' := by
      rcases hcase with ⟨-, rfl⟩ | ⟨-, rfl⟩
      · exact Int.le_refl _
      · exact le_max_left _ _
    refine ⟨le_trans hgrow hle, ?_⟩
    rcases hex with rfl | ⟨b, hb, hsel⟩
    · by_cases hsame : M = cur
      · exact .inl hsame
      · refine .inr ⟨a, by simp, compareFWVersions_eq_some.2 ⟨hnew, hfw, fw, new, hfw', hnew', .inr ?_⟩⟩
        rcases hcase with ⟨-, heq⟩ | ⟨habove, heq⟩
        · exact absurd heq hsame
        · refine ⟨habove, ?_⟩
          rcases le_total cur new.1 with hle' | hle'
          · rw [max_eq_right hle'] at heq
            rw [max_eq_right (by omega), heq]
          · rw [max_eq_left hle'] at heq
            exact absurd heq hsame
    · exact .inr ⟨b, List.mem_cons_of_mem _ hb, hsel⟩

/-! ### What the query finds -/

/-- After leading blanks the text starts with a plain decimal number and, directly behind it, a dot. -/
def StartsPlain (text : Bytes) : Prop :=
  ∃ ds rest, text.dropWhile isXmlBlank = ds ++ 46 :: rest ∧ IsDecimal ds

theorem isSpace_of_isXmlBlank {c : UInt8} (h : isXmlBlank c = true) : isSpace c = true := by
  revert h
  have hall : ∀ m : Fin 256, isXmlBlank (UInt8.ofFin m) = true → isSpace (UInt8.ofFin m) = true := by decide +kernel
  exact hall c.toFin

theorem readInt_of_parseFwVersion {text : Bytes} {new : Int × Int × Int} (h : parseFwVersion text = some new) :
    ∃ s, readInt text = some (new.1, s) := by
  simp only [parseFwVersion, Option.bind_eq_bind, Option.bind_eq_some_iff, Option.pure_def] at h
  obtain ⟨⟨ver1, s⟩, hread, _, _, _, _, _, _, _, _, heq⟩ := h
  obtain rfl := Option.some.inj heq
  exact ⟨s, hread⟩

/-- A record whose major version the stream reads as `M` is found by the query for `M` exactly if its
text starts plainly. -/
theorem hasMajor_iff_startsPlain {a : DalpApplet} {new : Int × Int × Int} (hparse : parseFwVersion a.fwVersion = some new)
    (hpos : 0 ≤ new.1) : hasMajor new.1 a = true ↔ StartsPlain a.fwVersion := by
  obtain ⟨n, hn⟩ := Int.eq_ofNat_of_zero_le hpos
  rw [hn, hasMajor_iff]
  constructor
  · rintro ⟨rest, hrest⟩
    exact ⟨decimal n, rest, hrest, isDecimal_decimal n⟩
  · rintro ⟨ds, rest, hdrop, hds⟩
    obtain ⟨s, hread⟩ := readInt_of_parseFwVersion hparse
    have hdot : ∀ c, (46 :: rest).head? = some c → isDecDigit c = false := by
      intro c hc
      obtain rfl := Option.some.inj hc
      rfl
    rw [readInt, ← readSigned_dropWhile (fun c => isSpace_of_isXmlBlank), hdrop, readSigned_digits hds.1 hds.2.1 hdot] at hread
    split_ifs at hread
    have hvalue : (digitsValue ds : Int) = new.1 := (Prod.mk.inj (Option.some.inj hread)).1
    have hnat : n = digitsValue ds := by omega
    exact ⟨rest, by rw [hnat, decimal_digitsValue hds, hdrop]⟩

/-! ### When the two agree -/

/-- The version structure of a record can be filled in. -/
def VersionsReadable (a : DalpApplet) : Prop := (getAppletAndFwVersionAsStruct a.appletVersion a.fwVersion 0).isSome = true

theorem detailsAt_isSome {a : DalpApplet} {i : Nat} : (detailsAt (a, i)).isSome = true ↔ VersionsReadable a := by
  simp only [detailsAt, VersionsReadable, getAppletAndFwVersionAsStruct, Option.isSome_iff_exists, Option.bind_eq_bind,
    Option.bind_eq_some_iff, Option.pure_def, Option.some.injEq]
  constructor
  · rintro ⟨_, r1, h1, r2, h2, r3, h3, r4, h4, r5, h5, r6, h6, r7, h7, r8, h8, -⟩
    exact ⟨_, r1, h1, r2, h2, r3, h3, r4, h4, r5, h5, r6, h6, r7, h7, r8, h8, rfl⟩
  · rintro ⟨_, r1, h1, r2, h2, r3, h3, r4, h4, r5, h5, r6, h6, r7, h7, r8, h8, -⟩
    exact ⟨_, r1, h1, r2, h2, r3, h3, r4, h4, r5, h5, r6, h6, r7, h7, r8, h8, rfl⟩

/-- Every record that leads to the selected major version is among those that are collected for it. -/
def FiltersAgree (applets : List DalpApplet) (platform fwVersion : Bytes) (M : Int) : Prop :=
  ∃ l, getMatchingAppletsToMajorFwVersion applets platform M = some l ∧ l ≠ [] ∧
    ∀ a ∈ platformApplets applets platform, SelectsMajor fwVersion M a →
      ∃ d ∈ l, nodeAt (majorApplets applets platform M) d.indexInDalp = some a

theorem mem_majorApplets {applets : List DalpApplet} {platform : Bytes} {M : Int} {a : DalpApplet} :
    a ∈ majorApplets applets platform M ↔ a ∈ platformApplets applets platform ∧ hasMajor M a = true := by
  simp only [majorApplets, platformApplets, List.mem_filter, Bool.and_eq_true, and_assoc]

theorem mem_of_nodeAt {nodes : List DalpApplet} {i : Nat} {a : DalpApplet} (h : nodeAt nodes i = some a) : a ∈ nodes := by
  rw [nodeAt] at h
  split_ifs at h
  exact List.mem_of_getElem? h

theorem exists_details_of_mem {nodes : List DalpApplet} {l : List AppletDetails}
    (h : collectDetails nodes (List.range' 1 nodes.length) = some l) {a : DalpApplet} (ha : a ∈ nodes) :
    ∃ d ∈ l, nodeAt nodes d.indexInDalp = some a ∧ VersionsReadable a := by
  rw [collectDetails_eq_mapM, mapM_eq_some_iff] at h
  obtain ⟨p, hp, rfl⟩ : ∃ p ∈ nodes.zipIdx 1, p.1 = a := by
    have hfst : a ∈ (nodes.zipIdx 1).map Prod.fst := by rwa [List.zipIdx_map_fst]
    exact List.mem_map.1 hfst
  have hdet : detailsAt p ∈ (nodes.zipIdx 1).map detailsAt := List.mem_map_of_mem hp
  rw [h] at hdet
  obtain ⟨d, hd, heq⟩ := List.mem_map.1 hdet
  refine ⟨d, hd, ?_, detailsAt_isSome.1 (by rw [← heq]; rfl)⟩
  rw [indexInDalp_of_detailsAt heq.symm]
  exact nodeAt_of_mem_zipIdx hp

theorem exists_collectDetails {nodes : List DalpApplet} (h : ∀ a ∈ nodes, VersionsReadable a) :
    ∃ l, collectDetails nodes (List.range' 1 nodes.length) = some l := by
  have hall : ∀ ps : List (DalpApplet × Nat), (∀ p ∈ ps, p.1 ∈ nodes) → ∃ l, ps.mapM detailsAt = some l := by
    intro ps
    induction ps with
    | nil => intro _; exact ⟨[], rfl⟩
    | cons p ps ih =>
      intro hps
      obtain ⟨d, hd⟩ := Option.isSome_iff_exists.1 (detailsAt_isSome.2 (h p.1 (hps p (by simp))))
      obtain ⟨l, hl⟩ := ih fun q hq => hps q (by simp [hq])
      exact ⟨d :: l, by rw [List.mapM_cons, hd, hl]; rfl⟩
  rw [collectDetails_eq_mapM]
  refine hall _ fun p hp => ?_
  have hfst := List.mem_map_of_mem (f := Prod.fst) hp
  rwa [List.zipIdx_map_fst] at hfst

/-- The selection and the query agree exactly if every record behind the selection starts plainly
and the versions of all records that the query finds can be read. -/
theorem filtersAgree_iff {applets : List DalpApplet} {platform fwVersion : Bytes} {M : Int}
    (hsel : selectMajor (platformApplets applets platform) fwVersion
      (List.range' 1 (platformApplets applets platform).length) 0 = some M) (hM : M ≠ 0) :
    FiltersAgree applets platform fwVersion M ↔
      (∀ a ∈ platformApplets applets platform, SelectsMajor fwVersion M a → StartsPlain a.fwVersion) ∧
      (∀ a ∈ platformApplets applets platform, hasMajor M a = true → VersionsReadable a) := by
  rw [selectMajor_eq_foldlM] at hsel
  obtain ⟨hpos, hex⟩ := exists_selectsMajor hsel
  have hstart : ∀ a, SelectsMajor fwVersion M a → (hasMajor M a = true ↔ StartsPlain a.fwVersion) := by
    intro a ha
    obtain ⟨new, hparse, rfl⟩ := parseFwVersion_of_selectsMajor ha
    exact hasMajor_iff_startsPlain hparse hpos
  constructor
  · rintro ⟨l, hl, -, hall⟩
    refine ⟨fun a ha hsel => ?_, fun a ha hmajor => ?_⟩
    · obtain ⟨d, -, hnode⟩ := hall a ha hsel
      exact (hstart a hsel).1 (mem_majorApplets.1 (mem_of_nodeAt hnode)).2
    · obtain ⟨d, -, -, hread⟩ := exists_details_of_mem hl (mem_majorApplets.2 ⟨ha, hmajor⟩)
      exact hread
  · rintro ⟨hplain, hread⟩
    obtain ⟨l, hl⟩ := @exists_collectDetails (majorApplets applets platform M) fun a ha =>
      hread a (mem_majorApplets.1 ha).1 (mem_majorApplets.1 ha).2
    have hall : ∀ a ∈ platformApplets applets platform, SelectsMajor fwVersion M a →
        ∃ d ∈ l, nodeAt (majorApplets applets platform M) d.indexInDalp = some a := by
      intro a ha hsel
      obtain ⟨d, hd, hnode, -⟩ :=
        exists_details_of_mem hl (mem_majorApplets.2 ⟨ha, (hstart a hsel).2 (hplain a ha hsel)⟩)
      exact ⟨d, hd, hnode⟩
    refine ⟨l, hl, ?_, hall⟩
    rcases hex with h | ⟨a, ha, hsel⟩
    · exact absurd h hM
    · obtain ⟨d, hd, -⟩ := hall a ha hsel
      exact List.ne_nil_of_mem hd

/-! ### Records for examples -/

/-- A record of the platform ME with a firmware version. -/
def meApplet (fwVersion : Bytes) : DalpApplet where
  platform := ascii ['M', 'E']
  appletVersion := ascii ['1', '.', '0']
  fwVersion := fwVersion
  appletBlob := ascii ['Q', 'U', 'J', 'D']

/-- A leading zero: the stream reads major version 9 and selects it, the query does not find it. -/
def zeroNine : Bytes := ascii ['0', '9', '.', '0', '.', '0']

def plainNine : Bytes := ascii ['9', '.', '0', '.', '0']

theorem zeroNine_not_found :
    selectMajor (platformApplets [meApplet zeroNine] (ascii ['M', 'E'])) plainNine [1] 0 = some 9 ∧
      ¬FiltersAgree [meApplet zeroNine] (ascii ['M', 'E']) plainNine 9 := by
  refine ⟨by decide +kernel, ?_⟩
  rintro ⟨l, hl, hne, -⟩
  have hnil : getMatchingAppletsToMajorFwVersion [meApplet zeroNine] (ascii ['M', 'E']) 9 = some [] := by decide +kernel
  rw [hnil] at hl
  exact hne (Option.some.inj hl).symm

/-- A blank in front does not matter. -/
def blankNine : Bytes := ascii [' ', '9', '.', '0', '.', '0']

/-- Records for firmware 8, 9 and 10, and one for firmware 9 on another platform. -/
def mixedApplets : List DalpApplet :=
  [meApplet (ascii ['8', '.', '0', '.', '0']), { meApplet plainNine with platform := ascii ['S', 'E', 'C'] },
    meApplet plainNine, meApplet (ascii ['1', '0', '.', '0', '.', '0']), meApplet blankNine]

/-- Plain versions are found again: two of the four records of the platform. -/
theorem plainNine_found : FiltersAgree mixedApplets (ascii ['M', 'E']) plainNine 9 := by
  have hread : ∀ a ∈ platformApplets mixedApplets (ascii ['M', 'E']), hasMajor 9 a = true →
      VersionsReadable a := by
    unfold VersionsReadable
    decide +kernel
  have hselected : ∀ a ∈ platformApplets mixedApplets (ascii ['M', 'E']),
      compareFWVersions plainNine (9 - 1) a.fwVersion = some 9 →
        a.fwVersion.dropWhile isXmlBlank = plainNine := by
    decide +kernel
  refine (filtersAgree_iff (by decide +kernel) (by decide)).2 ⟨fun a ha hsel => ?_, hread⟩
  exact ⟨[57], ascii ['0', '.', '0'], hselected a ha hsel, by decide +kernel, by decide +kernel,
    by decide +kernel⟩

end DalHost

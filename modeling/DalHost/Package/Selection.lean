import DalHost.Package.Positions
import Mathlib.Order.Bounds.Defs

/-!
# Selecting packages by version

What `getNonSignOnceAppletBlobs` is for: of the records of a platform it takes those of the highest
major version that the firmware reaches, and returns their packages, the newest first. For versions
written as plain decimal numbers the three queries of the reader agree on what a major version is,
and the positions that the second one remembers lead the third one to the right packages. What the
reader refuses besides are numbers too large for the types it reads them into, and packages whose
text is empty or too long.
-/

namespace DalHost

/-! ### Versions as numbers -/

/-- The numbers in the two version texts of a record. -/
structure AppletVersions where
  fwMajor : Nat
  fwMinor : Nat
  fwHotfix : Nat
  appMajor : Nat
  appMinor : Nat

def versionText (x y z : Nat) : Bytes := decimal x ++ 46 :: (decimal y ++ 46 :: decimal z)

def AppletVersions.fwText (v : AppletVersions) : Bytes := versionText v.fwMajor v.fwMinor v.fwHotfix

def AppletVersions.appText (v : AppletVersions) : Bytes := decimal v.appMajor ++ 46 :: decimal v.appMinor

/-- The order by firmware version and then by applet version. -/
def AppletVersions.Le (a b : AppletVersions) : Prop :=
  a.fwMajor < b.fwMajor ∨ a.fwMajor = b.fwMajor ∧ (a.fwMinor < b.fwMinor ∨ a.fwMinor = b.fwMinor ∧
    (a.fwHotfix < b.fwHotfix ∨ a.fwHotfix = b.fwHotfix ∧ (a.appMajor < b.appMajor ∨ a.appMajor = b.appMajor ∧
      a.appMinor ≤ b.appMinor)))

/-- The firmware version of a record is not above that of the platform. -/
def NotAbove (fw : FwVersion) (v : AppletVersions) : Prop :=
  v.fwMajor < fw.major.toNat ∨ v.fwMajor = fw.major.toNat ∧
    (v.fwMinor < fw.minor.toNat ∨ v.fwMinor = fw.minor.toNat ∧ v.fwHotfix ≤ fw.hotfix.toNat)

instance (fw : FwVersion) (v : AppletVersions) : Decidable (NotAbove fw v) :=
  inferInstanceAs (Decidable (_ ∨ _ ∧ (_ ∨ _ ∧ _)))

/-- The firmware numbers fit an `int`. -/
def AppletVersions.FitsInt (v : AppletVersions) : Prop :=
  v.fwMajor ≤ 2147483647 ∧ v.fwMinor ≤ 2147483647 ∧ v.fwHotfix ≤ 2147483647

instance (v : AppletVersions) : Decidable v.FitsInt := inferInstanceAs (Decidable (_ ∧ _ ∧ _))

/-- The versions fit the types that a candidate's versions are read into. -/
def AppletVersions.FitsStruct (v : AppletVersions) : Prop :=
  v.fwMajor < 65536 ∧ v.fwMinor < 65536 ∧ v.fwHotfix < 65536 ∧ v.appMajor ≤ 2147483647 ∧ v.appMinor ≤ 2147483647

instance (v : AppletVersions) : Decidable v.FitsStruct := inferInstanceAs (Decidable (_ ∧ _ ∧ _ ∧ _ ∧ _))

/-- `v` gives the numbers of the records, all written as plain decimals. -/
def Describes (v : DalpApplet → AppletVersions) (applets : List DalpApplet) : Prop :=
  ∀ a ∈ applets, a.fwVersion = (v a).fwText ∧ a.appletVersion = (v a).appText

/-! ### Reading plain decimals -/

theorem dot_not_digit (s : Bytes) : ∀ c, (46 :: s).head? = some c → isDecDigit c = false := by
  intro c hc
  obtain rfl := Option.some.inj hc
  rfl

theorem readInt_decimal (n : Nat) (rest : Bytes) (hrest : ∀ c, rest.head? = some c → isDecDigit c = false) :
    readInt (decimal n ++ rest) = if n ≤ 2147483647 then some ((n : Int), rest) else none := by
  obtain ⟨hdigits, hne, -⟩ := isDecimal_decimal n
  rw [readInt, readSigned_digits hdigits hne hrest, digitsValue_decimal]
  by_cases hn : n ≤ 2147483647
  · rw [if_pos hn, if_pos (by omega)]
  · rw [if_neg hn, if_neg (by omega)]

theorem readInt_decimal_end (n : Nat) : readInt (decimal n) = if n ≤ 2147483647 then some ((n : Int), []) else none := by
  have h := readInt_decimal n [] (by simp)
  rwa [List.append_nil] at h

theorem readUnsigned_decimal (n : Nat) (rest : Bytes) (hrest : ∀ c, rest.head? = some c → isDecDigit c = false) :
    readUnsigned 16 (decimal n ++ rest) = if n < 65536 then some (n, rest) else none := by
  obtain ⟨hdigits, hne, -⟩ := isDecimal_decimal n
  rw [readUnsigned_digits hdigits hne hrest, digitsValue_decimal]
  show (if n < 65536 then some (n, rest) else none) = _
  rfl

theorem readUnsigned_decimal_end (n : Nat) : readUnsigned 16 (decimal n) = if n < 65536 then some (n, []) else none := by
  have h := readUnsigned_decimal n [] (by simp)
  rwa [List.append_nil] at h

theorem readChar_dot (s : Bytes) : readChar (46 :: s) = some (46, s) := rfl

theorem parseFwVersion_versionText (x y z : Nat) :
    parseFwVersion (versionText x y z) =
      if x ≤ 2147483647 ∧ y ≤ 2147483647 ∧ z ≤ 2147483647 then some ((x : Int), (y : Int), (z : Int)) else none := by
  simp only [parseFwVersion, versionText, readInt_decimal _ _ (dot_not_digit _)]
  by_cases hx : x ≤ 2147483647
  · by_cases hy : y ≤ 2147483647
    · by_cases hz : z ≤ 2147483647
      · simp [hx, hy, hz, readChar_dot, readInt_decimal _ _ (dot_not_digit _), readInt_decimal_end]
      · simp [hx, hy, hz, readChar_dot, readInt_decimal _ _ (dot_not_digit _), readInt_decimal_end]
    · simp [hx, hy, readChar_dot, readInt_decimal _ _ (dot_not_digit _)]
  · simp [hx]

theorem detailsAt_text {a : DalpApplet} {v : AppletVersions} (hfw : a.fwVersion = v.fwText) (happ : a.appletVersion = v.appText)
    (i : Nat) :
    detailsAt (a, i) =
      if v.FitsStruct then some ⟨v.appMajor, v.appMinor, v.fwMajor, v.fwMinor, v.fwHotfix, i⟩ else none := by
  simp only [detailsAt, getAppletAndFwVersionAsStruct, hfw, happ, AppletVersions.appText, AppletVersions.fwText, versionText,
    readInt_decimal _ _ (dot_not_digit _), AppletVersions.FitsStruct]
  by_cases h1 : v.appMajor ≤ 2147483647
  · by_cases h2 : v.appMinor ≤ 2147483647
    · by_cases h3 : v.fwMajor < 65536
      · by_cases h4 : v.fwMinor < 65536
        · by_cases h5 : v.fwHotfix < 65536
          · simp [h1, h2, h3, h4, h5, readChar_dot, readInt_decimal_end, readUnsigned_decimal _ _ (dot_not_digit _),
              readUnsigned_decimal_end]
          · simp [h1, h2, h3, h4, h5, readChar_dot, readUnsigned_decimal _ _ (dot_not_digit _), readUnsigned_decimal_end]
        · simp [h1, h2, h3, h4, readChar_dot, readUnsigned_decimal _ _ (dot_not_digit _)]
      · simp [h1, h2, h3, readUnsigned_decimal _ _ (dot_not_digit _)]
    · simp [h1, h2, readChar_dot, readInt_decimal_end]
  · simp [h1]

/-! ### The major version that is selected -/

theorem versionText_ne_nil (x y z : Nat) : versionText x y z ≠ [] := by simp [versionText]

theorem compareFWVersions_text (fw : FwVersion) (cur : Int) (v : AppletVersions) :
    compareFWVersions fw.text cur v.fwText =
      if v.FitsInt then some (if NotAbove fw v then max cur v.fwMajor else cur) else none := by
  have hfw : parseFwVersion fw.text = some ((fw.major.toNat : Int), (fw.minor.toNat : Int), (fw.hotfix.toNat : Int)) := by
    have h1 := fw.major.toNat_lt
    have h2 := fw.minor.toNat_lt
    have h3 := fw.hotfix.toNat_lt
    have h := parseFwVersion_versionText fw.major.toNat fw.minor.toNat fw.hotfix.toNat
    rwa [if_pos (by omega)] at h
  have hv : parseFwVersion v.fwText = _ := parseFwVersion_versionText v.fwMajor v.fwMinor v.fwHotfix
  have hne : ¬(v.fwText = [] ∨ fw.text = []) := by
    rintro (h | h)
    · exact versionText_ne_nil _ _ _ h
    · exact versionText_ne_nil fw.major.toNat fw.minor.toNat fw.hotfix.toNat h
  rw [compareFWVersions, if_neg hne, hfw, hv]
  by_cases hfit : v.FitsInt
  · rw [if_pos hfit, if_pos (show _ ∧ _ ∧ _ from hfit)]
    simp only [Option.bind_eq_bind, Option.bind_some, Option.pure_def]
    by_cases habove : NotAbove fw v
    · rw [if_pos habove, if_neg (by unfold NotAbove at habove; omega)]
      split_ifs with hgt
      · rw [max_eq_right (by omega)]
      · rw [max_eq_left (by omega)]
    · rw [if_neg habove, if_pos (by unfold NotAbove at habove; omega)]
  · rw [if_neg hfit, if_neg (show ¬(_ ∧ _ ∧ _) from hfit)]
    rfl

section Selected

variable {v : DalpApplet → AppletVersions} {fw : FwVersion}

/-- The highest major version among the records that are not above the firmware, or `cur`. -/
def highestMajor (v : DalpApplet → AppletVersions) (fw : FwVersion) (cur : Int) (nodes : List DalpApplet) : Int :=
  nodes.foldl (fun cur a => if NotAbove fw (v a) then max cur (v a).fwMajor else cur) cur

theorem foldlM_compareFWVersions {nodes : List DalpApplet} (hv : Describes v nodes) (cur : Int) :
    nodes.foldlM (fun cur a => compareFWVersions fw.text cur a.fwVersion) cur =
      if ∀ a ∈ nodes, (v a).FitsInt then some (highestMajor v fw cur nodes) else none := by
  induction nodes generalizing cur with
  | nil => simp [highestMajor]
  | cons a nodes ih =>
    have hrest : Describes v nodes := fun b hb => hv b (List.mem_cons_of_mem _ hb)
    rw [List.foldlM_cons, (hv a (by simp)).1, compareFWVersions_text]
    by_cases hfit : (v a).FitsInt
    · rw [if_pos hfit]
      simp only [Option.bind_eq_bind, Option.bind_some, ih hrest, List.mem_cons, forall_eq_or_imp, hfit, true_and]
      rfl
    · simp [hfit]

theorem highestMajor_spec (nodes : List DalpApplet) (cur : Int) :
    cur ≤ highestMajor v fw cur nodes ∧
      (∀ a ∈ nodes, NotAbove fw (v a) → ((v a).fwMajor : Int) ≤ highestMajor v fw cur nodes) ∧
      (highestMajor v fw cur nodes = cur ∨ ∃ a ∈ nodes, NotAbove fw (v a) ∧ highestMajor v fw cur nodes = (v a).fwMajor) := by
  induction nodes generalizing cur with
  | nil => exact ⟨Int.le_refl _, by simp, .inl rfl⟩
  | cons a nodes ih =>
    obtain ⟨hge, hall, hex⟩ := ih (if NotAbove fw (v a) then max cur (v a).fwMajor else cur)
    have hcons : highestMajor v fw cur (a :: nodes) =
      highestMajor v fw (if NotAbove fw (v a) then max cur (v a).fwMajor else cur) nodes := rfl
    rw [hcons]
    by_cases ha : NotAbove fw (v a)
    · rw [if_pos ha] at hge hall hex ⊢
      refine ⟨le_trans (le_max_left _ _) hge, fun b hb hnb => ?_, ?_⟩
      · rcases List.mem_cons.1 hb with rfl | hb
        · exact le_trans (le_max_right _ _) hge
        · exact hall b hb hnb
      · rcases hex with heq | ⟨b, hb, hnb, heq⟩
        · rcases le_total ((v a).fwMajor : Int) cur with hle | hle
          · exact .inl (heq.trans (max_eq_left hle))
          · exact .inr ⟨a, by simp, ha, heq.trans (max_eq_right hle)⟩
        · exact .inr ⟨b, List.mem_cons_of_mem _ hb, hnb, heq⟩
    · rw [if_neg ha] at hge hall hex ⊢
      refine ⟨hge, fun b hb hnb => ?_, ?_⟩
      · rcases List.mem_cons.1 hb with rfl | hb
        · exact absurd hnb ha
        · exact hall b hb hnb
      · rcases hex with heq | ⟨b, hb, hnb, heq⟩
        · exact .inl heq
        · exact .inr ⟨b, List.mem_cons_of_mem _ hb, hnb, heq⟩

/-- The major versions that the firmware reaches. -/
def reachedMajors (v : DalpApplet → AppletVersions) (fw : FwVersion) (nodes : List DalpApplet) : Set Nat :=
  {m | ∃ a ∈ nodes, NotAbove fw (v a) ∧ (v a).fwMajor = m}

theorem highestMajor_of_isGreatest {nodes : List DalpApplet} {M : Nat} (hM : IsGreatest (reachedMajors v fw nodes) M) :
    highestMajor v fw 0 nodes = M := by
  obtain ⟨⟨a, ha, hna, rfl⟩, hub⟩ := hM
  obtain ⟨-, hall, hex⟩ := @highestMajor_spec v fw nodes 0
  have hle := hall a ha hna
  rcases hex with heq | ⟨b, hb, hnb, heq⟩
  · omega
  · have hba : (v b).fwMajor ≤ (v a).fwMajor := hub ⟨b, hb, hnb, rfl⟩
    omega

theorem highestMajor_of_none {nodes : List DalpApplet} (h : ∀ a ∈ nodes, ¬NotAbove fw (v a)) :
    highestMajor v fw 0 nodes = 0 := by
  obtain ⟨-, -, heq | ⟨b, hb, hnb, -⟩⟩ := @highestMajor_spec v fw nodes 0
  · exact heq
  · exact absurd hnb (h b hb)

end Selected

/-! ### The candidates of a major version -/

theorem hasMajor_text {a : DalpApplet} {v : AppletVersions} (hfw : a.fwVersion = v.fwText) (M : Nat) :
    hasMajor M a = true ↔ v.fwMajor = M := by
  have hdrop : a.fwVersion.dropWhile isXmlBlank = v.fwText := by
    obtain ⟨c, cs, hcs⟩ := List.exists_cons_of_ne_nil (isDecimal_decimal v.fwMajor).2.1
    have hc : isDecDigit c = true := (isDecimal_decimal v.fwMajor).1 c (by rw [hcs]; simp)
    have hblank : ¬isXmlBlank c = true := by
      intro hb
      revert hc hb
      have hall : ∀ m : Fin 256, isDecDigit (UInt8.ofFin m) = true → isXmlBlank (UInt8.ofFin m) = true → False := by
        decide +kernel
      exact hall c.toFin
    have htext : v.fwText = c :: (cs ++ 46 :: (decimal v.fwMinor ++ 46 :: decimal v.fwHotfix)) := by
      rw [AppletVersions.fwText, versionText, hcs]
      rfl
    rw [hfw, htext, List.dropWhile_cons_of_neg hblank]
  rw [hasMajor_iff, hdrop]
  constructor
  · rintro ⟨rest, hrest⟩
    have htake : ∀ (n : Nat) (s : Bytes), (decimal n ++ 46 :: s).takeWhile isDecDigit = decimal n := by
      intro n s
      rw [List.takeWhile_append_of_pos (isDecimal_decimal n).1]
      simp [isDecDigit]
    have heq : decimal v.fwMajor = decimal M := by
      rw [← htake v.fwMajor (decimal v.fwMinor ++ 46 :: decimal v.fwHotfix), ← htake M rest, ← hrest]
      rfl
    rw [← digitsValue_decimal v.fwMajor, heq, digitsValue_decimal]
  · rintro rfl
    exact ⟨_, rfl⟩

theorem majorApplets_text {v : DalpApplet → AppletVersions} {applets : List DalpApplet} (hv : Describes v applets)
    (platform : Bytes) (M : Nat) :
    majorApplets applets platform M = (platformApplets applets platform).filter fun a => (v a).fwMajor = M := by
  rw [platformApplets, List.filter_filter, majorApplets]
  refine List.filter_congr fun a ha => ?_
  have hiff := hasMajor_text (hv a ha).1 M
  rw [Bool.and_comm]
  congr 1
  rw [Bool.eq_iff_iff, hiff, decide_eq_true_iff]

/-! ### The packages of the candidates -/

/-- The text of the package has a length that the reader accepts. -/
def BlobFits (a : DalpApplet) : Prop := 1 ≤ a.appletBlob.length ∧ a.appletBlob.length < maxAppletBlobSize

instance (a : DalpApplet) : Decidable (BlobFits a) := inferInstanceAs (Decidable (_ ∧ _))

theorem getNodeTextAsBase64_of_fits {a : DalpApplet} (h : BlobFits a) :
    getNodeTextAsBase64 a.appletBlob = some (base64Decode a.appletBlob) := by
  have hlen : ¬(a.appletBlob.length < 1 ∨ maxAppletBlobSize ≤ a.appletBlob.length) := by
    unfold BlobFits at h
    omega
  rw [getNodeTextAsBase64, if_neg hlen]

theorem blobFits_of_isSome {a : DalpApplet} (h : (getNodeTextAsBase64 a.appletBlob).isSome = true) : BlobFits a := by
  rw [getNodeTextAsBase64] at h
  split_ifs at h with hlen
  · cases h
  · unfold BlobFits
    omega

section Candidates

variable {v : DalpApplet → AppletVersions}

/-- The details of a record at a position, where its numbers fit. -/
def detailsOf (v : DalpApplet → AppletVersions) (p : DalpApplet × Nat) : AppletDetails :=
  ⟨(v p.1).appMajor, (v p.1).appMinor, (v p.1).fwMajor, (v p.1).fwMinor, (v p.1).fwHotfix, p.2⟩

/-- The order of the list is the order of the versions, the newest first. -/
theorem compareAppletVersions_detailsOf (p q : DalpApplet × Nat) :
    compareAppletVersions (detailsOf v q) (detailsOf v p) = false ↔ (v q.1).Le (v p.1) := by
  have htrue : compareAppletVersions (detailsOf v q) (detailsOf v p) = true ↔ ¬(v q.1).Le (v p.1) := by
    simp only [compareAppletVersions, detailsOf, AppletVersions.Le, gt_iff_lt, Bool.or_eq_true, Bool.and_eq_true,
      decide_eq_true_eq]
    grind
  rw [← Bool.not_eq_true, htrue, not_not]

theorem collectDetails_text {nodes : List DalpApplet} (hv : Describes v nodes) :
    collectDetails nodes (List.range' 1 nodes.length) =
      if ∀ a ∈ nodes, (v a).FitsStruct then some ((nodes.zipIdx 1).map (detailsOf v)) else none := by
  have hmem : ∀ p ∈ nodes.zipIdx 1, p.1 ∈ nodes := by
    intro p hp
    have hfst := List.mem_map_of_mem (f := Prod.fst) hp
    rwa [List.zipIdx_map_fst] at hfst
  rw [collectDetails_eq_mapM]
  by_cases hfit : ∀ a ∈ nodes, (v a).FitsStruct
  · rw [if_pos hfit, mapM_eq_some_iff, List.map_map]
    refine List.map_congr_left fun p hp => ?_
    obtain ⟨hfw, happ⟩ := hv p.1 (hmem p hp)
    exact (detailsAt_text hfw happ p.2).trans (if_pos (hfit p.1 (hmem p hp)))
  · rw [if_neg hfit]
    cases hmap : (nodes.zipIdx 1).mapM detailsAt with
    | none => rfl
    | some l =>
      refine absurd (fun a ha => ?_) hfit
      obtain ⟨p, hp, rfl⟩ : ∃ p ∈ nodes.zipIdx 1, p.1 = a := by
        have hfst : a ∈ (nodes.zipIdx 1).map Prod.fst := by rwa [List.zipIdx_map_fst]
        exact List.mem_map.1 hfst
      have hdet : detailsAt p ∈ (nodes.zipIdx 1).map detailsAt := List.mem_map_of_mem hp
      rw [mapM_eq_some_iff.1 hmap] at hdet
      obtain ⟨d, -, hd⟩ := List.mem_map.1 hdet
      obtain ⟨hfw, happ⟩ := hv p.1 ha
      have htext := detailsAt_text hfw happ p.2
      by_contra hno
      rw [if_neg hno] at htext
      rw [← hd] at htext
      cases htext

theorem exists_sorted (nodes : List DalpApplet) :
    ∃ ps : List (DalpApplet × Nat), ps.Perm (nodes.zipIdx 1) ∧ ps.Pairwise (fun p q => (v q.1).Le (v p.1)) ∧
      sortByVersion ((nodes.zipIdx 1).map (detailsOf v)) = ps.map (detailsOf v) := by
  refine ⟨(nodes.zipIdx 1).insertionSort fun p q => compareAppletVersions (detailsOf v q) (detailsOf v p) = false,
    List.perm_insertionSort _ _, ?_, ?_⟩
  · have htotal : ∀ p q : DalpApplet × Nat, compareAppletVersions (detailsOf v q) (detailsOf v p) = false ∨
        compareAppletVersions (detailsOf v p) (detailsOf v q) = false := by
      intro p q
      rw [compareAppletVersions_detailsOf, compareAppletVersions_detailsOf]
      unfold AppletVersions.Le
      omega
    have htrans : ∀ p q r : DalpApplet × Nat, compareAppletVersions (detailsOf v q) (detailsOf v p) = false →
        compareAppletVersions (detailsOf v r) (detailsOf v q) = false →
        compareAppletVersions (detailsOf v r) (detailsOf v p) = false := by
      intro p q r
      rw [compareAppletVersions_detailsOf, compareAppletVersions_detailsOf, compareAppletVersions_detailsOf]
      unfold AppletVersions.Le
      omega
    have hsorted := @List.pairwise_insertionSort (DalpApplet × Nat)
      (fun p q => compareAppletVersions (detailsOf v q) (detailsOf v p) = false) _ ⟨htotal⟩ ⟨htrans⟩ (nodes.zipIdx 1)
    exact hsorted.imp fun {p q} h => (compareAppletVersions_detailsOf p q).1 h
  · exact (List.map_insertionSort _ _ (detailsOf v) (nodes.zipIdx 1) fun _ _ _ _ => Iff.rfl).symm

theorem copyBlobs_detailsOf {nodes : List DalpApplet} {ps : List (DalpApplet × Nat)} {status : Bool}
    (hps : ∀ p ∈ ps, p ∈ nodes.zipIdx 1) (hne : ps = [] → status = true) (hfits : ∀ p ∈ ps, BlobFits p.1) :
    copyBlobs nodes status (ps.map (detailsOf v)) = (true, ps.map fun p => base64Decode p.1.appletBlob) := by
  induction ps generalizing status with
  | nil => rw [List.map_nil, copyBlobs, hne rfl]; rfl
  | cons p ps ih =>
    have hblob : blobAt nodes (detailsOf v p) = some (base64Decode p.1.appletBlob) := by
      rw [blobAt, show (detailsOf v p).indexInDalp = p.2 from rfl, nodeAt_of_mem_zipIdx (hps p (by simp)), Option.bind_some]
      exact getNodeTextAsBase64_of_fits (hfits p (by simp))
    rw [List.map_cons, copyBlobs_cons, hblob,
      ih (fun q hq => hps q (by simp [hq])) (fun _ => rfl) fun q hq => hfits q (by simp [hq])]
    rfl

theorem copyBlobs_detailsOf_unfit {nodes : List DalpApplet} {ps : List (DalpApplet × Nat)} {status : Bool}
    (hps : ∀ p ∈ ps, p ∈ nodes.zipIdx 1) {p : DalpApplet × Nat} (hp : p ∈ ps) (hfits : ¬BlobFits p.1) :
    (copyBlobs nodes status (ps.map (detailsOf v))).1 = false := by
  rw [← Bool.not_eq_true, copyBlobs_eq_true]
  rintro ⟨-, hall⟩
  have hsome := hall (detailsOf v p) (List.mem_map_of_mem hp)
  rw [blobAt, show (detailsOf v p).indexInDalp = p.2 from rfl, nodeAt_of_mem_zipIdx (hps p hp), Option.bind_some] at hsome
  exact hfits (blobFits_of_isSome hsome)

end Candidates

/-! ### What the reader returns -/

/-- The packages of major version `M`, newest first, each record once. -/
def IsNewestFirst (v : DalpApplet → AppletVersions) (nodes : List DalpApplet) (M : Nat) (blobs : List Bytes) : Prop :=
  ∃ rs : List DalpApplet, rs.Perm (nodes.filter fun a => (v a).fwMajor = M) ∧
    rs.Pairwise (fun a b => (v b).Le (v a)) ∧ blobs = rs.map fun a => base64Decode a.appletBlob

/-- The packages of the highest major version that the firmware reaches, or none if it reaches no record. -/
structure SelectsNewest (v : DalpApplet → AppletVersions) (fw : FwVersion) (nodes : List DalpApplet)
    (result : Bool × List Bytes) : Prop where
  reached : ∀ M, IsGreatest (reachedMajors v fw nodes) M → result.1 = true ∧ IsNewestFirst v nodes M result.2
  none : (∀ a ∈ nodes, ¬NotAbove fw (v a)) → result = (true, [])

/-- The same within the limits of the reader, and a failure outside. Major version 0 is left open. -/
structure SelectsReadable (v : DalpApplet → AppletVersions) (fw : FwVersion) (nodes : List DalpApplet)
    (result : Bool × List Bytes) : Prop where
  /-- A record of the platform with a number that is no `int`. -/
  unread : (∃ a ∈ nodes, ¬(v a).FitsInt) → result.1 = false
  reached : (∀ a ∈ nodes, (v a).FitsInt) → ∀ M, 1 ≤ M → IsGreatest (reachedMajors v fw nodes) M →
    (∀ a ∈ nodes, (v a).fwMajor = M → (v a).FitsStruct ∧ BlobFits a) →
    result.1 = true ∧ IsNewestFirst v nodes M result.2
  /-- A candidate whose versions or package are outside the limits. -/
  unfit : (∀ a ∈ nodes, (v a).FitsInt) → ∀ M, 1 ≤ M → IsGreatest (reachedMajors v fw nodes) M →
    (∃ a ∈ nodes, (v a).fwMajor = M ∧ ¬((v a).FitsStruct ∧ BlobFits a)) → result.1 = false
  none : (∀ a ∈ nodes, (v a).FitsInt) → (∀ a ∈ nodes, ¬NotAbove fw (v a)) → result = (true, [])

section Result

variable {v : DalpApplet → AppletVersions} {fw : FwVersion} {applets : List DalpApplet} {platform : Bytes}

theorem selectMajor_text (hv : Describes v applets) :
    selectMajor (platformApplets applets platform) fw.text (List.range' 1 (platformApplets applets platform).length) 0 =
      if ∀ a ∈ platformApplets applets platform, (v a).FitsInt then
        some (highestMajor v fw 0 (platformApplets applets platform)) else none := by
  rw [selectMajor_eq_foldlM]
  exact foldlM_compareFWVersions (fun a ha => hv a (List.mem_of_mem_filter ha)) 0

/-- The rest of the procedure, once a major version is selected. -/
theorem getNonSignOnceAppletBlobs_selected (hv : Describes v applets)
    (hfit : ∀ a ∈ platformApplets applets platform, (v a).FitsInt) {M : Nat} (hM : 1 ≤ M)
    (hgreatest : IsGreatest (reachedMajors v fw (platformApplets applets platform)) M) :
    getNonSignOnceAppletBlobs applets (platformApplets applets platform).length platform fw.text =
      if ∀ a ∈ majorApplets applets platform M, (v a).FitsStruct then
        copyBlobs (majorApplets applets platform M) false
          (sortByVersion (((majorApplets applets platform M).zipIdx 1).map (detailsOf v)))
      else (false, []) := by
  have hzero : ¬(M : Int) = 0 := by omega
  have hmatch : getMatchingAppletsToMajorFwVersion applets platform M = _ :=
    collectDetails_text (v := v) fun a ha => hv a (List.mem_of_mem_filter ha)
  rw [getNonSignOnceAppletBlobs, selectMajor_text hv, if_pos hfit, highestMajor_of_isGreatest hgreatest]
  simp only [if_neg hzero, hmatch]
  split_ifs <;> rfl

/-- The reader returns the packages of the highest major version that the firmware reaches, newest
first, and fails exactly for numbers and packages outside its limits. -/
theorem getNonSignOnceAppletBlobs_selects (hv : Describes v applets) :
    SelectsReadable v fw (platformApplets applets platform)
      (getNonSignOnceAppletBlobs applets (platformApplets applets platform).length platform fw.text) := by
  constructor
  · rintro ⟨a, ha, hno⟩
    rw [getNonSignOnceAppletBlobs, selectMajor_text hv, if_neg fun hall => hno (hall a ha)]
  · intro hfit M hM hgreatest hgood
    have hnodes := majorApplets_text hv platform M
    have hmem : ∀ a ∈ majorApplets applets platform M, (v a).FitsStruct ∧ BlobFits a := by
      intro a ha
      rw [hnodes, List.mem_filter, decide_eq_true_iff] at ha
      exact hgood a ha.1 ha.2
    obtain ⟨ps, hperm, hsorted, hsort⟩ := exists_sorted (v := v) (majorApplets applets platform M)
    have hps : ∀ p ∈ ps, p ∈ (majorApplets applets platform M).zipIdx 1 := fun p hp => hperm.mem_iff.1 hp
    have hfst : (ps.map Prod.fst).Perm (majorApplets applets platform M) := by
      have hmap := hperm.map Prod.fst
      rwa [List.zipIdx_map_fst] at hmap
    have hne : ps ≠ [] := by
      rintro rfl
      obtain ⟨⟨a, ha, -, hmajor⟩, -⟩ := hgreatest
      have hin : a ∈ majorApplets applets platform M := by
        rw [hnodes, List.mem_filter, decide_eq_true_iff]
        exact ⟨ha, hmajor⟩
      exact absurd (hfst.mem_iff.2 hin) (by simp)
    rw [getNonSignOnceAppletBlobs_selected hv hfit hM hgreatest, if_pos fun a ha => (hmem a ha).1, hsort,
      copyBlobs_detailsOf hps (fun h => absurd h hne) fun p hp =>
        (hmem p.1 (hfst.mem_iff.1 (List.mem_map_of_mem hp))).2]
    refine ⟨rfl, ps.map Prod.fst, ?_, List.pairwise_map.2 hsorted, ?_⟩
    · rw [← hnodes]
      exact hfst
    · rw [List.map_map]
      rfl
  · rintro hfit M hM hgreatest ⟨a, ha, hmajor, hbad⟩
    have hnodes := majorApplets_text hv platform M
    have hin : a ∈ majorApplets applets platform M := by
      rw [hnodes, List.mem_filter, decide_eq_true_iff]
      exact ⟨ha, hmajor⟩
    rw [getNonSignOnceAppletBlobs_selected hv hfit hM hgreatest]
    split_ifs with hstruct
    · obtain ⟨ps, hperm, -, hsort⟩ := exists_sorted (v := v) (majorApplets applets platform M)
      obtain ⟨p, hp, rfl⟩ : ∃ p ∈ ps, p.1 = a := by
        have hmap := hperm.map Prod.fst
        rw [List.zipIdx_map_fst] at hmap
        exact List.mem_map.1 (hmap.mem_iff.2 hin)
      rw [hsort]
      exact copyBlobs_detailsOf_unfit (fun q hq => hperm.mem_iff.1 hq) hp fun hblob => hbad ⟨hstruct p.1 hin, hblob⟩
    · rfl
  · intro hfit hnone
    rw [getNonSignOnceAppletBlobs, selectMajor_text hv, if_pos hfit, highestMajor_of_none hnone]
    rfl

end Result

/-! ### Documents for examples -/

/-- Firmware 9.0.0, applet 1.0. -/
def nineVersions : AppletVersions where
  fwMajor := 9
  fwMinor := 0
  fwHotfix := 0
  appMajor := 1
  appMinor := 0

/-- A record for firmware 9.0.0 with a package. -/
def nineApplet (blob : Bytes) : DalpApplet where
  platform := ascii ['M', 'E']
  appletVersion := nineVersions.appText
  fwVersion := nineVersions.fwText
  appletBlob := blob

theorem nineApplet_describes (blob : Bytes) : Describes (fun _ => nineVersions) [nineApplet blob] := by
  intro a ha
  obtain rfl := List.mem_singleton.1 ha
  exact ⟨rfl, rfl⟩

theorem nineApplet_greatest (blob : Bytes) :
    IsGreatest (reachedMajors (fun _ => nineVersions) ⟨9, 0, 0⟩ [nineApplet blob]) 9 := by
  have hreached : NotAbove ⟨9, 0, 0⟩ nineVersions := by decide
  refine ⟨⟨nineApplet blob, by simp, hreached, rfl⟩, ?_⟩
  rintro m ⟨a, -, -, rfl⟩
  exact Nat.le_refl 9

/-- A document with one record and no package in it. -/
def emptyBlobDalp : Dalp where
  applets := [nineApplet []]
  count := by decide
  blobs := by decide

/-- The schema allows an empty package, the reader does not. -/
theorem emptyBlob_not_selected :
    Describes (fun _ => nineVersions) emptyBlobDalp.applets ∧
      ¬SelectsNewest (fun _ => nineVersions) ⟨9, 0, 0⟩ (platformApplets emptyBlobDalp.applets (ascii ['M', 'E']))
        (getNonSignOnceAppletBlobs emptyBlobDalp.applets 1 (ascii ['M', 'E']) (FwVersion.text ⟨9, 0, 0⟩)) := by
  refine ⟨nineApplet_describes [], fun h => ?_⟩
  have hnodes : platformApplets emptyBlobDalp.applets (ascii ['M', 'E']) = [nineApplet []] := by decide +kernel
  rw [hnodes] at h
  have htrue := (h.reached 9 (nineApplet_greatest [])).1
  exact absurd htrue (by decide +kernel)

/-- Packages with their versions: the second and the fourth are for major version 9. -/
def shelf : List (AppletVersions × Bytes) :=
  [(⟨8, 7, 0, 1, 0⟩, ascii ['Q', 'U', 'J', 'D']), (⟨9, 0, 0, 1, 2⟩, ascii ['R', 'E', 'V', 'G']),
    (⟨10, 0, 0, 1, 0⟩, ascii ['R', '0', 'h', 'J']), (⟨9, 0, 0, 1, 10⟩, ascii ['S', 'k', 't', 'M'])]

def shelfApplet (p : AppletVersions × Bytes) : DalpApplet where
  platform := ascii ['M', 'E']
  appletVersion := p.1.appText
  fwVersion := p.1.fwText
  appletBlob := p.2

/-- The versions of a record of the shelf, known by its package. -/
def shelfVersions (a : DalpApplet) : AppletVersions :=
  ((shelf.find? fun p => p.2 = a.appletBlob).map Prod.fst).getD nineVersions

/-- The records of the shelf, and one of another platform between them. -/
def shelfApplets : List DalpApplet :=
  { nineApplet (ascii ['A', 'A', 'A', 'A']) with platform := ascii ['S', 'E', 'C'] } ::
    shelf.map shelfApplet

theorem platformApplets_shelfApplets :
    platformApplets shelfApplets (ascii ['M', 'E']) = shelf.map shelfApplet := by decide +kernel

theorem shelf_greatest :
    IsGreatest (reachedMajors shelfVersions ⟨9, 0, 0⟩ (shelf.map shelfApplet)) 9 := by
  refine ⟨⟨shelfApplet (⟨9, 0, 0, 1, 2⟩, ascii ['R', 'E', 'V', 'G']), by decide +kernel,
    by decide +kernel, by decide +kernel⟩, ?_⟩
  rintro m ⟨a, ha, hreached, rfl⟩
  have hall : ∀ a ∈ shelf.map shelfApplet, NotAbove ⟨9, 0, 0⟩ (shelfVersions a) →
      (shelfVersions a).fwMajor ≤ 9 := by decide +kernel
  exact hall a ha hreached

/-- Firmware 9.0.0 gets the packages of the two records for major version 9, that of applet 1.10
before that of applet 1.2. -/
theorem shelfApplets_selected :
    let result := getNonSignOnceAppletBlobs shelfApplets 4 (ascii ['M', 'E']) (FwVersion.text ⟨9, 0, 0⟩)
    (result.1 = true ∧ IsNewestFirst shelfVersions (shelf.map shelfApplet) 9 result.2) ∧
      result.2 = [ascii ['J', 'K', 'L'], ascii ['D', 'E', 'F']] := by
  have hdescribes : Describes shelfVersions shelfApplets := by
    unfold Describes
    decide +kernel
  have hselects := @getNonSignOnceAppletBlobs_selects shelfVersions ⟨9, 0, 0⟩ shelfApplets (ascii ['M', 'E'])
    hdescribes
  rw [platformApplets_shelfApplets] at hselects
  exact ⟨hselects.reached (by decide +kernel) 9 (by decide) shelf_greatest (by decide +kernel),
    by decide +kernel⟩

end DalHost

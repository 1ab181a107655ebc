import DalHost.Package.Filters
import DalHost.Package.Selection
import DalHost.Service.AppletsManager

/-!
# What the service makes of a package

`AppletsManager::getAppletBlobs` turns the answer of the package reader into a code: a package that
cannot be read, a package with nothing for this firmware, or the list of blobs to offer to the VM.
The reader has one answer too few for this. Its copying loop calls an empty list of candidates a
failure, and the candidates it does copy need not hold a single byte; an ACP file is taken as it is.
-/

namespace DalHost

/-! ### The reader in the world -/

/-- The list that `AppletsPackageReader::getAppletBlobs` leaves, if it returns true. -/
def readerAnswer (r : Bool × List Bytes) : Option (List Bytes) := if r.1 then some r.2 else none

/-- The world reads DALP files with the package reader: `dalp` is the document of a file, if it is a
valid one, `env` the firmware and its answers. -/
def ReadsPackages {φ : Type} (W : World φ) (env : φ → ReaderEnv) (dalp : φ → FileString → Option Dalp) : Prop :=
  ∀ f e, ((W.readPackage f).exe e).1 = (dalp e f).map fun d => readerAnswer (readerGetAppletBlobs (env e) d.applets)

section World

variable {φ : Type} {W : World φ} {env : φ → ReaderEnv} {dalp : φ → FileString → Option Dalp} {file : FileString}
  {s : Service φ} {d : Dalp}

/-- The code for the answer of the reader. -/
def outcome (r : Bool × List Bytes) : Except JhiRet (List Bytes) :=
  if r.1 = false then .error jhiReadFromFileFailed
  else if r.2 = [] then .error jhiInstallFailed
  else .ok r.2

theorem getAppletBlobs_eq_outcome (hW : ReadsPackages W env dalp) (hext : compareFileExtension file dalpFileExt = true)
    (hdoc : dalp s.env file = some d) :
    ((getAppletBlobs W file false).exe s).1 = outcome (readerGetAppletBlobs (env s.env) d.applets) := by
  have hread := hW file s.env
  rw [hdoc, Option.map_some] at hread
  rw [getAppletBlobs, if_neg (by simp), if_pos hext, exe_bind, exe_onEnv, hread]
  obtain ⟨ok, blobs⟩ := readerGetAppletBlobs (env s.env) d.applets
  cases ok with
  | false => rfl
  | true =>
    cases blobs with
    | nil => rfl
    | cons blob blobs => rfl

end World

/-! ### Which procedure -/

/-- The firmware installs packages that are signed once. -/
def signOnceFw (fw : FwVersion) : Bool :=
  !(fw.major = 1 || fw.major = 2 || fw.major = 7 || fw.major = 8 || fw.major = 9 || fw.major = 10)

theorem isXmlBlank_fwText (fw : FwVersion) : ∀ c ∈ fw.text, isXmlBlank c = false := by
  have hdigit : ∀ (n : Nat), ∀ c ∈ decimal n, isXmlBlank c = false := by
    intro n c hc
    rw [← Bool.not_eq_true]
    intro hblank
    have hspace := isSpace_of_isXmlBlank hblank
    rw [isSpace_eq_false_of_isDecDigit ((isDecimal_decimal n).1 c hc)] at hspace
    cases hspace
  intro c hc
  simp only [FwVersion.text, List.mem_append, List.mem_cons] at hc
  rcases hc with hc | rfl | hc | rfl | hc
  · exact hdigit _ c hc
  · rfl
  · exact hdigit _ c hc
  · rfl
  · exact hdigit _ c hc

theorem trimString_of_no_blank {text : Bytes} (h : ∀ c ∈ text, isXmlBlank c = false) : trimString text = text := by
  have hdrop : ∀ l : Bytes, (∀ c ∈ l, isXmlBlank c = false) → l.dropWhile isXmlBlank = l := by
    intro l hl
    cases l with
    | nil => rfl
    | cons c cs => rw [List.dropWhile_cons_of_neg (by simp [hl c (by simp)])]
  rw [trimString, hdrop text h, hdrop _ fun c hc => h c (List.mem_reverse.1 hc), List.reverse_reverse]

theorem isSignOnce_fwText (fw : FwVersion) : isSignOnce fw.text = some (signOnceFw fw) := by
  have h1 := fw.major.toNat_lt
  have h2 := fw.minor.toNat_lt
  have h3 := fw.hotfix.toNat_lt
  have hscan : scanMajor fw.text = some (fw.major.toNat : Int) := by
    rw [scanMajor, FwVersion.text, readInt_decimal _ _ (dot_not_digit _), if_pos (by omega)]
    simp only [Option.bind_eq_bind, Option.bind_some, List.head?_cons, ne_eq, not_true_eq_false, if_false, List.drop_succ_cons,
      List.drop_zero]
    rw [readInt_decimal _ _ (dot_not_digit _), if_pos (by omega)]
    simp only [Option.bind_some, List.head?_cons, not_true_eq_false, if_false, List.drop_succ_cons, List.drop_zero]
    rw [readInt_decimal_end, if_pos (by omega)]
    rfl
  have hne : fw.text ≠ [] := versionText_ne_nil fw.major.toNat fw.minor.toNat fw.hotfix.toNat
  have hmajor : ∀ k : UInt16, (fw.major.toNat : Int) = k.toNat ↔ fw.major = k := by
    intro k
    rw [← UInt16.toNat_inj]
    omega
  have hcase : ((fw.major.toNat : Int) = 1 ∨ (fw.major.toNat : Int) = 2 ∨ (fw.major.toNat : Int) = 7 ∨
      (fw.major.toNat : Int) = 8 ∨ (fw.major.toNat : Int) = 9 ∨ (fw.major.toNat : Int) = 10) ↔ signOnceFw fw = false := by
    have h1 := hmajor 1
    have h2 := hmajor 2
    have h7 := hmajor 7
    have h8 := hmajor 8
    have h9 := hmajor 9
    have h10 := hmajor 10
    simp only [signOnceFw, Bool.not_eq_false', Bool.or_eq_true, decide_eq_true_eq, ← h1, ← h2, ← h7, ← h8, ← h9, ← h10, or_assoc]
    rfl
  rw [isSignOnce, if_neg hne, trimString_of_no_blank (isXmlBlank_fwText fw), hscan]
  simp only [Option.bind_eq_bind, Option.bind_some, Option.pure_def, hcase]
  cases signOnceFw fw <;> simp

theorem readerGetAppletBlobs_eq (E : ReaderEnv) (applets : List DalpApplet)
    (hplat : platformApplets applets (platformName E.fwVersion) ≠ []) :
    readerGetAppletBlobs E applets =
      if signOnceFw E.fwVersion then getSignOnceAppletBlobs E applets (platformName E.fwVersion)
      else getNonSignOnceAppletBlobs applets (platformApplets applets (platformName E.fwVersion)).length
        (platformName E.fwVersion) E.fwVersion.text := by
  have hlen : ¬(platformApplets applets (platformName E.fwVersion)).length < 1 := by
    have hpos := List.length_pos_of_ne_nil hplat
    omega
  simp only [readerGetAppletBlobs, if_neg hlen, isSignOnce_fwText]
  cases signOnceFw E.fwVersion <;> rfl

/-! ### The candidates -/

section Candidates

variable (E : ReaderEnv) (applets : List DalpApplet)

/-- The records for the platform. -/
abbrev ReaderEnv.records : List DalpApplet := platformApplets applets (platformName E.fwVersion)

/-- The major version that the non-sign-once procedure selects. -/
def ReaderEnv.selected : Option Int :=
  selectMajor (E.records applets) E.fwVersion.text (List.range' 1 (E.records applets).length) 0

/-- The major version and the versions whose packages the reader sets out to copy. -/
def ReaderEnv.copyList : Option (Int × List AppletDetails) :=
  if signOnceFw E.fwVersion then do
    let l ← getMatchingAppletsToMajorFwVersion applets (platformName E.fwVersion) signOnceFwMajorVersion
    let l' ← removeHigherApiLevelApplets E.apiLevel l
    return (signOnceFwMajorVersion, E.sortSignOnce l')
  else do
    let M ← E.selected applets
    if M = 0 then none
    else
      let l ← getMatchingAppletsToMajorFwVersion applets (platformName E.fwVersion) M
      return (M, sortByVersion l)

/-- A record whose package the reader sets out to copy. -/
def ReaderEnv.Candidate (a : DalpApplet) : Prop :=
  ∃ M l d, E.copyList applets = some (M, l) ∧ d ∈ l ∧
    nodeAt (majorApplets applets (platformName E.fwVersion) M) d.indexInDalp = some a

/-- The firmware reaches no record, so there is nothing to copy and nothing wrong. -/
def ReaderEnv.nothingReached : Bool := !signOnceFw E.fwVersion && E.selected applets = some 0

variable {E applets}

theorem reader_eq_copyBlobs (hplat : E.records applets ≠ []) {M : Int} {l : List AppletDetails}
    (h : E.copyList applets = some (M, l)) :
    readerGetAppletBlobs E applets = copyBlobs (majorApplets applets (platformName E.fwVersion) M) false l := by
  rw [readerGetAppletBlobs_eq E applets hplat]
  rw [ReaderEnv.copyList] at h
  split_ifs at h ⊢ with hsign
  · simp only [Option.bind_eq_bind, Option.bind_eq_some_iff, Option.pure_def] at h
    obtain ⟨l₀, hl₀, l₁, hl₁, heq⟩ := h
    cases heq
    simp only [getSignOnceAppletBlobs, hl₀, hl₁, copyBlobsFromList]
  · simp only [Option.bind_eq_bind, Option.bind_eq_some_iff, Option.pure_def] at h
    obtain ⟨M', hM', h⟩ := h
    split_ifs at h with hzero
    simp only [Option.bind_eq_some_iff] at h
    obtain ⟨l₀, hl₀, heq⟩ := h
    cases heq
    rw [ReaderEnv.selected] at hM'
    simp only [getNonSignOnceAppletBlobs, hM', if_neg hzero, hl₀, copyBlobsFromList]

theorem reader_of_copyList_none (hplat : E.records applets ≠ []) (h : E.copyList applets = none) :
    readerGetAppletBlobs E applets = (E.nothingReached applets, []) := by
  rw [readerGetAppletBlobs_eq E applets hplat, ReaderEnv.nothingReached]
  rw [ReaderEnv.copyList] at h
  split_ifs at h ⊢ with hsign
  · simp only [hsign, Bool.not_true, Bool.false_and]
    cases hl : getMatchingAppletsToMajorFwVersion applets (platformName E.fwVersion) signOnceFwMajorVersion with
    | none => simp only [getSignOnceAppletBlobs, hl]
    | some l =>
      cases hl' : removeHigherApiLevelApplets E.apiLevel l with
      | none => simp only [getSignOnceAppletBlobs, hl, hl']
      | some l' => simp [hl, hl'] at h
  · simp only [hsign, Bool.not_false, Bool.true_and]
    cases hM : E.selected applets with
    | none =>
      rw [ReaderEnv.selected] at hM
      simp [getNonSignOnceAppletBlobs, hM]
    | some M =>
      rw [hM] at h
      rw [ReaderEnv.selected] at hM
      by_cases hzero : M = 0
      · simp [getNonSignOnceAppletBlobs, hM, hzero]
      · cases hl : getMatchingAppletsToMajorFwVersion applets (platformName E.fwVersion) M with
        | none => simp [getNonSignOnceAppletBlobs, hM, hzero, hl]
        | some l => simp [hzero, hl] at h

theorem exists_node_of_mem_copyList {M : Int} {l : List AppletDetails} (h : E.copyList applets = some (M, l))
    {d : AppletDetails} (hd : d ∈ l) :
    ∃ a, nodeAt (majorApplets applets (platformName E.fwVersion) M) d.indexInDalp = some a ∧
      a ∈ majorApplets applets (platformName E.fwVersion) M ∧ detailsAt (a, d.indexInDalp) = some d ∧
      (signOnceFw E.fwVersion = true → M = signOnceFwMajorVersion ∧ (d.fwMinor : Int) ≤ E.apiLevel) := by
  rw [ReaderEnv.copyList] at h
  split_ifs at h with hsign
  · simp only [Option.bind_eq_bind, Option.bind_eq_some_iff, Option.pure_def] at h
    obtain ⟨l₀, hl₀, l₁, hl₁, heq⟩ := h
    cases heq
    have hmem₁ : d ∈ l₁ := (E.sortSignOnce_perm l₁).mem_iff.1 hd
    rw [removeHigherApiLevelApplets] at hl₁
    split_ifs at hl₁
    cases hl₁
    obtain ⟨hmem₀, hlevel⟩ := List.mem_filter.1 hmem₁
    obtain ⟨a, ha, hnode, hdet⟩ := exists_node_of_mem_details hl₀ hmem₀
    exact ⟨a, hnode, ha, hdet, fun _ => ⟨rfl, by simpa using hlevel⟩⟩
  · simp only [Option.bind_eq_bind, Option.bind_eq_some_iff, Option.pure_def] at h
    obtain ⟨M', hM', h⟩ := h
    split_ifs at h with hzero
    simp only [Option.bind_eq_some_iff] at h
    obtain ⟨l₀, hl₀, heq⟩ := h
    cases heq
    have hmem₀ : d ∈ l₀ := (List.perm_insertionSort _ _).mem_iff.1 hd
    obtain ⟨a, ha, hnode, hdet⟩ := exists_node_of_mem_details hl₀ hmem₀
    exact ⟨a, hnode, ha, hdet, fun hs => absurd hs (by simpa using hsign)⟩

/-- The reader succeeds with blobs exactly if there is a candidate and the packages of all of them
have lengths within the limits. -/
theorem reader_succeeds_iff (hplat : E.records applets ≠ []) :
    ((readerGetAppletBlobs E applets).1 = true ∧ (readerGetAppletBlobs E applets).2 ≠ []) ↔
      (∃ a, E.Candidate applets a) ∧ ∀ a, E.Candidate applets a → BlobFits a := by
  cases hlist : E.copyList applets with
  | none =>
    rw [reader_of_copyList_none hplat hlist]
    constructor
    · rintro ⟨-, hne⟩
      exact absurd rfl hne
    · rintro ⟨⟨a, M, l, d, h, -, -⟩, -⟩
      rw [hlist] at h
      cases h
  | some p =>
    obtain ⟨M, l⟩ := p
    rw [reader_eq_copyBlobs hplat hlist, copyBlobs_eq_true]
    have hblob : ∀ {d a}, nodeAt (majorApplets applets (platformName E.fwVersion) M) d.indexInDalp = some a →
        blobAt (majorApplets applets (platformName E.fwVersion) M) d = getNodeTextAsBase64 a.appletBlob := by
      intro d a hnode
      rw [blobAt, hnode, Option.bind_some]
    constructor
    · rintro ⟨⟨hne, hall⟩, -⟩
      constructor
      · obtain ⟨d, l', rfl⟩ := List.exists_cons_of_ne_nil fun hnil => absurd (hne hnil) (by simp)
        obtain ⟨a, hnode, -⟩ := exists_node_of_mem_copyList hlist (List.mem_cons_self (a := d))
        exact ⟨a, M, _, d, hlist, by simp, hnode⟩
      · rintro a ⟨M', l', d, hlist', hd, hnode⟩
        rw [hlist] at hlist'
        cases hlist'
        have hsome := hall d hd
        rw [hblob hnode] at hsome
        exact blobFits_of_isSome hsome
    · rintro ⟨⟨a, M', l', d, hlist', hd, hnode⟩, hall⟩
      rw [hlist] at hlist'
      cases hlist'
      have hgood : ∀ d' ∈ l, (blobAt (majorApplets applets (platformName E.fwVersion) M) d').isSome = true := by
        intro d' hd'
        obtain ⟨a', hnode', -⟩ := exists_node_of_mem_copyList hlist hd'
        rw [hblob hnode', getNodeTextAsBase64_of_fits (hall a' ⟨M, l, d', hlist, hd', hnode'⟩)]
        rfl
      have hne : l ≠ [] := List.ne_nil_of_mem hd
      refine ⟨⟨fun h => absurd h hne, hgood⟩, fun hnil => ?_⟩
      have hok : (copyBlobs (majorApplets applets (platformName E.fwVersion) M) false l).1 = true :=
        copyBlobs_eq_true.2 ⟨fun h => absurd h hne, hgood⟩
      have hmap := copyBlobs_blobs hok
      rw [hnil, List.map_nil] at hmap
      exact hne (List.map_eq_nil_iff.1 hmap.symm)

theorem mem_reader_blobs (hplat : E.records applets ≠ []) (hok : (readerGetAppletBlobs E applets).1 = true) (blob : Bytes) :
    blob ∈ (readerGetAppletBlobs E applets).2 ↔ ∃ a, E.Candidate applets a ∧ blob = base64Decode a.appletBlob := by
  cases hlist : E.copyList applets with
  | none =>
    rw [reader_of_copyList_none hplat hlist]
    constructor
    · intro h
      simp at h
    · rintro ⟨a, ⟨M, l, d, h, -, -⟩, -⟩
      rw [hlist] at h
      cases h
  | some p =>
    obtain ⟨M, l⟩ := p
    rw [reader_eq_copyBlobs hplat hlist] at hok ⊢
    have hmap := copyBlobs_blobs hok
    have hall := (copyBlobs_eq_true.1 hok).2
    have hmem : blob ∈ (copyBlobs (majorApplets applets (platformName E.fwVersion) M) false l).2 ↔
        some blob ∈ l.map (blobAt (majorApplets applets (platformName E.fwVersion) M)) := by
      rw [← hmap]
      simp
    rw [hmem, List.mem_map]
    constructor
    · rintro ⟨d, hd, hblob⟩
      obtain ⟨a, hnode, -⟩ := exists_node_of_mem_copyList hlist hd
      rw [blobAt, hnode, Option.bind_some] at hblob
      have hfits := blobFits_of_isSome (a := a) (by rw [hblob]; rfl)
      rw [getNodeTextAsBase64_of_fits hfits] at hblob
      exact ⟨a, ⟨M, l, d, hlist, hd, hnode⟩, (Option.some.inj hblob).symm⟩
    · rintro ⟨a, ⟨M', l', d, hlist', hd, hnode⟩, rfl⟩
      rw [hlist] at hlist'
      cases hlist'
      refine ⟨d, hd, ?_⟩
      have hsome := hall d hd
      rw [blobAt, hnode, Option.bind_some] at hsome ⊢
      exact getNodeTextAsBase64_of_fits (blobFits_of_isSome hsome)

end Candidates

/-! ### Nothing compatible -/

/-- The versions of a record can be read by both readers, and its package has a length within the limits. -/
structure RecordReadable (a : DalpApplet) : Prop where
  fwVersion : (parseFwVersion a.fwVersion).isSome = true
  versions : VersionsReadable a
  blob : BlobFits a

/-- The numbers of the firmware version. -/
def FwVersion.numbers (fw : FwVersion) : Int × Int × Int := (fw.major.toNat, fw.minor.toNat, fw.hotfix.toNat)

/-- No record of the platform is for this firmware. -/
def ReaderEnv.NoneCompatible (E : ReaderEnv) (applets : List DalpApplet) : Prop :=
  if signOnceFw E.fwVersion then
    ∀ a ∈ E.records applets, ∀ y z, parseFwVersion a.fwVersion = some (signOnceFwMajorVersion, y, z) → E.apiLevel < y
  else ∀ a ∈ E.records applets, ∀ new, parseFwVersion a.fwVersion = some new → IsAbove E.fwVersion.numbers new

/-- A readable document without a compatible record gives `JHI_INSTALL_FAILED` and no blobs, and
`JHI_READ_FROM_FILE_FAILED` is kept for documents with a record that cannot be read. -/
def OneOutcome (E : ReaderEnv) (applets : List DalpApplet) (result : Except JhiRet (List Bytes)) : Prop :=
  ((∀ a ∈ applets, RecordReadable a) → E.NoneCompatible applets →
    result = .error jhiInstallFailed ∧ (readerGetAppletBlobs E applets).2 = []) ∧
  (result = .error jhiReadFromFileFailed → ∃ a ∈ applets, ¬RecordReadable a)

section Outcome

variable {E : ReaderEnv} {applets : List DalpApplet}

theorem parseFwVersion_fwText (fw : FwVersion) : parseFwVersion fw.text = some fw.numbers := by
  have h1 := fw.major.toNat_lt
  have h2 := fw.minor.toNat_lt
  have h3 := fw.hotfix.toNat_lt
  have h := parseFwVersion_versionText fw.major.toNat fw.minor.toNat fw.hotfix.toNat
  rwa [if_pos (by omega)] at h

theorem not_isAbove_of_selectsMajor {fw : FwVersion} {M : Int} {a : DalpApplet} (h : SelectsMajor fw.text M a) :
    ∃ new, parseFwVersion a.fwVersion = some new ∧ ¬IsAbove fw.numbers new := by
  obtain ⟨-, -, fw', new, hfw, hnew, hcase⟩ := compareFWVersions_eq_some.1 h
  rw [parseFwVersion_fwText] at hfw
  obtain rfl := Option.some.inj hfw
  refine ⟨new, hnew, ?_⟩
  rcases hcase with ⟨-, heq⟩ | ⟨habove, -⟩
  · omega
  · exact habove

theorem exists_selected (hread : ∀ a ∈ applets, RecordReadable a) : ∃ M, E.selected applets = some M := by
  have hfold : ∀ (nodes : List DalpApplet) (cur : Int), (∀ a ∈ nodes, a ∈ applets) →
      ∃ M, nodes.foldlM (fun cur a => compareFWVersions E.fwVersion.text cur a.fwVersion) cur = some M := by
    intro nodes
    induction nodes with
    | nil => intro cur _; exact ⟨cur, rfl⟩
    | cons a nodes ih =>
      intro cur hmem
      obtain ⟨new, hnew⟩ := Option.isSome_iff_exists.1 (hread a (hmem a (by simp))).fwVersion
      have hne : a.fwVersion ≠ [] := by
        rintro hnil
        rw [hnil] at hnew
        cases hnew
      have hfwne : E.fwVersion.text ≠ [] := versionText_ne_nil _ _ _
      obtain ⟨cur', hcur'⟩ : ∃ cur', compareFWVersions E.fwVersion.text cur a.fwVersion = some cur' := by
        by_cases habove : IsAbove E.fwVersion.numbers new
        · exact ⟨cur, compareFWVersions_eq_some.2
            ⟨hne, hfwne, _, new, parseFwVersion_fwText _, hnew, .inl ⟨habove, rfl⟩⟩⟩
        · exact ⟨_, compareFWVersions_eq_some.2
            ⟨hne, hfwne, _, new, parseFwVersion_fwText _, hnew, .inr ⟨habove, rfl⟩⟩⟩
      obtain ⟨M, hM⟩ := ih cur' fun b hb => hmem b (by simp [hb])
      exact ⟨M, by rw [List.foldlM_cons, hcur']; exact hM⟩
  rw [ReaderEnv.selected, selectMajor_eq_foldlM]
  exact hfold _ 0 fun a ha => List.mem_of_mem_filter ha

theorem le_of_selectsMajor {fwVersion : Bytes} {nodes : List DalpApplet} {cur M M' : Int} {a : DalpApplet}
    (h : nodes.foldlM (fun cur a => compareFWVersions fwVersion cur a.fwVersion) cur = some M) (ha : a ∈ nodes)
    (hsel : SelectsMajor fwVersion M' a) : M' ≤ M := by
  induction nodes generalizing cur with
  | nil => simp at ha
  | cons b nodes ih =>
    rw [List.foldlM_cons, Option.bind_eq_bind, Option.bind_eq_some_iff] at h
    obtain ⟨cur', hcur', hrest⟩ := h
    rcases List.mem_cons.1 ha with rfl | ha
    · have hle := (exists_selectsMajor hrest).1
      obtain ⟨-, -, fw, new, hfw, hnew, hcase⟩ := compareFWVersions_eq_some.1 hcur'
      obtain ⟨-, -, fw', new', hfw', hnew', hcase'⟩ := compareFWVersions_eq_some.1 hsel
      rw [hfw] at hfw'
      rw [hnew] at hnew'
      cases hfw'
      cases hnew'
      rcases hcase with ⟨habove, rfl⟩ | ⟨-, rfl⟩
      · rcases hcase' with ⟨-, heq⟩ | ⟨hnot, -⟩
        · omega
        · exact absurd habove hnot
      · rcases hcase' with ⟨-, heq⟩ | ⟨-, heq⟩
        · omega
        · have hge : new.1 ≤ max cur new.1 := le_max_right _ _
          rcases le_total (M' - 1) new.1 with hle' | hle'
          · rw [max_eq_right hle'] at heq
            omega
          · rw [max_eq_left hle'] at heq
            omega
    · exact ih hrest ha

theorem nothingReached_iff (hread : ∀ a ∈ applets, RecordReadable a) :
    E.nothingReached applets = true ↔ signOnceFw E.fwVersion = false ∧
      ∀ a ∈ E.records applets, ∀ M, 1 ≤ M → ¬SelectsMajor E.fwVersion.text M a := by
  obtain ⟨M₀, hM₀⟩ := @exists_selected E applets hread
  have hfold := hM₀
  rw [ReaderEnv.selected, selectMajor_eq_foldlM] at hfold
  rw [ReaderEnv.nothingReached, hM₀]
  simp only [Bool.and_eq_true, Bool.not_eq_true', decide_eq_true_eq, Option.some.injEq]
  refine and_congr_right fun _ => ⟨?_, fun hnone => ?_⟩
  · rintro rfl a ha M hM hsel
    have hle := le_of_selectsMajor hfold ha hsel
    omega
  · obtain ⟨hpos, hex⟩ := exists_selectsMajor hfold
    rcases hex with h | ⟨a, ha, hsel⟩
    · exact h
    · by_contra hne
      exact hnone a ha M₀ (by omega) hsel

theorem candidate_mem {a : DalpApplet} (h : E.Candidate applets a) : a ∈ applets := by
  obtain ⟨M, l, d, hlist, hd, hnode⟩ := h
  exact List.mem_of_mem_filter (mem_of_nodeAt hnode)

theorem not_noneCompatible_of_candidate {a : DalpApplet} (hread : ∀ b ∈ applets, RecordReadable b)
    (h : E.Candidate applets a) : ¬E.NoneCompatible applets := by
  intro hnone
  obtain ⟨M, l, d, hlist, hd, hnode⟩ := h
  obtain ⟨a', hnode', ha', hdet, hlevel⟩ := exists_node_of_mem_copyList hlist hd
  obtain rfl : a' = a := Option.some.inj (hnode'.symm.trans hnode)
  obtain ⟨hrec, hmajor⟩ := mem_majorApplets.1 ha'
  rw [ReaderEnv.NoneCompatible] at hnone
  split_ifs at hnone with hsign
  · obtain ⟨rfl, hle⟩ := hlevel hsign
    obtain ⟨rest, hrest⟩ := (hasMajor_iff 11 a').1 hmajor
    obtain ⟨new, hnew⟩ := Option.isSome_iff_exists.1 (hread a' (List.mem_of_mem_filter hrec)).fwVersion
    simp only [parseFwVersion, Option.bind_eq_bind, Option.bind_eq_some_iff, Option.pure_def] at hnew
    obtain ⟨⟨v1, s1⟩, h1, ⟨c1, s2⟩, h2, ⟨v2, s3⟩, h3, ⟨c2, s4⟩, h4, ⟨v3, s5⟩, h5, heq⟩ := hnew
    have hv1 : v1 = signOnceFwMajorVersion := by
      have hdec := isDecimal_decimal 11
      have hdot : ∀ c, (46 :: rest).head? = some c → isDecDigit c = false := by
        intro c hc
        obtain rfl := Option.some.inj hc
        rfl
      have hread1 := h1
      rw [readInt, ← readSigned_dropWhile (fun c => isSpace_of_isXmlBlank), hrest,
        readSigned_digits hdec.1 hdec.2.1 hdot, digitsValue_decimal] at hread1
      rw [if_pos (by decide)] at hread1
      exact (Prod.mk.inj (Option.some.inj hread1)).1.symm
    -- both readers take the minor version from the same place in the text
    simp only [detailsAt, getAppletAndFwVersionAsStruct, Option.bind_eq_bind, Option.bind_eq_some_iff, Option.pure_def] at hdet
    obtain ⟨_, _, _, _, _, _, ⟨u1, t1⟩, g1, ⟨e1, t2⟩, g2, ⟨u2, t3⟩, g3, _, _, _, _, hd'⟩ := hdet
    obtain ⟨rfl, -⟩ := readUnsigned_of_readSigned h1 g1
    rw [h2] at g2
    cases g2
    obtain ⟨-, hsame⟩ := readUnsigned_of_readSigned h3 g3
    have hminor : d.fwMinor = u2 := (congrArg AppletDetails.fwMinor (Option.some.inj hd')).symm
    have hlt := hnone a' hrec v2 v3 (by
      simp only [parseFwVersion, Option.bind_eq_bind, h1, Option.bind_some, h2, h3, h4, h5, Option.pure_def, hv1])
    rw [hminor] at hle
    by_cases hpos : 0 ≤ v2
    · have heq2 := hsame hpos
      omega
    · omega
  · simp only [ReaderEnv.copyList, if_neg hsign, Option.bind_eq_bind, Option.bind_eq_some_iff] at hlist
    obtain ⟨M', hM', hlist⟩ := hlist
    split_ifs at hlist with hzero
    rw [ReaderEnv.selected, selectMajor_eq_foldlM] at hM'
    rcases (exists_selectsMajor hM').2 with h | ⟨b, hb, hsel⟩
    · exact hzero h
    · obtain ⟨new, hnew, hnot⟩ := not_isAbove_of_selectsMajor hsel
      exact hnot (hnone b hb new hnew)

/-- The outcome is the right one exactly if some record cannot be read, there is a candidate, or the
non-sign-once procedure reaches no record. -/
theorem oneOutcome_iff_reader (hplat : E.records applets ≠ []) :
    OneOutcome E applets (outcome (readerGetAppletBlobs E applets)) ↔
      (∃ a ∈ applets, ¬RecordReadable a) ∨ (∃ a, E.Candidate applets a) ∨ E.nothingReached applets = true := by
  by_cases hread : ∀ a ∈ applets, RecordReadable a
  · have hnone : ¬∃ a ∈ applets, ¬RecordReadable a := by
      rintro ⟨a, ha, hno⟩
      exact hno (hread a ha)
    by_cases hcand : ∃ a, E.Candidate applets a
    · refine ⟨fun _ => .inr (.inl hcand), fun _ => ⟨fun _ hcomp => ?_, fun hfail => ?_⟩⟩
      · obtain ⟨a, ha⟩ := hcand
        exact absurd hcomp (not_noneCompatible_of_candidate hread ha)
      · obtain ⟨hok, hne⟩ := (reader_succeeds_iff hplat).2 ⟨hcand, fun a ha => (hread a (candidate_mem ha)).blob⟩
        rw [outcome, if_neg (by simp [hok]), if_neg hne] at hfail
        cases hfail
    · -- without a candidate nothing is copied
      have hresult : readerGetAppletBlobs E applets = (E.nothingReached applets, []) := by
        cases hlist : E.copyList applets with
        | none => exact reader_of_copyList_none hplat hlist
        | some p =>
          obtain ⟨M, l⟩ := p
          have hnil : l = [] := by
            cases l with
            | nil => rfl
            | cons d l =>
              obtain ⟨a, hnode, -⟩ := exists_node_of_mem_copyList hlist (List.mem_cons_self (a := d))
              exact absurd ⟨a, M, _, d, hlist, by simp, hnode⟩ hcand
          have hreached : E.nothingReached applets = false := by
            rw [ReaderEnv.nothingReached]
            rw [ReaderEnv.copyList] at hlist
            split_ifs at hlist with hsign
            · simp [hsign]
            · cases hM : E.selected applets with
              | none => simp
              | some M' =>
                rw [hM, Option.bind_eq_bind, Option.bind_some] at hlist
                split_ifs at hlist with hzero
                simp [hzero]
          rw [reader_eq_copyBlobs hplat hlist, hnil, hreached]
          rfl
      rw [hresult]
      cases hreach : E.nothingReached applets with
      | true =>
        refine ⟨fun _ => .inr (.inr rfl), fun _ => ⟨fun _ _ => ⟨rfl, by rw [hresult]⟩, fun hfail => ?_⟩⟩
        cases hfail
      | false =>
        refine ⟨fun h => .inl (h.2 rfl), ?_⟩
        rintro (h | h | h)
        · exact absurd h hnone
        · exact absurd h hcand
        · cases h
  · have hbad : ∃ a ∈ applets, ¬RecordReadable a := by
      by_contra hno
      exact hread fun a ha => by_contra fun h => hno ⟨a, ha, h⟩
    exact ⟨fun _ => .inl hbad, fun _ => ⟨fun h => absurd h hread, fun _ => hbad⟩⟩

end Outcome

section World

variable {φ : Type} {W : World φ} {env : φ → ReaderEnv} {dalp : φ → FileString → Option Dalp} {file : FileString}
  {s : Service φ} {d : Dalp}

/-- On a document with a record for the platform the outcome is the right one exactly if some record
cannot be read, there is a candidate, or the firmware is of the older kind and reaches no record. -/
theorem oneOutcome_iff (hW : ReadsPackages W env dalp) (hext : compareFileExtension file dalpFileExt = true)
    (hdoc : dalp s.env file = some d) (hplat : (env s.env).records d.applets ≠ []) :
    OneOutcome (env s.env) d.applets ((getAppletBlobs W file false).exe s).1 ↔
      (∃ a ∈ d.applets, ¬RecordReadable a) ∨ (∃ a, (env s.env).Candidate d.applets a) ∨
        signOnceFw (env s.env).fwVersion = false ∧
          ∀ a ∈ (env s.env).records d.applets, ∀ M, 1 ≤ M → ¬SelectsMajor (env s.env).fwVersion.text M a := by
  rw [getAppletBlobs_eq_outcome hW hext hdoc, oneOutcome_iff_reader hplat]
  by_cases hread : ∀ a ∈ d.applets, RecordReadable a
  · rw [nothingReached_iff hread]
  · have hbad : ∃ a ∈ d.applets, ¬RecordReadable a := by
      by_contra hno
      exact hread fun a ha => by_contra fun h => hno ⟨a, ha, h⟩
    exact ⟨fun _ => .inl hbad, fun _ => .inl hbad⟩

end World

/-! ### Documents for examples -/

/-- Firmware 11.0.0 with API level 1. -/
def elevenEnv : ReaderEnv where
  fwVersion := ⟨11, 0, 0⟩
  apiLevel := 1
  sortSignOnce l := l
  sortSignOnce_perm := List.Perm.refl

/-- A record of the platform CSE with a firmware version and three bytes. -/
def cseApplet (fwVersion : Bytes) : DalpApplet where
  platform := ascii ['C', 'S', 'E']
  appletVersion := ascii ['1', '.', '0']
  fwVersion := fwVersion
  appletBlob := ascii ['Q', 'U', 'J', 'D']

theorem cseApplet_blobs (fwVersion : Bytes) : ∀ a ∈ [cseApplet fwVersion], isBase64Binary a.appletBlob = true := by
  intro a ha
  obtain rfl := List.mem_singleton.1 ha
  show isBase64Binary (ascii ['Q', 'U', 'J', 'D']) = true
  decide

/-- The document of one record. -/
def cseDalp (fwVersion : Bytes) : Dalp where
  applets := [cseApplet fwVersion]
  count := ⟨Nat.le_refl 1, Nat.le_add_left 1 49⟩
  blobs := cseApplet_blobs fwVersion

/-- A world in which every file is this document. -/
def packageWorld (E : ReaderEnv) (d : Dalp) : World PUnit :=
  { World.quiet PUnit with readPackage := fun _ => pure (some (readerAnswer (readerGetAppletBlobs E d.applets))) }

theorem packageWorld_reads (E : ReaderEnv) (d : Dalp) :
    ReadsPackages (packageWorld E d) (fun _ => E) fun _ _ => some d := fun _ _ => rfl

/-- A service with empty tables. -/
def packageService : Service PUnit where
  sessionList := .empty
  sharedSessionLRUCounter := 0
  appletTable := .empty
  vmType := .beihaiV2
  pluginRegistered := true
  appletsFolder := ascii ['r']
  env := ⟨⟩
  log := []

/-- A document with nothing but a record for firmware 9, on firmware 11: no record is compatible,
every record can be read, and the answer is that the file could not be read. -/
theorem elevenFirmware_nineRecord :
    ¬OneOutcome elevenEnv (cseDalp plainNine).applets
      ((getAppletBlobs (packageWorld elevenEnv (cseDalp plainNine)) exampleFile false).exe packageService).1 := by
  have houtcome := @getAppletBlobs_eq_outcome _ _ _ _ exampleFile packageService _
    (packageWorld_reads elevenEnv (cseDalp plainNine)) (by decide +kernel) rfl
  have hreader : readerGetAppletBlobs elevenEnv (cseDalp plainNine).applets = (false, []) := by decide +kernel
  rw [houtcome, hreader]
  intro h
  obtain ⟨a, ha, hno⟩ := h.2 rfl
  obtain rfl : a = cseApplet plainNine := List.mem_singleton.1 ha
  refine hno ⟨by decide +kernel, ?_, by decide +kernel, by decide +kernel⟩
  show (getAppletAndFwVersionAsStruct _ _ 0).isSome = true
  decide +kernel

/-- Records for firmware 9, 11 and 12, and one for firmware 11 on another platform. -/
def mixedDalp : Dalp where
  applets := [cseApplet plainNine, { cseApplet (ascii ['1', '1', '.', '0', '.', '0']) with platform := ascii ['M', 'E'] },
    { cseApplet (ascii ['1', '1', '.', '0', '.', '0']) with appletBlob := ascii ['R', 'E', 'V', 'G'] },
    cseApplet (ascii ['1', '2', '.', '0', '.', '0'])]
  count := by decide
  blobs := by decide +kernel

/-- One record of the four is a candidate, and the outcome is the right one: its package. -/
theorem elevenFirmware_mixedRecords :
    OneOutcome elevenEnv mixedDalp.applets
        ((getAppletBlobs (packageWorld elevenEnv mixedDalp) exampleFile false).exe packageService).1 ∧
      readerGetAppletBlobs elevenEnv mixedDalp.applets = (true, [ascii ['D', 'E', 'F']]) := by
  refine ⟨(oneOutcome_iff (packageWorld_reads _ _) (by decide +kernel) rfl (by decide +kernel)).2
    (.inr (.inl ?_)), by decide +kernel⟩
  exact ⟨{ cseApplet (ascii ['1', '1', '.', '0', '.', '0']) with appletBlob := ascii ['R', 'E', 'V', 'G'] }, 11,
    [⟨1, 0, 11, 0, 0, 1⟩], ⟨1, 0, 11, 0, 0, 1⟩, by decide +kernel, by decide, by decide +kernel⟩

end DalHost

import DalHost.Package.Outcomes

/-!
# The sizes of the blobs that are handed on

The plugin is given the address of the first byte of every blob and its length. Both readers look at
a length, the one for ACP files at that of the file and the one for DALP files at that of the base64
text, but the first goes on whatever it finds, and the second does not look at what the text decodes
to. So an empty or a too long ACP file and a package of blanks are handed on.
-/

namespace DalHost

section Limits

variable {φ : Type} (W : World φ) (env : φ → ReaderEnv) (dalp : φ → FileString → Option Dalp) (file : FileString)
  (isAcp : Bool) (s : Service φ)

/-- The file holds more than a blob may: as an ACP, in all; as a DALP, in a package that would be copied. -/
def OverLimit : Prop :=
  if isAcp then ∃ contents, ((W.readFile file).exe s.env).1 = some contents ∧ maxAppletBlobSize ≤ contents.length
  else compareFileExtension file dalpFileExt = true ∧ ∃ d, dalp s.env file = some d ∧
    ∃ a, (env s.env).records d.applets ≠ [] ∧ (env s.env).Candidate d.applets a ∧ maxAppletBlobSize ≤ a.appletBlob.length

/-- What is handed on has between one byte and the limit, and what is over the limit is refused. -/
structure BlobsWithinLimits (result : Except JhiRet (List Bytes)) : Prop where
  nonempty : ∀ blobs, result = .ok blobs → blobs ≠ []
  sizes : ∀ blobs, result = .ok blobs → ∀ blob ∈ blobs, 1 ≤ blob.length ∧ blob.length ≤ maxAppletBlobSize - 1
  refused : OverLimit W env dalp file isAcp s →
    result = .error jhiInvalidPackageFormat ∨ result = .error jhiReadFromFileFailed

variable {W env dalp file s}

/-! ### ACP files -/

theorem readFileAsBlob_none (h : ((W.readFile file).exe s.env).1 = none) :
    ((getAppletBlobs W file true).exe s).1 = .error jhiInternalError := by
  rw [getAppletBlobs, if_pos rfl, readFileAsBlob, exe_bind, exe_onEnv, h]
  rfl

theorem readFileAsBlob_some {contents : Bytes} (h : ((W.readFile file).exe s.env).1 = some contents) :
    ((getAppletBlobs W file true).exe s).1 = .ok [contents] := by
  rw [getAppletBlobs, if_pos rfl, readFileAsBlob, exe_bind, exe_onEnv, h]
  rfl

theorem acp_within_limits_iff :
    BlobsWithinLimits W env dalp file true s ((getAppletBlobs W file true).exe s).1 ↔
      ∀ contents, ((W.readFile file).exe s.env).1 = some contents →
        1 ≤ contents.length ∧ contents.length ≤ maxAppletBlobSize - 1 := by
  cases hread : ((W.readFile file).exe s.env).1 with
  | none =>
    rw [readFileAsBlob_none hread]
    refine ⟨fun _ contents h => (nomatch h), fun _ => ⟨?_, ?_, ?_⟩⟩
    · intro blobs h
      cases h
    · intro blobs h
      cases h
    · intro hover
      rw [OverLimit, if_pos rfl, hread] at hover
      obtain ⟨contents, h, -⟩ := hover
      cases h
  | some contents =>
    rw [readFileAsBlob_some hread]
    constructor
    · rintro hlimits contents' heq
      cases heq
      exact hlimits.sizes [contents] rfl contents (by simp)
    · intro hsize
      have hsize' := hsize contents rfl
      refine ⟨?_, ?_, ?_⟩
      · intro blobs h
        cases h
        exact List.cons_ne_nil _ _
      · intro blobs h blob hblob
        cases h
        obtain rfl := List.mem_singleton.1 hblob
        exact hsize'
      · intro hover
        rw [OverLimit, if_pos rfl, hread] at hover
        obtain ⟨contents', heq, hlong⟩ := hover
        cases heq
        have hmax : maxAppletBlobSize = 2097152 := rfl
        omega

/-! ### DALP files -/

theorem length_base64Decode_bounds (text : Bytes) :
    (1 ≤ (base64Decode text).length ↔ 2 ≤ base64Digits text) ∧ (base64Decode text).length ≤ text.length := by
  have hlen := length_base64Decode text
  have hdigits := base64Digits_le text
  constructor <;> omega

theorem getAppletBlobs_no_document (hW : ReadsPackages W env dalp) (hdoc : dalp s.env file = none) :
    ∃ ret, ((getAppletBlobs W file false).exe s).1 = .error ret := by
  rw [getAppletBlobs, if_neg (by simp)]
  by_cases hext : compareFileExtension file dalpFileExt = true
  · have hread := hW file s.env
    rw [hdoc, Option.map_none] at hread
    refine ⟨jhiInvalidPackageFormat, ?_⟩
    rw [if_pos hext, exe_bind, exe_onEnv, hread]
    rfl
  · exact ⟨jhiInvalidFileExtension, by rw [if_neg hext]; rfl⟩

theorem getAppletBlobs_other_extension (hext : compareFileExtension file dalpFileExt ≠ true) :
    ((getAppletBlobs W file false).exe s).1 = .error jhiInvalidFileExtension := by
  rw [getAppletBlobs, if_neg (by simp), if_neg hext]
  rfl

theorem blobsWithinLimits_error {ret : JhiRet} (hover : ¬OverLimit W env dalp file isAcp s) :
    BlobsWithinLimits W env dalp file isAcp s (.error ret) where
  nonempty _ h := nomatch h
  sizes _ h := nomatch h
  refused h := absurd h hover

theorem outcome_of_candidate {E : ReaderEnv} {applets : List DalpApplet} (hplat : E.records applets ≠ [])
    {a : DalpApplet} (ha : E.Candidate applets a) :
    ((∀ b, E.Candidate applets b → BlobFits b) → outcome (readerGetAppletBlobs E applets) = .ok (readerGetAppletBlobs E applets).2 ∧
      (readerGetAppletBlobs E applets).1 = true ∧ (readerGetAppletBlobs E applets).2 ≠ []) ∧
    ((∃ b, E.Candidate applets b ∧ ¬BlobFits b) → outcome (readerGetAppletBlobs E applets) = .error jhiReadFromFileFailed) := by
  refine ⟨fun hall => ?_, ?_⟩
  · obtain ⟨hok, hne⟩ := (reader_succeeds_iff hplat).2 ⟨⟨a, ha⟩, hall⟩
    exact ⟨by rw [outcome, if_neg (by simp [hok]), if_neg hne], hok, hne⟩
  · rintro ⟨b, hb, hno⟩
    cases hok : (readerGetAppletBlobs E applets).1 with
    | false => rw [outcome, if_pos hok]
    | true =>
      have hmem := (mem_reader_blobs hplat hok (base64Decode a.appletBlob)).2 ⟨a, ha, rfl⟩
      have hfits := ((reader_succeeds_iff hplat).1 ⟨hok, List.ne_nil_of_mem hmem⟩).2 b hb
      exact absurd hfits hno

theorem outcome_of_no_candidate {E : ReaderEnv} {applets : List DalpApplet} (hplat : E.records applets ≠ [])
    (hnone : ¬∃ a, E.Candidate applets a) : ∃ ret, outcome (readerGetAppletBlobs E applets) = .error ret := by
  rw [outcome]
  split_ifs with hfail hnil
  · exact ⟨_, rfl⟩
  · exact ⟨_, rfl⟩
  · exact absurd ((reader_succeeds_iff hplat).1 ⟨by simpa using hfail, hnil⟩).1 hnone

theorem sizes_iff_digits {E : ReaderEnv} {applets : List DalpApplet} (hplat : E.records applets ≠ [])
    (hok : (readerGetAppletBlobs E applets).1 = true) (hfits : ∀ a, E.Candidate applets a → BlobFits a) :
    (∀ blob ∈ (readerGetAppletBlobs E applets).2, 1 ≤ blob.length ∧ blob.length ≤ maxAppletBlobSize - 1) ↔
      ∀ a, E.Candidate applets a → 2 ≤ base64Digits a.appletBlob := by
  constructor
  · intro hsizes a ha
    have hmem := (mem_reader_blobs hplat hok (base64Decode a.appletBlob)).2 ⟨a, ha, rfl⟩
    exact (length_base64Decode_bounds _).1.1 (hsizes _ hmem).1
  · intro hdigits blob hblob
    obtain ⟨a, ha, rfl⟩ := (mem_reader_blobs hplat hok blob).1 hblob
    obtain ⟨hone, hle⟩ := length_base64Decode_bounds a.appletBlob
    have hlt := (hfits a ha).2
    exact ⟨hone.2 (hdigits a ha), by omega⟩

theorem not_overLimit_of_fits {d : Dalp} (hdoc : dalp s.env file = some d)
    (hfits : ∀ a, (env s.env).Candidate d.applets a → BlobFits a) : ¬OverLimit W env dalp file false s := by
  intro hover
  rw [OverLimit, if_neg (by simp)] at hover
  obtain ⟨-, d', hd', a, -, ha, hlong⟩ := hover
  rw [hdoc] at hd'
  cases hd'
  have hlt := (hfits a ha).2
  omega

theorem dalp_within_limits_iff (hW : ReadsPackages W env dalp) :
    BlobsWithinLimits W env dalp file false s ((getAppletBlobs W file false).exe s).1 ↔
      ∀ d, compareFileExtension file dalpFileExt = true → dalp s.env file = some d →
        (env s.env).records d.applets ≠ [] →
        (∃ a, (env s.env).Candidate d.applets a ∧ ¬BlobFits a) ∨
          ∀ a, (env s.env).Candidate d.applets a → 2 ≤ base64Digits a.appletBlob := by
  by_cases hext : compareFileExtension file dalpFileExt = true
  · cases hdoc : dalp s.env file with
    | none =>
      obtain ⟨ret, hret⟩ := @getAppletBlobs_no_document _ W env dalp file s hW hdoc
      refine ⟨fun _ d _ h => (nomatch h), fun _ => ?_⟩
      rw [hret]
      refine blobsWithinLimits_error false fun hover => ?_
      rw [OverLimit, if_neg (by simp)] at hover
      obtain ⟨-, d, h, -⟩ := hover
      rw [hdoc] at h
      cases h
    | some d =>
      rw [getAppletBlobs_eq_outcome hW hext hdoc]
      by_cases hplat : (env s.env).records d.applets ≠ []
      · by_cases hcand : ∃ a, (env s.env).Candidate d.applets a
        · obtain ⟨a, ha⟩ := hcand
          obtain ⟨hgood, hbad⟩ := outcome_of_candidate hplat ha
          by_cases hfits : ∀ b, (env s.env).Candidate d.applets b → BlobFits b
          · obtain ⟨hresult, hok, hne⟩ := hgood hfits
            rw [hresult]
            constructor
            · intro hlimits d' _ hd' _
              cases hd'
              exact .inr ((sizes_iff_digits hplat hok hfits).1 (hlimits.sizes _ rfl))
            · intro hcond
              have hdigits : ∀ b, (env s.env).Candidate d.applets b → 2 ≤ base64Digits b.appletBlob := by
                rcases hcond d hext rfl hplat with ⟨b, hb, hno⟩ | h
                · exact absurd (hfits b hb) hno
                · exact h
              refine ⟨?_, ?_, fun hover => absurd hover (not_overLimit_of_fits hdoc hfits)⟩
              · intro blobs h
                cases h
                exact hne
              · intro blobs h
                cases h
                exact (sizes_iff_digits hplat hok hfits).2 hdigits
          · have hbad' : ∃ b, (env s.env).Candidate d.applets b ∧ ¬BlobFits b := by
              by_contra hno
              exact hfits fun b hb => by_contra fun h => hno ⟨b, hb, h⟩
            rw [hbad hbad']
            refine ⟨fun _ d' _ hd' _ => ?_, fun _ => ⟨?_, ?_, fun _ => .inr rfl⟩⟩
            · cases hd'
              exact .inl hbad'
            · intro blobs h
              cases h
            · intro blobs h
              cases h
        · obtain ⟨ret, hret⟩ := outcome_of_no_candidate hplat hcand
          rw [hret]
          refine ⟨fun _ d' _ hd' _ => ?_, fun _ => blobsWithinLimits_error false ?_⟩
          · cases hd'
            exact .inr fun a ha => absurd ⟨a, ha⟩ hcand
          · exact not_overLimit_of_fits hdoc fun a ha => absurd ⟨a, ha⟩ hcand
      · -- no record for the platform: the reader fails
        have hnil : (env s.env).records d.applets = [] := not_not.1 hplat
        have hfail : outcome (readerGetAppletBlobs (env s.env) d.applets) = .error jhiReadFromFileFailed := by
          have hlen : (platformApplets d.applets (platformName (env s.env).fwVersion)).length < 1 := by
            rw [show platformApplets d.applets (platformName (env s.env).fwVersion) = [] from hnil]
            exact Nat.zero_lt_one
          simp only [readerGetAppletBlobs, if_pos hlen]
          rfl
        rw [hfail]
        refine ⟨fun _ d' _ hd' hne => ?_, fun _ => ⟨?_, ?_, fun _ => .inr rfl⟩⟩
        · cases hd'
          exact absurd hnil hne
        · intro blobs h
          cases h
        · intro blobs h
          cases h
  · rw [getAppletBlobs_other_extension hext]
    refine ⟨fun _ d h => absurd h hext, fun _ => blobsWithinLimits_error false fun hover => ?_⟩
    rw [OverLimit, if_neg (by simp)] at hover
    exact hext hover.1

/-- Blobs within the limits are all that is handed on exactly if an ACP file has between one byte and
the limit, and a DALP file has two digits in every package that is copied or one that is refused for its
length. -/
theorem blobsWithinLimits_iff (hW : ReadsPackages W env dalp) :
    BlobsWithinLimits W env dalp file isAcp s ((getAppletBlobs W file isAcp).exe s).1 ↔
      if isAcp then
        ∀ contents, ((W.readFile file).exe s.env).1 = some contents →
          1 ≤ contents.length ∧ contents.length ≤ maxAppletBlobSize - 1
      else
        ∀ d, compareFileExtension file dalpFileExt = true → dalp s.env file = some d →
          (env s.env).records d.applets ≠ [] →
          (∃ a, (env s.env).Candidate d.applets a ∧ ¬BlobFits a) ∨
            ∀ a, (env s.env).Candidate d.applets a → 2 ≤ base64Digits a.appletBlob := by
  cases isAcp with
  | true =>
    rw [if_pos rfl]
    exact acp_within_limits_iff
  | false =>
    rw [if_neg (by simp)]
    exact dalp_within_limits_iff hW

end Limits

/-- A world in which every file has these contents and no file is a DALP document. -/
def contentsWorld (contents : Bytes) : World PUnit :=
  { World.quiet PUnit with
    readFile := fun _ => pure (some contents)
    readPackage := fun _ => pure none }

theorem contentsWorld_reads (contents : Bytes) :
    ReadsPackages (contentsWorld contents) (fun _ => elevenEnv) fun _ _ => none := fun _ _ => rfl

/-- An empty ACP file is handed on as a blob without a first byte. -/
theorem emptyAcp_handed_on :
    ((getAppletBlobs (contentsWorld []) exampleFile true).exe packageService).1 = .ok [[]] ∧
      ¬BlobsWithinLimits (contentsWorld []) (fun _ => elevenEnv) (fun _ _ => none) exampleFile true packageService
        ((getAppletBlobs (contentsWorld []) exampleFile true).exe packageService).1 := by
  have hok : ((getAppletBlobs (contentsWorld []) exampleFile true).exe packageService).1 = .ok [[]] := rfl
  refine ⟨hok, fun h => ?_⟩
  have hsize := (h.sizes _ hok [] (by simp)).1
  exact absurd hsize (by decide)

/-- An ACP file of one byte is within the limits. -/
theorem shortAcp_within_limits :
    BlobsWithinLimits (contentsWorld [0]) (fun _ => elevenEnv) (fun _ _ => none) exampleFile true packageService
      ((getAppletBlobs (contentsWorld [0]) exampleFile true).exe packageService).1 := by
  refine (blobsWithinLimits_iff true (contentsWorld_reads [0])).2 ?_
  rw [if_pos rfl]
  intro contents h
  obtain rfl : [0] = contents := Option.some.inj h
  decide

end DalHost

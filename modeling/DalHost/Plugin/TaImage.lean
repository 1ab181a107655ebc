import DalHost.Plugin.Beihai
import DalHost.Plugin.AdminPack

/-!
# The image that a session is opened with

On Beihai v2 a session is opened with the image of the applet, the last part of its package.
`JHI_Plugin_CreateSession` has the package parser find it and passes on its address and the number of
bytes from there to the end of the package. It does not look at the parser's answer: a package that
is refused leaves the address at `NULL`, and the size is then a difference of unrelated addresses.
-/

namespace DalHost

/-! ### Where the parser finds the image -/

/-- `ACP_pload_ins_jta`: the offset of `ta_pack.ta_pack` in the package. -/
def acpPloadInsJtaImage (rawData : Bytes) : Option Nat := do
  let pack ← acpPack rawData
  let heads ← (acpLoadPack pack .installJTA (acpLoadInsJta pack)).run' 0
  return acpCssHeaderLength + heads.2

theorem acpLoadTaPack_le {pack : Bytes} {cur cur' off : Nat} (h : (acpLoadTaPack pack).run cur = some (off, cur')) :
    off ≤ pack.length := by
  obtain ⟨_, aligned, halign, hrest⟩ := packReader_bind_eq_some.1 h
  obtain rfl : aligned = off := by
    have hpair : some (aligned, pack.length) = some (off, cur') := hrest
    exact (Prod.mk.inj (Option.some.inj hpair)).1
  rw [run_prAlignMove] at halign
  split_ifs at halign with hle
  cases halign
  exact hle

theorem acpLoadInsJta_le {pack : Bytes} {cur cur' : Nat} {heads : Nat × Nat}
    (h : (acpLoadInsJta pack).run cur = some (heads, cur')) : heads.2 ≤ pack.length := by
  obtain ⟨_, _, -, h⟩ := packReader_bind_eq_some.1 h
  obtain ⟨head, _, -, h⟩ := packReader_bind_eq_some.1 h
  obtain ⟨taPack, _, htaPack, h⟩ := packReader_bind_eq_some.1 h
  cases h
  exact acpLoadTaPack_le htaPack

theorem acpPloadInsJtaImage_le {rawData : Bytes} {off : Nat} (h : acpPloadInsJtaImage rawData = some off) :
    off ≤ rawData.length := by
  simp only [acpPloadInsJtaImage, Option.bind_eq_bind, Option.bind_eq_some_iff, acpPack, Option.pure_def] at h
  obtain ⟨pack, hpack, heads, hload, hoff⟩ := h
  split_ifs at hpack with hlen
  cases hpack
  obtain ⟨r, hrun, rfl⟩ : ∃ r, (acpLoadPack (rawData.drop acpCssHeaderLength) .installJTA
      (acpLoadInsJta (rawData.drop acpCssHeaderLength))).run 0 = some r ∧ r.1 = heads := by
    simpa [StateT.run', StateT.run] using hload
  obtain ⟨_, _, -, hrest⟩ := packReader_bind_eq_some.1 hrun
  split_ifs at hrest
  · cases hrest
  · obtain ⟨a, _, hjta, hrest⟩ := packReader_bind_eq_some.1 hrest
    obtain ⟨_, _, -, hrest⟩ := packReader_bind_eq_some.1 hrest
    cases hrest
    have hle : a.2 ≤ rawData.length - acpCssHeaderLength := by
      rw [← List.length_drop]
      exact acpLoadInsJta_le hjta
    cases hoff
    show acpCssHeaderLength + a.2 ≤ rawData.length
    omega

/-! ### Opening the session -/

/-- The bytes of an applet and where they lie: no address of theirs is `NULL` or past the end of
memory, and their number fits the `unsigned int` it is passed in. -/
structure AppBlob where
  pAppBlob : UInt64
  bytes : Bytes
  size_pos : 1 ≤ bytes.length
  size_lt : bytes.length < 2 ^ 32
  pAppBlob_pos : 0 < pAppBlob.toNat
  in_memory : pAppBlob.toNat + bytes.length < 2 ^ 64

/-- The package argument of `BHP_OpenTASession`. -/
structure TaImage where
  pkg : UInt64
  len : UInt32
  deriving DecidableEq

/-- `ta_pack.ta_pack`, with `NULL` where the parser fails. -/
def AppBlob.taPack (blob : AppBlob) : UInt64 :=
  match acpPloadInsJtaImage blob.bytes with
  | none => 0
  | some off => blob.pAppBlob + UInt64.ofNat off

/-- What `JHI_Plugin_CreateSession` passes on; `ta_size` is a 32-bit difference. -/
def AppBlob.taImage (blob : AppBlob) : TaImage :=
  ⟨blob.taPack, UInt32.ofNat blob.bytes.length - (blob.taPack - blob.pAppBlob).toUInt32⟩

/-- The VM library under the two calls. `openTASession` is what `BHP_OpenTASession` does once it has
checked that it is initialised and has a package. -/
structure VmLibrary (ψ : Type) where
  isBhpInited : ψ → Bool
  openTASession : Bytes → TaImage → Bytes → StateM ψ (BhRet × VmHandle)
  sendAndRecvInternal : VmHandle → SessionId → StateM ψ (BhRet × UInt32)

section

variable {ψ : Type} (L : VmLibrary ψ)

/-- `BHP_OpenTASession`. -/
def bhpOpenTASession (appId : Bytes) (image : TaImage) (initBuffer : Bytes) : StateM ψ (BhRet × VmHandle) := do
  if !L.isBhpInited (← get) then return (bpeNotInit, 0)
  else if image.pkg = 0 ∨ image.len = 0 then return (bpeInvalidParams, 0)
  else L.openTASession appId image initBuffer

/-- `BeihaiPlugin::JHI_Plugin_CreateSession`, from the address of the blob on. -/
def createSessionFromBlob (appId : Bytes) (blob : AppBlob) (sessionId : SessionId) (initBuffer : Bytes) :
    StateM ψ (JhiRet × VmHandle) := do
  let opened ← bhpOpenTASession L appId blob.taImage initBuffer
  if opened.1 = bhSuccess then
    let a ← L.sendAndRecvInternal opened.2 sessionId
    if a.1 ≠ bhSuccess ∨ a.2 ≠ 0 then return (jhiInternalError, opened.2)
    else return (beihaiToJhiError opened.1, opened.2)
  else return (beihaiToJhiError opened.1, opened.2)

/-- The image is a suffix of the blob. -/
def AppBlob.HasSuffix (blob : AppBlob) (image : TaImage) : Prop :=
  blob.pAppBlob.toNat ≤ image.pkg.toNat ∧ image.pkg.toNat ≤ blob.pAppBlob.toNat + blob.bytes.length ∧
    image.pkg.toNat + image.len.toNat = blob.pAppBlob.toNat + blob.bytes.length

/-- What is passed to the library is a suffix of the blob; with a blob that the parser refuses the
library is left as it was and an error is returned. -/
def ImageInsidePackage (blob : AppBlob) : Prop :=
  blob.HasSuffix blob.taImage ∧
    (acpPloadInsJtaImage blob.bytes = none → ∀ appId sessionId initBuffer s,
      ((createSessionFromBlob L appId blob sessionId initBuffer).exe s).2 = s ∧
        ((createSessionFromBlob L appId blob sessionId initBuffer).exe s).1.1 ≠ jhiSuccess)

variable {L}

theorem createSessionFromBlob_refused {blob : AppBlob} (h : acpPloadInsJtaImage blob.bytes = none) (appId : Bytes)
    (sessionId : SessionId) (initBuffer : Bytes) (s : ψ) :
    ((createSessionFromBlob L appId blob sessionId initBuffer).exe s).2 = s ∧
      ((createSessionFromBlob L appId blob sessionId initBuffer).exe s).1.1 ≠ jhiSuccess := by
  have hnull : blob.taImage.pkg = 0 := by simp [AppBlob.taImage, AppBlob.taPack, h]
  have hnotInit : bpeNotInit ≠ bhSuccess := by decide
  have hinvalid : bpeInvalidParams ≠ bhSuccess := by decide
  by_cases hinit : L.isBhpInited s = true
  · have hopen : (bhpOpenTASession L appId blob.taImage initBuffer).exe s = ((bpeInvalidParams, 0), s) := by
      simp [bhpOpenTASession, hinit, hnull]
    rw [createSessionFromBlob, exe_bind, hopen]
    simp [hinvalid, beihaiToJhiError_eq_success]
  · have hopen : (bhpOpenTASession L appId blob.taImage initBuffer).exe s = ((bpeNotInit, 0), s) := by
      simp [bhpOpenTASession, hinit]
    rw [createSessionFromBlob, exe_bind, hopen]
    simp [hnotInit, beihaiToJhiError_eq_success]

theorem hasSuffix_of_accepted {blob : AppBlob} {off : Nat} (h : acpPloadInsJtaImage blob.bytes = some off) :
    blob.HasSuffix blob.taImage := by
  have hoff := acpPloadInsJtaImage_le h
  have hmem := blob.in_memory
  have hsize := blob.size_lt
  have hpack : blob.taPack = blob.pAppBlob + UInt64.ofNat off := by simp [AppBlob.taPack, h]
  have hpkg : blob.taPack.toNat = blob.pAppBlob.toNat + off := by
    rw [hpack, UInt64.toNat_add, UInt64.toNat_ofNat', Nat.mod_eq_of_lt (show off < 2 ^ 64 by omega)]
    exact Nat.mod_eq_of_lt (by omega)
  have hdiff : (blob.taPack - blob.pAppBlob).toUInt32.toNat = off := by
    have hsub : blob.taPack - blob.pAppBlob = UInt64.ofNat off := by
      rw [hpack, UInt64.add_comm, UInt64.add_sub_cancel]
    rw [hsub, UInt64.toNat_toUInt32, UInt64.toNat_ofNat', Nat.mod_eq_of_lt (show off < 2 ^ 64 by omega)]
    exact Nat.mod_eq_of_lt (by omega)
  have hlen : blob.taImage.len.toNat = blob.bytes.length - off := by
    have hle : (blob.taPack - blob.pAppBlob).toUInt32 ≤ UInt32.ofNat blob.bytes.length := by
      rw [UInt32.le_iff_toNat_le, hdiff, UInt32.toNat_ofNat', Nat.mod_eq_of_lt hsize]
      exact hoff
    rw [AppBlob.taImage, UInt32.toNat_sub_of_le _ _ hle, hdiff, UInt32.toNat_ofNat', Nat.mod_eq_of_lt hsize]
  have himage : blob.taImage.pkg = blob.taPack := rfl
  refine ⟨?_, ?_, ?_⟩
  · rw [himage, hpkg]
    omega
  · rw [himage, hpkg]
    omega
  · rw [himage, hpkg, hlen]
    omega

/-- The image lies in the package exactly if the parser accepts the package. -/
theorem imageInsidePackage_iff (blob : AppBlob) :
    ImageInsidePackage L blob ↔ (acpPloadInsJtaImage blob.bytes).isSome = true := by
  constructor
  · rintro ⟨⟨hle, -, -⟩, -⟩
    by_contra hnone
    rw [Bool.not_eq_true, Option.isSome_eq_false_iff, Option.isNone_iff_eq_none] at hnone
    have hnull : blob.taImage.pkg.toNat = 0 := by simp [AppBlob.taImage, AppBlob.taPack, hnone]
    have hpos := blob.pAppBlob_pos
    omega
  · intro h
    obtain ⟨off, hoff⟩ := Option.isSome_iff_exists.1 h
    exact ⟨hasSuffix_of_accepted hoff, fun hnone => createSessionFromBlob_refused hnone⟩

end

/-- A blob of one byte at an address. -/
def shortBlob : AppBlob where
  pAppBlob := 0x1000
  bytes := [0]
  size_pos := Nat.le_refl 1
  size_lt := by decide
  pAppBlob_pos := by decide
  in_memory := by decide

/-- A library that opens whatever it is asked for. -/
def openLibrary : VmLibrary PUnit where
  isBhpInited _ := true
  openTASession _ _ _ := pure (bhSuccess, 1)
  sendAndRecvInternal _ _ := pure (bhSuccess, 0)

/-- A blob too short for a package is passed on as 4097 bytes from `NULL`. -/
theorem shortBlob_image_outside :
    shortBlob.taImage = ⟨0, 4097⟩ ∧ ¬ImageInsidePackage openLibrary shortBlob := by
  refine ⟨by decide +kernel, fun h => ?_⟩
  have hle : shortBlob.pAppBlob.toNat ≤ shortBlob.taImage.pkg.toNat := h.1.1
  exact absurd hle (by decide +kernel)

end DalHost

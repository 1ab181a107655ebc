import DalHost.Service.Refinement
import DalHost.Plugin.Package

/-!
# The applet repository as a store of files

The repository is a directory. `FileSystem` says what the service relies on of the operating system
there: each operation on files does what its answer says, and nobody else writes the directory. A
file has a name for good (`<UUID>.dalp`, `<UUID>.acp`) and, while it is being installed, a pending
name; different applets and different kinds of names never meet.
-/

namespace DalHost

/-! ### Names -/

section Names

variable {folder : FileString} {a b : AppId} {x y : Bool}

theorem length_fileExt (isAcp : Bool) : (fileExt isAcp).length = if isAcp then 4 else 5 := by
  cases isAcp <;> rfl

theorem length_getFileName (folder : FileString) (a : AppId) (isAcp : Bool) :
    (getFileName folder a.text isAcp).length = folder.length + 33 + if isAcp then 4 else 5 := by
  have ha : a.text.length = 32 := a.valid.1
  have hslash : (ascii ['/']).length = 1 := rfl
  simp only [getFileName, List.length_append, length_fileExt, ha, hslash]
  omega

theorem length_getPendingFileName (folder : FileString) (a : AppId) (isAcp : Bool) :
    (getPendingFileName folder a.text isAcp).length = folder.length + 41 + if isAcp then 4 else 5 := by
  have ha : a.text.length = 32 := a.valid.1
  have hheader : pendingHeader.length = 9 := rfl
  simp only [getPendingFileName, List.length_append, length_fileExt, ha, hheader]
  omega

theorem AppId.text_injective (h : a.text = b.text) : a = b := by
  cases a
  cases b
  cases h
  rfl

theorem getFileName_inj : getFileName folder a.text x = getFileName folder b.text y ↔ a = b ∧ x = y := by
  constructor
  · intro h
    have hxy : x = y := by
      have hlen := congrArg List.length h
      rw [length_getFileName, length_getFileName] at hlen
      cases x <;> cases y <;> simp at hlen <;> rfl
    subst hxy
    have htext := List.append_cancel_right (List.append_cancel_left h)
    exact ⟨AppId.text_injective (List.append_cancel_left htext), rfl⟩
  · rintro ⟨rfl, rfl⟩
    rfl

theorem getPendingFileName_inj : getPendingFileName folder a.text x = getPendingFileName folder b.text y ↔ a = b ∧ x = y := by
  constructor
  · intro h
    have hxy : x = y := by
      have hlen := congrArg List.length h
      rw [length_getPendingFileName, length_getPendingFileName] at hlen
      cases x <;> cases y <;> simp at hlen <;> rfl
    subst hxy
    have htext := List.append_cancel_right (List.append_cancel_left h)
    exact ⟨AppId.text_injective (List.append_cancel_left htext), rfl⟩
  · rintro ⟨rfl, rfl⟩
    rfl

theorem getFileName_ne_getPendingFileName :
    getFileName folder a.text x ≠ getPendingFileName folder b.text y := by
  intro h
  have hlen := congrArg List.length h
  rw [length_getFileName, length_getPendingFileName] at hlen
  cases x <;> cases y <;> simp at hlen

end Names

/-! ### The file system -/

/-- The path of a file in the directory. -/
def InFolder (folder file : FileString) : Prop := folder ++ ascii ['/'] <+: file

theorem inFolder_getFileName (folder : FileString) (appId : Bytes) (isAcp : Bool) :
    InFolder folder (getFileName folder appId isAcp) :=
  ⟨appId ++ fileExt isAcp, by simp only [getFileName, List.append_assoc]⟩

theorem inFolder_getPendingFileName (folder : FileString) (appId : Bytes) (isAcp : Bool) :
    InFolder folder (getPendingFileName folder appId isAcp) :=
  ⟨ascii ['P', 'E', 'N', 'D', 'I', 'N', 'G', '-'] ++ appId ++ fileExt isAcp, by
    simp only [getPendingFileName, List.append_assoc]
    rfl⟩

/-- Calls to the world in the course of a command that write no file. -/
inductive Reading {φ : Type} (W : World φ) : φ → φ → Prop
  | world {e e' : φ} (h : WorldStep W False e e') : Reading W e e'
  | createSession (a : Bytes) (blob : Option Bytes) (id : SessionId) (init : Bytes) (e : φ) :
      Reading W e ((W.pluginCreateSession a blob id init).exe e).2
  | closeSession (h : VmHandle) (e : φ) : Reading W e ((W.pluginCloseSession h).exe e).2
  | forceCloseSession (h : VmHandle) (e : φ) : Reading W e ((W.pluginForceCloseSession h).exe e).2

/-- What the service relies on of the files in the repository `folder`: an operation does what its
answer says, one that fails may leave anything in the file it was to write and nothing elsewhere,
and no other call writes the directory. -/
structure FileSystem {φ : Type} (W : World φ) (folder : FileString) where
  /-- The contents of the file at a path. -/
  files : φ → FileString → Option Bytes
  reading : ∀ {e e' : φ}, Reading W e e' → ∀ f, InFolder folder f → files e' f = files e f
  exists_iff : ∀ f e, ((W.fileExists f).exe e).1 = (files e f).isSome
  exists_self : ∀ f e, files ((W.fileExists f).exe e).2 f = files e f
  copied : ∀ dst src e, InFolder folder dst → files e dst = none → (files e src).isSome →
    ((W.copyFile dst src).exe e).1 = true → files ((W.copyFile dst src).exe e).2 dst = files e src
  copy_frame : ∀ dst src e f, InFolder folder f → f ≠ dst → files ((W.copyFile dst src).exe e).2 f = files e f
  created : ∀ dst blob e, InFolder folder dst → ((W.createFileFromBuff dst blob).exe e).1 = true →
    files ((W.createFileFromBuff dst blob).exe e).2 dst = some blob
  create_frame : ∀ dst blob e f, InFolder folder f → f ≠ dst →
    files ((W.createFileFromBuff dst blob).exe e).2 f = files e f
  removed : ∀ f e, InFolder folder f →
    files ((W.removeFile f).exe e).2 f = if ((W.removeFile f).exe e).1 then none else files e f
  remove_frame : ∀ g e f, InFolder folder f → f ≠ g → files ((W.removeFile g).exe e).2 f = files e f
  renamed : ∀ f g e, InFolder folder f → InFolder folder g → f ≠ g → ((W.renameFile f g).exe e).1 = true →
    files ((W.renameFile f g).exe e).2 g = files e f ∧ files ((W.renameFile f g).exe e).2 f = none
  notRenamed : ∀ f g e h, InFolder folder h → ((W.renameFile f g).exe e).1 = false →
    files ((W.renameFile f g).exe e).2 h = files e h
  rename_frame : ∀ f g e h, InFolder folder h → h ≠ f → h ≠ g → files ((W.renameFile f g).exe e).2 h = files e h

/-- Deleting a file that exists succeeds. -/
def FileSystem.Removes {φ : Type} {W : World φ} {folder : FileString} (F : FileSystem W folder) (f : FileString) : Prop :=
  ∀ e, (F.files e f).isSome → ((W.removeFile f).exe e).1 = true

section Same

variable {φ : Type} {W : World φ} {folder : FileString} (F : FileSystem W folder)

/-- The directory is the same, but for one file. -/
structure FileSystem.SameOff (p : FileString) (s t : Service φ) : Prop where
  folder_eq : t.appletsFolder = s.appletsFolder
  files_eq : ∀ f, InFolder folder f → f ≠ p → F.files t.env f = F.files s.env f

/-- The directory is the same. -/
structure FileSystem.Same (s t : Service φ) : Prop where
  folder_eq : t.appletsFolder = s.appletsFolder
  files_eq : ∀ f, InFolder folder f → F.files t.env f = F.files s.env f

variable {F} {s t u : Service φ}

theorem FileSystem.Same.refl (s : Service φ) : F.Same s s := ⟨rfl, fun _ _ => rfl⟩

theorem FileSystem.Same.trans (hst : F.Same s t) (htu : F.Same t u) : F.Same s u :=
  ⟨htu.folder_eq.trans hst.folder_eq, fun f hf => (htu.files_eq f hf).trans (hst.files_eq f hf)⟩

theorem FileSystem.Same.off (h : F.Same s t) (p : FileString) : F.SameOff p s t :=
  ⟨h.folder_eq, fun f hf _ => h.files_eq f hf⟩

theorem FileSystem.SameOff.trans {p : FileString} (hst : F.SameOff p s t) (htu : F.SameOff p t u) : F.SameOff p s u :=
  ⟨htu.folder_eq.trans hst.folder_eq, fun f hf hne => (htu.files_eq f hf hne).trans (hst.files_eq f hf hne)⟩

theorem FileSystem.SameOff.same {p : FileString} (h : F.SameOff p s t) (hp : F.files t.env p = F.files s.env p) :
    F.Same s t := by
  refine ⟨h.folder_eq, fun f hf => ?_⟩
  by_cases hfp : f = p
  · rw [hfp, hp]
  · exact h.files_eq f hf hfp

theorem Reading.pluginClose (force : Bool) (h : VmHandle) (e : φ) : Reading W e ((pluginClose W force h).exe e).2 := by
  unfold DalHost.pluginClose
  cases force
  · exact .closeSession h e
  · exact .forceCloseSession h e

theorem closed_same_tidy (F : FileSystem W folder) (s₀ : Service φ) : Closed (TidyStep W) (F.Same s₀) := by
  intro s t hst h
  refine h.trans ⟨?_, ?_⟩
  · cases hst <;> rfl
  · cases hst with
    | processIsDead p => exact F.reading (.world (.processIsDead p s.env))
    | deadOwners => exact fun _ _ => rfl
    | closed _ force _ | closeFailed _ force _ => exact F.reading (.pluginClose force _ s.env)

theorem closed_same {ℓ : Licence} (hℓ : ¬ℓ.write) (F : FileSystem W folder) (s₀ : Service φ) :
    Closed (CareStep W ℓ) (F.Same s₀) := by
  intro s t hst h
  cases hst with
  | tidy hst => exact closed_same_tidy F s₀ s t hst h
  | env hst => exact h.trans ⟨rfl, F.reading (.world (hst.mono hℓ))⟩
  | applets | unload | uninstallPackage => exact ⟨h.folder_eq, h.files_eq⟩

theorem same_of_keeps {ℓ : Licence} (hℓ : ¬ℓ.write) {α : Type} {x : StateM (Service φ) α}
    (hx : ∀ I : Service φ → Prop, Closed (CareStep W ℓ) I → Keeps I x) (s : Service φ) : F.Same s (x.exe s).2 :=
  hx _ (closed_same hℓ F s) s (.refl s)

theorem not_write_none : ¬Licence.none.write := by
  rintro (h | ⟨_, h⟩) <;> exact h

theorem not_write_unloading : ¬Licence.unloading.write := by
  rintro (h | ⟨_, h⟩) <;> exact h

theorem not_write_loading (appId : Bytes) : ¬(Licence.loading appId).write := by
  rintro (h | ⟨_, h⟩) <;> exact h

theorem same_appletExistInRepository (appId : Bytes) (s : Service φ) :
    F.Same s ((appletExistInRepository W appId).exe s).2 :=
  same_of_keeps not_write_none (fun _ hI => keeps_appletExistInRepository hI appId) s

theorem same_getAppletBlobs (file : FileString) (isAcp : Bool) (s : Service φ) :
    F.Same s ((getAppletBlobs W file isAcp).exe s).2 :=
  same_of_keeps not_write_none (fun _ hI => keeps_getAppletBlobs hI file isAcp) s

theorem appletExistInRepository_eq_some {appId : Bytes} {s : Service φ} (hfolder : s.appletsFolder = folder)
    {found : FileString × Bool} (h : ((appletExistInRepository W appId).exe s).1 = some found) :
    found.1 = getFileName folder appId found.2 ∧ (F.files s.env found.1).isSome := by
  simp only [appletExistInRepository, exe_bind, exe_get, exe_onEnv, exe_ite, exe_pure, hfolder] at h
  rw [F.exists_iff] at h
  split_ifs at h with hdalp hacp
  · cases h
    exact ⟨rfl, hdalp⟩
  · cases h
    refine ⟨rfl, ?_⟩
    rw [F.exists_iff] at hacp
    rwa [F.reading (.world (.fileExists _ s.env)) _ (inFolder_getFileName folder appId true)] at hacp

theorem appletExistInRepository_eq_none {appId : Bytes} {s : Service φ} (hfolder : s.appletsFolder = folder)
    (h : ((appletExistInRepository W appId).exe s).1 = none) (isAcp : Bool) :
    F.files s.env (getFileName folder appId isAcp) = none := by
  simp only [appletExistInRepository, exe_bind, exe_get, exe_onEnv, exe_ite, exe_pure, hfolder] at h
  rw [F.exists_iff] at h
  split_ifs at h with hdalp hacp
  cases isAcp with
  | false => exact Option.not_isSome_iff_eq_none.1 hdalp
  | true =>
    rw [F.exists_iff] at hacp
    rw [F.reading (.world (.fileExists _ s.env)) _ (inFolder_getFileName folder appId true)] at hacp
    exact Option.not_isSome_iff_eq_none.1 hacp

end Same

/-! ### Programs that write -/

section Writing

variable {φ : Type} {W : World φ} {folder : FileString} {F : FileSystem W folder}

theorem sameOff_removeFile {p : FileString} (s : Service φ) :
    F.SameOff p s ((onEnv (W.removeFile p)).exe s).2 :=
  ⟨rfl, fun f hf hne => F.remove_frame p s.env f hf hne⟩

theorem FileSystem.Removes.removed {p : FileString} (h : F.Removes p) (hp : InFolder folder p) (e : φ) :
    F.files ((W.removeFile p).exe e).2 p = none := by
  rw [F.removed p e hp]
  split_ifs with hret
  · rfl
  · by_contra hsome
    exact hret (h e (Option.isSome_iff_ne_none.2 hsome))

theorem sameOff_dropPendingFile (p : FileString) (s : Service φ) : F.SameOff p s ((dropPendingFile W p).exe s).2 := by
  have hexists : F.Same s ((onEnv (W.fileExists p)).exe s).2 :=
    same_of_keeps not_write_none (fun _ hI => keeps_env hI (.fileExists p)) s
  simp only [dropPendingFile, exe_bind, exe_ite, exe_pure]
  split_ifs
  · exact (hexists.off p).trans (sameOff_removeFile _)
  · exact hexists.off p

theorem dropPendingFile_removes {p : FileString} (h : F.Removes p) (hp : InFolder folder p) (s : Service φ) :
    F.files ((dropPendingFile W p).exe s).2.env p = none := by
  simp only [dropPendingFile, exe_bind, exe_onEnv, exe_ite, exe_pure]
  split_ifs with hexists
  · exact h.removed hp _
  · rw [F.exists_iff] at hexists
    exact (F.exists_self p s.env).trans (Option.not_isSome_iff_eq_none.1 hexists)

theorem markPending_env (appId : Bytes) (s : Service φ) :
    ((markPending appId).exe s).2.env = s.env ∧ ((markPending appId).exe s).2.appletsFolder = s.appletsFolder := by
  simp only [markPending, exe_bind, exe_get, exe_ite]
  split_ifs <;> exact ⟨rfl, rfl⟩

theorem same_markPending (appId : Bytes) (s : Service φ) : F.Same s ((markPending appId).exe s).2 := by
  obtain ⟨henv, hfolder⟩ := markPending_env appId s
  exact ⟨hfolder, fun f _ => by rw [henv]⟩

/-- What a preparation leaves of the pending file `p`, when it is to hold `contents`: the file if it
`starts` well and succeeds, and no file if it fails and what was written can be deleted. -/
structure FileSystem.Prepared (F : FileSystem W folder) (p : FileString) (contents : Option Bytes) (s : Service φ)
    (starts succeeds : Prop) (t : Service φ) : Prop where
  off : F.SameOff p s t
  holds : starts → succeeds → F.files t.env p = contents
  dropped : ¬succeeds → F.Removes p → F.files t.env p = none

theorem prepared_dropPendingFile {p : FileString} (hp : InFolder folder p) (contents : Option Bytes) {s u : Service φ}
    (hu : F.SameOff p s u) {starts succeeds : Prop} (hfails : ¬succeeds) :
    F.Prepared p contents s starts succeeds ((dropPendingFile W p).exe u).2 :=
  ⟨hu.trans (sameOff_dropPendingFile p u), fun _ h => absurd h hfails, fun _ h => dropPendingFile_removes h hp u⟩

theorem prepareInstallFromFile_files (file : FileString) (appId : Bytes) (isAcp : Bool) {s : Service φ}
    (hfolder : s.appletsFolder = folder) :
    F.Prepared (getPendingFileName folder appId isAcp) (F.files s.env file) s
      (F.files s.env (getPendingFileName folder appId isAcp) = none ∧ (F.files s.env file).isSome)
      (∃ blobs, ((prepareInstallFromFile W file appId isAcp).exe s).1 = .ok blobs)
      ((prepareInstallFromFile W file appId isAcp).exe s).2 := by
  have hp := inFolder_getPendingFileName folder appId isAcp
  set p := getPendingFileName folder appId isAcp with hpdef
  have hcopy : F.SameOff p s ((onEnv (W.copyFile p file)).exe s).2 := ⟨rfl, F.copy_frame p file s.env⟩
  have hchmod : ∀ u : Service φ, F.Same u ((onEnv (W.chmod p)).exe u).2 :=
    same_of_keeps not_write_none (fun _ hI => keeps_env hI (.chmod p))
  have hcopied := fun hnone hfile => F.copied p file s.env hp hnone hfile
  unfold prepareInstallFromFile
  simp only [exe_bind, exe_get, exe_ite, exe_pure, hfolder, ← hpdef]
  generalize hs₁ : (onEnv (W.copyFile p file)).exe s = r₁ at hcopy ⊢
  split_ifs with hfail hperm
  · exact prepared_dropPendingFile hp _ hcopy (by simp)
  · exact prepared_dropPendingFile hp _ (hcopy.trans ((hchmod _).off p)) (by simp)
  · have hread := hcopy.trans ((hchmod r₁.2).off p)
    have hcontents : F.files s.env p = none ∧ (F.files s.env file).isSome →
        F.files ((onEnv (W.chmod p)).exe r₁.2).2.env p = F.files s.env file := by
      intro hstarts
      rw [(hchmod r₁.2).files_eq p hp, ← hs₁]
      refine hcopied hstarts.1 hstarts.2 ?_
      rw [← hs₁] at hfail
      simpa using hfail
    generalize ((onEnv (W.chmod p)).exe r₁.2).2 = u at hread hcontents ⊢
    have hsame := same_getAppletBlobs (F := F) p isAcp u
    generalize (getAppletBlobs W p isAcp).exe u = r₂ at hsame ⊢
    obtain ⟨blobs, v⟩ := r₂
    cases blobs with
    | error ret => exact prepared_dropPendingFile hp _ (hread.trans (hsame.off p)) (by simp)
    | ok blobs =>
      have hmark := hsame.trans (same_markPending appId v)
      refine ⟨hread.trans (hmark.off p), fun hstarts _ => ?_, fun hnot => absurd ⟨blobs, rfl⟩ hnot⟩
      exact (hmark.files_eq p hp).trans (hcontents hstarts)

theorem prepareInstallFromBuffer_files (blob appId : Bytes) {s : Service φ} (hfolder : s.appletsFolder = folder) :
    F.Prepared (getPendingFileName folder appId true) (some blob) s True
      (((prepareInstallFromBuffer W blob appId).exe s).1 = jhiSuccess)
      ((prepareInstallFromBuffer W blob appId).exe s).2 := by
  have hp := inFolder_getPendingFileName folder appId true
  set p := getPendingFileName folder appId true with hpdef
  have hcreate : F.SameOff p s ((onEnv (W.createFileFromBuff p blob)).exe s).2 := ⟨rfl, F.create_frame p blob s.env⟩
  have hexists : ∀ u : Service φ, F.Same u ((onEnv (W.fileExists p)).exe u).2 :=
    same_of_keeps not_write_none (fun _ hI => keeps_env hI (.fileExists p))
  have hchmod : ∀ u : Service φ, F.Same u ((onEnv (W.chmod p)).exe u).2 :=
    same_of_keeps not_write_none (fun _ hI => keeps_env hI (.chmod p))
  have hcreated := F.created p blob s.env hp
  have herror : jhiFileErrorCopy ≠ jhiSuccess := by decide
  unfold prepareInstallFromBuffer
  simp only [exe_bind, exe_get, exe_ite, exe_pure, hfolder, ← hpdef]
  generalize hs₁ : (onEnv (W.createFileFromBuff p blob)).exe s = r₁ at hcreate ⊢
  have hread := (hexists r₁.2).trans (hchmod _)
  split_ifs with hfail hmissing hperm
  · exact prepared_dropPendingFile hp _ hcreate herror
  · exact prepared_dropPendingFile hp _ (hcreate.trans ((hexists _).off p)) herror
  · exact prepared_dropPendingFile hp _ (hcreate.trans (hread.off p)) herror
  · have hmark := hread.trans (same_markPending appId _)
    refine ⟨hcreate.trans (hmark.off p), fun _ _ => ?_, fun hnot => absurd rfl hnot⟩
    rw [hmark.files_eq p hp, ← hs₁]
    refine hcreated ?_
    rw [← hs₁] at hfail
    simpa using hfail

theorem same_syncAppletToDisk (appId : Bytes) (s : Service φ) : F.Same s ((syncAppletToDisk W appId).exe s).2 := by
  refine same_of_keeps not_write_none (fun I hI => ?_) s
  refine Keeps.get.bind fun s => (keeps_env hI (.syncFile _)).bind fun _ => Keeps.ite (fun _ => Keeps.pure _) fun _ => ?_
  exact keeps_syncAppletRepoToDisk hI

/-- The repository after the pending file of the applet was given its name. -/
structure FileSystem.Renamed (F : FileSystem W folder) (appId : AppId) (isAcp : Bool) (contents : Option Bytes)
    (s t : Service φ) : Prop where
  folder_eq : t.appletsFolder = s.appletsFolder
  new : F.files t.env (getFileName folder appId.text isAcp) = contents
  other : F.files t.env (getFileName folder appId.text !isAcp) = none
  pending : F.files t.env (getPendingFileName folder appId.text isAcp) = none
  frame : ∀ f, InFolder folder f → (∀ x, f ≠ getFileName folder appId.text x) →
    f ≠ getPendingFileName folder appId.text isAcp → F.files t.env f = F.files s.env f

theorem errorRemoveApplet_env (appId : Bytes) (isAcp : Bool) {s : Service φ} (hfolder : s.appletsFolder = folder) :
    ((errorRemoveApplet W appId isAcp).exe s).2.env =
        ((W.removeFile (getPendingFileName folder appId isAcp)).exe s.env).2 ∧
      ((errorRemoveApplet W appId isAcp).exe s).2.appletsFolder = s.appletsFolder := by
  simp only [errorRemoveApplet, removeAppletRecord, exe_bind, exe_get, exe_onEnv, exe_ite, exe_modifyApplets, exe_pure,
    hfolder]
  split_ifs <;> exact ⟨rfl, rfl⟩

end Writing

/-! ### A disk -/

/-- A file for each path. -/
abbrev Disk := FileString → Option Bytes

def zeroGuid : Guid := ⟨List.replicate 16 0, rfl⟩

/-- The plain file system: what exists can be read, deleted and renamed, and everything can be
written. A package has one blob. -/
def diskWorld : World Disk :=
  { World.quiet Disk with
    fileExists := fun f disk => ((disk f).isSome, disk)
    copyFile := fun dst src disk =>
      match disk src with
      | none => (false, disk)
      | some contents => (true, fun f => if f = dst then some contents else disk f)
    createFileFromBuff := fun dst blob disk => (true, fun f => if f = dst then some blob else disk f)
    removeFile := fun g disk => ((disk g).isSome, fun f => if f = g then none else disk f)
    renameFile := fun src dst disk =>
      match disk src with
      | none => (false, disk)
      | some contents => (true, fun f => if f = dst then some contents else if f = src then none else disk f)
    readFile := fun f disk => (disk f, disk)
    readPackage := fun f disk => (some ((disk f).map fun contents => [contents]), disk)
    pluginParsePackage := fun blob => pure (parsePackage (fun _ => zeroGuid) blob) }

theorem diskWorld_reading {disk disk' : Disk} (h : Reading diskWorld disk disk') : disk' = disk := by
  cases h with
  | world h =>
    cases h with
    | copyFile hw | createFileFromBuff hw | removeFile hw | renameFile hw => exact hw.elim
    | _ => rfl
  | createSession | closeSession | forceCloseSession => rfl

theorem exe_disk_copyFile (dst src : FileString) (disk : Disk) : (diskWorld.copyFile dst src).exe disk =
    ((disk src).isSome, if (disk src).isSome then fun f => if f = dst then disk src else disk f else disk) := by
  show (match disk src with
    | none => (false, disk)
    | some contents => (true, fun f => if f = dst then some contents else disk f)) = _
  cases disk src <;> rfl

theorem exe_disk_renameFile (src dst : FileString) (disk : Disk) : (diskWorld.renameFile src dst).exe disk =
    ((disk src).isSome,
      if (disk src).isSome then fun f => if f = dst then disk src else if f = src then none else disk f else disk) := by
  show (match disk src with
    | none => (false, disk)
    | some contents => (true, fun f => if f = dst then some contents else if f = src then none else disk f)) = _
  cases disk src <;> rfl

def diskFileSystem (folder : FileString) : FileSystem diskWorld folder where
  files disk f := disk f
  reading h f _ := congrFun (diskWorld_reading h) f
  exists_iff _ _ := rfl
  exists_self _ _ := rfl
  copied dst src disk _ _ hsome _ := by
    rw [exe_disk_copyFile]
    simp [hsome]
  copy_frame dst src disk f _ hne := by
    rw [exe_disk_copyFile]
    dsimp only
    split_ifs
    · simp [hne]
    · rfl
  created dst blob disk _ _ := if_pos rfl
  create_frame dst blob disk f _ hne := if_neg hne
  removed f disk _ := by
    show (if f = f then none else disk f) = if (disk f).isSome = true then none else disk f
    cases disk f <;> simp
  remove_frame g disk f _ hne := if_neg hne
  renamed f g disk _ _ hne hret := by
    rw [exe_disk_renameFile] at hret ⊢
    dsimp only at hret
    simp [hret, hne]
  notRenamed f g disk h _ hret := by
    rw [exe_disk_renameFile] at hret ⊢
    dsimp only at hret
    simp [hret]
  rename_frame f g disk h _ hf hg := by
    rw [exe_disk_renameFile]
    dsimp only
    split_ifs
    · simp [hf, hg]
    · rfl

/-- The directory of the repository in the examples. -/
def exampleFolder : FileString := ascii ['r']

/-- A service with an empty repository; the one file is a package. -/
def startedDisk (vmType : VmType) : Service Disk where
  sessionList := OrdMap.empty
  sharedSessionLRUCounter := 0
  appletTable := OrdMap.empty
  vmType := vmType
  pluginRegistered := true
  appletsFolder := exampleFolder
  env f := if f = exampleFile then some [1] else none
  log := []

end DalHost

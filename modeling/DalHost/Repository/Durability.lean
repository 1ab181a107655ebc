import DalHost.Sessions.UnloadGuard

/-!
# What an acknowledged install has flushed

`completeInstall` gives the pending file its name and then flushes a file of the applet and the
repository directory, in this order, before the caller is told of the success. The flush takes the
file name with the default extension, so after the install of an `.acp` package it is the `.dalp`
file, deleted a moment earlier, that is asked for.
-/

namespace DalHost

/-! ### The journal of the file system -/

/-- A change of a name and a flush, with the answer of the call. -/
inductive FileOp
  | rename (src dst : FileString) (ok : Bool)
  | sync (path : FileString) (ok : Bool)
  deriving DecidableEq

/-- `journal` is the list of renames and flushes that the world was asked for, in order. -/
structure Journals {φ : Type} (W : World φ) (journal : φ → List FileOp) : Prop where
  remove : ∀ file e, journal ((W.removeFile file).exe e).2 = journal e
  rename : ∀ src dst e, journal ((W.renameFile src dst).exe e).2 =
    journal e ++ [.rename src dst ((W.renameFile src dst).exe e).1]
  sync : ∀ path e, journal ((W.syncFile path).exe e).2 = journal e ++ [.sync path ((W.syncFile path).exe e).1]

/-- The file was flushed and the directory after it, or one of the two flushes reported an error. -/
def Flushed (file folder : FileString) (ops : List FileOp) : Prop :=
  [.sync file true, .sync folder true].Sublist ops ∨ .sync file false ∈ ops ∨ .sync folder false ∈ ops

section Durable

variable {φ : Type} (W : World φ) (journal : φ → List FileOp)

/-- An install that is acknowledged has renamed the pending file and flushed the result. -/
def DurableInstall (appletId : Bytes) (isAcp : Bool) (s : Service φ) : Prop :=
  ((completeInstall W appletId isAcp).exe s).1 = true → ∃ ops,
    journal ((completeInstall W appletId isAcp).exe s).2.env = journal s.env ++
      .rename (getPendingFileName s.appletsFolder appletId isAcp) (getFileName s.appletsFolder appletId isAcp) true :: ops ∧
    Flushed (getFileName s.appletsFolder appletId isAcp) s.appletsFolder ops

/-- The world once the old files are deleted and the pending file has its name. -/
def renamedEnv (appletId : Bytes) (isAcp : Bool) (s : Service φ) : φ :=
  ((do
    let _ ← W.removeFile (getFileName s.appletsFolder appletId isAcp)
    let _ ← W.removeFile (getFileName s.appletsFolder appletId !isAcp)
    W.renameFile (getPendingFileName s.appletsFolder appletId isAcp) (getFileName s.appletsFolder appletId isAcp)).exe
      s.env).2

/-- The `.dalp` file of the applet can be flushed all the same, and then the directory cannot. -/
def OnlyFolderFails (appletId : Bytes) (isAcp : Bool) (s : Service φ) : Prop :=
  ((W.syncFile (getFileName s.appletsFolder appletId false)).exe (renamedEnv W appletId isAcp s)).1 = true ∧
    ((W.syncFile s.appletsFolder).exe
      ((W.syncFile (getFileName s.appletsFolder appletId false)).exe (renamedEnv W appletId isAcp s)).2).1 = false

variable {W journal}
variable {appletId : Bytes} {isAcp : Bool} {s : Service φ}

/-! ### What the journal says of `completeInstall` -/

/-- The flushes of `syncAppletToDisk`: the directory is left out when the file fails. -/
def flushOps (file folder : FileString) (fileOk folderOk : Bool) : List FileOp :=
  if fileOk then [.sync file true, .sync folder folderOk] else [.sync file false]

theorem journal_syncAppletToDisk (hj : Journals W journal) (appletId : Bytes) (s : Service φ) :
    journal ((syncAppletToDisk W appletId).exe s).2.env = journal s.env ++
      flushOps (getFileName s.appletsFolder appletId false) s.appletsFolder
        ((W.syncFile (getFileName s.appletsFolder appletId false)).exe s.env).1
        ((W.syncFile s.appletsFolder).exe ((W.syncFile (getFileName s.appletsFolder appletId false)).exe s.env).2).1 := by
  cases hok : ((W.syncFile (getFileName s.appletsFolder appletId false)).exe s.env).1 with
  | false => simp [syncAppletToDisk, flushOps, hok, hj.sync]
  | true => simp [syncAppletToDisk, syncAppletRepoToDisk, flushOps, hok, hj.sync]

theorem journal_renamedEnv (hj : Journals W journal) (hren : Renames W appletId isAcp s) :
    journal (renamedEnv W appletId isAcp s) = journal s.env ++
      [.rename (getPendingFileName s.appletsFolder appletId isAcp) (getFileName s.appletsFolder appletId isAcp) true] := by
  simp only [Renames, exe_bind] at hren
  simp [renamedEnv, hj.rename, hj.remove, hren]

theorem completeInstall_eq_true :
    ((completeInstall W appletId isAcp).exe s).1 = true ↔ Renames W appletId isAcp s := by
  simp only [completeInstall, Renames, exe_bind, exe_get, exe_onEnv]
  split_ifs with h <;> simp_all

theorem journal_completeInstall (hj : Journals W journal) (hren : Renames W appletId isAcp s) :
    journal ((completeInstall W appletId isAcp).exe s).2.env = journal s.env ++
      .rename (getPendingFileName s.appletsFolder appletId isAcp) (getFileName s.appletsFolder appletId isAcp) true ::
        flushOps (getFileName s.appletsFolder appletId false) s.appletsFolder
          ((W.syncFile (getFileName s.appletsFolder appletId false)).exe (renamedEnv W appletId isAcp s)).1
          ((W.syncFile s.appletsFolder).exe
            ((W.syncFile (getFileName s.appletsFolder appletId false)).exe (renamedEnv W appletId isAcp s)).2).1 := by
  have hsync := journal_syncAppletToDisk hj appletId { s with env := renamedEnv W appletId isAcp s }
  rw [journal_renamedEnv hj hren, List.append_assoc] at hsync
  rw [List.singleton_append] at hsync
  rw [← hsync]
  simp only [Renames, exe_bind] at hren
  simp [completeInstall, renamedEnv, hren]

/-! ### Which installs are durable -/

theorem getFileName_ne_folder (folder : FileString) (appletId : Bytes) (isAcp : Bool) :
    getFileName folder appletId isAcp ≠ folder := by
  intro h
  have hlen := congrArg List.length h
  have hslash : (ascii ['/']).length = 1 := rfl
  simp only [getFileName, List.length_append, hslash] at hlen
  omega

theorem getFileName_acp_ne_dalp (folder : FileString) (appletId : Bytes) :
    getFileName folder appletId true ≠ getFileName folder appletId false := by
  intro h
  have hlen := congrArg List.length h
  have hacp : (fileExt true).length = 4 := rfl
  have hdalp : (fileExt false).length = 5 := rfl
  simp only [getFileName, List.length_append, hacp, hdalp] at hlen
  omega

theorem flushed_same (file folder : FileString) (fileOk folderOk : Bool) :
    Flushed file folder (flushOps file folder fileOk folderOk) := by
  cases fileOk with
  | false => exact .inr (.inl (by simp [flushOps]))
  | true =>
    cases folderOk with
    | false => exact .inr (.inr (by simp [flushOps]))
    | true => exact .inl (by simp [flushOps])

/-- About another file they say nothing, except when the directory fails. -/
theorem flushed_other {file other folder : FileString} (hfile : file ≠ other) (hfolder : file ≠ folder) (hother : other ≠ folder)
    (otherOk folderOk : Bool) :
    Flushed file folder (flushOps other folder otherOk folderOk) ↔ otherOk = true ∧ folderOk = false := by
  cases otherOk <;> cases folderOk <;>
    simp [Flushed, flushOps, hfile, hfolder, hother.symm, List.sublist_cons_iff]

/-- An install is durable when acknowledged exactly if it is not acknowledged, the package is a
`.dalp`, or the only flush that fails is the one of the directory. -/
theorem durableInstall_iff (hj : Journals W journal) :
    DurableInstall W journal appletId isAcp s ↔
      isAcp = false ∨ ¬Renames W appletId isAcp s ∨ OnlyFolderFails W appletId isAcp s := by
  by_cases hren : Renames W appletId isAcp s
  · have hops : DurableInstall W journal appletId isAcp s ↔
        Flushed (getFileName s.appletsFolder appletId isAcp) s.appletsFolder
          (flushOps (getFileName s.appletsFolder appletId false) s.appletsFolder
            ((W.syncFile (getFileName s.appletsFolder appletId false)).exe (renamedEnv W appletId isAcp s)).1
            ((W.syncFile s.appletsFolder).exe
              ((W.syncFile (getFileName s.appletsFolder appletId false)).exe (renamedEnv W appletId isAcp s)).2).1) := by
      rw [DurableInstall, completeInstall_eq_true, journal_completeInstall hj hren]
      constructor
      · intro h
        obtain ⟨ops, heq, hflushed⟩ := h hren
        obtain rfl := (List.cons.inj (List.append_cancel_left heq)).2
        exact hflushed
      · intro h _
        exact ⟨_, rfl, h⟩
    rw [hops]
    cases isAcp with
    | false => exact ⟨fun _ => .inl rfl, fun _ => flushed_same _ _ _ _⟩
    | true =>
      rw [flushed_other (getFileName_acp_ne_dalp _ _) (getFileName_ne_folder _ _ _) (getFileName_ne_folder _ _ _)]
      simp [hren, OnlyFolderFails]
  · refine ⟨fun _ => .inr (.inl hren), fun _ hok => ?_⟩
    exact absurd (completeInstall_eq_true.1 hok) hren

end Durable

/-! ### An install that is not durable -/

/-- A world that keeps its journal, in which every operation succeeds but a flush of `missing`. -/
def flushWorld (missing : FileString) : World (List FileOp) :=
  { World.quiet (List FileOp) with
    renameFile := fun src dst ops => (true, ops ++ [.rename src dst true])
    syncFile := fun path ops => (path ≠ missing, ops ++ [.sync path (path ≠ missing)]) }

theorem flushWorld_journals (missing : FileString) : Journals (flushWorld missing) id :=
  ⟨fun _ _ => rfl, fun _ _ _ => rfl, fun _ _ => rfl⟩

/-- A service with empty tables and the repository `r`. -/
def flushService : Service (List FileOp) where
  sessionList := .empty
  sharedSessionLRUCounter := 0
  appletTable := .empty
  vmType := .beihaiV2
  pluginRegistered := true
  appletsFolder := ascii ['r']
  env := []
  log := []

/-- The `.acp` file gets its name, the flush goes to the `.dalp` file that is not there, and the
install is acknowledged. -/
theorem acp_install_not_flushed :
    ¬DurableInstall (flushWorld (getFileName (ascii ['r']) exampleApplet.text false)) id exampleApplet.text true flushService := by
  intro h
  obtain ⟨ops, heq, hflushed⟩ := h (by decide +kernel)
  have hops : ops = [.sync (getFileName (ascii ['r']) exampleApplet.text false) false] := by
    have hjournal : (((completeInstall (flushWorld (getFileName (ascii ['r']) exampleApplet.text false))
        exampleApplet.text true).exe flushService).2.env) =
        [.rename (getPendingFileName (ascii ['r']) exampleApplet.text true) (getFileName (ascii ['r']) exampleApplet.text true) true,
          .sync (getFileName (ascii ['r']) exampleApplet.text false) false] := by decide +kernel
    rw [id, hjournal] at heq
    exact ((List.cons.inj heq).2).symm
  subst hops
  revert hflushed
  simp only [Flushed]
  decide +kernel

/-- With a `.dalp` package the file that was renamed is flushed. -/
theorem durableInstall_dalp :
    DurableInstall (flushWorld (getFileName (ascii ['r']) exampleApplet.text true)) id exampleApplet.text false flushService :=
  (durableInstall_iff (flushWorld_journals _)).2 (.inl rfl)

end DalHost

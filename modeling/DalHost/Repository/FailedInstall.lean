import DalHost.Repository.Uninstall
import DalHost.Service.AppletStates

/-!
# Installs that fail

`jhis_install` and `cmd_pkg_install_jta` are one procedure with different parts: tests, the
preparation of a pending file, a load, an eviction and a second load when the VM is full, and the end
that gives the file its name. `Installer` has the parts and `Installer.run` the procedure; what a
failure leaves behind is said of the procedure and used for both.
-/

namespace DalHost

variable {φ : Type}

/-! ### The applets in the VM -/

/-- Calls in the course of an install that load no applet and unload none. -/
inductive Calm (W : World φ) : φ → φ → Prop
  | processIsDead (p : ProcessInfo) (e : φ) : Calm W e ((W.processIsDead p).exe e).2
  | pluginClose (force : Bool) (h : VmHandle) (e : φ) : Calm W e ((pluginClose W force h).exe e).2
  | fileExists (f : FileString) (e : φ) : Calm W e ((W.fileExists f).exe e).2
  | copyFile (d f : FileString) (e : φ) : Calm W e ((W.copyFile d f).exe e).2
  | createFileFromBuff (f : FileString) (b : Bytes) (e : φ) : Calm W e ((W.createFileFromBuff f b).exe e).2
  | chmod (f : FileString) (e : φ) : Calm W e ((W.chmod f).exe e).2
  | removeFile (f : FileString) (e : φ) : Calm W e ((W.removeFile f).exe e).2
  | renameFile (f g : FileString) (e : φ) : Calm W e ((W.renameFile f g).exe e).2
  | syncFile (f : FileString) (e : φ) : Calm W e ((W.syncFile f).exe e).2
  | readFile (f : FileString) (e : φ) : Calm W e ((W.readFile f).exe e).2
  | readPackage (f : FileString) (e : φ) : Calm W e ((W.readPackage f).exe e).2

/-- The plugin finds that the package installs the applet. -/
def InstallPackage (W : World φ) (appId blob : Bytes) : Prop :=
  ∃ e info, ((W.pluginParsePackage blob).exe e).1 = .ok info ∧ info.packageType = .installJTA ∧
    toUpperCase info.uuid = appId

/-- What the service relies on of the VM: a load that succeeds puts the applet into the VM and one that
fails changes nothing, an unload takes out the applet it names, and no other call does either. -/
structure VmApplets (W : World φ) where
  /-- The applet is in the VM. -/
  loaded : φ → Bytes → Prop
  calm : ∀ {e e' : φ}, Calm W e e' → ∀ a, loaded e' a ↔ loaded e a
  download : ∀ a blob e b, loaded ((W.pluginDownloadApplet a blob).exe e).2 b ↔
    loaded e b ∨ b = a ∧ ((W.pluginDownloadApplet a blob).exe e).1 = jhiSuccess
  unload : ∀ a e b, loaded ((W.pluginUnloadApplet a).exe e).2 b ↔
    loaded e b ∧ ¬(b = a ∧ ((W.pluginUnloadApplet a).exe e).1 = jhiSuccess)
  install : ∀ h a blob e b, InstallPackage W a blob → (loaded ((W.pluginSendCmdPkg h blob).exe e).2 b ↔
    loaded e b ∨ b = a ∧ ((W.pluginSendCmdPkg h blob).exe e).1 = jhiSuccess)

/-! ### The procedure -/

/-- The parts of an install whose preparation yields a `β`. -/
structure Installer (φ β : Type) where
  appId : AppId
  isAcp : Bool
  /-- The tests: the error that ends the install, if there is one. -/
  check : StateM (Service φ) (Option JhiRet)
  prepare : StateM (Service φ) (Except JhiRet β)
  load : β → StateM (Service φ) JhiRet
  /-- The second load, after an eviction. -/
  reload : β → JhiRet → StateM (Service φ) JhiRet
  /-- The first load took an identical applet out of the VM, and the VM did not take it back. -/
  refused : β → φ → Prop

section Procedure

variable {β : Type} (W : World φ)

/-- Both loads. -/
def Installer.loads (i : Installer φ β) (b : β) : StateM (Service φ) JhiRet := do
  let ret ← i.load b
  evictAndRetry W ret (i.reload b ret)

def Installer.run (i : Installer φ β) : StateM (Service φ) JhiRet := do
  match ← i.check with
  | some ret => return ret
  | none =>
    match ← i.prepare with
    | .error ret => return ret
    | .ok b => finishInstall W i.appId.text true i.isAcp (← i.loads W b)

/-- The install gets as far as the loads: it prepared `b` and is in the state `u`. -/
def Installer.Reaches (i : Installer φ β) (s : Service φ) (b : β) (u : Service φ) : Prop :=
  (i.check.exe s).1 = none ∧ i.prepare.exe (i.check.exe s).2 = (.ok b, u)

/-- The VM gave up the applet for an identical package and did not take it back. -/
def RestoreRefused (appId : Bytes) : List Bytes → φ → Prop
  | [], _ => False
  | blob :: blobs, e =>
    if ((W.pluginDownloadApplet appId blob).exe e).1 = jhiFileIdentical then
      ((W.pluginUnloadApplet appId).exe ((W.pluginDownloadApplet appId blob).exe e).2).1 = jhiSuccess ∧
        ((W.pluginDownloadApplet appId blob).exe
          ((W.pluginUnloadApplet appId).exe ((W.pluginDownloadApplet appId blob).exe e).2).2).1 ≠ jhiSuccess
    else if ((W.pluginDownloadApplet appId blob).exe e).1 = jhiMaxInstalledAppletsReached ∨
        ((W.pluginDownloadApplet appId blob).exe e).1 = jhiSuccess then False
    else RestoreRefused appId blobs ((W.pluginDownloadApplet appId blob).exe e).2

/-- `jhis_install` of a visible applet. -/
def fileInstaller (appId : AppId) (file : FileString) (isAcp : Bool) : Installer φ (List Bytes) where
  appId := appId
  isAcp := isAcp
  check := do
    clearForApplet W appId.text
    if !(← get).pluginRegistered then return some jhiNoConnectionToFirmware
    else if !(← onEnv (W.fileExists file)) then return some jhiFileNotFound
    else if !compareFileExtension file (fileExt isAcp) then return some jhiInvalidFileExtension
    else return none
  prepare := prepareInstallFromFile W file appId.text isAcp
  load := downloadBlobs W appId.text jhiSuccess
  reload blobs ret := downloadAgain W appId.text ret blobs
  refused := RestoreRefused W appId.text

/-- `cmd_pkg_install_jta`. -/
def packageInstaller (appId : AppId) (handle : VmHandle) (blob : Bytes) : Installer φ PUnit where
  appId := appId
  isAcp := true
  check := do
    clearForApplet W appId.text
    if !(← get).pluginRegistered then return some jhiNoConnectionToFirmware
    else return none
  prepare := do
    let prepared ← prepareInstallFromBuffer W blob appId.text
    if prepared ≠ jhiSuccess then return .error prepared
    else return .ok ⟨⟩
  load _ := sendInstallPkg W appId.text handle blob
  reload _ _ := onEnv (W.pluginSendCmdPkg handle blob)
  refused _ e := ((W.pluginSendCmdPkg handle blob).exe e).1 = teeStatusIdenticalPackage ∧
    ((W.pluginUnloadApplet appId.text).exe ((W.pluginSendCmdPkg handle blob).exe e).2).1 = jhiSuccess ∧
    ((W.pluginSendCmdPkg handle blob).exe
      ((W.pluginUnloadApplet appId.text).exe ((W.pluginSendCmdPkg handle blob).exe e).2).2).1 ≠ jhiSuccess

variable {W}

theorem exe_run_of_check {i : Installer φ β} {s : Service φ} {ret : JhiRet} (h : (i.check.exe s).1 = some ret) :
    (i.run W).exe s = (ret, (i.check.exe s).2) := by
  simp only [Installer.run, exe_bind, h, exe_pure]

theorem exe_run_of_prepare {i : Installer φ β} {s u : Service φ} {ret : JhiRet} (h : (i.check.exe s).1 = none)
    (hprepare : i.prepare.exe (i.check.exe s).2 = (.error ret, u)) : (i.run W).exe s = (ret, u) := by
  simp only [Installer.run, exe_bind, h, hprepare, exe_pure]

theorem Installer.Reaches.exe_run {i : Installer φ β} {s u : Service φ} {b : β} (h : i.Reaches s b u) :
    (i.run W).exe s = (finishInstall W i.appId.text true i.isAcp ((i.loads W b).exe u).1).exe ((i.loads W b).exe u).2 := by
  simp only [Installer.run, exe_bind, h.1, h.2]

theorem Installer.cases (i : Installer φ β) (s : Service φ) :
    (∃ ret, (i.check.exe s).1 = some ret) ∨
      (∃ ret u, (i.check.exe s).1 = none ∧ i.prepare.exe (i.check.exe s).2 = (.error ret, u)) ∨ ∃ b u, i.Reaches s b u := by
  cases hcheck : (i.check.exe s).1 with
  | some ret => exact .inl ⟨ret, rfl⟩
  | none =>
    right
    cases hprepare : i.prepare.exe (i.check.exe s).2 with
    | mk result u =>
      cases result with
      | error ret => exact .inl ⟨ret, u, rfl, rfl⟩
      | ok b => exact .inr ⟨b, u, hcheck, hprepare⟩

variable (W)

theorem exe_fileInstaller_check (appId : AppId) (file : FileString) (isAcp : Bool) (s : Service φ) :
    (fileInstaller W appId file isAcp).check.exe s =
      if (!((clearForApplet W appId.text).exe s).2.pluginRegistered) = true then
        (some jhiNoConnectionToFirmware, ((clearForApplet W appId.text).exe s).2)
      else
        (if (!((onEnv (W.fileExists file)).exe ((clearForApplet W appId.text).exe s).2).1) = true then some jhiFileNotFound
          else if (!compareFileExtension file (fileExt isAcp)) = true then some jhiInvalidFileExtension else none,
          ((onEnv (W.fileExists file)).exe ((clearForApplet W appId.text).exe s).2).2) := by
  simp only [fileInstaller, exe_bind, exe_get, exe_ite, exe_pure]
  split_ifs <;> rfl

theorem exe_packageInstaller_check (appId : AppId) (handle : VmHandle) (blob : Bytes) (s : Service φ) :
    (packageInstaller W appId handle blob).check.exe s =
      (if (!((clearForApplet W appId.text).exe s).2.pluginRegistered) = true then some jhiNoConnectionToFirmware else none,
        ((clearForApplet W appId.text).exe s).2) := by
  simp only [packageInstaller, exe_bind, exe_get, exe_ite, exe_pure]
  split_ifs <;> rfl

theorem exe_packageInstaller_prepare (appId : AppId) (handle : VmHandle) (blob : Bytes) (s : Service φ) :
    (packageInstaller W appId handle blob).prepare.exe s =
      (if ((prepareInstallFromBuffer W blob appId.text).exe s).1 ≠ jhiSuccess then
          .error ((prepareInstallFromBuffer W blob appId.text).exe s).1
        else .ok ⟨⟩, ((prepareInstallFromBuffer W blob appId.text).exe s).2) := by
  simp only [packageInstaller, exe_bind, exe_ite, exe_pure]
  split_ifs <;> rfl

theorem jhisInstall_eq_run (appId : AppId) (file : FileString) (isAcp : Bool) (s : Service φ) :
    (jhisInstall W appId.text file true isAcp).exe s = ((fileInstaller W appId file isAcp).run W).exe s := by
  have hcheck := exe_fileInstaller_check W appId file isAcp s
  have hprepare : (fileInstaller W appId file isAcp).prepare = prepareInstallFromFile W file appId.text isAcp := rfl
  have hloads : (fileInstaller W appId file isAcp).loads W = downloadWithEviction W appId.text := rfl
  have hend : finishInstall W (fileInstaller W appId file isAcp).appId.text true (fileInstaller W appId file isAcp).isAcp =
    finishInstall W appId.text true isAcp := rfl
  simp only [jhisInstall, installCleared, installBlobs, Installer.run, exe_bind, exe_get, exe_ite, if_true, hcheck,
    hprepare, hloads, hend]
  split_ifs
  · rfl
  · rfl
  · rfl
  · simp only [exe_bind]
    generalize (prepareInstallFromFile W file appId.text isAcp).exe _ = r
    obtain ⟨blobs, u⟩ := r
    cases blobs with
    | error ret => rfl
    | ok blobs => rfl

theorem cmdPkgInstallJta_eq_run (appId : AppId) (handle : VmHandle) (blob : Bytes) (s : Service φ) :
    (cmdPkgInstallJta W appId.text handle blob).exe s = ((packageInstaller W appId handle blob).run W).exe s := by
  have hcheck := exe_packageInstaller_check W appId handle blob s
  have hprepare := exe_packageInstaller_prepare W appId handle blob
  have hloads : (packageInstaller W appId handle blob).loads W = fun _ => sendWithEviction W appId.text handle blob := rfl
  have hend : finishInstall W (packageInstaller W appId handle blob).appId.text true
    (packageInstaller W appId handle blob).isAcp = finishInstall W appId.text true true := rfl
  simp only [cmdPkgInstallJta, cmdPkgInstallCleared, Installer.run, exe_bind, exe_get, exe_ite, hcheck, hloads, hend]
  split_ifs with hreg hret
  · rfl
  · simp only [exe_bind, hprepare, if_pos hret]
  · simp only [exe_bind, hprepare, if_neg hret]

end Procedure

/-! ### What a failure is to leave -/

/-- The status of the record of an applet, if it has one. -/
def recordStatus (a : AppletTable) (appId : Bytes) : Option AppletStatus := (a.find? appId).map AppletRecord.status

section Unchanged

variable {β : Type} {W : World φ} {folder : FileString}

/-- What was installed is as before: the record, the files and, unless the VM `refused` to take it back,
the applet in the VM. -/
structure Unchanged (F : FileSystem W folder) (V : VmApplets W) (appId : AppId) (refused : Prop) (s t : Service φ) :
    Prop where
  record : recordStatus t.appletTable appId.text = recordStatus s.appletTable appId.text
  files : ∀ isAcp, F.files t.env (getFileName folder appId.text isAcp) = F.files s.env (getFileName folder appId.text isAcp)
  noPending : ∀ isAcp, F.files t.env (getPendingFileName folder appId.text isAcp) = none
  loaded : V.loaded s.env appId.text → V.loaded t.env appId.text ∨ refused

/-- The eviction of an install that finds the VM full takes the applet that is being installed. -/
def EvictsSelf (W : World φ) (appId : Bytes) (ret : JhiRet) (s : Service φ) : Prop :=
  (s.vmType = .beihaiV1 ∧ ret = jhiMaxInstalledAppletsReached) ∧ (recordStatus s.appletTable appId).isSome ∧
    recordStatus ((tryUnloadUnusedApplet W).exe s).2.appletTable appId = none

/-- The VM has the applet, but the pending file cannot be given its name. -/
def RenameFails (W : World φ) (i : Installer φ β) (b : β) (u : Service φ) : Prop :=
  ((i.loads W b).exe u).1 = jhiSuccess ∧
    ((completeInstall W i.appId.text i.isAcp).exe ((i.loads W b).exe u).2).1 = false

/-- A renaming that fails does no harm to what was installed in the state `s`: the applet had no file or
the file could not be deleted, and the applet was not in the VM or could not be unloaded. -/
structure RenameHarmless (F : FileSystem W folder) (V : VmApplets W) (i : Installer φ β) (s : Service φ) (b : β)
    (u : Service φ) : Prop where
  file : F.files s.env (getFileName folder i.appId.text i.isAcp) = none ∨
    ((W.removeFile (getFileName folder i.appId.text i.isAcp)).exe ((i.loads W b).exe u).2.env).1 = false
  otherFile : F.files s.env (getFileName folder i.appId.text !i.isAcp) = none ∨
    ((W.removeFile (getFileName folder i.appId.text !i.isAcp)).exe
      ((W.removeFile (getFileName folder i.appId.text i.isAcp)).exe ((i.loads W b).exe u).2.env).2).1 = false
  loaded : V.loaded s.env i.appId.text →
    ((W.pluginUnloadApplet i.appId.text).exe
      ((completeInstall W i.appId.text i.isAcp).exe ((i.loads W b).exe u).2).2.env).1 ≠ jhiSuccess ∨ i.refused b u.env

/-- Nothing happens in the course of an install that would harm what was installed: no pending file and
no pending record was left over, the applet is not evicted for its own sake, and a renaming that
fails finds nothing to destroy. -/
structure Harmless (F : FileSystem W folder) (V : VmApplets W) (i : Installer φ β) (s : Service φ) : Prop where
  noStale : ∀ ret, (i.check.exe s).1 = some ret → F.files s.env (getPendingFileName folder i.appId.text i.isAcp) = none
  noOther : F.files s.env (getPendingFileName folder i.appId.text !i.isAcp) = none
  notPending : ∀ b u, i.Reaches s b u → recordStatus s.appletTable i.appId.text ≠ some .pendingInstall
  notEvicted : ∀ b u, i.Reaches s b u → ¬EvictsSelf W i.appId.text ((i.load b).exe u).1 ((i.load b).exe u).2
  renamed : ∀ b u, i.Reaches s b u → RenameFails W i b u → RenameHarmless F V i s b u

end Unchanged

/-! ### Records and loads, one operation at a time -/

section Parts

variable {W : World φ} {a : AppletTable} {appId other : Bytes}

theorem recordStatus_erase (a : AppletTable) (appId other : Bytes) :
    recordStatus (a.erase appId) other = if other = appId then none else recordStatus a other := by
  unfold recordStatus
  rw [OrdMap.find?_erase]
  split_ifs <;> rfl

theorem getAppletState_eq_status (a : AppletTable) (appId : Bytes) :
    getAppletState a appId = (recordStatus a appId).getD .notInstalled := by
  unfold getAppletState recordStatus
  cases a.find? appId <;> rfl

theorem recordStatus_markPending (appId : Bytes) (s : Service φ) :
    recordStatus ((markPending appId).exe s).2.appletTable appId =
      some ((recordStatus s.appletTable appId).getD .pendingInstall) := by
  simp only [markPending, exe_bind, exe_get, exe_ite, getAppletState_eq_status]
  split_ifs with hstate
  · simp only [exe_modifyApplets, recordStatus, OrdMap.find?_insert, if_true]
    cases s.appletTable.find? appId <;> rfl
  · cases hstatus : recordStatus s.appletTable appId with
    | none =>
      rw [hstatus] at hstate
      exact absurd rfl hstate
    | some status => exact hstatus

theorem recordStatus_errorRemoveApplet (appId : Bytes) (isAcp : Bool) (s : Service φ) :
    recordStatus ((errorRemoveApplet W appId isAcp).exe s).2.appletTable appId =
      if recordStatus s.appletTable appId = some .pendingInstall then none else recordStatus s.appletTable appId := by
  have hpending : getAppletState s.appletTable appId = .pendingInstall ↔
      recordStatus s.appletTable appId = some .pendingInstall := by
    rw [getAppletState_eq_status]
    cases recordStatus s.appletTable appId <;> simp
  simp only [errorRemoveApplet, exe_bind, exe_get, exe_onEnv, exe_ite, hpending]
  split_ifs
  · simp only [removeAppletRecord, exe_bind, exe_get, exe_modifyApplets, exe_pure, recordStatus_erase, if_true]
  · rfl

variable (V : VmApplets W)

theorem loaded_clearForApplet (a appId : Bytes) (s : Service φ) :
    V.loaded ((clearForApplet W a).exe s).2.env appId ↔ V.loaded s.env appId := by
  have hclosed : Closed (TidyStep W) fun t => V.loaded t.env appId ↔ V.loaded s.env appId := by
    intro u t hst h
    cases hst with
    | processIsDead p => exact (V.calm (.processIsDead p u.env) appId).trans h
    | deadOwners => exact h
    | closed _ force | closeFailed _ force => exact (V.calm (.pluginClose force _ u.env) appId).trans h
  exact keeps_clearForApplet hclosed a s Iff.rfl

/-- What an unload can do to another applet, and to its own: the applet stays in the VM or its record goes. -/
theorem jhisUnload_loaded (a appId : Bytes) (s : Service φ) :
    (recordStatus ((jhisUnload W a none).exe s).2.appletTable appId = recordStatus s.appletTable appId ∧
        (V.loaded s.env appId → V.loaded ((jhisUnload W a none).exe s).2.env appId)) ∨
      (appId = a ∧ recordStatus ((jhisUnload W a none).exe s).2.appletTable appId = none) := by
  have hclear := loaded_clearForApplet V a appId s
  obtain ⟨happlets, -⟩ := clearForApplet_applets W a s
  simp only [jhisUnload, exe_bind, exe_get, exe_ite, exe_pure]
  split_ifs
  · exact .inl ⟨rfl, id⟩
  · exact .inl ⟨by rw [happlets], hclear.2⟩
  · exact .inl ⟨by rw [happlets], hclear.2⟩
  · generalize ((clearForApplet W a).exe s).2 = u at hclear happlets ⊢
    obtain ⟨log, heq⟩ := exe_unloadFromVm (W := W) a none u
    have hunload := V.unload a u.env appId
    change V.loaded ((askVm W a none).exe u.env).2 appId ↔
      V.loaded u.env appId ∧ ¬(appId = a ∧ ((askVm W a none).exe u.env).1 = jhiSuccess) at hunload
    rw [heq]
    by_cases hret : ((askVm W a none).exe u.env).1 = jhiSuccess
    · rw [if_pos hret]
      by_cases happ : appId = a
      · right
        refine ⟨happ, ?_⟩
        show recordStatus (u.appletTable.erase a) appId = none
        rw [recordStatus_erase, if_pos happ]
      · left
        refine ⟨?_, fun hloaded => hunload.2 ⟨hclear.2 hloaded, fun h => happ h.1⟩⟩
        show recordStatus (u.appletTable.erase a) appId = _
        rw [recordStatus_erase, if_neg happ, happlets]
    · rw [if_neg hret]
      exact .inl ⟨by rw [← happlets], fun hloaded => hunload.2 ⟨hclear.2 hloaded, fun h => hret h.2⟩⟩

theorem recordStatus_of_mem_loaded {a : AppletTable} {appId : Bytes} (h : appId ∈ getLoadedAppletsList a) :
    recordStatus a appId = some .installed := by
  have hstate := mem_getLoadedAppletsList.1 h
  obtain ⟨r, hr⟩ := find?_of_installed hstate
  rw [getAppletState, hr] at hstate
  simp only [recordStatus, hr, Option.map_some]
  exact congrArg some hstate

theorem keeps_eviction {I : Service φ → Prop} (hI : Closed (TidyStep W) I) {s : Service φ}
    (hunload : ∀ a ∈ getLoadedAppletsList s.appletTable, Keeps I (jhisUnload W a none)) (hs : I s) :
    I ((tryUnloadUnusedApplet W).exe s).2 := by
  have hlist : ∀ as : List Bytes, (∀ a ∈ as, Keeps I (jhisUnload W a none)) → Keeps I (unloadAppletWithNoSessions W as) := by
    intro as
    induction as with
    | nil => exact fun _ => Keeps.pure _
    | cons a as ih =>
      intro has
      refine Keeps.get.bind fun u => Keeps.ite (fun _ => ?_) fun _ => ih fun b hb => has b (List.mem_cons_of_mem a hb)
      exact (has a List.mem_cons_self).bind fun _ => Keeps.pure _
  have hloaded := hlist _ hunload
  simp only [tryUnloadUnusedApplet, exe_bind, exe_get]
  refine Keeps.ite (fun _ => Keeps.pure _) (fun _ => ?_) _ (hloaded s hs)
  exact (keeps_tryRemoveUnusedSharedSession hI false).bind fun _ => Keeps.ite (fun _ => hloaded) fun _ => Keeps.pure _

theorem tryUnloadUnusedApplet_loaded (appId : Bytes) (s : Service φ) :
    (recordStatus ((tryUnloadUnusedApplet W).exe s).2.appletTable appId = recordStatus s.appletTable appId ∧
        (V.loaded s.env appId → V.loaded ((tryUnloadUnusedApplet W).exe s).2.env appId)) ∨
      (recordStatus s.appletTable appId = some .installed ∧
        recordStatus ((tryUnloadUnusedApplet W).exe s).2.appletTable appId = none) := by
  have htidy : ∀ Q : Option AppletStatus → Prop → Prop, Closed (TidyStep W) fun t =>
      Q (recordStatus t.appletTable appId) (V.loaded t.env appId) := by
    intro Q u t hst h
    cases hst with
    | processIsDead p => rwa [V.calm (.processIsDead p u.env) appId]
    | deadOwners => exact h
    | closed _ force | closeFailed _ force => rwa [V.calm (.pluginClose force _ u.env) appId]
  by_cases hinstalled : recordStatus s.appletTable appId = some .installed
  · have hkeep := keeps_eviction (s := s) (htidy fun status loaded =>
      (status = recordStatus s.appletTable appId ∧ (V.loaded s.env appId → loaded)) ∨ status = none) ?_ (.inl ⟨rfl, id⟩)
    · exact hkeep.imp id fun h => ⟨hinstalled, h⟩
    · intro a _ t ht
      rcases ht with ⟨hstatus, hloaded⟩ | hnone
      · rcases jhisUnload_loaded V a appId t with ⟨hstatus', hloaded'⟩ | ⟨-, hgone⟩
        · exact .inl ⟨hstatus'.trans hstatus, fun h => hloaded' (hloaded h)⟩
        · exact .inr hgone
      · rcases jhisUnload_loaded V a appId t with ⟨hstatus', -⟩ | ⟨-, hgone⟩
        · exact .inr (hstatus'.trans hnone)
        · exact .inr hgone
  · -- the applet is not among those that can be evicted
    refine .inl (keeps_eviction (s := s) (htidy fun status loaded =>
      status = recordStatus s.appletTable appId ∧ (V.loaded s.env appId → loaded)) ?_ ⟨rfl, id⟩)
    intro a ha t ht
    rcases jhisUnload_loaded V a appId t with ⟨hstatus', hloaded'⟩ | ⟨happ, -⟩
    · exact ⟨hstatus'.trans ht.1, fun h => hloaded' (ht.2 h)⟩
    · exact absurd (recordStatus_of_mem_loaded (happ ▸ ha)) hinstalled

end Parts

/-! ### The parts of an install -/

section Sound

variable {β : Type} {W : World φ} {folder : FileString}

/-- What an install relies on in each of its parts. -/
structure Installer.Sound (F : FileSystem W folder) (V : VmApplets W) (i : Installer φ β) : Prop where
  check_same : ∀ s, F.Same s (i.check.exe s).2
  check_applets : ∀ s, (i.check.exe s).2.appletTable = s.appletTable
  check_loaded : ∀ s, V.loaded (i.check.exe s).2.env i.appId.text ↔ V.loaded s.env i.appId.text
  prepare_off : ∀ s, s.appletsFolder = folder →
    F.SameOff (getPendingFileName folder i.appId.text i.isAcp) s (i.prepare.exe s).2
  prepare_loaded : ∀ s, V.loaded (i.prepare.exe s).2.env i.appId.text ↔ V.loaded s.env i.appId.text
  prepare_error : ∀ {s u ret}, i.prepare.exe s = (.error ret, u) → s.appletsFolder = folder →
    F.Removes (getPendingFileName folder i.appId.text i.isAcp) →
    u.appletTable = s.appletTable ∧ F.files u.env (getPendingFileName folder i.appId.text i.isAcp) = none
  prepare_ok : ∀ {s u b}, i.prepare.exe s = (.ok b, u) →
    recordStatus u.appletTable i.appId.text = some ((recordStatus s.appletTable i.appId.text).getD .pendingInstall)
  load_same : ∀ b u, F.Same u ((i.load b).exe u).2
  load_applets : ∀ b u, ((i.load b).exe u).2.appletTable = u.appletTable
  load_loaded : ∀ b u, V.loaded u.env i.appId.text →
    V.loaded ((i.load b).exe u).2.env i.appId.text ∨ i.refused b u.env
  reload_same : ∀ b ret u, F.Same u ((i.reload b ret).exe u).2
  reload_applets : ∀ b ret u, ((i.reload b ret).exe u).2.appletTable = u.appletTable
  reload_loaded : ∀ b ret u, V.loaded u.env i.appId.text → V.loaded ((i.reload b ret).exe u).2.env i.appId.text

variable {F : FileSystem W folder} {V : VmApplets W} {i : Installer φ β} (hi : i.Sound F V)
include hi

theorem Installer.Sound.loads_same (b : β) (u : Service φ) : F.Same u ((i.loads W b).exe u).2 := by
  have hevict : ∀ w : Service φ, F.Same w ((tryUnloadUnusedApplet W).exe w).2 :=
    same_of_keeps not_write_unloading fun _ hI => keeps_tryUnloadUnusedApplet hI trivial
  refine (hi.load_same b u).trans ?_
  simp only [Installer.loads, exe_bind]
  generalize (i.load b).exe u = r
  simp only [evictAndRetry, exe_bind, exe_get, exe_ite, exe_pure]
  split_ifs
  · exact (hevict _).trans (hi.reload_same _ _ _)
  · exact hevict _
  · exact .refl _

theorem Installer.Sound.loads_status (b : β) (u : Service φ) (hsome : (recordStatus u.appletTable i.appId.text).isSome) :
    (EvictsSelf W i.appId.text ((i.load b).exe u).1 ((i.load b).exe u).2 ∧
        recordStatus u.appletTable i.appId.text = some .installed ∧
        recordStatus ((i.loads W b).exe u).2.appletTable i.appId.text = none) ∨
      (¬EvictsSelf W i.appId.text ((i.load b).exe u).1 ((i.load b).exe u).2 ∧
        recordStatus ((i.loads W b).exe u).2.appletTable i.appId.text = recordStatus u.appletTable i.appId.text ∧
        (V.loaded u.env i.appId.text → V.loaded ((i.loads W b).exe u).2.env i.appId.text ∨ i.refused b u.env)) := by
  have happlets := hi.load_applets b u
  have hloaded := hi.load_loaded b u
  rw [← happlets] at hsome ⊢
  simp only [Installer.loads, exe_bind]
  generalize (i.load b).exe u = r at happlets hloaded hsome ⊢
  obtain ⟨ret, w⟩ := r
  simp only [evictAndRetry, exe_bind, exe_get, exe_ite, exe_pure]
  by_cases hevict : w.vmType = .beihaiV1 ∧ ret = jhiMaxInstalledAppletsReached
  swap
  · rw [if_neg hevict]
    exact .inr ⟨fun h => hevict h.1, rfl, hloaded⟩
  rw [if_pos hevict]
  have hretry : ∀ v : Service φ, (recordStatus ((i.reload b ret).exe v).2.appletTable i.appId.text =
      recordStatus v.appletTable i.appId.text) := fun v => by rw [hi.reload_applets b ret v]
  rcases tryUnloadUnusedApplet_loaded V i.appId.text w with ⟨hstatus, hkept⟩ | ⟨hinstalled, hgone⟩
  · refine .inr ⟨fun h => ?_, ?_, fun h => ?_⟩
    · have hnone := h.2.2
      rw [hstatus] at hnone
      simp [hnone] at hsome
    · split_ifs
      · exact (hretry _).trans hstatus
      · exact hstatus
    · refine (hloaded h).imp (fun hw => ?_) id
      split_ifs
      · exact hi.reload_loaded b ret _ (hkept hw)
      · exact hkept hw
  · refine .inl ⟨⟨hevict, hsome, hgone⟩, hinstalled, ?_⟩
    split_ifs
    · exact (hretry _).trans hgone
    · exact hgone

end Sound

/-! ### The end of an install that fails -/

section End

variable {W : World φ} {folder : FileString} {F : FileSystem W folder} (V : VmApplets W)

theorem getFileName_ne_other (appId : AppId) (isAcp : Bool) :
    getFileName folder appId.text isAcp ≠ getFileName folder appId.text !isAcp := by
  rw [Ne, getFileName_inj]
  simp

theorem getPendingFileName_ne_other (appId : AppId) (isAcp : Bool) :
    (getPendingFileName folder appId.text !isAcp) ≠ getPendingFileName folder appId.text isAcp := by
  rw [Ne, getPendingFileName_inj]
  simp

theorem errorRemoveApplet_leaves (appId : AppId) (isAcp : Bool) {s : Service φ} (hfolder : s.appletsFolder = folder)
    (hremoves : F.Removes (getPendingFileName folder appId.text isAcp)) :
    F.SameOff (getPendingFileName folder appId.text isAcp) s ((errorRemoveApplet W appId.text isAcp).exe s).2 ∧
      F.files ((errorRemoveApplet W appId.text isAcp).exe s).2.env (getPendingFileName folder appId.text isAcp) = none ∧
      (V.loaded ((errorRemoveApplet W appId.text isAcp).exe s).2.env appId.text ↔ V.loaded s.env appId.text) := by
  obtain ⟨henv, hfolder'⟩ := errorRemoveApplet_env (W := W) appId.text isAcp hfolder
  refine ⟨⟨hfolder', fun f hf hne => ?_⟩, ?_, ?_⟩
  · rw [henv, F.remove_frame _ s.env f hf hne]
  · rw [henv]
    exact hremoves.removed (inFolder_getPendingFileName folder appId.text isAcp) s.env
  · rw [henv]
    exact V.calm (.removeFile _ s.env) appId.text

theorem completeInstall_fails (appId : AppId) (isAcp : Bool) {s : Service φ} (hfolder : s.appletsFolder = folder)
    (hfail : ((completeInstall W appId.text isAcp).exe s).1 = false) {e₁ : φ}
    (he₁ : ((W.removeFile (getFileName folder appId.text isAcp)).exe s.env).2 = e₁) :
    F.files ((completeInstall W appId.text isAcp).exe s).2.env (getFileName folder appId.text isAcp) =
        (if ((W.removeFile (getFileName folder appId.text isAcp)).exe s.env).1 then none
          else F.files s.env (getFileName folder appId.text isAcp)) ∧
      F.files ((completeInstall W appId.text isAcp).exe s).2.env (getFileName folder appId.text !isAcp) =
        (if ((W.removeFile (getFileName folder appId.text !isAcp)).exe e₁).1 then none
          else F.files s.env (getFileName folder appId.text !isAcp)) ∧
      (∀ x, F.files ((completeInstall W appId.text isAcp).exe s).2.env (getPendingFileName folder appId.text x) =
        F.files s.env (getPendingFileName folder appId.text x)) ∧
      ((completeInstall W appId.text isAcp).exe s).2.appletsFolder = folder ∧
      ((completeInstall W appId.text isAcp).exe s).2.appletTable = s.appletTable ∧
      (V.loaded ((completeInstall W appId.text isAcp).exe s).2.env appId.text ↔ V.loaded s.env appId.text) := by
  have happlets := completeInstall_applets (W := W) appId.text isAcp s
  rw [hfail] at happlets
  have hne := @getFileName_ne_other folder appId isAcp
  have hin := fun x => inFolder_getFileName folder appId.text x
  have hpin := fun x => inFolder_getPendingFileName folder appId.text x
  have hpne : ∀ x y, getPendingFileName folder appId.text x ≠ getFileName folder appId.text y :=
    fun x y => getFileName_ne_getPendingFileName.symm
  revert happlets hfail
  simp only [completeInstall, exe_bind, exe_get, exe_onEnv, hfolder, he₁]
  set new := getFileName folder appId.text isAcp with hnew
  set other := getFileName folder appId.text !isAcp with hother
  set e₂ := ((W.removeFile other).exe e₁).2 with he₂
  intro hfail
  have hrenamed : ((W.renameFile (getPendingFileName folder appId.text isAcp) new).exe e₂).1 = false := by
    by_contra htrue
    rw [Bool.not_eq_false] at htrue
    rw [htrue] at hfail
    simp at hfail
  have hkept := fun f hf => F.notRenamed (getPendingFileName folder appId.text isAcp) new e₂ f hf hrenamed
  have hcalm := V.calm (.renameFile (getPendingFileName folder appId.text isAcp) new e₂) appId.text
  rw [hrenamed]
  set e₃ := ((W.renameFile (getPendingFileName folder appId.text isAcp) new).exe e₂).2 with he₃
  have hsync := same_syncAppletToDisk (F := F) appId.text { s with appletsFolder := folder, env := e₃ }
  have hsyncLoaded : V.loaded ((syncAppletToDisk W appId.text).exe { s with appletsFolder := folder, env := e₃ }).2.env
      appId.text ↔ V.loaded e₃ appId.text := by
    simp only [syncAppletToDisk, syncAppletRepoToDisk, exe_bind, exe_get, exe_onEnv, exe_ite, exe_pure]
    split_ifs
    · exact V.calm (.syncFile _ _) _
    · exact (V.calm (.syncFile _ _) _).trans (V.calm (.syncFile _ _) _)
  simp only [Bool.not_false, if_true, exe_pure, Bool.false_eq_true, if_false]
  intro happlets
  refine ⟨?_, ?_, fun x => ?_, hsync.folder_eq, happlets, ?_⟩
  · rw [hsync.files_eq new (hin isAcp), hkept new (hin isAcp), he₂, F.remove_frame other e₁ new (hin isAcp) hne, ← he₁]
    exact F.removed new s.env (hin isAcp)
  · rw [hsync.files_eq other (hin !isAcp), hkept other (hin !isAcp), he₂, F.removed other e₁ (hin !isAcp), ← he₁,
      F.remove_frame new s.env other (hin !isAcp) hne.symm]
  · rw [hsync.files_eq _ (hpin x), hkept _ (hpin x), he₂, F.remove_frame other e₁ _ (hpin x) (hpne x _), ← he₁,
      F.remove_frame new s.env _ (hpin x) (hpne x _)]
  · refine hsyncLoaded.trans (hcalm.trans ?_)
    rw [he₂, ← he₁]
    exact (V.calm (.removeFile other _) _).trans (V.calm (.removeFile new _) _)

end End

/-! ### Failures -/

section Failures

variable {β : Type} {W : World φ} {folder : FileString} {F : FileSystem W folder} {V : VmApplets W} {i : Installer φ β}
  (hi : i.Sound F V)

/-- The VM gave up the applet in the course of the install and did not take it back. -/
def Installer.Refused (i : Installer φ β) (s : Service φ) : Prop := ∃ b u, i.Reaches s b u ∧ i.refused b u.env

theorem Installer.Reaches.unique {s u u' : Service φ} {b b' : β} (h : i.Reaches s b u) (h' : i.Reaches s b' u') :
    b' = b ∧ u' = u := by
  have heq := h.2.symm.trans h'.2
  rw [Prod.mk.injEq, Except.ok.injEq] at heq
  exact ⟨heq.1.symm, heq.2.symm⟩

theorem both_pending {P : FileString → Prop} {appId : AppId} {isAcp : Bool}
    (h : P (getPendingFileName folder appId.text isAcp)) (h' : P (getPendingFileName folder appId.text !isAcp)) (x : Bool) :
    P (getPendingFileName folder appId.text x) := by
  by_cases hx : x = isAcp
  · rwa [hx]
  · rwa [Bool.eq_not_of_ne hx]

variable {s : Service φ} (hfolder : s.appletsFolder = folder)
include hi hfolder

omit hfolder in
theorem Installer.Sound.unchanged_of_check {ret : JhiRet} (h : (i.check.exe s).1 = some ret) :
    Unchanged F V i.appId (i.Refused s) s (i.check.exe s).2 ↔ Harmless F V i s := by
  have hsame := hi.check_same s
  have hfile := fun f hf => hsame.files_eq f hf
  have hreach : ∀ b u, ¬i.Reaches s b u := by
    intro b u hr
    have hnone := hr.1
    simp [h] at hnone
  constructor
  · intro hun
    refine ⟨fun _ _ => ?_, ?_, fun b u hr => absurd hr (hreach b u), fun b u hr => absurd hr (hreach b u),
      fun b u hr => absurd hr (hreach b u)⟩
    · rw [← hfile _ (inFolder_getPendingFileName _ _ _)]
      exact hun.noPending _
    · rw [← hfile _ (inFolder_getPendingFileName _ _ _)]
      exact hun.noPending _
  · intro hharm
    refine ⟨by rw [hi.check_applets], fun x => hfile _ (inFolder_getFileName _ _ _), fun x => ?_,
      fun hloaded => .inl ((hi.check_loaded s).2 hloaded)⟩
    rw [hfile _ (inFolder_getPendingFileName _ _ _)]
    exact both_pending (P := fun f => F.files s.env f = none) (hharm.noStale ret h) hharm.noOther x

theorem Installer.Sound.unchanged_of_prepare {ret : JhiRet} {u : Service φ} (h : (i.check.exe s).1 = none)
    (hprepare : i.prepare.exe (i.check.exe s).2 = (.error ret, u))
    (hremoves : F.Removes (getPendingFileName folder i.appId.text i.isAcp)) :
    Unchanged F V i.appId (i.Refused s) s u ↔ Harmless F V i s := by
  have hsame := hi.check_same s
  have hfolder' := hsame.folder_eq.trans hfolder
  have hoff := hi.prepare_off _ hfolder'
  have hloaded := (hi.prepare_loaded (i.check.exe s).2).trans (hi.check_loaded s)
  obtain ⟨happlets, hgone⟩ := hi.prepare_error hprepare hfolder' hremoves
  rw [hprepare] at hoff hloaded
  have hother := hoff.files_eq _ (inFolder_getPendingFileName folder i.appId.text !i.isAcp) (getPendingFileName_ne_other _ _)
  rw [hsame.files_eq _ (inFolder_getPendingFileName folder i.appId.text !i.isAcp)] at hother
  have hreach : ∀ b v, ¬i.Reaches s b v := by
    intro b v hr
    have := hr.2.symm.trans hprepare
    simp at this
  constructor
  · intro hun
    refine ⟨fun ret' h' => by simp [h] at h', ?_, fun b v hr => absurd hr (hreach b v),
      fun b v hr => absurd hr (hreach b v), fun b v hr => absurd hr (hreach b v)⟩
    rw [← hother]
    exact hun.noPending _
  · intro hharm
    refine ⟨by rw [happlets, hi.check_applets], fun x => ?_, ?_, fun hl => .inl (hloaded.2 hl)⟩
    · have hne : getFileName folder i.appId.text x ≠ getPendingFileName folder i.appId.text i.isAcp :=
        getFileName_ne_getPendingFileName
      rw [hoff.files_eq _ (inFolder_getFileName _ _ _) hne, hsame.files_eq _ (inFolder_getFileName _ _ _)]
    · exact both_pending (P := fun f => F.files u.env f = none) hgone (hother.trans hharm.noOther)

theorem Installer.Sound.loads_off {b : β} {u : Service φ} (h : i.Reaches s b u) :
    F.SameOff (getPendingFileName folder i.appId.text i.isAcp) s ((i.loads W b).exe u).2 := by
  have hsame := hi.check_same s
  have hoff := hi.prepare_off _ (hsame.folder_eq.trans hfolder)
  rw [h.2] at hoff
  exact ((hsame.off _).trans hoff).trans ((hi.loads_same b u).off _)

omit hfolder in
theorem Installer.Sound.status_reached {b : β} {u : Service φ} (h : i.Reaches s b u) :
    recordStatus u.appletTable i.appId.text = some ((recordStatus s.appletTable i.appId.text).getD .pendingInstall) := by
  rw [hi.prepare_ok h.2, hi.check_applets]

omit hfolder in
theorem Installer.Sound.loaded_reached {b : β} {u : Service φ} (h : i.Reaches s b u) :
    V.loaded u.env i.appId.text ↔ V.loaded s.env i.appId.text := by
  have hloaded := (hi.prepare_loaded (i.check.exe s).2).trans (hi.check_loaded s)
  rwa [h.2] at hloaded

omit hfolder in
/-- The clean-up of a failed install leaves the status of the record as it was, exactly if the record was
not pending and the applet was not evicted. -/
theorem Installer.Sound.status_unchanged_iff {b : β} {u : Service φ} (h : i.Reaches s b u) :
    ((if recordStatus ((i.loads W b).exe u).2.appletTable i.appId.text = some .pendingInstall then none
        else recordStatus ((i.loads W b).exe u).2.appletTable i.appId.text) = recordStatus s.appletTable i.appId.text) ↔
      recordStatus s.appletTable i.appId.text ≠ some .pendingInstall ∧
        ¬EvictsSelf W i.appId.text ((i.load b).exe u).1 ((i.load b).exe u).2 := by
  have hstatus := hi.status_reached h
  rcases hi.loads_status b u (by rw [hstatus]; rfl) with ⟨hevicts, hinstalled, hnone⟩ | ⟨hnot, hkept, -⟩
  · rw [hnone]
    simp only [reduceCtorEq, if_false, hevicts, not_true, and_false, iff_false]
    intro hs
    rw [← hs, hinstalled] at hstatus
    simp at hstatus
  · rw [hkept, hstatus]
    cases hs : recordStatus s.appletTable i.appId.text with
    | none => simp [hnot]
    | some status =>
      by_cases hpending : status = .pendingInstall
      · simp [hpending]
      · simp [hpending, hnot]

theorem Installer.Sound.unchanged_of_load {b : β} {u : Service φ} (h : i.Reaches s b u)
    (hret : ((i.loads W b).exe u).1 ≠ jhiSuccess)
    (hremoves : F.Removes (getPendingFileName folder i.appId.text i.isAcp)) :
    Unchanged F V i.appId (i.Refused s) s
        ((errorRemoveApplet W i.appId.text i.isAcp).exe ((i.loads W b).exe u).2).2 ↔ Harmless F V i s := by
  have hoff := hi.loads_off hfolder h
  have hstatus := hi.status_unchanged_iff h
  obtain ⟨hoff', hgone, hloaded⟩ := errorRemoveApplet_leaves V i.appId i.isAcp (hoff.folder_eq.trans hfolder) hremoves
  have htotal := hoff.trans hoff'
  have hother := htotal.files_eq _ (inFolder_getPendingFileName folder i.appId.text !i.isAcp) (getPendingFileName_ne_other _ _)
  have hrecord := recordStatus_errorRemoveApplet (W := W) i.appId.text i.isAcp ((i.loads W b).exe u).2
  constructor
  · intro hun
    obtain ⟨hpending, hevicts⟩ := hstatus.1 (hrecord.symm.trans hun.record)
    refine ⟨fun ret' h' => by simp [h.1] at h', ?_, fun _ _ _ => hpending, fun b' u' h' => ?_, fun b' u' h' hren => ?_⟩
    · rw [← hother]
      exact hun.noPending _
    · obtain ⟨rfl, rfl⟩ := h.unique h'
      exact hevicts
    · obtain ⟨rfl, rfl⟩ := h.unique h'
      exact absurd hren.1 hret
  · intro hharm
    have hevicts := hharm.notEvicted b u h
    refine ⟨hrecord.trans (hstatus.2 ⟨hharm.notPending b u h, hevicts⟩), fun x => ?_, ?_, fun hl => ?_⟩
    · exact htotal.files_eq _ (inFolder_getFileName _ _ _) getFileName_ne_getPendingFileName
    · exact both_pending (P := fun f => F.files _ f = none) hgone (hother.trans hharm.noOther)
    · rcases hi.loads_status b u (by rw [hi.status_reached h]; rfl) with ⟨h', -, -⟩ | ⟨-, -, hkept⟩
      · exact absurd h' hevicts
      · exact (hkept ((hi.loaded_reached h).2 hl)).imp hloaded.2 fun hr => ⟨b, u, h, hr⟩

omit hi hfolder in
theorem deleted_eq_self_iff {contents : Option Bytes} {deleted : Bool} :
    (if deleted then none else contents) = contents ↔ contents = none ∨ deleted = false := by
  cases deleted
  · simp
  · simp [eq_comm]

theorem Installer.Sound.unchanged_of_rename {b : β} {u : Service φ} (h : i.Reaches s b u) (hren : RenameFails W i b u)
    (hremoves : F.Removes (getPendingFileName folder i.appId.text i.isAcp)) :
    Unchanged F V i.appId (i.Refused s) s ((errorRemoveApplet W i.appId.text i.isAcp).exe
        ((unloadApplet W i.appId.text).exe
          ((completeInstall W i.appId.text i.isAcp).exe ((i.loads W b).exe u).2).2).2).2 ↔ Harmless F V i s := by
  have hoff := hi.loads_off hfolder h
  have hstatus := hi.status_unchanged_iff h
  have hloads := hi.loads_status b u (by rw [hi.status_reached h]; rfl)
  have hreached := hi.loaded_reached h
  obtain ⟨hnew, hother, hpendings, hfolder', happlets, hloaded⟩ :=
    completeInstall_fails (F := F) V i.appId i.isAcp (hoff.folder_eq.trans hfolder) hren.2 rfl
  have hname : ∀ x, F.files ((i.loads W b).exe u).2.env (getFileName folder i.appId.text x) =
      F.files s.env (getFileName folder i.appId.text x) :=
    fun x => hoff.files_eq _ (inFolder_getFileName _ _ _) getFileName_ne_getPendingFileName
  rw [hname] at hnew hother
  have hotherPending := hoff.files_eq _ (inFolder_getPendingFileName folder i.appId.text !i.isAcp)
    (getPendingFileName_ne_other _ _)
  rw [← hpendings] at hotherPending
  have hunload := V.unload i.appId.text ((completeInstall W i.appId.text i.isAcp).exe ((i.loads W b).exe u).2).2.env
    i.appId.text
  rw [← happlets] at hstatus
  have hharm : ∀ b' u', i.Reaches s b' u' → b' = b ∧ u' = u := fun b' u' h' => h.unique h'
  -- the state in which the clean-up begins differs from the one after the renaming in what the VM has
  set c := ((completeInstall W i.appId.text i.isAcp).exe ((i.loads W b).exe u).2).2 with hc
  have hx : ((unloadApplet W i.appId.text).exe c).2.appletsFolder = folder := hfolder'
  have hrecord := recordStatus_errorRemoveApplet (W := W) i.appId.text i.isAcp ((unloadApplet W i.appId.text).exe c).2
  obtain ⟨hoff', hgone, hloaded'⟩ := errorRemoveApplet_leaves V i.appId i.isAcp hx hremoves
  have hx_name : ∀ x, F.files ((errorRemoveApplet W i.appId.text i.isAcp).exe
      ((unloadApplet W i.appId.text).exe c).2).2.env (getFileName folder i.appId.text x) =
      F.files c.env (getFileName folder i.appId.text x) := by
    intro x
    rw [hoff'.files_eq _ (inFolder_getFileName _ _ _) getFileName_ne_getPendingFileName]
    exact F.reading (.world (.unloadApplet i.appId.text c.env)) _ (inFolder_getFileName _ _ _)
  have hx_other : F.files ((errorRemoveApplet W i.appId.text i.isAcp).exe
      ((unloadApplet W i.appId.text).exe c).2).2.env (getPendingFileName folder i.appId.text !i.isAcp) =
      F.files s.env (getPendingFileName folder i.appId.text !i.isAcp) := by
    rw [hoff'.files_eq _ (inFolder_getPendingFileName _ _ _) (getPendingFileName_ne_other _ _), ← hotherPending]
    exact F.reading (.world (.unloadApplet i.appId.text c.env)) _ (inFolder_getPendingFileName _ _ _)
  constructor
  · intro hun
    obtain ⟨hpending, hevicts⟩ := hstatus.1 (hrecord.symm.trans hun.record)
    refine ⟨fun ret' h' => by simp [h.1] at h', hx_other.symm.trans (hun.noPending _), fun _ _ _ => hpending,
      fun b' u' h' => ?_, fun b' u' h' _ => ?_⟩
    · obtain ⟨rfl, rfl⟩ := hharm b' u' h'
      exact hevicts
    · obtain ⟨rfl, rfl⟩ := hharm b' u' h'
      refine ⟨deleted_eq_self_iff.1 (hnew.symm.trans ((hx_name _).symm.trans (hun.files _))),
        deleted_eq_self_iff.1 (hother.symm.trans ((hx_name _).symm.trans (hun.files _))), fun hl => ?_⟩
      rcases hun.loaded hl with hstill | ⟨b'', u'', h'', hrefused⟩
      · left
        intro hok
        exact (hunload.1 (hloaded'.1 hstill)).2 ⟨rfl, hok⟩
      · obtain ⟨rfl, rfl⟩ := hharm b'' u'' h''
        exact .inr hrefused
  · intro hharmless
    have hevicts := hharmless.notEvicted b u h
    have hr := hharmless.renamed b u h hren
    refine ⟨hrecord.trans (hstatus.2 ⟨hharmless.notPending b u h, hevicts⟩), fun x => ?_, ?_, fun hl => ?_⟩
    · by_cases hx : x = i.isAcp
      · rw [hx, hx_name, hnew]
        exact deleted_eq_self_iff.2 hr.file
      · rw [Bool.eq_not_of_ne hx, hx_name, hother]
        exact deleted_eq_self_iff.2 hr.otherFile
    · exact both_pending (P := fun f => F.files _ f = none) hgone (hx_other.trans hharmless.noOther)
    · have hrefused : i.refused b u.env → i.Refused s := fun h' => ⟨b, u, h, h'⟩
      rcases hloads with ⟨h', -, -⟩ | ⟨-, -, hkept⟩
      · exact absurd h' hevicts
      · rcases hkept (hreached.2 hl) with hv | h'
        · rcases hr.loaded hl with hfails | h'
          · exact .inl (hloaded'.2 (hunload.2 ⟨hloaded.2 hv, fun hok => hfails hok.2⟩))
          · exact .inr (hrefused h')
        · exact .inr (hrefused h')

theorem Installer.Sound.unchanged_iff (hremoves : F.Removes (getPendingFileName folder i.appId.text i.isAcp)) :
    (((i.run W).exe s).1 ≠ jhiSuccess → Unchanged F V i.appId (i.Refused s) s ((i.run W).exe s).2) ↔
      (((i.run W).exe s).1 ≠ jhiSuccess → Harmless F V i s) := by
  rcases i.cases s with ⟨ret, h⟩ | ⟨ret, u, h, hprepare⟩ | ⟨b, u, h⟩
  · rw [exe_run_of_check h]
    exact imp_congr_right fun _ => hi.unchanged_of_check h
  · rw [exe_run_of_prepare h hprepare]
    exact imp_congr_right fun _ => hi.unchanged_of_prepare hfolder h hprepare hremoves
  · rw [h.exe_run]
    simp only [finishInstall, exe_ite, if_true, exe_bind, exe_pure]
    split_ifs with hret hfail
    · exact imp_congr_right fun _ => hi.unchanged_of_load hfolder h hret hremoves
    · refine imp_congr_right fun _ => hi.unchanged_of_rename hfolder h ⟨by simpa using hret, ?_⟩ hremoves
      simpa using hfail
    · simp

end Failures

/-! ### The two installs -/

section Installers

variable {W : World φ} {folder : FileString} (F : FileSystem W folder) (V : VmApplets W)

theorem keeps_loaded {α : Type} {appId : Bytes} {P : Prop} {op : StateM φ α} (h : ∀ e, Calm W e (op.exe e).2) :
    Keeps (fun t : Service φ => V.loaded t.env appId ↔ P) (onEnv op) := fun s hs => (V.calm (h s.env) appId).trans hs

theorem keeps_loaded_dropPendingFile (appId : Bytes) (P : Prop) (file : FileString) :
    Keeps (fun t : Service φ => V.loaded t.env appId ↔ P) (dropPendingFile W file) := by
  refine (keeps_loaded V fun e => .fileExists file e).bind fun _ => Keeps.ite (fun _ => ?_) fun _ => Keeps.pure _
  exact (keeps_loaded V fun e => .removeFile file e).bind fun _ => Keeps.pure _

theorem keeps_loaded_getAppletBlobs {appId : Bytes} {P : Prop} (file : FileString) (isAcp : Bool) :
    Keeps (fun t : Service φ => V.loaded t.env appId ↔ P) (getAppletBlobs W file isAcp) := by
  refine Keeps.ite (fun _ => ?_) fun _ => Keeps.ite (fun _ => ?_) fun _ => Keeps.pure _
  · refine (keeps_loaded V fun e => .readFile file e).bind fun b => ?_
    cases b <;> exact Keeps.pure _
  · refine (keeps_loaded V fun e => .readPackage file e).bind fun b => ?_
    split <;> exact Keeps.pure _

theorem keeps_loaded_markPending {appId : Bytes} {P : Prop} (a : Bytes) :
    Keeps (fun t : Service φ => V.loaded t.env appId ↔ P) (markPending a) := by
  intro s hs
  rw [(markPending_env a s).1]
  exact hs

theorem keeps_loaded_prepareInstallFromFile {appId : Bytes} {P : Prop} (file : FileString) (a : Bytes) (isAcp : Bool) :
    Keeps (fun t : Service φ => V.loaded t.env appId ↔ P) (prepareInstallFromFile W file a isAcp) := by
  have hdrop := fun f (ret : JhiRet) => (keeps_loaded_dropPendingFile V appId P f).bind fun _ =>
    Keeps.pure (Except.error ret : Except JhiRet (List Bytes))
  refine Keeps.get.bind fun s => (keeps_loaded V fun e => .copyFile _ file e).bind fun _ => Keeps.ite (fun _ => hdrop _ _) fun _ => ?_
  refine (keeps_loaded V fun e => .chmod _ e).bind fun _ => Keeps.ite (fun _ => hdrop _ _) fun _ => ?_
  refine (keeps_loaded_getAppletBlobs V _ isAcp).bind fun blobs => ?_
  cases blobs with
  | error ret => exact hdrop _ _
  | ok blobs => exact (keeps_loaded_markPending V a).bind fun _ => Keeps.pure _

theorem keeps_loaded_prepareInstallFromBuffer {appId : Bytes} {P : Prop} (blob a : Bytes) :
    Keeps (fun t : Service φ => V.loaded t.env appId ↔ P) (prepareInstallFromBuffer W blob a) := by
  have hdrop := fun f => (keeps_loaded_dropPendingFile V appId P f).bind fun _ =>
    Keeps.pure jhiFileErrorCopy
  refine Keeps.get.bind fun s =>
    (keeps_loaded V fun e => .createFileFromBuff _ blob e).bind fun _ => Keeps.ite (fun _ => hdrop _) fun _ => ?_
  refine (keeps_loaded V fun e => .fileExists _ e).bind fun _ => Keeps.ite (fun _ => hdrop _) fun _ => ?_
  refine (keeps_loaded V fun e => .chmod _ e).bind fun _ => Keeps.ite (fun _ => hdrop _) fun _ => ?_
  exact (keeps_loaded_markPending V a).bind fun _ => Keeps.pure _

theorem recordStatus_prepareInstallFromFile {file : FileString} {appId : Bytes} {isAcp : Bool} {s u : Service φ}
    {blobs : List Bytes} (h : (prepareInstallFromFile W file appId isAcp).exe s = (.ok blobs, u)) :
    recordStatus u.appletTable appId = some ((recordStatus s.appletTable appId).getD .pendingInstall) := by
  unfold prepareInstallFromFile at h
  simp only [exe_bind, exe_get, exe_onEnv, exe_ite, exe_pure] at h
  split_ifs at h
  · simp at h
  · simp at h
  · have hblobs := fun v : Service φ =>
      getAppletBlobs_applets (W := W) (getPendingFileName s.appletsFolder appId isAcp) isAcp v
    generalize hr : (getAppletBlobs W (getPendingFileName s.appletsFolder appId isAcp) isAcp).exe _ = r at h
    obtain ⟨result, v⟩ := r
    have hv : v.appletTable = s.appletTable := (congrArg (fun r => r.2.appletTable) hr).symm.trans (hblobs _)
    cases result with
    | error ret => simp at h
    | ok bs =>
      simp only [exe_bind, exe_pure, Prod.mk.injEq] at h
      rw [← h.2, recordStatus_markPending, hv]

theorem recordStatus_prepareInstallFromBuffer {blob appId : Bytes} {s : Service φ}
    (h : ((prepareInstallFromBuffer W blob appId).exe s).1 = jhiSuccess) :
    recordStatus ((prepareInstallFromBuffer W blob appId).exe s).2.appletTable appId =
      some ((recordStatus s.appletTable appId).getD .pendingInstall) := by
  unfold prepareInstallFromBuffer at h ⊢
  simp only [exe_bind, exe_get, exe_onEnv, exe_ite, exe_pure] at h ⊢
  split_ifs at h ⊢
  · exact absurd h (by exact (by decide : jhiFileErrorCopy ≠ jhiSuccess))
  · exact absurd h (by exact (by decide : jhiFileErrorCopy ≠ jhiSuccess))
  · exact absurd h (by exact (by decide : jhiFileErrorCopy ≠ jhiSuccess))
  · exact recordStatus_markPending appId _

theorem same_clearForApplet (a : Bytes) (s : Service φ) : F.Same s ((clearForApplet W a).exe s).2 :=
  keeps_clearForApplet (closed_same_tidy F s) a s (.refl s)

theorem downloadBlobs_loaded (appId : Bytes) (ret : JhiRet) (blobs : List Bytes) (s : Service φ) :
    ((downloadBlobs W appId ret blobs).exe s).2.appletTable = s.appletTable ∧
      (V.loaded s.env appId →
        V.loaded ((downloadBlobs W appId ret blobs).exe s).2.env appId ∨ RestoreRefused W appId blobs s.env) := by
  induction blobs generalizing ret s with
  | nil => exact ⟨rfl, .inl⟩
  | cons blob blobs ih =>
    have hdownload := fun e => V.download appId blob e appId
    have hunload := fun e => V.unload appId e appId
    simp only [downloadBlobs, RestoreRefused, exe_bind, exe_onEnv, exe_ite, exe_pure, unloadApplet, exe_record]
    split_ifs with hident hstop
    · refine ⟨rfl, fun h => ?_⟩
      set e₁ := ((W.pluginDownloadApplet appId blob).exe s.env).2
      set e₂ := ((W.pluginUnloadApplet appId).exe e₁).2
      by_cases hok : ((W.pluginDownloadApplet appId blob).exe e₂).1 = jhiSuccess
      · exact .inl ((hdownload e₂).2 (.inr ⟨rfl, hok⟩))
      · by_cases hgone : ((W.pluginUnloadApplet appId).exe e₁).1 = jhiSuccess
        · exact .inr ⟨hgone, hok⟩
        · refine .inl ((hdownload e₂).2 (.inl ((hunload e₁).2 ⟨(hdownload s.env).2 (.inl h), fun h' => hgone h'.2⟩)))
    · exact ⟨rfl, fun h => .inl ((hdownload s.env).2 (.inl h))⟩
    · obtain ⟨happlets, hloaded⟩ := ih ((W.pluginDownloadApplet appId blob).exe s.env).1
        { s with env := ((W.pluginDownloadApplet appId blob).exe s.env).2 }
      exact ⟨happlets, fun h => hloaded ((hdownload s.env).2 (.inl h))⟩

theorem downloadAgain_loaded (appId : Bytes) (ret : JhiRet) (blobs : List Bytes) (s : Service φ) :
    ((downloadAgain W appId ret blobs).exe s).2.appletTable = s.appletTable ∧
      (V.loaded s.env appId → V.loaded ((downloadAgain W appId ret blobs).exe s).2.env appId) := by
  have hkeeps : Keeps (fun t : Service φ => t.appletTable = s.appletTable ∧ (V.loaded s.env appId → V.loaded t.env appId))
      (downloadAgain W appId ret blobs) := by
    refine Keeps.tryEach (fun blob t ht => ⟨ht.1, fun h => ?_⟩) blobs ret
    exact (V.download appId blob t.env appId).2 (.inl (ht.2 h))
  exact hkeeps s ⟨rfl, id⟩

theorem fileInstaller_sound (appId : AppId) (file : FileString) (isAcp : Bool) :
    (fileInstaller W appId file isAcp).Sound F V := by
  have hsame := fun s => same_clearForApplet F (W := W) appId.text s
  have hexists : ∀ u : Service φ, F.Same u ((onEnv (W.fileExists file)).exe u).2 :=
    same_of_keeps not_write_none (fun _ hI => keeps_env hI (.fileExists file))
  have hcheck := exe_fileInstaller_check W appId file isAcp
  have hclear := fun s => loaded_clearForApplet V appId.text appId.text s
  have hload := fun b u => downloadBlobs_loaded V appId.text jhiSuccess b u
  have hreload := fun b ret u => downloadAgain_loaded V appId.text ret b u
  exact {
    check_same := fun s => by
      rw [hcheck]
      split_ifs
      · exact hsame s
      all_goals exact (hsame s).trans (hexists _)
    check_applets := fun s => by
      rw [hcheck]
      split_ifs <;> exact (clearForApplet_applets W appId.text s).1
    check_loaded := fun s => by
      rw [hcheck]
      split_ifs
      · exact hclear s
      all_goals exact (V.calm (.fileExists file _) appId.text).trans (hclear s)
    prepare_off := fun s hfolder => (prepareInstallFromFile_files (F := F) file appId.text isAcp hfolder).off
    prepare_loaded := fun s => keeps_loaded_prepareInstallFromFile V file appId.text isAcp s Iff.rfl
    prepare_error := fun {s u ret} h hfolder hremoves => by
      have hprepared := prepareInstallFromFile_files (F := F) file appId.text isAcp hfolder
      have herror := (prepareInstallFromFile_error (congrArg Prod.fst h)).2
      change (prepareInstallFromFile W file appId.text isAcp).exe s = _ at h
      rw [h] at hprepared herror
      exact ⟨herror, hprepared.dropped (by simp) hremoves⟩
    prepare_ok := fun h => recordStatus_prepareInstallFromFile h
    load_same := fun b u => same_of_keeps (not_write_loading appId.text) (fun _ hI => keeps_downloadBlobs hI rfl jhiSuccess b) u
    load_applets := fun b u => (hload b u).1
    load_loaded := fun b u => (hload b u).2
    reload_same := fun b ret u => same_of_keeps not_write_none (fun _ hI => keeps_downloadAgain hI appId.text ret b) u
    reload_applets := fun b ret u => (hreload b ret u).1
    reload_loaded := fun b ret u => (hreload b ret u).2 }

theorem packageInstaller_sound (appId : AppId) (handle : VmHandle) {blob : Bytes}
    (hblob : InstallPackage W appId.text blob) :
    (packageInstaller W appId handle blob).Sound F V := by
  have hcheck := exe_packageInstaller_check W appId handle blob
  have hprepare := exe_packageInstaller_prepare W appId handle blob
  have hinstall := fun e => V.install handle appId.text blob e appId.text hblob
  have hsend := fun e h => (hinstall e).2 (.inl h)
  have hunload := fun e => V.unload appId.text e appId.text
  exact {
    check_same := fun s => by
      rw [hcheck]
      exact same_clearForApplet F appId.text s
    check_applets := fun s => by
      rw [hcheck]
      exact (clearForApplet_applets W appId.text s).1
    check_loaded := fun s => by
      rw [hcheck]
      exact loaded_clearForApplet V appId.text appId.text s
    prepare_off := fun s hfolder => by
      rw [hprepare]
      exact (prepareInstallFromBuffer_files (F := F) blob appId.text hfolder).off
    prepare_loaded := fun s => by
      rw [hprepare]
      exact keeps_loaded_prepareInstallFromBuffer V blob appId.text s Iff.rfl
    prepare_error := fun {s u ret} h hfolder hremoves => by
      have hprepared := prepareInstallFromBuffer_files (F := F) blob appId.text hfolder
      rw [hprepare, Prod.mk.injEq] at h
      obtain ⟨hresult, rfl⟩ := h
      split_ifs at hresult with hfails
      exact ⟨prepareInstallFromBuffer_error hfails, hprepared.dropped hfails hremoves⟩
    prepare_ok := fun {s u b} h => by
      rw [hprepare, Prod.mk.injEq] at h
      obtain ⟨hresult, rfl⟩ := h
      split_ifs at hresult with hfails
      exact recordStatus_prepareInstallFromBuffer (by simpa using hfails)
    load_same := fun b u =>
      same_of_keeps (not_write_loading appId.text) (fun _ hI => keeps_sendInstallPkg hI rfl handle blob) u
    load_applets := fun b u => by
      show ((sendInstallPkg W appId.text handle blob).exe u).2.appletTable = u.appletTable
      simp only [sendInstallPkg, exe_bind, exe_onEnv, exe_ite, unloadApplet, exe_record, exe_pure]
      split_ifs <;> rfl
    load_loaded := fun b u h => by
      show V.loaded ((sendInstallPkg W appId.text handle blob).exe u).2.env appId.text ∨ _
      simp only [sendInstallPkg, exe_bind, exe_onEnv, exe_ite, unloadApplet, exe_record, exe_pure]
      split_ifs with hident
      · set e₁ := ((W.pluginSendCmdPkg handle blob).exe u.env).2 with he₁
        by_cases hgone : ((W.pluginUnloadApplet appId.text).exe e₁).1 = jhiSuccess
        · by_cases hok : ((W.pluginSendCmdPkg handle blob).exe ((W.pluginUnloadApplet appId.text).exe e₁).2).1 = jhiSuccess
          · exact .inl ((hinstall _).2 (.inr ⟨rfl, hok⟩))
          · exact .inr ⟨hident, hgone, hok⟩
        · exact .inl (hsend _ ((hunload e₁).2 ⟨hsend _ h, fun h' => hgone h'.2⟩))
      · exact .inl (hsend _ h)
    reload_same := fun b ret u => same_of_keeps not_write_none (fun _ hI => keeps_env hI (.sendCmdPkg handle blob)) u
    reload_applets := fun b ret u => rfl
    reload_loaded := fun b ret u h => hsend _ h }

/-- **What a failed install leaves.** A failed install of a file or of a command package leaves what was
installed as it was, exactly if nothing harmful happens in its course. -/
theorem failed_install_unchanged_iff (appId : AppId) (s : Service φ) (hfolder : s.appletsFolder = folder)
    (hremoves : ∀ isAcp, F.Removes (getPendingFileName folder appId.text isAcp)) :
    (∀ file isAcp,
      (((jhisInstall W appId.text file true isAcp).exe s).1 ≠ jhiSuccess →
          Unchanged F V appId ((fileInstaller W appId file isAcp).Refused s) s
            ((jhisInstall W appId.text file true isAcp).exe s).2) ↔
        (((jhisInstall W appId.text file true isAcp).exe s).1 ≠ jhiSuccess →
          Harmless F V (fileInstaller W appId file isAcp) s)) ∧
    (∀ handle blob, InstallPackage W appId.text blob →
      ((((cmdPkgInstallJta W appId.text handle blob).exe s).1 ≠ jhiSuccess →
          Unchanged F V appId ((packageInstaller W appId handle blob).Refused s) s
            ((cmdPkgInstallJta W appId.text handle blob).exe s).2) ↔
        (((cmdPkgInstallJta W appId.text handle blob).exe s).1 ≠ jhiSuccess →
          Harmless F V (packageInstaller W appId handle blob) s))) := by
  refine ⟨fun file isAcp => ?_, fun handle blob hblob => ?_⟩
  · rw [jhisInstall_eq_run]
    exact (fileInstaller_sound F V appId file isAcp).unchanged_iff hfolder (hremoves isAcp)
  · rw [cmdPkgInstallJta_eq_run]
    exact (packageInstaller_sound F V appId handle hblob).unchanged_iff hfolder (hremoves true)

end Installers

/-! ### A renaming that fails -/

/-- A disk, and which applets the VM has. -/
abbrev Machine := Disk × (Bytes → Bool)

/-- An operation of the disk. -/
def onDisk {α : Type} (op : StateM Disk α) : StateM Machine α := fun m => ((op.exe m.1).1, ((op.exe m.1).2, m.2))

/-- The VM loads an applet. -/
def loadInto (appId : Bytes) : StateM Machine JhiRet := fun m => (jhiSuccess, (m.1, fun b => b = appId || m.2 b))

/-- A disk and a VM that loads every applet; the disk may not be able to rename. -/
def machineWorld (renames : Bool) : World Machine :=
  { World.quiet Machine with
    fileExists := fun f => onDisk (diskWorld.fileExists f)
    copyFile := fun dst src => onDisk (diskWorld.copyFile dst src)
    createFileFromBuff := fun dst blob => onDisk (diskWorld.createFileFromBuff dst blob)
    removeFile := fun f => onDisk (diskWorld.removeFile f)
    renameFile := fun src dst => if renames then onDisk (diskWorld.renameFile src dst) else pure false
    readFile := fun f => onDisk (diskWorld.readFile f)
    readPackage := fun f => onDisk (diskWorld.readPackage f)
    pluginParsePackage := fun blob => onDisk (diskWorld.pluginParsePackage blob)
    pluginDownloadApplet := fun appId _ => loadInto appId
    pluginUnloadApplet := fun appId m =>
      if m.2 appId then (jhiSuccess, (m.1, fun b => b ≠ appId && m.2 b)) else (jhiAppletNotInstalled, m)
    pluginSendCmdPkg := fun _ blob =>
      (parsePackage (fun _ => zeroGuid) blob).toOption.elim (pure jhiInvalidPackageFormat) fun info =>
        if info.packageType = .installJTA then loadInto (toUpperCase info.uuid) else pure jhiSuccess }

theorem exe_machine_unload (renames : Bool) (appId : Bytes) (m : Machine) :
    ((machineWorld renames).pluginUnloadApplet appId).exe m =
      if m.2 appId then (jhiSuccess, (m.1, fun b => b ≠ appId && m.2 b)) else (jhiAppletNotInstalled, m) := rfl

theorem exe_machine_send (renames : Bool) (handle : VmHandle) (blob : Bytes) (m : Machine) {info : PackageInfo}
    (h : parsePackage (fun _ => zeroGuid) blob = .ok info) (htype : info.packageType = .installJTA) :
    ((machineWorld renames).pluginSendCmdPkg handle blob).exe m = (loadInto (toUpperCase info.uuid)).exe m := by
  show ((parsePackage (fun _ => zeroGuid) blob).toOption.elim (pure jhiInvalidPackageFormat) fun info =>
    if info.packageType = .installJTA then loadInto (toUpperCase info.uuid) else pure jhiSuccess).exe m = _
  rw [h]
  simp only [Except.toOption, Option.elim, htype, if_true]

theorem machine_send_disk (renames : Bool) (handle : VmHandle) (blob : Bytes) (m : Machine) :
    (((machineWorld renames).pluginSendCmdPkg handle blob).exe m).2.1 = m.1 := by
  show (((parsePackage (fun _ => zeroGuid) blob).toOption.elim (pure jhiInvalidPackageFormat) fun info =>
    if info.packageType = .installJTA then loadInto (toUpperCase info.uuid) else pure jhiSuccess).exe m).2.1 = _
  cases (parsePackage (fun _ => zeroGuid) blob).toOption with
  | none => rfl
  | some info =>
    simp only [Option.elim, exe_ite]
    split_ifs <;> rfl

theorem machine_reading {renames : Bool} {m m' : Machine} (h : Reading (machineWorld renames) m m') : m'.1 = m.1 := by
  cases h with
  | world h =>
    cases h with
    | copyFile hw | createFileFromBuff hw | removeFile hw | renameFile hw => exact hw.elim
    | unloadApplet a =>
      rw [exe_machine_unload]
      split <;> rfl
    | sendCmdPkg handle blob => exact machine_send_disk renames handle blob m
    | _ => rfl
  | createSession | closeSession | forceCloseSession => rfl

theorem machine_rename (renames : Bool) (f g : FileString) (m : Machine) :
    ((machineWorld renames).renameFile f g).exe m =
      if renames then (onDisk (diskWorld.renameFile f g)).exe m else (false, m) := by
  cases renames <;> rfl

def machineFileSystem (renames : Bool) (folder : FileString) : FileSystem (machineWorld renames) folder where
  files m f := m.1 f
  reading h f _ := congrFun (machine_reading h) f
  exists_iff f m := (diskFileSystem folder).exists_iff f m.1
  exists_self f m := (diskFileSystem folder).exists_self f m.1
  copied dst src m := (diskFileSystem folder).copied dst src m.1
  copy_frame dst src m := (diskFileSystem folder).copy_frame dst src m.1
  created dst blob m := (diskFileSystem folder).created dst blob m.1
  create_frame dst blob m := (diskFileSystem folder).create_frame dst blob m.1
  removed f m := (diskFileSystem folder).removed f m.1
  remove_frame g m := (diskFileSystem folder).remove_frame g m.1
  renamed f g m hf hg hne hret := by
    rw [machine_rename] at hret ⊢
    cases renames
    · cases hret
    · exact (diskFileSystem folder).renamed f g m.1 hf hg hne hret
  notRenamed f g m h hh hret := by
    rw [machine_rename] at hret ⊢
    cases renames
    · rfl
    · exact (diskFileSystem folder).notRenamed f g m.1 h hh hret
  rename_frame f g m h hh hf hg := by
    rw [machine_rename]
    cases renames
    · rfl
    · exact (diskFileSystem folder).rename_frame f g m.1 h hh hf hg

def machineVm (renames : Bool) : VmApplets (machineWorld renames) where
  loaded m a := m.2 a = true
  calm {m m'} h a := by
    have hsame : m'.2 = m.2 := by
      cases h with
      | renameFile f g =>
        rw [machine_rename]
        split <;> rfl
      | pluginClose force =>
        cases force <;> rfl
      | _ => rfl
    rw [hsame]
  download a blob m b := by
    show (decide (b = a) || m.2 b) = true ↔ m.2 b = true ∨ b = a ∧ jhiSuccess = jhiSuccess
    simp [or_comm]
  unload a m b := by
    rw [exe_machine_unload]
    by_cases ha : m.2 a = true
    · simp [ha, and_comm]
    · have hne : jhiAppletNotInstalled ≠ jhiSuccess := by decide
      simp [ha, hne]
  install h a blob m b hblob := by
    obtain ⟨_, info, hparse, htype, rfl⟩ := hblob
    rw [exe_machine_send renames h blob m hparse htype]
    show (decide (b = toUpperCase info.uuid) || m.2 b) = true ↔
      m.2 b = true ∨ b = toUpperCase info.uuid ∧ jhiSuccess = jhiSuccess
    simp [or_comm]

/-- A service whose one applet is installed: it has a record and a file, and the VM has it. There is also
a newer package. -/
def installedMachine : Service Machine where
  sessionList := OrdMap.empty
  sharedSessionLRUCounter := 0
  appletTable := OrdMap.empty.insert exampleApplet.text ⟨.installed, false, false⟩
  vmType := .beihaiV1
  pluginRegistered := true
  appletsFolder := exampleFolder
  env := (fun f => if f = getFileName exampleFolder exampleApplet.text false then some [1]
    else if f = exampleFile then some [2] else none, fun a => a = exampleApplet.text)
  log := []

/-- The theorem at an upgrade of the installed applet. -/
theorem failed_install_unchanged_iff_machine :
    (((jhisInstall (machineWorld false) exampleApplet.text exampleFile true false).exe installedMachine).1 ≠ jhiSuccess →
        Unchanged (machineFileSystem false exampleFolder) (machineVm false) exampleApplet
          ((fileInstaller (machineWorld false) exampleApplet exampleFile false).Refused installedMachine) installedMachine
          ((jhisInstall (machineWorld false) exampleApplet.text exampleFile true false).exe installedMachine).2) ↔
      (((jhisInstall (machineWorld false) exampleApplet.text exampleFile true false).exe installedMachine).1 ≠ jhiSuccess →
        Harmless (machineFileSystem false exampleFolder) (machineVm false)
          (fileInstaller (machineWorld false) exampleApplet exampleFile false) installedMachine) :=
  (failed_install_unchanged_iff (machineFileSystem false exampleFolder) (machineVm false) exampleApplet installedMachine rfl
    fun _ _ h => h).1 exampleFile false

/-- The package of a newer version cannot be given its name: the install fails, and the file of the old
version is gone. -/
theorem failed_upgrade_loses_file :
    ¬(((jhisInstall (machineWorld false) exampleApplet.text exampleFile true false).exe installedMachine).1 ≠ jhiSuccess →
      Unchanged (machineFileSystem false exampleFolder) (machineVm false) exampleApplet
        ((fileInstaller (machineWorld false) exampleApplet exampleFile false).Refused installedMachine) installedMachine
        ((jhisInstall (machineWorld false) exampleApplet.text exampleFile true false).exe installedMachine).2) := by
  intro h
  have hfiles := (h (by decide +kernel)).files false
  revert hfiles
  show ¬((jhisInstall (machineWorld false) exampleApplet.text exampleFile true false).exe installedMachine).2.env.1
      (getFileName exampleFolder exampleApplet.text false) =
    installedMachine.env.1 (getFileName exampleFolder exampleApplet.text false)
  decide +kernel

end DalHost

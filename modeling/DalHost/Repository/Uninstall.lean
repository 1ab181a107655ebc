import DalHost.Repository.Store

/-!
# Uninstalling an applet

A success of `jhis_uninstall` can come from three results of `jhis_unload`: the VM unloaded the
applet, the VM does not have it, or the table has no record of it and the VM was not asked. The
record is removed in the first case only, and one file is deleted even when there are two. The
theorem of this module says exactly when a success means that nothing is left.
-/

namespace DalHost

variable {φ : Type} (W : World φ)

/-! ### What an uninstall depends on -/

/-- Before Beihai v2 the VM is not asked about an applet without a record. -/
def Shortcut (appId : AppId) (s : Service φ) : Prop :=
  getAppletState s.appletTable appId.text = .notInstalled ∧ s.vmType ≠ .beihaiV2

/-- How the VM is asked to unload the applet. -/
def askVm (appId : Bytes) (pkg : Option (VmHandle × Bytes)) : StateM φ JhiRet :=
  match pkg with
  | none => W.pluginUnloadApplet appId
  | some (handle, blob) => W.pluginSendCmdPkg handle blob

/-- The VM is asked to unload the applet and answers `ret`. -/
structure VmSays (appId : AppId) (pkg : Option (VmHandle × Bytes)) (s : Service φ) (ret : JhiRet) : Prop where
  asked : ¬Shortcut appId s
  noSessions : hasLiveSessions ((clearForApplet W appId.text).exe s).2.sessionList appId.text = false
  registered : ((clearForApplet W appId.text).exe s).2.pluginRegistered = true
  answer : ((askVm W appId.text pkg).exe ((clearForApplet W appId.text).exe s).2.env).1 = ret

/-- The repository has a file of the applet and the file can be deleted. -/
def Deletes (appId : AppId) (s : Service φ) : Prop :=
  ∃ found, ((appletExistInRepository W appId.text).exe s).1 = some found ∧
    ((W.removeFile found.1).exe ((appletExistInRepository W appId.text).exe s).2.env).1 = true

/-! ### The unload -/

section Unload

variable {W} {appId : AppId} {pkg : Option (VmHandle × Bytes)} {s : Service φ}

/-- How an unload can end. -/
inductive Unloaded (W : World φ) (appId : AppId) (pkg : Option (VmHandle × Bytes)) (s : Service φ) :
    JhiRet → Service φ → Prop
  | shortcut (h : Shortcut appId s) : Unloaded W appId pkg s jhiAppletNotInstalled s
  | refused {t : Service φ} (ret : JhiRet) (hret : ret = jhiUninstallFailureSessionsExists ∨ ret = jhiNoConnectionToFirmware)
      (hanswer : ∀ ret, ¬VmSays W appId pkg s ret) (happlets : t.appletTable = s.appletTable) : Unloaded W appId pkg s ret t
  | done {t : Service φ} (h : VmSays W appId pkg s jhiSuccess) (happlets : t.appletTable = s.appletTable.erase appId.text)
      (hsessions : hasLiveSessions t.sessionList appId.text = false) : Unloaded W appId pkg s jhiSuccess t
  | failed {t : Service φ} {ret : JhiRet} (hret : ret ≠ jhiSuccess) (h : VmSays W appId pkg s ret)
      (happlets : t.appletTable = s.appletTable) (hsessions : hasLiveSessions t.sessionList appId.text = false) :
      Unloaded W appId pkg s ret t

theorem clearForApplet_applets (W : World φ) (appId : Bytes) (s : Service φ) :
    ((clearForApplet W appId).exe s).2.appletTable = s.appletTable ∧
      ((clearForApplet W appId).exe s).2.vmType = s.vmType := by
  have hclosed : Closed (TidyStep W) fun t => t.appletTable = s.appletTable ∧ t.vmType = s.vmType := by
    intro u t hst h
    cases hst <;> exact h
  exact keeps_clearForApplet hclosed appId s ⟨rfl, rfl⟩

theorem exe_unloadFromVm (appId : Bytes) (pkg : Option (VmHandle × Bytes)) (u : Service φ) :
    ∃ log, (unloadFromVm W appId pkg).exe u =
      if ((askVm W appId pkg).exe u.env).1 = jhiSuccess then
        (if !u.appletTable.contains appId && u.vmType ≠ .beihaiV2 then jhiInternalError
          else ((askVm W appId pkg).exe u.env).1,
          { u with env := ((askVm W appId pkg).exe u.env).2, log := log, appletTable := u.appletTable.erase appId })
      else (((askVm W appId pkg).exe u.env).1, { u with env := ((askVm W appId pkg).exe u.env).2, log := log }) := by
  have hlast : ∀ (ret : JhiRet) (v : Service φ), (do
      if ret = jhiSuccess then
        if !(← removeAppletRecord appId) && (← get).vmType ≠ .beihaiV2 then return jhiInternalError
        else return ret
      else return ret : StateM (Service φ) JhiRet).exe v =
      if ret = jhiSuccess then
        (if !v.appletTable.contains appId && v.vmType ≠ .beihaiV2 then jhiInternalError else ret,
          { v with appletTable := v.appletTable.erase appId })
      else (ret, v) := by
    intro ret v
    simp only [exe_bind, exe_ite, exe_pure, removeAppletRecord, exe_get, exe_modifyApplets]
    split_ifs <;> rfl
  have hasked := fun log => hlast ((askVm W appId pkg).exe u.env).1
    { u with env := ((askVm W appId pkg).exe u.env).2, log := log }
  cases pkg with
  | none =>
    refine ⟨u.log ++ [⟨.unloadApplet appId, u.sessionList, u.appletTable⟩], ?_⟩
    simp only [unloadFromVm, unloadApplet, exe_bind, exe_record, exe_onEnv]
    exact hasked _
  | some pkg =>
    refine ⟨u.log ++ [⟨.uninstallPackage appId, u.sessionList, u.appletTable⟩], ?_⟩
    simp only [unloadFromVm, exe_bind, exe_record, exe_onEnv]
    exact hasked _

theorem jhisUnload_unloaded (appId : AppId) (pkg : Option (VmHandle × Bytes)) (s : Service φ) :
    Unloaded W appId pkg s ((jhisUnload W appId.text pkg).exe s).1 ((jhisUnload W appId.text pkg).exe s).2 := by
  simp only [jhisUnload, exe_bind, exe_get, exe_ite, exe_pure]
  split_ifs with hshort hlive hreg
  · exact .shortcut hshort
  · exact .refused _ (.inl rfl) (fun _ h => by simp [h.noSessions] at hlive) (clearForApplet_applets W appId.text s).1
  · exact .refused _ (.inr rfl) (fun _ h => by simp [h.registered] at hreg) (clearForApplet_applets W appId.text s).1
  · obtain ⟨happlets, hvm⟩ := clearForApplet_applets W appId.text s
    have hanswer : VmSays W appId pkg s ((askVm W appId.text pkg).exe ((clearForApplet W appId.text).exe s).2.env).1 :=
      ⟨hshort, by simpa using hlive, by simpa using hreg, rfl⟩
    obtain ⟨log, heq⟩ := exe_unloadFromVm (W := W) appId.text pkg ((clearForApplet W appId.text).exe s).2
    generalize ((clearForApplet W appId.text).exe s).2 = u at happlets hvm hlive hreg hanswer heq ⊢
    rw [heq]
    split_ifs with hsuccess hmissing
    · -- before Beihai v2 the applet has a record
      simp only [Bool.and_eq_true, Bool.not_eq_true', decide_eq_true_eq] at hmissing
      exfalso
      apply hshort
      refine ⟨?_, hvm ▸ hmissing.2⟩
      rw [happlets, OrdMap.contains_eq_false] at hmissing
      simp only [getAppletState, hmissing.1]
    · rw [hsuccess] at hanswer ⊢
      exact .done hanswer (congrArg (·.erase appId.text) happlets) (by simpa using hlive)
    · exact .failed hsuccess hanswer happlets (by simpa using hlive)

end Unload

/-! ### The uninstall -/

section Uninstall

variable {W} {folder : FileString} (F : FileSystem W folder)

/-- Nothing is left of the applet. -/
structure Gone (appId : AppId) (t : Service φ) : Prop where
  record : t.appletTable.find? appId.text = none
  files : ∀ isAcp, F.files t.env (getFileName folder appId.text isAcp) = none
  sessions : hasLiveSessions t.sessionList appId.text = false

/-- The codes with which the VM says that it does not have the applet. -/
def saysGone (ret : JhiRet) : Prop := ret = jhiAppletNotInstalled ∨ ret = teeStatusTaDoesNotExist

/-- What an uninstall that begins in state `s` is to do. -/
structure UninstallSpec (appId : AppId) (pkg : Option (VmHandle × Bytes)) (s : Service φ) : Prop where
  success : ((jhisUninstall W appId.text pkg).exe s).1 = jhiSuccess →
    Gone F appId ((jhisUninstall W appId.text pkg).exe s).2 ∧
      ∃ ret, VmSays W appId pkg s ret ∧ (ret = jhiSuccess ∨ saysGone ret)
  refused : ((jhisUninstall W appId.text pkg).exe s).1 = jhiUninstallFailureSessionsExists →
    ((jhisUninstall W appId.text pkg).exe s).2.appletTable = s.appletTable ∧
      F.Same s ((jhisUninstall W appId.text pkg).exe s).2

/-- An uninstall that deletes a file and reports a success although something is left: the VM was not
asked, it said that it has no such applet while the table has a record, or there was a second file. -/
structure Incomplete (appId : AppId) (pkg : Option (VmHandle × Bytes)) (s : Service φ) : Prop where
  deletes : Deletes W appId ((jhisUnload W appId.text pkg).exe s).2
  left : Shortcut appId s ∨
    (∃ ret, VmSays W appId pkg s ret ∧ saysGone ret ∧ (s.appletTable.find? appId.text).isSome) ∨
    (∃ ret, VmSays W appId pkg s ret ∧ (ret = jhiSuccess ∨ saysGone ret) ∧
      ∀ isAcp, (F.files s.env (getFileName folder appId.text isAcp)).isSome)

variable {F} {appId : AppId} {pkg : Option (VmHandle × Bytes)} {s : Service φ}

/-- A file is found, deleted and its directory written to the disk. -/
structure FileDeleted (F : FileSystem W folder) (found : FileString) (s t : Service φ) : Prop where
  applets : t.appletTable = s.appletTable
  sessions : t.sessionList = s.sessionList
  gone : F.files t.env found = none
  off : F.SameOff found s t

theorem same_jhisUnload (appId : Bytes) (pkg : Option (VmHandle × Bytes)) (s : Service φ) :
    F.Same s ((jhisUnload W appId pkg).exe s).2 :=
  same_of_keeps not_write_unloading (fun _ hI => keeps_jhisUnload hI trivial appId pkg) s

theorem appletExistInRepository_tables (appId : Bytes) (s : Service φ) :
    ((appletExistInRepository W appId).exe s).2.appletTable = s.appletTable ∧
      ((appletExistInRepository W appId).exe s).2.sessionList = s.sessionList := by
  simp only [appletExistInRepository, exe_bind, exe_get, exe_onEnv, exe_ite, exe_pure]
  split_ifs <;> exact ⟨rfl, rfl⟩

theorem jhisUninstall_refused (hret : ¬(((jhisUnload W appId.text pkg).exe s).1 = jhiSuccess ∨
      saysGone ((jhisUnload W appId.text pkg).exe s).1)) :
    (jhisUninstall W appId.text pkg).exe s = (jhisUnload W appId.text pkg).exe s := by
  unfold saysGone at hret
  simp only [jhisUninstall, exe_bind]
  rw [if_neg hret]
  rfl

theorem jhisUninstall_deletes {u : Service φ} (hu : ((jhisUnload W appId.text pkg).exe s).2 = u)
    (hfolder : u.appletsFolder = folder)
    (hret : ((jhisUnload W appId.text pkg).exe s).1 = jhiSuccess ∨ saysGone ((jhisUnload W appId.text pkg).exe s).1)
    (hdel : Deletes W appId u) :
    ((jhisUninstall W appId.text pkg).exe s).1 = jhiSuccess ∧
      ∃ isAcp, (F.files u.env (getFileName folder appId.text isAcp)).isSome ∧
        FileDeleted F (getFileName folder appId.text isAcp) u ((jhisUninstall W appId.text pkg).exe s).2 := by
  obtain ⟨found, hfound, hremoved⟩ := hdel
  obtain ⟨hname, hsome⟩ := appletExistInRepository_eq_some (F := F) hfolder hfound
  obtain ⟨happlets, hsessions⟩ := appletExistInRepository_tables (W := W) appId.text u
  have hsame := same_appletExistInRepository (F := F) appId.text u
  have hin := inFolder_getFileName folder appId.text found.2
  rw [← hname] at hin
  unfold saysGone at hret
  simp only [jhisUninstall, exe_bind, hu]
  rw [if_pos hret]
  simp only [exe_bind, hfound, exe_onEnv, hremoved, exe_pure, Bool.not_true, Bool.false_eq_true, if_false,
    syncAppletRepoToDisk, exe_get, true_and]
  refine ⟨found.2, hname ▸ hsome, ?_⟩
  rw [← hname]
  have hsync := fun e => F.reading (.world (.syncFile ((appletExistInRepository W appId.text).exe u).2.appletsFolder e))
  refine ⟨happlets, hsessions, ?_, hsame.folder_eq, fun f hf hne => ?_⟩
  · rw [hsync _ found.1 hin, F.removed found.1 _ hin, if_pos hremoved]
  · rw [hsync _ f hf, F.remove_frame found.1 _ f hf hne, hsame.files_eq f hf]

/-- An uninstall that deletes nothing. -/
structure NothingDeleted (F : FileSystem W folder) (appId : AppId) (unloaded : JhiRet) (s : Service φ) (ret : JhiRet)
    (t : Service φ) : Prop where
  applets : t.appletTable = s.appletTable
  sessions : t.sessionList = s.sessionList
  same : F.Same s t
  success : ret = jhiSuccess → unloaded = jhiSuccess ∧ ∀ isAcp, F.files s.env (getFileName folder appId.text isAcp) = none
  notRefused : ret ≠ jhiUninstallFailureSessionsExists

theorem jhisUninstall_not_deletes {u : Service φ} (hu : ((jhisUnload W appId.text pkg).exe s).2 = u)
    (hfolder : u.appletsFolder = folder)
    (hret : ((jhisUnload W appId.text pkg).exe s).1 = jhiSuccess ∨ saysGone ((jhisUnload W appId.text pkg).exe s).1)
    (hdel : ¬Deletes W appId u) :
    NothingDeleted F appId ((jhisUnload W appId.text pkg).exe s).1 u ((jhisUninstall W appId.text pkg).exe s).1
      ((jhisUninstall W appId.text pkg).exe s).2 := by
  obtain ⟨happlets, hsessions⟩ := appletExistInRepository_tables (W := W) appId.text u
  have hsame := same_appletExistInRepository (F := F) appId.text u
  have hrefused : ((jhisUnload W appId.text pkg).exe s).1 ≠ jhiUninstallFailureSessionsExists := by
    rcases hret with h | h | h <;> rw [h] <;> decide
  unfold saysGone at hret
  simp only [jhisUninstall, exe_bind, hu]
  rw [if_pos hret]
  simp only [exe_bind]
  cases hfound : ((appletExistInRepository W appId.text).exe u).1 with
  | none =>
    exact ⟨happlets, hsessions, hsame, fun h => ⟨h, appletExistInRepository_eq_none hfolder hfound⟩, hrefused⟩
  | some found =>
    have hin := inFolder_getFileName folder appId.text found.2
    rw [← (appletExistInRepository_eq_some (F := F) hfolder hfound).1] at hin
    have hkept : ((W.removeFile found.1).exe ((appletExistInRepository W appId.text).exe u).2.env).1 = false := by
      rw [← Bool.not_eq_true]
      exact fun h => hdel ⟨found, hfound, h⟩
    simp only [exe_bind, exe_onEnv, hkept, exe_pure, Bool.not_false, if_true]
    refine ⟨happlets, hsessions, ?_, ?_, ?_⟩
    · have hoff := sameOff_removeFile (F := F) (p := found.1) ((appletExistInRepository W appId.text).exe u).2
      refine hsame.trans (hoff.same ?_)
      show F.files ((W.removeFile found.1).exe _).2 found.1 = _
      rw [F.removed found.1 _ hin, hkept]
      rfl
    · intro h
      split_ifs at h with hsuccess
      · exact absurd h (by decide)
      · exact absurd h hsuccess
    · split_ifs
      · decide
      · exact hrefused

theorem VmSays.jhisUnload_eq {ret : JhiRet} (h : VmSays W appId pkg s ret) : ((jhisUnload W appId.text pkg).exe s).1 = ret := by
  have hunloaded := jhisUnload_unloaded (W := W) appId pkg s
  generalize (jhisUnload W appId.text pkg).exe s = r at hunloaded ⊢
  obtain ⟨unloaded, t⟩ := r
  cases hunloaded with
  | shortcut hshort => exact absurd hshort h.asked
  | refused _ _ hanswer => exact absurd h (hanswer ret)
  | done hanswer => exact hanswer.answer.symm.trans h.answer
  | failed _ hanswer => exact hanswer.answer.symm.trans h.answer

theorem Unloaded.applets_eq {ret : JhiRet} {t : Service φ} (h : Unloaded W appId pkg s ret t) (hret : ret ≠ jhiSuccess) :
    t.appletTable = s.appletTable := by
  cases h with
  | shortcut => rfl
  | refused _ _ _ happlets => exact happlets
  | done => exact absurd rfl hret
  | failed _ _ happlets => exact happlets

theorem jhisUnload_shortcut (h : Shortcut appId s) : (jhisUnload W appId.text pkg).exe s = (jhiAppletNotInstalled, s) := by
  unfold Shortcut at h
  simp only [jhisUnload, exe_bind, exe_get]
  rw [if_pos h, exe_pure]

theorem Incomplete.not_uninstallSpec (h : Incomplete F appId pkg s) (hfolder : s.appletsFolder = folder) :
    ¬UninstallSpec F appId pkg s := by
  intro hspec
  have hsame := same_jhisUnload (F := F) appId.text pkg s
  have hret : ((jhisUnload W appId.text pkg).exe s).1 = jhiSuccess ∨ saysGone ((jhisUnload W appId.text pkg).exe s).1 := by
    rcases h.left with hshort | ⟨ret, hanswer, hgone, _⟩ | ⟨ret, hanswer, hok, _⟩
    · rw [jhisUnload_shortcut hshort]
      exact .inr (.inl rfl)
    · rw [hanswer.jhisUnload_eq]
      exact .inr hgone
    · rw [hanswer.jhisUnload_eq]
      exact hok
  obtain ⟨hsuccess, isAcp, _, hdeleted⟩ := jhisUninstall_deletes (F := F) rfl (hsame.folder_eq.trans hfolder) hret h.deletes
  obtain ⟨hgone, ret, hsaid, _⟩ := hspec.success hsuccess
  rcases h.left with hshort | ⟨ret', hanswer, hgone', hrecord⟩ | ⟨_, _, _, hboth⟩
  · exact hsaid.asked hshort
  · have hne : ret' ≠ jhiSuccess := by
      rcases hgone' with rfl | rfl <;> decide
    have htable := (jhisUnload_unloaded (W := W) appId pkg s).applets_eq (hanswer.jhisUnload_eq ▸ hne)
    have hnone := hgone.record
    rw [hdeleted.applets, htable] at hnone
    simp [hnone] at hrecord
  · -- the other file is still there
    have hother : (getFileName folder appId.text !isAcp) ≠ getFileName folder appId.text isAcp := by
      rw [Ne, getFileName_inj]
      simp
    have hin := inFolder_getFileName folder appId.text (!isAcp)
    have hnone := hgone.files !isAcp
    rw [hdeleted.off.files_eq _ hin hother, hsame.files_eq _ hin] at hnone
    have hsome := hboth !isAcp
    simp [hnone] at hsome

theorem Unloaded.asked {ret : JhiRet} {t : Service φ} (h : Unloaded W appId pkg s ret t)
    (hret : ret = jhiSuccess ∨ saysGone ret) (hshort : ¬Shortcut appId s) :
    VmSays W appId pkg s ret ∧ hasLiveSessions t.sessionList appId.text = false ∧
      (ret = jhiSuccess → t.appletTable.find? appId.text = none) := by
  cases h with
  | shortcut h => exact absurd h hshort
  | refused _ hrefused =>
    exfalso
    rcases hrefused with rfl | rfl <;> revert hret <;> unfold saysGone <;> decide
  | done hanswer happlets hsessions => exact ⟨hanswer, hsessions, fun _ => by rw [happlets, OrdMap.find?_erase, if_pos rfl]⟩
  | failed hne hanswer _ hsessions => exact ⟨hanswer, hsessions, fun h => absurd h hne⟩

/-- An uninstall that succeeds leaves nothing, unless it is incomplete. -/
theorem uninstall_success (hfolder : s.appletsFolder = folder) (hcomplete : ¬Incomplete F appId pkg s)
    (hsuccess : ((jhisUninstall W appId.text pkg).exe s).1 = jhiSuccess) :
    Gone F appId ((jhisUninstall W appId.text pkg).exe s).2 ∧
      ∃ ret, VmSays W appId pkg s ret ∧ (ret = jhiSuccess ∨ saysGone ret) := by
  have hsame := same_jhisUnload (F := F) appId.text pkg s
  have hfolder' := hsame.folder_eq.trans hfolder
  have hunloaded := jhisUnload_unloaded (W := W) appId pkg s
  by_cases hret : ((jhisUnload W appId.text pkg).exe s).1 = jhiSuccess ∨ saysGone ((jhisUnload W appId.text pkg).exe s).1
  swap
  · rw [jhisUninstall_refused hret] at hsuccess
    exact absurd (.inl hsuccess) hret
  by_cases hdel : Deletes W appId ((jhisUnload W appId.text pkg).exe s).2
  · obtain ⟨-, isAcp, hsome, hdeleted⟩ := jhisUninstall_deletes (F := F) rfl hfolder' hret hdel
    have hshort : ¬Shortcut appId s := fun h => hcomplete ⟨hdel, .inl h⟩
    obtain ⟨hanswer, hsessions, hrecord⟩ := hunloaded.asked hret hshort
    refine ⟨⟨?_, fun x => ?_, ?_⟩, _, hanswer, hret⟩
    · rw [hdeleted.applets]
      rcases hret with hok | hgone
      · exact hrecord hok
      · have hne : ((jhisUnload W appId.text pkg).exe s).1 ≠ jhiSuccess := by
          rcases hgone with h | h <;> rw [h] <;> decide
        rw [hunloaded.applets_eq hne, ← Option.not_isSome_iff_eq_none]
        exact fun h => hcomplete ⟨hdel, .inr (.inl ⟨_, hanswer, hgone, h⟩)⟩
    · have hin := fun y => inFolder_getFileName folder appId.text y
      by_cases hx : x = isAcp
      · rw [hx]
        exact hdeleted.gone
      · -- the other file was not there before
        have hother : getFileName folder appId.text x ≠ getFileName folder appId.text isAcp := by
          rw [Ne, getFileName_inj]
          exact fun h => hx h.2
        rw [hdeleted.off.files_eq _ (hin x) hother, hsame.files_eq _ (hin x), ← Option.not_isSome_iff_eq_none]
        intro h
        rw [hsame.files_eq _ (hin isAcp)] at hsome
        refine hcomplete ⟨hdel, .inr (.inr ⟨_, hanswer, hret, fun y => ?_⟩)⟩
        by_cases hy : y = isAcp
        · rwa [hy]
        · have hyx : y = x := by
            revert hx hy
            cases x <;> cases y <;> cases isAcp <;> decide
          rwa [hyx]
    · rw [hdeleted.sessions]
      exact hsessions
  · have hkept := jhisUninstall_not_deletes (F := F) rfl hfolder' hret hdel
    obtain ⟨hok, hnone⟩ := hkept.success hsuccess
    have hshort : ¬Shortcut appId s := by
      intro h
      rw [jhisUnload_shortcut h] at hok
      exact absurd hok (by decide : jhiAppletNotInstalled ≠ jhiSuccess)
    obtain ⟨hanswer, hsessions, hrecord⟩ := hunloaded.asked hret hshort
    refine ⟨⟨?_, fun x => ?_, ?_⟩, _, hanswer, hret⟩
    · rw [hkept.applets]
      exact hrecord hok
    · rw [hkept.same.files_eq _ (inFolder_getFileName folder appId.text x)]
      exact hnone x
    · rw [hkept.sessions]
      exact hsessions

theorem uninstall_refused (hfolder : s.appletsFolder = folder)
    (hrefused : ((jhisUninstall W appId.text pkg).exe s).1 = jhiUninstallFailureSessionsExists) :
    ((jhisUninstall W appId.text pkg).exe s).2.appletTable = s.appletTable ∧
      F.Same s ((jhisUninstall W appId.text pkg).exe s).2 := by
  have hsame := same_jhisUnload (F := F) appId.text pkg s
  have hfolder' := hsame.folder_eq.trans hfolder
  by_cases hret : ((jhisUnload W appId.text pkg).exe s).1 = jhiSuccess ∨ saysGone ((jhisUnload W appId.text pkg).exe s).1
  · exfalso
    by_cases hdel : Deletes W appId ((jhisUnload W appId.text pkg).exe s).2
    · have hsuccess := (jhisUninstall_deletes (F := F) rfl hfolder' hret hdel).1
      rw [hsuccess] at hrefused
      revert hrefused
      decide
    · exact (jhisUninstall_not_deletes (F := F) rfl hfolder' hret hdel).notRefused hrefused
  · rw [jhisUninstall_refused hret]
    exact ⟨(jhisUnload_unloaded (W := W) appId pkg s).applets_eq fun h => hret (.inl h), hsame⟩

/-- **When an uninstall is complete.** Every uninstall meets its specification, except one that deletes
a file and leaves something else. -/
theorem uninstall_complete_iff (F : FileSystem W folder) (appId : AppId) (pkg : Option (VmHandle × Bytes))
    (s : Service φ) (hfolder : s.appletsFolder = folder) :
    UninstallSpec F appId pkg s ↔ ¬Incomplete F appId pkg s :=
  ⟨fun hspec hinc => hinc.not_uninstallSpec hfolder hspec,
    fun hcomplete => ⟨uninstall_success hfolder hcomplete, uninstall_refused hfolder⟩⟩

end Uninstall

/-- The theorem at an uninstall after an install. -/
theorem uninstall_complete_iff_disk :
    UninstallSpec (diskFileSystem exampleFolder) exampleApplet none
        (runCalls diskWorld [.install exampleApplet exampleFile] (startedDisk .beihaiV1)) ↔
      ¬Incomplete (diskFileSystem exampleFolder) exampleApplet none
        (runCalls diskWorld [.install exampleApplet exampleFile] (startedDisk .beihaiV1)) :=
  uninstall_complete_iff _ _ _ _ (by decide +kernel)

/-! ### An uninstall that leaves the record -/

/-- A path outside the repository, where the VM of the next example keeps its state. -/
def vmPath : FileString := ascii ['v', 'm']

/-- A VM that can load one applet once: a package it has is identical, and what was unloaded cannot be
loaded again. -/
def wornWorld : World Disk :=
  { diskWorld with
    pluginDownloadApplet := fun _ _ disk =>
      match disk vmPath with
      | none => (jhiSuccess, fun f => if f = vmPath then some [1] else disk f)
      | some [1] => (jhiFileIdentical, disk)
      | some _ => (jhiInstallFailed, disk)
    pluginUnloadApplet := fun _ disk =>
      match disk vmPath with
      | some [1] => (jhiSuccess, fun f => if f = vmPath then some [0] else disk f)
      | _ => (jhiAppletNotInstalled, disk) }

theorem wornWorld_reading {folder : FileString} (hvm : ¬InFolder folder vmPath) {disk disk' : Disk}
    (h : Reading wornWorld disk disk') (f : FileString) (hf : InFolder folder f) : disk' f = disk f := by
  have hne : f ≠ vmPath := fun h => hvm (h ▸ hf)
  cases h with
  | world h =>
    cases h with
    | copyFile hw | createFileFromBuff hw | removeFile hw | renameFile hw => exact hw.elim
    | downloadApplet a blob =>
      show (match disk vmPath with
        | none => (jhiSuccess, fun f => if f = vmPath then some [1] else disk f)
        | some [1] => (jhiFileIdentical, disk)
        | some _ => (jhiInstallFailed, disk)).2 f = disk f
      split
      · exact if_neg hne
      · rfl
      · rfl
    | unloadApplet a =>
      show (match disk vmPath with
        | some [1] => (jhiSuccess, fun f => if f = vmPath then some [0] else disk f)
        | _ => (jhiAppletNotInstalled, disk)).2 f = disk f
      split
      · exact if_neg hne
      · rfl
    | _ => rfl
  | createSession | closeSession | forceCloseSession => rfl

def wornFileSystem (folder : FileString) (hvm : ¬InFolder folder vmPath) : FileSystem wornWorld folder where
  files disk f := disk f
  reading := wornWorld_reading hvm
  exists_iff := (diskFileSystem folder).exists_iff
  exists_self := (diskFileSystem folder).exists_self
  copied := (diskFileSystem folder).copied
  copy_frame := (diskFileSystem folder).copy_frame
  created := (diskFileSystem folder).created
  create_frame := (diskFileSystem folder).create_frame
  removed := (diskFileSystem folder).removed
  remove_frame := (diskFileSystem folder).remove_frame
  renamed := (diskFileSystem folder).renamed
  notRenamed := (diskFileSystem folder).notRenamed
  rename_frame := (diskFileSystem folder).rename_frame

/-- An applet is installed, and installed again: the VM gives it up and cannot load it again, so the
second install fails and leaves the record. The uninstall finds that the VM has no such applet, deletes
the file, reports a success and leaves the record. -/
theorem uninstall_leaves_record : ∃ hvm : ¬InFolder exampleFolder vmPath,
    ¬UninstallSpec (wornFileSystem exampleFolder hvm) exampleApplet none (runCalls wornWorld
      [.install exampleApplet exampleFile, .install exampleApplet exampleFile] (startedDisk .beihaiV1)) := by
  refine ⟨by unfold InFolder; decide, fun hspec => ?_⟩
  have hgone := (hspec.success (by decide +kernel)).1.record
  revert hgone
  decide +kernel

end DalHost

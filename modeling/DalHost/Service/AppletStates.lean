import DalHost.Service.Refinement

/-!
# States of applets

What the steps of a command make of the state of an applet, and how an install leaves the record of
its applet: `INSTALLED` when it succeeds, and never pending.
-/

namespace DalHost

/-! ### Edits of the table -/

section States

variable {a : AppletTable} {appId other : Bytes}

theorem getAppletState_insert_of_ne (h : other ≠ appId) (r : AppletRecord) :
    getAppletState (a.insert appId r) other = getAppletState a other := by
  unfold getAppletState
  rw [OrdMap.find?_insert, if_neg h]

theorem getAppletState_erase (a : AppletTable) (appId other : Bytes) :
    getAppletState (a.erase appId) other = if other = appId then .notInstalled else getAppletState a other := by
  unfold getAppletState
  rw [OrdMap.find?_erase]
  split_ifs <;> rfl

theorem find?_setInstalled (a : AppletTable) (appId other : Bytes) :
    (setInstalled a appId).find? other =
      if other = appId then some { (a.find? appId).getD ⟨.notInstalled, false, false⟩ with status := .installed }
      else a.find? other := by
  unfold setInstalled
  rw [OrdMap.find?_modify, OrdMap.find?_insert, if_pos rfl, OrdMap.find?_insert]
  split_ifs <;> rfl

theorem getAppletState_setInstalled (a : AppletTable) (appId other : Bytes) :
    getAppletState (setInstalled a appId) other = if other = appId then .installed else getAppletState a other := by
  unfold getAppletState
  rw [find?_setInstalled]
  split_ifs <;> rfl

theorem find?_of_installed {t : AppletTable} {appId : Bytes} (h : getAppletState t appId = .installed) :
    ∃ r, t.find? appId = some r := by
  cases hr : t.find? appId with
  | none => simp [getAppletState, hr] at h
  | some r => exact ⟨r, rfl⟩

theorem mem_getLoadedAppletsList {t : AppletTable} {appId : Bytes} :
    appId ∈ getLoadedAppletsList t ↔ getAppletState t appId = .installed := by
  rw [getLoadedAppletsList, List.mem_map]
  constructor
  · rintro ⟨e, he, rfl⟩
    obtain ⟨hmem, hstatus⟩ := List.mem_filter.1 he
    rw [getAppletState, OrdMap.mem_entries_iff.1 hmem]
    simpa using hstatus
  · intro h
    obtain ⟨r, hr⟩ := find?_of_installed h
    rw [getAppletState, hr] at h
    exact ⟨(appId, r), List.mem_filter.2 ⟨OrdMap.mem_entries_iff.2 hr, by simpa using h⟩, rfl⟩

theorem AppletEdit.installed {ℓ : Licence} {t : SessionTable} {a' : AppletTable} (h : AppletEdit ℓ t a a')
    {id : SessionId} {r : SessionRecord} (hr : t.find? id = some r) (hupper : toUpperCase r.appId = r.appId)
    (hstate : getAppletState a r.appId = .installed) : getAppletState a' r.appId = .installed := by
  cases h with
  | keep => exact hstate
  | @markPending A _ hA =>
    have hne : r.appId ≠ A := by
      intro heq
      rw [← heq, hstate] at hA
      cases hA
    rw [getAppletState_insert_of_ne hne, hstate]
  | setInstalled =>
    rw [getAppletState_setInstalled]
    split_ifs
    · rfl
    · exact hstate
  | @dropPending A _ hA =>
    have hne : r.appId ≠ A := by
      intro heq
      rw [← heq, hstate] at hA
      cases hA
    rw [getAppletState_erase, if_neg hne, hstate]
  | @forget A _ hlive =>
    have hne : r.appId ≠ A := by
      intro heq
      rw [hasLiveSessions_eq_false_iff, ← heq] at hlive
      exact hlive id r hr hupper
    rw [getAppletState_erase, if_neg hne, hstate]

theorem AppletEdit.settled {ℓ : Licence} {t : SessionTable} {a' : AppletTable} (h : AppletEdit ℓ t a a')
    (hA : ¬ℓ.install appId) (hstate : getAppletState a appId ≠ .pendingInstall) :
    getAppletState a' appId ≠ .pendingInstall := by
  cases h with
  | keep => exact hstate
  | @markPending A hP _ =>
    have hne : appId ≠ A := fun heq => hA (heq ▸ hP)
    rwa [getAppletState_insert_of_ne hne]
  | @setInstalled A hP =>
    have hne : appId ≠ A := fun heq => hA (heq ▸ hP)
    rwa [getAppletState_setInstalled, if_neg hne]
  | dropPending | forget =>
    rw [getAppletState_erase]
    split_ifs
    · simp
    · exact hstate

theorem AppletEdit.real {ℓ : Licence} {t : SessionTable} {a' : AppletTable} (h : AppletEdit ℓ t a a')
    (hreal : ∀ appId r, a.find? appId = some r → r.status ≠ .notInstalled) :
    ∀ appId r, a'.find? appId = some r → r.status ≠ .notInstalled := by
  intro appId r hr
  cases h with
  | keep => exact hreal appId r hr
  | markPending hP hA =>
    rw [OrdMap.find?_insert] at hr
    split_ifs at hr with heq
    · subst heq
      cases hold : a.find? appId with
      | none =>
        rw [hold] at hr
        cases hr
        decide
      | some r' =>
        rw [hold] at hr
        cases hr
        exact hreal appId _ hold
    · exact hreal appId r hr
  | setInstalled hP =>
    rw [find?_setInstalled] at hr
    split_ifs at hr
    · cases hr
      simp
    · exact hreal appId r hr
  | dropPending | forget =>
    rw [OrdMap.find?_erase] at hr
    split_ifs at hr
    exact hreal appId r hr

end States

section Installs

variable {φ : Type} {W : World φ}

/-! ### Installs -/

theorem completeInstall_applets (appId : Bytes) (isAcp : Bool) (s : Service φ) :
    ((completeInstall W appId isAcp).exe s).2.appletTable =
      if ((completeInstall W appId isAcp).exe s).1 = true then setInstalled s.appletTable appId else s.appletTable := by
  have hsync : ∀ u : Service φ, ((syncAppletToDisk W appId).exe u).2.appletTable = u.appletTable := by
    intro u
    simp only [syncAppletToDisk, syncAppletRepoToDisk, exe_bind, exe_get, exe_onEnv, exe_ite, exe_pure]
    split_ifs <;> rfl
  simp only [completeInstall, exe_bind, exe_get, exe_onEnv]
  cases ((W.renameFile (getPendingFileName s.appletsFolder appId isAcp) (getFileName s.appletsFolder appId isAcp)).exe
    _).1
  · simp only [Bool.not_false, if_true, exe_pure, Bool.false_eq_true, if_false]
    exact hsync _
  · simp only [Bool.not_true, Bool.false_eq_true, if_false, exe_bind, exe_modifyApplets, exe_pure, if_true]
    rw [hsync]

theorem errorRemoveApplet_settled (appId : Bytes) (isAcp : Bool) (s : Service φ) :
    getAppletState ((errorRemoveApplet W appId isAcp).exe s).2.appletTable appId ≠ .pendingInstall := by
  simp only [errorRemoveApplet, exe_bind, exe_get, exe_onEnv, exe_ite]
  split_ifs with hstate
  · simp only [removeAppletRecord, exe_bind, exe_get, exe_modifyApplets, exe_pure]
    rw [getAppletState_erase, if_pos rfl]
    simp
  · exact hstate

/-- An install that ends leaves no pending record of its applet, and one that succeeds leaves it
`INSTALLED`. -/
def Ends (appId : Bytes) (ret : JhiRet) (t : Service φ) : Prop :=
  getAppletState t.appletTable appId ≠ .pendingInstall ∧
    (ret = jhiSuccess → getAppletState t.appletTable appId = .installed)

theorem finishInstall_ends (appId : Bytes) (isAcp : Bool) (ret : JhiRet) (s : Service φ) :
    Ends appId ((finishInstall W appId true isAcp ret).exe s).1 ((finishInstall W appId true isAcp ret).exe s).2 := by
  have herror : ∀ code : JhiRet, code ≠ jhiSuccess → ∀ u : Service φ,
      Ends appId code ((errorRemoveApplet W appId isAcp).exe u).2 :=
    fun code hcode u => ⟨errorRemoveApplet_settled appId isAcp u, fun h => absurd h hcode⟩
  simp only [finishInstall, exe_ite, if_true, exe_bind, exe_pure]
  split_ifs with hret hcomplete
  · exact herror ret hret s
  · exact herror jhiInternalError (by decide) _
  · have happlets := completeInstall_applets (W := W) appId isAcp s
    rw [if_pos (by simpa using hcomplete)] at happlets
    have hstate : getAppletState ((completeInstall W appId isAcp).exe s).2.appletTable appId = .installed := by
      rw [happlets, getAppletState_setInstalled, if_pos rfl]
    refine ⟨?_, fun _ => hstate⟩
    rw [hstate]
    simp

theorem dropPendingFile_applets (file : FileString) (s : Service φ) :
    ((dropPendingFile W file).exe s).2.appletTable = s.appletTable := by
  simp only [dropPendingFile, exe_bind, exe_onEnv, exe_ite, exe_pure]
  split_ifs <;> rfl

theorem getAppletBlobs_applets (file : FileString) (isAcp : Bool) (s : Service φ) :
    ((getAppletBlobs W file isAcp).exe s).2.appletTable = s.appletTable := by
  simp only [getAppletBlobs, readFileAsBlob, exe_ite]
  split_ifs
  · simp only [exe_bind, exe_onEnv]
    split <;> rfl
  · simp only [exe_bind, exe_onEnv]
    split <;> rfl
  · rfl

theorem getAppletBlobs_error {file : FileString} {isAcp : Bool} {s : Service φ} {ret : JhiRet}
    (h : ((getAppletBlobs W file isAcp).exe s).1 = .error ret) : ret ≠ jhiSuccess := by
  simp only [getAppletBlobs, readFileAsBlob, exe_ite] at h
  split_ifs at h
  · simp only [exe_bind] at h
    split at h <;> cases h
    decide
  · simp only [exe_bind] at h
    split at h <;> cases h <;> decide
  · cases h
    decide

theorem prepareInstallFromFile_error {file : FileString} {appId : Bytes} {isAcp : Bool} {s : Service φ} {ret : JhiRet}
    (h : ((prepareInstallFromFile W file appId isAcp).exe s).1 = .error ret) :
    ret ≠ jhiSuccess ∧ ((prepareInstallFromFile W file appId isAcp).exe s).2.appletTable = s.appletTable := by
  have hdrop := fun f (u : Service φ) => dropPendingFile_applets (W := W) f u
  unfold prepareInstallFromFile at h ⊢
  simp only [exe_bind, exe_get, exe_onEnv, exe_ite, exe_pure] at h ⊢
  split_ifs at h ⊢
  · cases h
    exact ⟨by decide, hdrop _ _⟩
  · cases h
    exact ⟨by decide, hdrop _ _⟩
  · have hblobs := fun u : Service φ =>
      getAppletBlobs_applets (W := W) (getPendingFileName s.appletsFolder appId isAcp) isAcp u
    generalize hr : (getAppletBlobs W (getPendingFileName s.appletsFolder appId isAcp) isAcp).exe _ = r at h ⊢
    obtain ⟨blobs, u⟩ := r
    cases blobs with
    | error ret' =>
      simp only [exe_bind, exe_pure, Except.error.injEq] at h ⊢
      subst h
      refine ⟨getAppletBlobs_error (congrArg Prod.fst hr), (hdrop _ _).trans ?_⟩
      exact (congrArg (fun r => r.2.appletTable) hr).symm.trans (hblobs _)
    | ok blobs =>
      simp only [exe_bind, exe_pure] at h
      cases h

theorem prepareInstallFromBuffer_error {blob appId : Bytes} {s : Service φ}
    (h : ((prepareInstallFromBuffer W blob appId).exe s).1 ≠ jhiSuccess) :
    ((prepareInstallFromBuffer W blob appId).exe s).2.appletTable = s.appletTable := by
  have hdrop := fun f (u : Service φ) => dropPendingFile_applets (W := W) f u
  unfold prepareInstallFromBuffer at h ⊢
  simp only [exe_bind, exe_get, exe_onEnv, exe_ite, exe_pure] at h ⊢
  split_ifs at h ⊢
  · exact hdrop _ _
  · exact hdrop _ _
  · exact hdrop _ _
  · exact absurd rfl h

theorem installCleared_ends {appId : Bytes} (file : FileString) (isAcp : Bool) {s : Service φ}
    (hs : getAppletState s.appletTable appId ≠ .pendingInstall) :
    Ends appId ((installCleared W appId file true isAcp).exe s).1
      ((installCleared W appId file true isAcp).exe s).2 := by
  have hearly : ∀ (ret : JhiRet) (u : Service φ), ret ≠ jhiSuccess → u.appletTable = s.appletTable → Ends appId ret u :=
    fun ret u hret hu => ⟨hu ▸ hs, fun h => absurd h hret⟩
  unfold installCleared installBlobs
  simp only [exe_bind, exe_get, exe_onEnv, exe_ite, exe_pure, if_true]
  split_ifs
  · exact hearly jhiNoConnectionToFirmware _ (by decide) rfl
  · exact hearly jhiFileNotFound _ (by decide) rfl
  · exact hearly jhiInvalidFileExtension _ (by decide) rfl
  · have herror := fun ret (u : Service φ) => @prepareInstallFromFile_error φ W file appId isAcp u ret
    generalize hr : (prepareInstallFromFile W file appId isAcp).exe _ = r
    obtain ⟨blobs, u⟩ := r
    cases blobs with
    | error ret =>
      obtain ⟨hret, hu⟩ := herror ret _ (congrArg Prod.fst hr)
      exact hearly _ _ hret ((congrArg (fun r => r.2.appletTable) hr).symm.trans hu)
    | ok blobs =>
      simp only [exe_bind]
      exact finishInstall_ends appId isAcp _ _

theorem cmdPkgInstallCleared_ends {appId : Bytes} (handle : VmHandle) (blob : Bytes) {s : Service φ}
    (hs : getAppletState s.appletTable appId ≠ .pendingInstall) :
    Ends appId ((cmdPkgInstallCleared W appId handle blob).exe s).1
      ((cmdPkgInstallCleared W appId handle blob).exe s).2 := by
  have hearly : ∀ (ret : JhiRet) (u : Service φ), ret ≠ jhiSuccess → u.appletTable = s.appletTable → Ends appId ret u :=
    fun ret u hret hu => ⟨hu ▸ hs, fun h => absurd h hret⟩
  unfold cmdPkgInstallCleared
  simp only [exe_bind, exe_get, exe_ite, exe_pure]
  split_ifs with hreg hprepared
  · exact hearly jhiNoConnectionToFirmware _ (by decide) rfl
  · exact hearly _ _ hprepared (prepareInstallFromBuffer_error hprepared)
  all_goals exact finishInstall_ends appId true _ _

end Installs

end DalHost

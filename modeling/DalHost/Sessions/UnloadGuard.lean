import DalHost.Service.AppletStates

/-!
# Unloading applets that have sessions

`jhis_unload` refuses to unload an applet that has sessions. An install takes the applet out of the
VM without asking when the VM calls the package identical to what it has, and when the new file
cannot be given its name; all that stands before this is a clean-up that leaves sessions with live
owners alone. The invariant below holds in every run whose installs find no session of their applet
after that clean-up, or are not disturbed: at every unload the applet has no session, and before
Beihai v2 every session belongs to an applet whose record is `INSTALLED`.
-/

namespace DalHost

/-! ### The invariant -/

/-- An unload is in order: the applet has no session, and on Beihai v1 every session belongs to an
applet whose record is `INSTALLED`. -/
def UnloadOk (vmType : VmType) (e : LogEntry) : Prop :=
  ∀ appId, e.call.Unloads appId → hasLiveSessions e.table appId = false ∧
    (vmType = .beihaiV1 → ∀ id r, e.table.find? id = some r → getAppletState e.applets r.appId = .installed)

section Invariant

variable {φ : Type} {W : World φ} {s t : Service φ} {ℓ : Licence} {g : Prop}

/-- What holds in the course of every command. The entries of the log are in order if the installs are
(`g`); the rest holds in any case. -/
structure UnloadInv (g : Prop) (s : Service φ) : Prop where
  unloads : g → ∀ e ∈ s.log, UnloadOk s.vmType e
  installed : s.vmType ≠ .beihaiV2 →
    ∀ id r, s.sessionList.find? id = some r → getAppletState s.appletTable r.appId = .installed
  upper : ∀ id r, s.sessionList.find? id = some r → toUpperCase r.appId = r.appId
  real : ∀ appId r, s.appletTable.find? appId = some r → r.status ≠ .notInstalled

/-- A step keeps the invariant unless it unloads an applet under its sessions. -/
theorem UnloadInv.step (h : UnloadInv g s) (hst : CareQuietStep W ℓ s t)
    (hforce : g → ∀ appId, ℓ.force appId → hasLiveSessions s.sessionList appId = false) : UnloadInv g t := by
  obtain ⟨hquiet, hcare⟩ := hst
  have hvm := hquiet.vmType_eq
  refine ⟨fun hg e he => ?_, fun hv => ?_, ?_, hcare.applets.real h.real⟩
  · rw [hvm]
    rcases hcare.log e he with hold | ⟨htable, happlets, hunload⟩
    · exact h.unloads hg e hold
    · intro appId happ
      rw [htable, happlets]
      refine ⟨?_, fun hv1 => h.installed (by rw [hv1]; decide)⟩
      rcases hunload appId happ with ⟨-, hlive⟩ | hF
      · exact hlive
      · exact hforce hg appId hF
  · rw [hvm] at hv
    -- every session of `t` is a session of `s` as far as its applet goes
    refine closed_appIds W (fun A => getAppletState t.appletTable A = .installed) s t hquiet fun id r hr => ?_
    exact hcare.applets.installed hr (h.upper id r hr) (h.installed hv id r hr)
  · exact closed_appIds W (fun A => toUpperCase A = A) s t hquiet h.upper

/-- The invariant between two commands: no install is under way. -/
structure Settled (g : Prop) (s : Service φ) : Prop extends UnloadInv g s where
  settled : ∀ appId, getAppletState s.appletTable appId ≠ .pendingInstall

theorem closed_settled (W : World φ) (g : Prop) (hP : ∀ appId, ¬ℓ.install appId) (hF : ∀ appId, ¬ℓ.force appId) :
    Closed (CareQuietStep W ℓ) (Settled g) := fun _ _ hst h =>
  { toUnloadInv := h.toUnloadInv.step hst fun _ appId h => absurd h (hF appId)
    settled := fun appId => hst.2.applets.settled (hP appId) (h.settled appId) }

theorem closed_settled_none (W : World φ) (g : Prop) : Closed (CareQuietStep W .none) (Settled g) :=
  closed_settled W g (fun _ h => h) fun _ h => h

theorem closed_settled_uninstalling (W : World φ) (g : Prop) : Closed (CareStep W .uninstalling) (Settled g) :=
  Closed.ofCareQuiet (closed_settled W g (fun _ h => h) fun _ h => h)

/-! ### Installs that leave sessions alone -/

/-- The VM calls one of the blobs it is offered identical to what it has. -/
def MeetsIdentical (W : World φ) (appId : Bytes) : List Bytes → φ → Prop
  | [], _ => False
  | blob :: blobs, e =>
    ((W.pluginDownloadApplet appId blob).exe e).1 = jhiFileIdentical ∨
      ((W.pluginDownloadApplet appId blob).exe e).1 ≠ jhiMaxInstalledAppletsReached ∧
        ((W.pluginDownloadApplet appId blob).exe e).1 ≠ jhiSuccess ∧
        MeetsIdentical W appId blobs ((W.pluginDownloadApplet appId blob).exe e).2

/-- The pending file of the applet can be given its name, once the old files are deleted. -/
def Renames (W : World φ) (appId : Bytes) (isAcp : Bool) (s : Service φ) : Prop :=
  ((do
    let _ ← W.removeFile (getFileName s.appletsFolder appId isAcp)
    let _ ← W.removeFile (getFileName s.appletsFolder appId !isAcp)
    W.renameFile (getPendingFileName s.appletsFolder appId isAcp) (getFileName s.appletsFolder appId isAcp)).exe
      s.env).1 = true

section Calm

variable {I : Service φ → Prop} (hI : Closed (CareStep W ℓ) I)
include hI

theorem downloadBlobs_calm (appId : Bytes) (ret : JhiRet) (blobs : List Bytes) {s : Service φ}
    (hcalm : ¬MeetsIdentical W appId blobs s.env) (hs : I s) : I ((downloadBlobs W appId ret blobs).exe s).2 := by
  induction blobs generalizing ret s with
  | nil => exact hs
  | cons blob blobs ih =>
    have hdownload := keeps_env hI (.downloadApplet (W := W) appId blob) s hs
    simp only [MeetsIdentical, not_or, not_and] at hcalm
    simp only [downloadBlobs, exe_bind, exe_onEnv, exe_ite, if_neg hcalm.1] at hdownload ⊢
    split_ifs with hstop
    · exact hdownload
    · rw [not_or] at hstop
      exact ih _ (hcalm.2 hstop.1 hstop.2) hdownload

theorem finishInstall_calm {appId : Bytes} (hP : ℓ.install appId) (isAcp : Bool) (ret : JhiRet) {s : Service φ}
    (hcalm : ret = jhiSuccess → Renames W appId isAcp s) (hs : I s) :
    I ((finishInstall W appId true isAcp ret).exe s).2 := by
  have hcomplete := keeps_completeInstall hI hP isAcp s hs
  simp only [finishInstall, if_true, exe_ite, exe_bind]
  split_ifs with hret hfail
  · exact keeps_errorRemoveApplet hI hP isAcp s hs
  · have hren := hcalm (by simpa using hret)
    simp only [Renames, exe_bind] at hren
    simp only [completeInstall, exe_bind, exe_get, exe_onEnv, hren, Bool.not_true, Bool.false_eq_true, if_false,
      exe_pure] at hfail
  · exact hcomplete

end Calm

/-- If the install gets to its downloads, none is answered "identical", and its file gets its name. -/
def FileCalm (W : World φ) (appId : Bytes) (file : FileString) (isAcp : Bool) (s : Service φ) : Prop :=
  s.pluginRegistered = true → ((W.fileExists file).exe s.env).1 = true →
    compareFileExtension file (fileExt isAcp) = true → ∀ blobs t,
      (installBlobs W appId file true isAcp).exe ((onEnv (W.fileExists file)).exe s).2 = (.ok blobs, t) →
        ¬MeetsIdentical W appId blobs t.env ∧
          ∀ t', (downloadWithEviction W appId blobs).exe t = (jhiSuccess, t') → Renames W appId isAcp t'

/-- The same for an install package. -/
def PackageCalm (W : World φ) (appId : Bytes) (handle : VmHandle) (blob : Bytes) (s : Service φ) : Prop :=
  s.pluginRegistered = true → ∀ t, (prepareInstallFromBuffer W blob appId).exe s = (jhiSuccess, t) →
    ((W.pluginSendCmdPkg handle blob).exe t.env).1 ≠ teeStatusIdenticalPackage ∧
      ∀ t', (sendWithEviction W appId handle blob).exe t = (jhiSuccess, t') → Renames W appId true t'

theorem installCleared_calm {I : Service φ → Prop} (hI : Closed (CareStep W ℓ) I) (hU : ℓ.unload) {appId : Bytes}
    (hP : ℓ.install appId) {file : FileString} {isAcp : Bool} {s : Service φ}
    (hcalm : FileCalm W appId file isAcp s) (hs : I s) : I ((installCleared W appId file true isAcp).exe s).2 := by
  have hexists := keeps_env hI (.fileExists (W := W) file) s hs
  have hblobs := keeps_prepareInstallFromFile hI file hP isAcp _ hexists
  unfold FileCalm installBlobs at hcalm
  unfold installCleared installBlobs
  simp only [if_true] at hcalm
  simp only [exe_bind, exe_get, exe_ite, exe_onEnv, if_true, Bool.not_eq_true'] at hexists hblobs hcalm ⊢
  split_ifs with hplugin hfile hext
  · exact hs
  · exact hexists
  · exact hexists
  · replace hcalm := hcalm (Bool.not_eq_false _ ▸ hplugin) (Bool.not_eq_false _ ▸ hfile) (Bool.not_eq_false _ ▸ hext)
    generalize (prepareInstallFromFile W file appId isAcp).exe _ = r at hblobs hcalm ⊢
    obtain ⟨blobs, t⟩ := r
    cases blobs with
    | error ret => exact hblobs
    | ok blobs =>
      obtain ⟨hidentical, hren⟩ := hcalm blobs t rfl
      have hdown : I ((downloadWithEviction W appId blobs).exe t).2 :=
        keeps_evictAndRetry hI hU _ (keeps_downloadAgain hI appId _ blobs) _
          (downloadBlobs_calm hI appId jhiSuccess blobs hidentical hblobs)
      exact finishInstall_calm hI hP isAcp _ (fun hret => hren _ (Prod.ext hret rfl)) hdown

theorem cmdPkgInstallCleared_calm {I : Service φ → Prop} (hI : Closed (CareStep W ℓ) I) (hU : ℓ.unload) {appId : Bytes}
    (hP : ℓ.install appId) {handle : VmHandle} {blob : Bytes} {s : Service φ}
    (hcalm : PackageCalm W appId handle blob s) (hs : I s) :
    I ((cmdPkgInstallCleared W appId handle blob).exe s).2 := by
  have hprepared := keeps_prepareInstallFromBuffer hI blob hP s hs
  have hsend := keeps_env hI (.sendCmdPkg (W := W) handle blob)
  unfold PackageCalm at hcalm
  simp only [cmdPkgInstallCleared, exe_bind, exe_get, exe_ite]
  split_ifs with hreg hret
  · exact hs
  · exact hprepared
  · have hsuccess : ((prepareInstallFromBuffer W blob appId).exe s).1 = jhiSuccess := by simpa using hret
    obtain ⟨hidentical, hren⟩ := hcalm (by simpa using hreg) ((prepareInstallFromBuffer W blob appId).exe s).2 (Prod.ext hsuccess rfl)
    generalize ((prepareInstallFromBuffer W blob appId).exe s).2 = t at hprepared hidentical hren ⊢
    have hfirst : I ((sendInstallPkg W appId handle blob).exe t).2 := by
      simp only [sendInstallPkg, exe_bind, exe_ite, exe_onEnv, exe_pure]
      rw [if_neg hidentical]
      exact hsend t hprepared
    have hsent : I ((sendWithEviction W appId handle blob).exe t).2 := keeps_evictAndRetry hI hU _ hsend _ hfirst
    exact finishInstall_calm hI hP true _ (fun hret => hren _ (Prod.ext hret rfl)) hsent

/-! ### Commands that install -/

theorem settled_of_install (ℓ : Licence) {appId : Bytes} {ret : JhiRet} (hP : ∀ A, ℓ.install A → A = appId)
    (hF : g → ∀ A, ℓ.force A → hasLiveSessions s.sessionList A = false)
    (hsteps : ∀ I : Service φ → Prop, Closed (CareStep W ℓ) I → I s → I t) (hs : Settled g s) (hends : Ends appId ret t) :
    Settled g t := by
  have hclosed : Closed (CareStep W ℓ) fun u =>
      UnloadInv g u ∧ (g → ∀ A, ℓ.force A → hasLiveSessions u.sessionList A = false) := fun u v hst h =>
    ⟨h.1.step ⟨.clean hst.clean, hst.careful⟩ h.2, fun hg A hA => closed_noSessions W A u v hst.clean (h.2 hg A hA)⟩
  refine ⟨(hsteps _ hclosed ⟨hs.toUnloadInv, hF⟩).1, fun other => ?_⟩
  by_cases heq : other = appId
  · rw [heq]
    exact hends.1
  · have hother : Closed (CareStep W ℓ) fun u => getAppletState u.appletTable other ≠ .pendingInstall :=
      fun u v hst h => hst.careful.applets.settled (fun hA => heq (hP other hA)) h
    exact hsteps _ hother (hs.settled other)

/-- An install of the applet from a file that begins in state `s` does not unload it under its
sessions: the clean-up leaves none, or the install goes on without disturbance. -/
def InstallOk (W : World φ) (appId : Bytes) (file : FileString) (isAcp : Bool) (s : Service φ) : Prop :=
  hasLiveSessions ((clearForApplet W appId).exe s).2.sessionList appId = false ∨
    FileCalm W appId file isAcp ((clearForApplet W appId).exe s).2

/-- The same for an install package. -/
def PackageOk (W : World φ) (appId : Bytes) (handle : VmHandle) (blob : Bytes) (s : Service φ) : Prop :=
  hasLiveSessions ((clearForApplet W appId).exe s).2.sessionList appId = false ∨
    PackageCalm W appId handle blob ((clearForApplet W appId).exe s).2

theorem settled_jhisInstall {appId : Bytes} {file : FileString} {isAcp : Bool} {s : Service φ} (hs : Settled g s)
    (hok : g → InstallOk W appId file isAcp s) :
    Settled g ((jhisInstall W appId file true isAcp).exe s).2 ∧
      Ends appId ((jhisInstall W appId file true isAcp).exe s).1 ((jhisInstall W appId file true isAcp).exe s).2 := by
  have hclear := keeps_clearForApplet (Closed.tidy (closed_settled_uninstalling W g)) appId s hs
  unfold InstallOk at hok
  rw [jhisInstall, exe_bind]
  generalize ((clearForApplet W appId).exe s).2 = u at hclear hok ⊢
  have hends := installCleared_ends (W := W) file isAcp (hclear.settled appId)
  refine ⟨?_, hends⟩
  by_cases hforce : g → hasLiveSessions u.sessionList appId = false
  · refine settled_of_install (W := W) (.forcing appId) (fun A hA => hA) (fun hg A hA => ?_) (fun I hI => ?_) hclear hends
    · exact hA ▸ hforce hg
    · exact keeps_installCleared hI trivial rfl rfl file true isAcp _
  · rw [Classical.not_imp] at hforce
    have hcalm := (hok hforce.1).resolve_left hforce.2
    exact settled_of_install (W := W) (.installing appId) (fun A hA => hA) (fun _ A hA => hA.elim)
      (fun I hI => installCleared_calm hI trivial rfl hcalm) hclear hends

theorem settled_cmdPkgInstallJta {appId : Bytes} {handle : VmHandle} {blob : Bytes} {s : Service φ} (hs : Settled g s)
    (hok : g → PackageOk W appId handle blob s) : Settled g ((cmdPkgInstallJta W appId handle blob).exe s).2 := by
  have hclear := keeps_clearForApplet (Closed.tidy (closed_settled_uninstalling W g)) appId s hs
  unfold PackageOk at hok
  rw [cmdPkgInstallJta, exe_bind]
  generalize ((clearForApplet W appId).exe s).2 = u at hclear hok ⊢
  have hends := cmdPkgInstallCleared_ends (W := W) handle blob (hclear.settled appId)
  by_cases hforce : g → hasLiveSessions u.sessionList appId = false
  · refine settled_of_install (W := W) (.forcing appId) (fun A hA => hA) (fun hg A hA => ?_) (fun I hI => ?_) hclear hends
    · exact hA ▸ hforce hg
    · exact keeps_cmdPkgInstallCleared hI trivial rfl rfl handle blob _
  · rw [Classical.not_imp] at hforce
    have hcalm := (hok hforce.1).resolve_left hforce.2
    exact settled_of_install (W := W) (.installing appId) (fun A hA => hA) (fun _ A hA => hA.elim)
      (fun I hI => cmdPkgInstallCleared_calm hI trivial rfl hcalm) hclear hends

theorem installOk_of_notInstalled {appId : AppId} (file : FileString) (isAcp : Bool) {s : Service φ} (hs : Settled g s)
    (hvm : s.vmType ≠ .beihaiV2) (hstate : getAppletState s.appletTable appId.text = .notInstalled) :
    InstallOk W appId.text file isAcp s := by
  have hlive : hasLiveSessions s.sessionList appId.text = false := by
    rw [hasLiveSessions_eq_false_iff, appId.toUpperCase_text]
    intro id r hr heq
    have hinst := hs.installed hvm id r hr
    rw [← heq, hstate] at hinst
    cases hinst
  exact .inl (keeps_clearForApplet (Closed.toTidy (closed_noSessions W appId.text)) appId.text s hlive)

/-! ### Creating a session -/

/-- The service as far as the invariant looks at it. -/
structure SameView (s t : Service φ) : Prop where
  sessions : t.sessionList = s.sessionList
  log : t.log = s.log
  vmType : t.vmType = s.vmType
  states : ∀ appId, getAppletState t.appletTable appId = getAppletState s.appletTable appId
  records : ∀ appId, (t.appletTable.find? appId).isSome = (s.appletTable.find? appId).isSome

theorem Settled.congr (hs : Settled g s) (h : SameView s t) : Settled g t := by
  refine ⟨⟨?_, ?_, ?_, ?_⟩, ?_⟩
  · rw [h.log, h.vmType]
    exact hs.unloads
  · rw [h.sessions, h.vmType]
    intro hv id r hr
    rw [h.states]
    exact hs.installed hv id r hr
  · rw [h.sessions]
    exact hs.upper
  · intro appId r hr hstatus
    have hrecord := h.records appId
    have hstate := h.states appId
    rw [hr] at hrecord
    obtain ⟨r', hr'⟩ := Option.isSome_iff_exists.1 hrecord.symm
    simp only [getAppletState, hr, hr', hstatus] at hstate
    exact hs.real appId r' hr' hstate.symm
  · intro appId
    rw [h.states]
    exact hs.settled appId

theorem queryProperty_state (appId tx : Bytes) (n : UInt32) (s : Service φ) :
    ∃ e, ((queryProperty W appId tx n).exe s).2 = { s with env := e } := by
  simp only [queryProperty, exe_bind, exe_get, exe_ite, exe_onEnv, exe_pure]
  split_ifs <;> exact ⟨_, rfl⟩

theorem getAppletState_support {a : AppletTable} {appId : Bytes} (h : getAppletState a appId = .installed)
    (f : AppletRecord → AppletRecord) (hf : ∀ r, (f r).status = r.status) (other : Bytes) :
    getAppletState ((a.insert appId ⟨.notInstalled, false, false⟩).modify appId f) other = getAppletState a other := by
  unfold getAppletState at h ⊢
  rw [OrdMap.find?_modify, OrdMap.find?_insert, if_pos rfl, OrdMap.find?_insert]
  split_ifs with heq
  · subst heq
    cases hr : a.find? other with
    | none =>
      rw [hr] at h
      cases h
    | some r => exact hf r
  · rfl

theorem find?_support_isSome {a : AppletTable} {appId : Bytes} (h : getAppletState a appId = .installed)
    (f : AppletRecord → AppletRecord) (other : Bytes) :
    (((a.insert appId ⟨.notInstalled, false, false⟩).modify appId f).find? other).isSome = (a.find? other).isSome := by
  rw [OrdMap.find?_modify, OrdMap.find?_insert, if_pos rfl, OrdMap.find?_insert]
  split_ifs with heq
  · subst heq
    unfold getAppletState at h
    cases hr : a.find? other with
    | none =>
      rw [hr] at h
      cases h
    | some r => rfl
  · rfl

theorem updateSharedSessionSupport_view {appId : Bytes} {s : Service φ}
    (h : getAppletState s.appletTable appId = .installed) :
    SameView s ((updateSharedSessionSupport W appId).exe s).2 := by
  have hprop : isSupportedProperty sharedSessionSupportProperty = true := by decide
  have hstate : getAppletState s.appletTable appId ≠ .notInstalled := by
    rw [h]
    decide
  obtain ⟨e, he⟩ := queryProperty_state (W := W) appId sharedSessionSupportProperty 6 s
  simp only [updateSharedSessionSupport, getAppletPropertyV1, ensureInstalled, hprop, Bool.not_true, Bool.false_eq_true,
    if_false, exe_bind, exe_get, if_neg hstate, exe_pure, exe_modifyApplets, he]
  exact ⟨rfl, rfl, rfl, getAppletState_support h _ fun _ => rfl, find?_support_isSome h _⟩

theorem isSharedSessionSupported_view {appId : Bytes} {s : Service φ}
    (h : getAppletState s.appletTable appId = .installed) :
    SameView s ((isSharedSessionSupported W appId).exe s).2 := by
  have hsame : SameView s s := ⟨rfl, rfl, rfl, fun _ => rfl, fun _ => rfl⟩
  simp only [isSharedSessionSupported, exe_bind, exe_get]
  cases s.appletTable.find? appId with
  | none => exact hsame
  | some r =>
    have hview := updateSharedSessionSupport_view (W := W) h
    dsimp only
    split_ifs
    · simp only [exe_bind, exe_get]
      split <;> exact hview
    · simp only [exe_bind, exe_get]
      split <;> exact hsame

theorem lookForShared_view {appId : Bytes} {s : Service φ}
    (h : s.vmType ≠ .beihaiV2 → getAppletState s.appletTable appId = .installed) :
    SameView s ((lookForShared W appId).exe s).2 := by
  simp only [lookForShared, exe_bind, exe_get, exe_ite, exe_pure]
  by_cases hvm : s.vmType = .beihaiV2
  · rw [if_neg (not_not_intro hvm)]
    exact ⟨rfl, rfl, rfl, fun _ => rfl, fun _ => rfl⟩
  · rw [if_pos hvm]
    have hview := isSharedSessionSupported_view (W := W) (h hvm)
    split_ifs <;> exact hview

/-- The invariant while a session of `appId` is created from `blobs`. -/
structure Creating (g : Prop) (appId : Bytes) (blobs : List Bytes) (s : Service φ) : Prop extends Settled g s where
  present : s.vmType ≠ .beihaiV2 → getAppletState s.appletTable appId = .installed
  hasBlob : s.vmType = .beihaiV2 → blobs ≠ []

theorem closed_creating (W : World φ) (g : Prop) (appId : Bytes) (blobs : List Bytes) :
    Closed (CareQuietStep W .none) (Creating g appId blobs) := by
  intro s t hst h
  have hvm := hst.1.vmType_eq
  refine ⟨closed_settled_none W g s t hst h.toSettled, fun hv => ?_, fun hv => h.hasBlob (hvm ▸ hv)⟩
  have hstate := h.present (hvm ▸ hv)
  have happlets := hst.2.applets
  generalize t.appletTable = a at happlets ⊢
  cases happlets with
  | keep => exact hstate
  | markPending hP | setInstalled hP | dropPending hP => exact hP.elim
  | forget hU => exact hU.elim

theorem keeps_lookForShared_creating (appId : Bytes) (blobs : List Bytes) :
    Keeps (Creating g appId blobs) (lookForShared W appId) := by
  intro s hs
  have hview := lookForShared_view (W := W) hs.present
  refine ⟨hs.toSettled.congr hview, fun hv => ?_, fun hv => hs.hasBlob (hview.vmType ▸ hv)⟩
  rw [hview.states]
  exact hs.present (hview.vmType ▸ hv)

theorem Creating.created {appId : AppId} {blobs : List Bytes} {flags : UInt32} {p : ProcessInfo}
    {res : JhiRet × Option SessionId} (h : Created W (Creating g appId.text blobs) appId.text flags p res t) :
    Settled g t := by
  rcases h with h | ⟨s, id, handle, hs, -, -, _, _, ht⟩
  · exact h.toSettled
  have hfind : ∀ i r, t.sessionList.find? i = some r → r.appId = appId.text ∨ s.sessionList.find? i = some r := by
    intro i r hr
    rw [ht, OrdMap.find?_insert] at hr
    split_ifs at hr with hi
    · subst hi
      cases hold : s.sessionList.find? i with
      | none =>
        rw [hold] at hr
        cases hr
        exact .inl appId.toUpperCase_text
      | some r' =>
        rw [hold] at hr
        exact .inr hr
    · exact .inr hr
  have hstates : t.appletTable = s.appletTable := by rw [ht]
  have hlog : t.log = s.log := by rw [ht]
  have hvm : t.vmType = s.vmType := by rw [ht]
  refine ⟨⟨?_, fun hv i r hr => ?_, fun i r hr => ?_, ?_⟩, ?_⟩
  · rw [hlog, hvm]
    exact hs.unloads
  · rw [hvm] at hv
    rw [hstates]
    rcases hfind i r hr with heq | hold
    · rw [heq]
      exact hs.present hv
    · exact hs.installed hv i r hold
  · rcases hfind i r hr with heq | hold
    · rw [heq, appId.toUpperCase_text]
    · exact hs.upper i r hold
  · rw [hstates]
    exact hs.real
  · rw [hstates]
    exact hs.settled

theorem Settled.installed_of_record (hs : Settled g s) {appId : Bytes}
    (h : getAppletState s.appletTable appId ≠ .notInstalled) : getAppletState s.appletTable appId = .installed := by
  have hpending := hs.settled appId
  cases hstate : getAppletState s.appletTable appId with
  | notInstalled => exact absurd hstate h
  | pendingInstall => exact absurd hstate hpending
  | installed => rfl

/-- Before Beihai v2 a create finds the applet installed or installs it, and then it has no sessions. -/
theorem settled_locateApplet (appId : AppId) {s : Service φ} (hs : Settled g s) :
    Settled g ((locateApplet W appId.text).exe s).2 ∧
      ∀ blobs, ((locateApplet W appId.text).exe s).1 = .ok blobs →
        Creating g appId.text blobs ((locateApplet W appId.text).exe s).2 := by
  have hsettled := Closed.ofCareQuiet (closed_settled_none W g)
  suffices h : Settled g ((locateApplet W appId.text).exe s).2 ∧
      ∀ blobs, ((locateApplet W appId.text).exe s).1 = .ok blobs →
        ((locateApplet W appId.text).exe s).2.vmType ≠ .beihaiV2 →
        getAppletState ((locateApplet W appId.text).exe s).2.appletTable appId.text = .installed from
    ⟨h.1, fun blobs hok => ⟨h.1, h.2 blobs hok, locateApplet_blobs hok⟩⟩
  have hrepo := keeps_appletExistInRepository hsettled appId.text s hs
  simp only [locateApplet, exe_bind, exe_get, exe_ite]
  by_cases hreg : (!s.pluginRegistered) = true
  · rw [if_pos hreg]
    exact ⟨hs, fun _ h => by cases h⟩
  rw [if_neg hreg]
  generalize (appletExistInRepository W appId.text).exe s = r at hrepo ⊢
  obtain ⟨found, u⟩ := r
  cases found with
  | none => exact ⟨hrepo, fun _ h => by cases h⟩
  | some found =>
    simp only [exe_bind, exe_get, exe_ite, exe_pure]
    by_cases hvm : u.vmType = .beihaiV2
    · rw [if_pos hvm]
      refine ⟨keeps_getAppletBlobs hsettled _ _ u hrepo, fun _ _ hv => absurd ?_ hv⟩
      exact keeps_getAppletBlobs (Closed.care (closed_vmType W .beihaiV2) .any) _ _ u hvm
    rw [if_neg hvm]
    by_cases hstate : getAppletState u.appletTable appId.text = .notInstalled
    · rw [if_pos hstate]
      have hok := installOk_of_notInstalled (W := W) found.1 found.2 hrepo hvm hstate
      obtain ⟨hinst, hends⟩ := settled_jhisInstall hrepo fun _ => hok
      split_ifs with hret
      · exact ⟨hinst, fun _ _ _ => hends.2 hret⟩
      · exact ⟨hinst, fun _ h => by cases h⟩
    · rw [if_neg hstate]
      exact ⟨hrepo, fun _ _ _ => hrepo.installed_of_record hstate⟩

theorem settled_jhisCreateSession (appId : AppId) (flags : UInt32) (init : Bytes) (p : ProcessInfo) :
    Keeps (Settled g) (jhisCreateSession W appId.text flags init p) := by
  intro s hs
  have hloc := settled_locateApplet (W := W) appId hs
  simp only [jhisCreateSession, exe_bind]
  generalize (locateApplet W appId.text).exe s = r at hloc ⊢
  obtain ⟨located, u⟩ := r
  cases located with
  | error ret => exact hloc.1
  | ok blobs =>
    have hclosed := closed_creating W g appId.text blobs
    exact Creating.created (createLocated_created hclosed.opening appId p (keeps_lookForShared_creating appId.text blobs)
      (fun _ _ hfound h => addSessionOwner_keeps hclosed p hfound h) blobs flags init (fun _ h => h.hasBlob)
      (hloc.2 blobs rfl))

/-! ### Runs -/

/-- The installs of a call that begins in state `s` are in order. -/
def InstallClear (W : World φ) : Call → Service φ → Prop
  | .install appId file, s => InstallOk W appId.text file false s
  | .getAppletProperty appId tx _, s =>
    isSupportedProperty tx = true → getAppletState s.appletTable appId.text = .notInstalled →
      ∀ found t, (appletExistInRepository W appId.text).exe s = (some found, t) →
        InstallOk W appId.text found.1 found.2 t
  | .sendCmdPkg handle blob, s => ∀ info, ((W.pluginParsePackage blob).exe s.env).1 = .ok info →
    info.packageType = .installJTA →
    PackageOk W (toUpperCase info.uuid) handle blob { s with env := ((W.pluginParsePackage blob).exe s.env).2 }
  | _, _ => True

theorem settled_ensureInstalled {appId : Bytes} {s : Service φ} (hs : Settled g s)
    (hok : g → getAppletState s.appletTable appId = .notInstalled →
      ∀ found t, (appletExistInRepository W appId).exe s = (some found, t) → InstallOk W appId found.1 found.2 t) :
    Settled g ((ensureInstalled W appId).exe s).2 := by
  have hrepo := keeps_appletExistInRepository (Closed.ofCareQuiet (closed_settled_none W g)) appId s hs
  simp only [ensureInstalled, exe_bind, exe_get, exe_ite]
  split_ifs with hstate
  · have hinstall := fun hg => hok hg hstate
    generalize (appletExistInRepository W appId).exe s = r at hrepo hinstall ⊢
    obtain ⟨found, u⟩ := r
    cases found with
    | none => exact hrepo
    | some found =>
      simp only [exe_bind, exe_pure]
      exact (settled_jhisInstall hrepo fun hg => hinstall hg found u rfl).1
  · exact hs

theorem keeps_settled_propertySession (appId : AppId) : Keeps (Settled g) (propertySession W appId.text) := by
  refine Keeps.get.bind fun s => Keeps.get.bind fun s => Keeps.ite (fun _ => ?_) fun _ => Keeps.pure _
  refine (keeps_env (Closed.ofCareQuiet (closed_settled_none W g)) .ownProcessInfo).bind fun p => ?_
  refine (settled_jhisCreateSession appId 0 [] p).bind fun r => ?_
  obtain ⟨ret, _ | id⟩ := r
  · exact Keeps.pure _
  · exact Keeps.ite (fun _ => Keeps.pure _) fun _ => Keeps.pure _

theorem settled_jhisGetAppletProperty {appId : AppId} {tx : Bytes} (n : UInt32) {s : Service φ} (hs : Settled g s)
    (hok : g → InstallClear W (.getAppletProperty appId tx n) s) :
    Settled g ((jhisGetAppletProperty W appId.text tx n).exe s).2 := by
  have hquery := keeps_queryProperty (Closed.ofCareQuiet (closed_settled_none W g)) appId.text tx n
  simp only [jhisGetAppletProperty, exe_ite]
  by_cases htx : isSupportedProperty tx = true
  · simp only [htx, Bool.not_true, Bool.false_eq_true, if_false]
    refine Keeps.ite (fun _ => Keeps.pure _) (fun _ => ?_) _ (settled_ensureInstalled hs fun hg => hok hg htx)
    refine (keeps_settled_propertySession appId).bind fun r => ?_
    match r with
    | .error ret => exact Keeps.pure _
    | .ok none => exact hquery
    | .ok (some (id, p)) =>
      exact hquery.bind fun a => (keeps_jhisCloseSession (closed_settled_none W g) id (some p) false).bind fun _ =>
        Keeps.pure _
  · rw [if_pos (by simpa using htx)]
    exact hs

theorem settled_jhisSendCmdPkg {handle : VmHandle} {blob : Bytes} {s : Service φ} (hs : Settled g s)
    (hok : g → InstallClear W (.sendCmdPkg handle blob) s) : Settled g ((jhisSendCmdPkg W handle blob).exe s).2 := by
  have hunload := closed_settled_uninstalling W g
  have hparse := keeps_env hunload (.parsePackage (W := W) blob) s hs
  have hsend := keeps_env hunload (.sendCmdPkg (W := W) handle blob)
  simp only [jhisSendCmdPkg, exe_ite, exe_bind, exe_get]
  split_ifs
  · exact hs
  · exact hs
  · have hinstall : g → ∀ info, ((W.pluginParsePackage blob).exe s.env).1 = .ok info → info.packageType = .installJTA →
        PackageOk W (toUpperCase info.uuid) handle blob ((onEnv (W.pluginParsePackage blob)).exe s).2 := hok
    generalize hparsed : ((onEnv (W.pluginParsePackage blob)).exe s).1 = parsed
    generalize ((onEnv (W.pluginParsePackage blob)).exe s).2 = t at hparse hinstall ⊢
    cases parsed with
    | error ret => exact hparse
    | ok info =>
      have hinfo := fun hg => hinstall hg info hparsed
      dsimp only
      split_ifs
      · exact hparse
      · cases hkind : info.packageType with
        | installSD | uninstallSD | updateSVL => exact hsend t hparse
        | installNTA | uninstallNTA | installJTAProp | invalid | other => exact hparse
        | installJTA =>
          simp only [exe_bind, exe_pure]
          exact settled_cmdPkgInstallJta hparse fun hg => hinfo hg hkind
        | uninstallJTA =>
          simp only [exe_bind, exe_pure]
          exact keeps_jhisUninstall hunload trivial trivial _ _ t hparse

/-- A call whose installs are in order keeps the invariant. -/
theorem settled_exec {c : Call} {s : Service φ} (hs : Settled g s) (hok : g → InstallClear W c s) :
    Settled g ((exec W c).exe s).2 := by
  cases c with
  | install appId file => exact (settled_jhisInstall hs hok).1
  | uninstall appId =>
    exact keeps_jhisUninstall (closed_settled_uninstalling W g) trivial trivial _ _ s hs
  | createSession appId flags init p => exact settled_jhisCreateSession appId flags init p s hs
  | getAppletProperty appId tx n => exact settled_jhisGetAppletProperty n hs hok
  | sendCmdPkg handle blob => exact settled_jhisSendCmdPkg hs hok
  | _ => exact keeps_exec_plain (closed_settled_none W g) rfl s hs

/-- The installs of a run are in order, each in the state it begins in. -/
def InstallsClear (W : World φ) : List Call → Service φ → Prop
  | [], _ => True
  | c :: calls, s => InstallClear W c s ∧ InstallsClear W calls ((exec W c).exe s).2

theorem settled_run {calls : List Call} {s : Service φ} (hs : Settled g s) (hok : g → InstallsClear W calls s) :
    Settled g (runCalls W calls s) := by
  induction calls generalizing s with
  | nil => exact hs
  | cons c calls ih => exact ih (settled_exec hs fun hg => (hok hg).1) fun hg => (hok hg).2

theorem vmType_runCalls (W : World φ) (calls : List Call) (s : Service φ) : (runCalls W calls s).vmType = s.vmType := by
  have hclosed : Closed (Step W) fun t => t.vmType = s.vmType := by
    intro u t hst h
    cases hst with
    | quiet hst => exact hst.vmType_eq.trans h
    | opened => exact h
  suffices hrun : ∀ u : Service φ, u.vmType = s.vmType → (runCalls W calls u).vmType = s.vmType from hrun s rfl
  induction calls with
  | nil => exact fun _ h => h
  | cons c calls ih => exact fun u hu => ih _ (keeps_exec hclosed c u hu)

/-- The service after a start-up: no sessions, and every record is one of an applet that is there. -/
structure JustStarted (s : Service φ) : Prop where
  noSessions : s.sessionList = OrdMap.empty
  noLog : s.log = []
  records : ∀ appId r, s.appletTable.find? appId = some r → r.status = .installed

theorem JustStarted.settled (h : JustStarted s) (g : Prop) : Settled g s := by
  obtain ⟨hsessions, hlog, hrecords⟩ := h
  have hnone : ∀ id r, s.sessionList.find? id ≠ some r := by
    intro id r hr
    rw [hsessions] at hr
    cases hr
  refine ⟨⟨?_, fun _ id r hr => absurd hr (hnone id r), fun id r hr => absurd hr (hnone id r), ?_⟩, ?_⟩
  · rw [hlog]
    exact fun _ e he => nomatch he
  · intro appId r hr
    rw [hrecords appId r hr]
    simp
  · intro appId
    unfold getAppletState
    split
    next => simp
    next r hr =>
      rw [hrecords appId r hr]
      simp

/-- **No unload under live sessions.** In every run from a start-up, on every VM and with any answers
of the plugin and the operating system: if each install finds no session of its applet after its
clean-up, or is neither answered "identical" nor kept from naming its file, then at every unload the
applet has no session, and on Beihai v1 every session belongs to an applet whose record is
`INSTALLED`. -/
theorem unloads_spare_sessions (W : World φ) (s : Service φ) (hs : JustStarted s) (calls : List Call)
    (hok : InstallsClear W calls s) : ∀ e ∈ (runCalls W calls s).log, UnloadOk s.vmType e := by
  have hrun := (settled_run (hs.settled True) fun _ => hok).unloads trivial
  rwa [vmType_runCalls] at hrun

end Invariant

/-- A Beihai v1 service without applets. -/
def startedV1 : Service Unit := ⟨OrdMap.empty, 0, OrdMap.empty, .beihaiV1, true, [], (), []⟩

theorem startedV1_justStarted : JustStarted startedV1 := ⟨rfl, rfl, fun _ _ hr => by cases hr⟩

/-- The theorem at a run in which the applet is installed, used, closed and uninstalled. -/
theorem unloads_spare_sessions_uninstall :
    let calls : List Call := [.install exampleApplet exampleFile, .createSession exampleApplet 0 [] ⟨1, 0, 0⟩,
      .closeSession (.replicate 0) ⟨1, 0, 0⟩ false, .uninstall exampleApplet]
    ∀ e ∈ (runCalls (World.quiet Unit) calls startedV1).log, UnloadOk .beihaiV1 e := by
  refine unloads_spare_sessions (World.quiet Unit) startedV1 startedV1_justStarted _ ⟨?_, trivial, trivial, trivial, trivial⟩
  exact .inl (by decide +kernel)

/-- A world whose VM has room for one applet and calls a package identical when it is there. -/
def oneAppletWorld : World Bool :=
  { World.quiet Bool with
    pluginDownloadApplet := fun _ _ loaded => if loaded then (jhiFileIdentical, true) else (jhiSuccess, true)
    pluginUnloadApplet := fun _ _ => (jhiSuccess, false) }

/-- The entry records the unload of an applet that has a session. -/
def LogEntry.unloadsInUse (e : LogEntry) (appId : Bytes) : Bool :=
  match e.call with
  | .unloadApplet a => a = appId && hasLiveSessions e.table appId
  | _ => false

theorem not_unloadOk_of_inUse {e : LogEntry} {appId : Bytes} (h : e.unloadsInUse appId = true) (v : VmType) :
    ¬UnloadOk v e := by
  intro hok
  unfold LogEntry.unloadsInUse at h
  split at h
  next a hcall =>
    simp only [Bool.and_eq_true, decide_eq_true_eq] at h
    have hfalse := (hok a (.inl hcall)).1
    rw [h.1, h.2] at hfalse
    cases hfalse
  · cases h

/-- An applet is installed, a session is created, and the same package is installed once more: the
applet is unloaded under the session. -/
theorem reinstall_unloads_under_session :
    let s : Service Bool := ⟨OrdMap.empty, 0, OrdMap.empty, .beihaiV1, true, [], false, []⟩
    let calls : List Call := [.install exampleApplet exampleFile, .createSession exampleApplet 0 [] ⟨1, 0, 0⟩,
      .install exampleApplet exampleFile]
    JustStarted s ∧ ∃ e ∈ (runCalls oneAppletWorld calls s).log, ¬UnloadOk s.vmType e := by
  refine ⟨⟨rfl, rfl, fun _ _ hr => by cases hr⟩, ?_⟩
  have hany : (runCalls oneAppletWorld [.install exampleApplet exampleFile,
      .createSession exampleApplet 0 [] ⟨1, 0, 0⟩, .install exampleApplet exampleFile]
      ⟨OrdMap.empty, 0, OrdMap.empty, .beihaiV1, true, [], false, []⟩).log.any
        (·.unloadsInUse exampleApplet.text) = true := by decide +kernel
  obtain ⟨e, he, hinUse⟩ := List.any_eq_true.1 hany
  exact ⟨e, he, not_unloadOk_of_inUse hinUse _⟩

end DalHost

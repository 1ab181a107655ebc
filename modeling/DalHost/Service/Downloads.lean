import DalHost.Service.Refinement

/-!
# The calls that load no applet

An installation is the only call that loads an applet. The others are the same whatever a download does, so that what is
known of them in a world in which every download fails is known of them in every world.
-/

namespace DalHost

variable {φ : Type}

/-- The world with another way to load an applet. -/
def World.withDownload (W : World φ) (download : Bytes → Bytes → StateM φ JhiRet) : World φ :=
  { W with pluginDownloadApplet := download }

/-- In this world nothing is loaded. -/
def World.noDownload (W : World φ) : World φ := W.withDownload fun _ _ => pure jhiInternalError

section WithDownload

variable (W : World φ) (download : Bytes → Bytes → StateM φ JhiRet)

/-! ### The clean-ups -/

theorem removeDead_withDownload : removeDead (W.withDownload download) = removeDead W := by
  funext ps
  induction ps with
  | nil => rfl
  | cons p ps ih =>
    simp only [removeDead, ih]
    rfl

theorem clearSessionDeadOwners_withDownload : clearSessionDeadOwners (W.withDownload download) = clearSessionDeadOwners W := by
  funext id
  simp only [clearSessionDeadOwners, removeDead_withDownload]

theorem closeInternally_withDownload : closeInternally (W.withDownload download) = closeInternally W := rfl

theorem clearDeadAndAbandoned_withDownload : clearDeadAndAbandoned (W.withDownload download) = clearDeadAndAbandoned W := by
  simp only [clearDeadAndAbandoned, clearSessionsDeadOwners, clearSessionDeadOwners_withDownload, clearAbandonedNonSharedSessions,
    closeInternally_withDownload]

theorem clearForApplet_withDownload : clearForApplet (W.withDownload download) = clearForApplet W := by
  funext appId
  simp only [clearForApplet, clearDeadAndAbandoned_withDownload, clearAppletSharedSession, closeInternally_withDownload]

theorem tryRemoveUnusedSharedSession_withDownload :
    tryRemoveUnusedSharedSession (W.withDownload download) = tryRemoveUnusedSharedSession W := by
  funext allow
  simp only [tryRemoveUnusedSharedSession, closeInternally_withDownload]

/-! ### Unload -/

theorem jhisUnload_withDownload : jhisUnload (W.withDownload download) = jhisUnload W := by
  funext appId pkg
  simp only [jhisUnload, clearForApplet_withDownload]
  rfl

theorem jhisUninstall_withDownload : jhisUninstall (W.withDownload download) = jhisUninstall W := by
  funext appId pkg
  simp only [jhisUninstall, jhisUnload_withDownload]
  rfl

theorem unloadAppletWithNoSessions_withDownload :
    unloadAppletWithNoSessions (W.withDownload download) = unloadAppletWithNoSessions W := by
  funext loaded
  induction loaded with
  | nil => rfl
  | cons a as ih => simp only [unloadAppletWithNoSessions, jhisUnload_withDownload, ih]

theorem evictAndRetry_withDownload : evictAndRetry (W.withDownload download) = evictAndRetry W := by
  funext ret retry
  simp only [evictAndRetry, tryUnloadUnusedApplet, unloadAppletWithNoSessions_withDownload,
    tryRemoveUnusedSharedSession_withDownload]

/-! ### Install -/

/-- The blobs that an installation has for the VM. -/
def offeredBlobs (appId : Bytes) (file : FileString) (visibleApp isAcp : Bool) (s : Service φ) : List Bytes :=
  let offered := (do
    clearForApplet W appId
    let _ ← onEnv (W.fileExists file)
    installBlobs W appId file visibleApp isAcp : StateM (Service φ) (Except JhiRet (List Bytes))).exe s
  match offered.1 with
  | .ok blobs => blobs
  | .error _ => []

variable {W download} {appId : Bytes}

theorem downloadBlobs_withDownload {blobs : List Bytes} (h : ∀ b ∈ blobs, download appId b = W.pluginDownloadApplet appId b)
    (ret : JhiRet) : downloadBlobs (W.withDownload download) appId ret blobs = downloadBlobs W appId ret blobs := by
  induction blobs generalizing ret with
  | nil => rfl
  | cons b bs ih =>
    have hb : (W.withDownload download).pluginDownloadApplet appId b = W.pluginDownloadApplet appId b := h b List.mem_cons_self
    simp only [downloadBlobs, hb, ih fun b hb => h b (List.mem_cons_of_mem _ hb)]
    rfl

theorem downloadAgain_withDownload {blobs : List Bytes} (h : ∀ b ∈ blobs, download appId b = W.pluginDownloadApplet appId b)
    (ret : JhiRet) : downloadAgain (W.withDownload download) appId ret blobs = downloadAgain W appId ret blobs := by
  unfold downloadAgain
  induction blobs generalizing ret with
  | nil => rfl
  | cons b bs ih =>
    have hb : (W.withDownload download).pluginDownloadApplet appId b = W.pluginDownloadApplet appId b := h b List.mem_cons_self
    simp only [tryEach, hb, ih fun b hb => h b (List.mem_cons_of_mem _ hb)]

theorem jhisInstall_withDownload (file : FileString) (visibleApp isAcp : Bool) (s : Service φ)
    (h : ∀ b ∈ offeredBlobs W appId file visibleApp isAcp s, download appId b = W.pluginDownloadApplet appId b) :
    (jhisInstall (W.withDownload download) appId file visibleApp isAcp).exe s =
      (jhisInstall W appId file visibleApp isAcp).exe s := by
  simp only [offeredBlobs, exe_bind] at h
  simp only [jhisInstall, clearForApplet_withDownload, exe_bind]
  generalize ((clearForApplet W appId).exe s).2 = u at h ⊢
  have hblobs : installBlobs (W.withDownload download) appId file visibleApp isAcp = installBlobs W appId file visibleApp isAcp :=
    rfl
  have hfinish : finishInstall (W.withDownload download) appId visibleApp isAcp = finishInstall W appId visibleApp isAcp := rfl
  have hexists : (W.withDownload download).fileExists = W.fileExists := rfl
  simp only [installCleared, hblobs, hfinish, hexists, exe_bind, exe_get, exe_ite, exe_pure]
  generalize (installBlobs W appId file visibleApp isAcp).exe ((onEnv (W.fileExists file)).exe u).2 = r at h ⊢
  obtain ⟨offered, v⟩ := r
  cases offered with
  | error ret => rfl
  | ok blobs =>
    have hdownload : downloadWithEviction (W.withDownload download) appId blobs = downloadWithEviction W appId blobs := by
      simp only [downloadWithEviction, evictAndRetry_withDownload, downloadBlobs_withDownload h, downloadAgain_withDownload h]
    simp only [hdownload]

end WithDownload

/-! ### The other calls -/

section Others

variable (W : World φ) (download : Bytes → Bytes → StateM φ JhiRet)

theorem jhisSendCmdPkg_withDownload : jhisSendCmdPkg (W.withDownload download) = jhisSendCmdPkg W := by
  have hinstall : cmdPkgInstallJta (W.withDownload download) = cmdPkgInstallJta W := by
    funext appId handle blob
    simp only [cmdPkgInstallJta, cmdPkgInstallCleared, sendWithEviction, clearForApplet_withDownload, evictAndRetry_withDownload]
    rfl
  funext handle blob
  simp only [jhisSendCmdPkg, hinstall, jhisUninstall_withDownload]
  rfl

theorem exec_withDownload {c : Call} (hc : c.plain = true) : exec (W.withDownload download) c = exec W c := by
  cases c with
  | install | uninstall | createSession | getAppletProperty | sendCmdPkg => cases hc
  | _ => rfl

end Others

end DalHost

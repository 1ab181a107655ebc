import DalHost.Service.Downloads
import DalHost.Lib.Calls

/-!
# The support of shared sessions and the version that is loaded

The record of an applet keeps what the firmware once answered about the support of shared sessions. The record goes when
the applet is unloaded, but an installation over it only writes the status: the answer of the old version stays, whatever
the new version says. Runs without such an installation answer what the loaded version says.
-/

namespace DalHost

variable {φ : Type}

/-! ### The firmware -/

/-- A firmware with the versions it has loaded, as far as their support of shared sessions goes. Only a download loads a
version, that of its blob, and only for its applet; command packages load none before Beihai v2. -/
structure SupportFirmware (W : World φ) where
  /-- The property of the version that is loaded, if the applet is. -/
  loaded : φ → Bytes → Option Bool
  /-- The property of the version in a blob. -/
  propertyOf : Bytes → Bool
  download : ∀ appId blob e A b, loaded ((W.pluginDownloadApplet appId blob).exe e).2 A = some b →
    loaded e A = some b ∨ A = appId ∧ b = propertyOf blob
  /-- A query that succeeds answers the property of the loaded version. -/
  query : ∀ appId e b, loaded e appId = some b →
    ((W.pluginGetAppletProperty appId sharedSessionSupportProperty 5).exe e).1.retCode = jhiSuccess →
    (cString ((W.pluginGetAppletProperty appId sharedSessionSupportProperty 5).exe e).1.text = ascii ['t', 'r', 'u', 'e'] ↔ b = true)
  neutral : ∀ {e e' : φ}, Neutral W.noDownload e e' → ∀ A b, loaded e' A = some b → loaded e A = some b
  create : ∀ appId blob id init e A b, loaded ((W.pluginCreateSession appId blob id init).exe e).2 A = some b → loaded e A = some b
  close : ∀ force h e A b, loaded ((pluginClose W force h).exe e).2 A = some b → loaded e A = some b
  sendAndRecv : ∀ h cmd tx n e A b, loaded ((W.pluginSendAndRecv h cmd tx n).exe e).2 A = some b → loaded e A = some b

section Property

variable {W : World φ} (F : SupportFirmware W)

/-- The service where a create consults the support of shared sessions. -/
def consulting (W : World φ) (appId : Bytes) (s : Service φ) : Service φ :=
  ((clearDeadAndAbandoned W).exe ((locateApplet W appId).exe s).2).2

/-- A create that consults the support gets that of the loaded version, if the last query succeeded. -/
def SupportAnswered (s : Service φ) : Prop :=
  ∀ (appId : AppId) (blobs : List Bytes), ((locateApplet W appId.text).exe s).1 = .ok blobs →
    ∀ r, ((isSharedSessionSupported W appId.text).exe (consulting W appId.text s)).2.appletTable.find? appId.text = some r →
      r.sharedSessionSupportRetrievedFromFW = true → ∀ b, F.loaded (consulting W appId.text s).env appId.text = some b →
        ((isSharedSessionSupported W appId.text).exe (consulting W appId.text s)).1 = b

/-- The call installs a package over a record that holds the property of another version. -/
def OffersAnother : Call → Service φ → Prop
  | .install appId file, s => ∃ r, s.appletTable.find? appId.text = some r ∧ r.sharedSessionSupportRetrievedFromFW = true ∧
      ∃ blob ∈ offeredBlobs W appId.text file true false s, F.propertyOf blob ≠ r.sharedSessionSupport
  | _, _ => False

/-- The service after a call. -/
def afterCall (W : World φ) (c : Call) (s : Service φ) : Service φ := ((exec W c).exe s).2

/-! ### The invariant -/

/-- What a record holds is the property of the version that is loaded. -/
structure SupportCached (s : Service φ) : Prop where
  recorded : ∀ appId r, s.appletTable.find? appId = some r → r.status ≠ .notInstalled
  cached : ∀ appId r, s.appletTable.find? appId = some r → r.sharedSessionSupportRetrievedFromFW = true →
    ∀ b, F.loaded s.env appId = some b → r.sharedSessionSupport = b

/-- While an applet is installed from some blobs, these have the property of its record. -/
structure Offering (appId : Bytes) (allowed : Bytes → Bool) (s : Service φ) : Prop extends SupportCached F s where
  offers : ∀ r, s.appletTable.find? appId = some r → r.sharedSessionSupportRetrievedFromFW = true →
    ∀ blob, allowed blob = true → F.propertyOf blob = r.sharedSessionSupport

end Property

section Steps

variable {W : World φ} {F : SupportFirmware W} {ℓ : Licence} {s t : Service φ} {appId : Bytes} {allowed : Bytes → Bool}

/-- The downloads of some blobs for one applet. -/
def someDownloads (W : World φ) (appId : Bytes) (allowed : Bytes → Bool) (a blob : Bytes) : StateM φ JhiRet :=
  if a = appId ∧ allowed blob = true then W.pluginDownloadApplet a blob else pure jhiInternalError

theorem neutral_withDownload {download : Bytes → Bytes → StateM φ JhiRet} {e e' : φ} (h : Neutral (W.withDownload download) e e') :
    Neutral W.noDownload e e' ∨ ∃ a blob, e' = ((download a blob).exe e).2 := by
  cases h with
  | downloadApplet a blob => exact .inr ⟨a, blob, rfl⟩
  | processIsDead p => exact .inl (.processIsDead p e)
  | generateNewSessionId => exact .inl (.generateNewSessionId e)
  | ownProcessInfo => exact .inl (.ownProcessInfo e)
  | openEvent n => exact .inl (.openEvent n e)
  | fileExists f => exact .inl (.fileExists f e)
  | copyFile hw d f => exact .inl (.copyFile hw d f e)
  | createFileFromBuff hw f b => exact .inl (.createFileFromBuff hw f b e)
  | chmod f => exact .inl (.chmod f e)
  | removeFile hw f => exact .inl (.removeFile hw f e)
  | renameFile hw f g => exact .inl (.renameFile hw f g e)
  | syncFile f => exact .inl (.syncFile f e)
  | readFile f => exact .inl (.readFile f e)
  | readPackage f => exact .inl (.readPackage f e)
  | unloadApplet a => exact .inl (.unloadApplet a e)
  | sendCmdPkg h b => exact .inl (.sendCmdPkg h b e)
  | parsePackage b => exact .inl (.parsePackage b e)
  | getAppletProperty a tx n => exact .inl (.getAppletProperty a tx n e)
  | openSDSession sd => exact .inl (.openSDSession sd e)
  | closeSDSession h => exact .inl (.closeSDSession h e)
  | listInstalledTAs h => exact .inl (.listInstalledTAs h e)
  | listInstalledSDs h => exact .inl (.listInstalledSDs h e)
  | queryTeeMetadata => exact .inl (.queryTeeMetadata e)
  | provisionOemMasterKey k => exact .inl (.provisionOemMasterKey k e)
  | setTAEncryptionKey k => exact .inl (.setTAEncryptionKey k e)
  | versionInfo => exact .inl (.versionInfo e)

theorem loaded_of_neutral {e e' : φ} (h : Neutral (W.withDownload (someDownloads W appId allowed)) e e') {A : Bytes} {b : Bool}
    (hb : F.loaded e' A = some b) : F.loaded e A = some b ∨ A = appId ∧ ∃ blob, allowed blob = true ∧ b = F.propertyOf blob := by
  obtain hneutral | ⟨a, blob, rfl⟩ := neutral_withDownload h
  · exact .inl (F.neutral hneutral A b hb)
  · unfold someDownloads at hb
    split_ifs at hb with hallowed
    · obtain hbefore | ⟨rfl, heq⟩ := F.download a blob e A b hb
      · exact .inl hbefore
      · exact .inr ⟨hallowed.1, blob, hallowed.2, heq⟩
    · exact .inl hb

theorem loaded_of_clean (h : CleanStep (W.withDownload (someDownloads W appId allowed)) s t) {A : Bytes} {b : Bool}
    (hb : F.loaded t.env A = some b) :
    F.loaded s.env A = some b ∨ A = appId ∧ ∃ blob, allowed blob = true ∧ b = F.propertyOf blob := by
  cases h with
  | env h => exact loaded_of_neutral h hb
  | applets | unload | uninstallPackage | deadOwners | events => exact .inl hb
  | closed hr force | closeFailed hr force => exact .inl (F.close force _ _ A b hb)

theorem loaded_of_quiet (h : QuietStep (W.withDownload (someDownloads W appId allowed)) s t) {A : Bytes} {b : Bool}
    (hb : F.loaded t.env A = some b) :
    F.loaded s.env A = some b ∨ A = appId ∧ ∃ blob, allowed blob = true ∧ b = F.propertyOf blob := by
  cases h with
  | clean h => exact loaded_of_clean h hb
  | exchange hr cmd tx n | crashed hr cmd tx n => exact .inl (F.sendAndRecv _ cmd tx n _ A b hb)
  | dropOwner | addOwner | ownersFull => exact .inl hb
  | openFailed a blob id init => exact .inl (F.create a blob id init _ A b hb)
  | undone a blob id init hret he hh =>
    subst he
    exact .inl (F.create a blob id init _ A b (F.close false _ _ A b hb))

theorem AppletEdit.find? {a a' : AppletTable} {sessions : SessionTable} (h : AppletEdit ℓ sessions a a') {A : Bytes}
    {r : AppletRecord} (hr : a'.find? A = some r) : a.find? A = some r ∨ r.status ≠ .notInstalled ∧
      (r.sharedSessionSupportRetrievedFromFW = true → ∃ r', a.find? A = some r' ∧
        r'.sharedSessionSupportRetrievedFromFW = true ∧ r'.sharedSessionSupport = r.sharedSessionSupport) := by
  cases h with
  | keep => exact .inl hr
  | markPending =>
    rw [OrdMap.find?_insert] at hr
    split_ifs at hr with heq
    · subst heq
      cases hold : a.find? A with
      | none =>
        rw [hold] at hr
        cases hr
        exact .inr ⟨by decide, fun hflag => by cases hflag⟩
      | some r' =>
        rw [hold] at hr
        exact .inl hr
    · exact .inl hr
  | setInstalled =>
    rw [DalHost.setInstalled, OrdMap.find?_modify, OrdMap.find?_insert, OrdMap.find?_insert, if_pos rfl] at hr
    split_ifs at hr with heq
    · subst heq
      refine .inr ?_
      cases hold : a.find? A with
      | none =>
        rw [hold] at hr
        cases hr
        exact ⟨by decide, fun hflag => by cases hflag⟩
      | some r' =>
        rw [hold] at hr
        cases hr
        exact ⟨fun hstatus => (by cases hstatus), fun hflag => ⟨r', rfl, hflag, rfl⟩⟩
    · exact .inl hr
  | dropPending | forget =>
    rw [OrdMap.find?_erase] at hr
    split_ifs at hr
    exact .inl hr

theorem closed_offering (F : SupportFirmware W) (ℓ : Licence) (appId : Bytes) (allowed : Bytes → Bool) :
    Closed (CareQuietStep (W.withDownload (someDownloads W appId allowed)) ℓ) (Offering F appId allowed) := by
  intro s t hst h
  refine ⟨⟨fun A r hr => ?_, fun A r hr hflag b hb => ?_⟩, fun r hr hflag blob hblob => ?_⟩
  · obtain hold | ⟨hstatus, -⟩ := hst.2.applets.find? hr
    · exact h.recorded A r hold
    · exact hstatus
  · obtain ⟨r', hr', hflag', hsame⟩ : ∃ r', s.appletTable.find? A = some r' ∧ r'.sharedSessionSupportRetrievedFromFW = true ∧
        r'.sharedSessionSupport = r.sharedSessionSupport := by
      obtain hold | ⟨-, hold⟩ := hst.2.applets.find? hr
      · exact ⟨r, hold, hflag, rfl⟩
      · exact hold hflag
    rw [← hsame]
    obtain hbefore | ⟨rfl, blob, hblob, rfl⟩ := loaded_of_quiet (F := F) hst.1 hb
    · exact h.cached A r' hr' hflag' b hbefore
    · exact (h.offers r' hr' hflag' blob hblob).symm
  · obtain hold | ⟨-, hold⟩ := hst.2.applets.find? hr
    · exact h.offers r hold hflag blob hblob
    · obtain ⟨r', hr', hflag', hsame⟩ := hold hflag
      rw [← hsame]
      exact h.offers r' hr' hflag' blob hblob

theorem SupportCached.install (h : SupportCached F s) {file : FileString} {visibleApp isAcp : Bool}
    (hok : ∀ r, s.appletTable.find? appId = some r → r.sharedSessionSupportRetrievedFromFW = true →
      ∀ blob ∈ offeredBlobs W appId file visibleApp isAcp s, F.propertyOf blob = r.sharedSessionSupport) :
    SupportCached F ((jhisInstall W appId file visibleApp isAcp).exe s).2 := by
  let offered : Bytes → Bool := fun blob => (offeredBlobs W appId file visibleApp isAcp s).contains blob
  have hdownload : ∀ b ∈ offeredBlobs W appId file visibleApp isAcp s,
      someDownloads W appId offered appId b = W.pluginDownloadApplet appId b := fun b hb =>
    if_pos ⟨rfl, List.contains_iff_mem.2 hb⟩
  have hoffering : Offering F appId offered s :=
    ⟨h, fun r hr hflag blob hblob => hok r hr hflag blob (List.contains_iff_mem.1 hblob)⟩
  rw [← jhisInstall_withDownload file visibleApp isAcp s hdownload]
  exact (keeps_jhisInstall (Closed.ofCareQuiet (closed_offering F .any appId offered)) trivial trivial trivial file visibleApp
    isAcp s hoffering).toSupportCached

theorem SupportCached.install_of_notInstalled (h : SupportCached F s) (appId : Bytes)
    (hstate : getAppletState s.appletTable appId = .notInstalled) (file : FileString) (visibleApp isAcp : Bool) :
    SupportCached F ((jhisInstall W appId file visibleApp isAcp).exe s).2 := by
  refine h.install fun r hr => ?_
  rw [getAppletState, hr] at hstate
  exact absurd hstate (h.recorded appId r hr)

/-! ### Calls -/

theorem someDownloads_none (W : World φ) (appId : Bytes) :
    someDownloads W appId (fun _ => false) = fun _ _ => pure jhiInternalError := by
  funext a blob
  exact if_neg fun h => Bool.false_ne_true h.2

theorem closed_supportCached (F : SupportFirmware W) (ℓ : Licence) :
    Closed (CareQuietStep W.noDownload ℓ) (SupportCached F) := by
  intro s t hst h
  rw [World.noDownload, ← someDownloads_none W []] at hst
  exact (closed_offering F ℓ [] (fun _ => false) s t hst ⟨h, fun _ _ _ _ hno => by cases hno⟩).toSupportCached

theorem queryProperty_support (W : World φ) (appId : Bytes) (s : Service φ) :
    ∃ a e, (queryProperty W appId sharedSessionSupportProperty 6).exe s = (a, { s with env := e }) ∧
      (e = s.env ∨ e = ((W.pluginGetAppletProperty appId sharedSessionSupportProperty 5).exe s.env).2) ∧
      (a.retCode = jhiSuccess →
        ((W.pluginGetAppletProperty appId sharedSessionSupportProperty 5).exe s.env).1.retCode = jhiSuccess ∧
          a.text = some (cString ((W.pluginGetAppletProperty appId sharedSessionSupportProperty 5).exe s.env).1.text)) := by
  have htext : cString sharedSessionSupportProperty ++ [0] = sharedSessionSupportProperty := by decide
  have hlength : (6 : UInt32) - 1 = 5 := by decide
  simp only [queryProperty, exe_bind, exe_get, exe_ite, exe_onEnv, exe_pure, htext, hlength]
  split_ifs with hplugin hsuccess hbuffer
  · exact ⟨_, _, rfl, .inl rfl, fun h => absurd h (by decide)⟩
  · exact ⟨_, _, rfl, .inr rfl, fun _ => ⟨hsuccess, rfl⟩⟩
  · exact ⟨_, _, rfl, .inr rfl, fun h => absurd h hsuccess⟩
  · exact ⟨_, _, rfl, .inr rfl, fun h => absurd h hsuccess⟩

/-- What a query for the support leaves behind, when the applet has a record. -/
structure Queried (F : SupportFirmware W) (appId : Bytes) (s t : Service φ) : Prop where
  env : ∀ A b, F.loaded t.env A = some b → F.loaded s.env A = some b
  others : ∀ A, A ≠ appId → t.appletTable.find? A = s.appletTable.find? A
  status : ∀ r, t.appletTable.find? appId = some r → r.status ≠ .notInstalled
  support : ∀ r, t.appletTable.find? appId = some r → r.sharedSessionSupportRetrievedFromFW = true →
    ∀ b, F.loaded s.env appId = some b → r.sharedSessionSupport = b

theorem updateSharedSessionSupport_queried (F : SupportFirmware W) {r : AppletRecord} (hr : s.appletTable.find? appId = some r)
    (hstatus : r.status ≠ .notInstalled) (hflag : r.sharedSessionSupportRetrievedFromFW = false) :
    Queried F appId s ((updateSharedSessionSupport W appId).exe s).2 := by
  have hprop : isSupportedProperty sharedSessionSupportProperty = true := by decide
  have hstate : getAppletState s.appletTable appId ≠ .notInstalled := by
    rw [getAppletState, hr]
    exact hstatus
  obtain ⟨a, e, hquery, henv, hanswer⟩ := queryProperty_support W appId s
  simp only [updateSharedSessionSupport, getAppletPropertyV1, ensureInstalled, hprop, Bool.not_true, Bool.false_eq_true,
    if_false, exe_bind, exe_get, if_neg hstate, exe_pure, exe_modifyApplets, hquery]
  have hloses : ∀ A b, F.loaded e A = some b → F.loaded s.env A = some b := by
    obtain rfl | rfl := henv
    · exact fun _ _ hb => hb
    · exact F.neutral (.getAppletProperty appId sharedSessionSupportProperty 5 s.env)
  have hself : ∀ f : AppletRecord → AppletRecord,
      ((s.appletTable.insert appId ⟨.notInstalled, false, false⟩).modify appId f).find? appId = some (f r) := by
    intro f
    rw [OrdMap.find?_modify, if_pos rfl, OrdMap.find?_insert, if_pos rfl, hr]
    rfl
  refine ⟨hloses, fun A hA => ?_, fun r' hr' => ?_, fun r' hr' hflag' b hb => ?_⟩
  · rw [OrdMap.find?_modify, if_neg hA, OrdMap.find?_insert, if_neg hA]
  · cases (hself _).symm.trans hr'
    exact hstatus
  · cases (hself _).symm.trans hr'
    simp only [hflag, Bool.or_false, decide_eq_true_eq] at hflag'
    obtain ⟨hsuccess, htext⟩ := hanswer hflag'
    have hiff := F.query appId s.env b hb hsuccess
    simp only [hflag', decide_true, Bool.true_and, htext, Option.some.injEq]
    cases b with
    | true => exact decide_eq_true (hiff.2 rfl)
    | false => exact decide_eq_false fun heq => Bool.false_ne_true (hiff.1 heq)

theorem SupportCached.queried (h : SupportCached F s) (hq : Queried F appId s t) : SupportCached F t := by
  refine ⟨fun A r hr => ?_, fun A r hr hflag b hb => ?_⟩
  · by_cases hA : A = appId
    · subst hA
      exact hq.status r hr
    · rw [hq.others A hA] at hr
      exact h.recorded A r hr
  · by_cases hA : A = appId
    · subst hA
      exact hq.support r hr hflag b (hq.env A b hb)
    · rw [hq.others A hA] at hr
      exact h.cached A r hr hflag b (hq.env A b hb)

theorem SupportCached.isSharedSessionSupported (h : SupportCached F s) (appId : Bytes) :
    SupportCached F ((isSharedSessionSupported W appId).exe s).2 ∧
      ∀ r, ((DalHost.isSharedSessionSupported W appId).exe s).2.appletTable.find? appId = some r →
        r.sharedSessionSupportRetrievedFromFW = true → ∀ b, F.loaded s.env appId = some b →
          ((DalHost.isSharedSessionSupported W appId).exe s).1 = b := by
  simp only [DalHost.isSharedSessionSupported, exe_bind, exe_get]
  cases hr : s.appletTable.find? appId with
  | none =>
    refine ⟨h, fun r hr' => ?_⟩
    cases hr.symm.trans hr'
  | some r =>
    cases hflag : r.sharedSessionSupportRetrievedFromFW with
    | true =>
      simp only [hflag, Bool.not_true, Bool.false_eq_true, if_false, exe_bind, exe_get, exe_pure, hr]
      refine ⟨h, fun r' hr' hflag' b hb => ?_⟩
      cases hr'
      exact h.cached appId r hr hflag b hb
    | false =>
      have hq := updateSharedSessionSupport_queried F hr (h.recorded appId r hr) hflag
      have hcached := h.queried hq
      simp only [hflag, Bool.not_false, if_true, exe_bind, exe_get]
      generalize ((updateSharedSessionSupport W appId).exe s).2 = u at hq hcached ⊢
      cases hr' : u.appletTable.find? appId with
      | none =>
        refine ⟨hcached, fun r' hr'' => ?_⟩
        cases hr'.symm.trans hr''
      | some r' =>
        refine ⟨hcached, fun r'' hr'' hflag'' b hb => ?_⟩
        cases hr'.symm.trans hr''
        exact hq.support r' hr' hflag'' b hb

/-! ### Creating a session -/

theorem SupportCached.congr (h : SupportCached F s) (happlets : t.appletTable = s.appletTable)
    (hloses : ∀ A b, F.loaded t.env A = some b → F.loaded s.env A = some b) : SupportCached F t := by
  refine ⟨fun A r hr => ?_, fun A r hr hflag b hb => ?_⟩
  · rw [happlets] at hr
    exact h.recorded A r hr
  · rw [happlets] at hr
    exact h.cached A r hr hflag b (hloses A b hb)

theorem closed_opening_supportCached (F : SupportFirmware W) : Closed (OpeningStep W) (SupportCached F) := by
  intro s t hst h
  cases hst with
  | tidy hst =>
    cases hst with
    | processIsDead p => exact h.congr rfl (F.neutral (.processIsDead p s.env))
    | deadOwners => exact h.congr rfl fun _ _ hb => hb
    | closed hr force | closeFailed hr force => exact h.congr rfl (F.close force _ _)
  | newId => exact h.congr rfl (F.neutral (.generateNewSessionId s.env))
  | openFailed a blob id init => exact h.congr rfl (F.create a blob id init _)
  | undone a blob id init hret he =>
    subst he
    exact h.congr rfl fun A b hb => F.create a blob id init _ A b (F.close false _ _ A b hb)

theorem SupportCached.locateApplet (h : SupportCached F s) (appId : Bytes) :
    SupportCached F ((locateApplet W appId).exe s).2 := by
  have hcare := Closed.ofCareQuiet (closed_supportCached F .any)
  simp only [DalHost.locateApplet, exe_bind, exe_get, exe_ite, exe_pure]
  split_ifs
  · exact h
  · have hexists : SupportCached F ((appletExistInRepository W appId).exe s).2 :=
      keeps_appletExistInRepository hcare appId s h
    generalize (appletExistInRepository W appId).exe s = r at hexists ⊢
    obtain ⟨found, u⟩ := r
    cases found with
    | none => exact hexists
    | some found =>
      simp only [exe_bind, exe_get, exe_ite, exe_pure]
      have hinstall := fun hstate => SupportCached.install_of_notInstalled hexists appId hstate found.1 true found.2
      split_ifs with hvm hstate
      · exact keeps_getAppletBlobs hcare found.1 found.2 u hexists
      · exact hinstall hstate
      · exact hinstall hstate
      · exact hexists

theorem SupportCached.clearDeadAndAbandoned (h : SupportCached F s) : SupportCached F ((clearDeadAndAbandoned W).exe s).2 :=
  keeps_clearDeadAndAbandoned (fun s t hst => closed_opening_supportCached F s t (.tidy hst)) s h

theorem SupportCached.lookForShared (h : SupportCached F s) (appId : Bytes) :
    SupportCached F ((lookForShared W appId).exe s).2 := by
  simp only [DalHost.lookForShared, exe_bind, exe_get, exe_ite, exe_pure]
  split_ifs
  · exact (h.isSharedSessionSupported appId).1
  · exact (h.isSharedSessionSupported appId).1
  · exact h

/-- What an applet has in the end of a create: the invariant, also where the last step added a record. -/
theorem SupportCached.created {appId : Bytes} {flags : UInt32} {p : ProcessInfo} {res : JhiRet × Option SessionId}
    (h : Created W (SupportCached F) appId flags p res t) : SupportCached F t := by
  obtain h | ⟨s, id, handle, hs, -, -, blob, init, rfl⟩ := h
  · exact h
  · exact hs.congr rfl (F.create appId blob id init _)

theorem SupportCached.jhisCreateSession (h : SupportCached F s) (appId : AppId) (flags : UInt32) (init : Bytes) (p : ProcessInfo) :
    SupportCached F ((jhisCreateSession W appId.text flags init p).exe s).2 := by
  have hlocated := h.locateApplet appId.text
  have hblobs := @locateApplet_blobs φ W appId.text s
  simp only [DalHost.jhisCreateSession, exe_bind]
  generalize (DalHost.locateApplet W appId.text).exe s = r at hlocated hblobs ⊢
  obtain ⟨located, u⟩ := r
  cases located with
  | error ret => exact hlocated
  | ok blobs =>
    -- what `createLocated_created` asks about the blobs
    let I : Service φ → Prop := fun s => SupportCached F s ∧ (s.vmType = .beihaiV2 → blobs ≠ [])
    have hopening : Closed (OpeningStep W) I :=
      Closed.and (closed_opening_supportCached F) fun _ _ hst h hv => h (hst.quiet.vmType_eq ▸ hv)
    have hquiet : Closed (CareQuietStep W.noDownload .any) I :=
      Closed.and (closed_supportCached F .any) fun _ _ hst h hv => h (hst.1.vmType_eq ▸ hv)
    have hlook : Keeps I (DalHost.lookForShared W appId.text) := fun v hv =>
      ⟨hv.1.lookForShared appId.text, fun hvm => hv.2 (keeps_lookForShared (closed_vmType W v.vmType) appId.text v rfl ▸ hvm)⟩
    have hcreated := createLocated_created hopening appId p hlook
      (fun _ _ hfound h => addSessionOwner_keeps hquiet p hfound h) blobs flags init (fun _ h => h.2) (s := u) ⟨hlocated, hblobs rfl⟩
    exact SupportCached.created (Created.mono hcreated fun _ h => h.1)

/-! ### Runs -/

theorem SupportCached.exec_plain (h : SupportCached F s) {c : Call} (hc : c.plain = true) : SupportCached F ((exec W c).exe s).2 := by
  have hkeeps := keeps_exec_plain (closed_supportCached F .any) hc s h
  rwa [World.noDownload, exec_withDownload W _ hc] at hkeeps

theorem SupportCached.ensureInstalled (h : SupportCached F s) (appId : Bytes) :
    SupportCached F ((ensureInstalled W appId).exe s).2 := by
  simp only [DalHost.ensureInstalled, exe_bind, exe_get, exe_ite, exe_pure]
  split_ifs with hstate
  · have hexists : SupportCached F ((appletExistInRepository W appId).exe s).2 :=
      keeps_appletExistInRepository (Closed.ofCareQuiet (closed_supportCached F .any)) appId s h
    have happlets : ((appletExistInRepository W appId).exe s).2.appletTable = s.appletTable := by
      simp only [appletExistInRepository, exe_bind, exe_get, exe_ite, exe_pure]
      split_ifs <;> rfl
    generalize (appletExistInRepository W appId).exe s = r at hexists happlets ⊢
    obtain ⟨found, u⟩ := r
    cases found with
    | none => exact hexists
    | some found =>
      rw [← happlets] at hstate
      exact SupportCached.install_of_notInstalled hexists appId hstate found.1 true found.2
  · exact h

theorem keeps_supportCached_propertySession (F : SupportFirmware W) (appId : AppId) :
    Keeps (SupportCached F) (propertySession W appId.text) := by
  refine Keeps.get.bind fun s => Keeps.get.bind fun s => Keeps.ite (fun _ => ?_) fun _ => Keeps.pure _
  have howner : Keeps (SupportCached F) (onEnv W.ownProcessInfo) := fun s h => h.congr rfl (F.neutral (.ownProcessInfo s.env))
  refine howner.bind fun p => Keeps.bind (fun s h => h.jhisCreateSession appId 0 [] p) fun r => ?_
  obtain ⟨ret, _ | id⟩ := r
  · exact Keeps.pure _
  · exact Keeps.ite (fun _ => Keeps.pure _) fun _ => Keeps.pure _

theorem keeps_supportCached_jhisGetAppletProperty (F : SupportFirmware W) (appId : AppId) (tx : Bytes) (n : UInt32) :
    Keeps (SupportCached F) (jhisGetAppletProperty W appId.text tx n) := by
  have hquiet := closed_supportCached F .any
  have hquery : Keeps (SupportCached F) (queryProperty W appId.text tx n) :=
    keeps_queryProperty (Closed.ofCareQuiet hquiet) appId.text tx n
  have hclose : ∀ id p, Keeps (SupportCached F) (jhisCloseSession W id (some p) false true) := fun id p =>
    keeps_jhisCloseSession hquiet id (some p) false
  refine Keeps.ite (fun _ => Keeps.pure _) fun _ => Keeps.bind (fun s h => h.ensureInstalled appId.text) fun _ => ?_
  refine Keeps.ite (fun _ => Keeps.pure _) fun _ => (keeps_supportCached_propertySession F appId).bind fun r => ?_
  match r with
  | .error ret => exact Keeps.pure _
  | .ok none => exact hquery
  | .ok (some (id, p)) => exact hquery.bind fun a => (hclose id p).bind fun _ => Keeps.pure _

theorem SupportCached.exec (h : SupportCached F s) {c : Call} (hc : ¬OffersAnother F c s) : SupportCached F (afterCall W c s) := by
  have hcare := Closed.ofCareQuiet (closed_supportCached F .any)
  unfold afterCall
  cases c with
  | install appId file =>
    refine h.install fun r hr hflag blob hblob => ?_
    exact Classical.byContradiction fun hne => hc ⟨r, hr, hflag, blob, hblob, hne⟩
  | uninstall appId =>
    have hkeeps := keeps_jhisUninstall hcare trivial trivial appId.text none s h
    rwa [World.noDownload, jhisUninstall_withDownload] at hkeeps
  | createSession appId flags init p => exact h.jhisCreateSession appId flags init p
  | getAppletProperty appId tx n => exact keeps_supportCached_jhisGetAppletProperty F appId tx n s h
  | sendCmdPkg handle blob =>
    have hkeeps := keeps_jhisSendCmdPkg hcare trivial trivial handle blob
      (fun _ => keeps_cmdPkgInstallJta hcare trivial trivial trivial handle blob) s h
    rwa [World.noDownload, jhisSendCmdPkg_withDownload] at hkeeps
  | _ => exact h.exec_plain rfl

theorem SupportCached.answered (h : SupportCached F s) : SupportAnswered F s := by
  intro appId blobs _
  have hconsulting : SupportCached F (consulting W appId.text s) := (h.locateApplet appId.text).clearDeadAndAbandoned
  exact (hconsulting.isSharedSessionSupported appId.text).2

/-- In every run in which no package is installed over the property of another version. -/
theorem support_is_that_of_loaded_version (F : SupportFirmware W) (calls : List Call) (s : Service φ)
    (hempty : s.appletTable = .empty) (h : Never (afterCall W) (OffersAnother F) calls s) :
    Along (afterCall W) (fun _ s => SupportAnswered F s) calls s := by
  have hstart : SupportCached F s := by
    refine ⟨fun appId r hr => ?_, fun appId r hr => ?_⟩
    · rw [hempty] at hr
      cases hr
    · rw [hempty] at hr
      cases hr
  have hstep : ∀ c s, SupportCached F s → ¬OffersAnother F c s → SupportCached F (afterCall W c s) := fun _ _ hs hc => hs.exec hc
  intro done hdone
  exact (invariant_of_never hstep hstart (h.before hdone)).answered

end Steps

/-! ### An upgrade over a record -/

section Upgrade

/-- The package of a version that supports shared sessions. -/
def supportingFile : FileString := ascii ['b', '.', 'd', 'a', 'l', 'p']

/-- A repository with one pending file, and a VM with one applet; a package is known by its name. -/
structure VersionState where
  pending : Bytes
  loaded : Option Bool

/-- The version in a blob. -/
def supports (blob : Bytes) : Bool := blob = supportingFile

def versionsWorld : World VersionState :=
  { World.quiet VersionState with
    copyFile := fun _ file e => (true, { e with pending := file })
    readPackage := fun _ e => (some (some [e.pending]), e)
    pluginDownloadApplet := fun appId blob e =>
      (jhiSuccess, if appId = exampleApplet.text then { e with loaded := some (supports blob) } else e)
    pluginUnloadApplet := fun _ e => (jhiSuccess, { e with loaded := none })
    pluginGetAppletProperty := fun _ _ _ e =>
      (⟨jhiSuccess, 4, if e.loaded = some true then ascii ['t', 'r', 'u', 'e'] else []⟩, e) }

def VersionState.version (e : VersionState) (appId : Bytes) : Option Bool := if appId = exampleApplet.text then e.loaded else none

theorem VersionState.download_version (appId blob : Bytes) (e : VersionState) (A : Bytes) (b : Bool)
    (h : ((versionsWorld.pluginDownloadApplet appId blob).exe e).2.version A = some b) :
    e.version A = some b ∨ A = appId ∧ b = supports blob := by
  change (if appId = exampleApplet.text then { e with loaded := some (supports blob) } else e : VersionState).version A = some b at h
  by_cases happ : appId = exampleApplet.text
  · rw [if_pos happ, VersionState.version] at h
    split_ifs at h with hA
    exact .inr ⟨hA.trans happ.symm, (Option.some.inj h).symm⟩
  · rw [if_neg happ] at h
    exact .inl h

theorem VersionState.query_version (appId : Bytes) (e : VersionState) (b : Bool) (h : e.version appId = some b) :
    cString ((versionsWorld.pluginGetAppletProperty appId sharedSessionSupportProperty 5).exe e).1.text =
      ascii ['t', 'r', 'u', 'e'] ↔ b = true := by
  have hloaded : e.loaded = some b := by
    rw [VersionState.version] at h
    split_ifs at h
    exact h
  change cString (if e.loaded = some true then ascii ['t', 'r', 'u', 'e'] else []) = _ ↔ _
  rw [hloaded]
  cases b with
  | true => decide
  | false => decide

theorem VersionState.neutral_version {e e' : VersionState} (h : Neutral versionsWorld.noDownload e e') (A : Bytes) (b : Bool)
    (hb : e'.version A = some b) : e.version A = some b := by
  cases h with
  | unloadApplet a =>
    change (if A = exampleApplet.text then none else none) = some b at hb
    split_ifs at hb
  | _ => exact hb

def versionsFirmware : SupportFirmware versionsWorld where
  loaded := VersionState.version
  propertyOf := supports
  download := VersionState.download_version
  query appId e b h _ := VersionState.query_version appId e b h
  neutral := VersionState.neutral_version
  create _ _ _ _ _ _ _ h := h
  close force _ _ _ _ h := by cases force <;> exact h
  sendAndRecv _ _ _ _ _ _ _ h := h

def versionsStart : Service VersionState := ⟨OrdMap.empty, 0, OrdMap.empty, .beihaiV1, true, [], ⟨[], none⟩, []⟩

def createShared : Call := .createSession exampleApplet 1 [] ⟨1, 0, 0⟩

/-- The version that supports shared sessions is installed after the other one was uninstalled. -/
def reinstallRun : List Call :=
  [.install exampleApplet exampleFile, createShared, .uninstall exampleApplet, .install exampleApplet supportingFile, createShared]

theorem not_offersAnother_of_none {W : World φ} (F : SupportFirmware W) {appId : AppId} {s : Service φ}
    (h : s.appletTable.find? appId.text = none) (file : FileString) : ¬OffersAnother F (.install appId file) s := by
  rintro ⟨r, hr, -⟩
  rw [h] at hr
  cases hr

theorem never_reinstallRun : Never (afterCall versionsWorld) (OffersAnother versionsFirmware) reinstallRun versionsStart := by
  refine never_cons (not_offersAnother_of_none _ (by decide +kernel) _) ?_
  refine never_cons id ?_
  refine never_cons id ?_
  refine never_cons (not_offersAnother_of_none _ (by decide +kernel) _) ?_
  exact never_cons id (never_nil _)

/-- The last create gets the session that the new version supports. -/
theorem support_is_that_of_reinstalled_version :
    (afterCalls (afterCall versionsWorld) reinstallRun versionsStart).sessionList.size = 1 ∧
      Along (afterCall versionsWorld) (fun _ s => SupportAnswered versionsFirmware s) reinstallRun versionsStart :=
  ⟨by decide +kernel, support_is_that_of_loaded_version versionsFirmware reinstallRun versionsStart rfl never_reinstallRun⟩

/-- The version that supports shared sessions is installed over the other one, whose property was asked for. -/
def upgradeRun : List Call := [.install exampleApplet exampleFile, createShared, .install exampleApplet supportingFile]

theorem upgrade_keeps_old_support :
    ¬∀ calls, Along (afterCall versionsWorld) (fun _ s => SupportAnswered versionsFirmware s) calls versionsStart := by
  intro h
  have hanswered := h upgradeRun upgradeRun List.prefix_rfl exampleApplet [] rfl ⟨.installed, false, true⟩ (by decide +kernel) rfl
    true (by decide +kernel)
  exact absurd hanswered (by decide +kernel)

end Upgrade

end DalHost

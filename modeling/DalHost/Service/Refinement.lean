import DalHost.Service.Evolution

/-!
# Every command is made of steps

The commands that create or use a session, and with them every operation of a run: an invariant
closed under `Step` is kept by `execOp`, apart from the reset and the start-up, which are one step
each. The one argument with content is about `jhis_create_session`: the shared session of the
applet is looked up before the VM is asked to open one, and nothing that happens in between (the
eviction of another session included) can create one.
-/

namespace DalHost

variable {φ : Type} {W : World φ}

/-! ### The table has no shared session of an applet -/

theorem getSharedSessionID_eq_none {t : SessionTable} {appId : Bytes} :
    getSharedSessionID t appId = none ↔
      ∀ id r, t.find? id = some r → r.appId = appId → r.shared = false := by
  simp only [getSharedSessionID, Option.map_eq_none_iff, List.find?_eq_none, Bool.and_eq_true, decide_eq_true_eq,
    not_and, Bool.not_eq_true, Prod.forall, OrdMap.mem_entries_iff]

theorem getSharedSessionID_eq_some {t : SessionTable} {appId : Bytes} {id : SessionId}
    (h : getSharedSessionID t appId = some id) :
    ∃ r, t.find? id = some r ∧ r.appId = appId ∧ r.shared = true := by
  simp only [getSharedSessionID, Option.map_eq_some_iff] at h
  obtain ⟨⟨id', r⟩, hfind, rfl⟩ := h
  have hp := List.find?_some hfind
  simp only [Bool.and_eq_true, decide_eq_true_eq] at hp
  exact ⟨r, OrdMap.mem_entries_iff.1 (List.mem_of_find?_eq_some hfind), hp.1, hp.2⟩

theorem closed_noShared (W : World φ) (appId : Bytes) :
    Closed (CleanStep W) fun s => getSharedSessionID s.sessionList appId = none := by
  intro s t hst h
  rw [getSharedSessionID_eq_none] at h ⊢
  intro id r hr
  cases hst with
  | env | applets | unload | uninstallPackage | closeFailed => exact h id r hr
  | deadOwners hr' hsub =>
    simp only [OrdMap.find?_modify] at hr
    split_ifs at hr with hid
    · simp only [hr', Option.map_some, Option.some.injEq] at hr
      subst hr
      have hold := h _ _ hr'
      exact hold
    · exact h id r hr
  | events id' eh q =>
    simp only [OrdMap.find?_modify] at hr
    split_ifs at hr with hid
    · obtain ⟨r', hr', rfl⟩ := Option.map_eq_some_iff.1 hr
      exact h _ r' hr'
    · exact h id r hr
  | closed hr' =>
    simp only [OrdMap.find?_erase] at hr
    split_ifs at hr with hid
    exact h id r hr

/-! ### No step but one adds a record -/

/-- Every record of the second table comes from the first, with its handle. -/
def RecordsFrom (t t' : SessionTable) : Prop :=
  ∀ id r', t'.find? id = some r' → ∃ r, t.find? id = some r ∧ r.vmSessionHandle = r'.vmSessionHandle

theorem closed_recordsFrom (W : World φ) (t : SessionTable) :
    Closed (QuietStep W) fun s => RecordsFrom t s.sessionList := by
  have hmod : ∀ {t' : SessionTable} {id : SessionId} {f : SessionRecord → SessionRecord}, RecordsFrom t t' →
      (∀ r, t'.find? id = some r → (f r).vmSessionHandle = r.vmSessionHandle) →
      RecordsFrom t (t'.modify id f) := by
    intro t' id f h hf i r' hr'
    rw [OrdMap.find?_modify] at hr'
    split_ifs at hr' with hi
    · subst hi
      obtain ⟨r, hr, rfl⟩ := Option.map_eq_some_iff.1 hr'
      obtain ⟨r₀, hr₀, heq⟩ := h _ r hr
      exact ⟨r₀, hr₀, heq.trans (hf r hr).symm⟩
    · exact h i r' hr'
  have herase : ∀ {t' : SessionTable} {id : SessionId}, RecordsFrom t t' → RecordsFrom t (t'.erase id) := by
    intro t' id h i r' hr'
    rw [OrdMap.find?_erase] at hr'
    split_ifs at hr'
    exact h i r' hr'
  intro s s' hst h
  cases hst with
  | clean hst =>
    cases hst with
    | env | applets | unload | uninstallPackage | closeFailed => exact h
    | deadOwners hr =>
      refine hmod h fun r hr' => ?_
      cases hr.symm.trans hr'
      rfl
    | events => exact hmod h fun _ _ => rfl
    | closed => exact herase h
  | exchange | ownersFull | openFailed | undone => exact h
  | dropOwner hr =>
    refine hmod h fun r hr' => ?_
    cases hr.symm.trans hr'
    rfl
  | crashed => exact herase h
  | addOwner => exact hmod h fun _ _ => rfl

/-! ### Opening a session in the VM -/

section Create

/-- After a round of attempts: nothing was opened, or the last attempt opened a session. -/
def Attempted (W : World φ) (J : Service φ → Prop) (appId : Bytes) (id : SessionId) (init : Bytes)
    (r : JhiRet × VmHandle) (s' : Service φ) : Prop :=
  (r.1 ≠ jhiSuccess ∧ J s') ∨
    (r.1 = jhiSuccess ∧ ∃ s blob, J s ∧ r = ((W.pluginCreateSession appId blob id init).exe s.env).1 ∧
      s' = { s with env := ((W.pluginCreateSession appId blob id init).exe s.env).2 })

/-- A property that attempts which open nothing do not end. -/
def AttemptStable (W : World φ) (J : Service φ → Prop) : Prop :=
  ∀ s appId blob id init, ((W.pluginCreateSession appId blob id init).exe s.env).1.1 ≠ jhiSuccess → J s →
    J { s with env := ((W.pluginCreateSession appId blob id init).exe s.env).2 }

variable {J : Service φ → Prop} (hJ : AttemptStable W J)
include hJ

theorem attempt_once {s : Service φ} (hs : J s) (appId : Bytes) (blob : Option Bytes) (id : SessionId) (init : Bytes) :
    Attempted W J appId id init ((onEnv (W.pluginCreateSession appId blob id init)).exe s).1
      ((onEnv (W.pluginCreateSession appId blob id init)).exe s).2 := by
  by_cases hret : ((W.pluginCreateSession appId blob id init).exe s.env).1.1 = jhiSuccess
  · exact Or.inr ⟨hret, s, blob, hs, rfl, rfl⟩
  · exact Or.inl ⟨hret, hJ s appId blob id init hret hs⟩

theorem attempt_blobs (appId : Bytes) (id : SessionId) (init : Bytes) (blobs : List Bytes)
    (last : JhiRet × VmHandle) (hlast : last.1 ≠ jhiSuccess ∨ blobs ≠ []) {s : Service φ} (hs : J s) :
    let round := tryEach (fun r : JhiRet × VmHandle => createStops r.1)
      (fun blob => onEnv (W.pluginCreateSession appId (some blob) id init)) last blobs
    Attempted W J appId id init (round.exe s).1 (round.exe s).2 := by
  induction blobs generalizing last s with
  | nil => exact Or.inl ⟨hlast.resolve_right (not_not_intro rfl), hs⟩
  | cons blob blobs ih =>
    have hone := attempt_once hJ hs appId (some blob) id init
    simp only [tryEach, exe_bind, exe_ite]
    split
    · exact hone
    next hstop =>
      -- the loop goes on, so this attempt opened nothing
      have hne : ((onEnv (W.pluginCreateSession appId (some blob) id init)).exe s).1.1 ≠ jhiSuccess := by
        intro hsucc
        rw [hsucc] at hstop
        exact hstop (by decide)
      rcases hone with ⟨_, hs'⟩ | ⟨hsucc, _⟩
      · exact ih _ (Or.inl hne) hs'
      · exact absurd hsucc hne

theorem attempt_openInVm (appId : Bytes) (id : SessionId) (init : Bytes) (blobs : List Bytes)
    (last : JhiRet × VmHandle) {s : Service φ} (hblobs : s.vmType = .beihaiV2 → blobs ≠ []) (hs : J s) :
    Attempted W J appId id init ((openInVm W appId blobs id init last).exe s).1
      ((openInVm W appId blobs id init last).exe s).2 := by
  simp only [openInVm, exe_bind, exe_get, exe_ite]
  split
  · exact attempt_once hJ hs appId none id init
  next hvm => exact attempt_blobs hJ appId id init blobs last (Or.inr (hblobs (by simpa using hvm))) hs

end Create

/-! ### Creating a session -/

/-- The steps with which a session is opened, up to the one that adds its record. -/
inductive OpeningStep (W : World φ) : Service φ → Service φ → Prop
  | tidy {s t : Service φ} (h : TidyStep W s t) : OpeningStep W s t
  | newId (s : Service φ) : OpeningStep W s { s with env := (W.generateNewSessionId.exe s.env).2 }
  | openFailed (s : Service φ) (appId : Bytes) (blob : Option Bytes) (id : SessionId) (init : Bytes)
      (hret : ((W.pluginCreateSession appId blob id init).exe s.env).1.1 ≠ jhiSuccess) :
      OpeningStep W s { s with env := ((W.pluginCreateSession appId blob id init).exe s.env).2 }
  | undone (s : Service φ) (appId : Bytes) (blob : Option Bytes) (id : SessionId) (init : Bytes)
      (hret : ((W.pluginCreateSession appId blob id init).exe s.env).1.1 = jhiSuccess)
      {e : φ} (he : e = ((W.pluginCreateSession appId blob id init).exe s.env).2)
      {h : VmHandle} (hh : h = ((W.pluginCreateSession appId blob id init).exe s.env).1.2) :
      OpeningStep W s { s with
        env := ((W.pluginCloseSession h).exe e).2
        log := s.log ++ [⟨.undoCreate h ((W.pluginCloseSession h).exe e).1, s.sessionList, s.appletTable⟩] }

theorem OpeningStep.quiet {s t : Service φ} (h : OpeningStep W s t) : QuietStep W s t := by
  cases h with
  | tidy h => exact .clean h.clean
  | newId => exact .clean (.env s (.generateNewSessionId s.env))
  | openFailed appId blob id init hret => exact .openFailed s appId blob id init hret
  | undone appId blob id init hret he hh => exact .undone s appId blob id init hret he hh

section NewSession

/-- What stays true while a session is being opened: the invariant, that a shared session asked for
does not exist yet, and that Beihai v2 has a blob to try. -/
structure Opening (I : Service φ → Prop) (appId : Bytes) (flags : UInt32) (blobs : List Bytes) (s : Service φ) :
    Prop where
  inv : I s
  noShared : sharedSession flags = true → getSharedSessionID s.sessionList appId = none
  hasBlob : s.vmType = .beihaiV2 → blobs ≠ []

theorem CleanStep.vmType_eq {s t : Service φ} (h : CleanStep W s t) : t.vmType = s.vmType := by
  cases h <;> rfl

theorem QuietStep.vmType_eq {s t : Service φ} (h : QuietStep W s t) : t.vmType = s.vmType := by
  cases h with
  | clean h => exact h.vmType_eq
  | _ => rfl

variable {I : Service φ → Prop}

theorem Closed.ofQuiet (hI : Closed (QuietStep W) I) : Closed (CleanStep W) I := fun s t hst => hI s t (.clean hst)

theorem Closed.careQuiet (hI : Closed (QuietStep W) I) (ℓ : Licence) : Closed (CareQuietStep W ℓ) I :=
  fun s t hst => hI s t hst.1

theorem Closed.ofCareQuiet {ℓ : Licence} (hI : Closed (CareQuietStep W ℓ) I) : Closed (CareStep W ℓ) I :=
  fun s t hst => hI s t ⟨.clean hst.clean, hst.careful⟩

theorem Closed.opening {ℓ : Licence} (hI : Closed (CareQuietStep W ℓ) I) : Closed (OpeningStep W) I := by
  intro s t hst
  refine hI s t ⟨hst.quiet, ?_⟩
  cases hst with
  | tidy h => exact h.careful
  | newId | openFailed => exact .of_eq rfl rfl
  | undone =>
    refine .of_record rfl rfl fun appId h => ?_
    rcases h with h | h <;> cases h

variable (hI : Closed (OpeningStep W) I)
include hI

theorem closed_opening (appId : Bytes) (flags : UInt32) (blobs : List Bytes) :
    Closed (TidyStep W) (Opening I appId flags blobs) := fun s t hst h =>
  { inv := hI s t (.tidy hst) h.inv
    noShared := fun hf => closed_noShared W appId s t hst.clean (h.noShared hf)
    hasBlob := fun hv => h.hasBlob (hst.clean.vmType_eq ▸ hv) }

theorem attemptStable_opening (appId : Bytes) (flags : UInt32) (blobs : List Bytes) :
    AttemptStable W (Opening I appId flags blobs) := fun s appId' blob id init hret h =>
  { inv := hI _ _ (.openFailed s appId' blob id init hret) h.inv
    noShared := h.noShared
    hasBlob := h.hasBlob }

theorem attempt_openWithEviction {appId : Bytes} {flags : UInt32} {blobs : List Bytes} (id : SessionId)
    (init : Bytes) {s : Service φ} (hs : Opening I appId flags blobs s) :
    Attempted W (Opening I appId flags blobs) appId id init ((openWithEviction W appId blobs id init).exe s).1
      ((openWithEviction W appId blobs id init).exe s).2 := by
  have hJ := attemptStable_opening hI appId flags blobs
  have hfirst := attempt_openInVm hJ appId id init blobs (jhiSuccess, 0) hs.hasBlob hs
  simp only [openWithEviction, exe_bind, exe_ite]
  split
  next hfull =>
    rcases hfirst with ⟨hne, hs'⟩ | ⟨hsucc, _⟩
    · have hclean := keeps_tryRemoveUnusedSharedSession (closed_opening hI appId flags blobs) true _ hs'
      split
      · exact attempt_openInVm hJ appId id init blobs _ hclean.hasBlob hclean
      · exact Or.inl ⟨hne, hclean⟩
    · rw [hsucc] at hfull
      exact absurd hfull (by decide)
  · exact hfirst

/-- The end of a create: the invariant still holds, or the last step added the record of the session
that the create answers. -/
def Created (W : World φ) (I : Service φ → Prop) (appId : Bytes) (flags : UInt32) (p : ProcessInfo)
    (res : JhiRet × Option SessionId) (s' : Service φ) : Prop :=
  I s' ∨ ∃ s id handle, I s ∧ Step W s s' ∧ res = (jhiSuccess, some id) ∧ ∃ blob init, s' = { s with
    env := ((W.pluginCreateSession appId blob id init).exe s.env).2
    sessionList := s.sessionList.insert id (newRecord appId handle id flags p) }

theorem createNewSession_created (appId : AppId) (blobs : List Bytes) (flags : UInt32) (init : Bytes)
    (p : ProcessInfo) {s : Service φ} (hs : Opening I appId.text flags blobs s) :
    Created W I appId.text flags p ((createNewSession W appId.text blobs flags init p).exe s).1
      ((createNewSession W appId.text blobs flags init p).exe s).2 := by
  have hgen : Opening I appId.text flags blobs ((onEnv W.generateNewSessionId).exe s).2 :=
    ⟨hI _ _ (.newId s) hs.inv, hs.noShared, hs.hasBlob⟩
  simp only [createNewSession, exe_bind]
  cases hid : ((onEnv W.generateNewSessionId).exe s).1 with
  | none => exact Or.inl hgen.inv
  | some id =>
    have hopen := attempt_openWithEviction hI id init hgen
    simp only [exe_bind, exe_ite, exe_pure]
    generalize hr : (openWithEviction W appId.text blobs id init).exe _ = r at hopen ⊢
    obtain ⟨⟨ret, h⟩, s'⟩ := r
    rcases hopen with ⟨hne, hs'⟩ | ⟨hsucc, s₀, blob, hs₀, hres, hs'⟩
    · simp only at hne hs' ⊢
      rw [if_neg hne]
      split <;> exact Or.inl hs'.inv
    · simp only at hsucc hres hs' ⊢
      subst hsucc
      have hret := congrArg Prod.fst hres
      have hh := congrArg Prod.snd hres
      simp only at hret hh
      rw [if_neg (by decide), if_pos rfl]
      simp only [add, exe_bind, exe_get, exe_ite, exe_modifySessions, exe_pure, exe_onEnv, exe_record]
      by_cases hpres : isSessionPresent s'.sessionList id = true
      · simp only [if_pos hpres, Bool.false_eq_true, if_false]
        subst hs'
        exact Or.inl (hI _ _ (.undone s₀ appId.text blob id init hret.symm rfl hh) hs₀.inv)
      · simp only [if_neg hpres, if_true]
        subst hs' hh
        refine Or.inr ⟨s₀, id, _, hs₀.inv, .opened s₀ appId blob init flags p hret.symm ?_ hs₀.noShared, rfl, blob,
          init, rfl⟩
        simpa [isSessionPresent] using hpres

end NewSession

/-! ### The commands that use sessions -/

section Commands

variable {I : Service φ → Prop}

theorem getAppletBlobs_ne_nil {file : FileString} {isAcp : Bool} {s : Service φ} {blobs : List Bytes}
    (h : ((getAppletBlobs W file isAcp).exe s).1 = .ok blobs) : blobs ≠ [] := by
  simp only [getAppletBlobs, exe_ite] at h
  split at h
  · simp only [readFileAsBlob, exe_bind] at h
    split at h <;> cases h
    exact List.cons_ne_nil _ _
  · split at h
    · simp only [exe_bind] at h
      split at h <;> cases h
      exact List.cons_ne_nil _ _
    · cases h

theorem closed_vmType (W : World φ) (v : VmType) : Closed (CleanStep W) fun s => s.vmType = v :=
  fun _ _ hst h => hst.vmType_eq.trans h

theorem locateApplet_blobs {appId : Bytes} {s : Service φ} {blobs : List Bytes}
    (h : ((locateApplet W appId).exe s).1 = .ok blobs)
    (hv : ((locateApplet W appId).exe s).2.vmType = .beihaiV2) : blobs ≠ [] := by
  simp only [locateApplet, exe_bind, exe_get, exe_ite] at h hv
  split at h
  · cases h
  next hreg =>
    rw [if_neg hreg] at hv
    revert hv h
    cases hfound : ((appletExistInRepository W appId).exe s).1 with
    | none =>
      intro _ h
      cases h
    | some found =>
      simp only [exe_bind, exe_get, exe_ite, exe_pure]
      generalize ((appletExistInRepository W appId).exe s).2 = s'
      by_cases hvm : s'.vmType = .beihaiV2
      · simp only [if_pos hvm]
        intro _ h
        exact getAppletBlobs_ne_nil h
      · simp only [if_neg hvm]
        intro hv _
        have hclosed := Closed.care (closed_vmType W s'.vmType) .any
        have hinst : ((jhisInstall W appId found.1 true found.2).exe s').2.vmType = s'.vmType :=
          keeps_jhisInstall hclosed trivial trivial trivial found.1 true found.2 s' rfl
        split at hv
        · split at hv <;> exact absurd (hinst.symm.trans hv) hvm
        · exact absurd hv hvm

section Care

variable {ℓ : Licence} (hC : Closed (CareStep W ℓ) I)
include hC

theorem keeps_ensureInstalled {appId : Bytes} (hU : ℓ.unload) (hP : ℓ.install appId) (hF : ℓ.force appId) :
    Keeps I (ensureInstalled W appId) := by
  refine Keeps.get.bind fun s => Keeps.ite (fun _ => ?_) fun _ => Keeps.pure _
  refine (keeps_appletExistInRepository hC appId).bind fun found => ?_
  cases found with
  | none => exact Keeps.pure _
  | some found => exact (keeps_jhisInstall hC hU hP hF _ _ _).bind fun _ => Keeps.pure _

theorem keeps_queryProperty (appId tx : Bytes) (n : UInt32) : Keeps I (queryProperty W appId tx n) := by
  refine Keeps.get.bind fun s => Keeps.ite (fun _ => Keeps.pure _) fun _ => ?_
  refine (keeps_env hC (.getAppletProperty _ _ _)).bind fun a => Keeps.ite (fun _ => Keeps.pure _) fun _ => ?_
  exact Keeps.ite (fun _ => Keeps.pure _) fun _ => Keeps.pure _

theorem keeps_locateApplet {appId : Bytes} (hU : ℓ.unload) (hP : ℓ.install appId) (hF : ℓ.force appId) :
    Keeps I (locateApplet W appId) := by
  refine Keeps.get.bind fun s => Keeps.ite (fun _ => Keeps.pure _) fun _ => ?_
  refine (keeps_appletExistInRepository hC appId).bind fun found => ?_
  cases found with
  | none => exact Keeps.pure _
  | some found =>
    refine Keeps.get.bind fun s => Keeps.ite (fun _ => keeps_getAppletBlobs hC _ _) fun _ => Keeps.get.bind fun s => ?_
    refine Keeps.ite (fun _ => ?_) fun _ => Keeps.pure _
    exact (keeps_jhisInstall hC hU hP hF _ _ _).bind fun _ => Keeps.ite (fun _ => Keeps.pure _) fun _ => Keeps.pure _

end Care

theorem keeps_isSharedSessionSupported (hC : Closed (CleanStep W) I) (appId : Bytes) :
    Keeps I (isSharedSessionSupported W appId) := by
  refine Keeps.get.bind fun s => ?_
  split
  · exact Keeps.pure _
  · have hcare := Closed.care hC .any
    refine Keeps.ite (fun _ => Keeps.bind (Keeps.bind ?_ fun _ s hs => hC _ _ (.applets s _) hs) fun _ => ?_) fun _ => ?_
    · refine Keeps.ite (fun _ => Keeps.pure _) fun _ => (keeps_ensureInstalled hcare trivial trivial trivial).bind fun _ => ?_
      exact Keeps.ite (fun _ => Keeps.pure _) fun _ => keeps_queryProperty hcare _ _ _
    all_goals
      refine Keeps.get.bind fun s => ?_
      split <;> exact Keeps.pure _

theorem keeps_lookForShared (hC : Closed (CleanStep W) I) (appId : Bytes) : Keeps I (lookForShared W appId) := by
  have hend : Keeps I (do
      return .ok (getSharedSessionID (← get).sessionList appId) :
        StateM (Service φ) (Except JhiRet (Option SessionId))) := Keeps.get.bind fun _ => Keeps.pure _
  refine Keeps.get.bind fun s => Keeps.ite (fun _ => ?_) fun _ => hend
  exact (keeps_isSharedSessionSupported hC appId).bind fun _ => Keeps.ite (fun _ => Keeps.pure _) fun _ => hend

theorem lookForShared_ok {appId : Bytes} {s : Service φ} {found : Option SessionId}
    (h : ((lookForShared W appId).exe s).1 = .ok found) :
    getSharedSessionID ((lookForShared W appId).exe s).2.sessionList appId = found := by
  simp only [lookForShared, exe_bind, exe_get, exe_ite, exe_pure] at h ⊢
  split at h
  next hvm =>
    rw [if_pos hvm]
    split at h
    · cases h
    next hsup =>
      rw [if_neg hsup]
      cases h
      rfl
  next hvm =>
    rw [if_neg hvm]
    cases h
    rfl

theorem addSessionOwner_keeps {ℓ : Licence} (hQ : Closed (CareQuietStep W ℓ) I) {s : Service φ} {appId : Bytes} {id : SessionId}
    (p : ProcessInfo) (hfound : getSharedSessionID s.sessionList appId = some id) (hs : I s) :
    I ((addSessionOwner id p).exe s).2 := by
  obtain ⟨r, hr, -, hshared⟩ := getSharedSessionID_eq_some hfound
  have hcare : ∀ appId, (LogCall.addSessionOwner id).Unloads appId →
      ℓ.unload ∧ hasLiveSessions s.sessionList appId = false ∨ ℓ.force appId := by
    intro appId h
    rcases h with h | h <;> cases h
  simp only [addSessionOwner, exe_bind, exe_record, exe_get, hr, exe_ite, exe_modifySessions, exe_pure]
  split
  next hge => exact hQ _ _ ⟨.ownersFull s hr hshared hge, .of_record rfl rfl hcare⟩ hs
  next hlt => exact hQ _ _ ⟨.addOwner s hr hshared (not_le.1 hlt) p, .of_record rfl rfl hcare⟩ hs

theorem keeps_removeSessionOwner {ℓ : Licence} (hQ : Closed (CareQuietStep W ℓ) I) (id : SessionId) (p : ProcessInfo) :
    Keeps I (removeSessionOwner id p) := by
  intro s hs
  simp only [removeSessionOwner, exe_bind, exe_get]
  cases hr : s.sessionList.find? id with
  | none => exact hs
  | some r =>
    dsimp only
    split_ifs with hp
    · obtain ⟨stamp, counter, hstamp, heq⟩ := setOwners_eq s id r (r.ownersList.erase p)
      simp only [exe_bind, exe_pure, heq]
      exact hQ _ _ ⟨.dropOwner s hr (by simpa using hp) stamp counter hstamp, .of_eq rfl rfl⟩ hs
    · exact hs

theorem keeps_jhisCloseSession {ℓ : Licence} (hQ : Closed (CareQuietStep W ℓ) I) (id : SessionId)
    (p : Option ProcessInfo) (force : Bool) : Keeps I (jhisCloseSession W id p force true) := by
  refine Keeps.get.bind fun s => ?_
  cases closeBranch s.sessionList id p force with
  | notExists => exact Keeps.pure _
  | notOwner => exact Keeps.pure _
  | dropOwner =>
    cases p with
    | none => exact Keeps.pure _
    | some p => exact (keeps_removeSessionOwner hQ id p).bind fun _ => Keeps.pure _
  | removal => exact keeps_closeRemoval (Closed.tidy (Closed.ofCareQuiet hQ)) id force

theorem createLocated_created (hopening : Closed (OpeningStep W) I) (appId : AppId) (p : ProcessInfo)
    (hlookUp : Keeps I (lookForShared W appId.text))
    (hadd : ∀ s id, getSharedSessionID s.sessionList appId.text = some id → I s → I ((addSessionOwner id p).exe s).2)
    (blobs : List Bytes) (flags : UInt32) (init : Bytes) (hblobs : ∀ s, I s → s.vmType = .beihaiV2 → blobs ≠ [])
    {s : Service φ} (hs : I s) :
    Created W I appId.text flags p ((createLocated W appId.text blobs flags init p).exe s).1
      ((createLocated W appId.text blobs flags init p).exe s).2 := by
  have htidy : Closed (TidyStep W) I := fun s t hst => hopening s t (.tidy hst)
  have hclean := keeps_clearDeadAndAbandoned htidy s hs
  simp only [createLocated, exe_bind, exe_ite]
  generalize ((clearDeadAndAbandoned W).exe s).2 = s₂ at hclean ⊢
  split
  next hflag =>
    have hlook := hlookUp s₂ hclean
    have hans := @lookForShared_ok φ W appId.text s₂
    generalize (lookForShared W appId.text).exe s₂ = r at hlook hans ⊢
    obtain ⟨found, s₃⟩ := r
    match found with
    | .error ret => exact Or.inl hlook
    | .ok (some id) =>
      have hadded := hadd s₃ id (hans rfl) hlook
      simp only [exe_bind, exe_ite]
      split <;> exact Or.inl hadded
    | .ok none =>
      exact createNewSession_created hopening appId blobs flags init p ⟨hlook, fun _ => hans rfl, hblobs _ hlook⟩
  next hflag =>
    exact createNewSession_created hopening appId blobs flags init p
      ⟨hclean, fun h => absurd h hflag, hblobs _ hclean⟩

theorem Created.mono {J : Service φ → Prop} {appId : Bytes} {flags : UInt32} {p : ProcessInfo}
    {res : JhiRet × Option SessionId} {s' : Service φ} (h : Created W J appId flags p res s') (hJ : ∀ s, J s → I s) :
    Created W I appId flags p res s' := by
  rcases h with h | ⟨s, id, handle, hs, hstep, hres, heq⟩
  · exact .inl (hJ _ h)
  · exact .inr ⟨s, id, handle, hJ _ hs, hstep, hres, heq⟩

/-- A create is made of quiet steps, with the one that adds a record at the end if it succeeds. -/
theorem jhisCreateSession_created (hQ : Closed (QuietStep W) I) (appId : AppId) (flags : UInt32) (init : Bytes)
    (p : ProcessInfo) {s : Service φ} (hs : I s) :
    Created W I appId.text flags p ((jhisCreateSession W appId.text flags init p).exe s).1
      ((jhisCreateSession W appId.text flags init p).exe s).2 := by
  have hloc : I ((locateApplet W appId.text).exe s).2 :=
    keeps_locateApplet (Closed.care (Closed.ofQuiet hQ) .any) trivial trivial trivial s hs
  have hblobs := @locateApplet_blobs φ W appId.text s
  simp only [jhisCreateSession, exe_bind]
  generalize (locateApplet W appId.text).exe s = r at hloc hblobs ⊢
  obtain ⟨located, s₁⟩ := r
  cases located with
  | error ret => exact Or.inl hloc
  | ok blobs =>
    -- what holds from here on, apart from the answer of the look-up
    have hK : Closed (QuietStep W) fun s => I s ∧ (s.vmType = .beihaiV2 → blobs ≠ []) :=
      Closed.and hQ fun _ _ hst h hv => h (hst.vmType_eq ▸ hv)
    have hcare := Closed.careQuiet hK .any
    refine Created.mono (createLocated_created hcare.opening appId p ?_ ?_ blobs flags init (fun _ h => h.2)
      ⟨hloc, hblobs rfl⟩) fun _ h => h.1
    · exact keeps_lookForShared (Closed.ofQuiet hK) appId.text
    · exact fun _ _ hfound h => addSessionOwner_keeps hcare p hfound h

section Plain

variable {ℓ : Licence} (hQ : Closed (CareQuietStep W ℓ) I)
include hQ

omit hQ in
theorem exe_jhisCloseSession_crashed {s : Service φ} {id : SessionId}
    (hactive : (getSessionInfo s.sessionList id).1 ≠ .notExists) (hpres : isSessionPresent s.sessionList id = true) :
    (jhisCloseSession W id none false false).exe s =
      (jhiSuccess, { s with
        sessionList := s.sessionList.erase id
        log := s.log ++ [⟨.removeSession id, s.sessionList, s.appletTable⟩] }) := by
  have hbranch : closeBranch s.sessionList id none false = .removal := by
    simp [closeBranch, hactive]
  simp [jhisCloseSession, hbranch, closeRemoval, finishClose, remove, hpres, closedInVm]

theorem keeps_jhisTxrxRaw (id : SessionId) (cmd : UInt32) (tx : Bytes) (n : UInt32) :
    Keeps I (jhisTxrxRaw W id cmd tx n) := by
  intro s hs
  simp only [jhisTxrxRaw, exe_bind, exe_get, exe_ite, exe_pure]
  split
  · exact hs
  next hactive =>
    split
    · exact hs
    next hpres =>
      cases hh : getVMSessionHandle s.sessionList id with
      | none => exact hs
      | some handle =>
        obtain ⟨r, hr, rfl⟩ := find?_of_getVMSessionHandle hh
        simp only [exe_bind, exe_get, exe_ite, exe_pure, exe_onEnv]
        split
        · exact hs
        · split
          next hdied =>
            have hclose := exe_jhisCloseSession_crashed (W := W)
              (s := { s with env := ((W.pluginSendAndRecv r.vmSessionHandle cmd tx n).exe s.env).2 })
              hactive (by simpa using hpres)
            rw [hclose]
            refine hQ _ _ ⟨.crashed s hr cmd tx n hdied, .of_record rfl rfl fun appId h => ?_⟩ hs
            rcases h with h | h <;> cases h
          next halive => exact hQ _ _ ⟨.exchange s hr cmd tx n (by simpa using halive), .of_eq rfl rfl⟩ hs

theorem keeps_jhisGetSessionsCount (appId : Bytes) : Keeps I (jhisGetSessionsCount W appId) := by
  refine Keeps.get.bind fun s => Keeps.ite (fun _ => ?_) fun _ => Keeps.get.bind fun _ => Keeps.pure _
  refine (keeps_appletExistInRepository (Closed.ofCareQuiet hQ) appId).bind fun found => ?_
  cases found <;> exact Keeps.pure _

theorem keeps_setEventHandle (id : SessionId) (h : EventHandle) : Keeps I (setEventHandle id h) := by
  refine Keeps.get.bind fun s => Keeps.ite (fun _ => Keeps.bind ?_ fun _ => Keeps.pure _) fun _ => Keeps.pure _
  exact fun s hs => hQ _ _ ⟨.clean <| .events s id (fun _ => some h) fun r =>
    if h.created then r.eventsDataQueue else [], .of_eq rfl rfl⟩ hs

theorem keeps_setSessionEventHandler (id : SessionId) (name : Bytes) : Keeps I (setSessionEventHandler W id name) := by
  refine Keeps.get.bind fun s => Keeps.ite (fun _ => Keeps.pure _) fun _ => Keeps.ite (fun _ => Keeps.pure _) fun _ => ?_
  have hend : ∀ opened : Bool, Keeps I (do
      if !opened then return jhiInternalError
      else if ← setEventHandle id ⟨cString (name.take jhiEventHandleSize), cString (name.take jhiEventHandleSize) ≠ []⟩
        then return jhiSuccess
      else return jhiInternalError : StateM (Service φ) JhiRet) := by
    intro opened
    refine Keeps.ite (fun _ => Keeps.pure _) fun _ => (keeps_setEventHandle hQ id _).bind fun _ => ?_
    exact Keeps.ite (fun _ => Keeps.pure _) fun _ => Keeps.pure _
  refine Keeps.ite (fun _ => (Keeps.pure true).bind hend) fun _ => ?_
  exact (keeps_env (Closed.ofCareQuiet hQ) (.openEvent _)).bind hend

theorem keeps_getSessionEventData (id : SessionId) : Keeps I (getSessionEventData id) := by
  refine Keeps.get.bind fun s => ?_
  cases s.sessionList.find? id with
  | none => exact Keeps.pure _
  | some r =>
    refine Keeps.ite (fun _ => Keeps.pure _) fun _ => ?_
    cases r.eventsDataQueue with
    | nil => exact Keeps.pure _
    | cons d ds =>
      refine Keeps.bind ?_ fun _ => Keeps.pure _
      exact fun s hs => hQ _ _ ⟨.clean <| .events s id SessionRecord.eventHandle fun _ => ds, .of_eq rfl rfl⟩ hs

/-- The calls that have nothing to do with the applets. -/
def Call.plain : Call → Bool
  | .install .. | .uninstall .. | .createSession .. | .getAppletProperty .. | .sendCmdPkg .. => false
  | _ => true

theorem keeps_exec_plain {c : Call} (hc : c.plain = true) : Keeps I (exec W c) := by
  have hC := Closed.ofCareQuiet hQ
  cases c with
  | install | uninstall | createSession | getAppletProperty | sendCmdPkg => cases hc
  | sendAndRecieve id cmd tx n => exact keeps_jhisTxrxRaw hQ id cmd tx n
  | closeSession id p force => exact keeps_jhisCloseSession hQ id (some p) force
  | getSessionsCount appId => exact keeps_jhisGetSessionsCount hQ _
  | getSessionInfo id => exact Keeps.get.bind fun _ => Keeps.pure _
  | setSessionEventHandler id name => exact keeps_setSessionEventHandler hQ id name
  | getSessionEventData id => exact keeps_getSessionEventData hQ id
  | getVersionInfo => exact keeps_env hC .versionInfo
  | openSDSession sd => exact keeps_env hC (.openSDSession sd)
  | closeSDSession h => exact keeps_env hC (.closeSDSession h)
  | listInstalledTAs h => exact keeps_env hC (.listInstalledTAs h)
  | listInstalledSDs h => exact keeps_env hC (.listInstalledSDs h)
  | queryTeeMetadata => exact keeps_env hC .queryTeeMetadata
  | provisionOemMasterKey k => exact keeps_env hC (.provisionOemMasterKey k)
  | setTAEncryptionKey k => exact keeps_env hC (.setTAEncryptionKey k)
  | getSessionsDataTable => exact Keeps.get.bind fun _ => Keeps.pure _
  | getLoadedApplets => exact Keeps.get.bind fun _ => Keeps.pure _

end Plain

variable (hI : Closed (Step W) I)
include hI

theorem Closed.toQuiet : Closed (QuietStep W) I := fun s t hst => hI s t (.quiet hst)

theorem Closed.toCareQuiet : Closed (CareQuietStep W .any) I := fun s t hst => hI s t (.quiet hst.1)

theorem Closed.toCare : Closed (CareStep W .any) I := fun s t hst => hI s t (.quiet (.clean hst.clean))

theorem keeps_jhisCreateSession (appId : AppId) (flags : UInt32) (init : Bytes) (p : ProcessInfo) :
    Keeps I (jhisCreateSession W appId.text flags init p) := by
  intro s hs
  rcases jhisCreateSession_created (Closed.toQuiet hI) appId flags init p hs with h | ⟨s', -, -, hs', hstep, -⟩
  · exact h
  · exact hI _ _ hstep hs'

theorem keeps_propertySession (appId : AppId) : Keeps I (propertySession W appId.text) := by
  refine Keeps.get.bind fun s => Keeps.get.bind fun s => Keeps.ite (fun _ => ?_) fun _ => Keeps.pure _
  refine (keeps_env (Closed.toCare hI) .ownProcessInfo).bind fun p => ?_
  refine (keeps_jhisCreateSession hI appId 0 [] p).bind fun r => ?_
  obtain ⟨ret, _ | id⟩ := r
  · exact Keeps.pure _
  · exact Keeps.ite (fun _ => Keeps.pure _) fun _ => Keeps.pure _

theorem keeps_jhisGetAppletProperty (appId : AppId) (tx : Bytes) (n : UInt32) :
    Keeps I (jhisGetAppletProperty W appId.text tx n) := by
  have hC := Closed.toCare hI
  have hquery := keeps_queryProperty hC appId.text tx n
  refine Keeps.ite (fun _ => Keeps.pure _) fun _ => (keeps_ensureInstalled hC trivial trivial trivial).bind fun _ => ?_
  refine Keeps.ite (fun _ => Keeps.pure _) fun _ => (keeps_propertySession hI appId).bind fun r => ?_
  match r with
  | .error ret => exact Keeps.pure _
  | .ok none => exact hquery
  | .ok (some (id, p)) =>
    exact hquery.bind fun a => (keeps_jhisCloseSession (Closed.toCareQuiet hI) id (some p) false).bind fun _ => Keeps.pure _

/-- **Every call of the dispatcher is made of steps.** -/
theorem keeps_exec (c : Call) : Keeps I (exec W c) := by
  have hC := Closed.toCare hI
  cases c with
  | install appId file => exact keeps_jhisInstall hC trivial trivial trivial _ _ _
  | uninstall appId => exact keeps_jhisUninstall hC trivial trivial _ _
  | createSession appId flags init p => exact keeps_jhisCreateSession hI appId flags init p
  | getAppletProperty appId tx n => exact keeps_jhisGetAppletProperty hI appId tx n
  | sendCmdPkg h blob => exact keeps_jhisSendCmdPkg hC trivial trivial h blob fun _ => keeps_cmdPkgInstallJta hC trivial trivial trivial h blob
  | _ => exact keeps_exec_plain (Closed.toCareQuiet hI) rfl

omit hI in
theorem exec_steps (W : World φ) (c : Call) (s : Service φ) :
    Relation.ReflTransGen (Step W) s ((exec W c).exe s).2 :=
  keeps_exec (closed_reach (Step W) s) c s .refl

end Commands

end DalHost

import DalHost.Sessions.Eviction
import DalHost.Sessions.UnloadGuard

/-!
# Making room for an applet

`TryUnloadUnusedApplet` looks for an applet to take out of a full VM, in two rounds over the list of
the installed ones: the first applet without sessions, and if none could be unloaded, the first one
after a shared session without owners was closed. Each attempt starts with the clean-up of
`jhis_unload`, for the sessions of all applets. So when the first attempt fails, the second round may
find an applet without sessions that had some when the call began: their owners are dead.
-/

namespace DalHost

variable {φ : Type} (W : World φ)

/-! ### What the call is to do -/

/-- What the tables satisfy on Beihai v1: every session belongs to an applet whose record is `INSTALLED`. -/
structure RoomInv (s : Service φ) : Prop where
  table : TableInv s.sessionList
  installed : ∀ id r, s.sessionList.find? id = some r → getAppletState s.appletTable r.appId = .installed

/-- The record `r` is one of a session of the applet. -/
def SessionOf (t : SessionTable) (appId : Bytes) (id : SessionId) (r : SessionRecord) : Prop :=
  t.find? id = some r ∧ toUpperCase appId = r.appId

/-- The applet has no session, or only a shared one without owners. -/
def UnusedApplet (t : SessionTable) (appId : Bytes) : Prop :=
  ∀ id r, SessionOf t appId id r → r.shared = true ∧ r.ownersList = []

/-- The firmware reported the applet unloaded in the state `t`, in which it had no session, and its record went. -/
structure UnloadReported (t : Service φ) (appId : Bytes) (s' : Service φ) : Prop where
  idle : hasLiveSessions t.sessionList appId = false
  answer : (W.pluginUnloadApplet appId).exe t.env = (jhiSuccess, s'.env)
  log : s'.log = t.log ++ [⟨.unloadApplet appId, t.sessionList, t.appletTable⟩]
  sessions : s'.sessionList = t.sessionList
  applets : s'.appletTable = t.appletTable.erase appId

/-- Between `s` and `s'` the record of one installed applet went, and the firmware reported that applet unloaded. -/
def Removes (s s' : Service φ) (appId : Bytes) : Prop :=
  getAppletState s.appletTable appId = .installed ∧ s'.appletTable = s.appletTable.erase appId ∧
    ∃ t, UnloadReported W t appId s'

/-- Every close and every unload that the firmware is asked for succeeds. -/
structure AlwaysFrees : Prop where
  close : ∀ h e, ((W.pluginCloseSession h).exe e).1 = jhiSuccess
  unload : ∀ a e, ((W.pluginUnloadApplet a).exe e).1 = jhiSuccess

/-- What `TryUnloadUnusedApplet` is to do in the state `s`. -/
structure MakesRoomOfUnused (s : Service φ) : Prop where
  true_iff : ((tryUnloadUnusedApplet W).exe s).1 = true ↔ ∃ a, Removes W s ((tryUnloadUnusedApplet W).exe s).2 a
  /-- No applet with a private session or with an owned shared session is taken out. -/
  unused : ∀ a, Removes W s ((tryUnloadUnusedApplet W).exe s).2 a → UnusedApplet s.sessionList a
  finds : AlwaysFrees W → s.pluginRegistered = true →
    (∃ a, getAppletState s.appletTable a = .installed ∧ UnusedApplet s.sessionList a) →
    ((tryUnloadUnusedApplet W).exe s).1 = true

/-- The states of the world that the attempts to unload go through. -/
inductive Asked (e₀ : φ) : φ → Prop
  | start : Asked e₀ e₀
  | processIsDead {e : φ} (h : Asked e₀ e) (p : ProcessInfo) : Asked e₀ ((W.processIsDead p).exe e).2
  | closeSession {e : φ} (h : Asked e₀ e) (handle : VmHandle) : Asked e₀ ((W.pluginCloseSession handle).exe e).2
  | unloadApplet {e : φ} (h : Asked e₀ e) (appId : Bytes) : Asked e₀ ((W.pluginUnloadApplet appId).exe e).2

/-- The process is found dead on the way from `e₀`. -/
def Died (e₀ : φ) (p : ProcessInfo) : Prop := ∃ e, Asked W e₀ e ∧ ((W.processIsDead p).exe e).1 = true

/-- The applet that the first round tries. -/
def firstIdle (s : Service φ) : Option Bytes :=
  (getLoadedAppletsList s.appletTable).find? fun a => (getJHISessionHandles s.sessionList a).isEmpty

/-- What `TryUnloadUnusedApplet` does: when the first attempt fails, an applet whose sessions have
dead owners may go as well. -/
structure MakesRoom (s : Service φ) : Prop where
  true_iff : ((tryUnloadUnusedApplet W).exe s).1 = true ↔ ∃ a, Removes W s ((tryUnloadUnusedApplet W).exe s).2 a
  kept : ((tryUnloadUnusedApplet W).exe s).1 = false → ((tryUnloadUnusedApplet W).exe s).2.appletTable = s.appletTable
  died : ∀ a, Removes W s ((tryUnloadUnusedApplet W).exe s).2 a →
    ∀ id r, SessionOf s.sessionList a id r → ∀ p ∈ r.ownersList, Died W s.env p
  unused : (∀ b, firstIdle s = some b → ((jhisUnload W b none).exe s).1 = jhiSuccess) →
    ∀ a, Removes W s ((tryUnloadUnusedApplet W).exe s).2 a → UnusedApplet s.sessionList a
  finds : AlwaysFrees W → s.pluginRegistered = true →
    (∃ a, getAppletState s.appletTable a = .installed ∧ UnusedApplet s.sessionList a) →
    ((tryUnloadUnusedApplet W).exe s).1 = true

/-! ### The clean-ups -/

section Tidied

variable {W} {s₀ s : Service φ}

/-- What the clean-ups leave of the service `s₀`: an owner who does not own its session any more was found dead. -/
structure Tidied (W : World φ) (s₀ s : Service φ) : Prop where
  asked : Asked W s₀.env s.env
  applets : s.appletTable = s₀.appletTable
  vmType : s.vmType = s₀.vmType
  registered : s.pluginRegistered = s₀.pluginRegistered
  table : TableInv s.sessionList
  old : ∀ id r, s.sessionList.find? id = some r →
    ∃ r₀, s₀.sessionList.find? id = some r₀ ∧ r.appId = r₀.appId
  owners : ∀ id r₀, s₀.sessionList.find? id = some r₀ → ∀ p ∈ r₀.ownersList,
    Died W s₀.env p ∨ ∃ r, s.sessionList.find? id = some r ∧ p ∈ r.ownersList

theorem Tidied.refl (h : TableInv s.sessionList) : Tidied W s s where
  asked := .start
  applets := rfl
  vmType := rfl
  registered := rfl
  table := h
  old _ r hr := ⟨r, hr, rfl⟩
  owners _ r hr _ hp := .inr ⟨r, hr, hp⟩

theorem removeDead_died {e₀ : φ} (ps : List ProcessInfo) {e : φ} (h : Asked W e₀ e) :
    Asked W e₀ ((removeDead W ps).exe e).2 ∧
      ∀ p ∈ ps, Died W e₀ p ∨ p ∈ ((removeDead W ps).exe e).1 := by
  induction ps generalizing e with
  | nil => exact ⟨h, by simp⟩
  | cons q ps ih =>
    obtain ⟨hasked, hrest⟩ := ih (h.processIsDead q)
    simp only [removeDead, exe_bind, exe_pure]
    refine ⟨hasked, fun p hp => ?_⟩
    rcases List.mem_cons.1 hp with rfl | hp
    · by_cases hdead : ((W.processIsDead p).exe e).1 = true
      · exact .inl ⟨e, h, hdead⟩
      · rw [if_neg hdead]
        exact .inr List.mem_cons_self
    · rcases hrest p hp with hdied | hmem
      · exact .inl hdied
      · refine .inr ?_
        split_ifs
        · exact hmem
        · exact List.mem_cons_of_mem q hmem

theorem Tidied.clearSessionDeadOwners (id : SessionId) : Keeps (Tidied W s₀) (clearSessionDeadOwners W id) := by
  intro s h
  simp only [DalHost.clearSessionDeadOwners, exe_bind, exe_get]
  cases hr : s.sessionList.find? id with
  | none => exact h
  | some r =>
    obtain ⟨hasked, hdied⟩ := removeDead_died (W := W) r.ownersList h.asked
    have hsub := removeDead_sublist W r.ownersList s.env
    simp only [exe_bind, exe_onEnv, exe_ite, exe_pure]
    split_ifs with hlt
    · obtain ⟨stamp, counter, -, heq⟩ := setOwners_eq { s with env := ((removeDead W r.ownersList).exe s.env).2 } id r
        ((removeDead W r.ownersList).exe s.env).1
      have htable : TableInv (s.sessionList.modify id fun _ =>
          { r with ownersList := ((removeDead W r.ownersList).exe s.env).1, lastUsedTime := stamp }) := by
        refine h.table.shrink (fun r' hr' => ?_) fun r' hr' => .inl ?_
        · cases hr.symm.trans hr'
          exact ⟨rfl, rfl, rfl, rfl⟩
        · cases hr.symm.trans hr'
          exact hsub.length_le
      rw [heq]
      refine ⟨hasked, h.applets, h.vmType, h.registered, htable, fun k r' hr' => ?_, fun k r₀ hr₀ p hp => ?_⟩
      · rw [OrdMap.find?_modify] at hr'
        split_ifs at hr' with hk
        · subst hk
          rw [hr, Option.map_some, Option.some.injEq] at hr'
          subst hr'
          exact h.old k r hr
        · exact h.old k r' hr'
      · rcases h.owners k r₀ hr₀ p hp with hp' | ⟨r', hr', hp'⟩
        · exact .inl hp'
        · rw [OrdMap.find?_modify]
          split_ifs with hk
          · subst hk
            cases hr.symm.trans hr'
            rw [hr]
            rcases hdied p hp' with hp'' | hp''
            · exact .inl hp''
            · exact .inr ⟨_, rfl, hp''⟩
          · exact .inr ⟨r', hr', hp'⟩
    · exact { h with asked := hasked }

theorem closeInternally_cases (h : TableInv s.sessionList) (id : SessionId) :
    (closeInternally W id).exe s = (false, s) ∨ ∃ r log, s.sessionList.find? id = some r ∧ s.pluginRegistered = true ∧
      (closeInternally W id).exe s = (decide (((W.pluginCloseSession r.vmSessionHandle).exe s.env).1 = jhiSuccess),
        { s with
          env := ((W.pluginCloseSession r.vmSessionHandle).exe s.env).2
          log := log
          sessionList := if closedInVm ((W.pluginCloseSession r.vmSessionHandle).exe s.env).1
            then s.sessionList.erase id else s.sessionList }) := by
  cases hr : s.sessionList.find? id with
  | none =>
    refine .inl ?_
    have hbranch : closeBranch s.sessionList id none false = .notExists := by
      simp [closeBranch, getSessionInfo, hr]
    simp only [closeInternally, jhisCloseSession, exe_bind, exe_get, hbranch, exe_pure]
    rfl
  | some r =>
    by_cases hreg : s.pluginRegistered = true
    · obtain ⟨log, heq⟩ := exe_closeInternally (W := W) hr (h.active id r hr) hreg (Prod.eta _).symm
      exact .inr ⟨r, log, rfl, hreg, heq⟩
    · exact .inl (closeInternally_unregistered hr (h.active id r hr) (by simpa using hreg))

theorem Tidied.close (h : Tidied W s₀ s) {id : SessionId} (hnobody : ∀ r, s.sessionList.find? id = some r → r.ownersList = []) :
    Tidied W s₀ ((closeInternally W id).exe s).2 ∧
      ∀ k r, ((closeInternally W id).exe s).2.sessionList.find? k = some r → s.sessionList.find? k = some r := by
  rcases closeInternally_cases (W := W) h.table id with heq | ⟨r, log, hr, -, heq⟩
  · rw [heq]
    exact ⟨h, fun _ _ hr => hr⟩
  · rw [heq]
    have hasked := h.asked.closeSession r.vmSessionHandle
    by_cases hclosed : closedInVm ((W.pluginCloseSession r.vmSessionHandle).exe s.env).1 = true
    · simp only [if_pos hclosed]
      have hless : ∀ k r', (s.sessionList.erase id).find? k = some r' → s.sessionList.find? k = some r' := by
        intro k r' hr'
        rw [OrdMap.find?_erase] at hr'
        split_ifs at hr'
        exact hr'
      refine ⟨⟨hasked, h.applets, h.vmType, h.registered, h.table.erase id, fun k r' hr' => h.old k r' (hless k r' hr'), ?_⟩,
        hless⟩
      intro k r₀ hr₀ p hp
      rcases h.owners k r₀ hr₀ p hp with hp' | ⟨r', hr', hp'⟩
      · exact .inl hp'
      · refine .inr ⟨r', ?_, hp'⟩
        rw [OrdMap.find?_erase, if_neg, hr']
        -- the session that went has no owners
        rintro rfl
        rw [hnobody r' hr'] at hp'
        cases hp'
    · simp only [if_neg hclosed]
      exact ⟨{ h with asked := hasked }, fun _ _ hr => hr⟩

theorem Tidied.closeEach (ids : List SessionId) (h : Tidied W s₀ s)
    (hnobody : ∀ id ∈ ids, ∀ r, s.sessionList.find? id = some r → r.ownersList = []) :
    Tidied W s₀ ((iterateAny (closeInternally W) ids).exe s).2 := by
  induction ids generalizing s with
  | nil => exact h
  | cons id ids ih =>
    obtain ⟨hclose, hless⟩ := h.close (hnobody id List.mem_cons_self)
    simp only [iterateAny, exe_bind, exe_pure]
    exact ih hclose fun k hk r hr => hnobody k (List.mem_cons_of_mem id hk) r (hless k r hr)

theorem Tidied.clearDeadAndAbandoned (h : Tidied W s₀ s) : Tidied W s₀ ((clearDeadAndAbandoned W).exe s).2 := by
  have hdead : Tidied W s₀ ((clearSessionsDeadOwners W).exe s).2 :=
    Keeps.get.bind (fun _ => Keeps.iterateAny Tidied.clearSessionDeadOwners _) s h
  simp only [DalHost.clearDeadAndAbandoned, exe_bind, exe_pure]
  generalize ((clearSessionsDeadOwners W).exe s).2 = t at hdead ⊢
  refine hdead.closeEach _ fun id hid r hr => ?_
  obtain ⟨e, he, rfl⟩ := List.mem_map.1 hid
  obtain ⟨hr', hnobody, -⟩ := mem_abandonedSessions.1 he
  cases hr.symm.trans hr'
  exact hnobody

theorem Tidied.clearAppletSharedSession (h : Tidied W s₀ s) (appId : Bytes) :
    Tidied W s₀ ((clearAppletSharedSession W appId).exe s).2 := by
  simp only [DalHost.clearAppletSharedSession, exe_bind, exe_get]
  cases hfind : s.sessionList.entries.find? fun e =>
      toUpperCase appId = e.2.appId && e.2.shared && e.2.ownersList.isEmpty with
  | none => exact h
  | some e =>
    have hr : s.sessionList.find? e.1 = some e.2 := OrdMap.mem_entries_iff.1 (List.mem_of_find?_eq_some hfind)
    have hcond := List.find?_some hfind
    simp only [Bool.and_eq_true, List.isEmpty_iff] at hcond
    refine (h.close fun r hr' => ?_).1
    rw [h.table.key_eq e.1 e.2 hr, hr, Option.some.injEq] at hr'
    rw [← hr']
    exact hcond.2

theorem Tidied.clearForApplet (h : Tidied W s₀ s) (appId : Bytes) : Tidied W s₀ ((clearForApplet W appId).exe s).2 := by
  simp only [DalHost.clearForApplet, exe_bind, exe_get, exe_ite, exe_pure]
  split_ifs
  · exact h.clearDeadAndAbandoned.clearAppletSharedSession appId
  · exact h.clearDeadAndAbandoned

theorem hasLiveSessions_eq_false {t : SessionTable} {appId : Bytes} :
    hasLiveSessions t appId = false ↔ ∀ id r, ¬SessionOf t appId id r := by
  rw [hasLiveSessions, List.any_eq_false]
  constructor
  · rintro h id r ⟨hr, happ⟩
    exact h (id, r) (OrdMap.mem_entries_iff.2 hr) (by simpa using happ)
  · intro h e he happ
    exact h e.1 e.2 ⟨OrdMap.mem_entries_iff.1 he, by simpa using happ⟩

theorem getJHISessionHandles_isEmpty {t : SessionTable} {appId : Bytes} :
    (getJHISessionHandles t appId).isEmpty = true ↔ ∀ id r, ¬SessionOf t appId id r := by
  rw [← hasLiveSessions_eq_false, getJHISessionHandles, hasLiveSessions, List.isEmpty_iff, List.map_eq_nil_iff,
    List.filter_eq_nil_iff, List.any_eq_false]

theorem Tidied.died (h : Tidied W s₀ s) {appId : Bytes} (hidle : hasLiveSessions s.sessionList appId = false)
    {id : SessionId} {r : SessionRecord} (hr : SessionOf s₀.sessionList appId id r) : ∀ p ∈ r.ownersList, Died W s₀.env p := by
  intro p hp
  rcases h.owners id r hr.1 p hp with hdied | ⟨r', hr', -⟩
  · exact hdied
  · obtain ⟨r₀, hr₀, happ⟩ := h.old id r' hr'
    cases hr.1.symm.trans hr₀
    exact absurd ⟨hr', hr.2.trans happ.symm⟩ (hasLiveSessions_eq_false.1 hidle id r')

theorem Tidied.idle (h : Tidied W s₀ s) {appId : Bytes} (hidle : ∀ id r, ¬SessionOf s₀.sessionList appId id r) :
    hasLiveSessions s.sessionList appId = false := by
  refine hasLiveSessions_eq_false.2 fun id r hr => ?_
  obtain ⟨r₀, hr₀, happ⟩ := h.old id r hr.1
  exact hidle id r₀ ⟨hr₀, hr.2.trans happ⟩

/-! ### One attempt -/

theorem jhisUnload_cases (h : Tidied W s₀ s) {appId : Bytes} (happ : getAppletState s₀.appletTable appId = .installed) :
    ((jhisUnload W appId none).exe s).1 ≠ jhiSuccess ∧ Tidied W s₀ ((jhisUnload W appId none).exe s).2 ∧
        (∃ t, Tidied W s₀ t ∧ (hasLiveSessions t.sessionList appId = true ∨ t.pluginRegistered = false ∨
          ((W.pluginUnloadApplet appId).exe t.env).1 ≠ jhiSuccess)) ∨
      ((jhisUnload W appId none).exe s).1 = jhiSuccess ∧
        ∃ t, Tidied W s₀ t ∧ UnloadReported W t appId ((jhisUnload W appId none).exe s).2 := by
  have hclear := h.clearForApplet appId
  have hstate : ¬(getAppletState s.appletTable appId = .notInstalled ∧ s.vmType ≠ .beihaiV2) := by
    rw [h.applets, happ]
    simp
  simp only [jhisUnload, exe_bind, exe_get, exe_ite, if_neg hstate]
  generalize ((clearForApplet W appId).exe s).2 = t at hclear ⊢
  by_cases hlive : hasLiveSessions t.sessionList appId = true
  · rw [if_pos hlive]
    exact .inl ⟨(by decide : jhiUninstallFailureSessionsExists ≠ jhiSuccess), hclear, t, hclear, .inl hlive⟩
  · rw [if_neg hlive]
    by_cases hreg : (!t.pluginRegistered) = true
    · rw [if_pos hreg]
      exact .inl ⟨(by decide : jhiNoConnectionToFirmware ≠ jhiSuccess), hclear, t, hclear,
        .inr (.inl (by simpa using hreg))⟩
    · rw [if_neg hreg]
      have hasked := hclear.asked.unloadApplet appId
      simp only [unloadFromVm, unloadApplet, exe_bind, exe_record, exe_onEnv, exe_ite, exe_pure]
      by_cases hret : ((W.pluginUnloadApplet appId).exe t.env).1 = jhiSuccess
      · -- the applet has a record, and it goes
        have hpres : t.appletTable.contains appId = true := by
          rw [OrdMap.contains_iff, hclear.applets]
          exact find?_of_installed happ
        simp only [if_pos hret, removeAppletRecord, exe_bind, exe_get, exe_modifyApplets, exe_pure, hpres, Bool.not_true,
          Bool.false_and, Bool.false_eq_true, if_false]
        refine .inr ⟨hret, t, hclear, by simpa using hlive, ?_, rfl, rfl, rfl⟩
        rw [← hret]
      · simp only [if_neg hret]
        exact .inl ⟨hret, { hclear with asked := hasked }, t, hclear, .inr (.inr hret)⟩

/-! ### The two rounds -/

theorem round_none {as : List Bytes} (h : (as.find? fun a => (getJHISessionHandles s.sessionList a).isEmpty) = none) :
    (unloadAppletWithNoSessions W as).exe s = (false, s) := by
  induction as with
  | nil => rfl
  | cons a as ih =>
    rw [List.find?_cons] at h
    split at h
    · cases h
    next hbusy =>
      simp only [unloadAppletWithNoSessions, exe_bind, exe_get, hbusy, Bool.false_eq_true, if_false]
      exact ih h

theorem round_some {as : List Bytes} {a : Bytes}
    (h : (as.find? fun a => (getJHISessionHandles s.sessionList a).isEmpty) = some a) :
    (unloadAppletWithNoSessions W as).exe s =
      (decide (((jhisUnload W a none).exe s).1 = jhiSuccess), ((jhisUnload W a none).exe s).2) := by
  induction as with
  | nil => cases h
  | cons b as ih =>
    rw [List.find?_cons] at h
    split at h
    next hidle =>
      cases h
      simp only [unloadAppletWithNoSessions, exe_bind, exe_get, hidle, if_true, exe_pure]
    next hbusy =>
      simp only [unloadAppletWithNoSessions, exe_bind, exe_get, hbusy, Bool.false_eq_true, if_false]
      exact ih h

theorem round_cases (h : Tidied W s₀ s) :
    ((unloadAppletWithNoSessions W (getLoadedAppletsList s₀.appletTable)).exe s).1 = false ∧
        Tidied W s₀ ((unloadAppletWithNoSessions W (getLoadedAppletsList s₀.appletTable)).exe s).2 ∨
      ((unloadAppletWithNoSessions W (getLoadedAppletsList s₀.appletTable)).exe s).1 = true ∧
        ∃ a t, getAppletState s₀.appletTable a = .installed ∧ (∀ id r, ¬SessionOf s.sessionList a id r) ∧ Tidied W s₀ t ∧
          UnloadReported W t a ((unloadAppletWithNoSessions W (getLoadedAppletsList s₀.appletTable)).exe s).2 := by
  cases hfind : (getLoadedAppletsList s₀.appletTable).find? fun a => (getJHISessionHandles s.sessionList a).isEmpty with
  | none =>
    rw [round_none hfind]
    exact .inl ⟨rfl, h⟩
  | some a =>
    have happ := mem_getLoadedAppletsList.1 (List.mem_of_find?_eq_some hfind)
    have hempty := List.find?_some hfind
    have hidle := getJHISessionHandles_isEmpty.1 hempty
    rw [round_some hfind]
    rcases jhisUnload_cases h happ with ⟨hfail, htidied, -⟩ | ⟨hok, t, htidied, hreport⟩
    · exact .inl ⟨decide_eq_false hfail, htidied⟩
    · exact .inr ⟨decide_eq_true hok, a, t, happ, hidle, htidied, hreport⟩

theorem evict_cases (h : TableInv s.sessionList) :
    (tryRemoveUnusedSharedSession W false).exe s = (false, s) ∧ (∀ id, ¬Eligible s.sessionList false id) ∨
      ∃ id, Eligible s.sessionList false id ∧ (tryRemoveUnusedSharedSession W false).exe s = (closeInternally W id).exe s := by
  simp only [tryRemoveUnusedSharedSession, exe_bind, exe_get]
  cases hlist : unusedSharedSessions s.sessionList false with
  | nil =>
    refine .inl ⟨rfl, fun id hid => ?_⟩
    have hel := hid
    obtain ⟨r, hr, -⟩ := hel
    have hmem : (id, r.lastUsedTime) ∈ unusedSharedSessions s.sessionList false := by
      refine (mem_unusedSharedSessions h).2 ⟨hid, fun r' hr' => ?_⟩
      cases hr.symm.trans hr'
      rfl
    rw [hlist] at hmem
    cases hmem
  | cons c cs =>
    obtain ⟨d, hd, heq, -⟩ := leastRecentlyUsed_spec c cs
    rw [← hlist] at hd
    refine .inr ⟨d.1, ((mem_unusedSharedSessions h).1 hd).1, ?_⟩
    rw [← heq]

theorem Tidied.evict (h : Tidied W s₀ s) : Tidied W s₀ ((tryRemoveUnusedSharedSession W false).exe s).2 := by
  rcases evict_cases (W := W) h.table with ⟨heq, -⟩ | ⟨id, hel, heq⟩
  · rw [heq]
    exact h
  · rw [heq]
    refine (h.close fun r hr => ?_).1
    obtain ⟨r', hr', -, hnobody, -⟩ := hel
    cases hr.symm.trans hr'
    exact hnobody

/-- How the call ends: a failure leaves every record, a success is a report of the firmware. -/
theorem tryUnloadUnusedApplet_cases (h : TableInv s.sessionList) :
    ((tryUnloadUnusedApplet W).exe s).1 = false ∧ ((tryUnloadUnusedApplet W).exe s).2.appletTable = s.appletTable ∨
      ((tryUnloadUnusedApplet W).exe s).1 = true ∧ ∃ a t, getAppletState s.appletTable a = .installed ∧ Tidied W s t ∧
        UnloadReported W t a ((tryUnloadUnusedApplet W).exe s).2 := by
  simp only [tryUnloadUnusedApplet, exe_bind, exe_get, exe_ite]
  rcases round_cases (Tidied.refl h) with ⟨hfail, htidied⟩ | ⟨hok, a, t, happ, -, htidied, hreport⟩
  · rw [hfail, if_neg Bool.false_ne_true]
    have hevict := htidied.evict
    by_cases hclosed : ((tryRemoveUnusedSharedSession W false).exe
        ((unloadAppletWithNoSessions W (getLoadedAppletsList s.appletTable)).exe s).2).1 = true
    · rw [if_pos hclosed]
      rcases round_cases hevict with ⟨hfail', htidied'⟩ | ⟨hok, a, t, happ, -, htidied', hreport⟩
      · exact .inl ⟨hfail', htidied'.applets⟩
      · exact .inr ⟨hok, a, t, happ, htidied', hreport⟩
    · rw [if_neg hclosed]
      exact .inl ⟨rfl, hevict.applets⟩
  · rw [hok, if_pos rfl]
    exact .inr ⟨rfl, a, t, happ, htidied, hreport⟩

theorem Removes.unique {s' : Service φ} {a b : Bytes} (ha : Removes W s s' a) (hb : Removes W s s' b) : a = b := by
  obtain ⟨happ, herase, -⟩ := ha
  obtain ⟨-, herase', -⟩ := hb
  obtain ⟨r, hr⟩ := find?_of_installed happ
  have hgone : (s.appletTable.erase b).find? a = none := by
    rw [← herase', herase, OrdMap.find?_erase, if_pos rfl]
  rw [OrdMap.find?_erase] at hgone
  split_ifs at hgone with hab
  · exact hab
  · rw [hr] at hgone
    cases hgone

theorem Removes.ne {s' : Service φ} {a : Bytes} (h : Removes W s s' a) : s'.appletTable ≠ s.appletTable := by
  obtain ⟨happ, herase, -⟩ := h
  obtain ⟨r, hr⟩ := find?_of_installed happ
  intro hsame
  rw [← hsame, herase, OrdMap.find?_erase, if_pos rfl] at hr
  cases hr

theorem removes_of_report {s' t : Service φ} {a : Bytes} (happ : getAppletState s.appletTable a = .installed)
    (h : Tidied W s t) (hreport : UnloadReported W t a s') : Removes W s s' a :=
  ⟨happ, by rw [hreport.applets, h.applets], t, hreport⟩

theorem tryUnloadUnusedApplet_true_iff (h : TableInv s.sessionList) :
    ((tryUnloadUnusedApplet W).exe s).1 = true ↔ ∃ a, Removes W s ((tryUnloadUnusedApplet W).exe s).2 a := by
  rcases tryUnloadUnusedApplet_cases (W := W) h with ⟨hfail, hkept⟩ | ⟨hok, a, t, happ, htidied, hreport⟩
  · rw [hfail]
    exact ⟨fun h => absurd h Bool.false_ne_true, fun ⟨a, ha⟩ => absurd hkept ha.ne⟩
  · exact ⟨fun _ => ⟨a, removes_of_report happ htidied hreport⟩, fun _ => hok⟩

theorem tryUnload_firstIdle {b : Bytes} (hb : firstIdle s = some b) (hok : ((jhisUnload W b none).exe s).1 = jhiSuccess) :
    (tryUnloadUnusedApplet W).exe s = (true, ((jhisUnload W b none).exe s).2) := by
  simp only [tryUnloadUnusedApplet, exe_bind, exe_get, round_some (W := W) hb, decide_eq_true hok, if_true, exe_pure]

theorem tryUnload_evict (hb : firstIdle s = none) :
    (tryUnloadUnusedApplet W).exe s = if ((tryRemoveUnusedSharedSession W false).exe s).1 = true then
      (unloadAppletWithNoSessions W (getLoadedAppletsList s.appletTable)).exe ((tryRemoveUnusedSharedSession W false).exe s).2
      else (false, ((tryRemoveUnusedSharedSession W false).exe s).2) := by
  simp only [tryUnloadUnusedApplet, exe_bind, exe_get, exe_ite, round_none (W := W) hb, Bool.false_eq_true, if_false, exe_pure]

theorem exists_session_of_firstIdle (hb : firstIdle s = none) {a : Bytes}
    (happ : getAppletState s.appletTable a = .installed) : ∃ id r, SessionOf s.sessionList a id r := by
  have hbusy := List.find?_eq_none.1 hb a (mem_getLoadedAppletsList.2 happ)
  rw [getJHISessionHandles_isEmpty] at hbusy
  push Not at hbusy
  exact hbusy

/-- With every installed applet in use, the one that goes had the session that was evicted and no other. -/
theorem unused_of_evict (h : TableInv s.sessionList) (hb : firstIdle s = none) {a : Bytes}
    (ha : Removes W s ((tryUnloadUnusedApplet W).exe s).2 a) : UnusedApplet s.sessionList a := by
  intro k r hr
  rw [tryUnload_evict hb] at ha
  rcases evict_cases (W := W) h with ⟨heq, -⟩ | ⟨id, ⟨r', hr', hshared, hnobody, -⟩, heq⟩
  · rw [heq, if_neg Bool.false_ne_true] at ha
    exact absurd rfl ha.ne
  · have hevict := (Tidied.refl (W := W) h).evict
    rw [heq] at hevict ha
    rcases closeInternally_cases (W := W) h id with hclose | ⟨r₁, log, hr₁, -, hclose⟩
    · rw [hclose, if_neg Bool.false_ne_true] at ha
      exact absurd rfl ha.ne
    · cases hr'.symm.trans hr₁
      rw [hclose] at hevict ha
      by_cases hret : ((W.pluginCloseSession r'.vmSessionHandle).exe s.env).1 = jhiSuccess
      · rw [if_pos (decide_eq_true hret)] at ha
        rcases round_cases hevict with ⟨-, htidied⟩ | ⟨-, b, t, happ, hidle, htidied, hreport⟩
        · exact absurd htidied.applets ha.ne
        · obtain rfl := ha.unique (removes_of_report happ htidied hreport)
          -- the applet has no sessions any more, so this one was closed
          by_cases hk : k = id
          · subst hk
            cases hr.1.symm.trans hr'
            exact ⟨hshared, hnobody⟩
          · refine absurd ⟨?_, hr.2⟩ (hidle k r)
            show (if closedInVm ((W.pluginCloseSession r'.vmSessionHandle).exe s.env).1 = true then s.sessionList.erase id
              else s.sessionList).find? k = some r
            split_ifs
            · rw [OrdMap.find?_erase, if_neg hk, hr.1]
            · exact hr.1
      · rw [if_neg (by simpa using hret)] at ha
        exact absurd rfl ha.ne

theorem jhisUnload_frees (hW : AlwaysFrees W) (h : TableInv s.sessionList) (hreg : s.pluginRegistered = true) {a : Bytes}
    (happ : getAppletState s.appletTable a = .installed) (hidle : ∀ id r, ¬SessionOf s.sessionList a id r) :
    ((jhisUnload W a none).exe s).1 = jhiSuccess := by
  rcases jhisUnload_cases (W := W) (Tidied.refl h) happ with ⟨-, -, t, ht, hcause⟩ | ⟨hok, -⟩
  · rcases hcause with hlive | hno | hfail
    · rw [ht.idle hidle] at hlive
      cases hlive
    · rw [ht.registered, hreg] at hno
      cases hno
    · exact absurd (hW.unload a t.env) hfail
  · exact hok

theorem firstIdle_frees (hW : AlwaysFrees W) (h : TableInv s.sessionList) (hreg : s.pluginRegistered = true) {b : Bytes}
    (hb : firstIdle s = some b) : ((jhisUnload W b none).exe s).1 = jhiSuccess := by
  have hempty := List.find?_some hb
  have happ := mem_getLoadedAppletsList.1 (List.mem_of_find?_eq_some hb)
  exact jhisUnload_frees hW h hreg happ (getJHISessionHandles_isEmpty.1 hempty)

theorem round_frees (hW : AlwaysFrees W) (h : TableInv s.sessionList) (hreg : s.pluginRegistered = true) {a : Bytes}
    (happ : getAppletState s.appletTable a = .installed) (hidle : ∀ id r, ¬SessionOf s.sessionList a id r) :
    ((unloadAppletWithNoSessions W (getLoadedAppletsList s.appletTable)).exe s).1 = true := by
  cases hb : firstIdle s with
  | none =>
    obtain ⟨id, r, hr⟩ := exists_session_of_firstIdle hb happ
    exact absurd hr (hidle id r)
  | some b =>
    rw [round_some (W := W) hb]
    exact decide_eq_true (firstIdle_frees hW h hreg hb)

theorem tryUnloadUnusedApplet_finds (hs : RoomInv s) (hW : AlwaysFrees W) (hreg : s.pluginRegistered = true) {a : Bytes}
    (happ : getAppletState s.appletTable a = .installed) (hunused : UnusedApplet s.sessionList a) :
    ((tryUnloadUnusedApplet W).exe s).1 = true := by
  cases hb : firstIdle s with
  | some b =>
    rw [tryUnload_firstIdle hb (firstIdle_frees hW hs.table hreg hb)]
  | none =>
    -- the session of `a` may be evicted, so some session is
    obtain ⟨id, r, hr, happr⟩ := exists_session_of_firstIdle hb happ
    have hel : Eligible s.sessionList false id := by
      obtain ⟨hshared, hnobody⟩ := hunused id r ⟨hr, happr⟩
      exact ⟨r, hr, hshared, hnobody, .inr fun id' r' hr' happ' => (hunused id' r' ⟨hr', happr.trans happ'.symm⟩).1⟩
    rw [tryUnload_evict hb]
    rcases evict_cases (W := W) hs.table with ⟨-, hnone⟩ | ⟨id', ⟨r', hr', hshared', -, hallow⟩, heq⟩
    · exact absurd hel (hnone id)
    · obtain ⟨log, hclose⟩ := exe_closeInternally (W := W) hr' (hs.table.active id' r' hr') hreg (Prod.eta _).symm
      have hclosed : closedInVm jhiSuccess = true := by decide
      rw [hW.close] at hclose
      simp only [hclosed, if_true, decide_true] at hclose
      rw [heq, hclose, if_pos rfl]
      -- its applet has no other session, and its record is `INSTALLED`
      have hupper : toUpperCase r'.appId = r'.appId :=
        AppId.toUpperCase_text ⟨r'.appId, hs.table.appId_valid id' r' hr'⟩
      have hidle : ∀ k q, ¬SessionOf (s.sessionList.erase id') r'.appId k q := by
        rintro k q ⟨hq, happq⟩
        rw [OrdMap.find?_erase] at hq
        split_ifs at hq with hk
        rw [hupper] at happq
        have hsharedq : q.shared = true := by
          rcases hallow with hallow | hallow
          · cases hallow
          · exact hallow k q hq happq.symm
        exact hk (hs.table.shared_unique k id' q r' hq hr' happq.symm hsharedq hshared')
      exact round_frees (W := W) (s := { s with
        env := ((W.pluginCloseSession r'.vmSessionHandle).exe s.env).2
        log := log
        sessionList := s.sessionList.erase id' }) hW (hs.table.erase id') hreg (hs.installed id' r' hr') hidle

/-- **Making room.** Whatever the firmware answers: a success is one applet that the firmware reported
unloaded and whose record went, and all owners of its sessions had died; unless the first attempt
failed, it had no session, or only a shared one without owners. With a firmware that does as it is told, an
unused applet is enough. -/
theorem makes_room (W : World φ) (s : Service φ) (hs : RoomInv s) : MakesRoom W s where
  true_iff := tryUnloadUnusedApplet_true_iff hs.table
  kept hfail := by
    rcases tryUnloadUnusedApplet_cases (W := W) hs.table with ⟨-, hkept⟩ | ⟨hok, -⟩
    · exact hkept
    · rw [hfail] at hok
      cases hok
  died a ha id r hr := by
    rcases tryUnloadUnusedApplet_cases (W := W) hs.table with ⟨-, hkept⟩ | ⟨-, b, t, happ, htidied, hreport⟩
    · exact absurd hkept ha.ne
    · obtain rfl := ha.unique (removes_of_report happ htidied hreport)
      exact htidied.died hreport.idle hr
  unused hfirst a ha := by
    cases hb : firstIdle s with
    | none => exact unused_of_evict hs.table hb ha
    | some b =>
      have hempty := List.find?_some hb
      have happ := mem_getLoadedAppletsList.1 (List.mem_of_find?_eq_some hb)
      rw [tryUnload_firstIdle hb (hfirst b hb)] at ha
      rcases jhisUnload_cases (W := W) (Tidied.refl hs.table) happ with ⟨hfail, -⟩ | ⟨-, t, htidied, hreport⟩
      · exact absurd (hfirst b hb) hfail
      · obtain rfl := ha.unique (removes_of_report happ htidied hreport)
        exact fun id r hr => absurd hr (getJHISessionHandles_isEmpty.1 hempty id r)
  finds hW hreg := fun ⟨_, happ, hunused⟩ => tryUnloadUnusedApplet_finds hs hW hreg happ hunused

end Tidied

/-! ### The invariant in the course of a command -/

/-! ### An applet with a private session goes -/

theorem isUpperHexDigit_abc : isUpperHexDigit 65 = true ∧ isUpperHexDigit 66 = true ∧ isUpperHexDigit 67 = true := by
  decide

def appletA : AppId := .replicate 65 isUpperHexDigit_abc.1
def appletB : AppId := .replicate 66 isUpperHexDigit_abc.2.1
def appletC : AppId := .replicate 67 isUpperHexDigit_abc.2.2

/-- Three applets: the first has a private session whose owner is dead, the second a shared session without
owners, the third no session. -/
def threeApplets : Service Unit where
  sessionList := (OrdMap.empty.insert (SessionId.replicate 0) (newRecord appletA.text 1 (.replicate 0) 0 ⟨7, 0, 0⟩)).insert
    (SessionId.replicate 1) (sharedRecord appletB (.replicate 1) 1 [])
  sharedSessionLRUCounter := 2
  appletTable := ((OrdMap.empty.insert appletA.text ⟨.installed, false, false⟩).insert
    appletB.text ⟨.installed, true, true⟩).insert appletC.text ⟨.installed, false, false⟩
  vmType := .beihaiV1
  pluginRegistered := true
  appletsFolder := []
  env := ()
  log := []

/-- A firmware that does not unload the third applet; the owner has died. -/
def stubbornWorld : World Unit :=
  { World.quiet Unit with
    processIsDead := fun _ => pure true
    pluginUnloadApplet := fun a => pure (if a = appletC.text then jhiInternalError else jhiSuccess) }

theorem find?_threeApplets {id : SessionId} {r : SessionRecord} (h : threeApplets.sessionList.find? id = some r) :
    id = .replicate 0 ∧ r = newRecord appletA.text 1 (.replicate 0) 0 ⟨7, 0, 0⟩ ∨
      id = .replicate 1 ∧ r = sharedRecord appletB (.replicate 1) 1 [] := by
  have hentries : threeApplets.sessionList.entries =
      [(.replicate 0, newRecord appletA.text 1 (.replicate 0) 0 ⟨7, 0, 0⟩),
        (.replicate 1, sharedRecord appletB (.replicate 1) 1 [])] := by
    with_unfolding_all rfl
  rw [← OrdMap.mem_entries_iff, hentries] at h
  simpa using h

theorem roomInv_threeApplets : RoomInv threeApplets := by
  refine ⟨⟨?_, ?_, ?_, ?_, ?_, ?_⟩, ?_⟩
  · intro id r hr
    rcases find?_threeApplets hr with ⟨rfl, rfl⟩ | ⟨rfl, rfl⟩ <;> rfl
  · intro id r hr
    have hvalid : ∀ a : AppId, IsAppId (toUpperCase a.text) := fun a => a.toUpperCase_text.symm ▸ a.valid
    rcases find?_threeApplets hr with ⟨-, rfl⟩ | ⟨-, rfl⟩ <;> exact hvalid _
  · intro id r hr
    rcases find?_threeApplets hr with ⟨-, rfl⟩ | ⟨-, rfl⟩ <;> rfl
  · intro id id' r r' hr hr' _ hshared hshared'
    rcases find?_threeApplets hr with ⟨-, rfl⟩ | ⟨rfl, -⟩
    · cases hshared
    · rcases find?_threeApplets hr' with ⟨-, rfl⟩ | ⟨rfl, -⟩
      · cases hshared'
      · rfl
  · intro id r hr _
    rcases find?_threeApplets hr with ⟨-, rfl⟩ | ⟨-, rfl⟩ <;> decide
  · intro id r hr _
    rcases find?_threeApplets hr with ⟨-, rfl⟩ | ⟨-, rfl⟩ <;> decide
  · intro id r hr
    rcases find?_threeApplets hr with ⟨-, rfl⟩ | ⟨-, rfl⟩ <;> decide +kernel

/-- The third applet cannot be unloaded, and the clean-up of that attempt closes the session of the first
one: it is the first one that goes. -/
theorem privateSession_unloaded : RoomInv threeApplets ∧ ¬MakesRoomOfUnused stubbornWorld threeApplets := by
  refine ⟨roomInv_threeApplets, fun h => ?_⟩
  have hok : ((tryUnloadUnusedApplet stubbornWorld).exe threeApplets).1 = true := by decide +kernel
  have hgone : ((tryUnloadUnusedApplet stubbornWorld).exe threeApplets).2.appletTable.find? appletA.text =
      none := by decide +kernel
  have hthere : threeApplets.appletTable.find? appletA.text = some ⟨.installed, false, false⟩ := by
    decide +kernel
  obtain ⟨a, ha⟩ := h.true_iff.1 hok
  rw [ha.2.1, OrdMap.find?_erase] at hgone
  split_ifs at hgone with happ
  · have hr : threeApplets.sessionList.find? (.replicate 0) =
        some (newRecord appletA.text 1 (.replicate 0) 0 ⟨7, 0, 0⟩) := by
      with_unfolding_all rfl
    have hunused := h.unused a ha (.replicate 0) _ ⟨hr, by rw [← happ]; rfl⟩
    exact absurd hunused.1 (by decide)
  · rw [hthere] at hgone
    cases hgone

/-- The theorem at that state. -/
theorem threeApplets_makes_room : MakesRoom stubbornWorld threeApplets :=
  makes_room stubbornWorld threeApplets roomInv_threeApplets

end DalHost

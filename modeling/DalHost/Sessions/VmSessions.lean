import DalHost.Plugin.Beihai
import DalHost.Sessions.TableInvariant
import Mathlib.Data.Set.Insert
import Mathlib.Order.BooleanAlgebra.Set

/-!
# The sessions open in the VM

The table lists a handle for every session the VM has open for a client, and nothing else: this
holds after every command as long as no id exchange and no undone create leaves a session behind.
An id exchange that fails without killing the session makes `JHI_Plugin_CreateSession` return
`JHI_INTERNAL_ERROR` with the session open; nobody has its handle any more, and no path closes it.
-/

namespace DalHost

variable {ψ : Type}

/-! ### What is assumed of the firmware -/

/-- The effect of an answer on the open sessions: a code in `gone` means that `h` is closed. -/
def afterAnswer (gone : Bool) (h : VmHandle) (before : Set VmHandle) : Set VmHandle :=
  if gone then before \ {h} else before

/-- The firmware as the service relies on it. `openSessions` are the VM sessions open for clients. -/
structure FirmwareSpec (F : Firmware ψ) (v : PluginVersion) (R : World ψ) (openSessions : ψ → Set VmHandle) :
    Prop where
  /-- An open that succeeds opens one new session. -/
  open_success : ∀ appId blob init e, ((F.openTASession appId blob init).exe e).1.1 = bhSuccess →
    ((F.openTASession appId blob init).exe e).1.2 ∉ openSessions e ∧
    openSessions ((F.openTASession appId blob init).exe e).2 =
      insert ((F.openTASession appId blob init).exe e).1.2 (openSessions e)
  open_failure : ∀ appId blob init e, ((F.openTASession appId blob init).exe e).1.1 ≠ bhSuccess →
    openSessions ((F.openTASession appId blob init).exe e).2 = openSessions e
  close : ∀ h e, openSessions ((F.closeTASession h).exe e).2 =
    afterAnswer (closedInVm (v.toJhiError ((F.closeTASession h).exe e).1)) h (openSessions e)
  forceClose : ∀ h e, openSessions ((F.forceCloseTASession h).exe e).2 =
    afterAnswer (closedInVm (v.toJhiError ((F.forceCloseTASession h).exe e).1)) h (openSessions e)
  exchange : ∀ h cmd tx n e, openSessions ((F.sendAndRecv h cmd tx n).exe e).2 =
    afterAnswer (sessionDied (v.toJhiError ((F.sendAndRecv h cmd tx n).exe e).1.1)) h (openSessions e)
  idExchange : ∀ h id e, openSessions ((F.sendAndRecvInternal h id).exe e).2 =
    afterAnswer (sessionDied (v.toJhiError ((F.sendAndRecvInternal h id).exe e).1.1)) h (openSessions e)
  /-- Nothing else opens or closes a session. -/
  neutral : ∀ e e', Neutral R e e' → openSessions e' = openSessions e

/-! ### The plugin's create -/

section Create

variable (F : Firmware ψ) (v : PluginVersion) (R : World ψ)

/-- Both plugins create a session in the same way, up to their translation of codes. -/
def createVia (appId : Bytes) (blob : Option Bytes) (id : SessionId) (init : Bytes) :
    StateM (VmEnv ψ) (JhiRet × VmHandle) := do
  let opened ← onFw (F.openTASession appId blob init)
  if opened.1 = bhSuccess then
    let a ← sendSessionIDtoApplet F v opened.2 id
    if v.toJhiError a.1 ≠ jhiSuccess ∨ a.2 ≠ 0 then return (jhiInternalError, opened.2)
    else return (v.toJhiError opened.1, opened.2)
  else return (v.toJhiError opened.1, opened.2)

theorem pluginCreateSession_eq (appId : Bytes) (blob : Option Bytes) (id : SessionId) (init : Bytes) :
    ∃ blob', (beihaiWorld F v R).pluginCreateSession appId blob id init = createVia F v appId blob' id init := by
  cases v with
  | v1 => exact ⟨none, rfl⟩
  | v2 =>
    refine ⟨blob, bind_congr fun opened => if_congr Iff.rfl (bind_congr fun a => ?_) rfl⟩
    exact if_congr (or_congr (not_congr beihaiToJhiError_eq_success.symm) Iff.rfl) rfl rfl

/-- An id exchange that leaves no session behind: the applet took the id, or the session died. -/
def IdExchange.ok (x : IdExchange) : Prop :=
  (x.retCode = jhiSuccess ∧ x.appletResponse = 0) ∨ sessionDied x.retCode = true

variable {F v R} {openSessions : ψ → Set VmHandle} (hF : FirmwareSpec F v R openSessions)
include hF

theorem createVia_cases (appId : Bytes) (blob : Option Bytes) (id : SessionId) (init : Bytes) (e : VmEnv ψ)
    {r : JhiRet × VmHandle} {e' : VmEnv ψ} (hexe : (createVia F v appId blob id init).exe e = (r, e')) :
    (r.1 ≠ jhiSuccess ∧ openSessions e'.fw = openSessions e.fw ∧ e'.exchanges = e.exchanges) ∨
    ∃ x, e'.exchanges = e.exchanges ++ [x] ∧ x.handle = r.2 ∧ r.2 ∉ openSessions e.fw ∧
      ((r.1 = jhiSuccess ∧ x.ok ∧ openSessions e'.fw = insert r.2 (openSessions e.fw)) ∨
        (r.1 ≠ jhiSuccess ∧ (x.ok → openSessions e'.fw = openSessions e.fw))) := by
  simp only [createVia, exe_bind, exe_onFw, exe_ite, sendSessionIDtoApplet, exe_modify, exe_pure] at hexe
  by_cases hopen : ((F.openTASession appId blob init).exe e.fw).1.1 = bhSuccess
  · obtain ⟨hfresh, hins⟩ := hF.open_success appId blob init e.fw hopen
    rw [if_pos hopen] at hexe
    generalize (F.openTASession appId blob init).exe e.fw = opened at hopen hfresh hins hexe
    obtain ⟨⟨bh, h⟩, fw₁⟩ := opened
    simp only at hopen hfresh hins hexe
    have hx := hF.idExchange h id fw₁
    generalize (F.sendAndRecvInternal h id).exe fw₁ = answer at hx hexe
    obtain ⟨⟨bh₂, resp⟩, fw₂⟩ := answer
    simp only at hx hexe
    right
    split_ifs at hexe with hbad <;> obtain ⟨rfl, rfl⟩ := hexe
    · have herr : jhiInternalError ≠ jhiSuccess := by decide
      refine ⟨⟨h, v.toJhiError bh₂, resp⟩, rfl, rfl, hfresh, Or.inr ⟨herr, ?_⟩⟩
      -- the exchange failed, so if it is one of the good ones the session died
      rintro (⟨hsucc, hresp⟩ | hdied)
      · rcases hbad with hbad | hbad
        · exact absurd hsucc hbad
        · exact absurd hresp hbad
      · simp only at hdied ⊢
        rw [hx, hdied, hins]
        exact Set.insert_sdiff_self_of_notMem hfresh
    · have hsucc : v.toJhiError bh₂ = jhiSuccess := by tauto
      have hzero : resp = 0 := by tauto
      refine ⟨⟨h, v.toJhiError bh₂, resp⟩, rfl, rfl, hfresh, Or.inl ⟨?_, Or.inl ⟨hsucc, hzero⟩, ?_⟩⟩
      · exact PluginVersion.toJhiError_eq_success.2 hopen
      · simp only
        rw [hx, hsucc, hins]
        rfl
  · rw [if_neg hopen] at hexe
    obtain ⟨rfl, rfl⟩ := hexe
    refine Or.inl ⟨fun h => hopen (PluginVersion.toJhiError_eq_success.1 h), ?_, rfl⟩
    exact hF.open_failure appId blob init e.fw hopen

end Create

/-! ### The invariant -/

/-- The handles that the table lists. -/
def vmHandles (t : SessionTable) : Set VmHandle := {h | ∃ id r, t.find? id = some r ∧ r.vmSessionHandle = h}

/-- No id exchange failed with the session alive, and every session opened under an id that was
taken could be closed again. -/
structure NoLeak (s : Service (VmEnv ψ)) : Prop where
  exchanges : ∀ x ∈ s.env.exchanges, x.ok
  undone : ∀ entry ∈ s.log, ∀ h ret, entry.call = .undoCreate h ret → closedInVm ret = true

/-- The table lists the open sessions, each under one id. -/
structure VmInv (openSessions : ψ → Set VmHandle) (s : Service (VmEnv ψ)) : Prop where
  open_eq : openSessions s.env.fw = vmHandles s.sessionList
  handle_inj : ∀ id id' r r', s.sessionList.find? id = some r → s.sessionList.find? id' = some r' →
    r.vmSessionHandle = r'.vmSessionHandle → id = id'

section Table

variable {openSessions : ψ → Set VmHandle} {s t : Service (VmEnv ψ)}

theorem VmInv.same (h : VmInv openSessions s) (hopen : openSessions t.env.fw = openSessions s.env.fw)
    (hrec : ∀ id, (t.sessionList.find? id).map SessionRecord.vmSessionHandle =
      (s.sessionList.find? id).map SessionRecord.vmSessionHandle) : VmInv openSessions t := by
  have hback : ∀ id r, t.sessionList.find? id = some r →
      ∃ r', s.sessionList.find? id = some r' ∧ r'.vmSessionHandle = r.vmSessionHandle := by
    intro id r hr
    have hid := hrec id
    rw [hr, Option.map_some, eq_comm, Option.map_eq_some_iff] at hid
    exact hid
  have hforth : ∀ id r, s.sessionList.find? id = some r →
      ∃ r', t.sessionList.find? id = some r' ∧ r'.vmSessionHandle = r.vmSessionHandle := by
    intro id r hr
    have hid := hrec id
    rw [hr, Option.map_some, Option.map_eq_some_iff] at hid
    exact hid
  refine ⟨?_, ?_⟩
  · rw [hopen, h.open_eq]
    ext x
    constructor
    · rintro ⟨id, r, hr, rfl⟩
      obtain ⟨r', hr', heq⟩ := hforth id r hr
      exact ⟨id, r', hr', heq⟩
    · rintro ⟨id, r, hr, rfl⟩
      obtain ⟨r', hr', heq⟩ := hback id r hr
      exact ⟨id, r', hr', heq⟩
  · intro i j ri rj hi hj heq
    obtain ⟨ri', hri, hhi⟩ := hback i ri hi
    obtain ⟨rj', hrj, hhj⟩ := hback j rj hj
    exact h.handle_inj i j ri' rj' hri hrj (hhi.trans (heq.trans hhj.symm))

theorem VmInv.erased (h : VmInv openSessions s) {id : SessionId} {r : SessionRecord}
    (hr : s.sessionList.find? id = some r) (ht : t.sessionList = s.sessionList.erase id)
    (hopen : openSessions t.env.fw = openSessions s.env.fw \ {r.vmSessionHandle}) : VmInv openSessions t := by
  have hfind : ∀ i r', t.sessionList.find? i = some r' ↔ i ≠ id ∧ s.sessionList.find? i = some r' := by
    intro i r'
    rw [ht, OrdMap.find?_erase]
    split_ifs with hi <;> simp [hi]
  refine ⟨?_, ?_⟩
  · rw [hopen, h.open_eq]
    ext x
    simp only [vmHandles, Set.mem_sdiff, Set.mem_ofPred_eq, Set.mem_singleton_iff, hfind]
    constructor
    · rintro ⟨⟨i, r', hr', rfl⟩, hne⟩
      refine ⟨i, r', ⟨?_, hr'⟩, rfl⟩
      rintro rfl
      rw [hr] at hr'
      cases hr'
      exact hne rfl
    · rintro ⟨i, r', ⟨hi, hr'⟩, rfl⟩
      exact ⟨⟨i, r', hr', rfl⟩, fun heq => hi (h.handle_inj i id r' r hr' hr heq)⟩
  · intro i j ri rj hi hj
    exact h.handle_inj i j ri rj ((hfind i ri).1 hi).2 ((hfind j rj).1 hj).2

theorem VmInv.inserted (h : VmInv openSessions s) {id : SessionId} {r : SessionRecord}
    (hnew : s.sessionList.find? id = none) (ht : t.sessionList = s.sessionList.insert id r)
    (hfresh : r.vmSessionHandle ∉ openSessions s.env.fw)
    (hopen : openSessions t.env.fw = insert r.vmSessionHandle (openSessions s.env.fw)) : VmInv openSessions t := by
  have hfind : ∀ i r', t.sessionList.find? i = some r' ↔
      (i = id ∧ r' = r) ∨ (i ≠ id ∧ s.sessionList.find? i = some r') := by
    intro i r'
    rw [ht, OrdMap.find?_insert, hnew]
    split_ifs with hi <;> simp [hi, eq_comm]
  have hother : ∀ i r', s.sessionList.find? i = some r' → r'.vmSessionHandle ≠ r.vmSessionHandle := by
    intro i r' hr' heq
    exact hfresh (h.open_eq ▸ ⟨i, r', hr', heq⟩)
  refine ⟨?_, ?_⟩
  · rw [hopen, h.open_eq]
    ext x
    simp only [vmHandles, Set.mem_insert_iff, Set.mem_ofPred_eq, hfind]
    constructor
    · rintro (rfl | ⟨i, r', hr', rfl⟩)
      · exact ⟨id, r, Or.inl ⟨rfl, rfl⟩, rfl⟩
      · refine ⟨i, r', Or.inr ⟨?_, hr'⟩, rfl⟩
        rintro rfl
        rw [hnew] at hr'
        cases hr'
    · rintro ⟨i, r', ⟨rfl, rfl⟩ | ⟨-, hr'⟩, rfl⟩
      · exact Or.inl rfl
      · exact Or.inr ⟨i, r', hr', rfl⟩
  · intro i j ri rj hi hj heq
    rcases (hfind i ri).1 hi with ⟨rfl, rfl⟩ | ⟨-, hri⟩ <;> rcases (hfind j rj).1 hj with ⟨rfl, rfl⟩ | ⟨-, hrj⟩
    · rfl
    · exact absurd heq.symm (hother j rj hrj)
    · exact absurd heq (hother i ri hri)
    · exact h.handle_inj i j ri rj hri hrj heq

end Table

/-! ### Steps -/

section Steps

variable {F : Firmware ψ} {v : PluginVersion} {R : World ψ} {openSessions : ψ → Set VmHandle}

theorem Neutral.ofBeihai {e e' : VmEnv ψ} (h : Neutral (beihaiWorld F v R) e e') :
    Neutral R e.fw e'.fw ∧ e'.exchanges = e.exchanges := by
  cases h <;> exact ⟨by constructor <;> trivial, rfl⟩

theorem exe_pluginClose_beihai (force : Bool) (h : VmHandle) (e : VmEnv ψ) :
    (pluginClose (beihaiWorld F v R) force h).exe e =
      (v.toJhiError ((if force then F.forceCloseTASession h else F.closeTASession h).exe e.fw).1,
        { e with fw := ((if force then F.forceCloseTASession h else F.closeTASession h).exe e.fw).2 }) := by
  cases force <;> rfl

variable (hF : FirmwareSpec F v R openSessions)
include hF

theorem openSessions_pluginClose (force : Bool) (h : VmHandle) (e : VmEnv ψ) :
    openSessions ((pluginClose (beihaiWorld F v R) force h).exe e).2.fw =
      afterAnswer (closedInVm ((pluginClose (beihaiWorld F v R) force h).exe e).1) h (openSessions e.fw) := by
  rw [exe_pluginClose_beihai]
  cases force
  · exact hF.close h e.fw
  · exact hF.forceClose h e.fw

theorem openSessions_exchange (h : VmHandle) (cmd : UInt32) (tx : Bytes) (n : UInt32) (e : VmEnv ψ) :
    openSessions (((beihaiWorld F v R).pluginSendAndRecv h cmd tx n).exe e).2.fw =
      afterAnswer (sessionDied (((beihaiWorld F v R).pluginSendAndRecv h cmd tx n).exe e).1.retCode) h
        (openSessions e.fw) :=
  hF.exchange h cmd tx n e.fw

/-- The invariant, as long as nothing leaked. -/
theorem closed_vmInv_clean : Closed (CleanStep (beihaiWorld F v R)) fun s => NoLeak s → VmInv openSessions s := by
  intro s t hst h hleak
  cases hst with
  | env hneutral =>
    obtain ⟨hneutral, hex⟩ := hneutral.ofBeihai
    have hs := h ⟨fun x hx => hleak.exchanges x (hex ▸ hx), hleak.undone⟩
    exact hs.same (hF.neutral _ _ hneutral) fun _ => rfl
  | applets => exact (h ⟨hleak.exchanges, hleak.undone⟩).same rfl fun _ => rfl
  | unload appId =>
    exact (h ⟨hleak.exchanges, fun x hx => hleak.undone x (List.mem_append_left _ hx)⟩).same rfl fun _ => rfl
  | uninstallPackage appId =>
    exact (h ⟨hleak.exchanges, fun x hx => hleak.undone x (List.mem_append_left _ hx)⟩).same rfl fun _ => rfl
  | @deadOwners id r hr owners hsub hdead stamp counter =>
    refine (h ⟨hleak.exchanges, hleak.undone⟩).same rfl fun i => ?_
    simp only [OrdMap.find?_modify]
    split_ifs with hi
    · subst hi
      simp [hr]
    · rfl
  | events id eh q =>
    refine (h ⟨hleak.exchanges, hleak.undone⟩).same rfl fun i => ?_
    simp only [OrdMap.find?_modify]
    split_ifs with hi
    · subst hi
      simp [Function.comp_def]
    · rfl
  | closed hr force hret =>
    refine (h ⟨?_, fun x hx => hleak.undone x (List.mem_append_left _ hx)⟩).erased hr rfl ?_
    · simpa only [exe_pluginClose_beihai] using hleak.exchanges
    · simp only [openSessions_pluginClose hF, hret, afterAnswer, if_true]
  | closeFailed hr force hret =>
    refine (h ⟨?_, hleak.undone⟩).same ?_ fun _ => rfl
    · simpa only [exe_pluginClose_beihai] using hleak.exchanges
    · simp only [openSessions_pluginClose hF, hret, afterAnswer, Bool.false_eq_true, if_false]

theorem pluginCreateSession_cases (appId : Bytes) (blob : Option Bytes) (id : SessionId) (init : Bytes)
    (e : VmEnv ψ) {r : JhiRet × VmHandle} {e' : VmEnv ψ}
    (hexe : ((beihaiWorld F v R).pluginCreateSession appId blob id init).exe e = (r, e')) :
    (∀ x ∈ e.exchanges, x ∈ e'.exchanges) ∧
    (r.1 ≠ jhiSuccess → (∀ x ∈ e'.exchanges, x.ok) → openSessions e'.fw = openSessions e.fw) ∧
    (r.1 = jhiSuccess → r.2 ∉ openSessions e.fw ∧ openSessions e'.fw = insert r.2 (openSessions e.fw)) := by
  obtain ⟨blob', hcreate⟩ := pluginCreateSession_eq F v R appId blob id init
  rw [hcreate] at hexe
  rcases createVia_cases hF appId blob' id init e hexe with ⟨hne, hopen, hex⟩ | ⟨x, hex, -, hfresh, hres⟩
  · exact ⟨fun x hx => hex ▸ hx, fun _ _ => hopen, fun h => absurd h hne⟩
  · refine ⟨fun y hy => hex ▸ List.mem_append_left _ hy, fun hne hok => ?_, fun hsucc => ⟨hfresh, ?_⟩⟩
    · rcases hres with ⟨hsucc, -⟩ | ⟨-, hres⟩
      · exact absurd hsucc hne
      · exact hres (hok x (hex ▸ List.mem_append_right _ (List.mem_singleton_self x)))
    · rcases hres with ⟨-, -, hins⟩ | ⟨hne, -⟩
      · exact hins
      · exact absurd hsucc hne

theorem closed_vmInv_quiet : Closed (QuietStep (beihaiWorld F v R)) fun s => NoLeak s → VmInv openSessions s := by
  intro s t hst h hleak
  cases hst with
  | clean hst => exact closed_vmInv_clean hF s t hst h hleak
  | exchange hr cmd tx n hret =>
    refine (h ⟨hleak.exchanges, hleak.undone⟩).same ?_ fun _ => rfl
    simp only [openSessions_exchange hF, hret, afterAnswer, Bool.false_eq_true, if_false]
  | crashed hr cmd tx n hret =>
    refine (h ⟨hleak.exchanges, fun x hx => hleak.undone x (List.mem_append_left _ hx)⟩).erased hr rfl ?_
    simp only [openSessions_exchange hF, hret, afterAnswer, if_true]
  | @dropOwner id r hr p hp stamp counter =>
    refine (h ⟨hleak.exchanges, hleak.undone⟩).same rfl fun i => ?_
    simp only [OrdMap.find?_modify]
    split_ifs with hi
    · subst hi
      simp [hr]
    · rfl
  | @addOwner id r hr hshared hlt p =>
    refine (h ⟨hleak.exchanges, fun x hx => hleak.undone x (List.mem_append_left _ hx)⟩).same rfl fun i => ?_
    simp only [OrdMap.find?_modify]
    split_ifs with hi
    · subst hi
      simp [Function.comp_def]
    · rfl
  | ownersFull =>
    exact (h ⟨hleak.exchanges, fun x hx => hleak.undone x (List.mem_append_left _ hx)⟩).same rfl fun _ => rfl
  | openFailed appId blob id init hret =>
    obtain ⟨hmono, hfail, -⟩ := pluginCreateSession_cases hF appId blob id init s.env rfl
    have hs := h ⟨fun x hx => hleak.exchanges x (hmono x hx), hleak.undone⟩
    exact hs.same (hfail hret hleak.exchanges) fun _ => rfl
  | @undone appId blob id init hret e he handle hh =>
    have hexe : ((beihaiWorld F v R).pluginCreateSession appId blob id init).exe s.env = ((jhiSuccess, handle), e) :=
      Prod.ext (Prod.ext hret hh.symm) he.symm
    obtain ⟨hmono, -, hsucc⟩ := pluginCreateSession_cases hF appId blob id init s.env hexe
    obtain ⟨hfresh, hins⟩ := hsucc rfl
    have hs := h ⟨fun x hx => hleak.exchanges x (hmono x hx),
      fun x hx => hleak.undone x (List.mem_append_left _ hx)⟩
    refine hs.same ?_ fun _ => rfl
    -- the close that undoes the create succeeded, or something leaked
    have hclosed := hleak.undone _ (List.mem_append_right _ (List.mem_singleton_self _)) _ _ rfl
    have hclose := openSessions_pluginClose hF false handle e
    simp only [pluginClose, Bool.false_eq_true, if_false] at hclose
    rw [hclose, hclosed, hins]
    exact Set.insert_sdiff_self_of_notMem hfresh

theorem closed_vmInv : Closed (Step (beihaiWorld F v R)) fun s => NoLeak s → VmInv openSessions s := by
  intro s t hst h hleak
  cases hst with
  | quiet hst => exact closed_vmInv_quiet hF s t hst h hleak
  | opened appId blob init flags p hret hnew hshared =>
    obtain ⟨hmono, -, hsucc⟩ := pluginCreateSession_cases hF appId.text blob _ init s.env rfl
    obtain ⟨hfresh, hins⟩ := hsucc hret
    exact (h ⟨fun x hx => hleak.exchanges x (hmono x hx), hleak.undone⟩).inserted hnew rfl hfresh hins

end Steps

/-! ### Runs -/

/-- The service once a plugin is up: no sessions yet, no id exchanges yet. -/
def startedService (v : PluginVersion) (folder : FileString) (applets : AppletTable) (fw : ψ) : Service (VmEnv ψ) where
  sessionList := OrdMap.empty
  sharedSessionLRUCounter := 0
  appletTable := applets
  vmType := v.vmType
  pluginRegistered := true
  appletsFolder := folder
  env := ⟨fw, []⟩
  log := []

theorem vmInv_runCalls {F : Firmware ψ} {v : PluginVersion} {R : World ψ} {openSessions : ψ → Set VmHandle}
    (hF : FirmwareSpec F v R openSessions) (folder : FileString) (applets : AppletTable) {fw : ψ}
    (hstart : openSessions fw = ∅) (calls : List Call) :
    NoLeak (runCalls (beihaiWorld F v R) calls (startedService v folder applets fw)) →
      VmInv openSessions (runCalls (beihaiWorld F v R) calls (startedService v folder applets fw)) := by
  have hrun : ∀ s : Service (VmEnv ψ), (NoLeak s → VmInv openSessions s) →
      NoLeak (runCalls (beihaiWorld F v R) calls s) → VmInv openSessions (runCalls (beihaiWorld F v R) calls s) := by
    induction calls with
    | nil => exact fun s h => h
    | cons c calls ih =>
      intro s h
      exact ih _ ((keeps_exec (closed_vmInv hF) c).bind (fun _ => Keeps.pure _) s h)
  refine hrun _ fun _ => ⟨?_, ?_⟩
  · refine hstart.trans (Set.eq_empty_iff_forall_notMem.2 ?_).symm
    rintro h ⟨id, r, hr, -⟩
    cases hr
  · intro id id' r r' hr
    cases hr

/-- **No leaked or dangling VM session.** After every run in which no id exchange failed with the
session alive and every undone create could be closed, the VM has open exactly the sessions that the
table lists. A create that fails from there, under the same condition, opened nothing: the sessions
left are those of the records that its clean-up left. -/
theorem openSessions_eq_vmHandles {F : Firmware ψ} {v : PluginVersion} {R : World ψ}
    {openSessions : ψ → Set VmHandle} (hF : FirmwareSpec F v R openSessions) (folder : FileString)
    (applets : AppletTable) {fw : ψ} (hstart : openSessions fw = ∅) (calls : List Call) {s : Service (VmEnv ψ)}
    (hs : s = runCalls (beihaiWorld F v R) calls (startedService v folder applets fw)) (hleak : NoLeak s) :
    openSessions s.env.fw = vmHandles s.sessionList ∧
    ∀ (appId : AppId) (flags : UInt32) (init : Bytes) (p : ProcessInfo) (ret : JhiRet × Option SessionId)
      (s' : Service (VmEnv ψ)), (jhisCreateSession (beihaiWorld F v R) appId.text flags init p).exe s = (ret, s') →
      ret.1 ≠ jhiSuccess → NoLeak s' →
      openSessions s'.env.fw = vmHandles s'.sessionList ∧ RecordsFrom s.sessionList s'.sessionList ∧
      openSessions s'.env.fw ⊆ openSessions s.env.fw := by
  subst hs
  have hinv := vmInv_runCalls hF folder applets hstart calls
  generalize runCalls (beihaiWorld F v R) calls (startedService v folder applets fw) = s at hleak hinv ⊢
  refine ⟨(hinv hleak).open_eq, ?_⟩
  intro appId flags init p ret s' hexe hne hleak'
  have hI : Closed (QuietStep (beihaiWorld F v R)) fun u =>
      (NoLeak u → VmInv openSessions u) ∧ RecordsFrom s.sessionList u.sessionList :=
    Closed.and (closed_vmInv_quiet hF) (closed_recordsFrom _ s.sessionList)
  have hself : RecordsFrom s.sessionList s.sessionList := fun id r hr => ⟨r, hr, rfl⟩
  have hcreated := jhisCreateSession_created hI appId flags init p ⟨hinv, hself⟩
  rw [hexe] at hcreated
  rcases hcreated with ⟨hvm, hfrom⟩ | ⟨_, _, _, _, _, hres, _⟩
  · have hopen := (hvm hleak').open_eq
    refine ⟨hopen, hfrom, ?_⟩
    rw [hopen, (hinv hleak).open_eq]
    rintro h ⟨id, r', hr', rfl⟩
    obtain ⟨r, hr, heq⟩ := hfrom id r' hr'
    exact ⟨id, r, hr, heq⟩
  · exact absurd (congrArg Prod.fst hres) hne

/-! ### A firmware with room for one session -/

/-- A firmware that holds one session at a time, under the handle 1. Its applets answer `response`
when they are sent their session id. -/
def oneSessionFirmware (response : UInt32) : Firmware Bool where
  openTASession _ _ _ := fun busy => if busy then ((0x317, 0), busy) else ((bhSuccess, 1), true)
  sendAndRecvInternal _ _ := fun busy => ((bhSuccess, response), busy)
  closeTASession h := fun busy => (bhSuccess, busy && h ≠ 1)
  forceCloseTASession h := fun busy => (bhSuccess, busy && h ≠ 1)
  sendAndRecv _ _ _ _ := fun busy => ((bhSuccess, 0, 0, none), busy)

def oneSessionOpen (busy : Bool) : Set VmHandle := {h | busy = true ∧ h = 1}

theorem oneSessionFirmware_spec (response : UInt32) (v : PluginVersion) :
    FirmwareSpec (oneSessionFirmware response) v (World.quiet Bool) oneSessionOpen where
  open_success appId blob init busy h := by
    cases busy with
    | true => exact absurd (show (0x317 : BhRet) = bhSuccess from h) (by decide)
    | false =>
      refine ⟨fun h => absurd h.1 (by decide), Set.ext fun x => ?_⟩
      simp [oneSessionOpen, oneSessionFirmware, StateM.exe]
  open_failure appId blob init busy h := by
    cases busy with
    | true => rfl
    | false => exact absurd rfl h
  close h busy := by
    have hcode : closedInVm (v.toJhiError bhSuccess) = true := by cases v <;> decide
    ext x
    simp only [oneSessionFirmware, StateM.exe, hcode, afterAnswer, oneSessionOpen, if_true]
    grind
  forceClose h busy := by
    have hcode : closedInVm (v.toJhiError bhSuccess) = true := by cases v <;> decide
    ext x
    simp only [oneSessionFirmware, StateM.exe, hcode, afterAnswer, oneSessionOpen, if_true]
    grind
  exchange h cmd tx n busy := by
    have hcode : sessionDied (v.toJhiError bhSuccess) = false := by cases v <;> decide
    simp [oneSessionFirmware, StateM.exe, hcode, afterAnswer]
  idExchange h id busy := by
    have hcode : sessionDied (v.toJhiError bhSuccess) = false := by cases v <;> decide
    simp [oneSessionFirmware, StateM.exe, hcode, afterAnswer]
  neutral e e' h := by
    cases h <;> rfl

/-- The create of an applet whose file is in the repository. -/
def exampleCreate : Call := .createSession exampleApplet 0 [] ⟨1, 0, 0⟩

/-- The state after that create, with the Beihai v2 plugin. -/
def afterExampleCreate (response : UInt32) : Service (VmEnv Bool) :=
  runCalls (beihaiWorld (oneSessionFirmware response) .v2 (World.quiet Bool)) [exampleCreate]
    (startedService .v2 [] OrdMap.empty false)

theorem noLeak_afterExampleCreate : NoLeak (afterExampleCreate 0) := by
  refine ⟨fun x hx => ?_, fun entry hentry => ?_⟩
  · have hex : (afterExampleCreate 0).env.exchanges = [⟨1, jhiSuccess, 0⟩] := by decide +kernel
    rw [hex, List.mem_singleton] at hx
    subst hx
    exact Or.inl ⟨rfl, rfl⟩
  · have hlog : (afterExampleCreate 0).log.isEmpty = true := by decide +kernel
    rw [List.isEmpty_iff.1 hlog] at hentry
    cases hentry

theorem openSessions_eq_vmHandles_afterExampleCreate :
    oneSessionOpen (afterExampleCreate 0).env.fw = vmHandles (afterExampleCreate 0).sessionList :=
  (openSessions_eq_vmHandles (oneSessionFirmware_spec 0 .v2) [] OrdMap.empty
    (Set.eq_empty_iff_forall_notMem.2 fun _ h => absurd h.1 (by decide)) [exampleCreate] rfl
    noLeak_afterExampleCreate).1

/-- An applet that answers its id with 1: the create fails, and the session it opened stays. -/
theorem create_leaks_session :
    FirmwareSpec (oneSessionFirmware 1) .v2 (World.quiet Bool) oneSessionOpen ∧
    ((jhisCreateSession (beihaiWorld (oneSessionFirmware 1) .v2 (World.quiet Bool)) exampleApplet.text 0 []
      ⟨1, 0, 0⟩).exe (startedService .v2 [] OrdMap.empty false)).1 = (jhiInternalError, none) ∧
    (1 : VmHandle) ∈ oneSessionOpen (afterExampleCreate 1).env.fw ∧
    vmHandles (afterExampleCreate 1).sessionList = ∅ ∧
    oneSessionOpen (afterExampleCreate 1).env.fw ≠ vmHandles (afterExampleCreate 1).sessionList := by
  have hopen : (1 : VmHandle) ∈ oneSessionOpen (afterExampleCreate 1).env.fw :=
    ⟨by decide +kernel, rfl⟩
  have hempty : vmHandles (afterExampleCreate 1).sessionList = ∅ := by
    have htable : (afterExampleCreate 1).sessionList.entries = [] := by decide +kernel
    refine Set.eq_empty_iff_forall_notMem.2 ?_
    rintro h ⟨id, r, hr, -⟩
    have hmem := OrdMap.mem_entries_iff.2 hr
    rw [htable] at hmem
    cases hmem
  refine ⟨oneSessionFirmware_spec 1 .v2, ?_, hopen, hempty, ?_⟩
  · decide +kernel
  · rw [hempty]
    exact Set.Nonempty.ne_empty ⟨1, hopen⟩

end DalHost

import DalHost.Service.LifeGuards
import Mathlib.Data.Fintype.Basic

/-!
# The event manager and the state of the service

When the spooler crashes, its listener thread starts the event manager again, after a test of the state and without a
lock. A reset or an initialisation that comes in between leaves `initialized` set in a service that is stopped; from
then on `jhis_init` fails, since `EventManager::Initialize` answers an initialised event manager with `true`.

Without such a crossing the event manager follows the state: it is initialised exactly when the service is, and one
listener thread serves its spooler session.
-/

namespace DalHost

namespace LifePoint

/-- A listener thread in its loop; its last point is the test behind a crash. -/
def live : LifePoint → Bool
  | listener .pluginTable | listener .loop | listener (.wait _) | listener .event | listener .test => true
  | _ => false

/-- A listener thread that starts the event manager again. -/
def recovering : LifePoint → Bool
  | listener .forget | listener (.deinit _) | listener (.start _) => true
  | _ => false

def resetting : LifePoint → Bool
  | reset _ => true
  | _ => false

/-- An initialisation, a reset or a recovery is in progress. -/
def busy : LifePoint → Bool
  | init .. | reset _ | listener .test | listener .forget | listener (.deinit _) | listener (.start _) => true
  | _ => false

/-- `CreateListenerThread` in `jhis_init`. -/
def createsListener : LifePoint → Bool
  | init _ (.events .thread) => true
  | _ => false

end LifePoint

section Property

variable {τ : Type}

/-- One listener thread is there, and it serves the current spooler session; it may not have begun to run. -/
def ServedOnce (s : LifeState τ) : Prop :=
  ∃ handle, s.mem.spoolerHandle = some handle ∧
    ((s.mem.newListeners = 1 ∧ ∀ t, (s.point t).live = false) ∨
      (s.mem.newListeners = 0 ∧ ∃ t, (s.point t).live = true ∧ (∀ h, s.point t = .listener (.wait h) → h = some handle) ∧
        ∀ u, (s.point u).live = true → u = t))

/-- No initialisation, reset or recovery is in progress. -/
def AtRest (s : LifeState τ) : Prop := ∀ t, (s.point t).busy = false

/-- Every call of the step succeeds, on either VM. -/
def goodAnswers (beihaiV2 : Bool) : LifeAnswers where
  call := .command true true
  succeeds := true
  beihaiV2 := beihaiV2
  goesOn := false
  sessionList := .empty
  appletTable := .empty
  wait := .event

variable [DecidableEq τ]

structure EventsFollow (s : LifeState τ) : Prop where
  follows : AtRest s → s.mem.jhiState ≠ .stopping → (s.mem.initialized = true ↔ s.mem.jhiState = .initialized)
  served : AtRest s → s.mem.jhiState = .initialized → ServedOnce s
  /-- `EventManager::Initialize` in `jhis_init` goes on to a fresh start. -/
  fresh : ∀ t sync, s.point t = .init sync (.events .test) → s.mem.initialized = false
  /-- It returns `JHI_SUCCESS` exactly when it has created a session, and then a listener. -/
  creates : ∀ x (p : SpoolerPoint),
    ((p.next x s.mem).1 = .inl .thread ↔ (p.next x s.mem).2.spoolerSessions = s.mem.spoolerSessions + 1) ∧
    ((p.next x s.mem).1 = .inl (.set true) ↔ (p.next x s.mem).2.newListeners = s.mem.newListeners + 1) ∧
    ((p.next x s.mem).1 = .inr true ↔ p = .set true)
  /-- A stopped service can be initialised again by any thread. -/
  restarts : s.mem.jhiState = .stopped → s.writer = none → s.readers = [] → ∀ t, s.point t = .idle →
    ∀ beihaiV2, ∃ n,
      (afterCalls lifeStep (List.replicate n (t, goodAnswers beihaiV2)) s).mem.jhiState = .initialized

/-- The step crosses a recovery: the writer lock is granted during one, one begins under the writer lock, or `jhis_init`
creates a listener while another is in its loop. -/
def CrossesRecovery (c : τ × LifeAnswers) (s : LifeState τ) : Prop :=
  ((s.point c.1).op = .takeWriter ∧ s.writer = none ∧ s.readers = [] ∧ ∃ u, (s.point u).recovering = true) ∨
  (s.point c.1 = .listener .test ∧ s.mem.jhiState = .initialized ∧ s.writer ≠ none) ∨
  ((s.point c.1).createsListener = true ∧ c.2.succeeds = true ∧ (0 < s.mem.newListeners ∨ ∃ u, (s.point u).live = true))

instance [Fintype τ] (c : τ × LifeAnswers) (s : LifeState τ) : Decidable (CrossesRecovery c s) := by
  unfold CrossesRecovery
  infer_instance

end Property

/-! ### Who serves -/

namespace LifePoint

/-- A listener thread that serves a session, or works on the next one. -/
def attends : LifePoint → Bool
  | listener (.start (.set _)) => false
  | p => p.live || p.recovering

/-- The holder of the writer lock has not begun to change the service, or is done with it. -/
def calm : LifePoint → Bool
  | init _ .test => true
  | init .. => false
  | reset .test | reset .signal | reset .release => true
  | reset _ => false
  | _ => true

/-- Because of this thread the service is served, or will be reset. -/
def Carries (m : LifeGlobals) : LifePoint → Prop
  | reset _ => True
  | listener (.wait h) => h = m.spoolerHandle ∧ m.spoolerHandle ≠ none
  | listener (.start (.set true)) => False
  | listener .forget | listener (.deinit _) | listener (.start _) => True
  | listener _ => m.spoolerHandle ≠ none
  | _ => False

end LifePoint

/-! ### What a step does to the event manager -/

/-- `CreateSpoolerSession` is next. -/
def SpoolerPoint.opens : SpoolerPoint → Bool
  | firstSession | session => true
  | _ => false

/-- A step of `EventManager::Initialize`. -/
inductive SpoolerStep (x : LifeAnswers) (m : LifeGlobals) : SpoolerPoint → SpoolerPoint ⊕ Bool → LifeGlobals → Prop
  | refused (h : m.initialized = true) : SpoolerStep x m .test (.inr false) m
  | ended (b : Bool) : SpoolerStep x m (.set b) (.inr b) { m with initialized := b }
  | created (h : x.succeeds = true) : SpoolerStep x m .thread (.inl (.set true)) { m with newListeners := m.newListeners + 1 }
  | goesOn {p q : SpoolerPoint} {m' : LifeGlobals} (hp : ∀ b, p ≠ .set b) (hq : q ≠ .set true) (hne : q ≠ .test)
      (hinit : m'.initialized = m.initialized) (hnew : m'.newListeners = m.newListeners)
      (hhandle : m'.spoolerHandle = m.spoolerHandle ∨ p.opens = true ∧ m'.spoolerHandle ≠ none)
      (hthread : q = .thread → m'.spoolerHandle ≠ none) : SpoolerStep x m p (.inl q) m'

namespace LifePoint

def writesState : LifePoint → Option JhiState
  | init _ .setInitialized => some .initialized
  | reset .setStopped => some .stopped
  | stopSet | invokeSet => some .stopping
  | _ => none

def writesInitialized : LifePoint → Option Bool
  | init _ (.events (.set b)) | listener (.start (.set b)) => some b
  | reset (.deinit .clear) | invokeDeinit .clear | listener (.deinit .clear) => some false
  | _ => none

/-- A step of `EventManager::Initialize`, under the writer lock or in a recovery. -/
def spooler : LifePoint → Option SpoolerPoint
  | init _ (.events p) | listener (.start p) => some p
  | _ => none

end LifePoint

section Effects

variable {x : LifeAnswers} {m : LifeGlobals}

theorem spoolerStep_next (p : SpoolerPoint) : SpoolerStep x m p (p.next x m).1 (p.next x m).2 := by
  cases p with
  | test =>
    simp only [SpoolerPoint.next]
    split_ifs with h
    · exact .refused h
    · exact .goesOn (by simp) (by simp) (by simp) rfl rfl (.inl rfl) (by simp)
  | file =>
    simp only [SpoolerPoint.next]
    split_ifs <;> exact .goesOn (by simp) (by simp) (by simp) rfl rfl (.inl rfl) (by simp)
  | firstSession | session =>
    simp only [SpoolerPoint.next, createSpoolerSession]
    split_ifs
    · exact .goesOn (by simp) (by simp) (by simp) rfl rfl (.inr ⟨rfl, by simp⟩) (by simp)
    · exact .goesOn (by simp) (by simp) (by simp) rfl rfl (.inl rfl) (by simp)
  | install =>
    simp only [SpoolerPoint.next]
    split_ifs <;> exact .goesOn (by simp) (by simp) (by simp) rfl rfl (.inl rfl) (by simp)
  | thread =>
    simp only [SpoolerPoint.next]
    split_ifs with h
    · exact .created h
    · exact .goesOn (by simp) (by simp) (by simp) rfl rfl (.inl rfl) (by simp)
  | set b => exact .ended b

theorem next_init_mem (sync : Bool) (p : InitPoint) : (LifePoint.next x (.init sync p) m).2 = (p.next x m).2 := by
  simp only [LifePoint.next]
  split
  all_goals
    rename_i heq
    rw [heq]

theorem next_events_mem (p : SpoolerPoint) : (InitPoint.next x m (.events p)).2 = (p.next x m).2 := by
  simp only [InitPoint.next]
  split
  all_goals
    rename_i heq
    rw [heq]

theorem next_start_mem (p : SpoolerPoint) : (LifePoint.next x (.listener (.start p)) m).2 = (p.next x m).2 := by
  simp only [LifePoint.next, JomListenerPoint.next]
  split
  all_goals
    rename_i heq
    rw [heq]

theorem next_reset_mem (p : ResetPoint) : (LifePoint.next x (.reset p) m).2 = (p.next m).2 := by
  simp only [LifePoint.next]
  split
  all_goals
    rename_i heq
    rw [heq]

theorem next_spooler_mem {p : LifePoint} {q : SpoolerPoint} (h : p.spooler = some q) : (p.next x m).2 = (q.next x m).2 := by
  cases p with
  | init sync p =>
    cases p with
    | events p =>
      cases h
      rw [next_init_mem, next_events_mem]
    | _ => cases h
  | listener p =>
    cases p with
    | start p =>
      cases h
      exact next_start_mem q
    | _ => cases h
  | _ => cases h

/-- What a step does to the state and to the event manager. -/
structure EventEffect (x : LifeAnswers) (m : LifeGlobals) (p q : LifePoint) (m' : LifeGlobals) : Prop where
  state : m'.jhiState = p.writesState.getD m.jhiState
  initialized : m'.initialized = p.writesInitialized.getD m.initialized
  handle : m'.spoolerHandle = m.spoolerHandle ∨ p = .listener .forget ∨
    (∃ q, p.spooler = some q ∧ q.opens = true) ∧ m'.spoolerHandle ≠ none
  listeners : m'.newListeners = m.newListeners ∨
    p = .idle ∧ q = .listener .pluginTable ∧ 0 < m.newListeners ∧ m'.newListeners = m.newListeners - 1 ∨
    p.spooler = some .thread ∧ x.succeeds = true ∧ m'.newListeners = m.newListeners + 1

theorem eventEffect_spooler {p : LifePoint} {q : SpoolerPoint} (h : p.spooler = some q) (hstate : p.writesState = none)
    (hwrites : ∀ b, p.writesInitialized = some b ↔ q = .set b) : EventEffect x m p (p.next x m).1 (p.next x m).2 := by
  have hstep := @spoolerStep_next x m q
  have hjhi := (@spoolerPoint_next_spec x m q).1
  rw [next_spooler_mem h]
  generalize q.next x m = r at hstep hjhi ⊢
  obtain ⟨result, m'⟩ := r
  have hnone : (∀ b, q ≠ .set b) → p.writesInitialized = none := by
    intro hq
    cases hw : p.writesInitialized with
    | none => rfl
    | some b => exact absurd ((hwrites b).1 hw) (hq b)
  refine ⟨by rw [hstate]; exact hjhi, ?_, ?_, ?_⟩
  · cases hstep with
    | refused | created => rw [hnone (by simp)]; rfl
    | ended b => rw [(hwrites b).2 rfl]; rfl
    | goesOn hp _ _ hinit => rw [hnone hp]; exact hinit
  · cases hstep with
    | goesOn _ _ _ _ _ hhandle =>
      obtain hsame | ⟨hopens, hsome⟩ := hhandle
      · exact .inl hsame
      · exact .inr (.inr ⟨⟨q, h, hopens⟩, hsome⟩)
    | _ => exact .inl rfl
  · cases hstep with
    | created hsucceeds => exact .inr (.inr ⟨h, hsucceeds, rfl⟩)
    | goesOn _ _ _ _ hnew => exact .inl hnew
    | _ => exact .inl rfl

theorem eventEffect_next (p : LifePoint) : EventEffect x m p (p.next x m).1 (p.next x m).2 := by
  cases p with
  | idle =>
    simp only [LifePoint.next]
    cases x.call with
    | listener =>
      dsimp only
      split_ifs with hnew
      · exact ⟨rfl, rfl, .inl rfl, .inr (.inl ⟨rfl, rfl, hnew, rfl⟩)⟩
      · exact ⟨rfl, rfl, .inl rfl, .inl rfl⟩
    | _ => exact ⟨rfl, rfl, .inl rfl, .inl rfl⟩
  | init sync p =>
    cases p with
    | events p => exact eventEffect_spooler rfl rfl fun b => by cases p <;> simp [LifePoint.writesInitialized]
    | register | failedRegistered =>
      rw [next_init_mem]
      simp only [InitPoint.next]
      split_ifs <;> exact ⟨rfl, rfl, .inl rfl, .inl rfl⟩
    | _ =>
      rw [next_init_mem]
      exact ⟨rfl, rfl, .inl rfl, .inl rfl⟩
  | reset p =>
    rw [next_reset_mem]
    cases p with
    | deinit p => cases p <;> exact ⟨rfl, rfl, .inl rfl, .inl rfl⟩
    | _ => exact ⟨rfl, rfl, .inl rfl, .inl rfl⟩
  | invokeDeinit p => cases p <;> exact ⟨rfl, rfl, .inl rfl, .inl rfl⟩
  | invokeComplete =>
    simp only [LifePoint.next]
    split_ifs <;> exact ⟨rfl, rfl, .inl rfl, .inl rfl⟩
  | listener p =>
    cases p with
    | forget => exact ⟨rfl, rfl, .inr (.inl rfl), .inl rfl⟩
    | deinit p => cases p <;> exact ⟨rfl, rfl, .inl rfl, .inl rfl⟩
    | start p => exact eventEffect_spooler rfl rfl fun b => by cases p <;> simp [LifePoint.writesInitialized]
    | wait handle =>
      simp only [LifePoint.next, JomListenerPoint.next]
      cases x.wait <;> exact ⟨rfl, rfl, .inl rfl, .inl rfl⟩
    | _ => exact ⟨rfl, rfl, .inl rfl, .inl rfl⟩
  | _ => exact ⟨rfl, rfl, .inl rfl, .inl rfl⟩

/-! ### Where a step leads -/

theorem next_start_point (p : SpoolerPoint) : (LifePoint.next x (.listener (.start p)) m).1 =
    match (p.next x m).1 with
    | .inl q => .listener (.start q)
    | .inr true => .idle
    | .inr false => .reset .closeSessions := by
  simp only [LifePoint.next, JomListenerPoint.next]
  split
  all_goals
    rename_i heq
    rw [heq]

theorem listener_next {p : LifePoint} {q : JomListenerPoint} (h : (p.next x m).1 = .listener q) :
    (∃ r, p = .listener r) ∨ p = .idle ∧ q = .pluginTable ∧ 0 < m.newListeners ∧
      (p.next x m).2 = { m with newListeners := m.newListeners - 1 } := by
  cases p with
  | idle =>
    simp only [LifePoint.next] at h
    cases hcall : x.call with
    | command =>
      simp only [hcall] at h
      split_ifs at h
    | listener =>
      simp only [hcall] at h
      split_ifs at h with hnew
      cases h
      exact .inr ⟨rfl, rfl, hnew, by simp only [LifePoint.next, hcall, if_pos hnew]⟩
    | _ =>
      simp only [hcall] at h
      cases h
  | init sync p =>
    simp only [LifePoint.next] at h
    split at h <;> cases h
  | reset p =>
    simp only [LifePoint.next] at h
    split at h <;> cases h
  | invokeDeinit p =>
    simp only [LifePoint.next] at h
    split at h <;> cases h
  | listener r => exact .inl ⟨r, rfl⟩
  | test | testAgain | releaseWriter | ready | handler | stopTest | invokeTest | invokeComplete =>
    simp only [LifePoint.next] at h
    split_ifs at h
  | _ => cases h

theorem invoked_next {p : LifePoint} {q : DeinitPoint} (h : (p.next x m).1 = .invokeDeinit q) :
    p = .invokeSet ∨ ∃ r, p = .invokeDeinit r := by
  cases p with
  | idle =>
    simp only [LifePoint.next] at h
    cases hcall : x.call with
    | command | listener =>
      simp only [hcall] at h
      split_ifs at h
    | _ =>
      simp only [hcall] at h
      cases h
  | init sync p =>
    simp only [LifePoint.next] at h
    split at h <;> cases h
  | reset p =>
    simp only [LifePoint.next] at h
    split at h <;> cases h
  | invokeSet => exact .inl rfl
  | invokeDeinit r => exact .inr ⟨r, rfl⟩
  | listener p =>
    cases p with
    | deinit p | start p =>
      simp only [LifePoint.next, JomListenerPoint.next] at h
      split at h <;> cases h
    | wait handle =>
      simp only [LifePoint.next, JomListenerPoint.next] at h
      cases hwait : x.wait <;> simp only [hwait] at h <;> cases h
    | pluginTable | test =>
      simp only [LifePoint.next, JomListenerPoint.next] at h
      split_ifs at h
    | _ => cases h
  | test | testAgain | releaseWriter | ready | handler | stopTest | invokeTest | invokeComplete =>
    simp only [LifePoint.next] at h
    split_ifs at h
  | _ => cases h

theorem LifePoint.listener_of_recovering {p : LifePoint} (h : p.recovering = true) : ∃ q, p = .listener q := by
  cases p with
  | listener q => exact ⟨q, rfl⟩
  | _ => cases h

theorem LifePoint.listener_of_attends {p : LifePoint} (h : p.attends = true) : ∃ q, p = .listener q := by
  cases p with
  | listener q => exact ⟨q, rfl⟩
  | _ => cases h

theorem recovering_next {p : LifePoint} (h : (p.next x m).1.recovering = true) :
    p.recovering = true ∨ p = .listener .test ∧ m.jhiState = .initialized := by
  obtain ⟨q, hq⟩ := LifePoint.listener_of_recovering h
  obtain ⟨r, rfl⟩ | ⟨-, rfl, -⟩ := listener_next hq
  · cases r with
    | test =>
      simp only [LifePoint.next, JomListenerPoint.next] at h
      split_ifs at h with hstate
      · exact .inr ⟨rfl, hstate⟩
      · cases h
    | forget | deinit | start => exact .inl rfl
    | pluginTable =>
      simp only [LifePoint.next, JomListenerPoint.next] at h
      split_ifs at h <;> cases h
    | wait handle =>
      simp only [LifePoint.next, JomListenerPoint.next] at h
      cases hwait : x.wait <;> simp only [hwait] at h <;> cases h
    | loop | event => cases h
  · rw [hq] at h
    cases h

theorem attends_next {p : LifePoint} (h : (p.next x m).1.attends = true) :
    p.attends = true ∨ p = .idle ∧ 0 < m.newListeners ∧ (p.next x m).2.newListeners = m.newListeners - 1 := by
  obtain ⟨q, hq⟩ := LifePoint.listener_of_attends h
  obtain ⟨r, rfl⟩ | ⟨hidle, -, hnew, hmem⟩ := listener_next hq
  · cases r with
    | start p =>
      cases p with
      | set b =>
        rw [next_start_point] at h
        cases b <;> cases h
      | _ => exact .inl rfl
    | _ => exact .inl rfl
  · exact .inr ⟨hidle, hnew, by rw [hmem]⟩

theorem attends_next_of_thread {p : LifePoint} (h : p.spooler = some .thread) (hsucceeds : x.succeeds = true) :
    (p.next x m).1.attends = false := by
  refine Bool.eq_false_iff.2 fun hattends => ?_
  obtain ⟨q, hq⟩ := LifePoint.listener_of_attends hattends
  obtain ⟨r, rfl⟩ | ⟨rfl, -⟩ := listener_next hq
  · cases r with
    | start p =>
      cases h
      rw [next_start_point] at hattends
      simp only [SpoolerPoint.next, hsucceeds, if_true] at hattends
      cases hattends
    | _ => cases h
  · cases h

theorem resetting_next {p : LifePoint} (h : p.resetting = true) : (p.next x m).1.resetting = true ∨ p = .reset .release := by
  cases p with
  | reset p =>
    cases p with
    | release => exact .inr rfl
    | deinit p => cases p <;> exact .inl rfl
    | _ => exact .inl rfl
  | _ => cases h

/-- A recovery that ends without success is followed by a reset. -/
theorem recovered_next {p : LifePoint} (h : p.recovering = true) :
    (p.next x m).1.recovering = true ∨ (p.next x m).1.resetting = true ∨ p = .listener (.start (.set true)) := by
  cases p with
  | listener p =>
    cases p with
    | forget => exact .inl rfl
    | deinit p => cases p <;> exact .inl rfl
    | start p =>
      rw [next_start_point]
      have hstep := @spoolerStep_next x m p
      generalize p.next x m = r at hstep ⊢
      obtain ⟨result, m'⟩ := r
      cases hstep with
      | refused => exact .inr (.inl rfl)
      | ended b =>
        cases b with
        | false => exact .inr (.inl rfl)
        | true => exact .inr (.inr rfl)
      | created | goesOn => exact .inl rfl
    | _ => cases h
  | _ => cases h

/-- Who carries the service goes on to do so, or has created a listener that does. -/
theorem carries_next {p : LifePoint} (h : p.Carries m) (hp : p ≠ .reset .release) (hplugin : m.pluginRegistered = true)
    (hthread : p = .listener (.start .thread) → m.spoolerHandle ≠ none) :
    (p.next x m).1.Carries (p.next x m).2 ∨
      (p.next x m).2.newListeners ≠ 0 ∧ (p.next x m).2.spoolerHandle ≠ none := by
  cases p with
  | reset p =>
    cases p with
    | release => exact absurd rfl hp
    | deinit p => cases p <;> exact .inl trivial
    | _ => exact .inl trivial
  | listener p =>
    cases p with
    | pluginTable =>
      simp only [LifePoint.next, JomListenerPoint.next, if_pos hplugin]
      exact .inl h
    | loop => exact .inl ⟨rfl, h⟩
    | wait handle =>
      simp only [LifePoint.next, JomListenerPoint.next]
      cases x.wait with
      | event | crashed => exact .inl h.2
      | error => exact .inl trivial
    | event => exact .inl h
    | test =>
      simp only [LifePoint.next, JomListenerPoint.next]
      split_ifs <;> exact .inl trivial
    | forget => exact .inl trivial
    | deinit p => cases p <;> exact .inl trivial
    | start p =>
      rw [next_start_point, next_start_mem]
      have hstep := @spoolerStep_next x m p
      generalize p.next x m = r at hstep ⊢
      obtain ⟨result, m'⟩ := r
      cases hstep with
      | refused => exact .inl trivial
      | ended b =>
        cases b with
        | false => exact .inl trivial
        | true => exact h.elim
      | created => exact .inr ⟨Nat.succ_ne_zero _, hthread rfl⟩
      | @goesOn _ q _ _ hq =>
        refine .inl ?_
        cases q with
        | set b =>
          cases b with
          | false => trivial
          | true => exact absurd rfl hq
        | _ => trivial
  | _ => exact h.elim

end Effects

end DalHost

import DalHost.Service.LifeCycle

/-!
# The state of the service under its locks

What is true of the globals while nobody writes, and what a thread relies on at each point of its program. `jhi_stop`
writes the state without a lock, long after it tested it: no point relies on more of the state than this leaves.
-/

namespace DalHost

/-! ### What the threads rely on -/

namespace LifeGlobals

variable (m m' : LifeGlobals)

def TablesEmpty : Prop := m.sessionList = .empty ∧ m.appletTable = .empty

/-- The globals while nobody writes. -/
structure Settled : Prop where
  stopped : m.jhiState = .stopped → m.TablesEmpty ∧ m.pluginRegistered = false
  initialized : m.jhiState = .initialized → m.pluginRegistered = true

/-- The globals in `jhis_init`, behind its test. `jhi_stop` may have written a state that it tested long ago. -/
structure Starting : Prop where
  state : m.jhiState ≠ .initialized
  empty : m.TablesEmpty

/-- The globals under a handler. -/
structure Running : Prop where
  state : m.jhiState ≠ .stopped
  plugin : m.pluginRegistered = true

/-- What the steps of the others may do to a thread's globals. -/
structure Disturbed : Prop where
  state : m'.jhiState = m.jhiState ∨ m'.jhiState = .stopping
  plugin : m'.pluginRegistered = m.pluginRegistered

/-- No table gets its first entry. -/
structure Smaller : Prop where
  sessions : m.sessionList = .empty → m'.sessionList = .empty
  applets : m.appletTable = .empty → m'.appletTable = .empty

variable {m m'}

theorem Disturbed.refl (m : LifeGlobals) : m.Disturbed m := ⟨.inl rfl, rfl⟩

theorem Smaller.refl (m : LifeGlobals) : m.Smaller m := ⟨id, id⟩

theorem Smaller.tables (h : m.Smaller m') (htables : m.TablesEmpty) : m'.TablesEmpty :=
  ⟨h.sessions htables.1, h.applets htables.2⟩

theorem Settled.disturbed (h : m.Settled) (hd : m.Disturbed m') (hs : m.Smaller m') : m'.Settled := by
  refine ⟨fun hstate => ?_, fun hstate => ?_⟩
  · obtain hsame | hstopping := hd.state
    · obtain ⟨hempty, hplugin⟩ := h.stopped (hsame.symm.trans hstate)
      exact ⟨hs.tables hempty, hd.plugin.trans hplugin⟩
    · rw [hstopping] at hstate
      cases hstate
  · obtain hsame | hstopping := hd.state
    · exact hd.plugin.trans (h.initialized (hsame.symm.trans hstate))
    · rw [hstopping] at hstate
      cases hstate

theorem Starting.disturbed (h : m.Starting) (hd : m.Disturbed m') (hs : m.Smaller m') : m'.Starting := by
  refine ⟨fun hstate => ?_, hs.tables h.empty⟩
  obtain hsame | hstopping := hd.state
  · exact h.state (hsame.symm.trans hstate)
  · rw [hstopping] at hstate
    cases hstate

theorem Running.disturbed (h : m.Running) (hd : m.Disturbed m') : m'.Running := by
  refine ⟨fun hstate => ?_, hd.plugin.trans h.plugin⟩
  obtain hsame | hstopping := hd.state
  · exact h.state (hsame.symm.trans hstate)
  · rw [hstopping] at hstate
    cases hstate

end LifeGlobals

def InitPoint.Relies (m : LifeGlobals) : InitPoint → Prop
  | test => m.Settled
  | settings | vmType | deviceEvents | isRegistered | register => m.Starting ∧ m.pluginRegistered = false
  | pluginTable | setTransport | pluginInit | fwVersion | events _ | updateApplets => m.Starting ∧ m.pluginRegistered = true
  | setInitialized => m.jhiState ≠ .initialized ∧ m.pluginRegistered = true
  | failed | failedRegistered | unregister => m.Starting

def ResetPoint.Relies (m : LifeGlobals) : ResetPoint → Prop
  | closeSessions | wait | resetApplets => True
  | test | signal | release => m.Settled
  | resetSessions => m.appletTable = .empty
  | deinit _ | pluginTable | unregister => m.TablesEmpty
  | setStopped => m.TablesEmpty ∧ m.pluginRegistered = false

def LifePoint.Relies (m : LifeGlobals) : LifePoint → Prop
  | testAgain _ | releaseWriter .. => m.Settled
  | init _ p => p.Relies m
  | lock | handler _ | unlock => m.Running
  | reset p => p.Relies m
  | _ => True

section Relies

variable {x : LifeAnswers} {m m' : LifeGlobals}

open LifeGlobals

theorem smaller_of_tablesShrink (h : tablesShrink x m = true) :
    m.Smaller { m with sessionList := x.sessionList, appletTable := x.appletTable } := by
  have hnone : ∀ {κ ν : Type} [LinearOrder κ] (a b : OrdMap κ ν), (a.keys.all fun k => b.contains k) = true → b = .empty →
      a = .empty := by
    rintro κ ν _ ⟨entries, hsorted⟩ b hkeys rfl
    cases entries with
    | nil => rfl
    | cons e es => simp [OrdMap.keys, OrdMap.contains] at hkeys
  rw [tablesShrink, Bool.and_eq_true] at h
  exact ⟨hnone _ _ h.1, hnone _ _ h.2⟩

theorem spoolerPoint_next_spec (p : SpoolerPoint) :
    (p.next x m).2.jhiState = m.jhiState ∧ (p.next x m).2.pluginRegistered = m.pluginRegistered ∧ m.Smaller (p.next x m).2 := by
  cases p with
  | firstSession | session =>
    simp only [SpoolerPoint.next, createSpoolerSession]
    split_ifs
    · exact ⟨rfl, rfl, id, id⟩
    · exact ⟨rfl, rfl, id, id⟩
  | install =>
    simp only [SpoolerPoint.next]
    split_ifs with hshrink
    · exact ⟨rfl, rfl, smaller_of_tablesShrink hshrink⟩
    · exact ⟨rfl, rfl, id, id⟩
  | thread =>
    simp only [SpoolerPoint.next]
    split_ifs
    · exact ⟨rfl, rfl, id, id⟩
    · exact ⟨rfl, rfl, id, id⟩
  | _ => exact ⟨rfl, rfl, id, id⟩

theorem InitPoint.Relies.disturbed {p : InitPoint} (h : p.Relies m) (hd : m.Disturbed m') (hs : m.Smaller m') : p.Relies m' := by
  have hstate : m.jhiState ≠ .initialized → m'.jhiState ≠ .initialized := by
    intro hne heq
    obtain hsame | hstopping := hd.state
    · exact hne (hsame.symm.trans heq)
    · rw [hstopping] at heq
      cases heq
  cases p with
  | test => exact Settled.disturbed h hd hs
  | failed | failedRegistered | unregister => exact Starting.disturbed h hd hs
  | setInitialized => exact ⟨hstate h.1, hd.plugin.trans h.2⟩
  | _ => exact ⟨h.1.disturbed hd hs, hd.plugin.trans h.2⟩

theorem ResetPoint.Relies.disturbed {p : ResetPoint} (h : p.Relies m) (hd : m.Disturbed m') (hs : m.Smaller m') : p.Relies m' := by
  cases p with
  | closeSessions | wait | resetApplets => trivial
  | test | signal | release => exact Settled.disturbed h hd hs
  | resetSessions => exact hs.applets h
  | deinit _ | pluginTable | unregister => exact hs.tables h
  | setStopped => exact ⟨hs.tables h.1, hd.plugin.trans h.2⟩

theorem LifePoint.Relies.disturbed {p : LifePoint} (h : p.Relies m) (hd : m.Disturbed m') (hs : m.Smaller m') : p.Relies m' := by
  cases p with
  | testAgain _ | releaseWriter _ _ => exact Settled.disturbed h hd hs
  | init sync p => exact InitPoint.Relies.disturbed h hd hs
  | lock | handler _ | unlock => exact Running.disturbed h hd
  | reset p => exact ResetPoint.Relies.disturbed h hd hs
  | _ => trivial

theorem LifePoint.Relies.disturbed_of_not_writer {p : LifePoint} (hwriter : p.held.writer = false) (h : p.Relies m)
    (hd : m.Disturbed m') : p.Relies m' := by
  cases p with
  | testAgain _ | releaseWriter _ _ | init _ _ => cases hwriter
  | lock | handler _ | unlock => exact Running.disturbed h hd
  | reset p =>
    cases p with
    | closeSessions | wait => trivial
    | _ => cases hwriter
  | _ => trivial

theorem LifePoint.relies_of_no_lock {p : LifePoint} (hwriter : p.held.writer = false) (hreader : p.held.reader = false) :
    p.Relies m := by
  cases p with
  | testAgain _ | releaseWriter _ _ | init _ _ => cases hwriter
  | lock | handler _ | unlock => cases hreader
  | reset p =>
    cases p with
    | closeSessions | wait => trivial
    | _ => cases hwriter
  | _ => trivial

/-- What a thread that does not write may do. Only handlers fill the tables. -/
theorem LifePoint.disturbed_next {p : LifePoint} (hop : p.op = .none) (hwriter : p.held.writer = false) :
    m.Disturbed (p.next x m).2 ∧ ((∃ sync, p = handler sync) ∨ m.Smaller (p.next x m).2) := by
  cases p with
  | idle =>
    unfold LifePoint.next
    cases x.call with
    | listener =>
      dsimp only
      split_ifs
      · exact ⟨⟨.inl rfl, rfl⟩, .inr ⟨id, id⟩⟩
      · exact ⟨.refl m, .inr (.refl m)⟩
    | _ => exact ⟨.refl m, .inr (.refl m)⟩
  | testAgain | init | releaseWriter => cases hwriter
  | handler sync => exact ⟨⟨.inl rfl, rfl⟩, .inl ⟨sync, rfl⟩⟩
  | reset p =>
    cases p with
    | closeSessions | wait => exact ⟨.refl m, .inr (.refl m)⟩
    | _ => cases hwriter
  | stopSet | invokeSet => exact ⟨⟨.inr rfl, rfl⟩, .inr ⟨id, id⟩⟩
  | invokeDeinit p => cases p <;> exact ⟨⟨.inl rfl, rfl⟩, .inr ⟨id, id⟩⟩
  | invokeComplete =>
    simp only [LifePoint.next]
    split_ifs
    · exact ⟨⟨.inl rfl, rfl⟩, .inr ⟨id, id⟩⟩
    · exact ⟨.refl m, .inr (.refl m)⟩
  | listener p =>
    cases p with
    | wait h =>
      unfold LifePoint.next JomListenerPoint.next
      cases x.wait <;> exact ⟨.refl m, .inr (.refl m)⟩
    | forget => exact ⟨⟨.inl rfl, rfl⟩, .inr ⟨id, id⟩⟩
    | deinit p => cases p <;> exact ⟨⟨.inl rfl, rfl⟩, .inr ⟨id, id⟩⟩
    | start p =>
      obtain ⟨hstate, hplugin, hsmaller⟩ := @spoolerPoint_next_spec x m p
      have hmem : (LifePoint.next x (.listener (.start p)) m).2 = (p.next x m).2 := by
        unfold LifePoint.next JomListenerPoint.next
        dsimp only
        split
        all_goals
          rename_i heq
          rw [heq]
      rw [hmem]
      exact ⟨⟨.inl hstate, hplugin⟩, .inr hsmaller⟩
    | _ => exact ⟨.refl m, .inr (.refl m)⟩
  | _ => exact ⟨.refl m, .inr (.refl m)⟩

theorem InitPoint.Relies.next {p : InitPoint} (h : p.Relies m) :
    (∃ q, (p.next x m).1 = .inl q ∧ q.Relies (p.next x m).2) ∨
      ∃ succeeded, (p.next x m).1 = .inr succeeded ∧ (p.next x m).2.Settled := by
  cases p with
  | test =>
    simp only [InitPoint.next]
    split_ifs with hstate
    · exact .inr ⟨_, rfl, h⟩
    · have hstopped : m.jhiState = .stopped := Classical.byContradiction hstate
      obtain ⟨hempty, hplugin⟩ := Settled.stopped h hstopped
      exact .inl ⟨_, rfl, ⟨by rw [hstopped]; decide, hempty⟩, hplugin⟩
  | settings | vmType | deviceEvents =>
    simp only [InitPoint.next]
    split_ifs
    · exact .inl ⟨_, rfl, h⟩
    · exact .inl ⟨_, rfl, h.1⟩
  | isRegistered =>
    simp only [InitPoint.next]
    rw [if_neg (by rw [h.2]; exact Bool.false_ne_true)]
    exact .inl ⟨_, rfl, h⟩
  | register =>
    simp only [InitPoint.next]
    split_ifs
    · exact .inl ⟨_, rfl, ⟨h.1.state, h.1.empty⟩, rfl⟩
    · exact .inl ⟨_, rfl, h.1⟩
  | pluginTable | setTransport | pluginInit =>
    simp only [InitPoint.next]
    split_ifs
    · exact .inl ⟨_, rfl, h⟩
    · exact .inl ⟨_, rfl, h.1⟩
  | fwVersion => exact .inl ⟨_, rfl, h⟩
  | events p =>
    obtain ⟨hstate, hplugin, hsmaller⟩ := @spoolerPoint_next_spec x m p
    have hstarting : (p.next x m).2.Starting := h.1.disturbed ⟨.inl hstate, hplugin⟩ hsmaller
    have hregistered : (p.next x m).2.pluginRegistered = true := hplugin.trans h.2
    simp only [InitPoint.next]
    cases hp : p.next x m with
    | mk result m' =>
      rw [hp] at hstarting hregistered
      match result with
      | .inl q => exact .inl ⟨_, rfl, hstarting, hregistered⟩
      | .inr true =>
        dsimp only
        split_ifs
        · exact .inl ⟨_, rfl, hstarting, hregistered⟩
        · exact .inl ⟨_, rfl, hstarting.state, hregistered⟩
      | .inr false => exact .inl ⟨_, rfl, hstarting⟩
  | updateApplets => exact .inl ⟨_, rfl, h.1.state, h.2⟩
  | setInitialized => exact .inr ⟨_, rfl, fun hstate => (by cases hstate), fun _ => h.2⟩
  | failed => exact .inl ⟨_, rfl, h⟩
  | failedRegistered =>
    simp only [InitPoint.next]
    split_ifs with hplugin
    · exact .inl ⟨_, rfl, h⟩
    · refine .inr ⟨_, rfl, fun _ => ⟨h.empty, ?_⟩, fun hstate => absurd hstate h.state⟩
      exact Bool.eq_false_iff.2 hplugin
  | unregister => exact .inr ⟨_, rfl, fun _ => ⟨h.empty, rfl⟩, fun hstate => absurd hstate h.state⟩

theorem ResetPoint.Relies.next {p : ResetPoint} (h : p.Relies m) (hp : p ≠ .release) (hfree : p = .wait → m.Settled) :
    ∃ q, (p.next m).1 = some q ∧ q.Relies (p.next m).2 := by
  cases p with
  | closeSessions => exact ⟨_, rfl, trivial⟩
  | wait => exact ⟨_, rfl, hfree rfl⟩
  | test =>
    simp only [ResetPoint.next]
    split_ifs
    · exact ⟨_, rfl, h⟩
    · exact ⟨_, rfl, trivial⟩
  | resetApplets => exact ⟨_, rfl, rfl⟩
  | resetSessions => exact ⟨_, rfl, rfl, h⟩
  | deinit p => cases p <;> exact ⟨_, rfl, h⟩
  | pluginTable =>
    simp only [ResetPoint.next]
    split_ifs with hplugin
    · exact ⟨_, rfl, h⟩
    · exact ⟨_, rfl, h, Bool.eq_false_iff.2 hplugin⟩
  | unregister => exact ⟨_, rfl, h, rfl⟩
  | setStopped => exact ⟨_, rfl, fun _ => h, fun hstate => by cases hstate⟩
  | signal => exact ⟨_, rfl, h.stopped, h.initialized⟩
  | release => exact absurd rfl hp

/-- A thread that goes on relies on what is true at its next point. -/
theorem LifePoint.Relies.next {p : LifePoint} (h : p.Relies m)
    (hfree : p.op = .none ∧ p.held.reader = true ∨ p.op = .takeWriter → m.Settled) :
    (p.next x m).1.Relies (p.next x m).2 := by
  cases p with
  | waitWriter _ => exact hfree (.inr rfl)
  | testAgain sync =>
    simp only [LifePoint.next]
    split_ifs <;> exact h
  | init sync p =>
    have hnext := @InitPoint.Relies.next x m p h
    simp only [LifePoint.next]
    cases hp : p.next x m with
    | mk result m' =>
      rw [hp] at hnext
      cases result with
      | inl q =>
        obtain ⟨q', hq, hrelies⟩ | ⟨_, hq, -⟩ := hnext
        · cases hq
          exact hrelies
        · cases hq
      | inr succeeded =>
        obtain ⟨_, hq, -⟩ | ⟨_, -, hsettled⟩ := hnext
        · cases hq
        · exact hsettled
  | releaseWriter sync succeeded =>
    simp only [LifePoint.next]
    split_ifs <;> trivial
  | ready sync =>
    simp only [LifePoint.next]
    split_ifs with hstate
    · exact ⟨by rw [hstate]; decide, (hfree (.inl ⟨rfl, rfl⟩)).initialized hstate⟩
    · exact ⟨by rw [hstate]; decide, (hfree (.inl ⟨rfl, rfl⟩)).initialized hstate⟩
    · trivial
  | lock => exact h
  | handler sync =>
    simp only [LifePoint.next]
    split_ifs
    · exact ⟨h.state, h.plugin⟩
    · exact ⟨h.state, h.plugin⟩
    · trivial
  | reset p =>
    by_cases hp : p = .release
    · subst hp
      trivial
    · obtain ⟨q, hq, hrelies⟩ := ResetPoint.Relies.next h hp fun hwait => hfree (.inr (by rw [hwait]; rfl))
      have heq : LifePoint.next x (.reset p) m = (.reset q, (p.next m).2) := by
        simp only [LifePoint.next]
        split
        all_goals
          rename_i hsome
          rw [hsome] at hq
          cases hq
        rw [hsome]
      rw [heq]
      exact hrelies
  | idle =>
    unfold LifePoint.next
    cases x.call with
    | command | listener =>
      dsimp only
      split_ifs <;> trivial
    | _ => trivial
  | invokeDeinit p => cases p <;> trivial
  | listener p =>
    cases p with
    | wait h =>
      unfold LifePoint.next JomListenerPoint.next
      cases x.wait <;> trivial
    | deinit p => cases p <;> trivial
    | start p =>
      simp only [LifePoint.next, JomListenerPoint.next]
      split <;> trivial
    | pluginTable | test =>
      simp only [LifePoint.next, JomListenerPoint.next]
      split_ifs <;> trivial
    | _ => trivial
  | test | stopTest | invokeTest | invokeComplete =>
    simp only [LifePoint.next]
    split_ifs <;> trivial
  | _ => trivial

end Relies

/-- The guards of the globals. -/
def lifeGuards : Guards lifeProgram where
  free := LifeGlobals.Settled
  own p m := p.Relies m
  steps x p m hop h hfree := by
    refine h.next fun hlock => ?_
    obtain ⟨-, hreads⟩ | htake := hlock
    · exact hfree hreads
    · cases hop.symm.trans htake
  others x p m q hop h hfree hwrites hreads hq := by
    cases hw : p.held.writer with
    | true => exact LifePoint.relies_of_no_lock (hwrites hw).1 (hwrites hw).2
    | false =>
      obtain ⟨hd, ⟨sync, rfl⟩ | hs⟩ := @LifePoint.disturbed_next x m p hop hw
      · exact LifePoint.Relies.disturbed_of_not_writer (hreads rfl) hq hd
      · exact hq.disturbed hd hs
  keeps_free x p m hop hw h hfree := by
    obtain ⟨hd, ⟨sync, rfl⟩ | hs⟩ := @LifePoint.disturbed_next x m p hop hw
    · exact ⟨fun hstate => absurd hstate h.state, hfree.initialized⟩
    · exact hfree.disturbed hd hs
  lock_steps x p m hop h hfree := by
    have hnext : (p.next x m).1.Relies (p.next x m).2 := by
      refine h.next fun hlock => ?_
      obtain ⟨hnone, -⟩ | htake := hlock
      · exact absurd hnone hop
      · exact hfree (.inl htake)
    rwa [show (p.next x m).2 = m from lifeProgram.lock_mem x p m hop] at hnext
  gives p m hop h := by
    cases p with
    | releaseWriter _ _ => exact h
    | reset p =>
      cases p with
      | release => exact h
      | _ => cases hop
    | _ => cases hop

/-! ### The life cycle -/

/-- A handler runs: from its test of the state to its return. -/
def LifePoint.running : LifePoint → Bool
  | lock | handler _ | unlock => true
  | _ => false

/-- `jhis_init` behind its test of the state. -/
def LifePoint.initialising : LifePoint → Bool
  | init _ .test => false
  | init _ _ => true
  | _ => false

/-- The next step empties one of the tables. -/
def LifePoint.resetsTables : LifePoint → Bool
  | reset .resetApplets | reset .resetSessions => true
  | _ => false

/-- The state and the locks of the service. -/
structure LifeCycle {τ : Type} (s : LifeState τ) : Prop where
  /-- Under a handler the service is there. -/
  running : ∀ t, (s.point t).running = true →
    s.mem.pluginRegistered = true ∧ (s.mem.jhiState = .initialized ∨ s.mem.jhiState = .stopping) ∧
      ∀ u, (s.point u).resetsTables = false
  stopped : s.writer = none → s.mem.jhiState = .stopped →
    s.mem.sessionList = .empty ∧ s.mem.appletTable = .empty ∧ s.mem.pluginRegistered = false
  /-- `jhis_init` has the writer lock, and the service is not initialised. -/
  initialising : ∀ t, (s.point t).initialising = true → s.writer = some t ∧ s.mem.jhiState ≠ .initialized
  /-- A thread between two calls holds no lock. -/
  released : ∀ t, s.point t = .idle → s.writer ≠ some t ∧ t ∉ s.readers ∧ s.mutex ≠ some t
  /-- A lock is taken by a thread that does not have it, and given back by one that has. -/
  writer : ∀ t, ((s.point t).op = .takeWriter → s.writer ≠ some t) ∧ ((s.point t).op = .giveWriter → s.writer = some t)
  reader : ∀ t, ((s.point t).op = .takeReader → t ∉ s.readers) ∧ ((s.point t).op = .giveReader → t ∈ s.readers)
  mutex : ∀ t, ((s.point t).op = .takeMutex → s.mutex ≠ some t) ∧ ((s.point t).op = .giveMutex → s.mutex = some t)

section LifeCycle

variable {τ : Type} {s : LifeState τ}

theorem settled_start : LifeGlobals.start.Settled where
  stopped _ := ⟨⟨rfl, rfl⟩, rfl⟩
  initialized hstate := by cases hstate

theorem guarded_lifeStart : Guarded lifeGuards (lifeStart : LifeState τ) where
  holds := holds_start rfl rfl rfl _
  free _ := settled_start
  own _ := trivial

theorem LifePoint.writer_of_resetsTables {p : LifePoint} (h : p.resetsTables = true) : p.held.writer = true := by
  cases p with
  | reset p =>
    cases p with
    | resetApplets | resetSessions => rfl
    | _ => cases h
  | _ => cases h

theorem LifePoint.Relies.running {p : LifePoint} {m : LifeGlobals} (h : p.Relies m) (hp : p.running = true) :
    m.Running ∧ p.held.reader = true := by
  cases p with
  | lock | handler _ | unlock => exact ⟨h, rfl⟩
  | _ => cases hp

theorem LifePoint.Relies.initialising {p : LifePoint} {m : LifeGlobals} (h : p.Relies m) (hp : p.initialising = true) :
    m.jhiState ≠ .initialized ∧ p.held.writer = true := by
  cases p with
  | init sync p =>
    refine ⟨?_, rfl⟩
    cases p with
    | test => cases hp
    | failed | failedRegistered | unregister => exact LifeGlobals.Starting.state h
    | setInitialized => exact h.1
    | _ => exact h.1.state
  | _ => cases hp

theorem LifePoint.take_writer {p : LifePoint} (h : p.op = .takeWriter) : p.held.writer = false := by
  cases p with
  | waitWriter _ => rfl
  | reset p =>
    cases p with
    | wait => rfl
    | _ => cases h
  | _ => cases h

theorem LifePoint.take_mutex {p : LifePoint} (h : p.op = .takeMutex) : p.held.mutex = false := by
  cases p with
  | lock => rfl
  | reset p => cases p <;> cases h
  | _ => cases h

theorem Guarded.lifeCycle (h : Guarded lifeGuards s) : LifeCycle s where
  running t ht := by
    obtain ⟨hrunning, hreads⟩ := LifePoint.Relies.running (h.own t) ht
    refine ⟨hrunning.plugin, ?_, fun u => ?_⟩
    · cases hstate : s.mem.jhiState with
      | initialized => exact .inl rfl
      | stopping => exact .inr rfl
      | stopped => exact absurd hstate hrunning.state
    · refine Bool.eq_false_iff.2 fun hu => ?_
      have hwriter := (h.holds.writer u).2 (LifePoint.writer_of_resetsTables hu)
      rw [h.holds.no_writer hreads] at hwriter
      cases hwriter
  stopped hwriter hstate := by
    obtain ⟨⟨hsessions, happlets⟩, hplugin⟩ := (h.free hwriter).stopped hstate
    exact ⟨hsessions, happlets, hplugin⟩
  initialising t ht := by
    obtain ⟨hstate, hwrites⟩ := LifePoint.Relies.initialising (h.own t) ht
    exact ⟨(h.holds.writer t).2 hwrites, hstate⟩
  released t ht := by
    have hholds := h.holds
    refine ⟨fun hw => ?_, fun hr => ?_, fun hm => ?_⟩
    · have hwrites := (hholds.writer t).1 hw
      rw [ht] at hwrites
      cases hwrites
    · have hreads := (hholds.readers t).1 hr
      rw [ht] at hreads
      cases hreads
    · have hlocks := (hholds.mutex t).1 hm
      rw [ht] at hlocks
      cases hlocks
  writer t := by
    refine ⟨fun hop hw => ?_, fun hop => (h.holds.writer t).2 (lifeProgram.give_writer _ hop)⟩
    have hwrites : (s.point t).held.writer = true := (h.holds.writer t).1 hw
    rw [LifePoint.take_writer hop] at hwrites
    cases hwrites
  reader t := by
    refine ⟨fun hop hr => ?_, fun hop => (h.holds.readers t).2 (lifeProgram.give_reader _ hop)⟩
    have hreads := (h.holds.readers t).1 hr
    rw [LockedProgram.reads, lifeProgram.take_reader _ hop] at hreads
    cases hreads
  mutex t := by
    refine ⟨fun hop hm => ?_, fun hop => (h.holds.mutex t).2 (lifeProgram.give_mutex _ hop)⟩
    have hlocks : (s.point t).held.mutex = true := (h.holds.mutex t).1 hm
    rw [LifePoint.take_mutex hop] at hlocks
    cases hlocks

/-- In every run of commands, resets, `jhi_stop`, `jhi_invoke_reset` and listener threads. -/
theorem service_life_cycle [DecidableEq τ] (steps : List (τ × LifeAnswers)) : LifeCycle (afterCalls lifeStep steps lifeStart) :=
  (guarded_run guarded_lifeStart steps).lifeCycle

end LifeCycle

end DalHost

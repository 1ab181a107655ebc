import DalHost.Events.Recovery
import DalHost.Lib.Calls

/-!
# Runs in which no recovery is crossed

The invariant counts who serves: at most one listener thread attends to the spooler, and while the service is
initialised there is one, or a recovery that will create it, or a reset. The writers do their part point by point
(`EventPhase`); a recovery is alone, which is what the condition on the run says.
-/

namespace DalHost

/-! ### The invariant -/

section Invariant

variable {τ : Type}

def Carried (s : LifeState τ) : Prop :=
  (s.mem.newListeners ≠ 0 ∧ s.mem.spoolerHandle ≠ none) ∨ ∃ t, (s.point t).Carries s.mem

/-- What the writers do to the event manager, point by point. -/
def EventPhase (s : LifeState τ) : LifePoint → Prop
  | .init _ .test => True
  | .init _ (.events .thread) => s.mem.initialized = false ∧ s.mem.spoolerHandle ≠ none
  | .init _ (.events (.set true)) => Carried s
  | .init _ .updateApplets | .init _ .setInitialized => s.mem.initialized = true ∧ Carried s
  | .init .. => s.mem.initialized = false
  | .reset .pluginTable | .reset .unregister | .reset .setStopped => s.mem.initialized = false
  | .reset .signal | .reset .release => s.mem.jhiState ≠ .initialized
  | .listener (.start .thread) => s.mem.spoolerHandle ≠ none
  | _ => True

/-- Nobody is in the middle of a change. -/
def WriterCalm (s : LifeState τ) : Prop := ∀ t, s.writer = some t → (s.point t).calm = true

structure EventInv (s : LifeState τ) : Prop where
  guarded : Guarded lifeGuards s
  alone : ∀ t, (s.point t).recovering = true → s.writer = none ∧ s.mem.jhiState ≠ .stopped
  unique : ∀ t u, (s.point t).attends = true → (s.point u).attends = true → t = u
  none_new : ∀ t, (s.point t).attends = true → s.mem.newListeners = 0
  one_new : s.mem.newListeners ≤ 1
  invoked : ∀ t p, s.point t = .invokeDeinit p → s.mem.jhiState = .stopping
  stopped : WriterCalm s → s.mem.jhiState = .stopped → s.mem.initialized = false
  carried : WriterCalm s → s.mem.jhiState = .initialized → Carried s ∧
    (s.mem.initialized = true ∨ ∃ t, (s.point t).recovering = true ∨ (s.point t).resetting = true)
  phase : ∀ t, EventPhase s (s.point t)

variable {s s' : LifeState τ} {t u : τ} {x : LifeAnswers} [DecidableEq τ]

/-! ### One step -/

omit [DecidableEq τ] in
theorem EventInv.writer_iff (h : EventInv s) (u : τ) : s.writer = some u ↔ (s.point u).held.writer = true :=
  h.guarded.holds.writer u

theorem effect_of_moved (hm : Moved lifeProgram t x s s') : EventEffect x s.mem (s.point t) (s'.point t) s'.mem := by
  rw [hm.point_self, hm.mem]
  exact eventEffect_next _

theorem LifePoint.writesState_of_not_writer {p : LifePoint} (h : p.held.writer = false) :
    p.writesState = none ∨ p.writesState = some .stopping := by
  cases p with
  | init sync p => cases h
  | reset p =>
    cases p with
    | closeSessions | wait => exact .inl rfl
    | _ => cases h
  | stopSet | invokeSet => exact .inr rfl
  | _ => exact .inl rfl

theorem state_of_not_writer (hm : Moved lifeProgram t x s s') (h : (s.point t).held.writer = false) :
    s'.mem.jhiState = s.mem.jhiState ∨ s'.mem.jhiState = .stopping := by
  rw [(effect_of_moved hm).state]
  obtain hnone | hstopping := LifePoint.writesState_of_not_writer h
  · exact .inl (by rw [hnone]; rfl)
  · exact .inr (by rw [hstopping]; rfl)

omit [DecidableEq τ] in
theorem EventInv.not_writer_of_recovering (h : EventInv s) (hu : (s.point u).recovering = true) (t : τ) :
    (s.point t).held.writer = false := by
  refine Bool.eq_false_iff.2 fun hwriter => ?_
  have hsome := (h.writer_iff t).2 hwriter
  rw [(h.alone u hu).1] at hsome
  cases hsome

/-- A recovery goes on alone. -/
theorem EventInv.alone_moved (h : EventInv s) (hm : Moved lifeProgram t x s s') (hno : ¬CrossesRecovery (t, x) s) (u : τ)
    (hu : (s'.point u).recovering = true) : s'.writer = none ∧ s'.mem.jhiState ≠ .stopped := by
  have hbefore : s.writer = none ∧ s.mem.jhiState ≠ .stopped ∧ (s.point t).op ≠ .takeWriter := by
    by_cases hut : u = t
    · subst hut
      rw [hm.point_self] at hu
      obtain hrec | ⟨htest, hstate⟩ := recovering_next hu
      · obtain ⟨q, hq⟩ := LifePoint.listener_of_recovering hrec
        obtain ⟨hnone, hstopped⟩ := h.alone u hrec
        exact ⟨hnone, hstopped, by rw [hq]; simp [LifePoint.op]⟩
      · refine ⟨Classical.byContradiction fun hne => hno (.inr (.inl ⟨htest, hstate, hne⟩)), ?_, ?_⟩
        · rw [hstate]
          decide
        · rw [htest]
          simp [LifePoint.op]
    · rw [hm.point_of_ne hut] at hu
      obtain ⟨hnone, hstopped⟩ := h.alone u hu
      refine ⟨hnone, hstopped, fun hop => ?_⟩
      -- the lock would be granted during a recovery
      obtain ⟨-, -, hreaders, -⟩ | ⟨hgive, -⟩ | ⟨hne, -⟩ := hm.writer
      · exact hno (.inl ⟨hop, hnone, hreaders, u, hu⟩)
      · cases hop.symm.trans hgive
      · exact hne hop
  obtain ⟨hnone, hstopped, hop⟩ := hbefore
  have hwriter : (s.point t).held.writer = false := by
    refine Bool.eq_false_iff.2 fun hwriter => ?_
    have hsome := (h.writer_iff t).2 hwriter
    rw [hnone] at hsome
    cases hsome
  constructor
  · obtain ⟨htake, -⟩ | ⟨-, hgave⟩ | ⟨-, -, hsame⟩ := hm.writer
    · exact absurd htake hop
    · exact hgave
    · exact hsame.trans hnone
  · obtain hsame | hstopping := state_of_not_writer hm hwriter
    · rw [hsame]
      exact hstopped
    · rw [hstopping]
      decide

theorem LifePoint.live_or_recovering {p : LifePoint} (h : p.attends = true) : p.live = true ∨ p.recovering = true := by
  cases p with
  | listener p =>
    cases p with
    | forget | deinit _ | start _ => exact .inr rfl
    | _ => exact .inl rfl
  | _ => cases h

/-- What the listeners are after a step: one attends at most, and none next to a new one. -/
structure OneListener (s : LifeState τ) : Prop where
  unique : ∀ t u, (s.point t).attends = true → (s.point u).attends = true → t = u
  none_new : ∀ t, (s.point t).attends = true → s.mem.newListeners = 0
  one_new : s.mem.newListeners ≤ 1

omit [DecidableEq τ] in
theorem EventInv.creates_alone (h : EventInv s) (hno : ¬CrossesRecovery (t, x) s) (hthread : (s.point t).spooler = some .thread)
    (hsucceeds : x.succeeds = true) : s.mem.newListeners = 0 ∧ ∀ u, u ≠ t → (s.point u).attends = false := by
  generalize hp : s.point t = p at hthread
  cases p with
  | init sync p =>
    cases p with
    | events p =>
      cases hthread
      have hcreates : (s.point t).createsListener = true := by rw [hp]; rfl
      have hwriter : (s.point t).held.writer = true := by rw [hp]; rfl
      have hnone : ¬(0 < s.mem.newListeners ∨ ∃ u, (s.point u).live = true) :=
        fun hlive => hno (.inr (.inr ⟨hcreates, hsucceeds, hlive⟩))
      refine ⟨by omega, fun u _ => Bool.eq_false_iff.2 fun hattends => ?_⟩
      obtain hlive | hrec := LifePoint.live_or_recovering hattends
      · exact hnone (.inr ⟨u, hlive⟩)
      · rw [h.not_writer_of_recovering hrec t] at hwriter
        cases hwriter
    | _ => cases hthread
  | listener p =>
    cases p with
    | start p =>
      cases hthread
      have hattends : (s.point t).attends = true := by rw [hp]; rfl
      exact ⟨h.none_new t hattends, fun u hu => Bool.eq_false_iff.2 fun hother => hu (h.unique u t hother hattends)⟩
    | _ => cases hthread
  | _ => cases hthread

theorem EventInv.oneListener_moved (h : EventInv s) (hm : Moved lifeProgram t x s s') (hno : ¬CrossesRecovery (t, x) s) :
    OneListener s' := by
  have heffect := effect_of_moved hm
  -- who attends now did so before, or is the new listener
  have hself : (s'.point t).attends = true → (s.point t).attends = true ∨
      s.point t = .idle ∧ 0 < s.mem.newListeners ∧ s'.mem.newListeners = s.mem.newListeners - 1 := by
    rw [hm.point_self, hm.mem]
    exact attends_next
  obtain hsame | ⟨hidle, -, hnew, hless⟩ | ⟨hthread, hsucceeds, hmore⟩ := heffect.listeners
  · have hbefore : ∀ u, (s'.point u).attends = true → (s.point u).attends = true := by
      intro u hu
      by_cases hut : u = t
      · subst hut
        obtain hattends | ⟨-, hnew, hless⟩ := hself hu
        · exact hattends
        · omega
      · rwa [hm.point_of_ne hut] at hu
    refine ⟨fun u v hu hv => h.unique u v (hbefore u hu) (hbefore v hv), fun u hu => ?_, ?_⟩
    · rw [hsame]
      exact h.none_new u (hbefore u hu)
    · rw [hsame]
      exact h.one_new
  · -- the new listener begins: nobody else attends
    have hone := h.one_new
    have honly : ∀ u, (s'.point u).attends = true → u = t := by
      intro u hu
      refine Classical.byContradiction fun hut => ?_
      rw [hm.point_of_ne hut] at hu
      have hnone := h.none_new u hu
      omega
    refine ⟨fun u v hu hv => by rw [honly u hu, honly v hv], fun u _ => ?_, ?_⟩
    · omega
    · omega
  · obtain ⟨hnone, hothers⟩ := h.creates_alone hno hthread hsucceeds
    have hnobody : ∀ u, (s'.point u).attends = false := by
      intro u
      by_cases hut : u = t
      · subst hut
        rw [hm.point_self]
        exact attends_next_of_thread hthread hsucceeds
      · rw [hm.point_of_ne hut]
        exact hothers u hut
    refine ⟨fun u v hu _ => ?_, fun u hu => ?_, ?_⟩
    · rw [hnobody u] at hu
      cases hu
    · rw [hnobody u] at hu
      cases hu
    · omega

theorem EventInv.invoked_moved (h : EventInv s) (hm : Moved lifeProgram t x s s') (u : τ) (p : DeinitPoint)
    (hu : s'.point u = .invokeDeinit p) : s'.mem.jhiState = .stopping := by
  by_cases hut : u = t
  · subst hut
    rw [hm.point_self] at hu
    obtain hset | ⟨q, hq⟩ := invoked_next hu
    · rw [(effect_of_moved hm).state, hset]
      rfl
    · rw [(effect_of_moved hm).state, hq]
      exact h.invoked u q hq
  · rw [hm.point_of_ne hut] at hu
    -- it holds the reader lock
    have hnone : s.writer = none := h.guarded.holds.no_writer (t := u) (by rw [hu]; rfl)
    have hwriter : (s.point t).held.writer = false := by
      refine Bool.eq_false_iff.2 fun hwriter => ?_
      have hsome := (h.writer_iff t).2 hwriter
      rw [hnone] at hsome
      cases hsome
    obtain hsame | hstopping := state_of_not_writer hm hwriter
    · exact hsame.trans (h.invoked u p hu)
    · exact hstopping

theorem LifePoint.Carries.congr {p : LifePoint} {m m' : LifeGlobals} (h : p.Carries m)
    (hhandle : p.live = true → m'.spoolerHandle = m.spoolerHandle) : p.Carries m' := by
  cases p with
  | listener p =>
    cases p with
    | pluginTable | loop | event | test =>
      show m'.spoolerHandle ≠ none
      rw [hhandle rfl]
      exact h
    | wait handle =>
      show handle = m'.spoolerHandle ∧ m'.spoolerHandle ≠ none
      rw [hhandle rfl]
      exact h
    | start p =>
      cases p with
      | set b =>
        cases b with
        | true => exact h
        | false => trivial
      | _ => trivial
    | _ => trivial
  | reset p => trivial
  | _ => exact h

theorem LifePoint.attends_of_live {p : LifePoint} (h : p.live = true) : p.attends = true := by
  cases p with
  | listener p =>
    cases p with
    | forget | deinit _ | start _ => cases h
    | _ => rfl
  | _ => cases h

theorem EventInv.carried_moved (h : EventInv s) (hm : Moved lifeProgram t x s s') (hcarried : Carried s)
    (hplugin : s.mem.pluginRegistered = true) (hrelease : s.point t ≠ .reset .release)
    (hopens : ∀ sync q, s.point t = .init sync (.events q) → q.opens = false) : Carried s' := by
  have heffect := effect_of_moved hm
  -- who changes the handle attends
  have hhandle : s'.mem.spoolerHandle = s.mem.spoolerHandle ∨ (s.point t).attends = true := by
    obtain hsame | hforget | ⟨⟨q, hq, hq'⟩, -⟩ := heffect.handle
    · exact .inl hsame
    · exact .inr (by rw [hforget]; rfl)
    · generalize hp : s.point t = p at hq
      cases p with
      | init sync p =>
        cases p with
        | events p =>
          cases hq
          rw [hopens sync q hp] at hq'
          cases hq'
        | _ => cases hq
      | listener p =>
        cases p with
        | start p =>
          cases hq
          cases q with
          | firstSession | session => exact .inr rfl
          | _ => cases hq'
        | _ => cases hq
      | _ => cases hq
  obtain ⟨hnew, hsome⟩ | ⟨u, hu⟩ := hcarried
  · have hkept : s'.mem.spoolerHandle = s.mem.spoolerHandle := by
      obtain hsame | hattends := hhandle
      · exact hsame
      · exact absurd (h.none_new t hattends) hnew
    obtain hsame | ⟨-, hbegins, -⟩ | ⟨-, -, hmore⟩ := heffect.listeners
    · exact .inl ⟨by omega, by rw [hkept]; exact hsome⟩
    · refine .inr ⟨t, ?_⟩
      rw [hbegins]
      show s'.mem.spoolerHandle ≠ none
      rw [hkept]
      exact hsome
    · exact .inl ⟨by omega, by rw [hkept]; exact hsome⟩
  · by_cases hut : u = t
    · subst hut
      have hthread : s.point u = .listener (.start .thread) → s.mem.spoolerHandle ≠ none := by
        intro hp
        have hphase := h.phase u
        rw [hp] at hphase
        exact hphase
      have hnext : (s'.point u).Carries s'.mem ∨ s'.mem.newListeners ≠ 0 ∧ s'.mem.spoolerHandle ≠ none := by
        rw [hm.point_self, hm.mem]
        exact carries_next hu hrelease hplugin hthread
      obtain hcarries | hcreated := hnext
      · exact .inr ⟨u, hcarries⟩
      · exact .inl hcreated
    · refine .inr ⟨u, ?_⟩
      rw [hm.point_of_ne hut]
      refine hu.congr fun hlive => ?_
      obtain hsame | hattends := hhandle
      · exact hsame
      · exact absurd (h.unique u t (LifePoint.attends_of_live hlive) hattends) hut

/-! ### Who is done with a change -/

/-- The last step of a change. -/
def LifePoint.finishes : LifePoint → Bool
  | init _ .setInitialized | init _ .failedRegistered | init _ .unregister | reset .setStopped => true
  | _ => false

omit [DecidableEq τ] in
theorem LifePoint.calm_next {p : LifePoint} {m : LifeGlobals} (hwriter : p.held.writer = true) (hp : p.calm = false)
    (hnext : (p.next x m).1.calm = true) : p.finishes = true := by
  cases p with
  | init sync p =>
    cases p with
    | test => cases hp
    | setInitialized | failedRegistered | unregister => rfl
    | events p =>
      simp only [LifePoint.next, InitPoint.next] at hnext
      have hstep := @spoolerStep_next x m p
      generalize p.next x m = r at hstep hnext
      obtain ⟨result, m'⟩ := r
      cases hstep with
      | ended b =>
        cases b with
        | false => cases hnext
        | true =>
          dsimp only at hnext
          split_ifs at hnext <;> cases hnext
      | _ => cases hnext
    | fwVersion | updateApplets | failed => cases hnext
    | _ =>
      simp only [LifePoint.next, InitPoint.next] at hnext
      split_ifs at hnext <;> cases hnext
  | reset p =>
    cases p with
    | setStopped => rfl
    | closeSessions | wait => cases hwriter
    | test | signal | release => cases hp
    | deinit p => cases p <;> cases hnext
    | pluginTable =>
      simp only [LifePoint.next, ResetPoint.next] at hnext
      split_ifs at hnext <;> cases hnext
    | resetApplets | resetSessions | unregister => cases hnext
  | _ => cases hp

theorem EventInv.calm_before (h : EventInv s) (hm : Moved lifeProgram t x s s') (hcalm : WriterCalm s') :
    WriterCalm s ∨ (s.point t).held.writer = true ∧ (s.point t).finishes = true := by
  refine or_iff_not_imp_right.2 fun hnot u hu => ?_
  have hwrites := (h.writer_iff u).1 hu
  obtain ⟨-, hnone, -⟩ | ⟨hgive, -⟩ | ⟨-, -, hsame⟩ := hm.writer
  · rw [hnone] at hu
    cases hu
  · -- the writer gives the lock back
    have hut : u = t := h.guarded.holds.writer_unique (lifeProgram.give_writer _ hgive) hwrites
    subst hut
    generalize s.point u = p at hgive
    cases p with
    | releaseWriter => rfl
    | reset p =>
      cases p with
      | release => rfl
      | _ => cases hgive
    | _ => cases hgive
  · have hafter := hcalm u (hsame.trans hu)
    by_cases hut : u = t
    · subst hut
      refine Classical.byContradiction fun hne => hnot ⟨hwrites, ?_⟩
      rw [hm.point_self] at hafter
      exact LifePoint.calm_next hwrites (Bool.eq_false_iff.2 hne) hafter
    · rwa [hm.point_of_ne hut] at hafter

/-- A change that ends leaves the event manager as the state says. -/
theorem EventInv.finished (h : EventInv s) (hm : Moved lifeProgram t x s s') (hfinishes : (s.point t).finishes = true) :
    s'.mem.jhiState = .initialized ∧ s.mem.initialized = true ∧ Carried s ∧ s.mem.pluginRegistered = true ∧
        (∃ sync, s.point t = .init sync .setInitialized) ∨
      s'.mem.jhiState ≠ .initialized ∧ s'.mem.initialized = false := by
  have heffect := effect_of_moved hm
  have hphase := h.phase t
  have hown : (s.point t).Relies s.mem := h.guarded.own t
  have hstate := heffect.state
  have hinitialized := heffect.initialized
  generalize s.point t = p at *
  cases p with
  | init sync p =>
    cases p with
    | setInitialized => exact .inl ⟨hstate, hphase.1, hphase.2, hown.2, sync, rfl⟩
    | failedRegistered | unregister =>
      refine .inr ⟨?_, hinitialized.trans hphase⟩
      rw [hstate]
      exact LifeGlobals.Starting.state hown
    | _ => cases hfinishes
  | reset p =>
    cases p with
    | setStopped =>
      refine .inr ⟨fun heq => ?_, hinitialized.trans hphase⟩
      rw [hstate] at heq
      cases heq
    | _ => cases hfinishes
  | _ => cases hfinishes

/-! ### The event manager follows -/

theorem EventInv.initialized_of_not_writer (h : EventInv s) (hm : Moved lifeProgram t x s s') (hcalm : WriterCalm s)
    (hstopped : s.mem.jhiState = .stopped) (hfalse : s.mem.initialized = false) : s'.mem.initialized = false := by
  rw [(effect_of_moved hm).initialized]
  generalize hp : s.point t = p
  cases p with
  | init sync p =>
    have hafter := hcalm t ((h.writer_iff t).2 (by rw [hp]; rfl))
    rw [hp] at hafter
    cases p with
    | test => exact hfalse
    | _ => cases hafter
  | listener p =>
    cases p with
    | start p =>
      have hrec : (s.point t).recovering = true := by rw [hp]; rfl
      exact absurd hstopped (h.alone t hrec).2
    | deinit p => cases p <;> first | exact hfalse | rfl
    | _ => exact hfalse
  | reset p =>
    cases p with
    | deinit p => cases p <;> first | exact hfalse | rfl
    | _ => exact hfalse
  | invokeDeinit p => cases p <;> first | exact hfalse | rfl
  | _ => exact hfalse

theorem EventInv.state_of_calm (h : EventInv s) (hm : Moved lifeProgram t x s s') (hcalm : WriterCalm s) :
    s'.mem.jhiState = s.mem.jhiState ∨ s'.mem.jhiState = .stopping := by
  by_cases hwriter : (s.point t).held.writer = true
  · have hafter := hcalm t ((h.writer_iff t).2 hwriter)
    rw [(effect_of_moved hm).state]
    generalize s.point t = p at hafter hwriter
    cases p with
    | init sync p =>
      cases p with
      | test => exact .inl rfl
      | _ => cases hafter
    | reset p =>
      cases p with
      | test | signal | release => exact .inl rfl
      | _ => cases hafter
    | stopSet | invokeSet => cases hwriter
    | _ => exact .inl rfl
  · exact state_of_not_writer hm (Bool.eq_false_iff.2 hwriter)

theorem EventInv.stopped_moved (h : EventInv s) (hm : Moved lifeProgram t x s s') (hcalm : WriterCalm s')
    (hstopped : s'.mem.jhiState = .stopped) : s'.mem.initialized = false := by
  obtain hbefore | ⟨-, hfinishes⟩ := h.calm_before hm hcalm
  · obtain hsame | hstopping := h.state_of_calm hm hbefore
    · have hstate := hsame.symm.trans hstopped
      exact h.initialized_of_not_writer hm hbefore hstate (h.stopped hbefore hstate)
    · rw [hstopping] at hstopped
      cases hstopped
  · obtain ⟨hstate, -⟩ | ⟨-, hfalse⟩ := h.finished hm hfinishes
    · rw [hstate] at hstopped
      cases hstopped
    · exact hfalse

omit [DecidableEq τ] in
theorem LifePoint.Relies.settled_of_calm {p : LifePoint} {m : LifeGlobals} (h : p.Relies m) (hwriter : p.held.writer = true)
    (hcalm : p.calm = true) : m.Settled := by
  cases p with
  | testAgain | releaseWriter => exact h
  | init sync p =>
    cases p with
    | test => exact h
    | _ => cases hcalm
  | reset p =>
    cases p with
    | test | signal | release => exact h
    | closeSessions | wait => cases hwriter
    | _ => cases hcalm
  | _ => cases hwriter

omit [DecidableEq τ] in
theorem EventInv.settled_of_calm (h : EventInv s) (hcalm : WriterCalm s) : s.mem.Settled := by
  cases hwriter : s.writer with
  | none => exact h.guarded.free hwriter
  | some u => exact LifePoint.Relies.settled_of_calm (h.guarded.own u) ((h.writer_iff u).1 hwriter) (hcalm u hwriter)

theorem LifePoint.writes_false {p : LifePoint} (h : p.writesInitialized = some false) :
    p.held.writer = true ∧ p.calm = false ∨ (∃ q, p = .invokeDeinit q) ∨ p.recovering = true := by
  cases p with
  | init sync p => cases p <;> first | exact .inl ⟨rfl, rfl⟩ | cases h
  | reset p =>
    cases p with
    | deinit _ => exact .inl ⟨rfl, rfl⟩
    | _ => cases h
  | invokeDeinit p => exact .inr (.inl ⟨p, rfl⟩)
  | listener p =>
    cases p with
    | deinit _ | start _ => exact .inr (.inr rfl)
    | _ => cases h
  | _ => cases h

theorem EventInv.carried_of_calm (h : EventInv s) (hm : Moved lifeProgram t x s s') (hcalm : WriterCalm s)
    (hstate : s.mem.jhiState = .initialized) : Carried s' ∧
      (s'.mem.initialized = true ∨ ∃ u, (s'.point u).recovering = true ∨ (s'.point u).resetting = true) := by
  obtain ⟨hcarried, hgoes⟩ := h.carried hcalm hstate
  have hrelease : s.point t ≠ .reset .release := by
    intro hp
    have hphase := h.phase t
    rw [hp] at hphase
    exact hphase hstate
  have hopens : ∀ sync q, s.point t = .init sync (.events q) → q.opens = false := by
    intro sync q hp
    have hafter := hcalm t ((h.writer_iff t).2 (by rw [hp]; rfl))
    rw [hp] at hafter
    cases hafter
  refine ⟨h.carried_moved hm hcarried ((h.settled_of_calm hcalm).initialized hstate) hrelease hopens, ?_⟩
  have hset := (effect_of_moved hm).initialized
  -- a recovery of this thread goes on, or ends with a reset or with success
  have hrecovers : (s.point t).recovering = true →
      s'.mem.initialized = true ∨ (s'.point t).recovering = true ∨ (s'.point t).resetting = true := by
    intro hrec
    rw [hm.point_self]
    obtain hrec' | hreset | hended := @recovered_next x s.mem _ hrec
    · exact .inr (.inl hrec')
    · exact .inr (.inr hreset)
    · refine .inl ?_
      rw [hset, hended]
      rfl
  obtain htrue | ⟨u, hu⟩ := hgoes
  · cases hwrites : (s.point t).writesInitialized with
    | none =>
      rw [hwrites] at hset
      exact .inl (hset.trans htrue)
    | some b =>
      cases b with
      | true =>
        rw [hwrites] at hset
        exact .inl hset
      | false =>
        obtain ⟨hwriter, hnot⟩ | ⟨q, hq⟩ | hrec := LifePoint.writes_false hwrites
        · rw [hcalm t ((h.writer_iff t).2 hwriter)] at hnot
          cases hnot
        · have hstopping := h.invoked t q hq
          rw [hstate] at hstopping
          cases hstopping
        · exact (hrecovers hrec).imp_right fun hafter => ⟨t, hafter⟩
  · by_cases hut : u = t
    · subst hut
      obtain hrec | hreset := hu
      · exact (hrecovers hrec).imp_right fun hafter => ⟨u, hafter⟩
      · refine .inr ⟨u, .inr ?_⟩
        rw [hm.point_self]
        exact (resetting_next hreset).resolve_right hrelease
    · refine .inr ⟨u, ?_⟩
      rwa [hm.point_of_ne hut]

theorem EventInv.carried_of_moved (h : EventInv s) (hm : Moved lifeProgram t x s s') (hcalm : WriterCalm s')
    (hstate : s'.mem.jhiState = .initialized) : Carried s' ∧
      (s'.mem.initialized = true ∨ ∃ u, (s'.point u).recovering = true ∨ (s'.point u).resetting = true) := by
  obtain hbefore | ⟨-, hfinishes⟩ := h.calm_before hm hcalm
  · obtain hsame | hstopping := h.state_of_calm hm hbefore
    · exact h.carried_of_calm hm hbefore (hsame.symm.trans hstate)
    · rw [hstopping] at hstate
      cases hstate
  · obtain ⟨-, htrue, hcarried, hplugin, sync, hp⟩ | ⟨hne, -⟩ := h.finished hm hfinishes
    · refine ⟨h.carried_moved hm hcarried hplugin (by rw [hp]; simp) fun sync' q hq => ?_, .inl ?_⟩
      · cases hp.symm.trans hq
      · rw [(effect_of_moved hm).initialized, hp]
        exact htrue
    · exact absurd hstate hne

/-! ### The writers, point by point -/

omit [DecidableEq τ] in
theorem EventInv.no_reader (h : EventInv s) {u : τ} (hu : (s.point u).held.writer = true) (t : τ) :
    (s.point t).held.reader = false := by
  refine Bool.eq_false_iff.2 fun hreads => ?_
  have hsome := (h.writer_iff u).2 hu
  rw [h.guarded.holds.no_writer hreads] at hsome
  cases hsome

/-- The other threads leave the event manager alone while one writes. -/
theorem EventInv.initialized_of_writer (h : EventInv s) (hm : Moved lifeProgram t x s s') {u : τ} (hut : u ≠ t)
    (hu : (s.point u).held.writer = true) : s'.mem.initialized = s.mem.initialized ∧ (s.point t).held.writer = false := by
  have hnot : (s.point t).held.writer = false :=
    Bool.eq_false_iff.2 fun hwriter => hut (h.guarded.holds.writer_unique hwriter hu)
  have hrec : (s.point t).recovering = false := by
    refine Bool.eq_false_iff.2 fun hrec => ?_
    rw [h.not_writer_of_recovering hrec u] at hu
    cases hu
  have hreads := h.no_reader hu t
  refine ⟨?_, hnot⟩
  rw [(effect_of_moved hm).initialized]
  generalize s.point t = p at hnot hrec hreads
  cases p with
  | init => cases hnot
  | reset p =>
    cases p with
    | closeSessions | wait => rfl
    | _ => cases hnot
  | invokeDeinit => cases hreads
  | listener p =>
    cases p with
    | deinit | start => cases hrec
    | _ => rfl
  | _ => rfl

theorem EventInv.phase_of_ne (h : EventInv s) (hm : Moved lifeProgram t x s s') {u : τ} (hut : u ≠ t) :
    EventPhase s' (s'.point u) := by
  have hphase := h.phase u
  have hwait : (s.point u).held.writer = true → s'.mem.initialized = s.mem.initialized ∧ (s.point t).held.writer = false :=
    h.initialized_of_writer hm hut
  have hown : (s.point u).Relies s.mem := h.guarded.own u
  have hcarries : (s.point u).held.writer = true → Carried s → s.mem.pluginRegistered = true → Carried s' := by
    intro hwriter hcarried hplugin
    have hnot := (hwait hwriter).2
    refine h.carried_moved hm hcarried hplugin ?_ fun sync q hq => ?_
    · intro hp
      rw [hp] at hnot
      cases hnot
    · rw [hq] at hnot
      cases hnot
  -- who forgets the handle attends, and does so alone
  have hhandle : (s.point u).held.writer = true ∨ (s.point u).attends = true → s.mem.spoolerHandle ≠ none →
      s'.mem.spoolerHandle ≠ none := by
    intro hlock hsome
    obtain hsame | hforget | ⟨-, hsome'⟩ := (effect_of_moved hm).handle
    · rwa [hsame]
    · have hrec : (s.point t).recovering = true := by rw [hforget]; rfl
      have hattends : (s.point t).attends = true := by rw [hforget]; rfl
      obtain hwriter | hother := hlock
      · rw [h.not_writer_of_recovering hrec u] at hwriter
        cases hwriter
      · exact absurd (h.unique u t hother hattends) hut
    · exact hsome'
  rw [hm.point_of_ne hut]
  generalize s.point u = p at *
  cases p with
  | init sync p =>
    have hsame := (hwait rfl).1
    cases p with
    | test => trivial
    | events p =>
      cases p with
      | thread => exact ⟨hsame.trans hphase.1, hhandle (.inl rfl) hphase.2⟩
      | set b =>
        cases b with
        | true => exact hcarries rfl hphase hown.2
        | false => exact hsame.trans hphase
      | _ => exact hsame.trans hphase
    | updateApplets => exact ⟨hsame.trans hphase.1, hcarries rfl hphase.2 hown.2⟩
    | setInitialized => exact ⟨hsame.trans hphase.1, hcarries rfl hphase.2 hown.2⟩
    | _ => exact hsame.trans hphase
  | reset p =>
    cases p with
    | pluginTable | unregister | setStopped => exact (hwait rfl).1.trans hphase
    | signal | release =>
      obtain hsame | hstopping := state_of_not_writer hm (hwait rfl).2
      · show s'.mem.jhiState ≠ .initialized
        rw [hsame]
        exact hphase
      · show s'.mem.jhiState ≠ .initialized
        rw [hstopping]
        decide
    | _ => trivial
  | listener p =>
    cases p with
    | start p =>
      cases p with
      | thread => exact hhandle (.inr rfl) hphase
      | _ => trivial
    | _ => trivial
  | _ => trivial

omit [DecidableEq τ] in
theorem init_next {p : LifePoint} {m : LifeGlobals} {sync : Bool} {q : InitPoint} (h : (p.next x m).1 = .init sync q) :
    (∃ r, p = .init sync r ∧ (r.next x m).1 = .inl q) ∨ q = .test := by
  cases p with
  | idle =>
    simp only [LifePoint.next] at h
    cases hcall : x.call with
    | command | listener =>
      simp only [hcall] at h
      split_ifs at h
    | _ =>
      simp only [hcall] at h
      cases h
  | testAgain =>
    simp only [LifePoint.next] at h
    split_ifs at h
    cases h
    exact .inr rfl
  | init sync' r =>
    simp only [LifePoint.next] at h
    cases hr : r.next x m with
    | mk result m' =>
      rw [hr] at h
      cases result with
      | inl q' =>
        cases h
        exact .inl ⟨r, rfl, by rw [hr]⟩
      | inr b => cases h
  | reset p =>
    simp only [LifePoint.next] at h
    split at h <;> cases h
  | invokeDeinit p =>
    simp only [LifePoint.next] at h
    split at h <;> cases h
  | listener p =>
    cases p with
    | deinit p | start p =>
      simp only [LifePoint.next, JomListenerPoint.next] at h
      split at h <;> cases h
    | wait handle =>
      simp only [LifePoint.next, JomListenerPoint.next] at h
      cases hwait : x.wait <;> simp only [hwait] at h <;> cases h
    | pluginTable | test =>
      simp only [LifePoint.next, JomListenerPoint.next] at h
      split_ifs at h
    | _ => cases h
  | test | releaseWriter | ready | handler | stopTest | invokeTest | invokeComplete =>
    simp only [LifePoint.next] at h
    split_ifs at h
  | _ => cases h

omit [DecidableEq τ] in
theorem reset_next {p : LifePoint} {m : LifeGlobals} {q : ResetPoint} (h : (p.next x m).1 = .reset q) :
    (∃ r, p = .reset r ∧ (r.next m).1 = some q) ∨ q = .closeSessions := by
  cases p with
  | idle =>
    simp only [LifePoint.next] at h
    cases hcall : x.call with
    | command | listener =>
      simp only [hcall] at h
      split_ifs at h
    | reset =>
      simp only [hcall] at h
      cases h
      exact .inr rfl
    | _ =>
      simp only [hcall] at h
      cases h
  | init sync' r =>
    simp only [LifePoint.next] at h
    split at h <;> cases h
  | reset r =>
    simp only [LifePoint.next] at h
    cases hr : r.next m with
    | mk result m' =>
      rw [hr] at h
      cases result with
      | some q' =>
        cases h
        exact .inl ⟨r, rfl, by rw [hr]⟩
      | none => cases h
  | invokeDeinit p =>
    simp only [LifePoint.next] at h
    split at h <;> cases h
  | stopSet =>
    cases h
    exact .inr rfl
  | listener p =>
    cases p with
    | deinit p =>
      simp only [LifePoint.next, JomListenerPoint.next] at h
      split at h <;> cases h
    | start p =>
      rw [next_start_point] at h
      split at h
      all_goals cases h
      exact .inr rfl
    | wait handle =>
      simp only [LifePoint.next, JomListenerPoint.next] at h
      cases hwait : x.wait <;> simp only [hwait] at h <;> cases h
      exact .inr rfl
    | pluginTable =>
      simp only [LifePoint.next, JomListenerPoint.next] at h
      split_ifs at h
    | test =>
      simp only [LifePoint.next, JomListenerPoint.next] at h
      split_ifs at h
      cases h
      exact .inr rfl
    | _ => cases h
  | test | testAgain | releaseWriter | ready | handler | stopTest | invokeTest | invokeComplete =>
    simp only [LifePoint.next] at h
    split_ifs at h
  | _ => cases h

theorem EventInv.init_phase (h : EventInv s) (hm : Moved lifeProgram t x s s') {sync sync' : Bool} {p q : InitPoint}
    (hp : s.point t = .init sync p) (hq : (p.next x s.mem).1 = .inl q) : EventPhase s' (.init sync' q) := by
  have hphase := h.phase t
  have hset := (effect_of_moved hm).initialized
  have hmem : s'.mem = (p.next x s.mem).2 := by
    rw [hm.mem, hp]
    exact next_init_mem sync p
  have hcalm : p = .test → WriterCalm s := by
    intro htest u hu
    have hut := h.guarded.holds.writer_unique (t := t) (u := u) (by rw [hp]; rfl) ((h.writer_iff u).1 hu)
    rw [hut, hp, htest]
    rfl
  have hcarries : Carried s → s.mem.pluginRegistered = true → (∀ r, p = .events r → r.opens = false) → Carried s' := by
    intro hcarried hplugin hopens
    refine h.carried_moved hm hcarried hplugin (by rw [hp]; simp) fun sync r hr => hopens r ?_
    cases hp.symm.trans hr
    rfl
  have hown : p.Relies s.mem := by
    have hown : (s.point t).Relies s.mem := h.guarded.own t
    rwa [hp] at hown
  rw [hp] at hphase hset
  cases p with
  | test =>
    simp only [InitPoint.next] at hq
    split_ifs at hq with hstate
    cases hq
    exact hset.trans (h.stopped (hcalm rfl) (Classical.byContradiction hstate))
  | settings | vmType | deviceEvents | setTransport | pluginInit =>
    simp only [InitPoint.next] at hq
    split_ifs at hq <;> cases hq <;> exact hset.trans hphase
  | isRegistered | register | pluginTable | failedRegistered =>
    simp only [InitPoint.next] at hq
    split_ifs at hq <;> cases hq <;> exact hset.trans hphase
  | fwVersion | failed =>
    cases hq
    exact hset.trans hphase
  | updateApplets =>
    cases hq
    exact ⟨hset.trans hphase.1, hcarries hphase.2 hown.2 (by simp)⟩
  | setInitialized | unregister => cases hq
  | events p =>
    rw [next_events_mem] at hmem
    have hstep := @spoolerStep_next x s.mem p
    simp only [InitPoint.next] at hq
    cases hr : p.next x s.mem with
    | mk result m' =>
      rw [hr] at hq hstep hmem
      cases hstep with
      | refused htrue =>
        -- `jhis_init` does not find the event manager initialised
        rw [show s.mem.initialized = false from hphase] at htrue
        cases htrue
      | ended b =>
        cases b with
        | true =>
          have hafter : s'.mem.initialized = true ∧ Carried s' :=
            ⟨hset, hcarries hphase hown.2 fun r hr => by cases hr; rfl⟩
          dsimp only at hq
          split_ifs at hq <;> cases hq <;> exact hafter
        | false =>
          cases hq
          exact hset
      | created =>
        cases hq
        rw [EventPhase, Carried, hmem]
        exact .inl ⟨Nat.succ_ne_zero _, hphase.2⟩
      | goesOn hp' hq' hne hinit hnew hhandle hthread =>
        cases hq
        have hfalse : s'.mem.initialized = false := by
          rw [hmem]
          refine hinit.trans ?_
          cases p with
          | thread => exact hphase.1
          | set b => exact absurd rfl (hp' b)
          | _ => exact hphase
        rename_i q
        cases q with
        | thread =>
          refine ⟨hfalse, ?_⟩
          rw [hmem]
          exact hthread rfl
        | set b =>
          cases b with
          | true => exact absurd rfl hq'
          | false => exact hfalse
        | _ => exact hfalse

theorem EventInv.reset_phase (h : EventInv s) (hm : Moved lifeProgram t x s s') {p q : ResetPoint} (hp : s.point t = .reset p)
    (hq : (p.next s.mem).1 = some q) : EventPhase s' (.reset q) := by
  have hphase := h.phase t
  have heffect := effect_of_moved hm
  have hset := heffect.initialized
  have hstate := heffect.state
  rw [hp] at hphase hset hstate
  cases p with
  | test =>
    simp only [ResetPoint.next] at hq
    split_ifs at hq with hstopped
    · cases hq
      intro heq
      have hsame := hstate.symm.trans heq
      rw [hstopped] at hsame
      cases hsame
    · cases hq
      trivial
  | deinit p =>
    cases p with
    | clear =>
      cases hq
      exact hset
    | _ =>
      cases hq
      trivial
  | pluginTable =>
    simp only [ResetPoint.next] at hq
    split_ifs at hq <;> cases hq <;> exact hset.trans hphase
  | unregister =>
    cases hq
    exact hset.trans hphase
  | setStopped =>
    cases hq
    intro heq
    cases hstate.symm.trans heq
  | signal =>
    cases hq
    intro heq
    exact hphase (hstate.symm.trans heq)
  | release => cases hq
  | _ =>
    cases hq
    trivial

theorem EventInv.start_phase (hm : Moved lifeProgram t x s s') {q : JomListenerPoint} (hq : s'.point t = .listener q) :
    EventPhase s' (.listener q) := by
  have hthread : q = .start .thread → s'.mem.spoolerHandle ≠ none := by
    rintro rfl
    have hnext : (LifePoint.next x (s.point t) s.mem).1 = .listener (.start .thread) := hm.point_self.symm.trans hq
    have hmem : s'.mem = (LifePoint.next x (s.point t) s.mem).2 := hm.mem
    obtain ⟨r, hr⟩ | ⟨-, hstart, -⟩ := listener_next hnext
    · rw [hr] at hnext hmem
      cases r with
      | start p =>
        rw [next_start_point] at hnext
        rw [next_start_mem] at hmem
        have hstep := @spoolerStep_next x s.mem p
        cases hp : p.next x s.mem with
        | mk result m' =>
          rw [hp] at hnext hstep hmem
          rw [hmem]
          cases hstep with
          | refused | created => cases hnext
          | ended b => cases b <;> cases hnext
          | goesOn _ _ _ _ _ _ hthread =>
            cases hnext
            exact hthread rfl
      | deinit p =>
        simp only [LifePoint.next, JomListenerPoint.next] at hnext
        split at hnext <;> cases hnext
      | wait handle =>
        simp only [LifePoint.next, JomListenerPoint.next] at hnext
        cases hwait : x.wait <;> simp only [hwait] at hnext <;> cases hnext
      | pluginTable | test =>
        simp only [LifePoint.next, JomListenerPoint.next] at hnext
        split_ifs at hnext
        all_goals cases hnext
      | _ => cases hnext
    · cases hstart
  cases q with
  | start q =>
    cases q with
    | thread => exact hthread rfl
    | _ => trivial
  | _ => trivial

theorem EventInv.phase_moved (h : EventInv s) (hm : Moved lifeProgram t x s s') (u : τ) : EventPhase s' (s'.point u) := by
  by_cases hut : u = t
  · subst hut
    have hself : s'.point u = (LifePoint.next x (s.point u) s.mem).1 := hm.point_self
    cases hq : s'.point u with
    | init sync q =>
      obtain ⟨p, hp, hnext⟩ | rfl := init_next (hself.symm.trans hq)
      · exact h.init_phase hm hp hnext
      · trivial
    | reset q =>
      obtain ⟨p, hp, hnext⟩ | rfl := reset_next (hself.symm.trans hq)
      · exact h.reset_phase hm hp hnext
      · trivial
    | listener q => exact EventInv.start_phase hm hq
    | _ => trivial
  · exact h.phase_of_ne hm hut

/-! ### Runs -/

theorem EventInv.step (h : EventInv s) (c : τ × LifeAnswers) (hno : ¬CrossesRecovery c s) : EventInv (lifeStep c s) := by
  have hguarded := guarded_step h.guarded c
  obtain hsame | hm := step_eq_or_moved (P := lifeProgram) c s
  · rwa [lifeStep, hsame]
  · obtain ⟨t, x⟩ := c
    have hone := h.oneListener_moved hm hno
    exact {
      guarded := hguarded
      alone := h.alone_moved hm hno
      unique := hone.unique
      none_new := hone.none_new
      one_new := hone.one_new
      invoked := h.invoked_moved hm
      stopped := h.stopped_moved hm
      carried := h.carried_of_moved hm
      phase := h.phase_moved hm }

omit [DecidableEq τ] in
theorem eventInv_lifeStart : EventInv (lifeStart : LifeState τ) where
  guarded := guarded_lifeStart
  alone t ht := by cases ht
  unique t u ht := by cases ht
  none_new t ht := by cases ht
  one_new := Nat.zero_le 1
  invoked t p ht := by cases ht
  stopped _ _ := rfl
  carried _ hstate := by cases hstate
  phase _ := trivial

end Invariant

end DalHost

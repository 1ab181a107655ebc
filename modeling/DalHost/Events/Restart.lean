import DalHost.Events.FollowsState

/-!
# The event manager follows the state

A run that crosses no recovery leaves a service that can be stopped and initialised again. One that does may leave the
event manager initialised in a stopped service, which then stays stopped.
-/

namespace DalHost

section Follows

variable {τ : Type} {s : LifeState τ}

theorem LifePoint.calm_of_not_busy {p : LifePoint} (h : p.busy = false) : p.calm = true := by
  cases p with
  | init | reset => cases h
  | _ => rfl

theorem LifePoint.busy_of_recovering {p : LifePoint} (h : p.recovering = true ∨ p.resetting = true) : p.busy = true := by
  cases p with
  | reset => rfl
  | listener p => cases p <;> first | rfl | (obtain h | h := h <;> cases h)
  | _ => obtain h | h := h <;> cases h

theorem AtRest.calm (h : AtRest s) : WriterCalm s := fun t _ => LifePoint.calm_of_not_busy (h t)

theorem EventInv.follows (h : EventInv s) (hrest : AtRest s) (hstopping : s.mem.jhiState ≠ .stopping) :
    s.mem.initialized = true ↔ s.mem.jhiState = .initialized := by
  constructor
  · intro htrue
    cases hstate : s.mem.jhiState with
    | initialized => rfl
    | stopping => exact absurd hstate hstopping
    | stopped =>
      rw [h.stopped hrest.calm hstate] at htrue
      cases htrue
  · intro hstate
    obtain ⟨-, htrue | ⟨t, ht⟩⟩ := h.carried hrest.calm hstate
    · exact htrue
    · have hbusy := LifePoint.busy_of_recovering ht
      rw [hrest t] at hbusy
      cases hbusy

theorem LifePoint.Carries.live {p : LifePoint} {m : LifeGlobals} (h : p.Carries m) (hp : p.busy = false) :
    p.live = true ∧ m.spoolerHandle ≠ none ∧ ∀ handle, p = .listener (.wait handle) → handle = m.spoolerHandle := by
  cases p with
  | reset => cases hp
  | listener p =>
    cases p with
    | test | forget | deinit | start => cases hp
    | wait handle =>
      refine ⟨rfl, h.2, fun handle' heq => ?_⟩
      cases heq
      exact h.1
    | _ => exact ⟨rfl, h, fun _ heq => by cases heq⟩
  | _ => exact h.elim

theorem EventInv.served (h : EventInv s) (hrest : AtRest s) (hstate : s.mem.jhiState = .initialized) : ServedOnce s := by
  obtain ⟨⟨hnew, hsome⟩ | ⟨t, ht⟩, -⟩ := h.carried hrest.calm hstate
  · obtain ⟨handle, hhandle⟩ := Option.ne_none_iff_exists'.1 hsome
    have hone := h.one_new
    refine ⟨handle, hhandle, .inl ⟨by omega, fun t => Bool.eq_false_iff.2 fun hlive => ?_⟩⟩
    exact hnew (h.none_new t (LifePoint.attends_of_live hlive))
  · obtain ⟨hlive, hsome, hwait⟩ := ht.live (hrest t)
    obtain ⟨handle, hhandle⟩ := Option.ne_none_iff_exists'.1 hsome
    have hattends := LifePoint.attends_of_live hlive
    refine ⟨handle, hhandle, .inr ⟨h.none_new t hattends, t, hlive, fun handle' hp => ?_, fun u hu => ?_⟩⟩
    · exact (hwait handle' hp).trans hhandle
    · exact h.unique u t (LifePoint.attends_of_live hu) hattends

theorem alone_goodAnswers {m : LifeGlobals} (hstate : m.jhiState = .stopped) (hplugin : m.pluginRegistered = false)
    (hempty : m.TablesEmpty) (hfalse : m.initialized = false) (beihaiV2 : Bool) :
    lifeProgram.alone (goodAnswers beihaiV2) 2 (.idle, m) = some (.waitWriter true, m) ∧
      ∃ m', lifeProgram.alone (goodAnswers beihaiV2) 18 (.testAgain true, m) = some (.releaseWriter true true, m') ∧
        m'.jhiState = .initialized := by
  obtain ⟨jhiState, pluginRegistered, sessionList, appletTable, initialized, spoolerHandle, spoolerSessions, newListeners,
    resetComplete⟩ := m
  obtain ⟨hsessions, happlets⟩ := hempty
  dsimp only at hstate hplugin hsessions happlets hfalse
  subst hstate hplugin hsessions happlets hfalse
  refine ⟨rfl, ⟨.initialized, true, .empty, .empty, true, some spoolerSessions, spoolerSessions + 1, newListeners + 1,
    resetComplete⟩, ?_, rfl⟩
  -- the VM decides where the session is created and whether the applets are listed; the steps are as many
  cases beihaiV2 <;>
    simp [LockedProgram.alone, lifeProgram, LifePoint.op, LifePoint.next, InitPoint.next, SpoolerPoint.next,
      createSpoolerSession, goodAnswers, tablesShrink, OrdMap.keys, OrdMap.empty]

variable [DecidableEq τ]

/-- A thread that finds the service stopped and the locks free initialises it. -/
theorem EventInv.restarts (h : EventInv s) (hstopped : s.mem.jhiState = .stopped) (hwriter : s.writer = none)
    (hreaders : s.readers = []) {t : τ} (hidle : s.point t = .idle) (beihaiV2 : Bool) :
    (afterCalls lifeStep (List.replicate (2 + (1 + 18)) (t, goodAnswers beihaiV2)) s).mem.jhiState = .initialized := by
  have hcalm : WriterCalm s := fun u hu => by
    rw [hwriter] at hu
    cases hu
  obtain ⟨hempty, hplugin⟩ := (h.guarded.free hwriter).stopped hstopped
  obtain ⟨hbefore, m', hafter, hstate⟩ := alone_goodAnswers hstopped hplugin hempty (h.stopped hcalm hstopped) beihaiV2
  rw [List.replicate_add, afterCalls_append]
  rw [← hidle] at hbefore
  obtain ⟨hpoint, hmem, hwriter', hreaders'⟩ := afterCalls_alone hbefore
  change (afterCalls lifeStep _ (afterCalls (LockedThreads.step lifeProgram) _ s)).mem.jhiState = _
  generalize afterCalls (LockedThreads.step lifeProgram) _ s = s₁ at *
  -- the writer lock is free
  have htakes : lifeStep (t, goodAnswers beihaiV2) s₁ =
      { s₁.move lifeProgram (goodAnswers beihaiV2) t with writer := some t } := by
    have hop : lifeProgram.op (s₁.point t) = .takeWriter := by rw [hpoint]; rfl
    simp only [lifeStep, LockedThreads.step, hop]
    rw [if_pos ⟨hwriter'.trans hwriter, hreaders'.trans hreaders⟩]
  rw [List.replicate_add, afterCalls_append, List.replicate_one, afterCalls_cons, afterCalls_nil, htakes]
  have hrest : lifeProgram.alone (goodAnswers beihaiV2) 18
      ({ s₁.move lifeProgram (goodAnswers beihaiV2) t with writer := some t }.point t,
        { s₁.move lifeProgram (goodAnswers beihaiV2) t with writer := some t }.mem) =
      some (.releaseWriter true true, m') := by
    dsimp only
    rw [point_move_self, mem_move, hpoint, hmem]
    exact hafter
  have hend := (afterCalls_alone hrest).2.1
  change (afterCalls (LockedThreads.step lifeProgram) _ _).mem.jhiState = _
  rw [hend, hstate]

omit [DecidableEq τ] in
theorem SpoolerPoint.next_creates (x : LifeAnswers) (p : SpoolerPoint) (m : LifeGlobals) :
    ((p.next x m).1 = .inl .thread ↔ (p.next x m).2.spoolerSessions = m.spoolerSessions + 1) ∧
      ((p.next x m).1 = .inl (.set true) ↔ (p.next x m).2.newListeners = m.newListeners + 1) ∧
      ((p.next x m).1 = .inr true ↔ p = .set true) := by
  cases p with
  | firstSession | session =>
    simp only [SpoolerPoint.next, createSpoolerSession]
    split_ifs <;> simp
  | test | file | install =>
    simp only [SpoolerPoint.next]
    split_ifs <;> simp
  | thread =>
    simp only [SpoolerPoint.next]
    split_ifs <;> simp
  | set b => simp [SpoolerPoint.next]

theorem EventInv.eventsFollow (h : EventInv s) : EventsFollow s where
  follows := h.follows
  served := h.served
  fresh t sync hp := by
    have hphase := h.phase t
    rwa [hp] at hphase
  creates x p := p.next_creates x s.mem
  restarts hstopped hwriter hreaders _ hidle beihaiV2 := ⟨_, h.restarts hstopped hwriter hreaders hidle beihaiV2⟩

/-- In every run that crosses no recovery. -/
theorem event_manager_follows (steps : List (τ × LifeAnswers)) (h : Never lifeStep CrossesRecovery steps lifeStart) :
    Along lifeStep (fun _ s => EventsFollow s) steps lifeStart := by
  intro done hdone
  exact (invariant_of_never (fun c s hs hno => hs.step c hno) eventInv_lifeStart (h.before hdone)).eventsFollow

end Follows

/-! ### Crossing a recovery -/

section Crossed

/-- A listener whose spooler crashes at once. -/
def crashAnswers : LifeAnswers := { goodAnswers false with call := .listener, wait := .crashed }

def resetAnswers : LifeAnswers := { goodAnswers false with call := .reset }

/-- A command initialises the service, the spooler crashes, and the listener recovers it. -/
def recoveredRun : List (Fin 3 × LifeAnswers) :=
  List.replicate 29 (0, goodAnswers false) ++ List.replicate 16 (1, crashAnswers)

theorem never_recoveredRun : Never lifeStep CrossesRecovery recoveredRun lifeStart := by decide +kernel

/-- With a crash and a recovery. -/
theorem event_manager_follows_recovered : (afterCalls lifeStep recoveredRun lifeStart).mem.spoolerSessions = 2 ∧
    Along lifeStep (fun _ s => EventsFollow s) recoveredRun lifeStart :=
  ⟨by decide +kernel, event_manager_follows recoveredRun never_recoveredRun⟩

/-- A reset runs through between the listener's test of the state and its `Deinit`; the listener starts the event manager
while the next command is in `jhis_init`. -/
def crossedRun : List (Fin 3 × LifeAnswers) :=
  List.replicate 29 (0, goodAnswers false) ++ List.replicate 5 (1, crashAnswers) ++ List.replicate 14 (2, resetAnswers) ++
    List.replicate 3 (1, crashAnswers) ++ List.replicate 14 (0, goodAnswers false) ++ List.replicate 6 (1, crashAnswers) ++
    List.replicate 6 (0, goodAnswers false)

theorem crossedRun_stopped : (∀ t, ((afterCalls lifeStep crossedRun lifeStart).point t).busy = false) ∧
    (afterCalls lifeStep crossedRun lifeStart).mem.jhiState = .stopped ∧
    (afterCalls lifeStep crossedRun lifeStart).mem.initialized = true := by decide +kernel

theorem crossed_recovery_leaves_events :
    ¬∀ steps : List (Fin 3 × LifeAnswers), Along lifeStep (fun _ s => EventsFollow s) steps lifeStart := by
  intro h
  obtain ⟨hrest, hstopped, htrue⟩ := crossedRun_stopped
  have hfollows := (h crossedRun crossedRun List.prefix_rfl).follows hrest (by rw [hstopped]; decide)
  rw [hstopped, htrue] at hfollows
  cases hfollows.1 rfl

/-- The next command does not initialise it, whatever succeeds. -/
example : (afterCalls lifeStep (crossedRun ++ List.replicate 20 (0, goodAnswers false)) lifeStart).point 0 = .idle ∧
    (afterCalls lifeStep (crossedRun ++ List.replicate 20 (0, goodAnswers false)) lifeStart).mem.jhiState = .stopped := by
  decide +kernel

end Crossed

end DalHost

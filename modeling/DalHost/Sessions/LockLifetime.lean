import DalHost.Sessions.SessionLocks

/-!
# The life of a session lock

`GetSessionLock` leaves `_locker` with a pointer to the lock of the session and takes the lock afterwards. `remove`
deletes that lock. A thread that fetched the pointer before and takes the lock after that uses an object that is
gone, and so does its `UnLock` when it finds that the session is no longer there. Nothing else goes wrong: a run is free of such uses
exactly if no record is removed while another thread has the pointer.
-/

namespace DalHost

section Lifetime

variable {τ : Type} [DecidableEq τ]

/-- No record has, no thread waits for or is about to release, and no thread holds a lock that was deleted. -/
structure LocksAlive {τ : Type} [DecidableEq τ] (st : LockState τ) : Prop where
  record : ∀ s lock, st.sessionLock s = some lock → st.deleted lock = false
  pointer : ∀ t s lock, (st.points t).pointer = some (s, lock) → st.deleted lock = false
  held : ∀ t lock, (st.locks lock).count t ≠ 0 → st.deleted lock = false

/-- A thread removes a record whose lock another thread has fetched. -/
def DeletesAwaited (step : LockStep τ) (st : LockState τ) : Prop :=
  ∃ t c s lock, step = .act t c ∧ (st.points t = .crashRemove s ∨ st.points t = .closeRemove s) ∧
    st.sessionLock s = some lock ∧ ∃ u x, u ≠ t ∧ (st.points u).pointer = some (x, lock)

/-! ### What a step does to the locks -/

/-- A step that neither creates nor removes a record. -/
structure PlainMove (st st' : LockState τ) (t : τ) : Prop where
  deleted : st'.deleted = st.deleted
  sessionLock : st'.sessionLock = st.sessionLock
  allocated : st'.allocated = st.allocated
  others : ∀ u, u ≠ t → st'.points u = st.points u
  pointer : ∀ s lock, (st'.points t).pointer = some (s, lock) →
    (st.points t).pointer = some (s, lock) ∨ st.sessionLock s = some lock

variable {st : LockState τ} {t : τ}

omit [DecidableEq τ] in
theorem PlainMove.refl : PlainMove st st t := ⟨rfl, rfl, rfl, fun _ _ => rfl, fun _ _ h => Or.inl h⟩

theorem PlainMove.goto {p : HandlerPoint} (hpointer : ∀ s lock, p.pointer = some (s, lock) →
    (st.points t).pointer = some (s, lock) ∨ st.sessionLock s = some lock) : PlainMove st (st.goto t p) t where
  deleted := rfl
  sessionLock := rfl
  allocated := rfl
  others _ hu := goto_points_of_ne hu p
  pointer s lock h := by
    rw [goto_points_self] at h
    exact hpointer s lock h

theorem PlainMove.away {p : HandlerPoint} (hpointer : p.pointer = none) : PlainMove st (st.goto t p) t := by
  apply PlainMove.goto
  intro s lock h
  rw [hpointer] at h
  cases h

theorem PlainMove.lock {p : HandlerPoint} {lock : Nat} {l : RecursiveLock τ} (h : PlainMove st (st.goto t p) t) :
    PlainMove st ((st.setLock lock l).goto t p) t := ⟨h.deleted, h.sessionLock, h.allocated, h.others, h.pointer⟩

theorem act_cases [Fintype τ] (st : LockState τ) (t : τ) (c : HandlerChoice) :
    PlainMove st (st.act t c) t ∨ (∃ s, st.act t c = st.add s) ∨
      ∃ s q, (st.points t = .crashRemove s ∨ st.points t = .closeRemove s) ∧ q.pointer = none ∧
        st.act t c = (st.remove t s).goto t q := by
  have hrelease : ∀ s q, q.pointer = none → PlainMove st ((st.releaseSessionLock t s).goto t q) t := by
    intro s q hq
    unfold LockState.releaseSessionLock
    cases st.sessionLock s with
    | none => exact .away hq
    | some lock => exact .lock (.away hq)
  have hfailed : ∀ (site : LockSite) s, (site.failed s).pointer = none := by
    intro site s
    cases site <;> rfl
  unfold LockState.act
  cases hp : st.points t with
  | idle =>
    refine Or.inl ?_
    show PlainMove st (st.begin t c) t
    unfold LockState.begin
    cases c with
    | sendAndRecieve s => exact .away rfl
    | command =>
      dsimp only
      split_ifs
      · have hmove : PlainMove st (st.goto t .serving) t := .away rfl
        exact ⟨hmove.deleted, hmove.sessionLock, hmove.allocated, hmove.others, hmove.pointer⟩
      · exact .refl
    | close | create | finish | yes | no => exact .refl
  | serving =>
    show PlainMove st (st.serve t c) t ∨ (∃ s, st.serve t c = st.add s) ∨ _
    unfold LockState.serve
    cases c with
    | close s force => exact Or.inl (.away rfl)
    | create s =>
      dsimp only
      split_ifs
      · exact Or.inr (Or.inl ⟨s, rfl⟩)
      · exact Or.inl .refl
    | finish =>
      have hmove : PlainMove st (st.goto t .idle) t := .away rfl
      exact Or.inl ⟨hmove.deleted, hmove.sessionLock, hmove.allocated, hmove.others, hmove.pointer⟩
    | sendAndRecieve | command | yes | no => exact Or.inl .refl
  | sarInfo s | closeInfo s force | crashInfo s | sarHandle s | closeHandle s | forcedHandle s | sarPlugin s | closePlugin s =>
    refine Or.inl (.away ?_)
    split_ifs <;> rfl
  | forcedPlugin s => exact Or.inl (.away rfl)
  | fetch site s =>
    refine Or.inl ?_
    dsimp only
    cases hs : st.sessionLock s with
    | none => exact .away (hfailed site s)
    | some lock =>
      apply PlainMove.goto
      intro x l hx
      cases hx
      exact Or.inr hs
  | wait site s lock =>
    refine Or.inl ?_
    dsimp only
    split_ifs
    · apply PlainMove.lock
      apply PlainMove.goto
      intro x l hx
      rw [hp]
      exact Or.inl hx
    · exact .refl
  | check site s lock =>
    refine Or.inl ?_
    dsimp only
    split_ifs
    · apply PlainMove.away
      cases site with
      | sar | crash | close => rfl
      | forced =>
        unfold LockSite.locked
        dsimp only
        split_ifs <;> rfl
    · exact .lock (.away (hfailed site s))
  | crashRemove s => exact Or.inr (Or.inr ⟨s, _, Or.inl rfl, rfl, rfl⟩)
  | closeRemove s => exact Or.inr (Or.inr ⟨s, _, Or.inr rfl, rfl, rfl⟩)
  | sarRelease s => exact Or.inl (hrelease s _ rfl)
  | closeRelease s => exact Or.inl (hrelease s _ rfl)

/-! ### The invariant -/

/-- The locks are accounted for, alive, and only allocated locks were deleted. -/
structure LifetimeInv (st : LockState τ) : Prop where
  locks : LockInv st
  alive : LocksAlive st
  deleted : ∀ lock, st.deleted lock = true → lock < st.allocated

theorem lifetimeInv_start : LifetimeInv (LockState.start : LockState τ) where
  locks := lockInv_start
  alive := ⟨fun _ _ _ => rfl, fun _ _ _ _ => rfl, fun _ _ _ => rfl⟩
  deleted _ h := nomatch h

theorem LockInv.alive (h : LockInv st) (hrecord : ∀ s lock, st.sessionLock s = some lock → st.deleted lock = false)
    (hpointer : ∀ t s lock, (st.points t).pointer = some (s, lock) → st.deleted lock = false) : LocksAlive st := by
  refine ⟨hrecord, hpointer, fun t lock hcount => ?_⟩
  rw [h.counts t lock] at hcount
  unfold HandlerPoint.holds at hcount
  by_cases hs : (st.points t).session.bind st.sessionLock = some lock
  · obtain ⟨s, -, hs⟩ := Option.bind_eq_some_iff.1 hs
    exact hrecord s lock hs
  by_cases htaken : (st.points t).taken = some lock
  · cases hp : st.points t with
    | check site s l =>
      rw [hp] at htaken
      obtain rfl := Option.some.inj htaken
      exact hpointer t s l (by rw [hp]; rfl)
    | _ =>
      rw [hp] at htaken
      cases htaken
  · rw [if_neg hs, if_neg htaken] at hcount
    exact absurd rfl hcount

theorem LifetimeInv.plain (h : LifetimeInv st) {st' : LockState τ} (hlocks : LockInv st') (hmove : PlainMove st st' t) :
    LifetimeInv st' where
  locks := hlocks
  alive := by
    apply hlocks.alive
    · intro s lock hs
      rw [hmove.sessionLock] at hs
      rw [hmove.deleted]
      exact h.alive.record s lock hs
    · intro u s lock hu
      rw [hmove.deleted]
      by_cases hut : u = t
      · subst hut
        rcases hmove.pointer s lock hu with hold | hs
        · exact h.alive.pointer u s lock hold
        · exact h.alive.record s lock hs
      · rw [hmove.others u hut] at hu
        exact h.alive.pointer u s lock hu
  deleted lock hlock := by
    rw [hmove.deleted] at hlock
    rw [hmove.allocated]
    exact h.deleted lock hlock

theorem LifetimeInv.added (h : LifetimeInv st) {s : SessionId} (hlocks : LockInv (st.add s)) : LifetimeInv (st.add s) where
  locks := hlocks
  alive := by
    refine hlocks.alive (fun x lock hx => ?_) h.alive.pointer
    show st.deleted lock = false
    by_cases hxs : x = s
    · subst hxs
      have hnew : lock = st.allocated := (Option.some.inj ((Function.update_self x _ st.sessionLock).symm.trans hx)).symm
      cases hdeleted : st.deleted lock with
      | false => rfl
      | true =>
        have hlt := h.deleted lock hdeleted
        omega
    · exact h.alive.record x lock ((Function.update_of_ne hxs _ _).symm.trans hx)
  deleted lock hlock := Nat.lt_succ_of_lt (h.deleted lock hlock)

theorem remove_eq {s : SessionId} {lock : Nat} (hs : st.sessionLock s = some lock) :
    st.remove t s = { st with
      sessionLock := Function.update st.sessionLock s none
      locks := Function.update st.locks lock (((st.locks lock).release t).release t)
      deleted := Function.update st.deleted lock true } := by
  unfold LockState.remove
  rw [hs]

theorem LifetimeInv.removed (h : LifetimeInv st) {s : SessionId} {lock : Nat} {q : HandlerPoint}
    (hs : st.sessionLock s = some lock) (hq : q.pointer = none) (hlocks : LockInv ((st.remove t s).goto t q))
    (halone : ∀ u x, u ≠ t → (st.points u).pointer ≠ some (x, lock)) : LifetimeInv ((st.remove t s).goto t q) := by
  rw [remove_eq hs] at hlocks ⊢
  have hdeleted : ∀ l, l ≠ lock → st.deleted l = false → Function.update st.deleted lock true l = false := by
    intro l hl hold
    rw [Function.update_of_ne hl]
    exact hold
  refine ⟨hlocks, hlocks.alive (fun x l hx => ?_) (fun u x l hu => ?_), fun l hl => ?_⟩
  · have hxs : x ≠ s := by
      rintro rfl
      have hnone : Function.update st.sessionLock x none x = none := Function.update_self _ _ _
      exact Option.some_ne_none l (hx.symm.trans hnone)
    have hold : st.sessionLock x = some l := (Function.update_of_ne hxs _ _).symm.trans hx
    refine hdeleted l ?_ (h.alive.record x l hold)
    rintro rfl
    exact hxs (h.locks.distinct x s l hold hs)
  · by_cases hut : u = t
    · subst hut
      rw [goto_points_self, hq] at hu
      cases hu
    · rw [goto_points_of_ne hut] at hu
      refine hdeleted l ?_ (h.alive.pointer u x l hu)
      rintro rfl
      exact halone u x hut hu
  · show l < st.allocated
    by_cases hll : l = lock
    · rw [hll]
      exact h.locks.allocated s lock hs
    · exact h.deleted l ((Function.update_of_ne hll _ _).symm.trans hl)

theorem LifetimeInv.reset [Fintype τ] (h : LifetimeInv st) : LifetimeInv st.reset := by
  have hlocks := lockInv_reset h.locks
  unfold LockState.reset at hlocks ⊢
  split_ifs at hlocks ⊢ with hidle
  · refine ⟨hlocks, hlocks.alive ?_ ?_, fun lock hlock => ?_⟩
    · intro _ _ hs
      cases hs
    · intro u s lock hu
      have hpoint : (st.points u).pointer = some (s, lock) := hu
      rw [hidle u] at hpoint
      cases hpoint
    · rcases (Bool.or_eq_true _ _).mp hlock with hold | hnew
      · exact h.deleted lock hold
      · exact of_decide_eq_true hnew
  · exact h

/-- Every step but a removal under another thread's eyes keeps the locks alive. -/
theorem lifetimeInv_step [Fintype τ] (step : LockStep τ) (st : LockState τ) (h : LifetimeInv st) (hharm : ¬DeletesAwaited step st) :
    LifetimeInv (lockStep step st) := by
  cases step with
  | reset => exact h.reset
  | act t c =>
    have hlocks : LockInv (st.act t c) := lockInv_act h.locks t c
    show LifetimeInv (st.act t c)
    rcases act_cases st t c with hmove | ⟨s, hadd⟩ | ⟨s, q, hp, hq, hremove⟩
    · exact h.plain hlocks hmove
    · rw [hadd] at hlocks ⊢
      exact h.added hlocks
    · have hinside : (st.points t).inside = some s := by
        rcases hp with hp | hp <;> rw [hp] <;> rfl
      obtain ⟨lock, hs⟩ := Option.ne_none_iff_exists'.1 (h.locks.present t s hinside)
      rw [hremove] at hlocks ⊢
      exact h.removed hs hq hlocks fun u x hu hpointer => hharm ⟨t, c, s, lock, rfl, hp, hs, u, x, hu, hpointer⟩

/-- After such a removal another thread is left with the lock. -/
theorem not_alive_of_deletesAwaited [Fintype τ] {step : LockStep τ} (hharm : DeletesAwaited step st) : ¬LocksAlive (lockStep step st) := by
  obtain ⟨t, c, s, lock, rfl, hp, hs, u, x, hu, hpointer⟩ := hharm
  have hstep : ∃ q, lockStep (.act t c) st = (st.remove t s).goto t q := by
    show ∃ q, st.act t c = _
    unfold LockState.act
    rcases hp with hp | hp
    · rw [hp]
      exact ⟨_, rfl⟩
    · rw [hp]
      exact ⟨_, rfl⟩
  obtain ⟨q, hstep⟩ := hstep
  rw [hstep, remove_eq hs]
  intro halive
  have hdead := halive.pointer u x lock (by rw [goto_points_of_ne hu]; exact hpointer)
  have hdeleted : Function.update st.deleted lock true lock = true := Function.update_self _ _ _
  exact absurd (hdead.symm.trans hdeleted) Bool.false_ne_true

end Lifetime

/-- No thread ever has to do with a deleted lock, in a run, exactly if no record is removed in it while another thread has
fetched the lock of the session. -/
theorem locks_alive_iff {τ : Type} [DecidableEq τ] [Fintype τ] (steps : List (LockStep τ)) :
    Along lockStep (fun _ st => LocksAlive st) steps (LockState.start : LockState τ) ↔
      Never lockStep DeletesAwaited steps (LockState.start : LockState τ) := by
  refine along_iff_never lifetimeInv_step lifetimeInv_start (fun steps h => ?_) (fun _ step st _ hharm => ?_) steps
  · exact (invariant_of_never lifetimeInv_step lifetimeInv_start h).alive
  · exact not_alive_of_deletesAwaited hharm

/-- A close is waiting for the lock of a session when the session crashes. -/
def crashUnderClose : List (LockStep Bool) :=
  [.act true .command, .act true (.create (.replicate 7)),
    -- SEND_AND_RECIEVE up to the call of the plugin
    .act false (.sendAndRecieve (.replicate 7)), .act false .no, .act false .no, .act false .no, .act false .no, .act false .no,
    -- the close fetches the lock
    .act true (.close (.replicate 7) false), .act true .yes, .act true .no,
    -- the session crashes; its record is removed and the lock deleted
    .act false .yes, .act false .no, .act false .no, .act false .no, .act false .no, .act false .no,
    -- the close takes the lock
    .act true .no]

theorem deleted_lock_is_taken :
    (afterCalls lockStep crashUnderClose LockState.start).points true = .check .close (.replicate 7) 0 ∧
    (afterCalls lockStep crashUnderClose LockState.start).deleted 0 = true ∧
    ((afterCalls lockStep crashUnderClose LockState.start).locks 0).count true = 1 ∧
    ¬Along lockStep (fun _ st => LocksAlive st) crashUnderClose LockState.start := by
  have hpoint : (afterCalls lockStep crashUnderClose LockState.start).points true = .check .close (.replicate 7) 0 := by
    decide +kernel
  have hdeleted : (afterCalls lockStep crashUnderClose LockState.start).deleted 0 = true := by decide +kernel
  refine ⟨hpoint, hdeleted, by decide +kernel, fun h => ?_⟩
  have halive := (h crashUnderClose List.prefix_rfl).pointer true (.replicate 7) 0 (by rw [hpoint]; rfl)
  exact absurd (halive.symm.trans hdeleted) Bool.false_ne_true

end DalHost

import DalHost.Lib.Calls
import DalHost.Lib.RecursiveLock
import DalHost.Service.State
import Mathlib.Data.Fintype.Basic
import Mathlib.Logic.Function.Basic

/-!
# Session locks between threads

`SEND_AND_RECIEVE` runs outside the mutex that serialises the other commands, so what keeps two commands off
one session is the lock in its record. Here the handlers of `SEND_AND_RECIEVE` and the closes of the other commands
run in threads, one critical section of the session manager a step. The VM is whatever it likes: where its answer
decides how a command goes on, the schedule chooses. The plugin stays registered.

`GetSessionLock` is three steps: the lock is fetched under `_locker`, taken after leaving it, and then the session is
looked up once more. A lock is an object with an identity of its own; `remove` unlocks and deletes it. A deleted lock
is still a mutex in this model, and `deleted` tells which ones they are.
-/

namespace DalHost

/-! ### Threads -/

/-- The calls of `GetSessionLock`. -/
inductive LockSite
  /-- In `jhis_txrx_raw`. -/
  | sar
  /-- In the close of a session that crashed in `jhis_txrx_raw`. -/
  | crash
  /-- In a close that is not forced. -/
  | close
  /-- In a forced close, after the VM has closed the session. -/
  | forced
  deriving DecidableEq

/-- Where a thread stands: the next step is the one that is named. -/
inductive HandlerPoint
  /-- Outside any command. -/
  | idle
  /-- In a command under the mutex, between two operations of it. -/
  | serving
  /-- `getSessionInfo`, in `jhis_txrx_raw`. -/
  | sarInfo (s : SessionId)
  /-- `getSessionInfo` and the decision, in `jhis_close_session`. -/
  | closeInfo (s : SessionId) (force : Bool)
  /-- `getSessionInfo`, in the close of a crashed session. -/
  | crashInfo (s : SessionId)
  /-- `GetSessionLock`: fetch the lock under `_locker`. -/
  | fetch (site : LockSite) (s : SessionId)
  /-- `GetSessionLock`: take the lock. -/
  | wait (site : LockSite) (s : SessionId) (lock : Nat)
  /-- `GetSessionLock`: look up the session again. -/
  | check (site : LockSite) (s : SessionId) (lock : Nat)
  /-- `getVMSessionHandle`. -/
  | sarHandle (s : SessionId)
  | closeHandle (s : SessionId)
  | forcedHandle (s : SessionId)
  /-- In the plugin: `JHI_Plugin_SendAndRecv`, `JHI_Plugin_CloseSession`, `JHI_Plugin_ForceCloseSession`. -/
  | sarPlugin (s : SessionId)
  | closePlugin (s : SessionId)
  | forcedPlugin (s : SessionId)
  /-- `remove`. -/
  | crashRemove (s : SessionId)
  | closeRemove (s : SessionId)
  /-- `ReleaseSessionLock`. -/
  | sarRelease (s : SessionId)
  | closeRelease (s : SessionId)
  deriving DecidableEq

/-- What the schedule chooses for a thread. -/
inductive HandlerChoice
  | sendAndRecieve (s : SessionId)
  /-- Enter the command mutex with another command. -/
  | command
  | close (s : SessionId) (force : Bool)
  | create (s : SessionId)
  | finish
  /-- The session is to be removed; the VM closed it; it crashed. -/
  | yes
  | no
  deriving DecidableEq

structure LockState (τ : Type) where
  /-- The `sessionLock` of each record, by session. -/
  sessionLock : SessionId → Option Nat
  locks : Nat → RecursiveLock τ
  /-- The locks below this one were allocated. -/
  allocated : Nat
  deleted : Nat → Bool
  points : τ → HandlerPoint
  /-- The thread in `_jhiMutex`. -/
  jhiMutex : Option τ

section Steps

variable {τ : Type} [DecidableEq τ]

/-- No session, and no command is running. -/
def LockState.start : LockState τ where
  sessionLock _ := none
  locks _ := .free
  allocated := 0
  deleted _ := false
  points _ := .idle
  jhiMutex := none

namespace LockState

def goto (st : LockState τ) (t : τ) (p : HandlerPoint) : LockState τ :=
  { st with points := Function.update st.points t p }

def setLock (st : LockState τ) (lock : Nat) (l : RecursiveLock τ) : LockState τ :=
  { st with locks := Function.update st.locks lock l }

/-- `isSessionPresent`. -/
def present (st : LockState τ) (s : SessionId) : Bool := (st.sessionLock s).isSome

/-- `add`: the record of a new session, with a new lock. -/
def add (st : LockState τ) (s : SessionId) : LockState τ :=
  { st with
    sessionLock := Function.update st.sessionLock s (some st.allocated)
    locks := Function.update st.locks st.allocated .free
    allocated := st.allocated + 1 }

/-- `remove`: the lock is unlocked, and unlocked once more by its destructor. -/
def remove (st : LockState τ) (t : τ) (s : SessionId) : LockState τ :=
  match st.sessionLock s with
  | none => st
  | some lock =>
    { st with
      sessionLock := Function.update st.sessionLock s none
      locks := Function.update st.locks lock (((st.locks lock).release t).release t)
      deleted := Function.update st.deleted lock true }

/-- `ReleaseSessionLock`. -/
def releaseSessionLock (st : LockState τ) (t : τ) (s : SessionId) : LockState τ :=
  match st.sessionLock s with
  | none => st
  | some lock => st.setLock lock ((st.locks lock).release t)

end LockState

/-- The session that a thread works on. -/
def HandlerPoint.session : HandlerPoint → Option SessionId
  | .idle | .serving => none
  | .sarInfo s | .closeInfo s _ | .crashInfo s | .fetch _ s | .wait _ s _ | .check _ s _ | .sarHandle s | .closeHandle s
  | .forcedHandle s | .sarPlugin s | .closePlugin s | .forcedPlugin s | .crashRemove s | .closeRemove s | .sarRelease s
  | .closeRelease s => some s

/-- After a `GetSessionLock` that failed. `jhis_txrx_raw` calls `ReleaseSessionLock` all the same. -/
def LockSite.failed (site : LockSite) (s : SessionId) : HandlerPoint :=
  match site with
  | .sar | .crash => .sarRelease s
  | .close | .forced => .serving

/-- After a `GetSessionLock` that succeeded; the VM's answer to a forced close decides here. -/
def LockSite.locked (site : LockSite) (s : SessionId) (c : HandlerChoice) : HandlerPoint :=
  match site with
  | .sar => .sarHandle s
  | .crash => .crashRemove s
  | .close => .closeHandle s
  | .forced => if c = .yes then .closeRemove s else .closeRelease s

variable [Fintype τ]

/-- The id of a new session is not in the table, and no command that is running was given it. -/
def LockState.Unused (st : LockState τ) (s : SessionId) : Prop :=
  st.sessionLock s = none ∧ ∀ u, (st.points u).session ≠ some s

instance (st : LockState τ) (s : SessionId) : Decidable (st.Unused s) :=
  inferInstanceAs (Decidable (st.sessionLock s = none ∧ ∀ u, (st.points u).session ≠ some s))

/-- A command under the mutex begins another operation or ends. -/
def LockState.serve (st : LockState τ) (t : τ) (c : HandlerChoice) : LockState τ :=
  match c with
  | .close s force => st.goto t (.closeInfo s force)
  | .create s => if st.Unused s then st.add s else st
  | .finish => { st.goto t .idle with jhiMutex := none }
  | _ => st

/-- A command begins. -/
def LockState.begin (st : LockState τ) (t : τ) (c : HandlerChoice) : LockState τ :=
  match c with
  | .sendAndRecieve s => st.goto t (.sarInfo s)
  | .command => if st.jhiMutex = none then { st.goto t .serving with jhiMutex := some t } else st
  | _ => st

/-- The next step of a thread; a thread that has to wait stays where it is. -/
def LockState.act (st : LockState τ) (t : τ) (c : HandlerChoice) : LockState τ :=
  match st.points t with
  | .idle => st.begin t c
  | .serving => st.serve t c
  | .sarInfo s => st.goto t (if st.present s then .fetch .sar s else .idle)
  | .closeInfo s force =>
    st.goto t (if st.present s ∧ c = .yes then (if force then .forcedHandle s else .fetch .close s) else .serving)
  | .crashInfo s => st.goto t (if st.present s then .fetch .crash s else .sarRelease s)
  | .fetch site s =>
    match st.sessionLock s with
    | none => st.goto t (site.failed s)
    | some lock => st.goto t (.wait site s lock)
  | .wait site s lock =>
    if (st.locks lock).available t then (st.setLock lock ((st.locks lock).acquire t)).goto t (.check site s lock) else st
  | .check site s lock =>
    if st.present s then st.goto t (site.locked s c)
    else (st.setLock lock ((st.locks lock).release t)).goto t (site.failed s)
  | .sarHandle s => st.goto t (if st.present s then .sarPlugin s else .sarRelease s)
  | .closeHandle s => st.goto t (if st.present s then .closePlugin s else .serving)
  | .forcedHandle s => st.goto t (if st.present s then .forcedPlugin s else .serving)
  | .sarPlugin s => st.goto t (if c = .yes then .crashInfo s else .sarRelease s)
  | .closePlugin s => st.goto t (if c = .yes then .closeRemove s else .closeRelease s)
  | .forcedPlugin s => st.goto t (.fetch .forced s)
  | .crashRemove s => (st.remove t s).goto t (.sarRelease s)
  | .closeRemove s => (st.remove t s).goto t .serving
  | .sarRelease s => (st.releaseSessionLock t s).goto t .idle
  | .closeRelease s => (st.releaseSessionLock t s).goto t .serving

/-- `resetSessionManager`, once no command is running: the table is cleared and its locks are given up. -/
def LockState.reset (st : LockState τ) : LockState τ :=
  if ∀ u, st.points u = .idle then
    { st with sessionLock := fun _ => none, deleted := fun lock => st.deleted lock || decide (lock < st.allocated) }
  else st

inductive LockStep (τ : Type)
  | act (t : τ) (c : HandlerChoice)
  | reset

def lockStep (step : LockStep τ) (st : LockState τ) : LockState τ :=
  match step with
  | .act t c => st.act t c
  | .reset => st.reset

end Steps

/-! ### Who holds which lock -/

/-- How often a thread at this point holds the lock in the record of its session, if there is a record. -/
def HandlerPoint.recorded : HandlerPoint → Nat
  | .crashRemove _ => 2
  | .crashInfo _ | .fetch .crash _ | .wait .crash _ _ | .check .crash _ _ | .sarHandle _ | .closeHandle _ | .sarPlugin _
  | .closePlugin _ | .closeRemove _ | .sarRelease _ | .closeRelease _ => 1
  | _ => 0

/-- The lock that `GetSessionLock` has just taken. -/
def HandlerPoint.taken : HandlerPoint → Option Nat
  | .check _ _ lock => some lock
  | _ => none

/-- How often a thread at this point holds a lock. -/
def HandlerPoint.holds (table : SessionId → Option Nat) (lock : Nat) (p : HandlerPoint) : Nat :=
  p.recorded * (if p.session.bind table = some lock then 1 else 0) + if p.taken = some lock then 1 else 0

/-- The session whose lock the thread holds for certain: the record cannot go away. -/
def HandlerPoint.inside : HandlerPoint → Option SessionId
  | .crashInfo s | .fetch .crash s | .wait .crash s _ | .check .crash s _ | .sarHandle s | .closeHandle s | .sarPlugin s
  | .closePlugin s | .crashRemove s | .closeRemove s | .closeRelease s => some s
  | _ => none

/-- The lock that the thread has fetched and waits for, or has just taken. -/
def HandlerPoint.pointer : HandlerPoint → Option (SessionId × Nat)
  | .wait _ s lock | .check _ s lock => some (s, lock)
  | _ => none

section Holding

variable {table table' : SessionId → Option Nat} {lock : Nat} {s : SessionId} {p : HandlerPoint}

theorem holds_mono (h : ∀ x, table' x = some lock → table x = some lock) : p.holds table' lock ≤ p.holds table lock := by
  have hbind : p.session.bind table' = some lock → p.session.bind table = some lock := by
    cases p.session with
    | none => exact id
    | some x => exact h x
  unfold HandlerPoint.holds
  by_cases hx : p.session.bind table' = some lock
  · rw [if_pos hx, if_pos (hbind hx)]
  · rw [if_neg hx]
    omega

theorem holds_congr (h : ∀ x, table' x = some lock ↔ table x = some lock) : p.holds table' lock = p.holds table lock :=
  Nat.le_antisymm (holds_mono fun x hx => (h x).1 hx) (holds_mono fun x hx => (h x).2 hx)

theorem holds_update_of_ne (h : p.session ≠ some s) (v : Option Nat) :
    p.holds (Function.update table s v) lock = p.holds table lock := by
  have hbind : p.session.bind (Function.update table s v) = p.session.bind table := by
    cases hx : p.session with
    | none => rfl
    | some x =>
      have hne : x ≠ s := fun heq => h (heq ▸ hx)
      exact Function.update_of_ne hne _ _
  unfold HandlerPoint.holds
  rw [hbind]

theorem inside_spec (h : p.inside = some s) : p.session = some s ∧ p.recorded ≠ 0 := by
  unfold HandlerPoint.inside at h
  split at h
  all_goals first
    | exact ⟨h, Nat.succ_ne_zero _⟩
    | cases h

theorem holds_eq_zero (hrecorded : p.recorded = 0) (htaken : p.taken = none) : p.holds table lock = 0 := by
  unfold HandlerPoint.holds
  rw [hrecorded, htaken, if_neg (Option.some_ne_none lock).symm, Nat.zero_mul]

theorem holds_of_absent (hsession : p.session = some s) (hs : table s = none) :
    p.holds table lock = if p.taken = some lock then 1 else 0 := by
  unfold HandlerPoint.holds
  rw [hsession, Option.bind_some, hs, if_neg (Option.some_ne_none lock).symm, Nat.mul_zero, Nat.zero_add]

theorem holds_of_inside (h : p.inside = some s) (hs : table s = some lock) : p.holds table lock ≠ 0 := by
  obtain ⟨hsession, hrecorded⟩ := inside_spec h
  unfold HandlerPoint.holds
  rw [hsession, Option.bind_some, if_pos hs]
  omega

end Holding

/-! ### The invariant -/

/-- The counts of the locks are those of the points, and a lock is that of one session. -/
structure LockInv {τ : Type} [DecidableEq τ] (st : LockState τ) : Prop where
  counts : ∀ t lock, (st.locks lock).count t = (st.points t).holds st.sessionLock lock
  present : ∀ t s, (st.points t).inside = some s → st.sessionLock s ≠ none
  pointer : ∀ t s lock, (st.points t).pointer = some (s, lock) →
    lock < st.allocated ∧ (st.sessionLock s = none ∨ st.sessionLock s = some lock)
  allocated : ∀ s lock, st.sessionLock s = some lock → lock < st.allocated
  distinct : ∀ s s' lock, st.sessionLock s = some lock → st.sessionLock s' = some lock → s = s'

section Invariant

variable {τ : Type} [DecidableEq τ] {st : LockState τ} {t : τ}

theorem lockInv_start : LockInv (LockState.start : LockState τ) where
  counts _ _ := rfl
  present _ _ h := nomatch h
  pointer _ _ _ h := nomatch h
  allocated _ _ h := nomatch h
  distinct _ _ _ h := nomatch h

omit [DecidableEq τ] in
theorem present_iff {s : SessionId} : st.present s = true ↔ st.sessionLock s ≠ none := by
  unfold LockState.present
  rw [Option.isSome_iff_ne_none]

@[simp] theorem goto_points_self (p : HandlerPoint) : (st.goto t p).points t = p := Function.update_self _ _ _

theorem goto_points_of_ne {u : τ} (hu : u ≠ t) (p : HandlerPoint) : (st.goto t p).points u = st.points u :=
  Function.update_of_ne hu _ _

theorem LockInv.move (h : LockInv st) {p : HandlerPoint} {lock : Nat} {l : RecursiveLock τ}
    (hothers : ∀ u, u ≠ t → l.count u = (st.locks lock).count u) (hself : l.count t = p.holds st.sessionLock lock)
    (hrest : ∀ l', l' ≠ lock → p.holds st.sessionLock l' = (st.points t).holds st.sessionLock l')
    (hpresent : ∀ s, p.inside = some s → st.sessionLock s ≠ none)
    (hpointer : ∀ s l', p.pointer = some (s, l') →
      l' < st.allocated ∧ (st.sessionLock s = none ∨ st.sessionLock s = some l')) :
    LockInv ((st.setLock lock l).goto t p) where
  counts u l' := by
    show (Function.update st.locks lock l l').count u = (((st.setLock lock l).goto t p).points u).holds st.sessionLock l'
    by_cases hu : u = t
    · subst hu
      rw [goto_points_self]
      by_cases hl : l' = lock
      · subst hl
        rw [Function.update_self]
        exact hself
      · rw [Function.update_of_ne hl, hrest l' hl]
        exact h.counts u l'
    · rw [goto_points_of_ne hu]
      by_cases hl : l' = lock
      · subst hl
        rw [Function.update_self, hothers u hu]
        exact h.counts u l'
      · rw [Function.update_of_ne hl]
        exact h.counts u l'
  present u s hs := by
    by_cases hu : u = t
    · subst hu
      rw [goto_points_self] at hs
      exact hpresent s hs
    · rw [goto_points_of_ne hu] at hs
      exact h.present u s hs
  pointer u s l' hs := by
    by_cases hu : u = t
    · subst hu
      rw [goto_points_self] at hs
      exact hpointer s l' hs
    · rw [goto_points_of_ne hu] at hs
      exact h.pointer u s l' hs
  allocated := h.allocated
  distinct := h.distinct

theorem LockInv.goto (h : LockInv st) {p : HandlerPoint}
    (hholds : ∀ lock, p.holds st.sessionLock lock = (st.points t).holds st.sessionLock lock)
    (hpresent : ∀ s, p.inside = some s → st.sessionLock s ≠ none)
    (hpointer : ∀ s lock, p.pointer = some (s, lock) →
      lock < st.allocated ∧ (st.sessionLock s = none ∨ st.sessionLock s = some lock)) :
    LockInv (st.goto t p) := by
  have hmove := @LockInv.move _ _ st t h p 0 (st.locks 0) (fun _ _ => rfl)
    ((h.counts t 0).trans (hholds 0).symm) (fun lock _ => hholds lock) hpresent hpointer
  have hsame : st.setLock 0 (st.locks 0) = st := by
    unfold LockState.setLock
    rw [Function.update_eq_self]
  rw [hsame] at hmove
  exact hmove

theorem LockInv.gotoFree (h : LockInv st) {p : HandlerPoint}
    (hfrom : ∀ lock, (st.points t).holds st.sessionLock lock = 0) (hto : ∀ lock, p.holds st.sessionLock lock = 0)
    (hinside : p.inside = none) (hpointer : p.pointer = none) : LockInv (st.goto t p) := by
  refine h.goto (fun lock => (hto lock).trans (hfrom lock).symm) (fun s hs => ?_) fun s lock hs => ?_
  · rw [hinside] at hs
    cases hs
  · rw [hpointer] at hs
    cases hs

theorem LockInv.gotoHolding (h : LockInv st) {p q : HandlerPoint} (hp : st.points t = p) (hrecorded : q.recorded = p.recorded)
    (hsession : q.session = p.session) (htaken : q.taken = p.taken)
    (hpresent : ∀ s, q.inside = some s → st.sessionLock s ≠ none) (hpointer : q.pointer = none) :
    LockInv (st.goto t q) := by
  refine h.goto (fun lock => ?_) hpresent fun s lock hs => ?_
  · rw [hp]
    unfold HandlerPoint.holds
    rw [hrecorded, hsession, htaken]
  · rw [hpointer] at hs
    cases hs

theorem LockInv.fetchFails (h : LockInv st) {site : LockSite} {s : SessionId} (hp : st.points t = .fetch site s)
    (hs : st.sessionLock s = none) : LockInv (st.goto t (site.failed s)) := by
  have hfrom : ∀ lock, (st.points t).holds st.sessionLock lock = 0 := by
    intro lock
    rw [hp, holds_of_absent rfl hs]
    rfl
  cases site with
  | sar | crash =>
    refine h.gotoFree hfrom (fun lock => ?_) rfl rfl
    rw [LockSite.failed, holds_of_absent rfl hs]
    rfl
  | close | forced => exact h.gotoFree hfrom (fun lock => holds_eq_zero rfl rfl) rfl rfl

theorem LockInv.fetched (h : LockInv st) {site : LockSite} {s : SessionId} {lock : Nat} (hp : st.points t = .fetch site s)
    (hs : st.sessionLock s = some lock) : LockInv (st.goto t (.wait site s lock)) := by
  refine h.goto (fun l => ?_) (fun x hx => ?_) fun x l hx => ?_
  · rw [hp]
    cases site <;> rfl
  · cases site with
    | crash => exact h.present t x (by rw [hp]; exact hx)
    | sar | close | forced => cases hx
  · cases hx
    exact ⟨h.allocated s lock hs, Or.inr hs⟩

theorem LockInv.lockTaken (h : LockInv st) {site : LockSite} {s : SessionId} {lock : Nat} (hp : st.points t = .wait site s lock)
    (havailable : (st.locks lock).available t = true) :
    LockInv ((st.setLock lock ((st.locks lock).acquire t)).goto t (.check site s lock)) := by
  have hholds : ∀ l, (HandlerPoint.check site s lock).holds st.sessionLock l =
      (st.points t).holds st.sessionLock l + if lock = l then 1 else 0 := by
    intro l
    rw [hp]
    unfold HandlerPoint.holds
    have hrecorded : (HandlerPoint.check site s lock).recorded = (HandlerPoint.wait site s lock).recorded := by
      cases site <;> rfl
    rw [hrecorded]
    simp only [HandlerPoint.session, HandlerPoint.taken, Option.some.injEq, reduceCtorEq, if_false, Nat.add_zero]
    split_ifs <;> rfl
  refine h.move (fun u hu => ?_) ?_ (fun l hl => ?_) (fun x hx => ?_) fun x l hx => ?_
  · rw [RecursiveLock.count_acquire_of_ne hu, RecursiveLock.available_iff.1 havailable u hu]
  · rw [RecursiveLock.count_acquire_self, hholds lock, if_pos rfl, h.counts t lock]
  · rw [hholds l, if_neg fun heq => hl heq.symm, Nat.add_zero]
  · cases site with
    | crash => exact h.present t x (by rw [hp]; exact hx)
    | sar | close | forced => cases hx
  · exact h.pointer t x l (by rw [hp]; exact hx)

theorem LockInv.checked (h : LockInv st) {site : LockSite} {s : SessionId} {lock : Nat} (hp : st.points t = .check site s lock)
    (hs : st.sessionLock s ≠ none) (c : HandlerChoice) : LockInv (st.goto t (site.locked s c)) := by
  have hlock : st.sessionLock s = some lock := (h.pointer t s lock (by rw [hp]; rfl)).2.resolve_left hs
  have hspec : ∃ n, (site.locked s c).recorded = n + 1 ∧ (HandlerPoint.check site s lock).recorded = n ∧
      (site.locked s c).session = some s ∧ (site.locked s c).taken = none ∧ (site.locked s c).inside = some s ∧
      (site.locked s c).pointer = none := by
    cases site with
    | sar | close => exact ⟨0, rfl, rfl, rfl, rfl, rfl, rfl⟩
    | crash => exact ⟨1, rfl, rfl, rfl, rfl, rfl, rfl⟩
    | forced =>
      unfold LockSite.locked
      dsimp only
      split_ifs
      · exact ⟨0, rfl, rfl, rfl, rfl, rfl, rfl⟩
      · exact ⟨0, rfl, rfl, rfl, rfl, rfl, rfl⟩
  obtain ⟨n, hrecorded, hbefore, hsession, htaken, hinside, hpointer⟩ := hspec
  refine h.goto (fun l => ?_) (fun x hx => ?_) fun x l hx => ?_
  · rw [hp]
    unfold HandlerPoint.holds
    rw [hrecorded, hbefore, hsession, htaken]
    simp only [HandlerPoint.session, HandlerPoint.taken, Option.bind_some, hlock, Option.some.injEq, reduceCtorEq,
      if_false, Nat.add_zero]
    split_ifs <;> omega
  · rw [hinside] at hx
    cases hx
    exact hs
  · rw [hpointer] at hx
    cases hx

theorem LockInv.checkFails (h : LockInv st) {site : LockSite} {s : SessionId} {lock : Nat}
    (hp : st.points t = .check site s lock) (hs : st.sessionLock s = none) :
    LockInv ((st.setLock lock ((st.locks lock).release t)).goto t (site.failed s)) := by
  have hfrom : ∀ l, (st.points t).holds st.sessionLock l = if lock = l then 1 else 0 := by
    intro l
    rw [hp, holds_of_absent rfl hs]
    simp only [HandlerPoint.taken, Option.some.injEq]
  have hto : ∀ l, (site.failed s).holds st.sessionLock l = 0 := by
    intro l
    cases site with
    | sar | crash =>
      rw [LockSite.failed, holds_of_absent rfl hs]
      rfl
    | close | forced => exact holds_eq_zero rfl rfl
  have hpoint : (site.failed s).inside = none ∧ (site.failed s).pointer = none := by
    cases site <;> exact ⟨rfl, rfl⟩
  refine h.move (fun u hu => RecursiveLock.count_release_of_ne hu) ?_ (fun l hl => ?_) (fun x hx => ?_) fun x l hx => ?_
  · rw [RecursiveLock.count_release_self, h.counts t lock, hfrom lock, if_pos rfl, hto lock]
  · rw [hto l, hfrom l, if_neg fun heq => hl heq.symm]
  · rw [hpoint.1] at hx
    cases hx
  · rw [hpoint.2] at hx
    cases hx

theorem LockInv.released (h : LockInv st) {p q : HandlerPoint} {s : SessionId} (hp : st.points t = p) (hsession : p.session = some s)
    (hrecorded : p.recorded = 1) (htaken : p.taken = none) (hq : ∀ lock, q.holds st.sessionLock lock = 0)
    (hinside : q.inside = none) (hpointer : q.pointer = none) : LockInv ((st.releaseSessionLock t s).goto t q) := by
  unfold LockState.releaseSessionLock
  cases hs : st.sessionLock s with
  | none =>
    refine h.gotoFree (fun lock => ?_) hq hinside hpointer
    rw [hp, holds_of_absent hsession hs, htaken]
    rfl
  | some lock =>
    have hfrom : ∀ l, (st.points t).holds st.sessionLock l = if lock = l then 1 else 0 := by
      intro l
      rw [hp]
      unfold HandlerPoint.holds
      rw [hrecorded, hsession, htaken, Option.bind_some, hs]
      simp only [Option.some.injEq, reduceCtorEq, if_false, Nat.add_zero, Nat.one_mul]
    refine h.move (fun u hu => RecursiveLock.count_release_of_ne hu) ?_ (fun l hl => ?_) (fun x hx => ?_) fun x l hx => ?_
    · rw [RecursiveLock.count_release_self, h.counts t lock, hfrom lock, if_pos rfl, hq lock]
    · rw [hq l, hfrom l, if_neg fun heq => hl heq.symm]
    · rw [hinside] at hx
      cases hx
    · rw [hpointer] at hx
      cases hx

theorem LockInv.alone (h : LockInv st) {s : SessionId} {lock : Nat} (hinside : (st.points t).inside = some s)
    (hs : st.sessionLock s = some lock) {u : τ} (hu : u ≠ t) : (st.points u).holds st.sessionLock lock = 0 := by
  have hself : (st.locks lock).count t ≠ 0 := by
    rw [h.counts t lock]
    exact holds_of_inside hinside hs
  rw [← h.counts u lock]
  exact RecursiveLock.count_eq_zero_of_ne hself hu

theorem LockInv.removed (h : LockInv st) {p q : HandlerPoint} {s : SessionId} (hp : st.points t = p) (hinside : p.inside = some s)
    (hrecorded : p.recorded ≤ 2) (htaken : p.taken = none) (hq : ∀ table lock, table s = none → q.holds table lock = 0)
    (hqinside : q.inside = none) (hqpointer : q.pointer = none) : LockInv ((st.remove t s).goto t q) := by
  obtain ⟨lock, hs⟩ := Option.ne_none_iff_exists'.1 (h.present t s (by rw [hp]; exact hinside))
  obtain ⟨hsession, -⟩ := inside_spec hinside
  have hremove : st.remove t s = { st with
      sessionLock := Function.update st.sessionLock s none
      locks := Function.update st.locks lock (((st.locks lock).release t).release t)
      deleted := Function.update st.deleted lock true } := by
    unfold LockState.remove
    rw [hs]
  rw [hremove]
  have hsub : ∀ x l, Function.update st.sessionLock s none x = some l → st.sessionLock x = some l := by
    intro x l hx
    by_cases hxs : x = s
    · subst hxs
      rw [Function.update_self] at hx
      cases hx
    · rw [Function.update_of_ne hxs] at hx
      exact hx
  -- what the thread held before: this lock alone
  have hfrom : ∀ l, (st.points t).holds st.sessionLock l ≤ if lock = l then 2 else 0 := by
    intro l
    rw [hp]
    unfold HandlerPoint.holds
    rw [hsession, htaken, Option.bind_some, hs]
    simp only [Option.some.injEq, reduceCtorEq, if_false, Nat.add_zero]
    split_ifs
    · omega
    · omega
  refine ⟨fun u l => ?_, fun u x hx => ?_, fun u x l hx => ?_, fun x l hx => h.allocated x l (hsub x l hx),
    fun x x' l hx hx' => h.distinct x x' l (hsub x l hx) (hsub x' l hx')⟩
  · show (Function.update st.locks lock _ l).count u = HandlerPoint.holds (Function.update st.sessionLock s none) l _
    by_cases hu : u = t
    · subst hu
      rw [goto_points_self, hq _ l (Function.update_self _ _ _)]
      have hcount := hfrom l
      rw [← h.counts u l] at hcount
      by_cases hl : l = lock
      · subst hl
        rw [if_pos rfl] at hcount
        rw [Function.update_self, RecursiveLock.count_release_self, RecursiveLock.count_release_self]
        omega
      · rw [if_neg fun heq => hl heq.symm] at hcount
        rw [Function.update_of_ne hl]
        omega
    · rw [goto_points_of_ne hu]
      dsimp only
      by_cases hl : l = lock
      · subst hl
        have hzero := h.alone (by rw [hp]; exact hinside) hs hu
        have hle := @holds_mono st.sessionLock (Function.update st.sessionLock s none) l (st.points u) fun x => hsub x l
        rw [Function.update_self, RecursiveLock.count_release_of_ne hu, RecursiveLock.count_release_of_ne hu, h.counts u l]
        omega
      · rw [Function.update_of_ne hl, h.counts u l]
        refine (holds_congr fun x => ⟨hsub x l, fun hx => ?_⟩).symm
        have hxs : x ≠ s := by
          rintro rfl
          exact hl (Option.some.inj (hx.symm.trans hs))
        rw [Function.update_of_ne hxs]
        exact hx
  · by_cases hu : u = t
    · subst hu
      rw [goto_points_self, hqinside] at hx
      cases hx
    · rw [goto_points_of_ne hu] at hx
      have hxs : x ≠ s := by
        rintro rfl
        exact holds_of_inside hx hs (h.alone (by rw [hp]; exact hinside) hs hu)
      show Function.update st.sessionLock s none x ≠ none
      rw [Function.update_of_ne hxs]
      exact h.present u x hx
  · by_cases hu : u = t
    · subst hu
      rw [goto_points_self, hqpointer] at hx
      cases hx
    · rw [goto_points_of_ne hu] at hx
      obtain ⟨hlt, hold⟩ := h.pointer u x l hx
      refine ⟨hlt, ?_⟩
      show Function.update st.sessionLock s none x = none ∨ Function.update st.sessionLock s none x = some l
      by_cases hxs : x = s
      · exact Or.inl (by rw [hxs, Function.update_self])
      · rw [Function.update_of_ne hxs]
        exact hold

section Creation

variable [Fintype τ]

omit [Fintype τ] in
theorem LockInv.added (h : LockInv st) {s : SessionId} (hunused : st.Unused s) : LockInv (st.add s) := by
  have hold : ∀ x l, x ≠ s → (st.add s).sessionLock x = some l → st.sessionLock x = some l := by
    intro x l hxs hx
    exact (Function.update_of_ne hxs _ _).symm.trans hx
  have hnew : ∀ l, (st.add s).sessionLock s = some l → l = st.allocated := by
    intro l hl
    exact (Option.some.inj ((Function.update_self s _ st.sessionLock).symm.trans hl)).symm
  -- nobody holds a lock that is not allocated
  have hfree : ∀ u, (st.points u).holds st.sessionLock st.allocated = 0 := by
    intro u
    unfold HandlerPoint.holds
    have hbind : (st.points u).session.bind st.sessionLock ≠ some st.allocated := by
      intro hbind
      obtain ⟨x, -, hx⟩ := Option.bind_eq_some_iff.1 hbind
      exact absurd (h.allocated x _ hx) (Nat.lt_irrefl _)
    have htaken : (st.points u).taken ≠ some st.allocated := by
      intro htaken
      cases hp : st.points u with
      | check site x l =>
        rw [hp] at htaken
        obtain rfl := Option.some.inj htaken
        exact absurd (h.pointer u x st.allocated (by rw [hp]; rfl)).1 (Nat.lt_irrefl _)
      | _ =>
        rw [hp] at htaken
        cases htaken
    rw [if_neg hbind, if_neg htaken]
    rfl
  refine ⟨fun u l => ?_, fun u x hx => ?_, fun u x l hx => ?_, fun x l hx => ?_, fun x x' l hx hx' => ?_⟩
  · show (Function.update st.locks st.allocated .free l).count u =
      HandlerPoint.holds (Function.update st.sessionLock s _) l (st.points u)
    rw [holds_update_of_ne (hunused.2 u)]
    by_cases hl : l = st.allocated
    · subst hl
      rw [Function.update_self]
      exact (hfree u).symm
    · rw [Function.update_of_ne hl]
      exact h.counts u l
  · have hxs : x ≠ s := fun heq => hunused.2 u (heq ▸ (inside_spec hx).1)
    show Function.update st.sessionLock s _ x ≠ none
    rw [Function.update_of_ne hxs]
    exact h.present u x hx
  · obtain ⟨hlt, hbound⟩ := h.pointer u x l hx
    have hxs : x ≠ s := by
      rintro rfl
      refine hunused.2 u ?_
      have hpoint : (st.points u).pointer = some (x, l) := hx
      cases hp : st.points u with
      | wait | check =>
        rw [hp] at hpoint
        cases hpoint
        rfl
      | _ =>
        rw [hp] at hpoint
        cases hpoint
    refine ⟨Nat.lt_succ_of_lt hlt, ?_⟩
    show Function.update st.sessionLock s _ x = none ∨ Function.update st.sessionLock s _ x = some l
    rw [Function.update_of_ne hxs]
    exact hbound
  · by_cases hxs : x = s
    · subst hxs
      rw [hnew l hx]
      exact Nat.lt_succ_self _
    · exact Nat.lt_succ_of_lt (h.allocated x l (hold x l hxs hx))
  · by_cases hxs : x = s
    · by_cases hxs' : x' = s
      · exact hxs.trans hxs'.symm
      · subst hxs
        have hlt := h.allocated x' l (hold x' l hxs' hx')
        rw [hnew l hx] at hlt
        exact absurd hlt (Nat.lt_irrefl _)
    · by_cases hxs' : x' = s
      · subst hxs'
        have hlt := h.allocated x l (hold x l hxs hx)
        rw [hnew l hx'] at hlt
        exact absurd hlt (Nat.lt_irrefl _)
      · exact h.distinct x x' l (hold x l hxs hx) (hold x' l hxs' hx')

theorem lockInv_serve (h : LockInv st) (hp : st.points t = .serving) (c : HandlerChoice) : LockInv (st.serve t c) := by
  have hfrom : ∀ lock, (st.points t).holds st.sessionLock lock = 0 := fun lock => by
    rw [hp]
    exact holds_eq_zero rfl rfl
  unfold LockState.serve
  cases c with
  | close s force => exact h.gotoFree hfrom (fun _ => holds_eq_zero rfl rfl) rfl rfl
  | create s =>
    dsimp only
    split_ifs with hunused
    · exact h.added hunused
    · exact h
  | finish =>
    have hgoto := h.gotoFree (p := .idle) hfrom (fun _ => holds_eq_zero rfl rfl) rfl rfl
    exact ⟨hgoto.counts, hgoto.present, hgoto.pointer, hgoto.allocated, hgoto.distinct⟩
  | sendAndRecieve | command | yes | no => exact h

omit [Fintype τ] in
theorem lockInv_begin (h : LockInv st) (hp : st.points t = .idle) (c : HandlerChoice) : LockInv (st.begin t c) := by
  have hfrom : ∀ lock, (st.points t).holds st.sessionLock lock = 0 := fun lock => by
    rw [hp]
    exact holds_eq_zero rfl rfl
  unfold LockState.begin
  cases c with
  | sendAndRecieve s => exact h.gotoFree hfrom (fun _ => holds_eq_zero rfl rfl) rfl rfl
  | command =>
    dsimp only
    split_ifs
    · have hgoto := h.gotoFree (p := .serving) hfrom (fun _ => holds_eq_zero rfl rfl) rfl rfl
      exact ⟨hgoto.counts, hgoto.present, hgoto.pointer, hgoto.allocated, hgoto.distinct⟩
    · exact h
  | close | create | finish | yes | no => exact h

omit [Fintype τ] in
theorem LockInv.gotoAbsent (h : LockInv st) {p q : HandlerPoint} {s : SessionId} (hp : st.points t = p)
    (hs : ¬st.present s = true) (hsession : p.session = some s) (htaken : p.taken = none)
    (hq : q.session = some s ∨ q.recorded = 0) (hqtaken : q.taken = none) (hinside : q.inside = none)
    (hpointer : q.pointer = none) : LockInv (st.goto t q) := by
  have habsent : st.sessionLock s = none := Classical.byContradiction fun hne => hs (present_iff.2 hne)
  refine h.gotoFree (fun lock => ?_) (fun lock => ?_) hinside hpointer
  · rw [hp, holds_of_absent hsession habsent, htaken]
    rfl
  · rcases hq with hq | hq
    · rw [holds_of_absent hq habsent, hqtaken]
      rfl
    · exact holds_eq_zero hq hqtaken

/-- Every step of a thread keeps the invariant. -/
theorem lockInv_act (h : LockInv st) (t : τ) (c : HandlerChoice) : LockInv (st.act t c) := by
  have hfree : ∀ {p q : HandlerPoint}, st.points t = p → p.recorded = 0 → p.taken = none → q.recorded = 0 → q.taken = none →
      q.inside = none → q.pointer = none → LockInv (st.goto t q) := by
    intro p q hp hrecorded htaken hqrecorded hqtaken hinside hpointer
    refine h.gotoFree (fun _ => ?_) (fun _ => holds_eq_zero hqrecorded hqtaken) hinside hpointer
    rw [hp]
    exact holds_eq_zero hrecorded htaken
  unfold LockState.act
  cases hp : st.points t with
  | idle => exact lockInv_begin h hp c
  | serving => exact lockInv_serve h hp c
  | sarInfo s =>
    dsimp only
    split_ifs
    · exact hfree hp rfl rfl rfl rfl rfl rfl
    · exact hfree hp rfl rfl rfl rfl rfl rfl
  | closeInfo s force =>
    dsimp only
    split_ifs
    · exact hfree hp rfl rfl rfl rfl rfl rfl
    · exact hfree hp rfl rfl rfl rfl rfl rfl
    · exact hfree hp rfl rfl rfl rfl rfl rfl
  | crashInfo s =>
    dsimp only
    split_ifs with hs
    · refine h.gotoHolding hp rfl rfl rfl (fun x hx => ?_) rfl
      cases hx
      exact present_iff.1 hs
    · exact h.gotoHolding hp rfl rfl rfl (fun _ hx => nomatch hx) rfl
  | fetch site s =>
    dsimp only
    cases hs : st.sessionLock s with
    | none => exact h.fetchFails hp hs
    | some lock => exact h.fetched hp hs
  | wait site s lock =>
    dsimp only
    split_ifs with havailable
    · exact h.lockTaken hp havailable
    · exact h
  | check site s lock =>
    dsimp only
    split_ifs with hs
    · exact h.checked hp (present_iff.1 hs) c
    · exact h.checkFails hp (Classical.byContradiction fun hne => hs (present_iff.2 hne))
  | sarHandle s =>
    dsimp only
    split_ifs with hs
    · refine h.gotoHolding hp rfl rfl rfl (fun x hx => ?_) rfl
      cases hx
      exact present_iff.1 hs
    · exact h.gotoHolding hp rfl rfl rfl (fun _ hx => nomatch hx) rfl
  | closeHandle s =>
    dsimp only
    split_ifs with hs
    · refine h.gotoHolding hp rfl rfl rfl (fun x hx => ?_) rfl
      cases hx
      exact present_iff.1 hs
    · exact h.gotoAbsent hp hs rfl rfl (Or.inr rfl) rfl rfl rfl
  | forcedHandle s =>
    dsimp only
    split_ifs
    · exact hfree hp rfl rfl rfl rfl rfl rfl
    · exact hfree hp rfl rfl rfl rfl rfl rfl
  | sarPlugin s =>
    dsimp only
    have hs := h.present t s (by rw [hp]; rfl)
    split_ifs
    · refine h.gotoHolding hp rfl rfl rfl (fun x hx => ?_) rfl
      cases hx
      exact hs
    · exact h.gotoHolding hp rfl rfl rfl (fun _ hx => nomatch hx) rfl
  | closePlugin s =>
    dsimp only
    have hs := h.present t s (by rw [hp]; rfl)
    split_ifs
    all_goals
      refine h.gotoHolding hp rfl rfl rfl (fun x hx => ?_) rfl
      cases hx
      exact hs
  | forcedPlugin s => exact hfree hp rfl rfl rfl rfl rfl rfl
  | crashRemove s =>
    refine h.removed hp rfl (Nat.le_refl 2) rfl (fun table lock hs => ?_) rfl rfl
    rw [holds_of_absent rfl hs]
    rfl
  | closeRemove s => exact h.removed hp rfl (Nat.le_succ 1) rfl (fun _ _ _ => holds_eq_zero rfl rfl) rfl rfl
  | sarRelease s => exact h.released hp rfl rfl rfl (fun _ => holds_eq_zero rfl rfl) rfl rfl
  | closeRelease s => exact h.released hp rfl rfl rfl (fun _ => holds_eq_zero rfl rfl) rfl rfl

/-- A reset finds every thread idle, and so every lock free. -/
theorem lockInv_reset (h : LockInv st) : LockInv st.reset := by
  unfold LockState.reset
  split_ifs with hidle
  · refine ⟨fun u lock => ?_, fun u s hs => ?_, fun u s lock hs => ?_, fun _ _ hs => (nomatch hs),
      fun _ _ _ hs => (nomatch hs)⟩
    · have hzero : (st.points u).holds st.sessionLock lock = 0 := by
        rw [hidle u]
        exact holds_eq_zero rfl rfl
      rw [h.counts u lock, hzero]
      show 0 = (st.points u).holds _ lock
      rw [hidle u]
      exact (holds_eq_zero rfl rfl).symm
    · have hpoint : (st.points u).inside = some s := hs
      rw [hidle u] at hpoint
      cases hpoint
    · have hpoint : (st.points u).pointer = some (s, lock) := hs
      rw [hidle u] at hpoint
      cases hpoint
  · exact h

end Creation

end Invariant

/-! ### The discipline -/

section Discipline

variable {τ : Type} [DecidableEq τ] {st : LockState τ}

end Discipline

end DalHost

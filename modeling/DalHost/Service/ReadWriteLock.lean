import DalHost.Lib.Calls
import DalHost.Lib.RecursiveLock
import Mathlib.Data.Fintype.Card

/-!
# The reader/writer lock

`ReadWriteLock` is made of two mutexes, a count of the readers and a condition variable. A reader passes through
`_writeLock` to be counted and does not keep it, so that readers run side by side; a writer keeps it and waits until
the count is zero. The count is only touched under `_readLock`.

Threads take and give back the lock in matched pairs. A step is one operation of one thread on a mutex, the count
or the condition variable; the schedule may wake a waiting thread at any time.
-/

namespace DalHost

/-- The threads of a process: the kernel numbers them with a `pid_t`, so there are fewer than the count has values. -/
class ProcessThreads (τ : Type) extends Fintype τ where
  card_lt : Fintype.card τ < UInt32.size

/-- Where a thread stands: the next operation is the one that is named. -/
inductive RwPoint
  | idle
  /-- `aquireReaderLock`: `_writeLock.Lock`, `_readLock.Lock`, the count, and the two unlocks. -/
  | readerEnter
  | readerLock
  | increment
  | readerUnlock
  | readerLeave
  /-- With the reader lock. -/
  | reading
  /-- `releaseReaderLock`: `_readLock.Lock`, the count, the signal if it is zero, and the unlock. -/
  | releaseLock
  | decrement
  | signal
  | releaseUnlock
  /-- `aquireWriterLock`: `_writeLock.Lock`, `_readLock.Lock`, and the test of the loop. -/
  | writerEnter
  | writerLock
  | test
  /-- `pthread_cond_wait`: the call, which gives up `_readLock`; blocked; and to lock it again. -/
  | wait
  | waiting (signalled : Bool)
  | relock
  /-- `aquireWriterLock`: the unlock after the loop. -/
  | writerUnlock
  /-- With the writer lock. -/
  | writing
  deriving DecidableEq

namespace RwPoint

/-- Between `_readLock.Lock` and `_readLock.UnLock`. -/
def inRead : RwPoint → Bool
  | increment | readerUnlock | decrement | signal | releaseUnlock | test | wait | writerUnlock => true
  | _ => false

/-- Between `_writeLock.Lock` and `_writeLock.UnLock`. -/
def inWrite : RwPoint → Bool
  | readerLock | increment | readerUnlock | readerLeave | writerLock | test | wait | waiting _ | relock | writerUnlock
  | writing => true
  | _ => false

/-- The thread holds a reader lock: it has been counted. -/
def isReader : RwPoint → Bool
  | readerUnlock | readerLeave | reading | releaseLock | decrement => true
  | _ => false

/-- The thread holds the writer lock: it has seen that there are no readers. -/
def isWriter : RwPoint → Bool
  | writerUnlock | writing => true
  | _ => false

end RwPoint

/-- The members of `ReadWriteLock`, and the threads. -/
structure RwState (τ : Type) where
  readLock : RecursiveLock τ
  writeLock : RecursiveLock τ
  readersCount : UInt32
  points : τ → RwPoint

/-- What the schedule chooses. -/
structure RwStep (τ : Type) where
  thread : τ
  /-- An idle thread asks for the writer lock. -/
  writes : Bool
  /-- The blocked threads that a signal unblocks. -/
  unblocks : τ → Bool

section Steps

variable {τ : Type} [DecidableEq τ]

namespace RwState

def start : RwState τ := ⟨.free, .free, 0, fun _ => .idle⟩

def goto (st : RwState τ) (t : τ) (p : RwPoint) : RwState τ := { st with points := Function.update st.points t p }

/-- A thread stays where it is until the mutex is available. -/
def lockRead (st : RwState τ) (t : τ) (p : RwPoint) : RwState τ :=
  if st.readLock.available t then { st with readLock := st.readLock.acquire t }.goto t p else st

def lockWrite (st : RwState τ) (t : τ) (p : RwPoint) : RwState τ :=
  if st.writeLock.available t then { st with writeLock := st.writeLock.acquire t }.goto t p else st

def unlockRead (st : RwState τ) (t : τ) (p : RwPoint) : RwState τ :=
  { st with readLock := st.readLock.release t }.goto t p

def unlockWrite (st : RwState τ) (t : τ) (p : RwPoint) : RwState τ :=
  { st with writeLock := st.writeLock.release t }.goto t p

/-- A thread that a signal unblocks. -/
def Unblocked (st : RwState τ) (unblocks : τ → Bool) (u : τ) : Prop := st.points u = .waiting false ∧ unblocks u = true

instance (st : RwState τ) (unblocks : τ → Bool) (u : τ) : Decidable (st.Unblocked unblocks u) :=
  inferInstanceAs (Decidable (_ ∧ _))

variable [Fintype τ]

/-- `pthread_cond_signal` unblocks at least one of the threads that are blocked, if there are any. -/
def condSignal (st : RwState τ) (t : τ) (unblocks : τ → Bool) (p : RwPoint) : RwState τ :=
  if (∃ u, st.points u = .waiting false) ∧ ¬∃ u, st.Unblocked unblocks u then st
  else { st with points := fun u => if st.Unblocked unblocks u then .waiting true else st.points u }.goto t p

end RwState

variable [Fintype τ]

/-- The next operation of a thread. -/
def rwStep (step : RwStep τ) (st : RwState τ) : RwState τ :=
  let t := step.thread
  match st.points t with
  | .idle => st.goto t (if step.writes then .writerEnter else .readerEnter)
  | .readerEnter => st.lockWrite t .readerLock
  | .readerLock => st.lockRead t .increment
  | .increment => { st with readersCount := st.readersCount + 1 }.goto t .readerUnlock
  | .readerUnlock => st.unlockRead t .readerLeave
  | .readerLeave => st.unlockWrite t .reading
  | .reading => st.goto t .releaseLock
  | .releaseLock => st.lockRead t .decrement
  | .decrement => { st with readersCount := st.readersCount - 1 }.goto t .signal
  | .signal => if st.readersCount = 0 then st.condSignal t step.unblocks .releaseUnlock else st.goto t .releaseUnlock
  | .releaseUnlock => st.unlockRead t .idle
  | .writerEnter => st.lockWrite t .writerLock
  | .writerLock => st.lockRead t .test
  | .test => st.goto t (if st.readersCount > 0 then .wait else .writerUnlock)
  | .wait => st.unlockRead t (.waiting false)
  -- after a signal, or without one
  | .waiting _ => st.goto t .relock
  | .relock => st.lockRead t .test
  | .writerUnlock => st.unlockRead t .writing
  | .writing => st.unlockWrite t .idle

/-! ### What the lock promises -/

/-- The threads that hold a reader lock. -/
def readers (points : τ → RwPoint) : Finset τ := Finset.univ.filter fun u => (points u).isReader

structure RwSafe (st : RwState τ) : Prop where
  exclusive : ∀ t u, t ≠ u → (st.points t).isWriter → ¬(st.points u).isWriter ∧ ¬(st.points u).isReader
  count : st.readLock = .free → st.readersCount.toNat = (readers st.points).card
  /-- The count is not taken below zero. -/
  positive : ∀ t, st.points t = .decrement → 0 < st.readersCount
  /-- No wake-up is lost. -/
  woken : ∀ t signalled, st.points t = .waiting signalled → st.readersCount = 0 → st.readLock = .free →
    signalled = true

end Steps

/-! ### The invariant -/

section Invariant

variable {τ : Type} [DecidableEq τ] [Fintype τ]

structure RwInv (st : RwState τ) : Prop where
  read : st.readLock.HeldInside fun u => (st.points u).inRead
  write : st.writeLock.HeldInside fun u => (st.points u).inWrite
  count : st.readersCount = UInt32.ofNat (readers st.points).card
  /-- A writer has the lock for itself. -/
  writer : ∀ t u, (st.points t).isWriter → ¬(st.points u).isReader
  /-- Under `_readLock` the readers are still there. -/
  wait : ∀ t, st.points t = .wait → (readers st.points).Nonempty
  /-- The last reader has not signalled yet. -/
  waiting : ∀ t, st.points t = .waiting false → (readers st.points).Nonempty ∨ ∃ u, st.points u = .signal

variable {st : RwState τ} {t : τ}

omit [DecidableEq τ] in
@[simp] theorem mem_readers {points : τ → RwPoint} {u : τ} : u ∈ readers points ↔ (points u).isReader = true := by
  simp [readers]

theorem readers_update_same {points : τ → RwPoint} {q : RwPoint} (h : q.isReader = (points t).isReader) :
    readers (Function.update points t q) = readers points := by
  ext u
  by_cases hu : u = t
  · simp [hu, h]
  · simp [hu]

theorem readers_update_insert {points : τ → RwPoint} {q : RwPoint} (h : q.isReader = true) :
    readers (Function.update points t q) = insert t (readers points) := by
  ext u
  by_cases hu : u = t
  · simp [hu, h]
  · simp [hu]

theorem readers_update_erase {points : τ → RwPoint} {q : RwPoint} (h : q.isReader = false) :
    readers (Function.update points t q) = (readers points).erase t := by
  ext u
  by_cases hu : u = t
  · simp [hu, h]
  · simp [hu]

/-- A thread may go to `q`, and the readers stay the same. -/
structure Quiet (st : RwState τ) (t : τ) (q : RwPoint) : Prop where
  reader : q.isReader = (st.points t).isReader
  /-- Only the test of the loop lets a writer in. -/
  writer : q.isWriter = true → (st.points t).isWriter = true ∨ readers st.points = ∅
  /-- Only the test of the loop makes it wait. -/
  wait : q = .wait ∨ q = .waiting false → st.points t = .wait ∨ (readers st.points).Nonempty
  /-- The signal is not left out. -/
  signal : st.points t = .signal → (readers st.points).Nonempty ∨ ∀ u, st.points u ≠ .waiting false

theorem RwInv.quiet (h : RwInv st) {st' : RwState τ} {q : RwPoint} (hmove : Quiet st t q)
    (hpoints : st'.points = Function.update st.points t q) (hcount : st'.readersCount = st.readersCount)
    (hread : st'.readLock.HeldInside fun u => (st'.points u).inRead)
    (hwrite : st'.writeLock.HeldInside fun u => (st'.points u).inWrite) : RwInv st' := by
  have hreaders : readers st'.points = readers st.points := by
    rw [hpoints]
    exact readers_update_same hmove.reader
  have hat : st'.points t = q := by rw [hpoints, Function.update_self]
  have hother : ∀ u, u ≠ t → st'.points u = st.points u := by
    intro u hu
    rw [hpoints, Function.update_of_ne hu]
  refine ⟨hread, hwrite, ?_, ?_, ?_, ?_⟩
  · rw [hcount, hreaders, h.count]
  · intro v u hv hu
    rw [← mem_readers, hreaders, mem_readers] at hu
    by_cases hvt : v = t
    · rw [hvt, hat] at hv
      rcases hmove.writer hv with hold | hnone
      · exact h.writer t u hold hu
      · rw [← mem_readers, hnone] at hu
        exact absurd hu (Finset.notMem_empty u)
    · rw [hother v hvt] at hv
      exact h.writer v u hv hu
  · intro v hv
    rw [hreaders]
    by_cases hvt : v = t
    · rw [hvt, hat] at hv
      rcases hmove.wait (Or.inl hv) with hold | hsome
      · exact h.wait t hold
      · exact hsome
    · rw [hother v hvt] at hv
      exact h.wait v hv
  · intro v hv
    rw [hreaders]
    by_cases hvt : v = t
    · rw [hvt, hat] at hv
      rcases hmove.wait (Or.inr hv) with hold | hsome
      · exact Or.inl (h.wait t hold)
      · exact Or.inl hsome
    · rw [hother v hvt] at hv
      rcases h.waiting v hv with hsome | ⟨u, hu⟩
      · exact Or.inl hsome
      · by_cases hut : u = t
        · exact Or.inl ((hmove.signal (hut ▸ hu)).resolve_right fun hnone => hnone v hv)
        · exact Or.inr ⟨u, by rw [hother u hut, hu]⟩

omit [Fintype τ] in
theorem inside_update (f : RwPoint → Bool) (points : τ → RwPoint) (q : RwPoint) :
    (fun u => f (Function.update points t q u)) = Function.update (fun u => f (points u)) t (f q) :=
  Function.comp_update f points t q

omit [Fintype τ] in
theorem heldInside_update_same {l : RecursiveLock τ} {f : RwPoint → Bool} {points : τ → RwPoint} {q : RwPoint}
    (h : l.HeldInside fun u => f (points u)) (hq : f q = f (points t)) :
    l.HeldInside fun u => f (Function.update points t q u) := by
  rw [inside_update, hq]
  rw [Function.update_eq_self]
  exact h

section Moves

variable {q : RwPoint} (h : RwInv st) (hmove : Quiet st t q)
include h hmove

theorem RwInv.goto (hread : q.inRead = (st.points t).inRead) (hwrite : q.inWrite = (st.points t).inWrite) :
    RwInv (st.goto t q) :=
  h.quiet hmove rfl rfl (heldInside_update_same h.read hread) (heldInside_update_same h.write hwrite)

theorem RwInv.lockRead (hout : (st.points t).inRead = false) (hin : q.inRead = true)
    (hwrite : q.inWrite = (st.points t).inWrite) : RwInv (st.lockRead t q) := by
  unfold RwState.lockRead
  split_ifs with havailable
  · refine h.quiet hmove rfl rfl ?_ (heldInside_update_same h.write hwrite)
    show (st.readLock.acquire t).HeldInside fun u => (Function.update st.points t q u).inRead
    rw [inside_update, hin]
    exact h.read.acquire havailable hout
  · exact h

theorem RwInv.lockWrite (hout : (st.points t).inWrite = false) (hin : q.inWrite = true)
    (hread : q.inRead = (st.points t).inRead) : RwInv (st.lockWrite t q) := by
  unfold RwState.lockWrite
  split_ifs with havailable
  · refine h.quiet hmove rfl rfl (heldInside_update_same h.read hread) ?_
    show (st.writeLock.acquire t).HeldInside fun u => (Function.update st.points t q u).inWrite
    rw [inside_update, hin]
    exact h.write.acquire havailable hout
  · exact h

theorem RwInv.unlockRead (hin : (st.points t).inRead = true) (hout : q.inRead = false)
    (hwrite : q.inWrite = (st.points t).inWrite) : RwInv (st.unlockRead t q) := by
  refine h.quiet hmove rfl rfl ?_ (heldInside_update_same h.write hwrite)
  show (st.readLock.release t).HeldInside fun u => (Function.update st.points t q u).inRead
  rw [inside_update, hout]
  exact h.read.release hin

theorem RwInv.unlockWrite (hin : (st.points t).inWrite = true) (hout : q.inWrite = false)
    (hread : q.inRead = (st.points t).inRead) : RwInv (st.unlockWrite t q) := by
  refine h.quiet hmove rfl rfl (heldInside_update_same h.read hread) ?_
  show (st.writeLock.release t).HeldInside fun u => (Function.update st.points t q u).inWrite
  rw [inside_update, hout]
  exact h.write.release hin

end Moves

omit [DecidableEq τ] in
theorem Quiet.plain {p q : RwPoint} (hp : st.points t = p) (hreader : q.isReader = p.isReader)
    (hwriter : q.isWriter = true → p.isWriter = true) (hwait : q ≠ .wait ∧ (q = .waiting false → p = .wait))
    (hsignal : p ≠ .signal) : Quiet st t q := by
  refine ⟨?_, ?_, ?_, ?_⟩
  · rw [hp, hreader]
  · intro hq
    rw [hp]
    exact Or.inl (hwriter hq)
  · rintro (hq | hq)
    · exact absurd hq hwait.1
    · rw [hp]
      exact Or.inl (hwait.2 hq)
  · intro hat
    exact absurd (hp.symm.trans hat) hsignal

/-! ### The steps that count -/

theorem RwInv.increment (h : RwInv st) (hp : st.points t = .increment) :
    RwInv ({ st with readersCount := st.readersCount + 1 }.goto t .readerUnlock) := by
  have hreaders : readers (Function.update st.points t .readerUnlock) = insert t (readers st.points) :=
    readers_update_insert rfl
  have hsome : (readers (Function.update st.points t .readerUnlock)).Nonempty := by
    rw [hreaders]
    exact Finset.insert_nonempty t _
  refine ⟨heldInside_update_same h.read (by rw [hp]; rfl), heldInside_update_same h.write (by rw [hp]; rfl), ?_, ?_,
    fun _ _ => hsome, fun _ _ => Or.inl hsome⟩
  · show st.readersCount + 1 = UInt32.ofNat (readers (Function.update st.points t .readerUnlock)).card
    have hnew : t ∉ readers st.points := by simp [hp, RwPoint.isReader]
    rw [hreaders, Finset.card_insert_of_notMem hnew, UInt32.ofNat_add, h.count]
    rfl
  · -- a writer would hold `_writeLock`
    intro v u hv
    show ¬(Function.update st.points t .readerUnlock u).isReader = true
    change (Function.update st.points t .readerUnlock v).isWriter = true at hv
    by_cases hvt : v = t
    · rw [hvt, Function.update_self] at hv
      cases hv
    · rw [Function.update_of_ne hvt] at hv
      refine absurd (h.write.unique ?_ ?_) hvt
      · cases hpoint : st.points v <;> simp_all [RwPoint.isWriter, RwPoint.inWrite]
      · rw [hp]
        rfl

theorem RwInv.decrement (h : RwInv st) (hp : st.points t = .decrement) :
    RwInv ({ st with readersCount := st.readersCount - 1 }.goto t .signal) := by
  have hreaders : readers (Function.update st.points t .signal) = (readers st.points).erase t := readers_update_erase rfl
  refine ⟨heldInside_update_same h.read (by rw [hp]; rfl), heldInside_update_same h.write (by rw [hp]; rfl), ?_, ?_, ?_,
    fun _ _ => Or.inr ⟨t, Function.update_self ..⟩⟩
  · show st.readersCount - 1 = UInt32.ofNat (readers (Function.update st.points t .signal)).card
    have hmem : t ∈ readers st.points := by simp [hp, RwPoint.isReader]
    rw [hreaders, h.count, ← Finset.card_erase_add_one hmem, UInt32.ofNat_add]
    exact UInt32.add_sub_cancel _ _
  · -- there was no writer, for the thread was a reader
    intro v u hv
    change (Function.update st.points t .signal v).isWriter = true at hv
    by_cases hvt : v = t
    · rw [hvt, Function.update_self] at hv
      cases hv
    · rw [Function.update_of_ne hvt] at hv
      refine absurd ?_ (h.writer v t hv)
      rw [hp]
      rfl
  · -- a thread that is about to wait would hold `_readLock`
    intro v hv
    change Function.update st.points t .signal v = .wait at hv
    by_cases hvt : v = t
    · rw [hvt, Function.update_self] at hv
      cases hv
    · rw [Function.update_of_ne hvt] at hv
      refine absurd (h.read.unique ?_ ?_) hvt
      · rw [hv]
        rfl
      · rw [hp]
        rfl

theorem RwInv.nonempty_of_count (h : RwInv st) (hcount : st.readersCount ≠ 0) : (readers st.points).Nonempty := by
  rw [Finset.nonempty_iff_ne_empty]
  intro hempty
  apply hcount
  rw [h.count, hempty]
  rfl

/-! ### The signal -/

/-- The points after a signal. -/
def RwState.signalled (st : RwState τ) (unblocks : τ → Bool) (u : τ) : RwPoint :=
  if st.Unblocked unblocks u then .waiting true else st.points u

omit [DecidableEq τ] [Fintype τ] in
theorem signalled_eq (unblocks : τ → Bool) (f : RwPoint → Bool) (hf : f (.waiting true) = f (.waiting false)) (u : τ) :
    f (st.signalled unblocks u) = f (st.points u) := by
  unfold RwState.signalled
  split_ifs with hu
  · rw [hu.1, hf]
  · rfl

omit [DecidableEq τ] [Fintype τ] in
theorem signalled_points {unblocks : τ → Bool} {u : τ} {p : RwPoint} (hp : p ≠ .waiting true)
    (h : st.signalled unblocks u = p) : st.points u = p := by
  unfold RwState.signalled at h
  split_ifs at h
  · exact absurd h.symm hp
  · exact h

/-- At most one thread waits, so the signal reaches it. -/
theorem RwInv.signalled_ne_blocked (h : RwInv st) {unblocks : τ → Bool}
    (hwakes : ¬((∃ u, st.points u = .waiting false) ∧ ¬∃ u, st.Unblocked unblocks u)) (v : τ) :
    st.signalled unblocks v ≠ .waiting false := by
  intro hv
  have hblocked : st.points v = .waiting false := signalled_points (by decide) hv
  obtain ⟨u, hu⟩ : ∃ u, st.Unblocked unblocks u := Classical.byContradiction fun hno => hwakes ⟨⟨v, hblocked⟩, hno⟩
  have hsame : u = v := by
    apply h.write.unique
    · rw [hu.1]
      rfl
    · rw [hblocked]
      rfl
  rw [hsame] at hu
  rw [RwState.signalled, if_pos hu] at hv
  cases hv

theorem RwInv.condSignal (h : RwInv st) (hp : st.points t = .signal) (unblocks : τ → Bool) :
    RwInv (st.condSignal t unblocks .releaseUnlock) := by
  unfold RwState.condSignal
  split_ifs with hwakes
  · exact h
  · have hreaders : readers (st.signalled unblocks) = readers st.points := by
      ext u
      rw [mem_readers, mem_readers, signalled_eq unblocks RwPoint.isReader rfl]
    have hnone := h.signalled_ne_blocked hwakes
    have hsignalled : RwInv { st with points := st.signalled unblocks } := by
      refine ⟨?_, ?_, ?_, ?_, ?_, fun v hv => absurd hv (hnone v)⟩
      · intro u
        show st.readLock.count u = (st.signalled unblocks u).inRead.toNat
        rw [signalled_eq unblocks RwPoint.inRead rfl]
        exact h.read u
      · intro u
        show st.writeLock.count u = (st.signalled unblocks u).inWrite.toNat
        rw [signalled_eq unblocks RwPoint.inWrite rfl]
        exact h.write u
      · show st.readersCount = UInt32.ofNat (readers (st.signalled unblocks)).card
        rw [hreaders, h.count]
      · intro v u
        show (st.signalled unblocks v).isWriter = true → ¬(st.signalled unblocks u).isReader = true
        rw [signalled_eq unblocks RwPoint.isWriter rfl, signalled_eq unblocks RwPoint.isReader rfl]
        exact h.writer v u
      · intro v hv
        show (readers (st.signalled unblocks)).Nonempty
        rw [hreaders]
        exact h.wait v (signalled_points (by decide) hv)
    have hat : ({ st with points := st.signalled unblocks } : RwState τ).points t = .signal := by
      show st.signalled unblocks t = .signal
      have hnot : ¬st.Unblocked unblocks t := by
        rintro ⟨hwaiting, -⟩
        rw [hp] at hwaiting
        cases hwaiting
      rw [RwState.signalled, if_neg hnot, hp]
    apply hsignalled.goto
    · refine ⟨?_, nofun, ?_, fun _ => Or.inr hnone⟩
      · rw [hat]
        rfl
      · rintro (hq | hq)
        · cases hq
        · cases hq
    · rw [hat]
      rfl
    · rw [hat]
      rfl

end Invariant

/-! ### Every interleaving -/

section Interleavings

variable {τ : Type} [DecidableEq τ] [ProcessThreads τ] {st : RwState τ}

theorem RwInv.readersCount_toNat (h : RwInv st) : st.readersCount.toNat = (readers st.points).card := by
  have hle : (readers st.points).card ≤ Fintype.card τ := Finset.card_le_univ _
  have hlt := @ProcessThreads.card_lt τ _
  rw [h.count]
  exact UInt32.toNat_ofNat_of_lt' (Nat.lt_of_le_of_lt hle hlt)

theorem RwInv.readers_eq_empty (h : RwInv st) (hcount : st.readersCount = 0) : readers st.points = ∅ := by
  rw [← Finset.card_eq_zero, ← h.readersCount_toNat, hcount]
  rfl

theorem rwInv_start : RwInv (RwState.start : RwState τ) := by
  refine ⟨fun _ => rfl, fun _ => rfl, ?_, nofun, nofun, nofun⟩
  simp [RwState.start, readers, RwPoint.isReader]

theorem RwInv.test (h : RwInv st) {t : τ} (hp : st.points t = .test) :
    RwInv (st.goto t (if st.readersCount > 0 then .wait else .writerUnlock)) := by
  split_ifs with hcount
  · have hsome := h.nonempty_of_count (UInt32.pos_iff_ne_zero.1 hcount)
    apply h.goto
    · exact ⟨by rw [hp]; rfl, nofun, fun _ => Or.inr hsome, fun _ => Or.inl hsome⟩
    · rw [hp]
      rfl
    · rw [hp]
      rfl
  · have hnone := h.readers_eq_empty (Classical.not_not.1 fun hne => hcount (UInt32.pos_iff_ne_zero.2 hne))
    apply h.goto
    · refine ⟨by rw [hp]; rfl, fun _ => Or.inr hnone, ?_, ?_⟩
      · rintro (hq | hq)
        · cases hq
        · cases hq
      · intro hsignal
        rw [hp] at hsignal
        cases hsignal
    · rw [hp]
      rfl
    · rw [hp]
      rfl

theorem RwInv.step (h : RwInv st) (step : RwStep τ) : RwInv (rwStep step st) := by
  unfold rwStep
  dsimp only
  cases hp : st.points step.thread with
  | idle =>
    cases step.writes with
    | true => exact h.goto (.plain hp rfl nofun (by decide) (by decide)) (by rw [hp]; rfl) (by rw [hp]; rfl)
    | false => exact h.goto (.plain hp rfl nofun (by decide) (by decide)) (by rw [hp]; rfl) (by rw [hp]; rfl)
  | reading => exact h.goto (.plain hp rfl nofun (by decide) (by decide)) (by rw [hp]; rfl) (by rw [hp]; rfl)
  | waiting b => exact h.goto (.plain hp rfl nofun ⟨by decide, nofun⟩ nofun) (by rw [hp]; rfl) (by rw [hp]; rfl)
  | readerEnter | writerEnter =>
    exact h.lockWrite (.plain hp rfl nofun (by decide) (by decide)) (by rw [hp]; rfl) rfl (by rw [hp]; rfl)
  | readerLock | releaseLock | writerLock | relock =>
    exact h.lockRead (.plain hp rfl nofun (by decide) (by decide)) (by rw [hp]; rfl) rfl (by rw [hp]; rfl)
  | readerUnlock | releaseUnlock | wait | writerUnlock =>
    exact h.unlockRead (.plain hp rfl (by decide) (by decide) (by decide)) (by rw [hp]; rfl) rfl (by rw [hp]; rfl)
  | readerLeave | writing =>
    exact h.unlockWrite (.plain hp rfl nofun (by decide) (by decide)) (by rw [hp]; rfl) rfl (by rw [hp]; rfl)
  | increment => exact h.increment hp
  | decrement => exact h.decrement hp
  | test => exact h.test hp
  | signal =>
    dsimp only
    split_ifs with hcount
    · exact h.condSignal hp step.unblocks
    · have hsome := h.nonempty_of_count hcount
      apply h.goto
      · refine ⟨by rw [hp]; rfl, nofun, ?_, fun _ => Or.inl hsome⟩
        intro hq
        exact Or.inr hsome
      · rw [hp]
        rfl
      · rw [hp]
        rfl

theorem RwInv.safe (h : RwInv st) : RwSafe st := by
  have hwriter : ∀ p : RwPoint, p.isWriter = true → p.inWrite = true := by
    intro p hp
    cases p <;> first | rfl | cases hp
  refine ⟨?_, fun _ => h.readersCount_toNat, ?_, ?_⟩
  · intro t u hne ht
    exact ⟨fun hu => hne (h.write.unique (hwriter _ ht) (hwriter _ hu)), h.writer t u ht⟩
  · intro t ht
    rw [UInt32.pos_iff_ne_zero]
    intro hcount
    have hmem : t ∈ readers st.points := by simp [ht, RwPoint.isReader]
    rw [h.readers_eq_empty hcount] at hmem
    exact Finset.notMem_empty t hmem
  · intro t signalled ht hcount hfree
    cases signalled with
    | true => rfl
    | false =>
      -- the last reader is about to signal, and holds `_readLock`
      rcases h.waiting t ht with hsome | ⟨u, hu⟩
      · rw [h.readers_eq_empty hcount] at hsome
        exact absurd hsome Finset.not_nonempty_empty
      · refine absurd hfree (h.read.ne_free (t := u) ?_)
        rw [hu]
        rfl

/-- Whatever the threads do, the lock keeps its promises. -/
theorem rwSafe_run (steps : List (RwStep τ)) : RwSafe (afterCalls rwStep steps (RwState.start : RwState τ)) := by
  have hinv : RwInv (afterCalls rwStep steps (RwState.start : RwState τ)) := by
    induction steps using List.reverseRecOn with
    | nil => exact rwInv_start
    | append_singleton steps step ih =>
      rw [afterCalls_concat]
      exact ih.step step
  exact hinv.safe

instance : ProcessThreads Bool where
  card_lt := by decide

/-- A thread moves; the other one is unblocked by its signal. -/
def rwMoves (t : Bool) (writes : Bool) (n : Nat) : List (RwStep Bool) := List.replicate n ⟨t, writes, fun _ => true⟩

/-- A writer comes while the other thread reads: it waits, is signalled, and gets the lock. -/
example : (afterCalls rwStep (rwMoves false false 6 ++ rwMoves true true 5) RwState.start).points true = .waiting false ∧
    (afterCalls rwStep (rwMoves false false 6 ++ rwMoves true true 5 ++ rwMoves false false 5) RwState.start).points true =
      .waiting true ∧
    (afterCalls rwStep (rwMoves false false 6 ++ rwMoves true true 5 ++ rwMoves false false 5 ++ rwMoves true true 4)
      RwState.start).points true = .writing := by
  decide

end Interleavings

end DalHost

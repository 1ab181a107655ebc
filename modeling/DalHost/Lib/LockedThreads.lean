import DalHost.Lib.Calls
import Mathlib.Logic.Function.Basic
import Mathlib.Data.List.Nodup

/-!
# Threads under a reader/writer lock

Any number of threads share a memory, a reader/writer lock and a mutex. A thread stands at a point of its program; its
next step is an operation on one of the locks, or a step of its own on the memory. The locks do what they promise: a
writer is alone, and readers keep writers out.

A program says of each point which locks are held there, and carries the proof that its points agree about it. Then
every thread holds exactly the locks of its point (`holds_step`). For what is true of the memory there is one rule,
`guarded_step`: what holds while there is no writer, what a thread relies on at its point, and that each step keeps both.
-/

namespace DalHost

inductive LockOp
  | none
  | takeWriter
  | giveWriter
  | takeReader
  | giveReader
  | takeMutex
  | giveMutex
  deriving DecidableEq

/-- The locks that a thread holds. -/
structure HeldLocks where
  writer : Bool
  reader : Bool
  mutex : Bool
  deriving DecidableEq

def LockOp.after : LockOp → HeldLocks → HeldLocks
  | none, h => h
  | takeWriter, h => { h with writer := true }
  | giveWriter, h => { h with writer := false }
  | takeReader, h => { h with reader := true }
  | giveReader, h => { h with reader := false }
  | takeMutex, h => { h with mutex := true }
  | giveMutex, h => { h with mutex := false }

/-- Programs over points `π`, with a memory `γ`; a step may depend on a choice `α`. -/
structure LockedProgram (π γ α : Type) where
  op : π → LockOp
  next : α → π → γ → π × γ
  held : π → HeldLocks
  held_next : ∀ x p m, held (next x p m).1 = (op p).after (held p)
  give_writer : ∀ p, op p = .giveWriter → (held p).writer = true
  give_reader : ∀ p, op p = .giveReader → (held p).reader = true
  give_mutex : ∀ p, op p = .giveMutex → (held p).mutex = true
  take_reader : ∀ p, op p = .takeReader → (held p).reader = false
  /-- Who works on a lock leaves the memory alone. -/
  lock_mem : ∀ x p m, op p ≠ .none → (next x p m).2 = m

namespace LockedProgram

variable {π γ α : Type} (P : LockedProgram π γ α)

def writes (p : π) : Bool := (P.held p).writer

def reads (p : π) : Bool := (P.held p).reader

def locks (p : π) : Bool := (P.held p).mutex

theorem writes_next (x : α) (p : π) (m : γ) : P.writes (P.next x p m).1 =
    if P.op p = .takeWriter then true else if P.op p = .giveWriter then false else P.writes p := by
  unfold writes
  rw [P.held_next]
  cases P.op p <;> rfl

theorem reads_next (x : α) (p : π) (m : γ) : P.reads (P.next x p m).1 =
    if P.op p = .takeReader then true else if P.op p = .giveReader then false else P.reads p := by
  unfold reads
  rw [P.held_next]
  cases P.op p <;> rfl

theorem locks_next (x : α) (p : π) (m : γ) : P.locks (P.next x p m).1 =
    if P.op p = .takeMutex then true else if P.op p = .giveMutex then false else P.locks p := by
  unfold locks
  rw [P.held_next]
  cases P.op p <;> rfl

end LockedProgram

/-- The threads `τ` with their memory and the two locks. -/
structure LockedThreads (τ π γ : Type) where
  point : τ → π
  mem : γ
  writer : Option τ
  readers : List τ
  mutex : Option τ

variable {τ π γ α : Type} [DecidableEq τ]

namespace LockedThreads

variable (P : LockedProgram π γ α)

def start (p : π) (m : γ) : LockedThreads τ π γ := ⟨fun _ => p, m, none, [], none⟩

/-- The thread goes on. -/
def move (x : α) (t : τ) (s : LockedThreads τ π γ) : LockedThreads τ π γ :=
  { s with point := Function.update s.point t (P.next x (s.point t) s.mem).1, mem := (P.next x (s.point t) s.mem).2 }

/-- One step of a thread; it stays where it is until the lock is available. -/
def step (c : τ × α) (s : LockedThreads τ π γ) : LockedThreads τ π γ :=
  match P.op (s.point c.1) with
  | .none => s.move P c.2 c.1
  | .takeWriter => if s.writer = none ∧ s.readers = [] then { s.move P c.2 c.1 with writer := some c.1 } else s
  | .giveWriter => { s.move P c.2 c.1 with writer := none }
  | .takeReader => if s.writer = none then { s.move P c.2 c.1 with readers := c.1 :: s.readers } else s
  | .giveReader => { s.move P c.2 c.1 with readers := s.readers.erase c.1 }
  | .takeMutex => if s.mutex = none then { s.move P c.2 c.1 with mutex := some c.1 } else s
  | .giveMutex => { s.move P c.2 c.1 with mutex := none }

/-- Every thread holds exactly the locks of its point, and a writer is alone. -/
structure Holds (s : LockedThreads τ π γ) : Prop where
  writer : ∀ t, s.writer = some t ↔ P.writes (s.point t) = true
  readers : ∀ t, t ∈ s.readers ↔ P.reads (s.point t) = true
  mutex : ∀ t, s.mutex = some t ↔ P.locks (s.point t) = true
  nodup : s.readers.Nodup
  alone : s.writer ≠ none → s.readers = []

end LockedThreads

section Holds

variable {P : LockedProgram π γ α} {s : LockedThreads τ π γ} {t u : τ} {x : α}

open LockedThreads

@[simp] theorem point_move_self : (s.move P x t).point t = (P.next x (s.point t) s.mem).1 := Function.update_self ..

theorem point_move_of_ne (h : u ≠ t) : (s.move P x t).point u = s.point u := Function.update_of_ne h ..

@[simp] theorem mem_move : (s.move P x t).mem = (P.next x (s.point t) s.mem).2 := rfl

section Held

variable {held : π → Bool} {take give : LockOp}
  (hnext : ∀ x p m, held (P.next x p m).1 = if P.op p = take then true else if P.op p = give then false else held p)
include hnext

theorem held_move_of_ne (htake : P.op (s.point t) ≠ take) (hgive : P.op (s.point t) ≠ give) (u : τ) :
    held ((s.move P x t).point u) = held (s.point u) := by
  by_cases hu : u = t
  · rw [hu, point_move_self, hnext, if_neg htake, if_neg hgive]
  · rw [point_move_of_ne hu]

theorem held_move_of_take (htake : P.op (s.point t) = take) (u : τ) :
    held ((s.move P x t).point u) = true ↔ u = t ∨ held (s.point u) = true := by
  by_cases hu : u = t
  · rw [hu, point_move_self, hnext, if_pos htake]
    exact ⟨fun _ => .inl rfl, fun _ => rfl⟩
  · rw [point_move_of_ne hu]
    exact ⟨.inr, fun h => h.resolve_left hu⟩

theorem held_move_of_give (htake : P.op (s.point t) ≠ take) (hgive : P.op (s.point t) = give) (u : τ) :
    held ((s.move P x t).point u) = true ↔ u ≠ t ∧ held (s.point u) = true := by
  by_cases hu : u = t
  · rw [hu, point_move_self, hnext, if_neg htake, if_pos hgive]
    exact ⟨fun h => (Bool.false_ne_true h).elim, fun h => absurd rfl h.1⟩
  · rw [point_move_of_ne hu]
    exact ⟨fun h => ⟨hu, h⟩, fun h => h.2⟩

end Held

theorem LockedThreads.Holds.writer_iff (h : s.Holds P) (htake : P.op (s.point t) ≠ .takeWriter)
    (hgive : P.op (s.point t) ≠ .giveWriter) (u : τ) : s.writer = some u ↔ P.writes ((s.move P x t).point u) = true := by
  rw [held_move_of_ne P.writes_next htake hgive]
  exact h.writer u

theorem LockedThreads.Holds.readers_iff (h : s.Holds P) (htake : P.op (s.point t) ≠ .takeReader)
    (hgive : P.op (s.point t) ≠ .giveReader) (u : τ) : u ∈ s.readers ↔ P.reads ((s.move P x t).point u) = true := by
  rw [held_move_of_ne P.reads_next htake hgive]
  exact h.readers u

theorem LockedThreads.Holds.mutex_iff (h : s.Holds P) (htake : P.op (s.point t) ≠ .takeMutex)
    (hgive : P.op (s.point t) ≠ .giveMutex) (u : τ) : s.mutex = some u ↔ P.locks ((s.move P x t).point u) = true := by
  rw [held_move_of_ne P.locks_next htake hgive]
  exact h.mutex u

omit [DecidableEq τ] in
theorem holds_start {p : π} (hwrites : P.writes p = false) (hreads : P.reads p = false) (hlocks : P.locks p = false) (m : γ) :
    (start p m : LockedThreads τ π γ).Holds P where
  writer t := by simp [start, hwrites]
  readers t := by simp [start, hreads]
  mutex t := by simp [start, hlocks]
  nodup := List.nodup_nil
  alone _ := rfl

theorem holds_step (h : s.Holds P) (c : τ × α) : (s.step P c).Holds P := by
  obtain ⟨t, x⟩ := c
  unfold LockedThreads.step
  dsimp only
  cases hop : P.op (s.point t) with
  | none =>
    exact ⟨h.writer_iff (by rw [hop]; decide) (by rw [hop]; decide), h.readers_iff (by rw [hop]; decide) (by rw [hop]; decide),
      h.mutex_iff (by rw [hop]; decide) (by rw [hop]; decide), h.nodup, h.alone⟩
  | takeWriter =>
    dsimp only
    split_ifs with hfree
    · refine ⟨fun u => ?_, h.readers_iff (by rw [hop]; decide) (by rw [hop]; decide),
        h.mutex_iff (by rw [hop]; decide) (by rw [hop]; decide), h.nodup, fun _ => hfree.2⟩
      -- nobody held it before
      rw [held_move_of_take P.writes_next hop, ← h.writer u, hfree.1]
      simp [eq_comm]
    · exact h
  | giveWriter =>
    refine ⟨fun u => ?_, h.readers_iff (by rw [hop]; decide) (by rw [hop]; decide),
      h.mutex_iff (by rw [hop]; decide) (by rw [hop]; decide), h.nodup, fun hne => absurd rfl hne⟩
    rw [held_move_of_give P.writes_next (by rw [hop]; decide) hop, ← h.writer u, (h.writer t).2 (P.give_writer _ hop)]
    simp [eq_comm]
  | takeReader =>
    dsimp only
    split_ifs with hfree
    · refine ⟨h.writer_iff (by rw [hop]; decide) (by rw [hop]; decide), fun u => ?_,
        h.mutex_iff (by rw [hop]; decide) (by rw [hop]; decide), ?_, fun hne => absurd hfree hne⟩
      · rw [held_move_of_take P.reads_next hop, ← h.readers u]
        exact List.mem_cons
      · refine List.nodup_cons.2 ⟨fun hmem => ?_, h.nodup⟩
        rw [h.readers t, LockedProgram.reads, P.take_reader _ hop] at hmem
        cases hmem
    · exact h
  | giveReader =>
    refine ⟨h.writer_iff (by rw [hop]; decide) (by rw [hop]; decide), fun u => ?_,
      h.mutex_iff (by rw [hop]; decide) (by rw [hop]; decide), h.nodup.erase t, fun hne => ?_⟩
    · rw [held_move_of_give P.reads_next (by rw [hop]; decide) hop, ← h.readers u]
      exact h.nodup.mem_erase_iff
    · show s.readers.erase t = []
      rw [h.alone hne]
      rfl
  | takeMutex =>
    dsimp only
    split_ifs with hfree
    · refine ⟨h.writer_iff (by rw [hop]; decide) (by rw [hop]; decide), h.readers_iff (by rw [hop]; decide) (by rw [hop]; decide),
        fun u => ?_, h.nodup, h.alone⟩
      rw [held_move_of_take P.locks_next hop, ← h.mutex u, hfree]
      simp [eq_comm]
    · exact h
  | giveMutex =>
    refine ⟨h.writer_iff (by rw [hop]; decide) (by rw [hop]; decide), h.readers_iff (by rw [hop]; decide) (by rw [hop]; decide),
      fun u => ?_, h.nodup, h.alone⟩
    rw [held_move_of_give P.locks_next (by rw [hop]; decide) hop, ← h.mutex u, (h.mutex t).2 (P.give_mutex _ hop)]
    simp [eq_comm]

/-- The thread went on, and what became of the writer lock. -/
structure Moved (P : LockedProgram π γ α) (t : τ) (x : α) (s s' : LockedThreads τ π γ) : Prop where
  point : s'.point = (s.move P x t).point
  mem : s'.mem = (P.next x (s.point t) s.mem).2
  writer : P.op (s.point t) = .takeWriter ∧ s.writer = none ∧ s.readers = [] ∧ s'.writer = some t ∨
    P.op (s.point t) = .giveWriter ∧ s'.writer = none ∨
    P.op (s.point t) ≠ .takeWriter ∧ P.op (s.point t) ≠ .giveWriter ∧ s'.writer = s.writer

theorem step_eq_or_moved (c : τ × α) (s : LockedThreads τ π γ) : s.step P c = s ∨ Moved P c.1 c.2 s (s.step P c) := by
  obtain ⟨t, x⟩ := c
  unfold LockedThreads.step
  dsimp only
  cases hop : P.op (s.point t) with
  | none => exact .inr ⟨rfl, rfl, .inr (.inr ⟨by rw [hop]; decide, by rw [hop]; decide, rfl⟩)⟩
  | takeWriter =>
    dsimp only
    split_ifs with hfree
    · exact .inr ⟨rfl, rfl, .inl ⟨hop, hfree.1, hfree.2, rfl⟩⟩
    · exact .inl rfl
  | giveWriter => exact .inr ⟨rfl, rfl, .inr (.inl ⟨hop, rfl⟩)⟩
  | takeReader | takeMutex =>
    dsimp only
    split_ifs
    · exact .inr ⟨rfl, rfl, .inr (.inr ⟨by rw [hop]; decide, by rw [hop]; decide, rfl⟩)⟩
    · exact .inl rfl
  | giveReader | giveMutex => exact .inr ⟨rfl, rfl, .inr (.inr ⟨by rw [hop]; decide, by rw [hop]; decide, rfl⟩)⟩

theorem Moved.point_self {s' : LockedThreads τ π γ} (h : Moved P t x s s') : s'.point t = (P.next x (s.point t) s.mem).1 := by
  rw [h.point, point_move_self]

theorem Moved.point_of_ne {s' : LockedThreads τ π γ} (h : Moved P t x s s') (hu : u ≠ t) : s'.point u = s.point u := by
  rw [h.point, point_move_of_ne hu]

end Holds

/-! ### One thread alone -/

section Alone

/-- Some steps of one thread, none of which works on a lock. -/
def LockedProgram.alone (P : LockedProgram π γ α) (x : α) : Nat → π × γ → Option (π × γ)
  | 0, c => some c
  | n + 1, c => if P.op c.1 = .none then P.alone x n (P.next x c.1 c.2) else none

variable {P : LockedProgram π γ α} {s : LockedThreads τ π γ} {t : τ} {x : α}

open LockedThreads

theorem afterCalls_alone {n : Nat} {p : π} {m : γ} (h : P.alone x n (s.point t, s.mem) = some (p, m)) :
    (afterCalls (LockedThreads.step P) (List.replicate n (t, x)) s).point t = p ∧
      (afterCalls (LockedThreads.step P) (List.replicate n (t, x)) s).mem = m ∧
      (afterCalls (LockedThreads.step P) (List.replicate n (t, x)) s).writer = s.writer ∧
      (afterCalls (LockedThreads.step P) (List.replicate n (t, x)) s).readers = s.readers := by
  induction n generalizing s with
  | zero =>
    cases h
    exact ⟨rfl, rfl, rfl, rfl⟩
  | succ n ih =>
    simp only [LockedProgram.alone] at h
    split_ifs at h with hop
    have hstep : s.step P (t, x) = s.move P x t := by
      simp only [LockedThreads.step, hop]
    rw [List.replicate_succ, afterCalls_cons, hstep]
    exact ih (by rwa [point_move_self])

end Alone

/-! ### What is true of the memory -/

/-- What is true of the memory while nobody writes, what a thread relies on at its point, and that the steps keep it. -/
structure Guards (P : LockedProgram π γ α) where
  free : γ → Prop
  own : π → γ → Prop
  steps : ∀ x p m, P.op p = .none → own p m → (P.reads p = true → free m) → own (P.next x p m).1 (P.next x p m).2
  /-- The other threads, but those that the lock keeps out. -/
  others : ∀ x p m q, P.op p = .none → own p m → (P.reads p = true → free m) →
    (P.writes p = true → P.writes q = false ∧ P.reads q = false) → (P.reads p = true → P.writes q = false) →
    own q m → own q (P.next x p m).2
  keeps_free : ∀ x p m, P.op p = .none → P.writes p = false → own p m → free m → free (P.next x p m).2
  lock_steps : ∀ x p m, P.op p ≠ .none → own p m → (P.op p = .takeWriter ∨ P.op p = .takeReader → free m) →
    own (P.next x p m).1 m
  gives : ∀ p m, P.op p = .giveWriter → own p m → free m

/-- The memory is as the guards say. -/
structure Guarded {P : LockedProgram π γ α} (G : Guards P) (s : LockedThreads τ π γ) : Prop where
  holds : s.Holds P
  free : s.writer = none → G.free s.mem
  own : ∀ t, G.own (s.point t) s.mem

section Guarded

variable {P : LockedProgram π γ α} {G : Guards P} {s : LockedThreads τ π γ} {t : τ} {x : α}

open LockedThreads

omit [DecidableEq τ] in
theorem LockedThreads.Holds.no_writer (h : s.Holds P) (ht : P.reads (s.point t) = true) : s.writer = none := by
  refine Classical.byContradiction fun hne => ?_
  have hmem := (h.readers t).2 ht
  rw [h.alone hne] at hmem
  cases hmem

omit [DecidableEq τ] in
theorem LockedThreads.Holds.writer_unique {u : τ} (h : s.Holds P) (ht : P.writes (s.point t) = true)
    (hu : P.writes (s.point u) = true) : u = t := by
  have heq := (h.writer u).2 hu
  rw [(h.writer t).2 ht] at heq
  exact (Option.some.inj heq).symm

theorem own_move_of_none (h : Guarded G s) (hop : P.op (s.point t) = .none) (u : τ) :
    G.own ((s.move P x t).point u) (s.move P x t).mem := by
  have hfree : P.reads (s.point t) = true → G.free s.mem := fun hreads => h.free (h.holds.no_writer hreads)
  by_cases hu : u = t
  · rw [hu, point_move_self]
    exact G.steps x _ _ hop (h.own t) hfree
  · rw [point_move_of_ne hu]
    refine G.others x _ _ _ hop (h.own t) hfree (fun hwrites => ⟨?_, ?_⟩) (fun hreads => ?_) (h.own u)
    · refine Bool.eq_false_iff.2 fun hwrites' => hu (h.holds.writer_unique hwrites hwrites')
    · refine Bool.eq_false_iff.2 fun hreads => ?_
      have hnone := h.holds.no_writer hreads
      rw [(h.holds.writer t).2 hwrites] at hnone
      cases hnone
    · refine Bool.eq_false_iff.2 fun hwrites => ?_
      have hnone := h.holds.no_writer hreads
      rw [(h.holds.writer u).2 hwrites] at hnone
      cases hnone

theorem own_move_of_lock (h : Guarded G s) (hop : P.op (s.point t) ≠ .none)
    (hfree : P.op (s.point t) = .takeWriter ∨ P.op (s.point t) = .takeReader → s.writer = none) (u : τ) :
    G.own ((s.move P x t).point u) (s.move P x t).mem := by
  rw [mem_move, P.lock_mem _ _ _ hop]
  by_cases hu : u = t
  · rw [hu, point_move_self]
    exact G.lock_steps x _ _ hop (h.own t) fun htake => h.free (hfree htake)
  · rw [point_move_of_ne hu]
    exact h.own u

theorem guarded_step (h : Guarded G s) (c : τ × α) : Guarded G (s.step P c) := by
  have hholds := holds_step h.holds c
  obtain ⟨t, x⟩ := c
  refine ⟨hholds, ?_, ?_⟩
  · intro hnone
    unfold LockedThreads.step at hnone ⊢
    dsimp only at hnone ⊢
    cases hop : P.op (s.point t) with
    | none =>
      simp only [hop] at hnone ⊢
      refine G.keeps_free x _ _ hop ?_ (h.own t) (h.free hnone)
      refine Bool.eq_false_iff.2 fun hwrites => ?_
      have hsome := (h.holds.writer t).2 hwrites
      rw [show s.writer = none from hnone] at hsome
      cases hsome
    | takeWriter =>
      simp only [hop] at hnone ⊢
      split_ifs at hnone ⊢
      exact h.free hnone
    | giveWriter =>
      rw [mem_move, P.lock_mem _ _ _ (by rw [hop]; decide)]
      exact G.gives _ _ hop (h.own t)
    | takeReader =>
      simp only [hop] at hnone ⊢
      split_ifs at hnone ⊢ with hfree
      · rw [mem_move, P.lock_mem _ _ _ (by rw [hop]; decide)]
        exact h.free hfree
      · exact h.free hnone
    | giveReader =>
      simp only [hop] at hnone
      rw [mem_move, P.lock_mem _ _ _ (by rw [hop]; decide)]
      exact h.free hnone
    | takeMutex =>
      simp only [hop] at hnone ⊢
      split_ifs at hnone ⊢
      · rw [mem_move, P.lock_mem _ _ _ (by rw [hop]; decide)]
        exact h.free hnone
      · exact h.free hnone
    | giveMutex =>
      simp only [hop] at hnone
      rw [mem_move, P.lock_mem _ _ _ (by rw [hop]; decide)]
      exact h.free hnone
  · intro u
    unfold LockedThreads.step
    dsimp only
    cases hop : P.op (s.point t) with
    | none => exact own_move_of_none h hop u
    | takeWriter =>
      dsimp only
      split_ifs with hfree
      · exact own_move_of_lock h (by rw [hop]; decide) (fun _ => hfree.1) u
      · exact h.own u
    | takeReader =>
      dsimp only
      split_ifs with hfree
      · exact own_move_of_lock h (by rw [hop]; decide) (fun _ => hfree) u
      · exact h.own u
    | takeMutex =>
      dsimp only
      split_ifs with hfree
      · exact own_move_of_lock h (by rw [hop]; decide) (fun htake => by rw [hop] at htake; cases htake <;> contradiction) u
      · exact h.own u
    | giveWriter | giveReader | giveMutex =>
      exact own_move_of_lock h (by rw [hop]; decide) (fun htake => by rw [hop] at htake; cases htake <;> contradiction) u

/-- What the guards say holds along every run. -/
theorem guarded_run (h : Guarded G s) (steps : List (τ × α)) : Guarded G (afterCalls (LockedThreads.step P) steps s) := by
  induction steps generalizing s with
  | nil => exact h
  | cons c steps ih => exact ih (guarded_step h c)

end Guarded

end DalHost

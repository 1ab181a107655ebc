import Mathlib.Logic.Function.Basic
import Mathlib.Tactic.SplitIfs

/-!
# Recursive mutexes

A recursive mutex is free or held by one thread a number of times. The thread that holds it may take it again; a
release by a thread that does not hold it fails and changes nothing. All that an invariant needs to know is how often
each thread holds the lock, so the operations are described by what they do to these counts.
-/

namespace DalHost

/-- `some (t, n)`: thread `t` holds the lock `n + 1` times. -/
structure RecursiveLock (τ : Type) where
  holder : Option (τ × Nat)
  deriving DecidableEq

namespace RecursiveLock

variable {τ : Type} [DecidableEq τ]

def free : RecursiveLock τ := ⟨none⟩

/-- How often the thread holds the lock. -/
def count (l : RecursiveLock τ) (t : τ) : Nat :=
  match l.holder with
  | none => 0
  | some (u, n) => if u = t then n + 1 else 0

/-- The thread need not wait. -/
def available (l : RecursiveLock τ) (t : τ) : Bool :=
  match l.holder with
  | none => true
  | some (u, _) => u = t

/-- Take the lock, once it is available. -/
def acquire (l : RecursiveLock τ) (t : τ) : RecursiveLock τ := ⟨some (t, l.count t)⟩

def release (l : RecursiveLock τ) (t : τ) : RecursiveLock τ :=
  match l.count t with
  | 0 => l
  | 1 => free
  | n + 2 => ⟨some (t, n)⟩

theorem eq_of_count_ne_zero {l : RecursiveLock τ} {t u : τ} (ht : l.count t ≠ 0) (hu : l.count u ≠ 0) : t = u := by
  unfold count at ht hu
  cases hholder : l.holder with
  | none =>
    rw [hholder] at ht
    exact absurd rfl ht
  | some p =>
    rw [hholder] at ht hu
    dsimp only at ht hu
    split_ifs at ht hu with hpt hpu
    · exact hpt.symm.trans hpu
    all_goals contradiction

theorem count_eq_zero_of_ne {l : RecursiveLock τ} {t u : τ} (ht : l.count t ≠ 0) (hne : u ≠ t) : l.count u = 0 :=
  Classical.byContradiction fun hu => hne (eq_of_count_ne_zero hu ht)

theorem available_iff {l : RecursiveLock τ} {t : τ} : l.available t = true ↔ ∀ u, u ≠ t → l.count u = 0 := by
  unfold available count
  cases l.holder with
  | none => exact ⟨fun _ _ _ => rfl, fun _ => rfl⟩
  | some p =>
    dsimp only
    constructor
    · intro h u hne
      rw [decide_eq_true_eq] at h
      exact if_neg fun hu => hne (hu.symm.trans h)
    · intro h
      rw [decide_eq_true_eq]
      refine Classical.byContradiction fun hne => ?_
      have hzero := h p.1 hne
      rw [if_pos rfl] at hzero
      cases hzero

theorem count_acquire_self (l : RecursiveLock τ) (t : τ) : (l.acquire t).count t = l.count t + 1 := by
  show (if t = t then l.count t + 1 else 0) = _
  exact if_pos rfl

theorem count_acquire_of_ne {l : RecursiveLock τ} {t u : τ} (hne : u ≠ t) : (l.acquire t).count u = 0 := by
  show (if t = u then l.count t + 1 else 0) = _
  exact if_neg fun h => hne h.symm

theorem count_release_self (l : RecursiveLock τ) (t : τ) : (l.release t).count t = l.count t - 1 := by
  unfold release
  cases hcount : l.count t with
  | zero => exact hcount
  | succ n =>
    cases n with
    | zero => rfl
    | succ n => exact if_pos rfl

theorem count_release_of_ne {l : RecursiveLock τ} {t u : τ} (hne : u ≠ t) : (l.release t).count u = l.count u := by
  unfold release
  cases hcount : l.count t with
  | zero => rfl
  | succ n =>
    have hzero : l.count u = 0 := count_eq_zero_of_ne (t := t) (by rw [hcount]; exact Nat.succ_ne_zero n) hne
    cases n with
    | zero => exact hzero.symm
    | succ n =>
      rw [hzero]
      exact if_neg fun h => hne h.symm

/-! ### Code that locks once -/

/-- Each thread holds the lock once while it is inside, and else not at all. -/
def HeldInside (l : RecursiveLock τ) (inside : τ → Bool) : Prop := ∀ t, l.count t = (inside t).toNat

section HeldInside

variable {l : RecursiveLock τ} {inside : τ → Bool} {t : τ}

theorem HeldInside.unique (h : l.HeldInside inside) {u : τ} (ht : inside t = true) (hu : inside u = true) : t = u := by
  apply eq_of_count_ne_zero (l := l)
  · rw [h, ht]
    exact Nat.one_ne_zero
  · rw [h, hu]
    exact Nat.one_ne_zero

theorem HeldInside.ne_free (h : l.HeldInside inside) (ht : inside t = true) : l ≠ free := by
  rintro rfl
  have hcount := h t
  rw [ht] at hcount
  cases hcount

theorem HeldInside.acquire (h : l.HeldInside inside) (havailable : l.available t = true) (ht : inside t = false) :
    (l.acquire t).HeldInside (Function.update inside t true) := by
  intro u
  by_cases hu : u = t
  · rw [hu, Function.update_self, count_acquire_self, h, ht]
    rfl
  · rw [Function.update_of_ne hu, count_acquire_of_ne hu, ← h, available_iff.1 havailable u hu]

theorem HeldInside.release (h : l.HeldInside inside) (ht : inside t = true) :
    (l.release t).HeldInside (Function.update inside t false) := by
  intro u
  by_cases hu : u = t
  · rw [hu, Function.update_self, count_release_self, h, ht]
    rfl
  · rw [Function.update_of_ne hu, count_release_of_ne hu, h]

end HeldInside

end RecursiveLock

end DalHost

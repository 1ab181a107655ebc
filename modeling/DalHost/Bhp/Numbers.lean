import DalHost.Bhp.Connection

/-!
# The numbers of the commands

All connections draw from one counter of 32 bits that skips zero. A number comes round again after
`2 ^ 32 - 1` draws, so that two records which are in use at once have the same number only if one of
them has outlived as many draws. Nothing in the code looks for that.
-/

namespace DalHost

theorem seqOf_eq (n : Nat) : seqOf (n + 1) = n % (2 ^ 32 - 1) + 1 := by
  induction n with
  | zero => rfl
  | succ n ih =>
    rw [seqOf, ih, incSeqno]
    split <;> omega

theorem seqOf_eq_zero_iff (n : Nat) : seqOf n = 0 ↔ n = 0 := by
  cases n with
  | zero => exact iff_of_true rfl rfl
  | succ n =>
    rw [seqOf_eq]
    omega

/-- Two draws give the same number if and only if a multiple of `2 ^ 32 - 1` draws lies between
them. -/
theorem seqOf_eq_iff {m n : Nat} (hm : 0 < m) (hmn : m ≤ n) :
    seqOf m = seqOf n ↔ (2 ^ 32 - 1) ∣ (n - m) := by
  obtain ⟨m, rfl⟩ := Nat.exists_eq_add_of_lt hm
  obtain ⟨k, rfl⟩ := Nat.exists_eq_add_of_le hmn
  rw [Nat.zero_add, Nat.add_right_comm, seqOf_eq, seqOf_eq, Nat.dvd_iff_mod_eq_zero]
  omega

/-- The record that the receiver has in its hands. -/
def RecvThread.handles : RecvThread → Option Nat
  | .found _ rr => rr
  | .waking n _ _ | .killing n _ => some n
  | _ => none

namespace ConnectionItem

variable {τ : Type} {s : ConnectionItem τ}

abbrev Live (s : ConnectionItem τ) (n : Nat) : Prop := (s.record n).freed = false

/-- The record is there, or the receiver goes on with it. -/
def InUse (s : ConnectionItem τ) (n : Nat) : Prop := s.Live n ∨ s.receiver.handles = some n

/-- A record is in use that has seen a whole round of the counter, or several, when the next number
is drawn. -/
def NumberInUse (s : ConnectionItem τ) : Prop :=
  ∃ n, 0 < n ∧ n ≤ s.drawn ∧ s.InUse n ∧ (2 ^ 32 - 1) ∣ (s.drawn + 1 - n)

/-- This is what it means that the next number is in use. -/
theorem numberInUse_iff :
    s.NumberInUse ↔ ∃ n, n ≤ s.drawn ∧ s.InUse n ∧ seqOf n = seqOf (s.drawn + 1) := by
  constructor
  · rintro ⟨n, hn, hborn, huse, hround⟩
    exact ⟨n, hborn, huse, (seqOf_eq_iff hn (Nat.le_succ_of_le hborn)).2 hround⟩
  · rintro ⟨n, hborn, huse, heq⟩
    have hn : 0 < n := by
      refine Nat.pos_of_ne_zero fun hzero => ?_
      rw [(seqOf_eq_zero_iff n).2 hzero, eq_comm, seqOf_eq_zero_iff] at heq
      omega
    exact ⟨n, hn, hborn, huse, (seqOf_eq_iff hn (Nat.le_succ_of_le hborn)).1 heq⟩

end ConnectionItem

end DalHost

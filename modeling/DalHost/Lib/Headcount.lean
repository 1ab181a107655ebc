import Mathlib.Data.List.Nodup
import Mathlib.Data.List.Basic

/-!
# Head counts

A counter counts the members of a set of threads if some list has each of them once and is as long as the counter says.
The set need not be finite a priori, and nothing is said about who comes first. A counter goes up by one when somebody
enters, down by one when somebody leaves, and is zero exactly when nobody is there.
-/

namespace DalHost

variable {τ : Type} {P P' : τ → Prop} {k : Nat} {t u : τ}

/-- `k` counts the members of `P`. -/
def Headcount (P : τ → Prop) (k : Nat) : Prop := ∃ L : List τ, L.Nodup ∧ (∀ t, t ∈ L ↔ P t) ∧ L.length = k

namespace Headcount

theorem empty (h : ∀ t, ¬P t) : Headcount P 0 :=
  ⟨[], List.nodup_nil, fun t => iff_of_false List.not_mem_nil (h t), rfl⟩

theorem single (h : ∀ u, P u ↔ u = t) : Headcount P 1 :=
  ⟨[t], List.nodup_singleton t, fun u => List.mem_singleton.trans (h u).symm, rfl⟩

theorem congr (h : Headcount P k) (heq : ∀ t, P' t ↔ P t) : Headcount P' k := by
  obtain ⟨L, hnodup, hmem, hlen⟩ := h
  exact ⟨L, hnodup, fun t => (hmem t).trans (heq t).symm, hlen⟩

theorem pos (h : Headcount P k) (ht : P t) : 0 < k := by
  obtain ⟨L, -, hmem, rfl⟩ := h
  exact List.length_pos_of_mem ((hmem t).2 ht)

theorem eq_zero_iff (h : Headcount P k) : k = 0 ↔ ∀ t, ¬P t := by
  constructor
  · intro hk t ht
    have hpos := h.pos ht
    omega
  · intro hnone
    obtain ⟨L, -, hmem, rfl⟩ := h
    exact List.length_eq_zero_iff.2 (List.eq_nil_iff_forall_not_mem.2 fun t ht => hnone t ((hmem t).1 ht))

theorem enter (h : Headcount P k) (ht : ¬P t) (heq : ∀ u, P' u ↔ u = t ∨ P u) : Headcount P' (k + 1) := by
  obtain ⟨L, hnodup, hmem, rfl⟩ := h
  refine ⟨t :: L, List.nodup_cons.2 ⟨fun hL => ht ((hmem t).1 hL), hnodup⟩, fun u => ?_, rfl⟩
  rw [List.mem_cons, heq, hmem]

theorem leave (h : Headcount P k) (ht : P t) (heq : ∀ u, P' u ↔ u ≠ t ∧ P u) : Headcount P' (k - 1) := by
  classical
  obtain ⟨L, hnodup, hmem, rfl⟩ := h
  refine ⟨L.erase t, hnodup.erase t, fun u => ?_, List.length_erase_of_mem ((hmem t).2 ht)⟩
  rw [hnodup.mem_erase_iff, heq, hmem]

theorem eq_of_le_one (h : Headcount P k) (hk : k ≤ 1) (ht : P t) (hu : P u) : t = u := by
  obtain ⟨L, hnodup, hmem, rfl⟩ := h
  match L, hnodup, hmem, hk with
  | [], _, hmem, _ => exact absurd ((hmem t).2 ht) List.not_mem_nil
  | [v], _, hmem, _ =>
    rw [List.mem_singleton.1 ((hmem t).2 ht), List.mem_singleton.1 ((hmem u).2 hu)]
  | _ :: _ :: L, _, _, hk =>
    rw [List.length_cons, List.length_cons] at hk
    omega

end Headcount

end DalHost

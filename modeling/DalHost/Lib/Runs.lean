import Mathlib.Logic.Relation

/-!
# Runs of a transition system

A system is a step relation on its states, and a run is a path of it: `Relation.ReflTransGen step`.
An invariant of the steps is an invariant of the runs, and a measure that goes down in every step
(in the states that satisfy an invariant) makes every run end.
-/

namespace DalHost

variable {σ : Type} {step : σ → σ → Prop}

open Relation (ReflTransGen)

/-- No step is possible. -/
def Terminal (step : σ → σ → Prop) (s : σ) : Prop := ∀ t, ¬step s t

/-- What every step keeps, every run keeps. -/
theorem invariant_of_run {I : σ → Prop} (hstep : ∀ s t, step s t → I s → I t) {s t : σ} (hrun : ReflTransGen step s t)
    (hs : I s) : I t := by
  induction hrun with
  | refl => exact hs
  | tail _ hst ih => exact hstep _ _ hst ih

section Measure

variable {I : σ → Prop} (hstep : ∀ s t, step s t → I s → I t) (size : σ → Nat)
  (hsize : ∀ s t, step s t → I s → size t < size s)

include hstep hsize

theorem no_infinite_run (f : Nat → σ) (h0 : I (f 0)) : ¬∀ i, step (f i) (f (i + 1)) := by
  intro hrun
  have hI : ∀ i, I (f i) := by
    intro i
    induction i with
    | zero => exact h0
    | succ i ih => exact hstep _ _ (hrun i) ih
  have hbound : ∀ i, size (f i) + i ≤ size (f 0) := by
    intro i
    induction i with
    | zero => exact Nat.le_refl _
    | succ i ih =>
      have hlt := hsize _ _ (hrun i) (hI i)
      omega
  have hlast := hbound (size (f 0) + 1)
  omega

/-- Every run can be carried on to its end. -/
theorem exists_terminal (s : σ) (hs : I s) : ∃ t, ReflTransGen step s t ∧ Terminal step t := by
  induction hn : size s using Nat.strongRecOn generalizing s with
  | ind n ih =>
    by_cases hend : Terminal step s
    · exact ⟨s, .refl, hend⟩
    · have hmore : ∃ t, step s t := Classical.byContradiction fun hno => hend fun t hst => hno ⟨t, hst⟩
      obtain ⟨t, hst⟩ := hmore
      obtain ⟨u, htu, hterm⟩ := ih (size t) (hn ▸ hsize s t hst hs) t (hstep s t hst hs) rfl
      exact ⟨u, .head hst htu, hterm⟩

end Measure

end DalHost

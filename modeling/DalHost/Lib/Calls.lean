import Mathlib.Data.List.Induction

/-!
# Sequences of calls

A component is called again and again: a call takes the state to the next one. `Along` says that something
holds after every call of a sequence, `Never` that no call is made in a state in which it does harm. Where a
call does harm exactly when it breaks the property at once, the two are equivalent (`along_iff_never`).
-/

namespace DalHost

variable {σ κ : Type} (call : κ → σ → σ)

/-- The state after the calls. -/
def afterCalls (calls : List κ) (s : σ) : σ := calls.foldl (fun s c => call c s) s

@[simp] theorem afterCalls_nil (s : σ) : afterCalls call [] s = s := rfl

@[simp] theorem afterCalls_cons (c : κ) (calls : List κ) (s : σ) :
    afterCalls call (c :: calls) s = afterCalls call calls (call c s) := rfl

theorem afterCalls_append (first second : List κ) (s : σ) :
    afterCalls call (first ++ second) s = afterCalls call second (afterCalls call first s) := List.foldl_append

theorem afterCalls_concat (calls : List κ) (c : κ) (s : σ) :
    afterCalls call (calls ++ [c]) s = call c (afterCalls call calls s) := afterCalls_append call calls [c] s

/-- `P` of the calls so far and the state, at every point of the sequence. -/
def Along (P : List κ → σ → Prop) (calls : List κ) (s : σ) : Prop :=
  ∀ done, done <+: calls → P done (afterCalls call done s)

/-- No call of the sequence is one that `B` forbids in its state. -/
def Never (B : κ → σ → Prop) (calls : List κ) (s : σ) : Prop :=
  ∀ done c, done ++ [c] <+: calls → ¬B c (afterCalls call done s)

variable {call} {B : κ → σ → Prop}

theorem never_nil (s : σ) : Never call B [] s := by
  intro done c hdone
  exact absurd (List.prefix_nil.1 hdone) (by simp)

theorem never_cons {c : κ} {calls : List κ} {s : σ} (hc : ¬B c s) (hcalls : Never call B calls (call c s)) :
    Never call B (c :: calls) s := by
  intro done c' hdone
  cases done with
  | nil =>
    obtain ⟨rfl, -⟩ := List.cons_prefix_cons.1 hdone
    exact hc
  | cons first done =>
    obtain ⟨rfl, hrest⟩ := List.cons_prefix_cons.1 hdone
    exact hcalls done c' hrest

theorem never_cons_iff {c : κ} {calls : List κ} {s : σ} :
    Never call B (c :: calls) s ↔ ¬B c s ∧ Never call B calls (call c s) := by
  refine ⟨fun h => ⟨h [] c (List.prefix_append [c] calls), fun done c' hdone => ?_⟩, fun h => never_cons h.1 h.2⟩
  exact h (c :: done) c' (List.cons_prefix_cons.2 ⟨rfl, hdone⟩)

instance Never.decidable [∀ c s, Decidable (B c s)] : ∀ calls s, Decidable (Never call B calls s)
  | [], s => .isTrue (never_nil s)
  | c :: calls, s =>
    have := Never.decidable calls (call c s)
    decidable_of_iff _ never_cons_iff.symm

theorem Never.before {calls done : List κ} {s : σ} (h : Never call B calls s) (hdone : done <+: calls) :
    Never call B done s := fun _ _ hmore => h _ _ (hmore.trans hdone)

theorem Never.or {B' : κ → σ → Prop} {calls : List κ} {s : σ} (h : Never call B calls s) (h' : Never call B' calls s) :
    Never call (fun c s => B c s ∨ B' c s) calls s :=
  fun done c hdone hc => hc.elim (h done c hdone) (h' done c hdone)

section Invariant

variable {I : σ → Prop} (hstep : ∀ c s, I s → ¬B c s → I (call c s))
include hstep

/-- What every harmless call keeps, every harmless sequence keeps. -/
theorem invariant_of_never {s : σ} (hs : I s) {calls : List κ} (h : Never call B calls s) : I (afterCalls call calls s) := by
  induction calls using List.reverseRecOn with
  | nil => exact hs
  | append_singleton calls c ih =>
    rw [afterCalls_concat]
    exact hstep c _ (ih (h.before (List.prefix_append _ _))) (h calls c List.prefix_rfl)

theorem along_iff_never {P : List κ → σ → Prop} {s : σ} (hs : I s)
    (hP : ∀ calls, Never call B calls s → P calls (afterCalls call calls s))
    (hB : ∀ calls c s, I s → B c s → ¬P (calls ++ [c]) (call c s)) (calls : List κ) :
    Along call P calls s ↔ Never call B calls s := by
  constructor
  · intro h
    induction calls using List.reverseRecOn with
    | nil => exact never_nil s
    | append_singleton calls c ih =>
      have hcalls := ih fun done hdone => h done (hdone.trans (List.prefix_append _ _))
      intro done c' hdone
      rcases List.prefix_concat_iff.1 hdone with heq | hdone
      · -- the last call
        obtain ⟨rfl, hc⟩ := List.append_inj' heq rfl
        cases hc
        intro hharm
        refine hB done c _ (invariant_of_never hstep hs hcalls) hharm ?_
        rw [← afterCalls_concat call]
        exact h _ List.prefix_rfl
      · exact hcalls done c' hdone
  · exact fun h done hdone => hP done (h.before hdone)

end Invariant

end DalHost

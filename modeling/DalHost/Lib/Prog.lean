import Mathlib.Logic.Relation

/-!
# State-passing programs

A stateful function is a `StateM σ α`. This module has the two rules a proof about such programs
needs: how `exe` goes through the monad operations, and how an invariant goes through a program
(`Keeps`) that is put together from parts that keep it. A loop over a list is a
recursion (`iterateAny`, `tryEach`), with one rule each.
-/

/-- The answer of a program started in a state, and the state it leaves. -/
def StateM.exe {σ α : Type} (x : StateM σ α) (s : σ) : α × σ := x s

namespace DalHost

variable {σ α β : Type}

/-! ### Running a program -/

@[simp] theorem exe_bind (x : StateM σ α) (f : α → StateM σ β) (s : σ) :
    (x >>= f).exe s = (f (x.exe s).1).exe (x.exe s).2 := Prod.ext rfl rfl

@[simp] theorem exe_map (g : α → β) (x : StateM σ α) (s : σ) :
    (g <$> x).exe s = (g (x.exe s).1, (x.exe s).2) := Prod.ext rfl rfl

@[simp] theorem exe_pure (a : α) (s : σ) : (pure a : StateM σ α).exe s = (a, s) := Prod.ext rfl rfl

@[simp] theorem exe_get (s : σ) : (get : StateM σ σ).exe s = (s, s) := Prod.ext rfl rfl

@[simp] theorem exe_modify (f : σ → σ) (s : σ) : (modify f : StateM σ PUnit).exe s = (⟨⟩, f s) := Prod.ext rfl rfl

theorem exe_ite {c : Prop} [Decidable c] (x y : StateM σ α) (s : σ) :
    (if c then x else y).exe s = if c then x.exe s else y.exe s := by
  split <;> rfl

/-! ### Invariants of programs -/

/-- Running `x` keeps `I`. -/
def Keeps (I : σ → Prop) (x : StateM σ α) : Prop := ∀ s, I s → I (x.exe s).2

section Keeps

variable {I : σ → Prop}

theorem Keeps.pure (a : α) : Keeps I (Pure.pure a : StateM σ α) := fun _ h => h

theorem Keeps.bind {x : StateM σ α} {f : α → StateM σ β} (hx : Keeps I x) (hf : ∀ a, Keeps I (f a)) :
    Keeps I (x >>= f) := fun s h => hf _ _ (hx s h)

theorem Keeps.get : Keeps I (MonadState.get : StateM σ σ) := fun _ h => h

theorem Keeps.ite {c : Prop} [Decidable c] {x y : StateM σ α} (hx : c → Keeps I x) (hy : ¬c → Keeps I y) :
    Keeps I (if c then x else y) := by
  by_cases hc : c
  · rw [if_pos hc]
    exact hx hc
  · rw [if_neg hc]
    exact hy hc

end Keeps

/-! ### Answers of programs -/

/-- Whatever state `x` starts in, its answer satisfies `P`. -/
def Answers (P : α → Prop) (x : StateM σ α) : Prop := ∀ s, P (x.exe s).1

section Answers

variable {P : α → Prop} {Q : β → Prop}

theorem Answers.pure {a : α} (h : P a) : Answers P (Pure.pure a : StateM σ α) := fun _ => h

theorem Answers.bind {x : StateM σ α} {f : α → StateM σ β} (hx : Answers P x) (hf : ∀ a, P a → Answers Q (f a)) :
    Answers Q (x >>= f) := fun s => hf _ (hx s) _

theorem Answers.after {x : StateM σ α} {f : α → StateM σ β} (hf : ∀ a, Answers Q (f a)) : Answers Q (x >>= f) :=
  fun _ => hf _ _

theorem Answers.ite {c : Prop} [Decidable c] {x y : StateM σ α} (hx : Answers P x) (hy : Answers P y) :
    Answers P (if c then x else y) := by
  split
  · exact hx
  · exact hy

end Answers

/-! ### Loops over a list -/

/-- Run `body` on each element in turn; the answer says whether one of the runs answered `true`. -/
def iterateAny (body : α → StateM σ Bool) : List α → StateM σ Bool
  | [] => pure false
  | a :: as => do
    let r ← body a
    let rs ← iterateAny body as
    return r || rs

theorem Keeps.iterateAny {I : σ → Prop} {body : α → StateM σ Bool} (h : ∀ a, Keeps I (body a)) (as : List α) :
    Keeps I (DalHost.iterateAny body as) := by
  induction as with
  | nil => exact Keeps.pure _
  | cons a as ih => exact (h a).bind fun _ => ih.bind fun _ => Keeps.pure _

/-- Run `body` on one element after the other until `stop` holds of an answer; the last answer, or
`last` when there was none. -/
def tryEach (stop : β → Bool) (body : α → StateM σ β) (last : β) : List α → StateM σ β
  | [] => pure last
  | a :: as => do
    let r ← body a
    if stop r then return r else tryEach stop body r as

theorem Keeps.tryEach {I : σ → Prop} {stop : β → Bool} {body : α → StateM σ β} (h : ∀ a, Keeps I (body a))
    (as : List α) (last : β) : Keeps I (DalHost.tryEach stop body last as) := by
  induction as generalizing last with
  | nil => exact Keeps.pure _
  | cons a as ih => exact (h a).bind fun r => Keeps.ite (fun _ => Keeps.pure _) fun _ => ih r

/-! ### Invariants closed under a step relation -/

/-- `I` holds after every `R`-step from a state where it holds. -/
def Closed (R : σ → σ → Prop) (I : σ → Prop) : Prop := ∀ s t, R s t → I s → I t

theorem closed_reach (R : σ → σ → Prop) (s₀ : σ) : Closed R (Relation.ReflTransGen R s₀) :=
  fun _ _ hstep hreach => hreach.tail hstep

theorem Closed.and {R : σ → σ → Prop} {I J : σ → Prop} (hI : Closed R I) (hJ : Closed R J) :
    Closed R fun s => I s ∧ J s := fun s t hst h => ⟨hI s t hst h.1, hJ s t hst h.2⟩

end DalHost

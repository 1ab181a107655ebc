import DalHost.Lib.Calls

/-!
# Threads and a critical section

Threads execute operations on a shared memory. An operation either returns at once or enters a section, in which it
takes steps of its own until it leaves. A schedule says which thread moves next. When no thread enters while another
is inside, the operations take effect one after the other, in the order in which they entered (`serial_iff_never`); when the
entry does not wait, that is so in every schedule only if one thread alone ever enters (`never_overlaps_iff`).
-/

namespace DalHost

/-- How operations `ω` enter the section, and how control points `π` move in it. -/
structure Section (ω π μ : Type) where
  /-- The first point inside; without one the operation returns. -/
  enter : ω → Option π
  /-- What entering does to the memory. -/
  lock : μ → μ
  /-- One step; without a point the section is left. -/
  step : π → μ → Option π × μ

/-- A thread: where it is in the section, and the operations that it has not begun. -/
structure Worker (ω π : Type) where
  inside : Option π
  left : List ω

structure Crew (τ ω π μ : Type) where
  worker : τ → Worker ω π
  mem : μ

variable {τ ω π μ : Type} [DecidableEq τ]

namespace Crew

def start (programs : τ → List ω) (m : μ) : Crew τ ω π μ := ⟨fun t => ⟨none, programs t⟩, m⟩

def set (c : Crew τ ω π μ) (t : τ) (x : Worker ω π) (m : μ) : Crew τ ω π μ := ⟨fun u => if u = t then x else c.worker u, m⟩

@[simp] theorem set_mem (c : Crew τ ω π μ) (t : τ) (x : Worker ω π) (m : μ) : (c.set t x m).mem = m := rfl

@[simp] theorem worker_set_self (c : Crew τ ω π μ) (t : τ) (x : Worker ω π) (m : μ) : (c.set t x m).worker t = x := if_pos rfl

theorem worker_set_of_ne (c : Crew τ ω π μ) {t u : τ} (x : Worker ω π) (m : μ) (h : u ≠ t) :
    (c.set t x m).worker u = c.worker u := if_neg h

/-- A thread moves. -/
def step (S : Section ω π μ) (t : τ) (c : Crew τ ω π μ) : Crew τ ω π μ :=
  match (c.worker t).inside, (c.worker t).left with
  | some pc, left => c.set t ⟨(S.step pc c.mem).1, left⟩ (S.step pc c.mem).2
  | none, [] => c
  | none, op :: left =>
    match S.enter op with
    | none => c.set t ⟨none, left⟩ c.mem
    | some pc => c.set t ⟨some pc, left⟩ (S.lock c.mem)

/-- At most one thread is inside. -/
def Exclusive (c : Crew τ ω π μ) : Prop := ∀ t u, (c.worker t).inside ≠ none → (c.worker u).inside ≠ none → t = u

/-- The thread would enter while another is inside. -/
def Overlaps (S : Section ω π μ) (t : τ) (c : Crew τ ω π μ) : Prop :=
  (c.worker t).inside = none ∧ (∃ op left, (c.worker t).left = op :: left ∧ S.enter op ≠ none) ∧
    ∃ u, (c.worker u).inside ≠ none

/-- Every thread is done. -/
def Finished (c : Crew τ ω π μ) : Prop := ∀ t, (c.worker t).inside = none ∧ (c.worker t).left = []

end Crew

/-- The operations of one thread in an order. -/
def opsOf (order : List (τ × ω)) (t : τ) : List ω := (order.filter fun e => e.1 = t).map Prod.snd

/-- From this point, the section is left with this memory. -/
inductive Finishes (S : Section ω π μ) : π → μ → μ → Prop
  | leave {pc : π} {m m' : μ} (h : S.step pc m = (none, m')) : Finishes S pc m m'
  | step {pc pc' : π} {m m₁ m' : μ} (h : S.step pc m = (some pc', m₁)) (hrest : Finishes S pc' m₁ m') : Finishes S pc m m'

theorem Finishes.move {S : Section ω π μ} {pc pc' : π} {m m' : μ} (hpc : (S.step pc m).1 = some pc')
    (h : Finishes S pc' (S.step pc m).2 m') : Finishes S pc m m' := .step (Prod.ext hpc rfl) h

section Moves

variable {S : Section ω π μ} {t : τ} {c : Crew τ ω π μ}

theorem step_inside {pc : π} (h : (c.worker t).inside = some pc) :
    c.step S t = c.set t ⟨(S.step pc c.mem).1, (c.worker t).left⟩ (S.step pc c.mem).2 := by
  unfold Crew.step
  rw [h]

theorem step_done (h : (c.worker t).inside = none) (hleft : (c.worker t).left = []) : c.step S t = c := by
  unfold Crew.step
  rw [h, hleft]

theorem step_returns {op : ω} {left : List ω} (h : (c.worker t).inside = none) (hleft : (c.worker t).left = op :: left)
    (henter : S.enter op = none) : c.step S t = c.set t ⟨none, left⟩ c.mem := by
  unfold Crew.step
  rw [h, hleft]
  simp only [henter]

theorem step_enters {op : ω} {left : List ω} {pc : π} (h : (c.worker t).inside = none)
    (hleft : (c.worker t).left = op :: left) (henter : S.enter op = some pc) :
    c.step S t = c.set t ⟨some pc, left⟩ (S.lock c.mem) := by
  unfold Crew.step
  rw [h, hleft]
  simp only [henter]

end Moves

/-! ### Exclusion -/

section Exclusion

variable {S : Section ω π μ} {t : τ} {c : Crew τ ω π μ}

theorem exclusive_set (h : ∀ u, u ≠ t → (c.worker u).inside = none) (x : Worker ω π) (m : μ) :
    (c.set t x m).Exclusive := by
  have honly : ∀ u, ((c.set t x m).worker u).inside ≠ none → u = t := by
    intro u hu
    refine Classical.byContradiction fun hne => hu ?_
    rw [Crew.worker_set_of_ne _ _ _ hne]
    exact h u hne
  intro u v hu hv
  rw [honly u hu, honly v hv]

omit [DecidableEq τ] in
theorem others_outside (h : c.Exclusive) {pc : π} (hinside : (c.worker t).inside = some pc) :
    ∀ u, u ≠ t → (c.worker u).inside = none := by
  intro u hne
  refine Classical.byContradiction fun hu => hne (h u t hu ?_)
  rw [hinside]
  exact Option.some_ne_none pc

omit [DecidableEq τ] in
theorem nobody_inside (hno : ¬c.Overlaps S t) {op : ω} {left : List ω} {pc : π} (hinside : (c.worker t).inside = none)
    (hleft : (c.worker t).left = op :: left) (henter : S.enter op = some pc) : ∀ u, (c.worker u).inside = none := by
  intro u
  refine Classical.byContradiction fun hu => hno ⟨hinside, ⟨op, left, hleft, ?_⟩, u, hu⟩
  rw [henter]
  exact Option.some_ne_none pc

theorem inside_set_of_returns (hinside : (c.worker t).inside = none) (left : List ω) (m : μ) (u : τ) :
    ((c.set t ⟨none, left⟩ m).worker u).inside = (c.worker u).inside := by
  by_cases hu : u = t
  · rw [hu, Crew.worker_set_self, hinside]
  · rw [Crew.worker_set_of_ne _ _ _ hu]

theorem exclusive_step (h : c.Exclusive) (hno : ¬c.Overlaps S t) : (c.step S t).Exclusive := by
  cases hinside : (c.worker t).inside with
  | some pc =>
    rw [step_inside hinside]
    exact exclusive_set (others_outside h hinside) _ _
  | none =>
    cases hleft : (c.worker t).left with
    | nil =>
      rw [step_done hinside hleft]
      exact h
    | cons op left =>
      cases henter : S.enter op with
      | none =>
        rw [step_returns hinside hleft henter]
        intro u v hu hv
        rw [inside_set_of_returns hinside] at hu hv
        exact h u v hu hv
      | some pc =>
        rw [step_enters hinside hleft henter]
        exact exclusive_set (fun u _ => nobody_inside hno hinside hleft henter u) _ _

end Exclusion

/-! ### Operations one after the other -/

section Serial

variable (S : Section ω π μ) (programs : τ → List ω) (R : μ → List (τ × ω) → Prop)

/-- The operations so far took effect in some order, the last of them perhaps not yet. -/
structure SerialInv (c : Crew τ ω π μ) : Prop where
  exclusive : c.Exclusive
  serial : ∃ order, (∀ t, programs t = opsOf order t ++ (c.worker t).left) ∧
    ((∀ t, (c.worker t).inside = none) → R c.mem order) ∧
    ∀ t pc, (c.worker t).inside = some pc → ∃ m, Finishes S pc c.mem m ∧ R m order

variable {S programs R}

theorem opsOf_concat (order : List (τ × ω)) (t u : τ) (op : ω) :
    opsOf (order ++ [(t, op)]) u = if t = u then opsOf order u ++ [op] else opsOf order u := by
  unfold opsOf
  rw [List.filter_append, List.map_append]
  split_ifs with h
  · simp [h]
  · simp [h]

theorem programs_concat {order : List (τ × ω)} {c : Crew τ ω π μ} (hprograms : ∀ t, programs t = opsOf order t ++ (c.worker t).left)
    {t : τ} {op : ω} {left : List ω} (hleft : (c.worker t).left = op :: left) (inside : Option π) (m : μ) (u : τ) :
    programs u = opsOf (order ++ [(t, op)]) u ++ ((c.set t ⟨inside, left⟩ m).worker u).left := by
  rw [opsOf_concat]
  by_cases hu : t = u
  · subst hu
    rw [if_pos rfl, Crew.worker_set_self, List.append_assoc, hprograms t, hleft]
    rfl
  · rw [if_neg hu, Crew.worker_set_of_ne _ _ _ (Ne.symm hu)]
    exact hprograms u

variable
  (hreturns : ∀ m order t op, R m order → S.enter op = none → (∀ u, opsOf (order ++ [(t, op)]) u <+: programs u) →
    R m (order ++ [(t, op)]))
  (henters : ∀ m order t op pc, R m order → S.enter op = some pc → (∀ u, opsOf (order ++ [(t, op)]) u <+: programs u) →
    ∃ m', Finishes S pc (S.lock m) m' ∧ R m' (order ++ [(t, op)]))

theorem serialInv_start {m : μ} (h : R m []) : SerialInv S programs R (Crew.start programs m) where
  exclusive _ _ ht := absurd rfl ht
  serial := ⟨[], fun _ => rfl, fun _ => h, fun _ _ hinside => by cases hinside⟩

omit [DecidableEq τ] in
theorem finishes_step {pc : π} {m m' : μ} (h : Finishes S pc m m') :
    ((S.step pc m).1 = none ∧ (S.step pc m).2 = m') ∨ ∃ pc', (S.step pc m).1 = some pc' ∧ Finishes S pc' (S.step pc m).2 m' := by
  cases h with
  | leave h =>
    rw [h]
    exact .inl ⟨rfl, rfl⟩
  | step h hrest =>
    rw [h]
    exact .inr ⟨_, rfl, hrest⟩

theorem serialInv_inside {t : τ} {c : Crew τ ω π μ} (h : SerialInv S programs R c) {pc : π}
    (hinside : (c.worker t).inside = some pc) : SerialInv S programs R (c.step S t) := by
  have hothers := others_outside h.exclusive hinside
  obtain ⟨order, hprograms, -, hfinishes⟩ := h.serial
  obtain ⟨m, hfin, hR⟩ := hfinishes t pc hinside
  rw [step_inside hinside]
  refine ⟨exclusive_set hothers _ _, order, fun u => ?_, fun hnone => ?_, fun u pc' hu => ?_⟩
  · by_cases hu : u = t
    · rw [hu, Crew.worker_set_self]
      exact hprograms t
    · rw [Crew.worker_set_of_ne _ _ _ hu]
      exact hprograms u
  · have hleft := hnone t
    rw [Crew.worker_set_self] at hleft
    rcases finishes_step hfin with ⟨-, hm⟩ | ⟨pc', hpc', -⟩
    · rw [Crew.set_mem, hm]
      exact hR
    · rw [hpc'] at hleft
      cases hleft
  · by_cases hut : u = t
    · rw [hut, Crew.worker_set_self] at hu
      rcases finishes_step hfin with ⟨hnone, -⟩ | ⟨pc'', hpc'', hrest⟩
      · rw [hnone] at hu
        cases hu
      · rw [hpc''] at hu
        cases hu
        exact ⟨m, hrest, hR⟩
    · rw [Crew.worker_set_of_ne _ _ _ hut, hothers u hut] at hu
      cases hu

include hreturns henters

theorem serialInv_step (t : τ) (c : Crew τ ω π μ) (h : SerialInv S programs R c) (hno : ¬c.Overlaps S t) :
    SerialInv S programs R (c.step S t) := by
  cases hinside : (c.worker t).inside with
  | some pc => exact serialInv_inside h hinside
  | none =>
    cases hleft : (c.worker t).left with
    | nil =>
      rw [step_done hinside hleft]
      exact h
    | cons op left =>
      obtain ⟨order, hprograms, hR, hfinishes⟩ := h.serial
      -- the order with this operation is still one of the programs
      have hbegun : ∀ u, opsOf (order ++ [(t, op)]) u <+: programs u := by
        intro u
        rw [programs_concat hprograms hleft none c.mem u]
        exact List.prefix_append _ _
      cases henter : S.enter op with
      | none =>
        have hexclusive := exclusive_step h.exclusive hno
        have hsame := inside_set_of_returns hinside left c.mem
        rw [step_returns hinside hleft henter] at hexclusive ⊢
        refine ⟨hexclusive, order ++ [(t, op)], programs_concat hprograms hleft _ _, fun hnone => ?_, fun u pc hu => ?_⟩
        · exact hreturns _ _ _ _ (hR fun u => (hsame u).symm.trans (hnone u)) henter hbegun
        · rw [hsame] at hu
          obtain ⟨m, hfin, hRm⟩ := hfinishes u pc hu
          exact ⟨m, hfin, hreturns _ _ _ _ hRm henter hbegun⟩
      | some pc =>
        have hnobody := nobody_inside hno hinside hleft henter
        rw [step_enters hinside hleft henter]
        obtain ⟨m, hfin, hRm⟩ := henters _ _ _ _ _ (hR hnobody) henter hbegun
        refine ⟨exclusive_set (fun u _ => hnobody u) _ _, order ++ [(t, op)], programs_concat hprograms hleft _ _,
          fun hnone => ?_, fun u pc' hu => ?_⟩
        · have hself := hnone t
          rw [Crew.worker_set_self] at hself
          cases hself
        · by_cases hut : u = t
          · rw [hut, Crew.worker_set_self] at hu
            cases hu
            exact ⟨m, hfin, hRm⟩
          · rw [Crew.worker_set_of_ne _ _ _ hut, hnobody u] at hu
            cases hu

end Serial

/-- What is asked of a crew: one thread inside at most, and in the end an order of all operations that explains the memory. -/
structure Serial (programs : τ → List ω) (R : μ → List (τ × ω) → Prop) (c : Crew τ ω π μ) : Prop where
  exclusive : c.Exclusive
  explained : c.Finished → ∃ order, (∀ t, opsOf order t = programs t) ∧ R c.mem order

section Runs

variable {S : Section ω π μ} {programs : τ → List ω} {R : μ → List (τ × ω) → Prop}

theorem SerialInv.toSerial {c : Crew τ ω π μ} (h : SerialInv S programs R c) : Serial programs R c where
  exclusive := h.exclusive
  explained hfinished := by
    obtain ⟨order, hprograms, hR, -⟩ := h.serial
    refine ⟨order, fun t => ?_, hR fun t => (hfinished t).1⟩
    rw [hprograms t, (hfinished t).2, List.append_nil]

theorem not_exclusive_of_overlaps {t : τ} {c : Crew τ ω π μ} (h : c.Overlaps S t) : ¬(c.step S t).Exclusive := by
  obtain ⟨hinside, ⟨op, left, hleft, henter⟩, u, hu⟩ := h
  obtain ⟨pc, henter⟩ := Option.ne_none_iff_exists'.1 henter
  have hne : u ≠ t := by
    rintro rfl
    exact hu hinside
  rw [step_enters hinside hleft henter]
  intro hexclusive
  refine hne (hexclusive u t ?_ ?_)
  · rw [Crew.worker_set_of_ne _ _ _ hne]
    exact hu
  · rw [Crew.worker_set_self]
    exact Option.some_ne_none pc

variable
  (hreturns : ∀ m order t op, R m order → S.enter op = none → (∀ u, opsOf (order ++ [(t, op)]) u <+: programs u) →
    R m (order ++ [(t, op)]))
  (henters : ∀ m order t op pc, R m order → S.enter op = some pc → (∀ u, opsOf (order ++ [(t, op)]) u <+: programs u) →
    ∃ m', Finishes S pc (S.lock m) m' ∧ R m' (order ++ [(t, op)]))
  {m : μ} (hm : R m [])
include hreturns henters hm

/-- A schedule is serial all along exactly when no thread enters while another is inside. -/
theorem serial_iff_never (schedule : List τ) :
    Along (Crew.step S) (fun _ c => Serial programs R c) schedule (.start programs m) ↔
      Never (Crew.step S) (fun t c => c.Overlaps S t) schedule (.start programs m) := by
  have hstep := @serialInv_step τ ω π μ _ S programs R hreturns henters
  refine along_iff_never hstep (serialInv_start hm) (fun calls h => ?_) (fun _ t c _ hover hserial => ?_) schedule
  · exact (invariant_of_never hstep (serialInv_start hm) h).toSerial
  · exact not_exclusive_of_overlaps hover hserial.exclusive

end Runs

/-! ### Who enters -/

/-- One of the operations of the thread enters the section. -/
def EntersSection (S : Section ω π μ) (programs : τ → List ω) (t : τ) : Prop := ∃ op ∈ programs t, S.enter op ≠ none

section Enter

variable {S : Section ω π μ} {programs : τ → List ω}

theorem reaches_inside {t : τ} {ops : List ω} (hops : ∃ op ∈ ops, S.enter op ≠ none) (c : Crew τ ω π μ)
    (hinside : (c.worker t).inside = none) (hleft : (c.worker t).left = ops) :
    ∃ n, ((afterCalls (Crew.step S) (List.replicate n t) c).worker t).inside ≠ none ∧
      ∀ u, u ≠ t → (afterCalls (Crew.step S) (List.replicate n t) c).worker u = c.worker u := by
  induction ops generalizing c with
  | nil =>
    obtain ⟨op, hop, -⟩ := hops
    cases hop
  | cons op ops ih =>
    cases henter : S.enter op with
    | some pc =>
      refine ⟨1, ?_, fun u hu => ?_⟩
      · rw [List.replicate_one, afterCalls_cons, afterCalls_nil, step_enters hinside hleft henter, Crew.worker_set_self]
        exact Option.some_ne_none pc
      · rw [List.replicate_one, afterCalls_cons, afterCalls_nil, step_enters hinside hleft henter, Crew.worker_set_of_ne _ _ _ hu]
    | none =>
      -- the first operation returns, and one of the others enters
      have hmore : ∃ op' ∈ ops, S.enter op' ≠ none := by
        obtain ⟨op', hop', henter'⟩ := hops
        rcases List.mem_cons.1 hop' with rfl | hop'
        · exact absurd henter henter'
        · exact ⟨op', hop', henter'⟩
      obtain ⟨n, hn, hothers⟩ := ih hmore (c.set t ⟨none, ops⟩ c.mem) (by rw [Crew.worker_set_self]) (by rw [Crew.worker_set_self])
      refine ⟨n + 1, ?_, fun u hu => ?_⟩
      · rw [List.replicate_succ, afterCalls_cons, step_returns hinside hleft henter]
        exact hn
      · rw [List.replicate_succ, afterCalls_cons, step_returns hinside hleft henter, hothers u hu, Crew.worker_set_of_ne _ _ _ hu]

/-- Who is inside or about to enter has an operation that enters. -/
structure EnterInv (S : Section ω π μ) (programs : τ → List ω) (c : Crew τ ω π μ) : Prop where
  inside : ∀ t, (c.worker t).inside ≠ none → EntersSection S programs t
  left : ∀ t, (c.worker t).left ⊆ programs t

theorem enterInv_step (t : τ) (c : Crew τ ω π μ) (h : EnterInv S programs c) : EnterInv S programs (c.step S t) := by
  have hset : ∀ (x : Worker ω π) (m : μ), (x.inside ≠ none → EntersSection S programs t) → x.left ⊆ programs t →
      EnterInv S programs (c.set t x m) := by
    intro x m hx hleft
    refine ⟨fun u hu => ?_, fun u => ?_⟩
    · by_cases hut : u = t
      · rw [hut, Crew.worker_set_self] at hu
        rw [hut]
        exact hx hu
      · rw [Crew.worker_set_of_ne _ _ _ hut] at hu
        exact h.inside u hu
    · by_cases hut : u = t
      · rw [hut, Crew.worker_set_self]
        exact hleft
      · rw [Crew.worker_set_of_ne _ _ _ hut]
        exact h.left u
  cases hinside : (c.worker t).inside with
  | some pc =>
    rw [step_inside hinside]
    exact hset _ _ (fun _ => h.inside t (by rw [hinside]; exact Option.some_ne_none pc)) (h.left t)
  | none =>
    cases hleft : (c.worker t).left with
    | nil =>
      rw [step_done hinside hleft]
      exact h
    | cons op left =>
      have hsub := h.left t
      rw [hleft, List.cons_subset] at hsub
      cases henter : S.enter op with
      | none =>
        rw [step_returns hinside hleft henter]
        exact hset _ _ (fun hne => absurd rfl hne) hsub.2
      | some pc =>
        rw [step_enters hinside hleft henter]
        exact hset _ _ (fun _ => ⟨op, hsub.1, by rw [henter]; exact Option.some_ne_none pc⟩) hsub.2

/-- If one thread alone enters, no schedule overlaps; if two do, some schedule has both inside. -/
theorem never_overlaps_iff (m : μ) :
    (∀ schedule, Never (Crew.step S) (fun t c => c.Overlaps S t) schedule (.start programs m)) ↔
      ∀ t u, EntersSection S programs t → EntersSection S programs u → t = u := by
  constructor
  · intro h t u ht hu
    refine Classical.byContradiction fun hne => ?_
    obtain ⟨n, hn, hothers⟩ := reaches_inside ht (.start programs m) rfl rfl
    -- the other thread gets to the operation that enters
    obtain ⟨k, hk, hothers'⟩ := reaches_inside hu
      (afterCalls (Crew.step S) (List.replicate n t) (.start programs m)) (by rw [hothers u (Ne.symm hne)]; rfl)
      (by rw [hothers u (Ne.symm hne)]; rfl)
    have hexclusive := invariant_of_never (I := fun c => c.Exclusive) (fun t c hc hno => exclusive_step hc hno)
      (fun _ _ ht => absurd rfl ht) (h (List.replicate n t ++ List.replicate k u))
    rw [afterCalls_append] at hexclusive
    refine hne (hexclusive t u ?_ hk)
    rw [hothers' t hne]
    exact hn
  · intro h schedule done t hdone hover
    have hinv := @invariant_of_never _ _ (Crew.step S) (fun _ _ => False) (EnterInv S programs)
      (fun t c hc _ => enterInv_step t c hc) (.start programs m)
      ⟨fun _ ht => absurd rfl ht, fun _ => List.Subset.refl _⟩ done fun _ _ _ => id
    obtain ⟨hinside, ⟨op, left, hleft, henter⟩, u, hu⟩ := hover
    have ht : EntersSection S programs t := by
      refine ⟨op, hinv.left t ?_, henter⟩
      rw [hleft]
      exact List.mem_cons_self
    rw [h t u ht (hinv.inside u hu)] at hinside
    exact hu hinside

end Enter

end DalHost

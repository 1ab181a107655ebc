import Mathlib.Data.List.Sort

/-!
# Sorting with a comparison

A comparison function says that its first argument comes before its second. What a sort needs of it are the laws of a
strict weak order; then the sorted list is a permutation in which nothing comes before an earlier element, and elements that do not come before one
another keep their order.
-/

namespace DalHost

variable {α : Type}

/-- The laws of a strict weak order, on the elements that satisfy `P`. -/
structure StrictWeakOn (P : α → Prop) (before : α → α → Bool) : Prop where
  irrefl : ∀ a, P a → before a a = false
  asymm : ∀ a b, P a → P b → before a b = true → before b a = false
  trans : ∀ a b c, P a → P b → P c → before a b = true → before b c = true → before a c = true
  /-- Elements that are not ordered are alike. -/
  alike : ∀ a b c, P a → P b → P c → before a b = false → before b a = false → before b c = false → before c b = false →
    before a c = false ∧ before c a = false

theorem StrictWeakOn.mono {P Q : α → Prop} {before : α → α → Bool} (h : StrictWeakOn P before) (hQ : ∀ a, Q a → P a) :
    StrictWeakOn Q before where
  irrefl a ha := h.irrefl a (hQ a ha)
  asymm a b ha hb := h.asymm a b (hQ a ha) (hQ b hb)
  trans a b c ha hb hc := h.trans a b c (hQ a ha) (hQ b hb) (hQ c hc)
  alike a b c ha hb hc := h.alike a b c (hQ a ha) (hQ b hb) (hQ c hc)

theorem strictWeakOn_of_key {β : Type} [LinearOrder β] {before : α → α → Bool} (key : α → β)
    (h : ∀ a b, before a b = true ↔ key b < key a) : StrictWeakOn (fun _ => True) before := by
  have hfalse : ∀ a b, before a b = false ↔ key a ≤ key b := by
    intro a b
    rw [← Bool.not_eq_true, h, not_lt]
  refine ⟨fun a _ => (hfalse a a).2 (le_refl _), fun a b _ _ hab => ?_, fun a b c _ _ _ hab hbc => ?_,
    fun a b c _ _ _ hab hba hbc hcb => ?_⟩
  · exact (hfalse b a).2 (le_of_lt ((h a b).1 hab))
  · exact (h a c).2 (lt_trans ((h b c).1 hbc) ((h a b).1 hab))
  · rw [hfalse] at hab hba hbc hcb ⊢
    rw [hfalse]
    exact ⟨le_trans hab hbc, le_trans hcb hba⟩

/-- `list::sort`. -/
def stableSort (before : α → α → Bool) (l : List α) : List α := l.insertionSort fun a b => before b a = false

variable {before : α → α → Bool}

theorem stableSort_perm (l : List α) : (stableSort before l).Perm l := List.perm_insertionSort _ _

theorem stableSort_pairwise (h : StrictWeakOn (fun _ => True) before) (l : List α) :
    (stableSort before l).Pairwise fun a b => before b a = false := by
  have htotal : ∀ a b, before b a = false ∨ before a b = false := by
    intro a b
    cases hba : before b a with
    | false => exact Or.inl rfl
    | true => exact Or.inr (h.asymm b a trivial trivial hba)
  have htrans : ∀ a b c, before b a = false → before c b = false → before c a = false := by
    intro a b c hba hcb
    by_contra hca
    rw [Bool.not_eq_false] at hca
    -- `b` would be alike to both, and so they to one another
    cases hab : before a b with
    | true =>
      rw [h.trans c a b trivial trivial trivial hca hab] at hcb
      cases hcb
    | false =>
      cases hbc : before b c with
      | true =>
        rw [h.trans b c a trivial trivial trivial hbc hca] at hba
        cases hba
      | false =>
        have halike := h.alike a b c trivial trivial trivial hab hba hbc hcb
        rw [halike.2] at hca
        cases hca
  exact @List.pairwise_insertionSort α (fun a b => before b a = false) _ ⟨htotal⟩ ⟨htrans⟩ l

/-- A class of elements that do not come before one another keeps its order. -/
theorem stableSort_filter (l : List α) (p : α → Bool) (hp : ∀ a b, p a = true → p b = true → before b a = false) :
    (stableSort before l).filter p = l.filter p := by
  have hinsert : ∀ (a : α) (l : List α), (l.orderedInsert (fun a b => before b a = false) a).filter p = (a :: l).filter p := by
    intro a l
    induction l with
    | nil => rfl
    | cons b l ih =>
      rw [List.orderedInsert_cons]
      split_ifs with hba
      · rfl
      -- `b` comes before `a`, so they are not both in the class
      cases hpa : p a with
      | false =>
        rw [List.filter_cons, ih, List.filter_cons_of_neg (by rw [hpa]; exact Bool.false_ne_true),
          List.filter_cons_of_neg (by rw [hpa]; exact Bool.false_ne_true), ← List.filter_cons]
      | true =>
        have hpb : ¬p b = true := fun hpb => hba (hp a b hpa hpb)
        rw [List.filter_cons_of_neg hpb, ih, List.filter_cons_of_pos hpa, List.filter_cons_of_pos hpa,
          List.filter_cons_of_neg hpb]
  unfold stableSort
  induction l with
  | nil => rfl
  | cons a l ih => rw [List.insertionSort_cons, hinsert, List.filter_cons, ih, ← List.filter_cons]

end DalHost

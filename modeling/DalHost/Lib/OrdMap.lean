import Mathlib.Order.Lattice
import Mathlib.Data.List.Basic
import Mathlib.Data.List.Pairwise

/-!
# Ordered maps

A finite map over a linearly ordered key type, kept as an association list in strictly increasing
key order: what a container such as `std::map` shows to a program that searches it, iterates over
it, inserts without overwriting, erases and edits values in place. The order is a field of the
structure, so every map has it. A proof about a map works through `find?`: each operation has one
lemma that says what it does to a look-up, and `mem_entries_iff` says that iterating sees exactly
what look-ups see.
-/

namespace DalHost

/-- A finite map in strictly increasing key order. -/
structure OrdMap (κ ν : Type) [LinearOrder κ] where
  entries : List (κ × ν)
  sorted : entries.Pairwise fun a b => a.1 < b.1

namespace OrdMap

variable {κ ν : Type} [LinearOrder κ]

/-! ### Look-up -/

/-- First value stored under `k` in an association list. -/
def lookup (k : κ) : List (κ × ν) → Option ν
  | [] => none
  | (k', v) :: es => if k = k' then some v else lookup k es

/-- `std::map::find`. -/
def find? (m : OrdMap κ ν) (k : κ) : Option ν := lookup k m.entries

def contains (m : OrdMap κ ν) (k : κ) : Bool := (m.find? k).isSome

def keys (m : OrdMap κ ν) : List κ := m.entries.map Prod.fst

def size (m : OrdMap κ ν) : Nat := m.entries.length

theorem mem_of_lookup {k : κ} {v : ν} {es : List (κ × ν)} (h : lookup k es = some v) : (k, v) ∈ es := by
  induction es with
  | nil => simp [lookup] at h
  | cons e es ih =>
    obtain ⟨k', v'⟩ := e
    simp only [lookup] at h
    split_ifs at h with hk
    · cases h
      simp [hk]
    · exact List.mem_cons_of_mem _ (ih h)

theorem lookup_of_mem {k : κ} {v : ν} {es : List (κ × ν)} (hs : es.Pairwise fun a b => a.1 < b.1)
    (h : (k, v) ∈ es) : lookup k es = some v := by
  induction es with
  | nil => simp at h
  | cons e es ih =>
    obtain ⟨k', v'⟩ := e
    rw [List.pairwise_cons] at hs
    rcases List.mem_cons.1 h with h | h
    · cases h
      simp [lookup]
    · have hlt : k' < k := hs.1 _ h
      simp only [lookup, if_neg (ne_of_gt hlt)]
      exact ih hs.2 h

/-- Iterating over a map visits exactly the pairs that look-ups find. -/
theorem mem_entries_iff {m : OrdMap κ ν} {k : κ} {v : ν} : (k, v) ∈ m.entries ↔ m.find? k = some v :=
  ⟨lookup_of_mem m.sorted, mem_of_lookup⟩

theorem mem_keys_iff {m : OrdMap κ ν} {k : κ} : k ∈ m.keys ↔ m.contains k = true := by
  constructor
  · intro h
    obtain ⟨⟨k', v⟩, hm, rfl⟩ := List.mem_map.1 h
    simp [contains, mem_entries_iff.1 hm]
  · intro h
    obtain ⟨v, hv⟩ := Option.isSome_iff_exists.1 h
    exact List.mem_map.2 ⟨(k, v), mem_entries_iff.2 hv, rfl⟩

@[simp] theorem contains_eq_false {m : OrdMap κ ν} {k : κ} : m.contains k = false ↔ m.find? k = none := by
  simp [contains]

theorem contains_iff {m : OrdMap κ ν} {k : κ} : m.contains k = true ↔ ∃ v, m.find? k = some v := by
  simp [contains, Option.isSome_iff_exists]

/-! ### The empty map -/

def empty : OrdMap κ ν := ⟨[], List.Pairwise.nil⟩

@[simp] theorem find?_empty (k : κ) : (empty : OrdMap κ ν).find? k = none := rfl

/-! ### Insertion without overwriting -/

theorem nodup_keys (m : OrdMap κ ν) : (m.entries.map Prod.fst).Nodup :=
  List.pairwise_map.2 (m.sorted.imp fun h => h.ne)

/-- Put `(k, v)` at its place in a sorted list; an entry already under `k` stays. -/
def insertList (k : κ) (v : ν) : List (κ × ν) → List (κ × ν)
  | [] => [(k, v)]
  | (k', v') :: es =>
    if k < k' then (k, v) :: (k', v') :: es
    else if k = k' then (k', v') :: es
    else (k', v') :: insertList k v es

theorem mem_insertList {k : κ} {v : ν} {es : List (κ × ν)} {e : κ × ν} (h : e ∈ insertList k v es) :
    e = (k, v) ∨ e ∈ es := by
  induction es with
  | nil => simpa [insertList] using h
  | cons e' es ih =>
    obtain ⟨k', v'⟩ := e'
    simp only [insertList] at h
    split_ifs at h with h₁ h₂
    · simpa using h
    · exact Or.inr h
    · rcases List.mem_cons.1 h with rfl | h
      · simp
      · rcases ih h with h | h
        · exact Or.inl h
        · exact Or.inr (List.mem_cons_of_mem _ h)

theorem insertList_sorted {k : κ} {v : ν} {es : List (κ × ν)} (hs : es.Pairwise fun a b => a.1 < b.1) :
    (insertList k v es).Pairwise fun a b => a.1 < b.1 := by
  induction es with
  | nil => simp [insertList]
  | cons e es ih =>
    obtain ⟨k', v'⟩ := e
    rw [List.pairwise_cons] at hs
    simp only [insertList]
    split_ifs with h₁ h₂
    · refine List.pairwise_cons.2 ⟨fun e he => ?_, List.pairwise_cons.2 hs⟩
      rcases List.mem_cons.1 he with rfl | he
      · exact h₁
      · exact lt_trans h₁ (hs.1 e he)
    · exact List.pairwise_cons.2 hs
    · refine List.pairwise_cons.2 ⟨fun e he => ?_, ih hs.2⟩
      rcases mem_insertList he with rfl | he
      · exact lt_of_le_of_ne (not_lt.1 h₁) (Ne.symm h₂)
      · exact hs.1 e he

/-- `std::map::insert`: adds the pair unless the key is already there. -/
def insert (m : OrdMap κ ν) (k : κ) (v : ν) : OrdMap κ ν :=
  ⟨insertList k v m.entries, insertList_sorted m.sorted⟩

theorem lookup_insertList {k k' : κ} {v : ν} {es : List (κ × ν)} (hs : es.Pairwise fun a b => a.1 < b.1) :
    lookup k' (insertList k v es) = if k' = k then some ((lookup k es).getD v) else lookup k' es := by
  induction es with
  | nil => by_cases h : k' = k <;> simp [insertList, lookup, h]
  | cons e es ih =>
    obtain ⟨k₁, v₁⟩ := e
    rw [List.pairwise_cons] at hs
    simp only [insertList]
    split_ifs with h₁ h₂ h₂ h₂ h₂
    · have hnone : lookup k es = none := by
        cases hl : lookup k es with
        | none => rfl
        | some w => exact absurd (hs.1 _ (mem_of_lookup hl)) (not_lt.2 (le_of_lt h₁))
      simp [lookup, h₂, ne_of_lt h₁, hnone]
    · simp [lookup, h₂]
    · simp [lookup, *]
    · simp [lookup]
    · subst h₂
      simp only [lookup, if_neg ‹¬k' = k₁›, ih hs.2, if_true]
    · simp only [lookup, ih hs.2, if_neg h₂]

theorem length_insertList {k : κ} (v : ν) {es : List (κ × ν)} (h : lookup k es = none) :
    (insertList k v es).length = es.length + 1 := by
  induction es with
  | nil => rfl
  | cons e es ih =>
    obtain ⟨k', v'⟩ := e
    simp only [lookup] at h
    simp only [insertList]
    split_ifs at h ⊢ with hk hlt
    · rfl
    · rw [List.length_cons, ih h, List.length_cons]

theorem find?_insert (m : OrdMap κ ν) (k k' : κ) (v : ν) :
    (m.insert k v).find? k' = if k' = k then some ((m.find? k).getD v) else m.find? k' :=
  lookup_insertList m.sorted

/-! ### Erasing -/

/-- `std::map::erase` by key. -/
def erase (m : OrdMap κ ν) (k : κ) : OrdMap κ ν :=
  ⟨m.entries.filter fun e => e.1 ≠ k, m.sorted.filter _⟩

theorem find?_erase (m : OrdMap κ ν) (k k' : κ) :
    (m.erase k).find? k' = if k' = k then none else m.find? k' := by
  have key : ∀ es : List (κ × ν), lookup k' (es.filter fun e => e.1 ≠ k) =
      if k' = k then none else lookup k' es := by
    intro es
    induction es with
    | nil => simp [lookup]
    | cons e es ih =>
      obtain ⟨k₁, v₁⟩ := e
      by_cases h : k₁ = k
      · simp only [h, ne_eq, not_true_eq_false, decide_false, Bool.false_eq_true, not_false_eq_true,
          List.filter_cons_of_neg, ih, lookup]
        split_ifs <;> rfl
      · simp only [ne_eq, h, not_false_eq_true, decide_true, List.filter_cons_of_pos, lookup, ih]
        split_ifs with h₁ h₂
        · exact absurd (h₁.symm.trans h₂) h
        all_goals rfl
  exact key m.entries

/-! ### Editing a value in place -/

/-- Apply `f` to the value under `k`, if there is one (`m[k].field = …` on a present key). -/
def modify (m : OrdMap κ ν) (k : κ) (f : ν → ν) : OrdMap κ ν :=
  ⟨m.entries.map fun e => if e.1 = k then (e.1, f e.2) else e, by
    refine (List.pairwise_map.2 (m.sorted.imp ?_))
    intro a b hab
    split_ifs <;> exact hab⟩

theorem find?_modify (m : OrdMap κ ν) (k k' : κ) (f : ν → ν) :
    (m.modify k f).find? k' = if k' = k then (m.find? k).map f else m.find? k' := by
  have key : ∀ es : List (κ × ν), lookup k' (es.map fun e => if e.1 = k then (e.1, f e.2) else e) =
      if k' = k then (lookup k es).map f else lookup k' es := by
    intro es
    induction es with
    | nil => simp [lookup]
    | cons e es ih =>
      obtain ⟨k₁, v₁⟩ := e
      by_cases h : k₁ = k <;> by_cases h' : k' = k <;> simp_all [lookup]
      split_ifs with h₁
      · exact absurd h₁.symm h
      · rfl
  exact key m.entries

theorem contains_modify (m : OrdMap κ ν) (k k' : κ) (f : ν → ν) :
    (m.modify k f).contains k' = m.contains k' := by
  simp only [contains, find?_modify]
  split_ifs with h
  · subst h
    simp
  · rfl

end OrdMap

end DalHost

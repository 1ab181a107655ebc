import DalHost.Lib.Buffer

/-!
# Memory whose previous contents show

A byte of a message that a program has built is one it wrote, or one it did not: then the message
shows what the memory held before. `Cell ι` keeps the two apart, with a name `ι` for each byte of
the previous contents, and `render` fills these in. Two fillings can give two different messages
exactly when some cell of the message is a name (`render_independent_iff`).
-/

namespace DalHost

/-- A byte that was written, or the name of one that was not. -/
inductive Cell (ι : Type)
  | byte (b : UInt8)
  | raw (i : ι)
  deriving DecidableEq

namespace Cell

variable {ι : Type}

/-- The byte of a cell, given the previous contents. -/
def render (ρ : ι → UInt8) : Cell ι → UInt8
  | .byte b => b
  | .raw i => ρ i

@[simp] theorem render_byte (ρ : ι → UInt8) (b : UInt8) : (byte b).render ρ = b := rfl

/-- The cell was written. -/
def IsByte : Cell ι → Prop
  | .byte _ => True
  | .raw _ => False

@[simp] theorem isByte_byte (b : UInt8) : (byte b : Cell ι).IsByte := trivial

@[simp] theorem not_isByte_raw (i : ι) : ¬(raw i).IsByte := fun h => h

theorem render_eq_of_isByte {c : Cell ι} (h : c.IsByte) (ρ ρ' : ι → UInt8) : c.render ρ = c.render ρ' := by
  cases c with
  | byte b => rfl
  | raw i => exact absurd h (not_isByte_raw i)

/-- Bytes written. -/
def ofBytes (bs : List UInt8) : List (Cell ι) := bs.map .byte

@[simp] theorem length_ofBytes (bs : List UInt8) : (ofBytes bs : List (Cell ι)).length = bs.length :=
  List.length_map _

@[simp] theorem map_render_ofBytes (ρ : ι → UInt8) (bs : List UInt8) : (ofBytes bs).map (render ρ) = bs := by
  simp [ofBytes, Function.comp_def]

theorem isByte_of_mem_ofBytes {bs : List UInt8} {c : Cell ι} (h : c ∈ ofBytes bs) : c.IsByte := by
  obtain ⟨b, -, rfl⟩ := List.mem_map.1 h
  exact isByte_byte b

/-- A message does not show the previous contents exactly when all its cells were written. -/
theorem render_independent_iff (cell : Nat → Cell ι) (n : Nat) :
    (∀ ρ ρ' : ι → UInt8, slice (fun i => (cell i).render ρ) 0 n = slice (fun i => (cell i).render ρ') 0 n) ↔
      ∀ i, i < n → (cell i).IsByte := by
  constructor
  · intro h i hi
    cases hc : cell i with
    | byte b => exact isByte_byte b
    | raw j =>
      exfalso
      have hij := congrArg (fun l => l[i]?) (h (fun _ => 0) (fun _ => 1))
      simp only [getElem?_slice, if_pos hi, Nat.zero_add, hc, render] at hij
      cases hij
  · intro h ρ ρ'
    refine slice_congr fun i hi => ?_
    rw [Nat.zero_add]
    exact render_eq_of_isByte (h i hi) ρ ρ'

end Cell

/-! ### Cells after stores -/

section Stores

variable {α β ι : Type}

theorem storeAll_apply_of_outside {m : Nat → α} {ws : List (Nat × List α)} {i : Nat}
    (h : ∀ w ∈ ws, i < w.1 ∨ w.1 + w.2.length ≤ i) : storeAll m ws i = m i := by
  induction ws generalizing m with
  | nil => rfl
  | cons w ws ih =>
    rw [storeAll_cons, ih fun w' hw' => h w' (List.mem_cons_of_mem _ hw')]
    rcases h w List.mem_cons_self with hlt | hge
    · exact store_apply_of_lt m w.2 hlt
    · exact store_apply_of_ge m w.2 hge

theorem isByte_store {m : Nat → Cell ι} {off i : Nat} {xs : List (Cell ι)} (hxs : ∀ c ∈ xs, c.IsByte)
    (h : (m i).IsByte ∨ off ≤ i ∧ i < off + xs.length) : (store m off xs i).IsByte := by
  by_cases hin : off ≤ i ∧ i < off + xs.length
  · have hmem := store_apply_mem m xs hin.1 hin.2
    exact hxs _ (List.mem_of_getElem? hmem.symm)
  · have hi : (m i).IsByte := h.resolve_right hin
    by_cases hlt : i < off
    · rwa [store_apply_of_lt m xs hlt]
    · rwa [store_apply_of_ge m xs (by omega)]

theorem isByte_storeAll {m : Nat → Cell ι} {ws : List (Nat × List (Cell ι))} {i : Nat}
    (hws : ∀ w ∈ ws, ∀ c ∈ w.2, c.IsByte)
    (h : (m i).IsByte ∨ ∃ w ∈ ws, w.1 ≤ i ∧ i < w.1 + w.2.length) : (storeAll m ws i).IsByte := by
  induction ws generalizing m with
  | nil => simpa using h
  | cons w ws ih =>
    rw [storeAll_cons]
    refine ih (fun w' hw' => hws w' (List.mem_cons_of_mem _ hw')) ?_
    have hw : ∀ c ∈ w.2, c.IsByte := hws w List.mem_cons_self
    rcases h with hm | ⟨w', hw', hin⟩
    · exact .inl (isByte_store hw (.inl hm))
    · rcases List.mem_cons.1 hw' with rfl | htail
      · exact .inl (isByte_store hw (.inr hin))
      · exact .inr ⟨w', htail, hin⟩

theorem storeAll_map (f : α → β) (m : Nat → α) (ws : List (Nat × List α)) :
    (fun i => f (storeAll m ws i)) = storeAll (fun i => f (m i)) (ws.map fun w => (w.1, w.2.map f)) := by
  induction ws generalizing m with
  | nil => rfl
  | cons w ws ih =>
    rw [storeAll_cons, ih, List.map_cons, storeAll_cons]
    congr 1
    funext i
    exact store_map f m w.1 w.2 i

end Stores

end DalHost

import Mathlib.Algebra.Group.Nat.Defs
import Mathlib.Data.List.Basic
import Mathlib.Data.Nat.Basic

/-!
# Buffers

A buffer is a function from offsets to cells: what lies behind a pointer, with nothing said about
how much of it belongs to the buffer. `store` puts a list of cells at an offset and `slice` takes
one out. A proof about a message that was built by several stores looks at one slice at a time: it
is in the last store, or disjoint from it. Numbers are stored in little-endian order.
-/

namespace DalHost

/-! ### Stores and slices -/

section Store

variable {α β : Type}

/-- The buffer with `xs` at offset `off`. -/
def store (m : Nat → α) (off : Nat) (xs : List α) : Nat → α := fun i =>
  if off ≤ i then (xs[i - off]?).getD (m i) else m i

/-- `len` cells from offset `off` on. -/
def slice (m : Nat → α) (off len : Nat) : List α := (List.range len).map fun i => m (off + i)

/-- Stores one after the other. -/
def storeAll (m : Nat → α) (stores : List (Nat × List α)) : Nat → α :=
  stores.foldl (fun m w => store m w.1 w.2) m

@[simp] theorem storeAll_nil (m : Nat → α) : storeAll m [] = m := rfl

@[simp] theorem storeAll_cons (m : Nat → α) (w : Nat × List α) (ws : List (Nat × List α)) :
    storeAll m (w :: ws) = storeAll (store m w.1 w.2) ws := rfl

@[simp] theorem length_slice (m : Nat → α) (off len : Nat) : (slice m off len).length = len := by
  simp [slice]

theorem getElem?_slice (m : Nat → α) (off len i : Nat) :
    (slice m off len)[i]? = if i < len then some (m (off + i)) else none := by
  unfold slice
  rw [List.getElem?_map]
  split_ifs with h
  · rw [List.getElem?_range h]
    rfl
  · rw [List.getElem?_eq_none (by simpa using h)]
    rfl

theorem slice_congr {m m' : Nat → α} {off off' len : Nat} (h : ∀ i, i < len → m (off + i) = m' (off' + i)) :
    slice m off len = slice m' off' len := by
  refine List.map_congr_left fun i hi => h i ?_
  exact List.mem_range.1 hi

theorem slice_map (f : α → β) (m : Nat → α) (off len : Nat) :
    slice (fun i => f (m i)) off len = (slice m off len).map f := by
  simp [slice, Function.comp_def]

theorem slice_add (m : Nat → α) (off a b : Nat) : slice m off (a + b) = slice m off a ++ slice m (off + a) b := by
  unfold slice
  rw [List.range_add, List.map_append, List.map_map]
  congr 1
  refine List.map_congr_left fun i _ => ?_
  simp [Nat.add_assoc]

theorem take_slice (m : Nat → α) (off : Nat) {k n : Nat} (h : k ≤ n) : (slice m off n).take k = slice m off k := by
  obtain ⟨d, rfl⟩ := Nat.exists_eq_add_of_le h
  rw [slice_add, List.take_left' (length_slice m off k)]

theorem drop_slice (m : Nat → α) (off k n : Nat) : (slice m off n).drop k = slice m (off + k) (n - k) := by
  apply List.ext_getElem?
  intro i
  rw [List.getElem?_drop, getElem?_slice, getElem?_slice, Nat.add_assoc]
  simp only [Nat.lt_sub_iff_add_lt, Nat.add_comm]

theorem take_drop_slice (m : Nat → α) (off : Nat) {k len n : Nat} (h : k + len ≤ n) :
    ((slice m off n).drop k).take len = slice m (off + k) len := by
  rw [drop_slice, take_slice m _ (by omega)]

theorem store_apply_of_lt (m : Nat → α) {off i : Nat} (xs : List α) (h : i < off) : store m off xs i = m i := by
  unfold store
  rw [if_neg (by omega)]

theorem store_apply_of_ge (m : Nat → α) {off i : Nat} (xs : List α) (h : off + xs.length ≤ i) :
    store m off xs i = m i := by
  unfold store
  rw [if_pos (by omega), List.getElem?_eq_none (by omega)]
  rfl

theorem store_apply_mem (m : Nat → α) {off i : Nat} (xs : List α) (hle : off ≤ i) (hlt : i < off + xs.length) :
    some (store m off xs i) = xs[i - off]? := by
  unfold store
  rw [if_pos hle, List.getElem?_eq_getElem (by omega : i - off < xs.length)]
  rfl

theorem store_append_apply (m : Nat → α) {off i : Nat} (xs ys : List α) (h : i < off + xs.length) :
    store m off (xs ++ ys) i = store m off xs i := by
  unfold store
  by_cases hle : off ≤ i
  · rw [if_pos hle, if_pos hle, List.getElem?_append_left (by omega)]
  · rw [if_neg hle, if_neg hle]

theorem store_append (m : Nat → α) (off : Nat) (xs ys : List α) :
    store m off (xs ++ ys) = store (store m off xs) (off + xs.length) ys := by
  funext i
  by_cases h : i < off + xs.length
  · rw [store_append_apply m xs ys h, store_apply_of_lt _ ys h]
  · unfold store
    rw [if_pos (by omega), if_pos (by omega), if_pos (by omega), List.getElem?_append_right (by omega),
      List.getElem?_eq_none (by omega : xs.length ≤ i - off), Nat.sub_sub]
    rfl

theorem slice_store_of_disjoint (m : Nat → α) (off : Nat) (xs : List α) {o len : Nat}
    (h : o + len ≤ off ∨ off + xs.length ≤ o) : slice (store m off xs) o len = slice m o len := by
  refine slice_congr fun i hi => ?_
  rcases h with h | h
  · exact store_apply_of_lt m xs (by omega)
  · exact store_apply_of_ge m xs (by omega)

theorem slice_store_of_subset (m : Nat → α) (off : Nat) (xs : List α) {o len : Nat} (hle : off ≤ o)
    (hlen : o + len ≤ off + xs.length) : slice (store m off xs) o len = (xs.drop (o - off)).take len := by
  apply List.ext_getElem?
  intro i
  rw [getElem?_slice, List.getElem?_take, List.getElem?_drop]
  split_ifs with hi
  · rw [store_apply_mem m xs (by omega) (by omega)]
    congr 1
    omega
  · rfl

theorem slice_store_self (m : Nat → α) (off : Nat) (xs : List α) {len : Nat} (hlen : len = xs.length) :
    slice (store m off xs) off len = xs := by
  subst hlen
  rw [slice_store_of_subset m off xs le_rfl le_rfl]
  simp

theorem store_map (f : α → β) (m : Nat → α) (off : Nat) (xs : List α) (i : Nat) :
    f (store m off xs i) = store (fun i => f (m i)) off (xs.map f) i := by
  unfold store
  split_ifs
  · rw [List.getElem?_map]
    cases xs[i - off]? <;> rfl
  · rfl

end Store

/-! ### Records of one size -/

section Records

variable {α β : Type} {f : α → List β} {k : Nat}

theorem length_flatMap_of_length (h : ∀ a, (f a).length = k) (l : List α) : (l.flatMap f).length = k * l.length := by
  induction l with
  | nil => rfl
  | cons a l ih => rw [List.flatMap_cons, List.length_append, ih, h, List.length_cons, Nat.mul_succ, Nat.add_comm]

theorem take_flatMap_of_length (h : ∀ a, (f a).length = k) (l : List α) (i : Nat) :
    (l.flatMap f).take (k * i) = (l.take i).flatMap f := by
  induction i generalizing l with
  | zero => simp
  | succ i ih =>
    cases l with
    | nil => simp
    | cons a l =>
      have hk : k * (i + 1) = (f a).length + k * i := by rw [h, Nat.mul_succ, Nat.add_comm]
      rw [List.flatMap_cons, hk, List.take_length_add_append, ih, List.take_succ_cons, List.flatMap_cons]

theorem drop_flatMap_of_length (h : ∀ a, (f a).length = k) (l : List α) (i : Nat) :
    (l.flatMap f).drop (k * i) = (l.drop i).flatMap f := by
  induction i generalizing l with
  | zero => simp
  | succ i ih =>
    cases l with
    | nil => simp
    | cons a l =>
      rw [List.flatMap_cons, List.drop_succ_cons, ← ih l, Nat.mul_succ, Nat.add_comm, ← List.drop_drop,
        List.drop_left' (h a)]

end Records

/-! ### Little-endian numbers -/

/-- The low `k` bytes of a number. -/
def leBytes : Nat → Nat → List UInt8
  | 0, _ => []
  | k + 1, x => UInt8.ofNat x :: leBytes k (x / 256)

/-- The number that bytes stand for. -/
def ofLe : List UInt8 → Nat
  | [] => 0
  | b :: bs => b.toNat + 256 * ofLe bs

@[simp] theorem length_leBytes (k x : Nat) : (leBytes k x).length = k := by
  induction k generalizing x with
  | zero => rfl
  | succ k ih => simp [leBytes, ih]

theorem ofLe_leBytes (k x : Nat) : ofLe (leBytes k x) = x % 256 ^ k := by
  induction k generalizing x with
  | zero => simp [leBytes, ofLe, Nat.mod_one]
  | succ k ih =>
    have hpow : 256 ^ (k + 1) = 256 * 256 ^ k := Nat.pow_succ'
    rw [leBytes, ofLe, ih, UInt8.toNat_ofNat', hpow, Nat.mod_mul]

theorem ofLe_lt (bs : List UInt8) : ofLe bs < 256 ^ bs.length := by
  induction bs with
  | nil => exact Nat.one_pos
  | cons b bs ih =>
    have hb := b.toNat_lt
    have hpow : 256 ^ (bs.length + 1) = 256 * 256 ^ bs.length := Nat.pow_succ'
    rw [ofLe, List.length_cons, hpow]
    omega

theorem leBytes_ofLe (bs : List UInt8) : leBytes bs.length (ofLe bs) = bs := by
  induction bs with
  | nil => rfl
  | cons b bs ih =>
    have hb := b.toNat_lt
    have hdiv : (b.toNat + 256 * ofLe bs) / 256 = ofLe bs := by omega
    have hlow : UInt8.ofNat (b.toNat + 256 * ofLe bs) = b := by
      rw [← UInt8.toNat_inj, UInt8.toNat_ofNat']
      omega
    rw [ofLe, List.length_cons, leBytes, hdiv, hlow, ih]

/-- The bytes of a 32-bit number. -/
def le32 (x : UInt32) : List UInt8 := leBytes 4 x.toNat

/-- The bytes of a 64-bit number. -/
def le64 (x : UInt64) : List UInt8 := leBytes 8 x.toNat

@[simp] theorem length_le32 (x : UInt32) : (le32 x).length = 4 := length_leBytes 4 _

@[simp] theorem length_le64 (x : UInt64) : (le64 x).length = 8 := length_leBytes 8 _

@[simp] theorem slice_store_le32 (m : Nat → UInt8) (off : Nat) (x : UInt32) :
    slice (store m off (le32 x)) off 4 = le32 x := slice_store_self m off _ (length_le32 x).symm

/-- The 32-bit number at an offset. -/
def u32At (m : Nat → UInt8) (off : Nat) : UInt32 := UInt32.ofNat (ofLe (slice m off 4))

/-- The 64-bit number at an offset. -/
def u64At (m : Nat → UInt8) (off : Nat) : UInt64 := UInt64.ofNat (ofLe (slice m off 8))

theorem u32At_eq {m : Nat → UInt8} {off : Nat} {x : UInt32} (h : slice m off 4 = le32 x) : u32At m off = x := by
  unfold u32At
  rw [h, le32, ofLe_leBytes, Nat.mod_eq_of_lt (by simpa using x.toNat_lt)]
  exact UInt32.ofNat_toNat

theorem u64At_eq {m : Nat → UInt8} {off : Nat} {x : UInt64} (h : slice m off 8 = le64 x) : u64At m off = x := by
  unfold u64At
  rw [h, le64, ofLe_leBytes, Nat.mod_eq_of_lt (by simpa using x.toNat_lt)]
  exact UInt64.ofNat_toNat

end DalHost

import DalHost.Plugin.AcpReader
import Mathlib.Tactic.SplitIfs

/-!
# What the loads of a command package find

A reader that stands inside its pack stands before a text, the bytes from its cursor to its end. A load finds a padded
record at the front of that text or fails, whatever the addresses are: no sum wraps that is then used. It reads nothing
outside of the text.
-/

namespace DalHost

namespace Acp

/-- The access is a read between two addresses. -/
def Inside (lo hi : Nat) : Access → Prop
  | .read off len => lo ≤ off ∧ off + len ≤ hi
  | .sub .. | .copy .. => True

theorem Inside.mono {lo lo' hi hi' : Nat} {a : Access} (h : Inside lo hi a) (hlo : lo' ≤ lo) (hhi : hi ≤ hi') :
    Inside lo' hi' a := by
  cases a with
  | read off len => exact ⟨Nat.le_trans hlo h.1, Nat.le_trans h.2 hhi⟩
  | sub | copy => trivial

namespace PackReader

/-- The address behind the pack. -/
def stop (r : PackReader) : Nat := r.head.toNat + r.total.toNat

/-- The reader is inside its pack, which does not reach the end of the address space. -/
structure Valid (r : PackReader) : Prop where
  bound : r.stop < 2 ^ 64
  head_le : r.head.toNat ≤ r.cur.toNat
  le_stop : r.cur.toNat ≤ r.stop

/-- What the reader has before it. -/
def text (r : PackReader) (m : Nat → UInt8) : Bytes := slice m r.cur.toNat (r.stop - r.cur.toNat)

/-- The reader with its cursor at an address. -/
def goTo (r : PackReader) (c : Nat) : PackReader := { r with cur := .ofNat c }

variable {r : PackReader}

@[simp] theorem stop_goTo (c : Nat) : (r.goTo c).stop = r.stop := rfl

@[simp] theorem head_goTo (c : Nat) : (r.goTo c).head = r.head := rfl

@[simp] theorem goTo_goTo (c c' : Nat) : (r.goTo c).goTo c' = r.goTo c' := rfl

theorem goTo_cur (r : PackReader) : r.goTo r.cur.toNat = r := by
  unfold goTo
  rw [UInt64.ofNat_toNat]

@[simp] theorem length_text (m : Nat → UInt8) : (r.text m).length = r.stop - r.cur.toNat := length_slice _ _ _

theorem cur_goTo (hr : r.Valid) {c : Nat} (hc : c ≤ r.stop) : (r.goTo c).cur.toNat = c := by
  have := hr.bound
  apply UInt64.toNat_ofNat_of_lt'
  exact Nat.lt_of_le_of_lt hc this

theorem Valid.goTo (hr : r.Valid) {c : Nat} (hhead : r.head.toNat ≤ c) (hc : c ≤ r.stop) : (r.goTo c).Valid := by
  have hcur := cur_goTo hr hc
  refine ⟨hr.bound, ?_, ?_⟩
  · rw [hcur]
    exact hhead
  · rw [hcur]
    exact hc

theorem text_goTo (hr : r.Valid) (m : Nat → UInt8) {c : Nat} (hcur : r.cur.toNat ≤ c) (hc : c ≤ r.stop) :
    (r.goTo c).text m = (r.text m).drop (c - r.cur.toNat) := by
  unfold text
  rw [cur_goTo hr hc, stop_goTo, drop_slice]
  congr 1 <;> omega

theorem toNat_stop (hr : r.Valid) : (r.head + r.total.toUInt64).toNat = r.stop := by
  have := hr.bound
  rw [UInt64.toNat_add, UInt32.toNat_toUInt64]
  exact Nat.mod_eq_of_lt this

end PackReader

variable {α β : Type} {m : Nat → UInt8} {P : Access → Prop} {r : PackReader}

/-! ### Runs of a load -/

/-- The load answers `ans` for a reader, with accesses that satisfy `P`. -/
def Runs (P : Access → Prop) (m : Nat → UInt8) (x : Load α) (r : PackReader) (ans : Except BhRet (α × PackReader)) : Prop :=
  Scan.Does P m (x.run r) ans

theorem runs_pure (a : α) : Runs P m (pure a) r (.ok (a, r)) := Scan.does_pure _

theorem Runs.bind {x : Load α} {f : α → Load β} {a : α} {r' : PackReader} {ans : Except BhRet (β × PackReader)}
    (hx : Runs P m x r (.ok (a, r'))) (hf : Runs P m (f a) r' ans) : Runs P m (x >>= f) r ans := by
  unfold Runs
  rw [StateT.run_bind]
  exact Scan.Does.bind hx hf

theorem Runs.bind_error {x : Load α} {f : α → Load β} {e : BhRet} (hx : Runs P m x r (.error e)) :
    Runs P m (x >>= f) r (.error e) := by
  unfold Runs
  rw [StateT.run_bind]
  exact Scan.Does.bind_error hx

theorem runs_get_bind {f : PackReader → Load β} {ans : Except BhRet (β × PackReader)} (hf : Runs P m (f r) r ans) :
    Runs P m (get >>= f) r ans := by
  refine Runs.bind (?_ : Runs P m get r (.ok (r, r))) hf
  exact Scan.does_pure _

theorem runs_set (r' : PackReader) : Runs P m (set r' : Load PUnit) r (.ok (⟨⟩, r')) := Scan.does_pure _

theorem runs_lift_bind {x : Scan BhRet α} {f : α → Load β} {a : α} {ans : Except BhRet (β × PackReader)}
    (hx : Scan.Does P m x (.ok a)) (hf : Runs P m (f a) r ans) : Runs P m ((x : Load α) >>= f) r ans := by
  refine Runs.bind (?_ : Runs P m (x : Load α) r (.ok (a, r))) hf
  exact Scan.Does.bind hx (Scan.does_pure _)

theorem runs_lift_bind_error {x : Scan BhRet α} {f : α → Load β} {e : BhRet} (hx : Scan.Does P m x (.error e)) :
    Runs P m ((x : Load α) >>= f) r (.error e) := by
  apply Runs.bind_error
  exact Scan.Does.bind_error hx

theorem runs_check_bind {c : Prop} [Decidable c] {e : BhRet} {f : Unit → Load β} {ans : Except BhRet (β × PackReader)}
    (hc : c) (hf : Runs P m (f ()) r ans) : Runs P m ((Scan.check c e : Load Unit) >>= f) r ans := by
  refine runs_lift_bind (a := ()) ?_ hf
  have h := Scan.does_check (P := P) (m := m) c e
  rwa [if_pos hc] at h

theorem runs_check_bind_error {c : Prop} [Decidable c] {e : BhRet} {f : Unit → Load β} (hc : ¬c) :
    Runs P m ((Scan.check c e : Load Unit) >>= f) r (.error e) := by
  apply runs_lift_bind_error
  have h := Scan.does_check (P := P) (m := m) c e
  rwa [if_neg hc] at h

theorem runs_check {c : Prop} [Decidable c] {e : BhRet} :
    Runs P m (Scan.check c e : Load Unit) r (if c then .ok ((), r) else .error e) := by
  have h := Scan.does_check (P := P) (m := m) c e
  by_cases hc : c
  · rw [if_pos hc] at h ⊢
    exact Scan.Does.bind h (Scan.does_pure _)
  · rw [if_neg hc] at h ⊢
    exact Scan.Does.bind_error h

theorem Runs.weaken {Q : Access → Prop} {x : Load α} {ans : Except BhRet (α × PackReader)} (h : Runs P m x r ans)
    (hPQ : ∀ a, P a → Q a) : Runs Q m x r ans := Scan.Does.weaken h hPQ

/-! ### Moves -/

theorem le_sub_uintptrMax (c n : UInt64) : c ≤ uintptrMax - n ↔ c.toNat + n.toNat < 2 ^ 64 := by
  have hn := n.toNat_lt
  have hsub : (uintptrMax - n).toNat = 2 ^ 64 - 1 - n.toNat := by
    rw [UInt64.toNat_sub_of_le]
    · rfl
    · rw [UInt64.le_iff_toNat_le]
      change n.toNat ≤ 2 ^ 64 - 1
      omega
  rw [UInt64.le_iff_toNat_le, hsub]
  omega

theorem toNat_add_of_lt {c n : UInt64} (h : c.toNat + n.toNat < 2 ^ 64) : (c + n).toNat = c.toNat + n.toNat := by
  rw [UInt64.toNat_add]
  exact Nat.mod_eq_of_lt h

theorem runs_prIsSafeToRead (hr : r.Valid) (n : UInt64) : Runs P m (prIsSafeToRead n) r
    (if r.cur.toNat + n.toNat ≤ r.stop then .ok ((), r) else .error bheInvalidBpkFile) := by
  have hbound := hr.bound
  apply runs_get_bind
  by_cases hwrap : r.cur.toNat + n.toNat < 2 ^ 64
  · apply runs_check_bind ((le_sub_uintptrMax _ _).2 hwrap)
    have h := runs_check (P := P) (m := m) (r := r) (c := r.cur + n ≤ r.head + r.total.toUInt64) (e := bheInvalidBpkFile)
    simpa only [UInt64.le_iff_toNat_le, toNat_add_of_lt hwrap, PackReader.toNat_stop hr] using h
  · rw [if_neg (by omega)]
    apply runs_check_bind_error
    rw [le_sub_uintptrMax]
    exact hwrap

/-- The bytes up to the next multiple, with the masks of the code. -/
theorem toNat_offset {align : UInt64} {k : Nat} (halign : align.toNat = 2 ^ k) (n : UInt64) :
    ((align - (n &&& (align - 1))) &&& (align - 1)).toNat = padding (2 ^ k) n.toNat := by
  have hpos : 0 < 2 ^ k := Nat.two_pow_pos k
  have hone : (1 : UInt64).toNat = 1 := rfl
  have hmask : (align - 1).toNat = 2 ^ k - 1 := by
    rw [UInt64.toNat_sub_of_le, halign, hone]
    rw [UInt64.le_iff_toNat_le, halign, hone]
    exact hpos
  have hlow : (n &&& (align - 1)).toNat = n.toNat % 2 ^ k := by
    rw [UInt64.toNat_and, hmask, Nat.and_two_pow_sub_one_eq_mod]
  have hlt := Nat.mod_lt n.toNat hpos
  rw [UInt64.toNat_and, hmask, Nat.and_two_pow_sub_one_eq_mod, UInt64.toNat_sub_of_le, halign, hlow]
  · rfl
  · rw [UInt64.le_iff_toNat_le, halign, hlow]
    omega

theorem runs_prAlignedMove (hr : r.Valid) {align : UInt64} {k : Nat} (halign : align.toNat = 2 ^ k) (n : UInt64) :
    Runs P m (prAlignedMove align n) r
      (if r.cur.toNat + n.toNat + padding (2 ^ k) (r.cur.toNat - r.head.toNat + n.toNat) ≤ r.stop then
        .ok ((), r.goTo (r.cur.toNat + n.toNat + padding (2 ^ k) (r.cur.toNat - r.head.toNat + n.toNat)))
      else .error bheInvalidBpkFile) := by
  have hbound := hr.bound
  have hhead := hr.head_le
  apply runs_get_bind
  by_cases hwrap : r.cur.toNat + n.toNat < 2 ^ 64
  · have hnew : (r.cur + n).toNat = r.cur.toNat + n.toNat := toNat_add_of_lt hwrap
    have hge : r.head ≤ r.cur + n := by
      rw [UInt64.le_iff_toNat_le, hnew]
      omega
    have hlen : (r.cur + n - r.head).toNat = r.cur.toNat - r.head.toNat + n.toNat := by
      rw [UInt64.toNat_sub_of_le _ _ hge, hnew]
      omega
    have hoffset := toNat_offset halign (r.cur + n - r.head)
    rw [hlen] at hoffset
    generalize hpad : (align - (r.cur + n - r.head &&& (align - 1)) &&& (align - 1)) = offset at hoffset
    apply runs_check_bind ⟨(le_sub_uintptrMax _ _).2 hwrap, hge⟩
    by_cases hwrap' : (r.cur + n).toNat + offset.toNat < 2 ^ 64
    · rw [hpad]
      apply runs_check_bind ((le_sub_uintptrMax _ _).2 hwrap')
      have hsum : (r.cur + n + offset).toNat = r.cur.toNat + n.toNat + padding (2 ^ k) (r.cur.toNat - r.head.toNat + n.toNat) := by
        rw [toNat_add_of_lt hwrap', hnew, hoffset]
      rw [← hsum]
      by_cases hle : (r.cur + n + offset).toNat ≤ r.stop
      · rw [if_pos hle]
        apply runs_check_bind
        · rw [UInt64.le_iff_toNat_le, PackReader.toNat_stop hr]
          exact hle
        · rw [PackReader.goTo, UInt64.ofNat_toNat]
          apply runs_set
      · rw [if_neg hle]
        apply runs_check_bind_error
        rw [UInt64.le_iff_toNat_le, PackReader.toNat_stop hr]
        exact hle
    · rw [if_neg (by omega), hpad]
      apply runs_check_bind_error
      rw [le_sub_uintptrMax]
      exact hwrap'
  · rw [if_neg (by omega)]
    apply runs_check_bind_error
    rw [le_sub_uintptrMax]
    exact fun h => hwrap h.1

/-! ### Records -/

/-- The number of elements in the head of a record. -/
def countAt (lenAt : Nat) (head : Bytes) : Nat := (packU32 head lenAt).toNat

/-- The records that end in an array. -/
def countedKind (size lenAt : Nat) (max : UInt32) (elem : Nat) : RecordKind UInt8 :=
  .counted size (countAt lenAt) max.toNat elem

/-- For a reader that is aligned, the load finds a record of the kind. -/
def Finds (k : RecordKind UInt8) (x : Load UInt64) : Prop :=
  ∀ m r, r.Valid → (r.cur.toNat - r.head.toNat) % 4 = 0 → Runs (Inside r.cur.toNat r.stop) m x r
    (match readRecord 4 k (r.text m) with
    | none => .error bheInvalidBpkFile
    | some (_, rest) => .ok (r.cur, r.goTo (r.stop - rest.length)))

theorem runs_alignMove (hr : r.Valid) (haligned : (r.cur.toNat - r.head.toNat) % 4 = 0) (len c : UInt64) :
    Runs P m (do prAlignMove len; return c) r
      (if len.toNat + padding 4 len.toNat ≤ r.stop - r.cur.toNat then
        .ok (c, r.goTo (r.cur.toNat + len.toNat + padding 4 len.toNat))
      else .error bheInvalidBpkFile) := by
  have hle := hr.le_stop
  have h : Runs P m (prAlignedMove 4 len) r _ := runs_prAlignedMove hr (k := 2) rfl len
  rw [show 2 ^ 2 = 4 by rfl, padding_add haligned] at h
  by_cases hfits : len.toNat + padding 4 len.toNat ≤ r.stop - r.cur.toNat
  · rw [if_pos (by omega)] at h
    rw [if_pos hfits]
    apply Runs.bind h
    apply runs_pure
  · rw [if_neg (by omega)] at h
    rw [if_neg hfits]
    apply Runs.bind_error h

theorem finds_fixed {size : Nat} (hsize : size < 2 ^ 64) : Finds (.fixed size) (acpLoadFixed size) := by
  intro m r hr haligned
  have hle := hr.le_stop
  have hlength := PackReader.length_text (r := r) m
  have htoNat : (UInt64.ofNat size).toNat = size := UInt64.toNat_ofNat_of_lt' hsize
  have hsafe := runs_prIsSafeToRead (P := Inside r.cur.toNat r.stop) (m := m) hr (.ofNat size)
  have hmove := runs_alignMove (P := Inside r.cur.toNat r.stop) (m := m) hr haligned (.ofNat size) r.cur
  rw [htoNat] at hsafe hmove
  by_cases hhead : (r.text m).length < size
  · rw [if_neg (by omega)] at hsafe
    rw [readRecord_of_lt hhead]
    apply Runs.bind_error hsafe
  · rw [if_pos (by omega)] at hsafe
    rw [readRecord_of_extent (k := .fixed size) (n := size) (Nat.le_of_not_lt hhead) rfl]
    apply Runs.bind hsafe
    apply runs_get_bind
    by_cases hfits : size + padding 4 size ≤ (r.text m).length
    · rw [if_pos (by omega)] at hmove
      simp only [if_pos hfits, List.length_drop]
      rwa [show r.stop - ((r.text m).length - (size + padding 4 size)) = r.cur.toNat + size + padding 4 size by omega]
    · rw [if_neg (by omega)] at hmove
      simp only [if_neg hfits]
      exact hmove

theorem packU32_take_text {size off : Nat} (hoff : off + 4 ≤ size) (hsize : size ≤ r.stop - r.cur.toNat) :
    packU32 ((r.text m).take size) off = u32At m (r.cur.toNat + off) := by
  unfold packU32 u32At PackReader.text
  congr 2
  apply slice_congr
  intro i hi
  rw [take_slice _ _ hsize, List.getD_eq_getElem?_getD, getElem?_slice, if_pos (by omega), Nat.add_assoc]
  rfl

theorem finds_counted {size lenAt elem : Nat} {max : UInt32} (hlenAt : lenAt + 4 ≤ size)
    (hmax : size + max.toNat * elem < 2 ^ 32) : Finds (countedKind size lenAt max elem) (acpLoadCounted size lenAt max elem) := by
  intro m r hr haligned
  have hle := hr.le_stop
  have htoNat : (UInt64.ofNat size).toNat = size := by
    apply UInt64.toNat_ofNat_of_lt'
    exact Nat.lt_trans (Nat.lt_of_le_of_lt (Nat.le_add_right _ _) hmax) (by decide)
  have hsafe := runs_prIsSafeToRead (P := Inside r.cur.toNat r.stop) (m := m) hr (.ofNat size)
  rw [htoNat] at hsafe
  have hlength := PackReader.length_text (r := r) m
  by_cases hhead : (r.text m).length < size
  · rw [if_neg (by omega)] at hsafe
    rw [readRecord_of_lt (k := countedKind size lenAt max elem) hhead]
    apply Runs.bind_error hsafe
  · rw [if_pos (by omega)] at hsafe
    have hcount : countAt lenAt ((r.text m).take size) = (u32At m (r.cur.toNat + lenAt)).toNat := by
      unfold countAt
      rw [packU32_take_text hlenAt (by omega)]
    apply Runs.bind hsafe
    apply runs_get_bind
    have hread : Inside r.cur.toNat r.stop (.read (r.cur.toNat + lenAt) 4) := ⟨by omega, by omega⟩
    apply runs_lift_bind (Scan.does_u32 hread)
    generalize u32At m (r.cur.toNat + lenAt) = count at hcount
    have hextent : (countedKind size lenAt max elem).extent ((r.text m).take size) =
        if max.toNat < count.toNat then none else some (size + count.toNat * elem) := by
      rw [← hcount]
      rfl
    by_cases hlimit : count ≤ max
    · have hlimit' : count.toNat ≤ max.toNat := hlimit
      apply runs_check_bind hlimit
      have hprod : count.toNat * elem ≤ max.toNat * elem := Nat.mul_le_mul_right _ hlimit'
      have hlen : (UInt64.ofNat size + count.toUInt64 * UInt64.ofNat elem).toNat = size + count.toNat * elem := by
        rw [UInt64.toNat_add, UInt64.toNat_mul, htoNat, UInt32.toNat_toUInt64, UInt64.toNat_ofNat', Nat.mul_mod_mod,
          Nat.add_mod_mod]
        apply Nat.mod_eq_of_lt
        omega
      generalize UInt64.ofNat size + count.toUInt64 * UInt64.ofNat elem = len at hlen
      have hsafe' := runs_prIsSafeToRead (P := Inside r.cur.toNat r.stop) (m := m) hr len
      have hmove := runs_alignMove (P := Inside r.cur.toNat r.stop) (m := m) hr haligned len r.cur
      rw [hlen] at hsafe' hmove
      rw [if_neg (by omega)] at hextent
      rw [readRecord_of_extent (k := countedKind size lenAt max elem) (Nat.le_of_not_lt hhead) hextent]
      generalize size + count.toNat * elem = n at hsafe' hmove
      by_cases hfits : n + padding 4 n ≤ (r.text m).length
      · rw [if_pos (by omega)] at hsafe' hmove
        simp only [if_pos hfits, List.length_drop]
        apply Runs.bind hsafe'
        rwa [show r.stop - ((r.text m).length - (n + padding 4 n)) = r.cur.toNat + n + padding 4 n by omega]
      · rw [if_neg (by omega)] at hmove
        simp only [if_neg hfits]
        by_cases hsafe : r.cur.toNat + n ≤ r.stop
        · rw [if_pos hsafe] at hsafe'
          apply Runs.bind hsafe' hmove
        · rw [if_neg hsafe] at hsafe'
          apply Runs.bind_error hsafe'
    · have hlimit' : max.toNat < count.toNat := by
        rw [UInt32.le_iff_toNat_le] at hlimit
        omega
      rw [if_pos hlimit'] at hextent
      rw [readRecord_of_refused (k := countedKind size lenAt max elem) (Nat.le_of_not_lt hhead) hextent]
      apply runs_check_bind_error hlimit

end Acp

end DalHost

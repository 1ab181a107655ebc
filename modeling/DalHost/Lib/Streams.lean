import Mathlib.Algebra.Group.Nat.Defs
import Mathlib.Data.Nat.Basic
import Mathlib.Data.List.Induction
import Mathlib.Data.List.TakeWhile
import Mathlib.Tactic.SplitIfs

/-!
# Numbers in text

How a program writes a number as decimal text (`decimal`) and how an input stream reads one back:
blanks are skipped, a sign may follow, then come the digits, and a number outside the range of the
target type is an error (`readSigned`, `readUnsigned`). The text of a number is the only decimal
text without a sign or a leading zero that has its value (`decimal_digitsValue`).
-/

namespace DalHost

/-! ### Digits -/

/-- A decimal digit in ASCII. -/
def isDecDigit (c : UInt8) : Bool := 48 ≤ c && c ≤ 57

/-- The number that digits stand for. -/
def digitsValue (ds : List UInt8) : Nat := ds.foldl (fun v d => 10 * v + (d.toNat - 48)) 0

/-- The decimal text of a number. -/
def decimal (n : Nat) : List UInt8 := (Nat.toDigits 10 n).map fun c => UInt8.ofNat c.toNat

/-- The text that an output stream writes for an integer. -/
def intText : Int → List UInt8
  | .ofNat n => decimal n
  | .negSucc n => 45 :: decimal (n + 1)

/-- Decimal digits without a leading zero. -/
def IsDecimal (ds : List UInt8) : Prop :=
  (∀ c ∈ ds, isDecDigit c = true) ∧ ds ≠ [] ∧ (ds.head? = some 48 → ds = [48])

theorem digitsValue_append_digit (ds : List UInt8) (d : UInt8) :
    digitsValue (ds ++ [d]) = 10 * digitsValue ds + (d.toNat - 48) := by
  simp [digitsValue, List.foldl_append]

theorem decimal_of_lt {d : Nat} (hd : d < 10) : decimal d = [UInt8.ofNat (48 + d)] := by
  rw [decimal, Nat.toDigits_of_lt_base hd, List.map_cons, List.map_nil, Nat.toNat_digitChar_of_lt_ten hd]

theorem decimal_append {n d : Nat} (hn : 0 < n) (hd : d < 10) :
    decimal (10 * n + d) = decimal n ++ [UInt8.ofNat (48 + d)] := by
  rw [← decimal_of_lt hd, decimal, decimal, decimal, ← Nat.toDigits_append_toDigits (by decide) hn hd, List.map_append]

theorem decimal_induction {p : Nat → Prop} (hsingle : ∀ d, d < 10 → p d)
    (hdigit : ∀ n d, 0 < n → d < 10 → p n → p (10 * n + d)) (n : Nat) : p n := by
  induction n using Nat.strongRecOn with
  | ind n ih =>
    by_cases hn : n < 10
    · exact hsingle n hn
    · have hsplit : n = 10 * (n / 10) + n % 10 := by omega
      rw [hsplit]
      exact hdigit (n / 10) (n % 10) (by omega) (by omega) (ih (n / 10) (by omega))

theorem toNat_digit {d : Nat} (hd : d < 10) : (UInt8.ofNat (48 + d)).toNat = 48 + d := by
  rw [UInt8.toNat_ofNat']
  omega

theorem isDecDigit_digit {d : Nat} (hd : d < 10) : isDecDigit (UInt8.ofNat (48 + d)) = true := by
  have h := toNat_digit hd
  simp only [isDecDigit, Bool.and_eq_true, decide_eq_true_eq, UInt8.le_iff_toNat_le, h]
  constructor
  · show 48 ≤ 48 + d
    omega
  · show 48 + d ≤ 57
    omega

theorem digitsValue_decimal (n : Nat) : digitsValue (decimal n) = n := by
  induction n using decimal_induction with
  | hsingle d hd =>
    rw [decimal_of_lt hd]
    simp only [digitsValue, List.foldl_cons, List.foldl_nil, toNat_digit hd]
    omega
  | hdigit n d hn hd ih =>
    rw [decimal_append hn hd, digitsValue_append_digit, ih, toNat_digit hd]
    omega

theorem isDecimal_decimal (n : Nat) : IsDecimal (decimal n) := by
  have hpos : ∀ n, 0 < n → (decimal n).head? ≠ some 48 := by
    intro n
    induction n using decimal_induction with
    | hsingle d hd =>
      intro hpos hhead
      rw [decimal_of_lt hd, List.head?_cons, Option.some.injEq] at hhead
      have hval := toNat_digit hd
      rw [hhead] at hval
      have h48 : (48 : UInt8).toNat = 48 := rfl
      omega
    | hdigit n d hn hd ih =>
      intro _
      rw [decimal_append hn hd]
      have hne : decimal n ≠ [] := by
        intro hnil
        have hval := digitsValue_decimal n
        rw [hnil] at hval
        have hzero : digitsValue [] = 0 := rfl
        omega
      obtain ⟨c, cs, hcs⟩ := List.exists_cons_of_ne_nil hne
      have hhead := ih hn
      rw [hcs] at hhead ⊢
      exact hhead
  refine ⟨?_, ?_, fun hhead => ?_⟩
  · induction n using decimal_induction with
    | hsingle d hd =>
      rw [decimal_of_lt hd]
      simpa using isDecDigit_digit hd
    | hdigit n d hn hd ih =>
      rw [decimal_append hn hd]
      intro c hc
      rcases List.mem_append.1 hc with hc | hc
      · exact ih c hc
      · obtain rfl := List.mem_singleton.1 hc
        exact isDecDigit_digit hd
  · intro hnil
    simp [decimal, Nat.toDigits_ne_nil] at hnil
  · by_cases hn : 0 < n
    · exact absurd hhead (hpos n hn)
    · obtain rfl : n = 0 := by omega
      rfl

theorem decimal_digitsValue {ds : List UInt8} (h : IsDecimal ds) : decimal (digitsValue ds) = ds := by
  induction ds using List.reverseRecOn with
  | nil => exact absurd rfl h.2.1
  | append_singleton ds d ih =>
    obtain ⟨hdigits, -, hhead⟩ := h
    have hd : isDecDigit d = true := hdigits d (by simp)
    simp only [isDecDigit, Bool.and_eq_true, decide_eq_true_eq, UInt8.le_iff_toNat_le] at hd
    have h48 : (48 : UInt8).toNat = 48 := rfl
    have h57 : (57 : UInt8).toNat = 57 := rfl
    have hlt : d.toNat - 48 < 10 := by omega
    have hchar : UInt8.ofNat (48 + (d.toNat - 48)) = d := by
      rw [show 48 + (d.toNat - 48) = d.toNat by omega, UInt8.ofNat_toNat]
    rw [digitsValue_append_digit]
    by_cases hnil : ds = []
    · subst hnil
      have hzero : digitsValue [] = 0 := rfl
      rw [hzero, Nat.mul_zero, Nat.zero_add, decimal_of_lt hlt, hchar]
      rfl
    · obtain ⟨c, cs, rfl⟩ := List.exists_cons_of_ne_nil hnil
      have hc : c ≠ 48 := by
        rintro rfl
        have hlong := hhead rfl
        simp at hlong
      have hdec : IsDecimal (c :: cs) := by
        refine ⟨fun x hx => hdigits x (List.mem_append_left _ hx), List.cons_ne_nil _ _, fun hzero => ?_⟩
        exact absurd (Option.some.inj hzero) hc
      have hpos : 0 < digitsValue (c :: cs) := by
        apply Nat.pos_of_ne_zero
        intro hzero
        have htext := ih hdec
        rw [hzero] at htext
        exact hc (List.cons.inj htext).1.symm
      rw [decimal_append hpos hlt, ih hdec, hchar]

/-! ### Reading a number from a stream -/

/-- `isspace` of the C locale. -/
def isSpace (c : UInt8) : Bool := c = 32 || (9 ≤ c && c ≤ 13)

/-- The next number in a stream, after blanks: whether it has a minus sign, its digits, the rest. -/
def numberParts (s : List UInt8) : Bool × List UInt8 × List UInt8 :=
  let t := s.dropWhile isSpace
  let u := if t.head? = some 43 ∨ t.head? = some 45 then t.drop 1 else t
  (t.head? = some 45, u.takeWhile isDecDigit, u.dropWhile isDecDigit)

/-- `operator>>` for a signed type with values from `lo` to `hi`. -/
def readSigned (lo hi : Int) (s : List UInt8) : Option (Int × List UInt8) :=
  let parts := numberParts s
  let v : Int := if parts.1 then -digitsValue parts.2.1 else digitsValue parts.2.1
  if parts.2.1 = [] then none
  else if lo ≤ v ∧ v ≤ hi then some (v, parts.2.2)
  else none

/-- `operator>>` for an unsigned type of `w` bits; a minus sign negates modulo `2 ^ w`. -/
def readUnsigned (w : Nat) (s : List UInt8) : Option (Nat × List UInt8) :=
  let parts := numberParts s
  let v := digitsValue parts.2.1
  if parts.2.1 = [] then none
  else if v < 2 ^ w then some (if parts.1 then (2 ^ w - v) % 2 ^ w else v, parts.2.2)
  else none

/-- `operator>>` for a `char`. -/
def readChar (s : List UInt8) : Option (UInt8 × List UInt8) :=
  match s.dropWhile isSpace with
  | [] => none
  | c :: cs => some (c, cs)

theorem isSpace_eq_false_of_isDecDigit {c : UInt8} (h : isDecDigit c = true) : isSpace c = false := by
  simp only [isDecDigit, Bool.and_eq_true, decide_eq_true_eq, UInt8.le_iff_toNat_le] at h
  simp only [isSpace, Bool.or_eq_false_iff, Bool.and_eq_false_iff, decide_eq_false_iff_not, UInt8.le_iff_toNat_le]
  have h48 : (48 : UInt8).toNat = 48 := rfl
  have h13 : (13 : UInt8).toNat = 13 := rfl
  refine ⟨?_, .inr (by omega)⟩
  rintro rfl
  exact absurd h.1 (by decide)

theorem numberParts_digits {ds rest : List UInt8} (hds : ∀ c ∈ ds, isDecDigit c = true) (hne : ds ≠ [])
    (hrest : ∀ c, rest.head? = some c → isDecDigit c = false) : numberParts (ds ++ rest) = (false, ds, rest) := by
  obtain ⟨d, ds, rfl⟩ := List.exists_cons_of_ne_nil hne
  have hd := hds d (by simp)
  have hdrop : ((d :: ds) ++ rest).dropWhile isSpace = (d :: ds) ++ rest := by
    rw [List.cons_append, List.dropWhile_cons_of_neg (by simp [isSpace_eq_false_of_isDecDigit hd])]
  have hsign : d ≠ 43 ∧ d ≠ 45 := by
    constructor <;> rintro rfl <;> exact absurd hd (by decide)
  have htake : rest.takeWhile isDecDigit = [] ∧ rest.dropWhile isDecDigit = rest := by
    cases rest with
    | nil => exact ⟨rfl, rfl⟩
    | cons c cs =>
      have hc := hrest c rfl
      exact ⟨List.takeWhile_cons_of_neg (by simp [hc]), List.dropWhile_cons_of_neg (by simp [hc])⟩
  have hhead : ((d :: ds) ++ rest).head? = some d := rfl
  simp only [numberParts, hdrop, hhead, Option.some.injEq, hsign.1, hsign.2, or_self, if_false, decide_false]
  rw [List.takeWhile_append_of_pos hds, List.dropWhile_append_of_pos hds, htake.1, htake.2, List.append_nil]

theorem readSigned_digits {lo hi : Int} {ds rest : List UInt8} (hds : ∀ c ∈ ds, isDecDigit c = true) (hne : ds ≠ [])
    (hrest : ∀ c, rest.head? = some c → isDecDigit c = false) :
    readSigned lo hi (ds ++ rest) =
      if lo ≤ digitsValue ds ∧ (digitsValue ds : Int) ≤ hi then some ((digitsValue ds : Int), rest) else none := by
  simp only [readSigned, numberParts_digits hds hne hrest, if_neg hne]
  rfl

theorem readUnsigned_digits {w : Nat} {ds rest : List UInt8} (hds : ∀ c ∈ ds, isDecDigit c = true) (hne : ds ≠ [])
    (hrest : ∀ c, rest.head? = some c → isDecDigit c = false) :
    readUnsigned w (ds ++ rest) = if digitsValue ds < 2 ^ w then some (digitsValue ds, rest) else none := by
  simp only [readUnsigned, numberParts_digits hds hne hrest, if_neg hne]
  rfl

/-- The two ways to read a number agree on where it ends, and on its value unless it is negative. -/
theorem readUnsigned_of_readSigned {w : Nat} {lo hi z : Int} {n : Nat} {s rest rest' : List UInt8}
    (hz : readSigned lo hi s = some (z, rest)) (hn : readUnsigned w s = some (n, rest')) :
    rest' = rest ∧ (0 ≤ z → z = n) := by
  simp only [readSigned, readUnsigned] at hz hn
  by_cases hnil : (numberParts s).2.1 = []
  · rw [if_pos hnil] at hz
    cases hz
  · rw [if_neg hnil] at hz hn
    split_ifs at hz hn with hsign hneg
    all_goals cases hz
    all_goals cases hn
    · refine ⟨rfl, fun hpos => ?_⟩
      have hzero : digitsValue (numberParts s).2.1 = 0 := by omega
      rw [hzero, Nat.sub_zero, Nat.mod_self]
      rfl
    · exact ⟨rfl, fun _ => rfl⟩

theorem readSigned_dropWhile {blank : UInt8 → Bool} (hblank : ∀ c, blank c = true → isSpace c = true) (lo hi : Int)
    (s : List UInt8) : readSigned lo hi (s.dropWhile blank) = readSigned lo hi s := by
  have hdrop : (s.dropWhile blank).dropWhile isSpace = s.dropWhile isSpace := by
    induction s with
    | nil => rfl
    | cons c cs ih =>
      by_cases hc : blank c = true
      · rw [List.dropWhile_cons_of_pos hc, List.dropWhile_cons_of_pos (hblank c hc), ih]
      · rw [List.dropWhile_cons_of_neg hc]
  have hparts : numberParts (s.dropWhile blank) = numberParts s := by
    unfold numberParts
    rw [hdrop]
  unfold readSigned
  rw [hparts]

end DalHost

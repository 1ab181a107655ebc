import DalHost.Plugin.UninstallPack

/-!
# Applet ids on the wire

An applet id arrives in a field of 33 bytes. `JhiUtilUUID_Validate` looks for the terminator at offset 32, takes the `strlen`
and then asks the character predicates of the C library, which it gives a plain (signed) `char`. `validateUuidString`
checks ranges. They accept the same ids, and what the first one writes is a normal form: it is accepted again and does not change,
and it is the same for two ids exactly if they denote the same UUID.
-/

namespace DalHost

/-! ### The validator on a field -/

/-- A byte read as a `char`. -/
def signedChar (c : UInt8) : Int := if c < 128 then c.toNat else (c.toNat : Int) - 256

/-- `isdigit` of the C library; no negative value is a digit. -/
def isdigit (c : Int) : Bool := 48 ≤ c && c ≤ 57

/-- `isalpha` in the C locale; no negative value is a letter. -/
def isalpha (c : Int) : Bool := (97 ≤ c && c ≤ 122) || (65 ≤ c && c ≤ 90)

/-- The loop of `JhiUtilUUID_Validate`. -/
def validateChars : Bytes → Option Bytes
  | [] => some []
  | c :: cs =>
    if isdigit (signedChar c) || (isalpha (signedChar c) && (65 ≤ toUpper c && toUpper c ≤ 70)) then
      (validateChars cs).map (toUpper c :: ·)
    else none

/-- `JhiUtilUUID_Validate` on a field of at least 33 bytes: what it writes, if it succeeds. -/
def jhiUtilUUIDValidateField (field : Bytes) : Option Bytes :=
  if field[lenAppId]? ≠ some 0 then none
  else if (cString field).length ≠ lenAppId then none
  else (validateChars (field.take lenAppId)).map (· ++ [0])

/-! ### What it accepts -/

/-- A negative `char` is neither a digit nor a letter, and neither is a byte above 127. -/
theorem validate_signedChar (c : UInt8) :
    (isdigit (signedChar c) || (isalpha (signedChar c) && (65 ≤ toUpper c && toUpper c ≤ 70))) = isHexDigit c :=
  forall_byte (p := fun c => (isdigit (signedChar c) || (isalpha (signedChar c) && (65 ≤ toUpper c && toUpper c ≤ 70))) =
    isHexDigit c) (by decide +kernel) c

theorem validateChars_eq (s : Bytes) : validateChars s = if s.all isHexDigit then some (toUpperCase s) else none := by
  induction s with
  | nil => rfl
  | cons c cs ih =>
    rw [validateChars, validate_signedChar, ih, List.all_cons]
    cases isHexDigit c with
    | false => rfl
    | true =>
      rw [if_pos rfl, Bool.true_and]
      cases cs.all isHexDigit <;> rfl

theorem isHexDigit_ne_zero {c : UInt8} (h : isHexDigit c = true) : c ≠ 0 := by
  rintro rfl
  exact absurd h (by decide)

theorem cString_eq_take {s : Bytes} (hend : s[lenAppId]? = some 0) (hhex : (s.take lenAppId).all isHexDigit = true) :
    cString s = s.take lenAppId := by
  obtain ⟨hlt, hzero⟩ := List.getElem?_eq_some_iff.1 hend
  have hsplit : s = s.take lenAppId ++ 0 :: s.drop (lenAppId + 1) := by
    conv_lhs => rw [← List.take_append_drop lenAppId s, List.drop_eq_getElem_cons hlt, hzero]
  have hne : ∀ c ∈ s.take lenAppId, decide (c ≠ 0) = true := by
    intro c hc
    exact decide_eq_true (isHexDigit_ne_zero (List.all_eq_true.1 hhex c hc))
  have hwhile : cString (s.take lenAppId ++ 0 :: s.drop (lenAppId + 1)) = s.take lenAppId := by
    unfold cString
    rw [List.takeWhile_append_of_pos hne, List.takeWhile_cons_of_neg (by decide), List.append_nil]
  rw [← hsplit] at hwhile
  exact hwhile

theorem jhiUtilUUIDValidateField_eq (s : Bytes) :
    jhiUtilUUIDValidateField s =
      if s[lenAppId]? = some 0 ∧ (s.take lenAppId).all isHexDigit = true then some (toUpperCase (s.take lenAppId) ++ [0])
      else none := by
  unfold jhiUtilUUIDValidateField
  rw [validateChars_eq]
  by_cases hend : s[lenAppId]? = some 0
  swap
  · rw [if_pos hend, if_neg fun h => hend h.1]
  rw [if_neg (not_not_intro hend)]
  by_cases hhex : (s.take lenAppId).all isHexDigit = true
  · have hlen : (cString s).length = lenAppId := by
      obtain ⟨hlt, -⟩ := List.getElem?_eq_some_iff.1 hend
      rw [cString_eq_take hend hhex, List.length_take]
      omega
    rw [if_neg (not_not_intro hlen), if_pos hhex, if_pos ⟨hend, hhex⟩, Option.map_some]
  · have hneg : ¬(s[lenAppId]? = some 0 ∧ (s.take lenAppId).all isHexDigit = true) := fun h => hhex h.2
    rw [if_neg hhex, if_neg hneg, Option.map_none, ite_self]

/-- The model of the commands validates the text before the terminator. -/
theorem jhiUtilUUIDValidateField_eq_validate (s : Bytes) :
    jhiUtilUUIDValidateField s =
      if s[lenAppId]? = some 0 then (jhiUtilUUIDValidate (cString s)).map fun a => a.text ++ [0] else none := by
  rw [jhiUtilUUIDValidateField_eq]
  by_cases hend : s[lenAppId]? = some 0
  swap
  · rw [if_neg hend, if_neg fun h => hend h.1]
  rw [if_pos hend]
  by_cases hhex : (s.take lenAppId).all isHexDigit = true
  · have hstring := cString_eq_take hend hhex
    have hlen : (s.take lenAppId).length = lenAppId := by
      obtain ⟨hlt, -⟩ := List.getElem?_eq_some_iff.1 hend
      rw [List.length_take]
      omega
    have hid : jhiUtilUUIDValidate (cString s) =
        some ⟨toUpperCase (s.take lenAppId), isAppId_toUpperCase hlen (List.all_eq_true.1 hhex)⟩ :=
      jhiUtilUUIDValidate_eq_some.2 ⟨by rw [hstring]; exact hlen, by rw [hstring]; exact List.all_eq_true.1 hhex,
        by rw [hstring]⟩
    rw [if_pos ⟨hend, hhex⟩, hid, Option.map_some]
  · have hnone : jhiUtilUUIDValidate (cString s) = none := by
      refine Option.eq_none_iff_forall_ne_some.2 fun a ha => hhex ?_
      obtain ⟨hlen, hall, -⟩ := jhiUtilUUIDValidate_eq_some.1 ha
      have hfirst : s.take lenAppId = cString s := by
        rw [← hlen]
        exact (List.prefix_iff_eq_take.1 (List.takeWhile_prefix _)).symm
      rw [hfirst]
      exact List.all_eq_true.2 hall
    rw [if_neg fun h => hhex h.2, hnone, Option.map_none]

/-! ### The other validator and the normal form -/

/-- The same character, or the same letter in the other case. -/
def SameLetter (c d : UInt8) : Prop :=
  c = d ∨ (isLower c = true ∧ d = c - 32) ∨ (isLower d = true ∧ c = d - 32)

instance (c d : UInt8) : Decidable (SameLetter c d) :=
  inferInstanceAs (Decidable (c = d ∨ (isLower c = true ∧ d = c - 32) ∨ (isLower d = true ∧ c = d - 32)))

/-- Two texts that differ only in letter case. -/
def SameUpToCase (s t : Bytes) : Prop := List.Forall₂ SameLetter s t

theorem toUpper_sub {c : UInt8} (h : isLower c = true) : toUpper (c - 32) = toUpper c :=
  forall_byte (p := fun c => isLower c = true → toUpper (c - 32) = toUpper c) (by decide +kernel) c h

theorem SameLetter.toUpper_eq {c d : UInt8} (h : SameLetter c d) : toUpper c = toUpper d := by
  rcases h with rfl | ⟨hlower, rfl⟩ | ⟨hlower, rfl⟩
  · rfl
  · exact (toUpper_sub hlower).symm
  · exact toUpper_sub hlower

theorem SameUpToCase.toUpperCase_eq {s t : Bytes} (h : SameUpToCase s t) : toUpperCase s = toUpperCase t := by
  induction h with
  | nil => rfl
  | cons hletter _ ih => exact congrArg₂ List.cons hletter.toUpper_eq ih

theorem isHexDigit_toUpper_eq (c : UInt8) : isHexDigit (toUpper c) = isHexDigit c :=
  forall_byte (p := fun c => isHexDigit (toUpper c) = isHexDigit c) (by decide +kernel) c

theorem all_isHexDigit_toUpperCase (s : Bytes) : (toUpperCase s).all isHexDigit = s.all isHexDigit := by
  unfold toUpperCase
  rw [List.all_map]
  exact congrArg s.all (funext isHexDigit_toUpper_eq)

theorem toUpper_idem (c : UInt8) : toUpper (toUpper c) = toUpper c :=
  forall_byte (p := fun c => toUpper (toUpper c) = toUpper c) (by decide +kernel) c

theorem toUpperCase_idem (s : Bytes) : toUpperCase (toUpperCase s) = toUpperCase s := by
  unfold toUpperCase
  rw [List.map_map]
  exact congrArg (s.map ·) (funext toUpper_idem)

theorem hexBytes_toUpperCase {s : Bytes} (h : s.all isHexDigit = true) : hexBytes (toUpperCase s) = hexBytes s := by
  fun_induction hexBytes s with
  | case1 => rfl
  | case2 => rfl
  | case3 hi lo rest ih =>
    simp only [List.all_cons, Bool.and_eq_true] at h
    obtain ⟨hhi, hlo, hrest⟩ := h
    show (16 * hexValue (toUpper hi) + hexValue (toUpper lo)) :: hexBytes (toUpperCase rest) = _
    rw [hexValue_toUpper hhi, hexValue_toUpper hlo, ih hrest]

theorem validateUuidString_take {s : Bytes} (hend : s[lenAppId]? = some 0) :
    validateUuidString (s.take lenAppId) = (s.take lenAppId).all isHexDigit := by
  obtain ⟨hlt, -⟩ := List.getElem?_eq_some_iff.1 hend
  have hlen : (s.take lenAppId).length = lenAppId := by
    rw [List.length_take]
    omega
  unfold validateUuidString validateUuidChar
  have hzero : (s.take lenAppId ++ [0])[lenAppId]? = some 0 := by
    rw [List.getElem?_append_right (Nat.le_of_eq hlen), hlen, Nat.sub_self]
    rfl
  rw [hzero, List.take_left' hlen]
  simp only [hlen, decide_true, Bool.true_and]

/-- What `JhiUtilUUID_Validate` does with one field. -/
structure ValidatorAgrees (s : Bytes) : Prop where
  /-- It succeeds exactly if the terminator is in place and the other validator accepts the text before it. -/
  accepts : (jhiUtilUUIDValidateField s).isSome ↔
    s[lenAppId]? = some 0 ∧ validateUuidString (s.take lenAppId) = true
  /-- It writes the text in upper case, with a terminator. -/
  writes : ∀ out, jhiUtilUUIDValidateField s = some out → out = toUpperCase (s.take lenAppId) ++ [0]
  /-- What it writes validates to itself. -/
  again : ∀ out, jhiUtilUUIDValidateField s = some out → jhiUtilUUIDValidateField out = some out

theorem validateField_eq_some {s out : Bytes} (h : jhiUtilUUIDValidateField s = some out) :
    s[lenAppId]? = some 0 ∧ (s.take lenAppId).all isHexDigit = true ∧ out = toUpperCase (s.take lenAppId) ++ [0] := by
  rw [jhiUtilUUIDValidateField_eq] at h
  by_cases hs : s[lenAppId]? = some 0 ∧ (s.take lenAppId).all isHexDigit = true
  · rw [if_pos hs] at h
    exact ⟨hs.1, hs.2, (Option.some.inj h).symm⟩
  · rw [if_neg hs] at h
    cases h

theorem validatorAgrees (s : Bytes) : ValidatorAgrees s where
  accepts := by
    rw [jhiUtilUUIDValidateField_eq]
    by_cases hend : s[lenAppId]? = some 0
    · rw [validateUuidString_take hend]
      by_cases hhex : (s.take lenAppId).all isHexDigit = true
      · rw [if_pos ⟨hend, hhex⟩]
        exact iff_of_true rfl ⟨hend, hhex⟩
      · rw [if_neg fun h => hhex h.2]
        exact iff_of_false Bool.false_ne_true fun h => hhex h.2
    · rw [if_neg fun h => hend h.1]
      exact iff_of_false Bool.false_ne_true fun h => hend h.1
  writes out h := (validateField_eq_some h).2.2
  again out h := by
    obtain ⟨hend, hhex, rfl⟩ := validateField_eq_some h
    obtain ⟨hlt, -⟩ := List.getElem?_eq_some_iff.1 hend
    have hlen : (toUpperCase (s.take lenAppId)).length = lenAppId := by
      unfold toUpperCase
      rw [List.length_map, List.length_take]
      omega
    have hzero : (toUpperCase (s.take lenAppId) ++ [0])[lenAppId]? = some 0 := by
      rw [List.getElem?_append_right (Nat.le_of_eq hlen), hlen, Nat.sub_self]
      rfl
    rw [jhiUtilUUIDValidateField_eq, List.take_left' hlen, all_isHexDigit_toUpperCase, if_pos ⟨hzero, hhex⟩, toUpperCase_idem]

theorem SameUpToCase.validateField_eq {s t : Bytes} (hsame : SameUpToCase (s.take (lenAppId + 1)) (t.take (lenAppId + 1))) :
    jhiUtilUUIDValidateField s = jhiUtilUUIDValidateField t := by
  have hupper := hsame.toUpperCase_eq
  have hfirst : toUpperCase (s.take lenAppId) = toUpperCase (t.take lenAppId) := by
    have htake := congrArg (List.take lenAppId) hupper
    unfold toUpperCase at htake ⊢
    rw [← List.map_take, ← List.map_take, List.take_take, List.take_take, Nat.min_eq_left (Nat.le_succ _)] at htake
    exact htake
  have hlast : (s[lenAppId]?).map toUpper = (t[lenAppId]?).map toUpper := by
    have hget := congrArg (fun l : Bytes => l[lenAppId]?) hupper
    unfold toUpperCase at hget
    rw [List.getElem?_map, List.getElem?_map, List.getElem?_take_of_lt (Nat.lt_succ_self _),
      List.getElem?_take_of_lt (Nat.lt_succ_self _)] at hget
    exact hget
  have hzero : ∀ c : UInt8, toUpper c = 0 ↔ c = 0 := forall_byte (by decide +kernel)
  have hend : s[lenAppId]? = some 0 ↔ t[lenAppId]? = some 0 := by
    have hiff : ∀ x : Option UInt8, x = some 0 ↔ x.map toUpper = some 0 := by
      intro x
      cases x with
      | none => exact iff_of_false (nomatch ·) (nomatch ·)
      | some c =>
        rw [Option.map_some, Option.some.injEq, Option.some.injEq]
        exact (hzero c).symm
    rw [hiff, hlast, ← hiff]
  rw [jhiUtilUUIDValidateField_eq, jhiUtilUUIDValidateField_eq, ← all_isHexDigit_toUpperCase, hfirst,
    all_isHexDigit_toUpperCase]
  simp only [hend]

/-- The validators agree on every field; ids that differ only in letter case have one normal form, and ids that denote
different UUIDs have different ones. -/
theorem validators_agree (s t : Bytes) :
    ValidatorAgrees s ∧
      (SameUpToCase (s.take (lenAppId + 1)) (t.take (lenAppId + 1)) →
        jhiUtilUUIDValidateField s = jhiUtilUUIDValidateField t) ∧
      ∀ out out', jhiUtilUUIDValidateField s = some out → jhiUtilUUIDValidateField t = some out' →
        hexBytes (s.take lenAppId) ≠ hexBytes (t.take lenAppId) → out ≠ out' := by
  refine ⟨validatorAgrees s, SameUpToCase.validateField_eq, fun out out' hs ht hne heq => ?_⟩
  obtain ⟨-, hhex, rfl⟩ := validateField_eq_some hs
  obtain ⟨-, hhex', rfl⟩ := validateField_eq_some ht
  have hupper := List.append_cancel_right heq
  refine hne ?_
  rw [← hexBytes_toUpperCase hhex, ← hexBytes_toUpperCase hhex', hupper]

end DalHost

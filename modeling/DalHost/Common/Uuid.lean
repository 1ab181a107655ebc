import DalHost.Common.Codes
import Mathlib.Data.List.Lex
import Mathlib.Tactic.Tauto

/-!
# Applet and session identifiers

An applet id travels as the text of a UUID: 32 hexadecimal digits and a terminator. Every entry
point of the service passes it through `JhiUtilUUID_Validate`, which also turns it to upper case;
`AppId` is the type of what comes out. `jhiUtilUUIDValidate_eq_some` says that nothing else does.
-/

namespace DalHost

/-- Bytes in their unsigned order, as `memcmp` and `std::string` compare them. -/
instance byteLinearOrder : LinearOrder UInt8 where
  le_refl := UInt8.le_refl
  le_trans _ _ _ := UInt8.le_trans
  le_antisymm _ _ := UInt8.le_antisymm
  le_total := UInt8.le_total
  lt_iff_le_not_ge _ _ := by simp only [UInt8.lt_iff_toNat_lt, UInt8.le_iff_toNat_le]; omega
  toDecidableLE := inferInstance
  toDecidableEq := inferInstance
  toDecidableLT := inferInstance

/-! ### Characters (the C locale) -/

def isDigit (c : UInt8) : Bool := 48 ≤ c && c ≤ 57

def isLower (c : UInt8) : Bool := 97 ≤ c && c ≤ 122

def isUpper (c : UInt8) : Bool := 65 ≤ c && c ≤ 90

def isAlpha (c : UInt8) : Bool := isLower c || isUpper c

def toUpper (c : UInt8) : UInt8 := if isLower c then c - 32 else c

/-- `strToUppercase`, `SessionsManager::toUpperCase`. -/
def toUpperCase (s : Bytes) : Bytes := s.map toUpper

def isUpperHexDigit (c : UInt8) : Bool := isDigit c || (65 ≤ c && c ≤ 70)

/-- What both validators accept as one character of an id. -/
def isHexDigit (c : UInt8) : Bool := isDigit c || (97 ≤ c && c ≤ 102) || (65 ≤ c && c ≤ 70)

theorem forall_byte {p : UInt8 → Prop} (h : ∀ n : Fin 256, p (UInt8.ofFin n)) (c : UInt8) : p c :=
  h c.toFin

theorem toUpper_of_isUpperHexDigit : ∀ {c : UInt8}, isUpperHexDigit c = true → toUpper c = c :=
  fun {c} => forall_byte (p := fun c => isUpperHexDigit c = true → toUpper c = c) (by decide +kernel) c

theorem isUpperHexDigit_toUpper :
    ∀ {c : UInt8}, isHexDigit c = true → isUpperHexDigit (toUpper c) = true :=
  fun {c} => forall_byte (p := fun c => isHexDigit c = true → isUpperHexDigit (toUpper c) = true)
    (by decide +kernel) c

theorem validate_char (c : UInt8) :
    (isDigit c || (isAlpha c && (65 ≤ toUpper c && toUpper c ≤ 70))) = isHexDigit c :=
  forall_byte (p := fun c => (isDigit c || (isAlpha c && (65 ≤ toUpper c && toUpper c ≤ 70))) = isHexDigit c)
    (by decide +kernel) c

theorem toUpperCase_eq_self {s : Bytes} (h : ∀ c ∈ s, isUpperHexDigit c = true) : toUpperCase s = s := by
  unfold toUpperCase
  refine (List.map_congr_left fun c hc => toUpper_of_isUpperHexDigit (h c hc)).trans ?_
  simp

/-! ### Applet ids -/

/-- The text of a UUID as the service stores it: 32 upper-case hexadecimal digits. -/
def IsAppId (s : Bytes) : Prop := s.length = lenAppId ∧ ∀ c ∈ s, isUpperHexDigit c = true

instance (s : Bytes) : Decidable (IsAppId s) :=
  decidable_of_iff (s.length = lenAppId ∧ s.all isUpperHexDigit = true) (by simp [IsAppId])

/-- 32 hexadecimal digits, in either case. -/
def IsHexId (u : Bytes) : Prop := u.length = lenAppId ∧ ∀ c ∈ u, isHexDigit c = true

theorem IsAppId.isHexId {u : Bytes} (h : IsAppId u) : IsHexId u := by
  refine ⟨h.1, fun c hc => ?_⟩
  have hupper := h.2 c hc
  simp only [isUpperHexDigit, isHexDigit, Bool.or_eq_true] at hupper ⊢
  tauto

/-- A validated applet id. -/
structure AppId where
  text : Bytes
  valid : IsAppId text
  deriving DecidableEq

theorem AppId.toUpperCase_text (a : AppId) : toUpperCase a.text = a.text := toUpperCase_eq_self a.valid.2

theorem isAppId_toUpperCase {s : Bytes} (hlen : s.length = lenAppId) (h : ∀ c ∈ s, isHexDigit c = true) :
    IsAppId (toUpperCase s) := by
  refine ⟨by simpa [toUpperCase] using hlen, fun c hc => ?_⟩
  obtain ⟨d, hd, rfl⟩ := List.mem_map.1 hc
  exact isUpperHexDigit_toUpper (h d hd)

/-- `JhiUtilUUID_Validate` on the text before the terminator of its argument (the caller has found
the terminator at offset 32 and taken the `strlen`). -/
def jhiUtilUUIDValidate (s : Bytes) : Option AppId :=
  if h : s.length = lenAppId ∧
      s.all (fun c => isDigit c || (isAlpha c && (65 ≤ toUpper c && toUpper c ≤ 70))) = true then
    some ⟨toUpperCase s, isAppId_toUpperCase h.1 fun c hc => (validate_char c) ▸ List.all_eq_true.1 h.2 c hc⟩
  else none

theorem jhiUtilUUIDValidate_eq_some {s : Bytes} {a : AppId} :
    jhiUtilUUIDValidate s = some a ↔
      s.length = lenAppId ∧ (∀ c ∈ s, isHexDigit c = true) ∧ a.text = toUpperCase s := by
  unfold jhiUtilUUIDValidate
  simp only [validate_char, List.all_eq_true]
  split_ifs with h
  · constructor
    · rintro ⟨⟩
      exact ⟨h.1, h.2, rfl⟩
    · rintro ⟨-, -, ha⟩
      obtain ⟨text, valid⟩ := a
      simp only at ha
      subst ha
      rfl
  · simp only [false_iff]
    rintro ⟨hlen, hhex, -⟩
    exact h ⟨hlen, hhex⟩

theorem jhiUtilUUIDValidate_text (a : AppId) : jhiUtilUUIDValidate a.text = some a := by
  exact jhiUtilUUIDValidate_eq_some.2 ⟨a.valid.1, a.valid.isHexId.2, a.toUpperCase_text.symm⟩

/-- `validateUuidChar` on the 33 bytes of one entry of an id list. -/
def validateUuidChar (entry : Bytes) : Bool :=
  entry[lenAppId]? = some 0 && (entry.take lenAppId).all isHexDigit

/-- `validateUuidString`. -/
def validateUuidString (str : Bytes) : Bool := str.length = lenAppId && validateUuidChar (str ++ [0])

/-- The id of 32 equal digits. -/
def AppId.replicate (c : UInt8) (h : isUpperHexDigit c = true) : AppId where
  text := List.replicate lenAppId c
  valid := ⟨List.length_replicate, fun _ hd => List.eq_of_mem_replicate hd ▸ h⟩

/-- An applet for examples. -/
def exampleApplet : AppId := .replicate 48 rfl

/-- `SPOOLER_APPLET_UUID`. -/
def spoolerAppletUuid : AppId where
  text := ascii
    ['B', 'A', '8', 'D', '1', '6', '4', '3', '5', '0', 'B', '6', '4', '9', 'C', 'C',
      '8', '6', '1', 'D', '2', 'C', '0', '1', 'B', 'E', 'D', '1', '4', 'B', 'E', '8']
  valid := by decide +kernel

/-! ### Session ids -/

/-- `JHI_SESSION_ID`: 16 bytes, ordered by `memcmp`. -/
structure SessionId where
  bytes : Bytes
  length_eq : bytes.length = 16
  deriving DecidableEq

namespace SessionId

theorem bytes_injective : Function.Injective SessionId.bytes := by
  rintro ⟨a, ha⟩ ⟨b, hb⟩ rfl
  rfl

/-- `lt_sessionId`. -/
instance : LinearOrder SessionId := LinearOrder.lift' SessionId.bytes bytes_injective

end SessionId

/-! ### Processes -/

/-- `JHI_PROCESS_INFO`: the identity of a client process. -/
structure ProcessInfo where
  pid : UInt32
  /-- `creationTime.dwLowDateTime`. -/
  creationTimeLow : UInt32
  /-- `creationTime.dwHighDateTime`. -/
  creationTimeHigh : UInt32
  deriving DecidableEq

end DalHost

import DalHost.Plugin.Beihai
import DalHost.Service.CreateSession
import DalHost.Lib.Streams

/-!
# Applet properties

`JHI_Plugin_GetAppletProperty` of both plugins, with the end of the library call before it
(`BH_PluginQueryAPI`, `BHP_QueryTAProperty`), and the part of `jhis_get_applet_property` that works on
buffers. The length of the value changes its meaning on the way: the dispatcher has bytes with a
terminator, the plugin characters without it, as an `int`. The model keeps what is written into the two receive
buffers of the service, that of the query and that of the dispatcher.
-/

namespace DalHost

/-! ### The version of an applet -/

/-- What `>>` leaves in an `unsigned int`: on a blank text nothing is stored, without digits a zero, and
out of range the largest value. -/
def extractUnsigned (old : UInt32) (s : Bytes) : UInt32 :=
  let parts := numberParts s
  if s.dropWhile isSpace = [] then old
  else if parts.2.1 = [] then 0
  else if digitsValue parts.2.1 < 2 ^ 32 then
    if parts.1 then 0 - UInt32.ofNat (digitsValue parts.2.1) else UInt32.ofNat (digitsValue parts.2.1)
  else 0xFFFFFFFF

/-- The texts before and after the last `.`. -/
def splitLastDot (s : Bytes) : Option (Bytes × Bytes) :=
  if 46 ∈ s then
    let minor := (s.reverse.takeWhile (· ≠ 46)).reverse
    some (s.take (s.length - minor.length - 1), minor)
  else none

/-- The two uninitialised variables of `convertAppProperty_Version`. -/
structure VersionStack where
  majorUINT : UInt32
  minorUINT : UInt32

/-- `convertAppProperty_Version`: the version as one number, or `none` when the text is left alone. -/
def convertAppPropertyVersion (stack : VersionStack) (output : Bytes) : Option Bytes :=
  match splitLastDot output with
  | none => none
  | some (majorSTR, minorSTR) =>
    let majorUINT := extractUnsigned stack.majorUINT majorSTR
    let minorUINT := extractUnsigned stack.minorUINT minorSTR
    if majorUINT > 255 ∨ minorUINT > 255 then none
    else some (decimal (majorUINT ||| (minorUINT <<< 8)).toNat)

def appletVersionProperty : Bytes :=
  ascii ['a', 'p', 'p', 'l', 'e', 't', '.', 'v', 'e', 'r', 's', 'i', 'o', 'n']

/-- The text the plugin makes of the value `v` of a property. -/
def shownValue (stack : VersionStack) (property v : Bytes) : Bytes :=
  if property = appletVersionProperty then (convertAppPropertyVersion stack v).getD v else v

/-- Decimal digits, and at least one. -/
def IsDigits (ds : Bytes) : Prop := ds ≠ [] ∧ ∀ c ∈ ds, isDecDigit c = true

/-- What is to be seen of the value of a property: the value, except that a version `major.minor` is one
number when each part fits a byte. Nothing is said of a version with a `.` in another text. -/
inductive Shows : Bytes → Bytes → Bytes → Prop
  | plain {property v : Bytes} (hproperty : property ≠ appletVersionProperty) : Shows property v v
  | undotted {v : Bytes} (hdot : 46 ∉ v) : Shows appletVersionProperty v v
  | number {major minor : Bytes} (hmajor : IsDigits major) (hminor : IsDigits minor) (hmajorByte : digitsValue major ≤ 255)
      (hminorByte : digitsValue minor ≤ 255) :
      Shows appletVersionProperty (major ++ 46 :: minor) (decimal (digitsValue major ||| digitsValue minor <<< 8))
  | large {major minor : Bytes} (hmajor : IsDigits major) (hminor : IsDigits minor)
      (hlarge : 255 < digitsValue major ∨ 255 < digitsValue minor) :
      Shows appletVersionProperty (major ++ 46 :: minor) (major ++ 46 :: minor)

/-! ### The plugins -/

/-- `BPE_OUT_OF_MEMORY` of the two libraries. -/
def PluginVersion.outOfMemory : PluginVersion → BhRet
  | .v1 => 0xF0001004
  | .v2 => 0x005

/-- What the library makes of the firmware's response: a string in memory of its own, or `NULL`. -/
def PluginVersion.queryOutput (plugin : PluginVersion) (code : BhRet) (buffer : Bytes) : BhRet × Option Bytes :=
  if code ≠ bhSuccess then (code, none)
  else if buffer.length = 0 then (bhSuccess, none)
  -- the length is an `int`, and one more byte is allocated
  else if buffer.length + 1 < 2 ^ 31 then (bhSuccess, some (cString buffer))
  else (plugin.outOfMemory, none)

/-- The end of a call of the plugin: the code, `RxBuf->length`, and what was written from the start of the
receive buffer on. -/
structure PluginProperty where
  retCode : JhiRet
  length : UInt32
  written : Option Bytes

/-- `strcpy_s` of `string_s.h`: `strncpy` of as many bytes as there are said to be. -/
def strcpyS (n : Nat) (src : Bytes) : Option Bytes := if n = 0 then none else some (strncpy n src)

/-- `JHI_Plugin_GetAppletProperty` after the library call; `length` is `RxBuf->length`. -/
def PluginVersion.getAppletProperty (plugin : PluginVersion) (stack : VersionStack) (inputBuffer : Bytes) (length : UInt32)
    (ret : BhRet) (output : Option Bytes) : PluginProperty :=
  match output with
  | none => ⟨plugin.toJhiError ret, 0, none⟩
  | some output =>
    if ret ≠ bhSuccess then ⟨plugin.toJhiError ret, 0, none⟩
    else
      let shown := shownValue stack (cString inputBuffer) output
      -- both sides are read as `int`
      if length.toBitVec.toInt < (UInt32.ofNat shown.length).toBitVec.toInt then
        ⟨jhiInsufficientBuffer, UInt32.ofNat shown.length, none⟩
      else ⟨plugin.toJhiError ret, UInt32.ofNat shown.length, strcpyS ((length.toBitVec.toInt + 1) % 0x10000000000000000).toNat shown⟩

/-- The length with which the plugin passes the property name on: with the terminator, or without. -/
def PluginVersion.inputLength : PluginVersion → UInt32 → UInt32
  | .v1, length => length
  | .v2, length => length - 1

/-! ### `jhis_get_applet_property` and its buffers -/

/-- The receive buffer of the query: zeroed, and then written to. -/
def requestBuffer (rxLen : UInt32) (p : PluginProperty) : Bytes :=
  let written := p.written.getD []
  written ++ (List.replicate rxLen.toNat 0).drop written.length

/-- What is written into the two receive buffers of the service, each time from the start on. -/
structure PropertyWrites where
  request : List Bytes
  reply : List Bytes

/-- The writes of a query with a receive buffer of `rxLen` bytes; there is no buffer of the dispatcher for
a length of zero. -/
def propertyWrites (rxLen : UInt32) (p : PluginProperty) : PropertyWrites where
  request := List.replicate rxLen.toNat 0 :: p.written.toList
  reply :=
    if p.retCode = jhiSuccess ∧ rxLen ≠ 0 then (strcpyS rxLen.toNat (cString (requestBuffer rxLen p))).toList else []

/-- What `JHI_Plugin_GetAppletProperty` leaves in its out parameters, as the service sees it. -/
def propertyAnswer (rxLen : UInt32) (p : PluginProperty) : PropertyAnswer :=
  ⟨p.retCode, p.length, requestBuffer rxLen p⟩

section World

variable {φ : Type}

/-- The firmware: the applet, the property name as it is sent, and the code and the buffer of the response. -/
abbrev PropertyFirmware (φ : Type) := Bytes → Bytes → StateM φ (BhRet × Bytes)

/-- The property name as the plugin sends it. -/
def PluginVersion.sentProperty (plugin : PluginVersion) (tx : Bytes) : Bytes :=
  tx.take (plugin.inputLength (UInt32.ofNat tx.length)).toNat

/-- The call of the plugin with a transmit buffer `tx` and `RxBuf->length = length`. -/
def PluginVersion.queryProperty (plugin : PluginVersion) (stack : VersionStack) (F : PropertyFirmware φ)
    (appId tx : Bytes) (length : UInt32) : StateM φ PluginProperty := do
  let r ← F appId (plugin.sentProperty tx)
  let o := plugin.queryOutput r.1 r.2
  return plugin.getAppletProperty stack tx length o.1 o.2

/-- The plugin of the world is one of the two, on this firmware. -/
def HasPropertyPlugin (W : World φ) (plugin : PluginVersion) (stack : VersionStack) (F : PropertyFirmware φ) : Prop :=
  ∀ appId tx length e, (W.pluginGetAppletProperty appId tx length).exe e =
    (propertyAnswer (length + 1) ((plugin.queryProperty stack F appId tx length).exe e).1,
      ((plugin.queryProperty stack F appId tx length).exe e).2)

end World

/-! ### What the plugin shows -/

theorem splitLastDot_of_not_mem {v : Bytes} (h : 46 ∉ v) : splitLastDot v = none := if_neg h

theorem splitLastDot_append {major minor : Bytes} (h : 46 ∉ minor) :
    splitLastDot (major ++ 46 :: minor) = some (major, minor) := by
  have hne : ∀ c ∈ minor.reverse, decide (c ≠ 46) = true := by
    intro c hc
    simpa using fun hdot : c = 46 => h (hdot ▸ List.mem_reverse.1 hc)
  have hrev : (major ++ 46 :: minor).reverse = minor.reverse ++ 46 :: major.reverse := by simp
  have hminor : ((major ++ 46 :: minor).reverse.takeWhile (· ≠ 46)).reverse = minor := by
    rw [hrev, List.takeWhile_append_of_pos hne, List.takeWhile_cons_of_neg (by simp), List.append_nil, List.reverse_reverse]
  have hmajor : (major ++ 46 :: minor).take ((major ++ 46 :: minor).length - minor.length - 1) = major := by
    have hlen : (major ++ 46 :: minor).length - minor.length - 1 = major.length := by
      rw [List.length_append, List.length_cons]
      omega
    rw [hlen, List.take_left]
  rw [splitLastDot, if_pos (by simp), hminor]
  dsimp only
  rw [hmajor]

theorem IsDigits.not_mem_dot {ds : Bytes} (h : IsDigits ds) : 46 ∉ ds :=
  fun hdot => absurd (h.2 46 hdot) (by decide)

theorem extractUnsigned_digits {ds : Bytes} (h : IsDigits ds) (old : UInt32) :
    (extractUnsigned old ds).toNat = min (digitsValue ds) 0xFFFFFFFF := by
  have hparts : numberParts ds = (false, ds, []) := by
    simpa using @numberParts_digits ds [] h.2 h.1 (by simp)
  have hblank : ds.dropWhile isSpace ≠ [] := by
    obtain ⟨d, rest, rfl⟩ := List.exists_cons_of_ne_nil h.1
    rw [List.dropWhile_cons_of_neg (by simp [isSpace_eq_false_of_isDecDigit (h.2 d (by simp))])]
    exact List.cons_ne_nil d rest
  simp only [extractUnsigned, hparts, if_neg hblank, if_neg h.1, Bool.false_eq_true, if_false]
  split_ifs with hlt
  · rw [UInt32.toNat_ofNat']
    omega
  · have hmax : (0xFFFFFFFF : UInt32).toNat = 0xFFFFFFFF := rfl
    omega

/-- The plugin shows what is to be seen, whatever stood in its two variables. -/
theorem Shows.shownValue_eq {property v w : Bytes} (h : Shows property v w) (stack : VersionStack) :
    shownValue stack property v = w := by
  cases h with
  | plain hproperty => exact if_neg hproperty
  | undotted hdot => rw [shownValue, if_pos rfl, convertAppPropertyVersion, splitLastDot_of_not_mem hdot, Option.getD_none]
  | number hmajor hminor hmajorByte hminorByte =>
    have hmaj := extractUnsigned_digits hmajor stack.majorUINT
    have hmin := extractUnsigned_digits hminor stack.minorUINT
    have h255 : (255 : UInt32).toNat = 255 := rfl
    have h8 : (8 : UInt32).toNat % 32 = 8 := rfl
    rw [shownValue, if_pos rfl, convertAppPropertyVersion, splitLastDot_append hminor.not_mem_dot]
    dsimp only
    rw [if_neg (by simp only [gt_iff_lt, UInt32.lt_iff_toNat_lt, hmaj, hmin]; omega), Option.getD_some, UInt32.toNat_or,
      UInt32.toNat_shiftLeft, hmaj, hmin, Nat.min_eq_left (by omega), Nat.min_eq_left (by omega), h8,
      Nat.mod_eq_of_lt (by rw [Nat.shiftLeft_eq]; omega)]
  | large hmajor hminor hlarge =>
    have hmaj := extractUnsigned_digits hmajor stack.majorUINT
    have hmin := extractUnsigned_digits hminor stack.minorUINT
    have h255 : (255 : UInt32).toNat = 255 := rfl
    rw [shownValue, if_pos rfl, convertAppPropertyVersion, splitLastDot_append hminor.not_mem_dot]
    dsimp only
    rw [if_pos (by simp only [gt_iff_lt, UInt32.lt_iff_toNat_lt, hmaj, hmin]; omega), Option.getD_none]

theorem length_decimal_le {n k : Nat} (hn : n < 10 ^ (k + 1)) : (decimal n).length ≤ k + 1 := by
  induction k generalizing n with
  | zero =>
    rw [decimal_of_lt (by simpa using hn)]
    exact Nat.le_refl 1
  | succ k ih =>
    by_cases hsmall : n < 10
    · rw [decimal_of_lt hsmall]
      exact Nat.succ_le_succ (Nat.zero_le _)
    · have hsplit : n = 10 * (n / 10) + n % 10 := by omega
      have hlt : n / 10 < 10 ^ (k + 1) := by
        rw [Nat.pow_succ] at hn
        omega
      rw [hsplit, decimal_append (by omega) (by omega), List.length_append, List.length_singleton]
      exact Nat.succ_le_succ (ih hlt)

theorem convertAppPropertyVersion_fits {stack : VersionStack} {output text : Bytes}
    (h : convertAppPropertyVersion stack output = some text) : text.length + 1 ≤ 6 ∧ (0 : UInt8) ∉ text := by
  unfold convertAppPropertyVersion at h
  split at h
  · cases h
  next majorSTR minorSTR _ =>
    dsimp only at h
    split_ifs at h with hbig
    rw [not_or] at hbig
    obtain ⟨hmajor, hminor⟩ := hbig
    rw [Option.some.injEq] at h
    subst h
    generalize extractUnsigned stack.majorUINT majorSTR = major at hmajor ⊢
    generalize extractUnsigned stack.minorUINT minorSTR = minor at hminor ⊢
    have hmajor' : major.toNat ≤ 255 := by simpa using UInt32.le_iff_toNat_le.1 (UInt32.not_lt.1 hmajor)
    have hminor' : minor.toNat ≤ 255 := by simpa using UInt32.le_iff_toNat_le.1 (UInt32.not_lt.1 hminor)
    have hlt : (major ||| (minor <<< 8)).toNat < 2 ^ 16 := by
      rw [UInt32.toNat_or]
      refine Nat.or_lt_two_pow (by omega) ?_
      rw [UInt32.toNat_shiftLeft]
      simp only [UInt32.reduceToNat, Nat.reduceMod, Nat.shiftLeft_eq]
      omega
    refine ⟨Nat.succ_le_succ (length_decimal_le (n := (major ||| (minor <<< 8)).toNat) (k := 4) (by omega)), fun h0 => ?_⟩
    exact absurd ((isDecimal_decimal _).1 0 h0) (by decide)

theorem shownValue_fits {stack : VersionStack} {property v : Bytes} (h0 : (0 : UInt8) ∉ v) (hlen : v.length + 1 < 2 ^ 31) :
    (0 : UInt8) ∉ shownValue stack property v ∧ (shownValue stack property v).length + 1 < 2 ^ 31 := by
  unfold shownValue
  split_ifs
  · cases hconv : convertAppPropertyVersion stack v with
    | none => exact ⟨h0, hlen⟩
    | some text =>
      obtain ⟨hfits, hnul⟩ := convertAppPropertyVersion_fits hconv
      refine ⟨hnul, ?_⟩
      simp only [Option.getD_some]
      omega
  · exact ⟨h0, hlen⟩

/-! ### The answer of the plugin -/

theorem toInt_ofNat {k : Nat} (h : k < 2 ^ 31) : (UInt32.ofNat k).toBitVec.toInt = k := by
  rw [UInt32.toBitVec_ofNat', BitVec.toInt_eq_toNat_bmod, BitVec.toNat_ofNat, Int.bmod_def]
  omega

theorem toInt_sub_one {n : UInt32} (h : n.toNat ≤ jhiBufferMax) : (n - 1).toBitVec.toInt = (n.toNat : Int) - 1 := by
  have hmax : jhiBufferMax = 2097152 := rfl
  have hnat : (n - 1).toBitVec.toNat = (2 ^ 32 - 1 + n.toNat) % 2 ^ 32 := by
    rw [UInt32.toNat_toBitVec, UInt32.toNat_sub]
    rfl
  rw [BitVec.toInt_eq_toNat_bmod, hnat, Int.bmod_def]
  omega

section Answer

variable {plugin : PluginVersion} {stack : VersionStack} {rxLen : UInt32}

theorem getAppletProperty_value {inputBuffer v : Bytes} (hrx : rxLen.toNat ≤ jhiBufferMax)
    (hlen : (shownValue stack (cString inputBuffer) v).length + 1 < 2 ^ 31) :
    plugin.getAppletProperty stack inputBuffer (rxLen - 1) bhSuccess (some v) =
      if (shownValue stack (cString inputBuffer) v).length < rxLen.toNat then
        ⟨jhiSuccess, UInt32.ofNat (shownValue stack (cString inputBuffer) v).length,
          some (strncpy rxLen.toNat (shownValue stack (cString inputBuffer) v))⟩
      else ⟨jhiInsufficientBuffer, UInt32.ofNat (shownValue stack (cString inputBuffer) v).length, none⟩ := by
  have hmax : jhiBufferMax = 2097152 := rfl
  have hok : plugin.toJhiError bhSuccess = jhiSuccess := PluginVersion.toJhiError_eq_success.2 rfl
  simp only [PluginVersion.getAppletProperty, ne_eq, not_true_eq_false, if_false, toInt_sub_one hrx,
    toInt_ofNat (show (shownValue stack (cString inputBuffer) v).length < 2 ^ 31 by omega), hok]
  by_cases hfits : (shownValue stack (cString inputBuffer) v).length < rxLen.toNat
  · have hsize : (((rxLen.toNat : Int) - 1 + 1) % 0x10000000000000000).toNat = rxLen.toNat := by omega
    rw [if_neg (by omega), if_pos hfits, hsize, strcpyS, if_neg (by omega)]
  · rw [if_pos (by omega), if_neg hfits]

/-- No write is longer than the buffers. -/
structure PropertyWrites.Fit (w : PropertyWrites) (rxLen : UInt32) : Prop where
  request : ∀ bs ∈ w.request, bs.length ≤ rxLen.toNat
  reply : ∀ bs ∈ w.reply, bs.length ≤ rxLen.toNat

theorem length_strcpyS {n : Nat} {src bs : Bytes} (h : strcpyS n src = some bs) : bs.length = n := by
  unfold strcpyS at h
  split_ifs at h
  rw [Option.some.injEq] at h
  subst h
  simp [strncpy]

theorem length_written_le {inputBuffer buffer : Bytes} {code : BhRet} (hrx : rxLen.toNat ≤ jhiBufferMax) {bs : Bytes}
    (h : (plugin.getAppletProperty stack inputBuffer (rxLen - 1) (plugin.queryOutput code buffer).1
      (plugin.queryOutput code buffer).2).written = some bs) : bs.length ≤ rxLen.toNat := by
  unfold PluginVersion.queryOutput at h
  split_ifs at h with hcode hempty hlen
  · cases h
  · cases h
  · have h0 : (0 : UInt8) ∉ cString buffer := fun hmem => by simpa using List.mem_takeWhile_imp hmem
    have hshort : (cString buffer).length + 1 < 2 ^ 31 := by
      have := (List.takeWhile_sublist (p := fun c => decide (c ≠ 0)) (l := buffer)).length_le
      unfold cString
      omega
    rw [getAppletProperty_value hrx (shownValue_fits h0 hshort).2] at h
    split_ifs at h
    rw [Option.some.injEq] at h
    subst h
    simp [strncpy]
  · cases h

/-- **The receive buffers of the service hold what is written into them**, for every capacity that the
dispatcher lets through. -/
theorem propertyWrites_fit {inputBuffer buffer : Bytes} {code : BhRet} (hrx : rxLen.toNat ≤ jhiBufferMax) :
    (propertyWrites rxLen (plugin.getAppletProperty stack inputBuffer (rxLen - 1) (plugin.queryOutput code buffer).1
      (plugin.queryOutput code buffer).2)).Fit rxLen := by
  constructor
  · intro bs hbs
    rcases List.mem_cons.1 hbs with rfl | hbs
    · simp
    · exact length_written_le hrx (Option.mem_toList.1 hbs)
  · intro bs hbs
    simp only [propertyWrites] at hbs
    split_ifs at hbs
    · exact (length_strcpyS (Option.mem_toList.1 hbs)).le
    · cases hbs

end Answer

end DalHost

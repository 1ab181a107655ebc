import DalHost.Common.Codes
import Mathlib.Data.List.TakeWhile
import Mathlib.Tactic.SplitIfs

/-!
# Messages of a mailbox

A message has four fields. `MBSerializeMessage` writes them one after the other with commas between them,
`MBParseMessage` cuts the text at its commas. A field that has a comma is cut in the wrong place, and a field of the
greatest length does not fit: it is accepted by `MBMessageBuild`, but the parser hands `strncpy_s` a size in which the
terminator has no room.
-/

namespace DalHost

/-! ### Limits -/

/-- `MS_MAX_MESSAGE_SIZE`. -/
def msMaxMessageSize : Nat := 424

def mbKeyMaxSize : Nat := 16

def mbNameMaxSize : Nat := 32

def mbDataMaxSize : Nat := 320

/-- `MB_MESSAGE_DELIMITER`. -/
def mbMessageDelimiter : UInt8 := 44

/-! ### Strings -/

/-- How a function of the mailbox fails. -/
inductive MBFailure
  /-- It returns `FALSE` or an error status. -/
  | refused
  /-- The C library calls the invalid parameter handler, which ends the process. -/
  | aborted
  deriving DecidableEq

/-- A character array: the string in it, and how many bytes from its start were written. -/
structure CharArray where
  text : Bytes
  touched : Nat
  deriving DecidableEq

/-- `strcpy_s` into an array of `size` characters. -/
def copyString (size : Nat) (src : Bytes) : Except MBFailure CharArray :=
  if src.length < size then .ok ⟨src, src.length + 1⟩ else .error .aborted

/-- `strncpy_s`: at most `count` characters, and there must be room for the terminator. -/
def copyChars (size : Nat) (src : Bytes) (count : Nat) : Except MBFailure CharArray := copyString size (src.take count)

/-! ### Messages -/

/-- `MBMessage`. -/
structure MBMessage where
  key : CharArray
  fromName : CharArray
  toName : CharArray
  data : CharArray

/-- The four strings of a message. -/
def MBMessage.texts (m : MBMessage) : List Bytes := [m.key.text, m.fromName.text, m.toName.text, m.data.text]

/-- No array of the message was written past its size. -/
def MBMessage.InBounds (m : MBMessage) : Prop :=
  m.key.touched ≤ mbKeyMaxSize + 2 ∧ m.fromName.touched ≤ mbNameMaxSize + 2 ∧ m.toName.touched ≤ mbNameMaxSize + 2 ∧
    m.data.touched ≤ mbDataMaxSize + 2

/-- `MBMessageBuild`, with a message to build. -/
def mbMessageBuild (key fromName toName data : CText) : Except MBFailure MBMessage := do
  if key.text.length > mbKeyMaxSize ∨ fromName.text.length > mbNameMaxSize ∨ toName.text.length > mbNameMaxSize ∨
      data.text.length > mbDataMaxSize then .error .refused
  else
    let key ← copyString (mbKeyMaxSize + 1) key.text
    let fromName ← copyString (mbNameMaxSize + 1) fromName.text
    let toName ← copyString (mbNameMaxSize + 1) toName.text
    let data ← copyString (mbDataMaxSize + 1) data.text
    return ⟨key, fromName, toName, data⟩

/-- `MBAddField`; the text ends where the pointer stands. -/
def mbAddField (dest : CharArray) (field : Bytes) : Except MBFailure CharArray := do
  let copy ← copyChars (field.length + 1) field (field.length + 1)
  -- the delimiter takes the place of the terminator
  return ⟨dest.text ++ copy.text ++ [mbMessageDelimiter], max dest.touched (dest.text.length + copy.touched)⟩

/-- `MBSerializeMessage`: the buffer with the terminator. -/
def mbSerializeMessage (m : MBMessage) : Except MBFailure CharArray := do
  let dest ← mbAddField ⟨[], 0⟩ m.key.text
  let dest ← mbAddField dest m.fromName.text
  let dest ← mbAddField dest m.toName.text
  let dest ← mbAddField dest m.data.text
  return ⟨dest.text.dropLast ++ [0], dest.touched⟩

/-- `MBParseField`: the field, and where the source continues (`none` for `NULL`). -/
def mbParseField (src : Option Bytes) (maxSize : Nat) : Except MBFailure (CharArray × Option Bytes) :=
  match src with
  | none => .error .refused
  | some start => do
    let fieldSize := (start.takeWhile (· ≠ mbMessageDelimiter)).length
    if fieldSize > maxSize then .error .refused
    else
      let field ← copyChars maxSize start fieldSize
      return (⟨field.text, max field.touched (fieldSize + 1)⟩,
        if start.contains mbMessageDelimiter then some (start.drop (fieldSize + 1)) else none)

/-- `MBParseMessage`. -/
def mbParseMessage (msgStr : Bytes) : Except MBFailure MBMessage := do
  let (key, start) ← mbParseField (some msgStr) mbKeyMaxSize
  let (fromName, start) ← mbParseField start mbNameMaxSize
  let (toName, start) ← mbParseField start mbNameMaxSize
  let (data, _) ← mbParseField start mbDataMaxSize
  return ⟨key, fromName, toName, data⟩

/-! ### Building and writing -/

theorem copyString_eq_ok {size : Nat} {src : Bytes} {a : CharArray} :
    copyString size src = .ok a ↔ src.length < size ∧ a = ⟨src, src.length + 1⟩ := by
  unfold copyString
  split_ifs with h
  · rw [Except.ok.injEq, eq_comm]
    exact ⟨fun ha => ⟨h, ha⟩, fun ha => ha.2⟩
  · exact ⟨nofun, fun ha => absurd ha.1 h⟩

theorem bind_eq_ok {ε α β : Type} {x : Except ε α} {f : α → Except ε β} {b : β} :
    (x >>= f) = .ok b ↔ ∃ a, x = .ok a ∧ f a = .ok b := by
  cases x with
  | error e => exact ⟨nofun, fun ⟨_, h, _⟩ => nomatch h⟩
  | ok a =>
    constructor
    · exact fun h => ⟨a, rfl, h⟩
    · rintro ⟨a', ha, h⟩
      cases ha
      exact h

theorem mbMessageBuild_eq_ok {key fromName toName data : CText} {m : MBMessage}
    (h : mbMessageBuild key fromName toName data = .ok m) :
    (key.text.length ≤ mbKeyMaxSize ∧ fromName.text.length ≤ mbNameMaxSize ∧ toName.text.length ≤ mbNameMaxSize ∧
      data.text.length ≤ mbDataMaxSize) ∧
      m = ⟨⟨key.text, key.text.length + 1⟩, ⟨fromName.text, fromName.text.length + 1⟩,
        ⟨toName.text, toName.text.length + 1⟩, ⟨data.text, data.text.length + 1⟩⟩ := by
  unfold mbMessageBuild at h
  split_ifs at h with hlong
  obtain ⟨k, hk, h⟩ := bind_eq_ok.1 h
  obtain ⟨f, hf, h⟩ := bind_eq_ok.1 h
  obtain ⟨t, ht, h⟩ := bind_eq_ok.1 h
  obtain ⟨d, hd, h⟩ := bind_eq_ok.1 h
  obtain ⟨-, rfl⟩ := copyString_eq_ok.1 hk
  obtain ⟨-, rfl⟩ := copyString_eq_ok.1 hf
  obtain ⟨-, rfl⟩ := copyString_eq_ok.1 ht
  obtain ⟨-, rfl⟩ := copyString_eq_ok.1 hd
  cases h
  simp only [not_or, Nat.not_lt] at hlong
  exact ⟨hlong, rfl⟩

theorem mbAddField_eq (dest : CharArray) (field : Bytes) :
    mbAddField dest field = .ok ⟨dest.text ++ field ++ [mbMessageDelimiter],
      max dest.touched (dest.text.length + (field.length + 1))⟩ := by
  have htake : field.take (field.length + 1) = field := List.take_of_length_le (Nat.le_succ _)
  have hcopy : copyChars (field.length + 1) field (field.length + 1) = .ok ⟨field, field.length + 1⟩ := by
    unfold copyChars
    rw [htake]
    exact copyString_eq_ok.2 ⟨Nat.lt_succ_self _, rfl⟩
  unfold mbAddField
  rw [hcopy]
  rfl

/-- The fields with commas between them. -/
def joined (key fromName toName data : Bytes) : Bytes :=
  key ++ mbMessageDelimiter :: (fromName ++ mbMessageDelimiter :: (toName ++ mbMessageDelimiter :: data))

theorem mbSerializeMessage_eq (m : MBMessage) :
    mbSerializeMessage m = .ok ⟨joined m.key.text m.fromName.text m.toName.text m.data.text ++ [0],
      (joined m.key.text m.fromName.text m.toName.text m.data.text).length + 1⟩ := by
  unfold mbSerializeMessage
  rw [mbAddField_eq, bind_eq_ok]
  refine ⟨_, rfl, ?_⟩
  rw [mbAddField_eq, bind_eq_ok]
  refine ⟨_, rfl, ?_⟩
  rw [mbAddField_eq, bind_eq_ok]
  refine ⟨_, rfl, ?_⟩
  rw [mbAddField_eq, bind_eq_ok]
  refine ⟨_, rfl, ?_⟩
  have htext : (([] ++ m.key.text ++ [mbMessageDelimiter] ++ m.fromName.text ++ [mbMessageDelimiter] ++ m.toName.text ++
      [mbMessageDelimiter] ++ m.data.text ++ [mbMessageDelimiter]).dropLast : Bytes) =
      joined m.key.text m.fromName.text m.toName.text m.data.text := by
    rw [List.dropLast_concat]
    simp only [joined, List.nil_append, List.append_assoc, List.cons_append]
  show Except.ok _ = Except.ok _
  rw [Except.ok.injEq]
  dsimp only
  rw [htext]
  congr 1
  simp only [joined, List.nil_append, List.length_append, List.length_cons, List.length_nil]
  omega

/-! ### Parsing -/

/-- `MBParseField` on a text: everything up to the first comma, if that and a terminator fit. -/
theorem mbParseField_eq (start : Bytes) (maxSize : Nat) :
    mbParseField (some start) maxSize =
      if (start.takeWhile (· ≠ mbMessageDelimiter)).length < maxSize then
        .ok (⟨start.takeWhile (· ≠ mbMessageDelimiter), (start.takeWhile (· ≠ mbMessageDelimiter)).length + 1⟩,
          if start.contains mbMessageDelimiter then some (start.drop ((start.takeWhile (· ≠ mbMessageDelimiter)).length + 1))
          else none)
      else if (start.takeWhile (· ≠ mbMessageDelimiter)).length = maxSize then .error .aborted
      else .error .refused := by
  have htake : start.take (start.takeWhile (· ≠ mbMessageDelimiter)).length = start.takeWhile (· ≠ mbMessageDelimiter) :=
    (List.prefix_iff_eq_take.1 (List.takeWhile_prefix _)).symm
  simp only [mbParseField, copyChars, htake, copyString]
  by_cases hlt : (start.takeWhile (· ≠ mbMessageDelimiter)).length < maxSize
  · rw [if_neg (by omega), if_pos hlt, if_pos hlt]
    show Except.ok _ = Except.ok _
    rw [Nat.max_self]
  · rw [if_neg hlt, if_neg hlt]
    by_cases heq : (start.takeWhile (· ≠ mbMessageDelimiter)).length = maxSize
    · rw [if_neg (by omega), if_pos heq]
      rfl
    · rw [if_pos (by omega), if_neg heq]

theorem takeWhile_field (field rest : Bytes) :
    (field ++ mbMessageDelimiter :: rest).takeWhile (· ≠ mbMessageDelimiter) = field.takeWhile (· ≠ mbMessageDelimiter) := by
  induction field with
  | nil => exact List.takeWhile_cons_of_neg (by decide)
  | cons c field ih =>
    rw [List.cons_append, List.takeWhile_cons, List.takeWhile_cons, ih]

theorem takeWhile_eq_self {field : Bytes} :
    field.takeWhile (· ≠ mbMessageDelimiter) = field ↔ mbMessageDelimiter ∉ field := by
  rw [List.takeWhile_eq_self_iff]
  constructor
  · intro h hmem
    exact absurd (h _ hmem) (by decide)
  · intro h c hc
    rw [decide_eq_true_eq]
    rintro rfl
    exact h hc

theorem mbParseField_field (field rest : Bytes) {maxSize : Nat} {a : CharArray} {next : Option Bytes} :
    mbParseField (some (field ++ mbMessageDelimiter :: rest)) maxSize = .ok (a, next) ∧ a.text = field ↔
      (mbMessageDelimiter ∉ field ∧ field.length < maxSize) ∧ a = ⟨field, field.length + 1⟩ ∧ next = some rest := by
  have hmem : (field ++ mbMessageDelimiter :: rest).contains mbMessageDelimiter = true :=
    List.contains_iff_mem.2 (List.mem_append_right _ List.mem_cons_self)
  have hdrop : (field ++ mbMessageDelimiter :: rest).drop (field.length + 1) = rest := by
    rw [List.drop_append, List.drop_eq_nil_of_le (Nat.le_succ _), Nat.add_sub_cancel_left]
    rfl
  rw [mbParseField_eq, takeWhile_field, if_pos hmem]
  constructor
  · rintro ⟨hparse, htext⟩
    split_ifs at hparse with hlt
    obtain ⟨rfl, rfl⟩ := Prod.mk.inj (Except.ok.inj hparse)
    have hself : field.takeWhile (· ≠ mbMessageDelimiter) = field := htext
    rw [hself] at hlt ⊢
    exact ⟨⟨takeWhile_eq_self.1 hself, hlt⟩, rfl, by rw [hdrop]⟩
  · rintro ⟨⟨hcomma, hlt⟩, rfl, rfl⟩
    rw [takeWhile_eq_self.2 hcomma, if_pos hlt, hdrop]
    exact ⟨rfl, rfl⟩

theorem mbParseField_last (field : Bytes) {maxSize : Nat} {a : CharArray} {next : Option Bytes} :
    mbParseField (some field) maxSize = .ok (a, next) ∧ a.text = field ↔
      (mbMessageDelimiter ∉ field ∧ field.length < maxSize) ∧ a = ⟨field, field.length + 1⟩ ∧ next = none := by
  rw [mbParseField_eq]
  constructor
  · rintro ⟨hparse, htext⟩
    split_ifs at hparse with hlt hmem
    · obtain ⟨rfl, rfl⟩ := Prod.mk.inj (Except.ok.inj hparse)
      have hself : field.takeWhile (· ≠ mbMessageDelimiter) = field := htext
      exact absurd (List.contains_iff_mem.1 hmem) (takeWhile_eq_self.1 hself)
    · obtain ⟨rfl, rfl⟩ := Prod.mk.inj (Except.ok.inj hparse)
      have hself : field.takeWhile (· ≠ mbMessageDelimiter) = field := htext
      rw [hself] at hlt ⊢
      exact ⟨⟨takeWhile_eq_self.1 hself, hlt⟩, rfl, rfl⟩
  · rintro ⟨⟨hcomma, hlt⟩, rfl, rfl⟩
    rw [takeWhile_eq_self.2 hcomma, if_pos hlt, if_neg fun hmem => hcomma (List.contains_iff_mem.1 hmem)]
    exact ⟨rfl, rfl⟩

/-- A field that survives: no comma, and shorter than the limit. -/
def Survives (maxSize : Nat) (field : Bytes) : Prop := mbMessageDelimiter ∉ field ∧ field.length < maxSize

instance (maxSize : Nat) (field : Bytes) : Decidable (Survives maxSize field) :=
  inferInstanceAs (Decidable (_ ∧ _))

/-- The parser reads back the four fields exactly if each of them survives. -/
theorem mbParseMessage_joined (key fromName toName data : Bytes) {m : MBMessage} :
    mbParseMessage (joined key fromName toName data) = .ok m ∧ m.texts = [key, fromName, toName, data] ↔
      (Survives mbKeyMaxSize key ∧ Survives mbNameMaxSize fromName ∧ Survives mbNameMaxSize toName ∧
        Survives mbDataMaxSize data) ∧
      m = ⟨⟨key, key.length + 1⟩, ⟨fromName, fromName.length + 1⟩, ⟨toName, toName.length + 1⟩, ⟨data, data.length + 1⟩⟩ := by
  unfold mbParseMessage joined
  constructor
  · rintro ⟨hparse, htexts⟩
    obtain ⟨⟨k, start⟩, hkey, hparse⟩ := bind_eq_ok.1 hparse
    obtain ⟨⟨f, start₁⟩, hfrom, hparse⟩ := bind_eq_ok.1 hparse
    obtain ⟨⟨t, start₂⟩, hto, hparse⟩ := bind_eq_ok.1 hparse
    obtain ⟨⟨d, start₃⟩, hdata, hparse⟩ := bind_eq_ok.1 hparse
    cases hparse
    simp only [MBMessage.texts, List.cons.injEq, and_true] at htexts
    obtain ⟨hk, hf, ht, hd⟩ := htexts
    obtain ⟨hksurv, rfl, rfl⟩ := (mbParseField_field key _).1 ⟨hkey, hk⟩
    obtain ⟨hfsurv, rfl, rfl⟩ := (mbParseField_field fromName _).1 ⟨hfrom, hf⟩
    obtain ⟨htsurv, rfl, rfl⟩ := (mbParseField_field toName _).1 ⟨hto, ht⟩
    obtain ⟨hdsurv, rfl, -⟩ := (mbParseField_last data).1 ⟨hdata, hd⟩
    exact ⟨⟨hksurv, hfsurv, htsurv, hdsurv⟩, rfl⟩
  · rintro ⟨⟨hk, hf, ht, hd⟩, rfl⟩
    refine ⟨bind_eq_ok.2 ⟨_, ((mbParseField_field key _).2 ⟨hk, rfl, rfl⟩).1, ?_⟩, rfl⟩
    refine bind_eq_ok.2 ⟨_, ((mbParseField_field fromName _).2 ⟨hf, rfl, rfl⟩).1, ?_⟩
    refine bind_eq_ok.2 ⟨_, ((mbParseField_field toName _).2 ⟨ht, rfl, rfl⟩).1, ?_⟩
    exact bind_eq_ok.2 ⟨_, ((mbParseField_last data).2 ⟨hd, rfl, rfl⟩).1, rfl⟩

/-! ### The round trip -/

/-- A message that was built survives being sent: it is read back, its text fits into a mail slot, and no array is
written past its size. -/
structure MessageRoundTrips (m : MBMessage) : Prop where
  parses : ∃ w m', mbSerializeMessage m = .ok w ∧ mbParseMessage (cString w.text) = .ok m' ∧ m'.texts = m.texts ∧ m'.InBounds
  fits : ∀ w, mbSerializeMessage m = .ok w → w.text.length ≤ msMaxMessageSize ∧ w.touched ≤ msMaxMessageSize
  inBounds : m.InBounds

/-- A message makes the round trip exactly if none of its fields has a comma or the greatest length. -/
theorem messageRoundTrips_iff {key fromName toName data : CText} {m : MBMessage}
    (hbuild : mbMessageBuild key fromName toName data = .ok m) :
    MessageRoundTrips m ↔ Survives mbKeyMaxSize key.text ∧ Survives mbNameMaxSize fromName.text ∧
      Survives mbNameMaxSize toName.text ∧ Survives mbDataMaxSize data.text := by
  obtain ⟨⟨hkey, hfrom, hto, hdata⟩, rfl⟩ := mbMessageBuild_eq_ok hbuild
  have hlen : (joined key.text fromName.text toName.text data.text).length + 1 ≤ msMaxMessageSize := by
    simp only [joined, List.length_append, List.length_cons]
    unfold mbKeyMaxSize mbNameMaxSize mbDataMaxSize at *
    unfold msMaxMessageSize
    omega
  have hstring : cString (joined key.text fromName.text toName.text data.text ++ [0]) =
      joined key.text fromName.text toName.text data.text := by
    have hne : ∀ c ∈ joined key.text fromName.text toName.text data.text, decide (c ≠ 0) = true := by
      intro c hc
      rw [decide_eq_true_eq]
      rintro rfl
      simp only [joined, List.mem_append, List.mem_cons] at hc
      rcases hc with hc | hc | hc | hc | hc | hc | hc
      · exact key.no_terminator hc
      · exact absurd hc (by decide)
      · exact fromName.no_terminator hc
      · exact absurd hc (by decide)
      · exact toName.no_terminator hc
      · exact absurd hc (by decide)
      · exact data.no_terminator hc
    unfold cString
    rw [List.takeWhile_append_of_pos hne, List.takeWhile_cons_of_neg (by decide), List.append_nil]
  constructor
  · intro h
    obtain ⟨w, m', hserialize, hparse, htexts, -⟩ := h.parses
    rw [mbSerializeMessage_eq] at hserialize
    cases hserialize
    dsimp only at hparse
    rw [hstring] at hparse
    exact ((mbParseMessage_joined _ _ _ _).1 ⟨hparse, htexts⟩).1
  · intro hsurvive
    obtain ⟨hparse, htexts⟩ := (mbParseMessage_joined _ _ _ _).2 ⟨hsurvive, rfl⟩
    refine ⟨⟨_, _, mbSerializeMessage_eq _, ?_, htexts, ?_⟩, fun w hw => ?_, ?_⟩
    · dsimp only
      rw [hstring]
      exact hparse
    · simp only [MBMessage.InBounds]
      omega
    · rw [mbSerializeMessage_eq] at hw
      cases hw
      rw [List.length_append]
      exact ⟨hlen, hlen⟩
    · simp only [MBMessage.InBounds]
      omega

theorem no_terminator_replicate (n : Nat) : (0 : UInt8) ∉ List.replicate n 65 := by
  intro h
  exact absurd (List.eq_of_mem_replicate h) (by decide)

/-- A string of letters. -/
def CText.letters (n : Nat) : CText := ⟨List.replicate n 65, no_terminator_replicate n⟩

theorem no_terminator_comma : (0 : UInt8) ∉ ([65, 44, 66] : Bytes) := by decide

/-- `"A,B"`. -/
def CText.withComma : CText := ⟨[65, 44, 66], no_terminator_comma⟩

/-- The message with this key, and short texts in the other fields. -/
def messageWithKey (key : CText) : MBMessage :=
  ⟨⟨key.text, key.text.length + 1⟩, ⟨List.replicate 3 65, 4⟩, ⟨List.replicate 3 65, 4⟩, ⟨List.replicate 3 65, 4⟩⟩

/-- A key with a comma is cut, and a key of the greatest length ends the process. -/
theorem key_does_not_survive :
    mbMessageBuild .withComma (.letters 3) (.letters 3) (.letters 3) = .ok (messageWithKey .withComma) ∧
    ¬MessageRoundTrips (messageWithKey .withComma) ∧
    mbMessageBuild (.letters 16) (.letters 3) (.letters 3) (.letters 3) = .ok (messageWithKey (.letters 16)) ∧
    mbParseMessage (joined (CText.letters 16).text (CText.letters 3).text (CText.letters 3).text (CText.letters 3).text) =
      .error .aborted ∧
    ¬MessageRoundTrips (messageWithKey (.letters 16)) := by
  have hcomma : mbMessageBuild .withComma (.letters 3) (.letters 3) (.letters 3) = .ok (messageWithKey .withComma) := rfl
  have hfull : mbMessageBuild (.letters 16) (.letters 3) (.letters 3) (.letters 3) = .ok (messageWithKey (.letters 16)) := rfl
  refine ⟨hcomma, fun h => ?_, hfull, rfl, fun h => ?_⟩
  · obtain ⟨w, m', hserialize, hparse, htexts, -⟩ := h.parses
    cases hserialize
    cases hparse
    exact absurd htexts (by decide)
  · obtain ⟨w, m', hserialize, hparse, -⟩ := h.parses
    cases hserialize
    cases hparse

/-- A short message makes the round trip. -/
theorem short_message_survives : MessageRoundTrips (messageWithKey (.letters 15)) :=
  (@messageRoundTrips_iff (.letters 15) (.letters 3) (.letters 3) (.letters 3) _ rfl).2 (by decide +kernel)

end DalHost

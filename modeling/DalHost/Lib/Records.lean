import Mathlib.Data.List.Forall2

/-!
# Padded records

A format that is one record after the other, each filled up to an alignment with bytes that mean nothing. The head of a
record tells how long the whole record is. `readRecords` takes a list of records off the front of a text, and `Padded`
says, without a reader, that the text begins with them; the two agree. A reader that holds the length of what it has
read at the alignment pads every record by itself.
-/

namespace DalHost

variable {α : Type}

/-! ### Padding -/

/-- How many bytes fill `n` bytes up to the alignment `a`. -/
def padding (a n : Nat) : Nat := (a - n % a) % a

theorem add_padding_mod {a : Nat} (ha : 0 < a) (n : Nat) : (n + padding a n) % a = 0 := by
  have hlt := Nat.mod_lt n ha
  unfold padding
  by_cases h : n % a = 0
  · rw [h, Nat.sub_zero, Nat.mod_self, Nat.add_zero, h]
  · have hpad : (a - n % a) % a = a - n % a := Nat.mod_eq_of_lt (by omega)
    rw [hpad, Nat.add_mod, hpad, show n % a + (a - n % a) = a by omega, Nat.mod_self]

theorem padding_add {a m : Nat} (hm : m % a = 0) (n : Nat) : padding a (m + n) = padding a n := by
  unfold padding
  rw [Nat.add_mod, hm, Nat.zero_add, Nat.mod_mod]

/-! ### Records -/

/-- A kind of record: the length of its head, and the length of the whole record by its head, unless the head is
refused. -/
structure RecordKind (α : Type) where
  head : Nat
  extent : List α → Option Nat
  head_le : ∀ xs n, extent xs = some n → head ≤ n

namespace RecordKind

/-- Records of one length. -/
def fixed (n : Nat) : RecordKind α where
  head := n
  extent _ := some n
  head_le _ _ h := Nat.le_of_eq (Option.some.inj h)

/-- Records whose head holds a number, at most `limit`, of elements of `size` that follow it. -/
def counted (head : Nat) (count : List α → Nat) (limit size : Nat) : RecordKind α where
  head := head
  extent xs := if limit < count xs then none else some (head + count xs * size)
  head_le xs n h := by
    by_cases hlimit : limit < count xs
    · rw [if_pos hlimit] at h
      cases h
    · rw [if_neg hlimit] at h
      have := Option.some.inj h
      omega

/-- A record of the kind. -/
def Fits (k : RecordKind α) (xs : List α) : Prop := k.extent (xs.take k.head) = some xs.length

theorem Fits.head_le {k : RecordKind α} {xs : List α} (h : k.Fits xs) : k.head ≤ xs.length := k.head_le _ _ h

theorem fits_fixed {n : Nat} {xs : List α} : (fixed n : RecordKind α).Fits xs ↔ xs.length = n := by
  unfold Fits fixed
  rw [Option.some.injEq, eq_comm]

end RecordKind

variable (a : Nat)

/-- The record at the front of a text, and the text behind its padding. -/
def readRecord (k : RecordKind α) (text : List α) : Option (List α × List α) :=
  if text.length < k.head then none
  else
    match k.extent (text.take k.head) with
    | none => none
    | some n => if n + padding a n ≤ text.length then some (text.take n, text.drop (n + padding a n)) else none

/-- The records at the front of a text, and the text behind them. -/
def readRecords : List (RecordKind α) → List α → Option (List (List α) × List α)
  | [], text => some ([], text)
  | k :: ks, text =>
    match readRecord a k text with
    | none => none
    | some (record, rest) => (readRecords ks rest).map fun r => (record :: r.1, r.2)

/-- A text is so many records, each with its padding, and a rest. -/
inductive Padded : List (RecordKind α) → List (List α) → List α → List α → Prop
  | nil (rest : List α) : Padded [] [] rest rest
  | cons {k : RecordKind α} {ks : List (RecordKind α)} {record pad text rest : List α} {records : List (List α)}
      (hfits : k.Fits record) (hpad : pad.length = padding a record.length) (htail : Padded ks records text rest) :
      Padded (k :: ks) (record :: records) (record ++ (pad ++ text)) rest

variable {a}

section Read

variable {k : RecordKind α} {text : List α}

theorem readRecord_of_lt (h : text.length < k.head) : readRecord a k text = none := by
  unfold readRecord
  rw [if_pos h]

theorem readRecord_of_refused (hhead : k.head ≤ text.length) (h : k.extent (text.take k.head) = none) :
    readRecord a k text = none := by
  unfold readRecord
  rw [if_neg (by omega), h]

theorem readRecord_of_extent {n : Nat} (hhead : k.head ≤ text.length) (h : k.extent (text.take k.head) = some n) :
    readRecord a k text =
      if n + padding a n ≤ text.length then some (text.take n, text.drop (n + padding a n)) else none := by
  unfold readRecord
  rw [if_neg (by omega), h]

end Read

theorem readRecord_eq_some_iff {k : RecordKind α} {text record rest : List α} :
    readRecord a k text = some (record, rest) ↔
      k.Fits record ∧ ∃ pad, pad.length = padding a record.length ∧ text = record ++ (pad ++ rest) := by
  constructor
  · intro h
    by_cases hhead : text.length < k.head
    · rw [readRecord_of_lt hhead] at h
      cases h
    · cases hextent : k.extent (text.take k.head) with
      | none =>
        rw [readRecord_of_refused (by omega) hextent] at h
        cases h
      | some n =>
        rw [readRecord_of_extent (by omega) hextent] at h
        by_cases hle : n + padding a n ≤ text.length
        · simp only [if_pos hle, Option.some.injEq, Prod.mk.injEq] at h
          obtain ⟨rfl, rfl⟩ := h
          have hn := k.head_le _ _ hextent
          have hlength : (text.take n).length = n := by
            rw [List.length_take]
            omega
          refine ⟨?_, (text.drop n).take (padding a n), ?_, ?_⟩
          · unfold RecordKind.Fits
            rw [List.take_take, Nat.min_eq_left hn, hextent, hlength]
          · rw [hlength, List.length_take, List.length_drop]
            omega
          · rw [← List.drop_drop, List.take_append_drop, List.take_append_drop]
        · simp only [if_neg hle, reduceCtorEq] at h
  · rintro ⟨hfits, pad, hpad, rfl⟩
    have hhead := hfits.head_le
    have hextent : k.extent ((record ++ (pad ++ rest)).take k.head) = some record.length := by
      rw [List.take_append_of_le_length hhead]
      exact hfits
    have hlength : (record ++ (pad ++ rest)).length = record.length + (padding a record.length + rest.length) := by
      rw [List.length_append, List.length_append, hpad]
    rw [readRecord_of_extent (by omega) hextent, if_pos (by omega), List.take_left, ← hpad, ← List.drop_drop,
      List.drop_left, List.drop_left]

theorem readRecords_cons_of_none {k : RecordKind α} {ks : List (RecordKind α)} {text : List α}
    (h : readRecord a k text = none) : readRecords a (k :: ks) text = none := by
  simp only [readRecords, h]

theorem readRecords_cons_of_some {k : RecordKind α} {ks : List (RecordKind α)} {text record rest : List α}
    (h : readRecord a k text = some (record, rest)) :
    readRecords a (k :: ks) text = (readRecords a ks rest).map fun r => (record :: r.1, r.2) := by
  simp only [readRecords, h]

/-- The reader finds just what the format says. -/
theorem readRecords_eq_some_iff {ks : List (RecordKind α)} {text rest : List α} {records : List (List α)} :
    readRecords a ks text = some (records, rest) ↔ Padded a ks records text rest := by
  induction ks generalizing text records with
  | nil =>
    simp only [readRecords, Option.some.injEq, Prod.mk.injEq]
    constructor
    · rintro ⟨rfl, rfl⟩
      apply Padded.nil
    · intro h
      cases h
      exact ⟨rfl, rfl⟩
  | cons k ks ih =>
    constructor
    · intro h
      cases hread : readRecord a k text with
      | none =>
        rw [readRecords_cons_of_none hread] at h
        cases h
      | some r =>
        obtain ⟨record, text'⟩ := r
        rw [readRecords_cons_of_some hread] at h
        simp only [Option.map_eq_some_iff, Prod.mk.injEq] at h
        obtain ⟨⟨records', rest'⟩, hrest, rfl, rfl⟩ := h
        obtain ⟨hfits, pad, hpad, rfl⟩ := readRecord_eq_some_iff.1 hread
        apply Padded.cons hfits hpad
        exact ih.1 hrest
    · intro h
      cases h with
      | cons hfits hpad htail =>
        rw [readRecords_cons_of_some (readRecord_eq_some_iff.2 ⟨hfits, _, hpad, rfl⟩), ih.2 htail, Option.map_some]

/-- Where the records stand that begin at `start`. -/
def offsets (a : Nat) : Nat → List (List α) → List Nat
  | _, [] => []
  | start, record :: records => start :: offsets a (start + (record.length + padding a record.length)) records

theorem Padded.length_records {ks : List (RecordKind α)} {text rest : List α} {records : List (List α)}
    (h : Padded a ks records text rest) : records.length = ks.length := by
  induction h with
  | nil => rfl
  | cons _ _ _ ih => rw [List.length_cons, List.length_cons, ih]

theorem Padded.fits {ks : List (RecordKind α)} {text rest : List α} {records : List (List α)}
    (h : Padded a ks records text rest) : List.Forall₂ RecordKind.Fits ks records := by
  induction h with
  | nil => exact .nil
  | cons hfits _ _ ih => exact .cons hfits ih

theorem length_offsets (start : Nat) (records : List (List α)) : (offsets a start records).length = records.length := by
  induction records generalizing start with
  | nil => rfl
  | cons record records ih => simp only [offsets, List.length_cons, ih]

theorem Padded.suffix {ks : List (RecordKind α)} {text rest : List α} {records : List (List α)}
    (h : Padded a ks records text rest) : rest <:+ text := by
  induction h with
  | nil => exact List.suffix_refl _
  | @cons k ks record pad text rest records hfits hpad htail ih =>
    apply ih.trans
    apply (List.suffix_append pad text).trans
    apply List.suffix_append

theorem Padded.length_rest {ks : List (RecordKind α)} {text rest : List α} {records : List (List α)}
    (h : Padded a ks records text rest) : rest.length ≤ text.length := h.suffix.length_le

theorem Padded.aligned (ha : 0 < a) {ks : List (RecordKind α)} {text rest : List α} {records : List (List α)}
    (h : Padded a ks records text rest) : (text.length - rest.length) % a = 0 := by
  induction h with
  | nil => rw [Nat.sub_self, Nat.zero_mod]
  | @cons k ks record pad text rest records hfits hpad htail ih =>
    have hle := htail.length_rest
    have hrecord := add_padding_mod ha record.length
    have hlength : (record ++ (pad ++ text)).length - rest.length =
        record.length + padding a record.length + (text.length - rest.length) := by
      rw [List.length_append, List.length_append, hpad]
      omega
    rw [hlength, Nat.add_mod, hrecord, ih, Nat.zero_mod]

theorem Padded.at_offsets {ks : List (RecordKind α)} {text rest : List α} {records : List (List α)}
    (h : Padded a ks records text rest) (start : Nat) : List.Forall₂ (fun offset record => start ≤ offset ∧
      offset + record.length ≤ start + (text.length - rest.length) ∧
      (text.drop (offset - start)).take record.length = record) (offsets a start records) records := by
  induction h generalizing start with
  | nil => exact .nil
  | @cons k ks record pad text rest records hfits hpad htail ih =>
    have hle := htail.length_rest
    have hlength : (record ++ (pad ++ text)).length = record.length + padding a record.length + text.length := by
      rw [List.length_append, List.length_append, hpad]
      omega
    refine .cons ⟨Nat.le_refl _, ?_, ?_⟩ ?_
    · omega
    · rw [Nat.sub_self, List.drop_zero, List.take_left]
    · refine List.Forall₂.imp (fun offset record' hat => ?_) (ih (start + (record.length + padding a record.length)))
      obtain ⟨hstart, hstop, heq⟩ := hat
      refine ⟨by omega, by omega, ?_⟩
      have hdrop : offset - start = (record ++ pad).length + (offset - (start + (record.length + padding a record.length))) := by
        rw [List.length_append, hpad]
        omega
      rw [hdrop, ← List.append_assoc, ← List.drop_drop, List.drop_left]
      exact heq

theorem offsets_add (start k : Nat) (records : List (List α)) :
    offsets a (start + k) records = (offsets a k records).map (start + ·) := by
  induction records generalizing k with
  | nil => rfl
  | cons record records ih => simp only [offsets, List.map_cons, Nat.add_assoc start, ih]

theorem le_of_mem_offsets {records : List (List α)} {start offset : Nat} (h : offset ∈ offsets a start records) :
    start ≤ offset := by
  induction records generalizing start with
  | nil => cases h
  | cons record records ih =>
    obtain rfl | h := List.mem_cons.1 h
    · exact Nat.le_refl _
    · have := ih h
      omega

theorem offsets_apart (records : List (List α)) (start : Nat) :
    ((offsets a start records).zip records).Pairwise fun x y => x.1 + x.2.length ≤ y.1 := by
  induction records generalizing start with
  | nil => exact .nil
  | cons record records ih =>
    apply List.Pairwise.cons
    · rintro ⟨offset, record'⟩ hmem
      have hle := le_of_mem_offsets (List.of_mem_zip hmem).1
      change start + record.length ≤ offset
      omega
    · exact ih _

theorem Padded.unique {ks : List (RecordKind α)} {text rest rest' : List α} {records records' : List (List α)}
    (h : Padded a ks records text rest) (h' : Padded a ks records' text rest') : records = records' ∧ rest = rest' := by
  have heq := (readRecords_eq_some_iff.2 h).symm.trans (readRecords_eq_some_iff.2 h')
  simpa using heq

end DalHost

import Mathlib.Data.List.Basic
import Mathlib.Data.Nat.Find
import Mathlib.Tactic.SplitIfs

/-!
# Sending in chunks

A loop hands the rest of a buffer to a write primitive again and again. At each call the primitive is ready to take
some number of bytes, or fails; it takes no more than it is asked for. A turn is steady when the loop asks for no more
than the rest of the buffer and moves on by what was taken. As long as all turns are steady the bytes taken are the
first ones of the buffer, and their number is the sum of what the primitive was ready to take.
-/

namespace DalHost

variable {β : Type}

/-- The bytes in memory from an address on. -/
def bytesAt (memory : Nat → β) (start count : Nat) : List β := (List.range count).map fun i => memory (start + i)

@[simp] theorem length_bytesAt (memory : Nat → β) (start count : Nat) : (bytesAt memory start count).length = count := by
  simp [bytesAt]

theorem bytesAt_append (memory : Nat → β) (first second : Nat) :
    bytesAt memory 0 first ++ bytesAt memory first second = bytesAt memory 0 (first + second) := by
  simp [bytesAt, List.range_add]

theorem bytesAt_proper (memory : Nat → β) {n length : Nat} (h : n < length) :
    bytesAt memory 0 n <+: bytesAt memory 0 length ∧ bytesAt memory 0 n ≠ bytesAt memory 0 length := by
  constructor
  · obtain ⟨rest, rfl⟩ := Nat.exists_eq_add_of_lt h
    rw [Nat.add_assoc, ← bytesAt_append]
    exact List.prefix_append _ _
  · intro heq
    have hlength := congrArg List.length heq
    simp only [length_bytesAt] at hlength
    omega

/-! ### The loop -/

/-- How far the loop is: its count, the calls it has made, the bytes that were taken and the sizes it asked for. -/
structure SendState (β : Type) where
  total : Nat
  calls : Nat
  accepted : List β
  requests : List Nat

def SendState.start : SendState β := ⟨0, 0, [], []⟩

/-- What tells one loop from another. -/
structure SendLoop where
  /-- How many bytes the loop asks for, by its count. -/
  request : Nat → Nat
  /-- How many the primitive can report at most. -/
  most : Nat → Nat
  /-- The count after a call, by the number that was reported; `none` gives up. -/
  advance : Nat → Nat → Option Nat

/-- The state after a call that took `count` bytes. -/
def SendState.took (s : SendState β) (l : SendLoop) (memory : Nat → β) (count total : Nat) : SendState β :=
  ⟨total, s.calls + 1, s.accepted ++ bytesAt memory s.total count, s.requests ++ [l.request s.total]⟩

/-- `while (total < length)`. The answer says whether all went well; there is none where the fuel is used up. -/
def SendLoop.run (l : SendLoop) (length : Nat) (memory : Nat → β) (offers : Nat → Option Nat) :
    Nat → SendState β → Option (Bool × SendState β)
  | 0, _ => none
  | fuel + 1, s =>
    if length ≤ s.total then some (true, s)
    else
      match offers s.calls with
      | none => some (false, s.took l memory 0 s.total)
      | some offer =>
        let count := min offer (l.most s.total)
        match l.advance s.total count with
        | none => some (false, s.took l memory count s.total)
        | some total => l.run length memory offers fuel (s.took l memory count total)

section Rules

variable {l : SendLoop} {length : Nat} {memory : Nat → β} {offers : Nat → Option Nat}

theorem SendLoop.run_done {fuel : Nat} {s : SendState β} (h : length ≤ s.total) :
    l.run length memory offers (fuel + 1) s = some (true, s) := by
  rw [SendLoop.run, if_pos h]

theorem SendLoop.run_induction {P : SendState β → Prop}
    (htook : ∀ s count total, P s → P (s.took l memory count total)) {fuel : Nat} {s s' : SendState β} {ok : Bool}
    (h : l.run length memory offers fuel s = some (ok, s')) (hs : P s) : P s' := by
  induction fuel generalizing s with
  | zero => cases h
  | succ fuel ih =>
    rw [SendLoop.run] at h
    split_ifs at h
    · cases h
      exact hs
    · cases hoffer : offers s.calls with
      | none =>
        rw [hoffer] at h
        cases h
        exact htook s 0 s.total hs
      | some offer =>
        rw [hoffer] at h
        dsimp only at h
        cases hadvance : l.advance s.total (min offer (l.most s.total)) with
        | none =>
          rw [hadvance] at h
          cases h
          exact htook s _ _ hs
        | some total =>
          rw [hadvance] at h
          exact ih h (htook s _ _ hs)

theorem SendLoop.run_mono {fuel n : Nat} {s s' : SendState β} {ok : Bool}
    (h : l.run length memory offers fuel s = some (ok, s')) (hn : n ≤ s.accepted.length) : n ≤ s'.accepted.length := by
  refine SendLoop.run_induction (P := fun s => n ≤ s.accepted.length) ?_ h hn
  intro s count total hs
  rw [SendState.took, List.length_append]
  omega

theorem SendLoop.run_requests {fuel b : Nat} {s : SendState β} {ok : Bool} (hrequest : ∀ t, l.request t ≤ b)
    (h : l.run length memory offers fuel .start = some (ok, s)) : ∀ r ∈ s.requests, r ≤ b := by
  refine SendLoop.run_induction (P := fun s => ∀ r ∈ s.requests, r ≤ b) ?_ h nofun
  intro s count total hs r hr
  rcases List.mem_append.1 hr with hr | hr
  · exact hs r hr
  · rw [List.mem_singleton.1 hr]
    exact hrequest s.total

theorem SendLoop.run_le {fuel fuel' : Nat} (hle : fuel ≤ fuel') {s : SendState β} {r : Bool × SendState β}
    (h : l.run length memory offers fuel s = some r) : l.run length memory offers fuel' s = some r := by
  induction fuel generalizing s fuel' with
  | zero => cases h
  | succ fuel ih =>
    obtain ⟨fuel', rfl⟩ := Nat.exists_eq_add_one_of_ne_zero (Nat.ne_of_gt (Nat.lt_of_lt_of_le (Nat.succ_pos fuel) hle))
    rw [SendLoop.run] at h ⊢
    split_ifs at h ⊢ with hdone
    · exact h
    · cases hoffer : offers s.calls with
      | none =>
        rw [hoffer] at h
        exact h
      | some offer =>
        rw [hoffer] at h
        dsimp only at h ⊢
        cases hadvance : l.advance s.total (min offer (l.most s.total)) with
        | none =>
          rw [hadvance] at h
          exact h
        | some total =>
          rw [hadvance] at h
          exact ih (Nat.le_of_succ_le_succ hle) h

/-! ### Steady turns -/

/-- What the primitive was ready to take in the first calls, at most `cap` in each. -/
def offered (cap : Nat) (offers : Nat → Option Nat) : Nat → Nat
  | 0 => 0
  | k + 1 => offered cap offers k + min ((offers k).getD 0) cap

theorem offered_mono (cap : Nat) (offers : Nat → Option Nat) {i k : Nat} (h : i ≤ k) :
    offered cap offers i ≤ offered cap offers k := by
  induction h with
  | refl => exact Nat.le_refl _
  | step _ ih => exact Nat.le_trans ih (Nat.le_add_right _ _)

/-- The loop moves on by what the primitive was ready to take of the rest; with the last byte it may move further. -/
def SendLoop.Steady (l : SendLoop) (length cap total offer : Nat) : Prop :=
  min offer (l.most total) = min (min offer cap) (length - total) ∧
    ∃ total', l.advance total (min offer (l.most total)) = some total' ∧
      (total' = total + min offer (l.most total) ∨ length ≤ total' ∧ length ≤ total + min offer (l.most total))

/-- The state after `k` steady turns. -/
structure SendLoop.Reaches (l : SendLoop) (length cap : Nat) (memory : Nat → β) (offers : Nat → Option Nat) (k : Nat)
    (s : SendState β) : Prop where
  run : ∀ fuel, l.run length memory offers (k + fuel) .start = l.run length memory offers fuel s
  calls : s.calls = k
  total : s.total = offered cap offers k ∨ length ≤ s.total ∧ length ≤ offered cap offers k
  accepted : s.accepted = bytesAt memory 0 (min length (offered cap offers k))

theorem SendLoop.exists_reaches (memory : Nat → β) {cap k : Nat}
    (h : ∀ i, i < k → offered cap offers i < length ∧
      ∃ offer, offers i = some offer ∧ l.Steady length cap (offered cap offers i) offer) :
    ∃ s : SendState β, l.Reaches length cap memory offers k s := by
  induction k with
  | zero => exact ⟨.start, fun fuel => by rw [Nat.zero_add], rfl, Or.inl rfl, by simp [offered, bytesAt, SendState.start]⟩
  | succ k ih =>
    obtain ⟨s, hs⟩ := ih fun i hi => h i (by omega)
    obtain ⟨hlt, offer, hoffer, hcount, total', hadvance, htotal'⟩ := h k (by omega)
    have htotal : s.total = offered cap offers k := hs.total.resolve_right fun h => absurd h.2 (by omega)
    have hstep : offered cap offers (k + 1) = offered cap offers k + min offer cap := by
      rw [offered, hoffer]
      rfl
    rw [← htotal] at hcount hadvance htotal'
    refine ⟨s.took l memory (min offer (l.most s.total)) total', ?_, ?_, ?_, ?_⟩
    · intro fuel
      have hfuel : k + 1 + fuel = k + (fuel + 1) := by omega
      rw [hfuel, hs.run, SendLoop.run, if_neg (by omega), hs.calls, hoffer]
      dsimp only
      rw [hadvance]
    · show s.calls + 1 = k + 1
      rw [hs.calls]
    · show total' = offered cap offers (k + 1) ∨ length ≤ total' ∧ length ≤ offered cap offers (k + 1)
      omega
    · have hsum : s.total + min offer (l.most s.total) = min length (offered cap offers (k + 1)) := by omega
      have hbefore : min length (offered cap offers k) = s.total := by omega
      show s.accepted ++ bytesAt memory s.total _ = bytesAt memory 0 _
      rw [hs.accepted, hbefore, bytesAt_append, hsum]

/-! ### Whole runs -/

/-- The loop ends; where all went well the whole buffer was taken, and else a proper part of it. -/
def SendLoop.Sends (l : SendLoop) (length : Nat) (memory : Nat → β) (offers : Nat → Option Nat) : Prop :=
  ∃ fuel ok s, l.run length memory offers fuel .start = some (ok, s) ∧
    (ok = true → s.accepted = bytesAt memory 0 length) ∧
    (ok = false → s.accepted <+: bytesAt memory 0 length ∧ s.accepted ≠ bytesAt memory 0 length)

theorem SendLoop.sends_of_stop (cap k : Nat)
    (h : ∀ i, i < k → offered cap offers i < length ∧
      ∃ offer, offers i = some offer ∧ l.Steady length cap (offered cap offers i) offer)
    (hstop : length ≤ offered cap offers k ∨
      ∀ offer, offers k = some offer → offer = 0 ∧ l.advance (offered cap offers k) 0 = none) :
    l.Sends length memory offers := by
  obtain ⟨s, hs⟩ := SendLoop.exists_reaches memory h
  by_cases hdone : length ≤ offered cap offers k
  · have htotal : length ≤ s.total := by
      rcases hs.total with h | h
      · omega
      · exact h.1
    refine ⟨k + 1, true, s, ?_, ?_, nofun⟩
    · rw [hs.run, SendLoop.run_done htotal]
    · intro _
      rw [hs.accepted, Nat.min_eq_left hdone]
  · have hquits := hstop.resolve_left hdone
    have htotal : s.total = offered cap offers k := hs.total.resolve_right fun h => absurd h.2 hdone
    refine ⟨k + 1, false, s.took l memory 0 s.total, ?_, nofun, ?_⟩
    · rw [hs.run, SendLoop.run, if_neg (by omega), hs.calls]
      cases hoffer : offers k with
      | none => rfl
      | some offer =>
        obtain ⟨rfl, hnone⟩ := hquits offer hoffer
        dsimp only
        rw [Nat.zero_min, htotal, hnone]
    · intro _
      have haccepted : (s.took l memory 0 s.total).accepted = bytesAt memory 0 s.total := by
        show s.accepted ++ bytesAt memory s.total 0 = _
        rw [hs.accepted, Nat.min_eq_right (Nat.le_of_not_le hdone), ← htotal, bytesAt_append, Nat.add_zero]
      rw [haccepted]
      exact bytesAt_proper memory (by omega)

theorem SendLoop.Sends.length_accepted (h : l.Sends length memory offers) :
    ∃ fuel ok s, l.run length memory offers fuel .start = some (ok, s) ∧ s.accepted.length ≤ length ∧
      (ok = true → s.accepted.length = length) := by
  obtain ⟨fuel, ok, s, hrun, htrue, hfalse⟩ := h
  refine ⟨fuel, ok, s, hrun, ?_, ?_⟩
  · cases ok with
    | true => rw [htrue rfl, length_bytesAt]
    | false =>
      have hle := (hfalse rfl).1.length_le
      rwa [length_bytesAt] at hle
  · intro hok
    rw [htrue hok, length_bytesAt]

/-- The primitive fails at some call, or is ready to take the whole buffer in the course of its calls. -/
def Progress (cap length : Nat) (offers : Nat → Option Nat) : Prop :=
  ∃ k, offers k = none ∨ length ≤ offered cap offers k

/-- All turns are steady that the loop can come to. -/
def SendLoop.AlwaysSteady (l : SendLoop) (cap length : Nat) (offers : Nat → Option Nat) : Prop :=
  ∀ k offer, (∀ i, i < k → offers i ≠ none) → offered cap offers k < length → offers k = some offer →
    l.Steady length cap (offered cap offers k) offer

theorem SendLoop.sends_of_progress {cap : Nat} (hsteady : l.AlwaysSteady cap length offers)
    (hprogress : Progress cap length offers) : l.Sends length memory offers := by
  classical
  have hbefore : ∀ i, i < Nat.find hprogress → offers i ≠ none ∧ offered cap offers i < length := by
    intro i hi
    have hnot := Nat.find_min hprogress hi
    exact ⟨fun h => hnot (Or.inl h), Nat.lt_of_not_le fun h => hnot (Or.inr h)⟩
  apply SendLoop.sends_of_stop cap (Nat.find hprogress)
  · intro i hi
    obtain ⟨hsome, hlt⟩ := hbefore i hi
    obtain ⟨offer, hoffer⟩ := Option.ne_none_iff_exists'.1 hsome
    exact ⟨hlt, offer, hoffer, hsteady i offer (fun j hj => (hbefore j (by omega)).1) hlt hoffer⟩
  · rcases Nat.find_spec hprogress with hnone | hle
    · refine Or.inr fun offer hoffer => ?_
      rw [hnone] at hoffer
      cases hoffer
    · exact Or.inl hle

/-- Without progress the loop has no end. -/
theorem SendLoop.progress_of_sends {cap : Nat} (hsteady : l.AlwaysSteady cap length offers)
    (hsends : l.Sends length memory offers) : Progress cap length offers := by
  obtain ⟨fuel, ok, s', hrun, -⟩ := hsends
  refine Classical.byContradiction fun hno => ?_
  have hsome : ∀ i, offers i ≠ none := fun i h => hno ⟨i, Or.inl h⟩
  have hlt : ∀ i, offered cap offers i < length := fun i => Nat.lt_of_not_le fun h => hno ⟨i, Or.inr h⟩
  have hturns : ∀ i, i < fuel → offered cap offers i < length ∧
      ∃ offer, offers i = some offer ∧ l.Steady length cap (offered cap offers i) offer := by
    intro i _
    obtain ⟨offer, hoffer⟩ := Option.ne_none_iff_exists'.1 (hsome i)
    exact ⟨hlt i, offer, hoffer, hsteady i offer (fun j _ => hsome j) (hlt i) hoffer⟩
  obtain ⟨s, hs⟩ := SendLoop.exists_reaches memory hturns
  have hnever := hs.run 0
  rw [Nat.add_zero, hrun] at hnever
  cases hnever

theorem SendLoop.sends_of_positive {cap : Nat} (hcap : 0 < cap)
    (hsteady : ∀ total offer, total < length → 0 < offer → l.Steady length cap total offer)
    (hzero : ∀ total, l.advance total 0 = none) : l.Sends length memory offers := by
  classical
  have hstop : ∃ k, offers k = none ∨ offers k = some 0 ∨ length ≤ offered cap offers k := by
    refine Classical.byContradiction fun hno => ?_
    have hgrows : ∀ k, k ≤ offered cap offers k := by
      intro k
      induction k with
      | zero => exact Nat.le_refl 0
      | succ k ih =>
        cases hoffer : offers k with
        | none => exact absurd ⟨k, Or.inl hoffer⟩ hno
        | some offer =>
          have hpos : offer ≠ 0 := fun h => hno ⟨k, Or.inr (Or.inl (h ▸ hoffer))⟩
          rw [offered, hoffer, Option.getD_some]
          omega
    exact hno ⟨length, Or.inr (Or.inr (hgrows length))⟩
  apply SendLoop.sends_of_stop cap (Nat.find hstop)
  · intro i hi
    have hnot := Nat.find_min hstop hi
    have hlt : offered cap offers i < length := Nat.lt_of_not_le fun h => hnot (Or.inr (Or.inr h))
    cases hoffer : offers i with
    | none => exact absurd (Or.inl hoffer) hnot
    | some offer =>
      have hpos : offer ≠ 0 := fun h => hnot (Or.inr (Or.inl (h ▸ hoffer)))
      exact ⟨hlt, offer, rfl, hsteady _ offer hlt (by omega)⟩
  · rcases Nat.find_spec hstop with hnone | hzero' | hle
    · refine Or.inr fun offer hoffer => ?_
      rw [hnone] at hoffer
      cases hoffer
    · refine Or.inr fun offer hoffer => ?_
      rw [hzero'] at hoffer
      cases hoffer
      exact ⟨rfl, hzero _⟩
    · exact Or.inl hle

end Rules

end DalHost

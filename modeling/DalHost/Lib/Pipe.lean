import Mathlib.Data.List.Basic

/-!
# One direction of a byte stream

A `Pipe` keeps what was written to it, what is on its way and what was read from it. Reads take any
part of what is on its way. A pipe can break: a part of what is on its way is lost, and with it
whatever is written later. What was read is then still a prefix of what was written.
-/

namespace DalHost

structure Pipe (α : Type) where
  written : List α
  inFlight : List α
  read : List α
  broken : Bool

namespace Pipe

variable {α : Type}

def empty : Pipe α := ⟨[], [], [], false⟩

def write (p : Pipe α) (chunk : List α) : Pipe α :=
  { p with written := p.written ++ chunk, inFlight := if p.broken then p.inFlight else p.inFlight ++ chunk }

/-- Read `k` elements. -/
def take (p : Pipe α) (k : Nat) : Pipe α :=
  { p with inFlight := p.inFlight.drop k, read := p.read ++ p.inFlight.take k }

/-- The pipe breaks, and `k` of the elements on their way still arrive. -/
def sever (p : Pipe α) (k : Nat) : Pipe α := { p with inFlight := p.inFlight.take k, broken := true }

/-- What was read or can still be read is a prefix of what was written, and all of it if nothing was lost. -/
structure Sound (p : Pipe α) : Prop where
  arrived : p.read ++ p.inFlight <+: p.written
  whole : p.broken = false → p.read ++ p.inFlight = p.written

theorem sound_empty : (empty : Pipe α).Sound := ⟨List.prefix_rfl, fun _ => rfl⟩

variable {p : Pipe α}

theorem Sound.write (h : p.Sound) (chunk : List α) : (p.write chunk).Sound := by
  unfold Pipe.write
  refine ⟨?_, fun hbroken => ?_⟩
  · split_ifs with hb
    · exact h.arrived.trans (List.prefix_append _ _)
    · rw [Bool.not_eq_true] at hb
      have heq : p.read ++ (p.inFlight ++ chunk) = p.written ++ chunk := by rw [← List.append_assoc, h.whole hb]
      exact heq ▸ List.prefix_rfl
  · rw [hbroken, if_neg (by decide), ← List.append_assoc, h.whole hbroken]

theorem arrived_take (p : Pipe α) (k : Nat) : (p.take k).read ++ (p.take k).inFlight = p.read ++ p.inFlight := by
  simp only [Pipe.take, List.append_assoc, List.take_append_drop]

theorem Sound.take (h : p.Sound) (k : Nat) : (p.take k).Sound := by
  refine ⟨?_, fun hbroken => ?_⟩
  · rw [arrived_take]
    exact h.arrived
  · rw [arrived_take]
    exact h.whole hbroken

theorem Sound.sever (h : p.Sound) (k : Nat) : (p.sever k).Sound := by
  refine ⟨?_, fun hbroken => absurd hbroken (by simp [Pipe.sever])⟩
  obtain ⟨rest, hrest⟩ := h.arrived
  refine ⟨p.inFlight.drop k ++ rest, ?_⟩
  simp only [Pipe.sever]
  rw [List.append_assoc, ← List.append_assoc (p.inFlight.take k), List.take_append_drop, ← List.append_assoc, hrest]

theorem Sound.read_arrived (h : p.Sound) : p.read <+: p.written := (List.prefix_append _ _).trans h.arrived

end Pipe

end DalHost

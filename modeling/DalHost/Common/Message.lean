import DalHost.Lib.Cells

/-!
# Messages

A message, in either direction, is built by stores into memory that was just allocated: a `Message`
is the size of the allocation, which is also what is sent, and the list of the stores. A byte that
comes from memory nobody has written is a named cell, and `Message.bytes` is what the other side
receives once these names have values.
-/

namespace DalHost

/-- Memory that is read before it is written. -/
inductive Junk
  /-- The buffer of the message. -/
  | heap (i : Nat)
  /-- The structures on the stack of the function that builds it. -/
  | stack (i : Nat)
  /-- The receive buffer of a property query. -/
  | rx (i : Nat)
  /-- Bytes of an address that the allocator chose. -/
  | address (i : Nat)
  deriving DecidableEq

structure Message where
  size : UInt32
  stores : List (Nat × List (Cell Junk))

namespace Message

/-- The buffer after the stores. -/
def cell (o : Message) : Nat → Cell Junk := storeAll (fun i => .raw (.heap i)) o.stores

/-- The message as it is received, given what the memory held before. -/
def bytes (o : Message) (ρ : Junk → UInt8) : List UInt8 := slice (fun i => (o.cell i).render ρ) 0 o.size.toNat

/-- The buffer of the sender, given what the memory held before. -/
def memory (o : Message) (ρ : Junk → UInt8) : Nat → UInt8 := fun i => (o.cell i).render ρ

/-- The buffer of the receiver, which goes on behind the message as `rest` does. -/
def received (o : Message) (ρ : Junk → UInt8) (rest : Nat → UInt8) : Nat → UInt8 := store rest 0 (o.bytes ρ)

theorem memory_eq (o : Message) (ρ : Junk → UInt8) :
    o.memory ρ = storeAll (fun i => ρ (.heap i)) (o.stores.map fun w => (w.1, w.2.map (Cell.render ρ))) :=
  storeAll_map (Cell.render ρ) _ o.stores

theorem slice_received (o : Message) (ρ : Junk → UInt8) (rest : Nat → UInt8) {off len : Nat}
    (h : off + len ≤ o.size.toNat) : slice (o.received ρ rest) off len = slice (o.memory ρ) off len := by
  have hlen : (o.bytes ρ).length = o.size.toNat := length_slice _ _ _
  refine slice_congr fun i hi => ?_
  have hmem := store_apply_mem rest (o.bytes ρ) (Nat.zero_le (off + i)) (by omega)
  rw [Nat.sub_zero, bytes, getElem?_slice, if_pos (by omega), Nat.zero_add] at hmem
  exact Option.some.inj hmem

end Message

/-- Named cells. -/
def raws (name : Nat → Junk) (n : Nat) : List (Cell Junk) := (List.range n).map fun i => .raw (name i)

@[simp] theorem length_raws (name : Nat → Junk) (n : Nat) : (raws name n).length = n := by
  simp [raws]

end DalHost

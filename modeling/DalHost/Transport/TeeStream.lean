import DalHost.Lib.Calls
import DalHost.Transport.TeeLib

/-!
# The stream of a TeeLib client

What the device has handed over for a client and what its receives have delivered, next to the cache. Everything that
was handed over is delivered or cached, in order, and the cursors stay inside the cache.
-/

namespace DalHost

/-! ### Histories -/

/-- For each client, the messages that `TeeRead` returned and the bytes that `TEELIB_Recv` delivered. -/
structure StreamHistory where
  fetched : Nat → Bytes
  delivered : Nat → Bytes

namespace StreamHistory

def start : StreamHistory := ⟨fun _ => [], fun _ => []⟩

/-- More was fetched for a client, and delivered to its caller. -/
def extend (H : StreamHistory) (ptr : Nat) (fetched delivered : Bytes) : StreamHistory :=
  ⟨fun p => if p = ptr then H.fetched p ++ fetched else H.fetched p,
    fun p => if p = ptr then H.delivered p ++ delivered else H.delivered p⟩

end StreamHistory

/-- The message that a receive fetches for its client. -/
def TeeClient.fetches (a : ReadAnswer) (c : TeeClient) : Bytes :=
  if c.capacity = 0 ∧ a.ok = true then a.written c.maxMsgLen else []

/-- The bytes that are in the cache and were not delivered yet. -/
def TeeClient.cached (c : TeeClient) : Bytes := (c.buffer.drop c.currPos).take c.capacity

section History

variable {ι : Type} [DecidableEq ι] (w : PtrWidth)

/-- The history after a call. -/
def TeeOp.record : TeeOp ι → TeeState ι → StreamHistory → StreamHistory
  | .recv pInterface handle buffer length a, s, H =>
    match recvTarget w pInterface handle buffer length s with
    | none => H
    | some c => H.extend c.ptr (c.fetches a) (teelibRecv w pInterface handle buffer length a s).1.delivered
  | _, _, H => H

/-- What holds of the streams between calls. -/
structure StreamOk (s : TeeState ι) (H : StreamHistory) : Prop where
  inOrder : ∀ ptr, H.delivered ptr <+: H.fetched ptr
  nothingLost : ∀ c ∈ s.context.clientList, H.delivered c.ptr ++ c.cached = H.fetched c.ptr
  inside : ∀ c ∈ s.context.clientList, c.currPos + c.capacity ≤ c.maxMsgLen ∧ c.buffer.length = c.maxMsgLen

end History

/-! ### The cache -/

section Cache

variable {c : TeeClient} (a : ReadAnswer)

variable (len : UInt32)

end Cache

/-! ### One call -/

structure StreamInv {ι : Type} (s : TeeState ι) (H : StreamHistory) : Prop where
  ptrs : s.PtrInv
  inOrder : ∀ ptr, H.delivered ptr <+: H.fetched ptr
  nothingLost : ∀ c ∈ s.context.clientList, H.delivered c.ptr ++ c.cached = H.fetched c.ptr
  inside : ∀ c ∈ s.context.clientList, c.currPos + c.capacity ≤ c.maxMsgLen ∧ c.buffer.length = c.maxMsgLen
  /-- Nothing is recorded of clients that were not allocated yet. -/
  fresh : ∀ ptr, s.allocated ≤ ptr → H.fetched ptr = [] ∧ H.delivered ptr = []

section Step

variable {ι : Type} {w : PtrWidth} {s : TeeState ι} {H : StreamHistory}

theorem StreamInv.ok (h : StreamInv s H) : StreamOk s H := ⟨h.inOrder, h.nothingLost, h.inside⟩

theorem StreamInv.edit (h : StreamInv s H) {t : TeeState ι} (hedit : TeeEdit s t) : StreamInv t H := by
  have hptrs := h.ptrs.edit hedit
  cases hedit with
  | remove hlist hallocated =>
    exact ⟨hptrs, h.inOrder, fun c hc => h.nothingLost c (hlist.subset hc), fun c hc => h.inside c (hlist.subset hc),
      hallocated ▸ h.fresh⟩
  | add c hptr hempty hlist hallocated =>
    obtain ⟨hcapacity, hpos, hbuffer⟩ := hempty
    refine ⟨hptrs, h.inOrder, ?_, ?_, fun ptr hle => h.fresh ptr (by omega)⟩
    · rw [hlist, List.forall_mem_cons]
      refine ⟨?_, h.nothingLost⟩
      obtain ⟨hfetched, hdelivered⟩ := h.fresh c.ptr (Nat.le_of_eq hptr.symm)
      rw [hfetched, hdelivered, TeeClient.cached, hcapacity, List.take_zero, List.nil_append]
    · rw [hlist, List.forall_mem_cons]
      exact ⟨⟨by omega, hbuffer⟩, h.inside⟩

theorem mem_update {x : ClientContext} {c d : TeeClient} (h : d ∈ (x.update c).clientList) :
    d = c ∨ d ∈ x.clientList ∧ d.ptr ≠ c.ptr := by
  obtain ⟨d', hd', rfl⟩ := List.mem_map.1 h
  split_ifs with heq
  · exact .inl rfl
  · exact .inr ⟨hd', heq⟩

theorem StreamInv.update (h : StreamInv s H) {c c' : TeeClient} (hc : c ∈ s.context.clientList) (hptr : c'.ptr = c.ptr)
    {fetched delivered : Bytes} (hstream : delivered ++ c'.cached = c.cached ++ fetched)
    (hinside : c'.currPos + c'.capacity ≤ c'.maxMsgLen ∧ c'.buffer.length = c'.maxMsgLen) :
    StreamInv { s with context := s.context.update c' } (H.extend c.ptr fetched delivered) := by
  have hlost : (H.extend c.ptr fetched delivered).delivered c.ptr ++ c'.cached =
      (H.extend c.ptr fetched delivered).fetched c.ptr := by
    simp only [StreamHistory.extend, if_true]
    rw [List.append_assoc, hstream, ← List.append_assoc, h.nothingLost c hc]
  refine ⟨h.ptrs.update c', fun ptr => ?_, fun d hd => ?_, fun d hd => ?_, fun ptr hle => ?_⟩
  · by_cases hp : ptr = c.ptr
    · rw [hp, ← hlost]
      exact List.prefix_append _ _
    · simp only [StreamHistory.extend, if_neg hp]
      exact h.inOrder ptr
  · rcases mem_update hd with rfl | ⟨hd, hne⟩
    · rw [hptr]
      exact hlost
    · simp only [StreamHistory.extend, if_neg (hptr ▸ hne : d.ptr ≠ c.ptr)]
      exact h.nothingLost d hd
  · rcases mem_update hd with rfl | ⟨hd, -⟩
    · exact hinside
    · exact h.inside d hd
  · have hlt := h.ptrs.allocated c hc
    have hp : ptr ≠ c.ptr := fun heq => absurd hle (by simp only [heq]; omega)
    simp only [StreamHistory.extend, if_neg hp]
    exact h.fresh ptr hle

variable [DecidableEq ι]

end Step

end DalHost

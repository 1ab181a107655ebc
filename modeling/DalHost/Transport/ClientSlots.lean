import Mathlib.Data.List.Range
import Mathlib.Data.List.Perm.Basic

/-!
# The client slots of the command server

`waitForRequests`, `startClientSession` and the end of `ClientSessionThread`: a permit of the semaphore
is taken before `accept` and given back by whoever ends the connection. A run is a list of events,
in any order in which the accept loop and the client threads can make them; connections are numbered
as they are accepted.
-/

namespace DalHost

/-- `JHI_MAX_CLIENTS_CONNECTIONS`. -/
def jhiMaxClientsConnections : Nat := 10

/-- Where the accept loop is. -/
inductive LoopPc
  | acquiring
  /-- The permit is taken; `accept` is called. -/
  | accepting
  /-- In `startClientSession`, before the parameters are allocated. -/
  | allocating (socket : Nat)
  | creating (socket : Nat)
  /-- The loop was left. -/
  | stopped
  deriving DecidableEq

/-- A client thread; `isOpen` until it has closed its socket. -/
structure ClientThread where
  socket : Nat
  isOpen : Bool
  deriving DecidableEq

structure ClientSlots where
  permits : Nat
  loop : LoopPc
  threads : List ClientThread
  /-- How many connections were accepted. -/
  accepted : Nat
  closed : List Nat
  deriving DecidableEq

inductive SlotEvent
  | acquire
  | accept
  | acceptFails
  | alloc
  | allocFails
  | create
  | createFails
  /-- The thread at this place in the list has done what it could and closes its socket. -/
  | close (i : Nat)
  /-- It releases its permit and ends. -/
  | finish (i : Nat)
  deriving DecidableEq

def ClientSlots.start : ClientSlots := ⟨jhiMaxClientsConnections, .acquiring, [], 0, []⟩

/-- One event; `none` if it cannot happen. -/
def slotStep (s : ClientSlots) : SlotEvent → Option ClientSlots
  | .acquire =>
    if s.loop = .acquiring ∧ 0 < s.permits then some { s with permits := s.permits - 1, loop := .accepting } else none
  | .accept =>
    if s.loop = .accepting then some { s with loop := .allocating s.accepted, accepted := s.accepted + 1 } else none
  | .acceptFails =>
    if s.loop = .accepting then some { s with permits := s.permits + 1, loop := .stopped } else none
  | .alloc =>
    match s.loop with
    | .allocating socket => some { s with loop := .creating socket }
    | _ => none
  | .allocFails =>
    match s.loop with
    -- the permit is released, the socket is not closed
    | .allocating _ => some { s with permits := s.permits + 1, loop := .acquiring }
    | _ => none
  | .create =>
    match s.loop with
    | .creating socket => some { s with threads := s.threads ++ [⟨socket, true⟩], loop := .acquiring }
    | _ => none
  | .createFails =>
    match s.loop with
    -- the failure is traced, and that is all
    | .creating _ => some { s with loop := .acquiring }
    | _ => none
  | .close i =>
    match s.threads[i]? with
    | some ⟨socket, true⟩ => some { s with threads := s.threads.set i ⟨socket, false⟩, closed := s.closed ++ [socket] }
    | _ => none
  | .finish i =>
    match s.threads[i]? with
    | some ⟨_, false⟩ => some { s with threads := s.threads.eraseIdx i, permits := s.permits + 1 }
    | _ => none

/-- The server after a list of events. -/
def slotRun (s : ClientSlots) : List SlotEvent → Option ClientSlots
  | [] => some s
  | e :: es => (slotStep s e).bind fun t => slotRun t es

/-! ### Conservation -/

namespace LoopPc

/-- The connections between `Acquire` and the start of their thread. -/
def pending : LoopPc → Nat
  | accepting | allocating _ | creating _ => 1
  | acquiring | stopped => 0

/-- The socket in the hands of the loop. -/
def socket : LoopPc → List Nat
  | allocating socket | creating socket => [socket]
  | acquiring | accepting | stopped => []

end LoopPc

namespace ClientSlots

/-- The sockets of live threads that have not closed them. -/
def served (s : ClientSlots) : List Nat := (s.threads.filter ClientThread.isOpen).map ClientThread.socket

/-- Whoever has the accepted connections: the loop, a live thread, or nobody since they are closed. -/
def holders (s : ClientSlots) : List Nat := s.loop.socket ++ s.served ++ s.closed

/-- Every permit is free, with a live thread or with a connection that is being accepted, and every accepted socket has
exactly one holder. -/
structure Conserved (s : ClientSlots) : Prop where
  permits : s.permits + s.threads.length + s.loop.pending = jhiMaxClientsConnections
  sockets : s.holders.Perm (List.range s.accepted)

end ClientSlots

/-- The events that lose a permit or a socket. -/
def SlotEvent.loses : SlotEvent → Bool
  | allocFails | createFails => true
  | _ => false

theorem split_of_getElem? {α : Type} {l : List α} {i : Nat} {a : α} (h : l[i]? = some a) :
    ∃ l₁ l₂, l = l₁ ++ a :: l₂ ∧ (∀ b, l.set i b = l₁ ++ b :: l₂) ∧ l.eraseIdx i = l₁ ++ l₂ := by
  obtain ⟨hlt, rfl⟩ := List.getElem?_eq_some_iff.1 h
  refine ⟨l.take i, l.drop (i + 1), ?_, fun b => ?_, List.eraseIdx_eq_take_drop_succ l i⟩
  · rw [← List.drop_eq_getElem_cons hlt, List.take_append_drop]
  · rw [List.set_eq_take_append_cons_drop, if_pos hlt]

/-- What one event does to the permits and to the holders of the sockets. -/
structure SlotChange (s : ClientSlots) (e : SlotEvent) (t : ClientSlots) : Prop where
  permits : t.permits + t.threads.length + t.loop.pending + (e = .createFails : Bool).toNat =
    s.permits + s.threads.length + s.loop.pending
  holders : t.holders.length + e.loses.toNat + s.accepted = s.holders.length + t.accepted
  sockets : e.loses = false → s.holders.Perm (List.range s.accepted) → t.holders.Perm (List.range t.accepted)

theorem length_perm_change {s t : ClientSlots} {e : SlotEvent} (hlose : e.loses = false)
    (haccepted : t.accepted = s.accepted) (hperm : t.holders.Perm s.holders)
    (hpermits : t.permits + t.threads.length + t.loop.pending + (e = .createFails : Bool).toNat =
      s.permits + s.threads.length + s.loop.pending) : SlotChange s e t where
  permits := hpermits
  holders := by
    rw [hlose, haccepted, hperm.length_eq]
    rfl
  sockets := fun _ hs => haccepted ▸ hperm.trans hs

theorem slotChange {s t : ClientSlots} {e : SlotEvent} (h : slotStep s e = some t) : SlotChange s e t := by
  obtain ⟨permits, loop, threads, accepted, closed⟩ := s
  cases e with
  | acquire =>
    simp only [slotStep] at h
    split_ifs at h with hcond
    obtain ⟨rfl, hpos⟩ := hcond
    cases h
    refine length_perm_change rfl rfl (.refl _) ?_
    simp [LoopPc.pending]
    omega
  | accept =>
    simp only [slotStep] at h
    split_ifs at h with hcond
    subst hcond
    cases h
    refine ⟨rfl, ?_, fun _ hs => ?_⟩
    · simp [ClientSlots.holders, ClientSlots.served, LoopPc.socket, SlotEvent.loses]
      omega
    · rw [List.range_succ]
      exact (List.Perm.cons accepted hs).trans (List.perm_append_singleton accepted _).symm
  | acceptFails =>
    simp only [slotStep] at h
    split_ifs at h with hcond
    subst hcond
    cases h
    refine length_perm_change rfl rfl (.refl _) ?_
    simp [LoopPc.pending]
    omega
  | alloc =>
    simp only [slotStep] at h
    cases loop with
    | allocating socket =>
      cases h
      exact length_perm_change rfl rfl (.refl _) rfl
    | acquiring | accepting | creating | stopped => cases h
  | allocFails =>
    simp only [slotStep] at h
    cases loop with
    | allocating socket =>
      cases h
      refine ⟨?_, ?_, fun hlose => by cases hlose⟩
      · simp [LoopPc.pending]
        omega
      · simp [ClientSlots.holders, ClientSlots.served, LoopPc.socket, SlotEvent.loses]
    | acquiring | accepting | creating | stopped => cases h
  | create =>
    simp only [slotStep] at h
    cases loop with
    | creating socket =>
      cases h
      refine length_perm_change rfl rfl ?_ ?_
      · simp only [ClientSlots.holders, ClientSlots.served, LoopPc.socket, List.filter_append, List.map_append]
        have hnew : ([⟨socket, true⟩] : List ClientThread).filter ClientThread.isOpen = [⟨socket, true⟩] := rfl
        rw [hnew, List.nil_append]
        exact (List.perm_append_comm).append_right closed
      · simp [LoopPc.pending]
        omega
    | acquiring | accepting | allocating | stopped => cases h
  | createFails =>
    simp only [slotStep] at h
    cases loop with
    | creating socket =>
      cases h
      refine ⟨by simp [LoopPc.pending], ?_, fun hlose => by cases hlose⟩
      simp [ClientSlots.holders, ClientSlots.served, LoopPc.socket, SlotEvent.loses]
    | acquiring | accepting | allocating | stopped => cases h
  | close i =>
    simp only [slotStep] at h
    split at h
    · rename_i socket hthread
      cases h
      obtain ⟨l₁, l₂, rfl, hset, -⟩ := split_of_getElem? hthread
      refine length_perm_change rfl rfl ?_ ?_
      · -- the socket moves from the thread to the closed ones
        simp only [ClientSlots.holders, ClientSlots.served, hset, List.filter_append, List.filter_cons, List.map_append,
          List.map_cons, if_true, Bool.false_eq_true, if_false, List.append_assoc]
        refine List.Perm.append_left _ (List.Perm.append_left _ ?_)
        exact ((List.perm_append_comm).append_left _).trans List.perm_middle
      · simp [hset]
    · cases h
  | finish i =>
    simp only [slotStep] at h
    split at h
    · rename_i socket hthread
      cases h
      obtain ⟨l₁, l₂, rfl, -, herase⟩ := split_of_getElem? hthread
      refine length_perm_change rfl rfl ?_ ?_
      · simp [ClientSlots.holders, ClientSlots.served, herase]
      · simp [herase]
        omega
    · cases h

/-! ### Runs -/

theorem slotRun_permits {s t : ClientSlots} {es : List SlotEvent} (h : slotRun s es = some t) :
    t.permits + t.threads.length + t.loop.pending + es.count .createFails = s.permits + s.threads.length + s.loop.pending := by
  induction es generalizing s with
  | nil =>
    cases h
    rfl
  | cons e es ih =>
    obtain ⟨u, hu, hrun⟩ := Option.bind_eq_some_iff.1 h
    have hstep := (slotChange hu).permits
    have hrest := ih hrun
    rw [List.count_cons]
    by_cases he : e = .createFails
    · subst he
      simp only [decide_true, Bool.toNat_true] at hstep
      rw [if_pos (by decide)]
      omega
    · simp only [he, decide_false, Bool.toNat_false] at hstep
      rw [if_neg (by simpa using he)]
      omega

theorem slotRun_holders {s t : ClientSlots} {es : List SlotEvent} (h : slotRun s es = some t) :
    t.holders.length + es.countP SlotEvent.loses + s.accepted = s.holders.length + t.accepted := by
  induction es generalizing s with
  | nil =>
    cases h
    rfl
  | cons e es ih =>
    obtain ⟨u, hu, hrun⟩ := Option.bind_eq_some_iff.1 h
    have hstep := (slotChange hu).holders
    have hrest := ih hrun
    rw [List.countP_cons]
    cases he : e.loses with
    | false =>
      simp only [he, Bool.toNat_false] at hstep
      rw [if_neg (by decide)]
      omega
    | true =>
      simp only [he, Bool.toNat_true] at hstep
      rw [if_pos rfl]
      omega

theorem slotRun_sockets {s t : ClientSlots} {es : List SlotEvent} (h : slotRun s es = some t)
    (hkeep : ∀ e ∈ es, e.loses = false) (hs : s.holders.Perm (List.range s.accepted)) :
    t.holders.Perm (List.range t.accepted) := by
  induction es generalizing s with
  | nil =>
    cases h
    exact hs
  | cons e es ih =>
    obtain ⟨u, hu, hrun⟩ := Option.bind_eq_some_iff.1 h
    have hu' := (slotChange hu).sockets (hkeep e List.mem_cons_self) hs
    exact ih hrun (fun e' he' => hkeep e' (List.mem_cons_of_mem e he')) hu'

/-- **Slots.** After every run, the permits add up and every accepted socket has exactly one holder if and only if no
allocation of parameters and no creation of a thread has failed in it. -/
theorem client_slots_conserved_iff {s : ClientSlots} {es : List SlotEvent} (h : slotRun .start es = some s) :
    s.Conserved ↔ ∀ e ∈ es, e ≠ .allocFails ∧ e ≠ .createFails := by
  have hloses : (∀ e ∈ es, e ≠ .allocFails ∧ e ≠ .createFails) ↔ ∀ e ∈ es, e.loses = false := by
    refine forall_congr' fun e => imp_congr_right fun _ => ?_
    cases e <;> simp [SlotEvent.loses]
  rw [hloses]
  constructor
  · intro hs
    -- a lost socket is missing in the count of the holders
    have hcount := slotRun_holders h
    have hlen := hs.sockets.length_eq
    rw [List.length_range] at hlen
    have hstart : ClientSlots.start.holders.length = 0 ∧ ClientSlots.start.accepted = 0 := ⟨rfl, rfl⟩
    have hzero : es.countP SlotEvent.loses = 0 := by omega
    rw [List.countP_eq_zero] at hzero
    intro e he
    exact Bool.eq_false_iff.2 (hzero e he)
  · intro hkeep
    refine ⟨?_, slotRun_sockets h hkeep (.refl _)⟩
    have hpermits := slotRun_permits h
    have hnone : es.count .createFails = 0 := by
      rw [List.count_eq_zero]
      intro hmem
      exact absurd (hkeep _ hmem) (by decide)
    have hstart : ClientSlots.start.permits + ClientSlots.start.threads.length + ClientSlots.start.loop.pending =
        jhiMaxClientsConnections := rfl
    omega

/-- A client is accepted, served and goes. -/
def oneClient : List SlotEvent := [.acquire, .accept, .alloc, .create, .close 0, .finish 0]

/-- The theorem at a run with one client. -/
theorem client_slots_conserved_iff_oneClient : slotRun .start oneClient = some ⟨10, .acquiring, [], 1, [0]⟩ ∧
    (ClientSlots.Conserved ⟨10, .acquiring, [], 1, [0]⟩ ↔ ∀ e ∈ oneClient, e ≠ .allocFails ∧ e ≠ .createFails) :=
  ⟨by decide, client_slots_conserved_iff (by decide)⟩

/-- Ten threads that cannot be created take all permits with them, while nobody is served and ten sockets stay open. -/
theorem client_slots_exhausted :
    slotRun .start (List.replicate 10 [.acquire, .accept, .alloc, .createFails]).flatten = some ⟨0, .acquiring, [], 10, []⟩ ∧
    ¬ClientSlots.Conserved ⟨0, .acquiring, [], 10, []⟩ ∧ slotStep ⟨0, .acquiring, [], 10, []⟩ .acquire = none := by
  refine ⟨by decide, fun h => ?_, by decide⟩
  exact absurd h.permits (by decide)

end DalHost

import DalHost.Lib.Sections
import DalHost.Transport.TeeLib

/-!
# Threads in the registry of TeeLib clients

`RegisterClient`, `UnregisterClient` and `GetClientByHandle` access by access, as threads of a build for another
platform than Windows execute them: there `TEEMutexLock` calls `pthread_mutex_unlock`, and so nobody waits. The accesses are
related to the functions on the list, and `registry_threads_iff` says when threads are kept apart.
-/

namespace DalHost

/-! ### Memory -/

/-- The fields of the context and of the clients; the mutex is taken or not. -/
structure RegMem where
  clientList : Option Nat
  clientCount : Nat
  internalCounter : UInt32
  pNext : Nat → Option Nat
  handle : Nat → Nat
  locked : Bool

namespace RegMem

def setNext (m : RegMem) (p : Nat) (q : Option Nat) : RegMem := { m with pNext := fun i => if i = p then q else m.pNext i }

def setHandle (m : RegMem) (p h : Nat) : RegMem := { m with handle := fun i => if i = p then h else m.handle i }

/-- `pthread_mutex_unlock`, which both `TEEMutexLock` and `TEEMutexUnlock` call. -/
def mutexUnlock (m : RegMem) : RegMem := { m with locked := false }

end RegMem

/-! ### Programs -/

/-- A call: the new client and whether its buffer could be allocated, or a handle. -/
inductive RegOp
  | register (p : Nat) (bufferAllocated : Bool)
  | unregister (handle : Nat)
  | get (handle : Nat)
  deriving DecidableEq

/-- The next access of a thread between `TEEMutexLock` and the end of `TEEMutexUnlock`. -/
inductive RegPc
  /-- `client_count++`, and so on down to the list head. -/
  | readCount (p : Nat)
  | writeCount (p v : Nat)
  | readCounter (p : Nat)
  | writeCounter (p : Nat) (v : UInt32)
  | compareCounter (p : Nat)
  | readCounterAgain (p : Nat)
  | writeCounterAgain (p : Nat) (v : UInt32)
  | readCounterValue (p : Nat)
  | writeHandle (p : Nat) (v : UInt32)
  | testList (p : Nat)
  | writeFirst (p : Nat)
  | readList (p : Nat)
  | writeNext (p : Nat) (q : Option Nat)
  | writeList (p : Nat)
  /-- The test of the list and the loop of `UnregisterClient`. -/
  | testUnlist (h : Nat)
  | firstUnlist (h : Nat)
  | compareHandle (h : Nat) (prev : Option Nat) (cur : Nat)
  | readDecrement (prev : Option Nat) (cur : Nat)
  | writeDecrement (prev : Option Nat) (cur v : Nat)
  | readUnlink (prev : Option Nat) (cur : Nat)
  | writeUnlink (prev q : Option Nat)
  | advance (h cur : Nat)
  /-- The loop of `GetClientByHandle`. -/
  | firstGet (h : Nat)
  | compareGet (h cur : Nat)
  | advanceGet (h cur : Nat)
  | unlock

namespace RegPc

variable (w : PtrWidth)

/-- The loop of `UnregisterClient` at the next client. -/
def unlistAt (h : Nat) (prev : Option Nat) : Option Nat → RegPc
  | some cur => compareHandle h prev cur
  | none => unlock

def getAt (h : Nat) : Option Nat → RegPc
  | some cur => compareGet h cur
  | none => unlock

/-- One access. -/
def step : RegPc → RegMem → Option RegPc × RegMem
  | readCount p, m => (some (writeCount p m.clientCount), m)
  | writeCount p v, m => (some (readCounter p), { m with clientCount := (v + 1) % w.modulus })
  | readCounter p, m => (some (writeCounter p m.internalCounter), m)
  | writeCounter p v, m => (some (compareCounter p), { m with internalCounter := v + 1 })
  | compareCounter p, m =>
    (some (if m.internalCounter.toNat = w.invalidHandleValue then readCounterAgain p else readCounterValue p), m)
  | readCounterAgain p, m => (some (writeCounterAgain p m.internalCounter), m)
  | writeCounterAgain p v, m => (some (readCounterValue p), { m with internalCounter := v + 1 })
  | readCounterValue p, m => (some (writeHandle p m.internalCounter), m)
  | writeHandle p v, m => (some (testList p), m.setHandle p v.toNat)
  | testList p, m => (some (if m.clientList = none then writeFirst p else readList p), m)
  | writeFirst p, m => (some unlock, { m with clientList := some p })
  | readList p, m => (some (writeNext p m.clientList), m)
  | writeNext p q, m => (some (writeList p), m.setNext p q)
  | writeList p, m => (some unlock, { m with clientList := some p })
  | testUnlist h, m => (some (if m.clientList = none then unlock else firstUnlist h), m)
  | firstUnlist h, m => (some (unlistAt h none m.clientList), m)
  | compareHandle h prev cur, m => (some (if m.handle cur = h then readDecrement prev cur else advance h cur), m)
  | readDecrement prev cur, m => (some (writeDecrement prev cur m.clientCount), m)
  | writeDecrement prev cur v, m => (some (readUnlink prev cur), { m with clientCount := (v + w.modulus - 1) % w.modulus })
  | readUnlink prev cur, m => (some (writeUnlink prev (m.pNext cur)), m)
  | writeUnlink none q, m => (some unlock, { m with clientList := q })
  | writeUnlink (some prev) q, m => (some unlock, m.setNext prev q)
  | advance h cur, m => (some (unlistAt h (some cur) (m.pNext cur)), m)
  | firstGet h, m => (some (getAt h m.clientList), m)
  | compareGet h cur, m => (some (if m.handle cur = h then unlock else advanceGet h cur), m)
  | advanceGet h cur, m => (some (getAt h (m.pNext cur)), m)
  | unlock, m => (none, m.mutexUnlock)

end RegPc

/-- The three functions: what they check first, and the access after `TEEMutexLock`. -/
def RegOp.enter (w : PtrWidth) : RegOp → Option RegPc
  | register p bufferAllocated => if bufferAllocated then some (.readCount p) else none
  | unregister h => if h = w.invalidHandleValue then none else some (.testUnlist h)
  | get h => if h = w.invalidHandleValue then none else some (.firstGet h)

def registrySection (w : PtrWidth) : Section RegOp RegPc RegMem := ⟨RegOp.enter w, RegMem.mutexUnlock, RegPc.step w⟩

/-- The operation, on the registry as a list. -/
def RegOp.apply (w : PtrWidth) : RegOp → ClientContext → ClientContext
  | register p bufferAllocated, x => (registerClient w bufferAllocated ⟨p, 0, 0, 0, 0, []⟩ x).2.2
  | unregister h, x => (unregisterClient w h x).2.2
  | get _, x => x

/-! ### Chains -/

/-- The clients are linked in this order, from here to there. -/
def Chain (m : RegMem) : Option Nat → List TeeClient → Option Nat → Prop
  | p, [], q => p = q
  | p, c :: l, q => p = some c.ptr ∧ m.handle c.ptr = c.handle ∧ Chain m (m.pNext c.ptr) l q

section Chain

variable {m : RegMem} {p q r : Option Nat} {l l' : List TeeClient}

theorem chain_append : Chain m p (l ++ l') r ↔ ∃ q, Chain m p l q ∧ Chain m q l' r := by
  induction l generalizing p with
  | nil => simp [Chain]
  | cons c l ih =>
    simp only [List.cons_append, Chain, ih]
    constructor
    · rintro ⟨hp, hh, q, hq, hr⟩
      exact ⟨q, ⟨hp, hh, hq⟩, hr⟩
    · rintro ⟨q, ⟨hp, hh, hq⟩, hr⟩
      exact ⟨hp, hh, q, hq, hr⟩

theorem chain_congr (m m' : RegMem) (hnext : ∀ c ∈ l, m'.pNext c.ptr = m.pNext c.ptr)
    (hhandle : ∀ c ∈ l, m'.handle c.ptr = m.handle c.ptr) : Chain m' p l q ↔ Chain m p l q := by
  induction l generalizing p with
  | nil => rfl
  | cons c l ih =>
    rw [List.forall_mem_cons] at hnext hhandle
    simp only [Chain, hnext.1, hhandle.1, ih hnext.2 hhandle.2]

theorem chain_of_same {m' : RegMem} (h : Chain m p l q) (hnext : m'.pNext = m.pNext) (hhandle : m'.handle = m.handle) :
    Chain m' p l q := (chain_congr m m' (fun _ _ => by rw [hnext]) fun _ _ => by rw [hhandle]).2 h

theorem chain_setNext (h : Chain m p l q) {i : Nat} (hi : i ∉ l.map TeeClient.ptr) (v : Option Nat) : Chain (m.setNext i v) p l q := by
  have hnext : ∀ c ∈ l, (m.setNext i v).pNext c.ptr = m.pNext c.ptr := by
    intro c hc
    refine if_neg ?_
    rintro rfl
    exact hi (List.mem_map_of_mem hc)
  exact (chain_congr m (m.setNext i v) hnext fun _ _ => rfl).2 h

end Chain

/-! ### One operation alone -/

/-- The registry in memory is this one. -/
structure InMemory (m : RegMem) (x : ClientContext) : Prop where
  chain : Chain m m.clientList x.clientList none
  count : m.clientCount = x.clientCount
  counter : m.internalCounter = x.internalCounter
  ptrs : (x.clientList.map TeeClient.ptr).Nodup
  mutex : x.clientMutex = true

section Alone

variable {w : PtrWidth} {m : RegMem} {x : ClientContext}

theorem finishes_counter {p : Nat} {m' : RegMem}
    (h : Finishes (registrySection w) (.testList p)
      ({ m with clientCount := (m.clientCount + 1) % w.modulus, internalCounter := nextCounter w m.internalCounter }.setHandle p
        (nextCounter w m.internalCounter).toNat) m') :
    Finishes (registrySection w) (.readCount p) m m' := by
  unfold nextCounter at h
  by_cases hskip : (m.internalCounter + 1).toNat = w.invalidHandleValue
  · rw [if_pos hskip] at h
    exact .move rfl (.move rfl (.move rfl (.move rfl (.move (congrArg some (if_pos hskip))
      (.move rfl (.move rfl (.move rfl (.move rfl h))))))))
  · rw [if_neg hskip] at h
    exact .move rfl (.move rfl (.move rfl (.move rfl (.move (congrArg some (if_neg hskip)) (.move rfl (.move rfl h))))))

theorem InMemory.mutexUnlock (h : InMemory m x) : InMemory m.mutexUnlock x where
  chain := chain_of_same h.chain rfl rfl
  count := h.count
  counter := h.counter
  ptrs := h.ptrs
  mutex := h.mutex

theorem finishes_register (h : InMemory m x) {p : Nat} (hp : p ∉ x.clientList.map TeeClient.ptr) (hnext : m.pNext p = none) :
    ∃ m', Finishes (registrySection w) (.readCount p) m m' ∧ InMemory m' (RegOp.apply w (.register p true) x) ∧
      ∀ i, i ≠ p → m'.pNext i = m.pNext i := by
  have happly : RegOp.apply w (.register p true) x =
      { x with clientCount := (x.clientCount + 1) % w.modulus, internalCounter := nextCounter w x.internalCounter,
               clientList := ⟨p, (nextCounter w x.internalCounter).toNat, 0, 0, 0, []⟩ :: x.clientList } := by
    simp only [RegOp.apply, registerClient, h.mutex, Bool.not_true, Bool.false_eq_true, if_false]
    rfl
  -- the memory with the new client in front, however its link was written
  have hdone : ∀ m' : RegMem, m'.clientList = some p → m'.clientCount = (m.clientCount + 1) % w.modulus →
      m'.internalCounter = nextCounter w m.internalCounter → m'.handle p = (nextCounter w m.internalCounter).toNat →
      m'.pNext p = m.clientList → (∀ i, i ≠ p → m'.pNext i = m.pNext i ∧ m'.handle i = m.handle i) →
      InMemory m' (RegOp.apply w (.register p true) x) := by
    intro m' hlist hcount hcounter hhandle hpnext hothers
    have hne : ∀ c ∈ x.clientList, c.ptr ≠ p := by
      rintro c hc rfl
      exact hp (List.mem_map_of_mem hc)
    rw [happly]
    refine ⟨⟨hlist, ?_, ?_⟩, ?_, ?_, List.nodup_cons.2 ⟨hp, h.ptrs⟩, h.mutex⟩
    · rw [hhandle, h.counter]
    · rw [hpnext]
      exact (chain_congr m m' (fun c hc => (hothers c.ptr (hne c hc)).1) fun c hc => (hothers c.ptr (hne c hc)).2).2 h.chain
    · rw [hcount, h.count]
    · rw [hcounter, h.counter]
  by_cases hempty : m.clientList = none
  · refine ⟨_, finishes_counter (.move (congrArg some (if_pos hempty)) (.move rfl (.leave rfl))), hdone _ rfl rfl rfl (if_pos rfl) ?_ ?_, ?_⟩
    · rw [hempty]
      exact hnext
    · exact fun i hi => ⟨rfl, if_neg hi⟩
    · exact fun i hi => rfl
  · refine ⟨_, finishes_counter (.move (congrArg some (if_neg hempty)) (.move rfl (.move rfl (.move rfl (.leave rfl))))),
      hdone _ rfl rfl rfl (if_pos rfl) (if_pos rfl) ?_, ?_⟩
    · exact fun i hi => ⟨if_neg hi, if_neg hi⟩
    · exact fun i hi => if_neg hi

theorem finishes_getAt (h : Nat) {l : List TeeClient} {q : Option Nat} (hchain : Chain m q l none) :
    Finishes (registrySection w) (.getAt h q) m m.mutexUnlock := by
  induction l generalizing q with
  | nil =>
    rw [show q = none from hchain]
    exact .leave rfl
  | cons c l ih =>
    obtain ⟨rfl, hhandle, hrest⟩ := hchain
    by_cases heq : c.handle = h
    · exact .move (congrArg some (if_pos (hhandle.trans heq))) (.leave rfl)
    · exact .move (congrArg some (if_neg fun hc => heq (hhandle.symm.trans hc))) (.move rfl (ih hrest))

theorem chain_relink {pre : List TeeClient} {d : TeeClient} {p q : Option Nat} (hchain : Chain m p (pre ++ [d]) q)
    (hnodup : ((pre ++ [d]).map TeeClient.ptr).Nodup) (v : Option Nat) : Chain (m.setNext d.ptr v) p (pre ++ [d]) v := by
  rw [List.map_append, List.nodup_append] at hnodup
  obtain ⟨r, hpre, hd⟩ := chain_append.1 hchain
  obtain ⟨hr, hhandle, -⟩ := hd
  refine chain_append.2 ⟨r, chain_setNext hpre (fun hmem => ?_) v, hr, hhandle, if_pos rfl⟩
  exact hnodup.2.2 _ hmem _ (List.mem_singleton.2 rfl) rfl

theorem finishes_unlinkFirst {h cur : Nat} (hhandle : m.handle cur = h) :
    Finishes (registrySection w) (.compareHandle h none cur) m
      { m with clientCount := (m.clientCount + w.modulus - 1) % w.modulus, clientList := m.pNext cur, locked := false } :=
  .move (congrArg some (if_pos hhandle)) (.move rfl (.move rfl (.move rfl (.move rfl (.leave rfl)))))

theorem finishes_unlinkNext {h prev cur : Nat} (hhandle : m.handle cur = h) :
    Finishes (registrySection w) (.compareHandle h (some prev) cur) m
      { m.setNext prev (m.pNext cur) with
        clientCount := (m.clientCount + w.modulus - 1) % w.modulus, locked := false } :=
  .move (congrArg some (if_pos hhandle)) (.move rfl (.move rfl (.move rfl (.move rfl (.leave rfl)))))

theorem finishes_unlistAt (h : Nat) {pre rest : List TeeClient} {prev q : Option Nat} (hpre : Chain m m.clientList pre q)
    (hrest : Chain m q rest none) (hprev : prev = pre.getLast?.map TeeClient.ptr)
    (hnodup : ((pre ++ rest).map TeeClient.ptr).Nodup) :
    ∃ m', Finishes (registrySection w) (.unlistAt h prev q) m m' ∧
      Chain m' m'.clientList (pre ++ (unlinkClient h rest).2) none ∧
      m'.clientCount = (if (unlinkClient h rest).1.isSome then (m.clientCount + w.modulus - 1) % w.modulus else m.clientCount) ∧
      m'.internalCounter = m.internalCounter ∧ ∀ i, i ∉ (pre ++ rest).map TeeClient.ptr → m'.pNext i = m.pNext i := by
  induction rest generalizing pre prev q with
  | nil =>
    rw [show q = none from hrest] at hpre ⊢
    refine ⟨m.mutexUnlock, .leave rfl, ?_, rfl, rfl, fun _ _ => rfl⟩
    rw [unlinkClient, List.append_nil]
    exact chain_of_same hpre rfl rfl
  | cons c rest ih =>
    obtain ⟨rfl, hhandle, hrest⟩ := hrest
    unfold unlinkClient
    by_cases heq : c.handle = h
    · -- the client is unlinked
      rw [if_pos heq]
      rcases List.eq_nil_or_concat pre with rfl | ⟨pre, d, hconcat⟩
      · rw [show prev = none from hprev]
        refine ⟨_, finishes_unlinkFirst (hhandle.trans heq), ?_, rfl, rfl, fun _ _ => rfl⟩
        exact chain_of_same hrest rfl rfl
      · rw [List.concat_eq_append] at hconcat
        subst hconcat
        have hlast : prev = some d.ptr := by
          rw [hprev]
          simp
        rw [List.map_append, List.nodup_append] at hnodup
        obtain ⟨hnodup, -, hdisjoint⟩ := hnodup
        have hd : d.ptr ∈ (pre ++ [d]).map TeeClient.ptr := by simp
        have hdrest : d.ptr ∉ rest.map TeeClient.ptr := fun hmem => hdisjoint _ hd _ (List.mem_cons_of_mem _ hmem) rfl
        rw [hlast]
        refine ⟨_, finishes_unlinkNext (hhandle.trans heq), ?_, rfl, rfl, fun i hi => if_neg ?_⟩
        · have hchain : Chain (m.setNext d.ptr (m.pNext c.ptr)) m.clientList (pre ++ [d] ++ rest) none :=
            chain_append.2 ⟨m.pNext c.ptr, chain_relink hpre hnodup _, chain_setNext hrest hdrest _⟩
          exact chain_of_same hchain rfl rfl
        · rintro rfl
          refine hi ?_
          rw [List.map_append]
          exact List.mem_append_left _ hd
    · rw [if_neg heq]
      have hstep : Chain m m.clientList (pre ++ [c]) (m.pNext c.ptr) := chain_append.2 ⟨some c.ptr, hpre, rfl, hhandle, rfl⟩
      obtain ⟨m', hfin, hchain, hcount, hcounter, hothers⟩ := @ih (pre ++ [c]) (some c.ptr) (m.pNext c.ptr) hstep hrest
        (by simp) (by simpa using hnodup)
      refine ⟨m', .move (congrArg some (if_neg fun hc => heq (hhandle.symm.trans hc))) (.move rfl hfin), ?_, hcount, hcounter, ?_⟩
      · simpa using hchain
      · simpa using hothers

theorem finishes_unregister (h : InMemory m x) {handle : Nat} (hvalid : handle ≠ w.invalidHandleValue) :
    ∃ m', Finishes (registrySection w) (.testUnlist handle) m m' ∧ InMemory m' (RegOp.apply w (.unregister handle) x) ∧
      ∀ i, i ∉ x.clientList.map TeeClient.ptr → m'.pNext i = m.pNext i := by
  have happly : RegOp.apply w (.unregister handle) x =
      { x with clientList := (unlinkClient handle x.clientList).2,
               clientCount := if (unlinkClient handle x.clientList).1.isSome then (x.clientCount + w.modulus - 1) % w.modulus
                 else x.clientCount } := by
    simp only [RegOp.apply, unregisterClient, if_neg hvalid, h.mutex, Bool.not_true, Bool.false_eq_true, if_false]
  obtain ⟨m', hfin, hchain, hcount, hcounter, hothers⟩ :=
    @finishes_unlistAt w m handle [] x.clientList none m.clientList rfl h.chain rfl h.ptrs
  have hstart : Finishes (registrySection w) (.testUnlist handle) m m' := by
    by_cases hempty : m.clientList = none
    · rw [hempty] at hfin
      exact .move (congrArg some (if_pos hempty)) hfin
    · exact .move (congrArg some (if_neg hempty)) (.move rfl hfin)
  refine ⟨m', hstart, ?_, hothers⟩
  rw [happly]
  refine ⟨hchain, ?_, hcounter.trans h.counter, ((unlinkClient_sublist _ _).map _).nodup h.ptrs, h.mutex⟩
  rw [hcount, h.count]

end Alone

/-! ### Threads -/

/-- The client that an operation registers. -/
def RegOp.client : RegOp → Option Nat
  | register p _ => some p
  | _ => none

/-- A registry and the calls of some threads. Every `RegisterClient` gets a client of its own, which is not linked yet
(`NewClient`). -/
structure RegistryThreads (τ : Type) where
  w : PtrWidth
  context : ClientContext
  mem : RegMem
  inMemory : InMemory mem context
  programs : τ → List RegOp
  fresh : ∀ t, ∀ op ∈ programs t, ∀ p, op.client = some p → p ∉ context.clientList.map TeeClient.ptr ∧ mem.pNext p = none
  distinct : ∀ t, ((programs t).filterMap RegOp.client).Nodup
  apart : ∀ t u p, p ∈ (programs t).filterMap RegOp.client → p ∈ (programs u).filterMap RegOp.client → t = u

/-- The operations in this order, on the registry as a list. -/
def applyOrder {τ : Type} (w : PtrWidth) (order : List (τ × RegOp)) (x : ClientContext) : ClientContext :=
  order.foldl (fun x e => e.2.apply w x) x

namespace RegistryThreads

variable {τ : Type} [DecidableEq τ] (C : RegistryThreads τ)

/-- The memory is what the operations leave in this order, and the clients that are still to be registered are not linked. -/
structure Explained (m : RegMem) (order : List (τ × RegOp)) : Prop where
  inMemory : InMemory m (applyOrder C.w order C.context)
  fresh : ∀ t, ∀ op ∈ C.programs t, ∀ p, op.client = some p → (∀ e ∈ order, e.2.client ≠ some p) →
    p ∉ (applyOrder C.w order C.context).clientList.map TeeClient.ptr ∧ m.pNext p = none

variable {C}

omit [DecidableEq τ] in
theorem explained_start : C.Explained C.mem [] := ⟨C.inMemory, fun t op hop p hp _ => C.fresh t op hop p hp⟩

omit [DecidableEq τ] in
theorem applyOrder_concat (w : PtrWidth) (order : List (τ × RegOp)) (e : τ × RegOp) (x : ClientContext) :
    applyOrder w (order ++ [e]) x = e.2.apply w (applyOrder w order x) := by
  unfold applyOrder
  rw [List.foldl_append]
  rfl

theorem apply_of_not_enter {w : PtrWidth} {op : RegOp} (h : op.enter w = none) (x : ClientContext) : op.apply w x = x := by
  cases op with
  | register p bufferAllocated =>
    cases bufferAllocated with
    | false => rfl
    | true => cases h
  | unregister handle =>
    simp only [RegOp.enter] at h
    split_ifs at h with hinvalid
    simp only [RegOp.apply, unregisterClient, if_pos hinvalid]
  | get => rfl

omit [DecidableEq τ] in
theorem explained_returns (m : RegMem) (order : List (τ × RegOp)) (t : τ) (op : RegOp) (h : C.Explained m order)
    (henter : op.enter C.w = none) : C.Explained m (order ++ [(t, op)]) := by
  have happly : applyOrder C.w (order ++ [(t, op)]) C.context = applyOrder C.w order C.context := by
    rw [applyOrder_concat]
    exact apply_of_not_enter henter _
  refine ⟨happly ▸ h.inMemory, fun u op' hop p hp hnot => ?_⟩
  rw [happly]
  exact h.fresh u op' hop p hp fun e he => hnot e (List.mem_append_left _ he)

theorem client_not_in_order {order : List (τ × RegOp)} {t : τ} {op : RegOp} {p : Nat} (hop : op.client = some p)
    (hbegun : ∀ u, opsOf (order ++ [(t, op)]) u <+: C.programs u) : ∀ e ∈ order, e.2.client ≠ some p := by
  intro e he hp
  have hmem : ∀ u, opsOf order u ⊆ C.programs u := by
    intro u
    refine List.Subset.trans ?_ (hbegun u).subset
    rw [opsOf_concat]
    split_ifs
    · exact List.subset_append_left _ _
    · exact List.Subset.refl _
  have heops : e.2 ∈ opsOf order e.1 := List.mem_map.2 ⟨e, List.mem_filter.2 ⟨he, by simp⟩, rfl⟩
  have hbefore : p ∈ (opsOf order e.1).filterMap RegOp.client := List.mem_filterMap.2 ⟨e.2, heops, hp⟩
  -- it would be in one program twice, or in two
  have hself := hbegun t
  rw [opsOf_concat, if_pos rfl] at hself
  have hprogram : p ∈ (C.programs t).filterMap RegOp.client :=
    List.mem_filterMap.2 ⟨op, hself.subset (by simp), hop⟩
  have hsame : e.1 = t := C.apart e.1 t p (List.mem_filterMap.2 ⟨e.2, hmem _ heops, hp⟩) hprogram
  rw [hsame] at hbefore
  have hnodup := (hself.sublist.filterMap RegOp.client).nodup (C.distinct t)
  rw [List.filterMap_append, List.nodup_append] at hnodup
  exact hnodup.2.2 p hbefore p (List.mem_filterMap.2 ⟨op, List.mem_singleton.2 rfl, hop⟩) rfl

theorem explained_enters (m : RegMem) (order : List (τ × RegOp)) (t : τ) (op : RegOp) (pc : RegPc) (h : C.Explained m order)
    (henter : op.enter C.w = some pc) (hbegun : ∀ u, opsOf (order ++ [(t, op)]) u <+: C.programs u) :
    ∃ m', Finishes (registrySection C.w) pc m.mutexUnlock m' ∧ C.Explained m' (order ++ [(t, op)]) := by
  have hmem := h.inMemory.mutexUnlock
  have hearlier : ∀ {p}, (∀ e ∈ order ++ [(t, op)], e.2.client ≠ some p) → ∀ e ∈ order, e.2.client ≠ some p :=
    fun hnot e he => hnot e (List.mem_append_left _ he)
  cases op with
  | register p bufferAllocated =>
    cases bufferAllocated with
    | false => cases henter
    | true =>
      cases henter
      have hprogram : RegOp.register p true ∈ C.programs t := by
        have hself := hbegun t
        rw [opsOf_concat, if_pos rfl] at hself
        exact hself.subset (by simp)
      obtain ⟨hnew, hnext⟩ := h.fresh t _ hprogram p rfl (client_not_in_order rfl hbegun)
      obtain ⟨m', hfin, hm', hothers⟩ := finishes_register (w := C.w) hmem hnew hnext
      refine ⟨m', hfin, ?_, fun u op hop q hq hnot => ?_⟩
      · rw [applyOrder_concat]
        exact hm'
      · have hne : q ≠ p := by
          rintro rfl
          exact hnot (t, .register q true) (by simp) rfl
        obtain ⟨hnotq, hnextq⟩ := h.fresh u op hop q hq (hearlier hnot)
        refine ⟨?_, (hothers q hne).trans hnextq⟩
        rw [applyOrder_concat]
        simp only [RegOp.apply, registerClient, h.inMemory.mutex, Bool.not_true, Bool.false_eq_true, if_false, List.map_cons]
        exact fun hmem => (List.mem_cons.1 hmem).elim hne hnotq
  | unregister handle =>
    simp only [RegOp.enter] at henter
    split_ifs at henter with hinvalid
    cases henter
    obtain ⟨m', hfin, hm', hothers⟩ := finishes_unregister (w := C.w) hmem hinvalid
    refine ⟨m', hfin, ?_, fun u op hop q hq hnot => ?_⟩
    · rw [applyOrder_concat]
      exact hm'
    · obtain ⟨hnotq, hnextq⟩ := h.fresh u op hop q hq (hearlier hnot)
      refine ⟨fun hq => hnotq ?_, (hothers q hnotq).trans hnextq⟩
      rw [applyOrder_concat] at hq
      simp only [RegOp.apply, unregisterClient, if_neg hinvalid, h.inMemory.mutex, Bool.not_true, Bool.false_eq_true,
        if_false] at hq
      exact ((unlinkClient_sublist _ _).map _).subset hq
  | get handle =>
    simp only [RegOp.enter] at henter
    split_ifs at henter with hinvalid
    cases henter
    refine ⟨m.mutexUnlock.mutexUnlock, .move rfl (finishes_getAt handle hmem.chain), ?_, fun u op hop q hq hnot => ?_⟩
    · rw [applyOrder_concat]
      exact hmem.mutexUnlock
    · rw [applyOrder_concat]
      exact h.fresh u op hop q hq (hearlier hnot)

end RegistryThreads

/-- The threads in every schedule are kept apart and their calls take effect one after the other exactly when one thread alone gets to
`TEEMutexLock`; in a single schedule, exactly when no thread gets there while another is between `TEEMutexLock` and
`TEEMutexUnlock`. -/
theorem registry_threads_iff {τ : Type} [DecidableEq τ] (C : RegistryThreads τ) :
    ((∀ schedule, Along (Crew.step (registrySection C.w)) (fun _ c => Serial C.programs C.Explained c) schedule
        (.start C.programs C.mem)) ↔
      ∀ t u, EntersSection (registrySection C.w) C.programs t → EntersSection (registrySection C.w) C.programs u → t = u) ∧
    ∀ schedule, Along (Crew.step (registrySection C.w)) (fun _ c => Serial C.programs C.Explained c) schedule
        (.start C.programs C.mem) ↔
      Never (Crew.step (registrySection C.w)) (fun t c => c.Overlaps (registrySection C.w) t) schedule
        (.start C.programs C.mem) := by
  have hserial := @serial_iff_never τ RegOp RegPc RegMem _ (registrySection C.w) C.programs C.Explained
    (fun m order t op h henter _ => C.explained_returns m order t op h henter) C.explained_enters C.mem C.explained_start
  refine ⟨?_, hserial⟩
  rw [← never_overlaps_iff C.mem]
  exact forall_congr' hserial

/-! ### A client that is lost -/

/-- Two threads register a client each. -/
def twoRegister : RegistryThreads Bool where
  w := .w64
  context := ⟨[], true, 0, 0⟩
  mem := ⟨none, 0, 0, fun _ => none, fun _ => 0, false⟩
  inMemory := ⟨rfl, rfl, rfl, List.nodup_nil, rfl⟩
  programs t := [.register (if t then 2 else 1) true]
  fresh _ _ _ _ _ := ⟨List.not_mem_nil, rfl⟩
  distinct t := by cases t <;> decide
  apart t u p ht hu := by
    have hclient : ∀ t : Bool, p ∈ ([RegOp.register (if t then 2 else 1) true] : List RegOp).filterMap RegOp.client →
        p = if t then 2 else 1 := fun _ h => List.mem_singleton.1 h
    have hsame : ∀ t u : Bool, (if t then 2 else 1) = (if u then 2 else 1) → t = u := by decide
    exact hsame t u ((hclient t ht).symm.trans (hclient u hu))

/-- Both move in turn. -/
def inTurn : List Bool := (List.replicate 11 [false, true]).flatten

theorem registry_client_lost :
    (afterCalls (Crew.step (registrySection .w64)) inTurn (.start twoRegister.programs twoRegister.mem)).Finished ∧
    (afterCalls (Crew.step (registrySection .w64)) inTurn (.start twoRegister.programs twoRegister.mem)).mem.clientList = some 2 ∧
    (afterCalls (Crew.step (registrySection .w64)) inTurn (.start twoRegister.programs twoRegister.mem)).mem.pNext 2 = none ∧
    ¬Along (Crew.step (registrySection .w64)) (fun _ c => Serial twoRegister.programs twoRegister.Explained c) inTurn
      (.start twoRegister.programs twoRegister.mem) := by
  refine ⟨?_, rfl, rfl, ?_⟩
  · intro t
    cases t
    · exact ⟨rfl, rfl⟩
    · exact ⟨rfl, rfl⟩
  · -- both are inside after a move each
    intro h
    have hserial := h [false, true] (List.prefix_iff_eq_take.2 rfl)
    exact absurd (hserial.exclusive false true (Option.some_ne_none _) (Option.some_ne_none _)) (by decide)

end DalHost

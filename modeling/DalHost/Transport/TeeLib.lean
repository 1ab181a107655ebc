import DalHost.Common.Codes
import Mathlib.Data.List.Nodup

/-!
# The TeeLib transport

The functions of `teetransport_libtee_wrapper.c` and `teetransport_libtee_client_metadata.c`: a registry of clients
under handles that a 32-bit counter gives out, and for each client a cache that turns the messages of the device into a
stream. What the platform answers (allocations, the mutex, `TeeInit`, `TeeConnect`, `TeeRead`) is an argument of each call.
-/

namespace DalHost

/-! ### Data -/

inductive TeeCommStatus
  | success
  | internalError
  | invalidParams
  | invalidHandle
  | notInitialized
  | outOfMemory
  deriving DecidableEq

/-- The width of `uintptr_t` and `size_t`. -/
inductive PtrWidth
  | w32
  | w64

def PtrWidth.modulus : PtrWidth → Nat
  | w32 => 0x100000000
  | w64 => 0x10000000000000000

/-- `TEE_TRANSPORT_INVALID_HANDLE_VALUE`, the pointer `-1`. -/
def PtrWidth.invalidHandleValue (w : PtrWidth) : Nat := w.modulus - 1

/-- `TEE_CLIENT_META_DATA`. `ptr` tells the structures apart; the next pointers are the order of the list. -/
structure TeeClient where
  ptr : Nat
  handle : Nat
  maxMsgLen : Nat
  capacity : Nat
  currPos : Nat
  buffer : Bytes

/-- `TEE_CLIENT_META_DATA_CONTEXT`; the mutex is there or a null pointer. -/
structure ClientContext where
  clientList : List TeeClient
  clientMutex : Bool
  clientCount : Nat
  internalCounter : UInt32

/-- `gClientContext`, the state of each `TEE_TRANSPORT_INTERFACE`, and the number of clients allocated so far. -/
structure TeeState (ι : Type) where
  context : ClientContext
  initialized : ι → Bool
  allocated : Nat

/-- The process as it is loaded. -/
def TeeState.start {ι : Type} : TeeState ι := ⟨⟨[], false, 0, 0⟩, fun _ => false, 0⟩

/-! ### The registry -/

section Registry

variable (w : PtrWidth)

/-- `SetupContext`. -/
def setupContext (mutexCreated : Bool) (x : ClientContext) : TeeCommStatus × ClientContext :=
  if mutexCreated then (.success, { x with clientMutex := true }) else (.internalError, { x with clientMutex := false })

/-- `TeardownContext`: without a mutex the list stays. -/
def teardownContext (x : ClientContext) : ClientContext :=
  if x.clientMutex then { x with clientList := [], clientMutex := false } else { x with clientMutex := false }

/-- The counter of `RegisterClient`. The comparison is one of pointers. -/
def nextCounter (counter : UInt32) : UInt32 :=
  if (counter + 1).toNat = w.invalidHandleValue then counter + 1 + 1 else counter + 1

/-- `RegisterClient`, with the new client. -/
def registerClient (bufferAllocated : Bool) (c : TeeClient) (x : ClientContext) : TeeCommStatus × TeeClient × ClientContext :=
  if !bufferAllocated then (.outOfMemory, c, x)
  else if !x.clientMutex then (.internalError, c, x)
  else
    let client := { c with buffer := List.replicate c.maxMsgLen 0, capacity := 0, currPos := 0,
                           handle := (nextCounter w x.internalCounter).toNat }
    (.success, client, { x with clientCount := (x.clientCount + 1) % w.modulus,
                                internalCounter := nextCounter w x.internalCounter,
                                clientList := client :: x.clientList })

/-- The loop of `UnregisterClient`. -/
def unlinkClient (handle : Nat) : List TeeClient → Option TeeClient × List TeeClient
  | [] => (none, [])
  | c :: cs =>
    if c.handle = handle then (some c, cs) else ((unlinkClient handle cs).1, c :: (unlinkClient handle cs).2)

/-- `UnregisterClient`. -/
def unregisterClient (handle : Nat) (x : ClientContext) : TeeCommStatus × Option TeeClient × ClientContext :=
  if handle = w.invalidHandleValue then (.invalidParams, none, x)
  else if !x.clientMutex then (.internalError, none, x)
  else
    let unlinked := unlinkClient handle x.clientList
    (.success, unlinked.1, { x with
      clientList := unlinked.2
      clientCount := if unlinked.1.isSome then (x.clientCount + w.modulus - 1) % w.modulus else x.clientCount })

/-- `GetClientByHandle`. -/
def getClientByHandle (handle : Nat) (x : ClientContext) : Option TeeClient :=
  if handle = w.invalidHandleValue then none
  else if !x.clientMutex then none
  else x.clientList.find? fun c => c.handle = handle

end Registry

/-! ### Connecting -/

/-- `isEntityValid`. -/
def isEntityValid (entity : Nat) : Bool := [10002, 10000, 10001, 10003, 10100].contains entity

/-- Whether `FindHeciGuid` finds a GUID. -/
def findHeciGuid (port : Nat) : Bool := [10002, 10001, 10000, 10003].contains port

/-- What the platform answers to a connect: `malloc` of the client, `TeeInit`, `TeeConnect` with the message size, `malloc`
of the buffer. -/
structure ConnectAnswers where
  newClient : Bool
  teeInit : Bool
  teeConnect : Bool
  maxMsgLen : Nat
  buffer : Bool

section Calls

variable {ι : Type} [DecidableEq ι] (w : PtrWidth)

def TeeState.setInitialized (s : TeeState ι) (i : ι) (b : Bool) : TeeState ι :=
  { s with initialized := fun j => if j = i then b else s.initialized j }

/-- `TEELIB_Setup`. -/
def teelibSetup (pInterface : Option ι) (mutexCreated : Bool) (s : TeeState ι) : TeeCommStatus × TeeState ι :=
  match pInterface with
  | none => (.invalidParams, s)
  | some i =>
    if s.initialized i then (.success, s)
    else
      let setup := setupContext mutexCreated s.context
      if setup.1 = .success then (.success, { s with context := setup.2 }.setInitialized i true)
      else (.internalError, { s with context := setup.2 })

/-- `TEELIB_Teardown`. -/
def teelibTeardown (pInterface : Option ι) (s : TeeState ι) : TeeCommStatus × TeeState ι :=
  match pInterface with
  | none => (.invalidParams, s)
  | some i =>
    if s.initialized i then (.success, { s with context := teardownContext s.context }.setInitialized i false)
    else (.success, s)

/-- `TEELIB_Connect`; `params` and `handle` say whether the pointers are there. The second result is the client. -/
def teelibConnect (pInterface : Option ι) (entity : Nat) (params handle : Bool) (a : ConnectAnswers) (s : TeeState ι) :
    TeeCommStatus × Option TeeClient × TeeState ι :=
  match pInterface with
  | none => (.invalidParams, none, s)
  | some i =>
    if !handle then (.invalidParams, none, s)
    else if entity = 10100 ∧ params = false then (.invalidParams, none, s)
    else if !isEntityValid entity then (.invalidParams, none, s)
    else if !s.initialized i then (.notInitialized, none, s)
    -- ParseGUID accepts everything for now
    else if !(entity = 10100 || findHeciGuid entity) then (.internalError, none, s)
    else if !a.newClient then (.outOfMemory, none, s)
    else if !a.teeInit || !a.teeConnect then (.internalError, none, s)
    else
      let registered := registerClient w a.buffer ⟨s.allocated, 0, a.maxMsgLen, 0, 0, []⟩ s.context
      if registered.1 = .success then
        (.success, some registered.2.1, { s with context := registered.2.2, allocated := s.allocated + 1 })
      else (.internalError, none, s)

/-- `TEELIB_Disconnect`; the handle is behind a pointer, and the client that it names is the second result. -/
def teelibDisconnect (pInterface : Option ι) (handle : Option Nat) (s : TeeState ι) :
    TeeCommStatus × Option TeeClient × TeeState ι :=
  match pInterface, handle with
  | none, _ | some _, none => (.invalidParams, none, s)
  | some i, some handle =>
    if !s.initialized i then (.notInitialized, none, s)
    else if handle ≠ w.invalidHandleValue then
      let unregistered := unregisterClient w handle s.context
      (.success, unregistered.2.1, { s with context := unregistered.2.2 })
    else (.invalidHandle, none, s)

end Calls

/-! ### Receiving -/

/-- What `TeeRead` does: it writes at most as many bytes as the buffer has, also when it fails. -/
structure ReadAnswer where
  ok : Bool
  written : Nat → Bytes
  fits : ∀ bufferSize, (written bufferSize).length ≤ bufferSize

/-- An empty cache is filled from the device. -/
def TeeClient.fill (a : ReadAnswer) (c : TeeClient) : TeeClient :=
  if c.capacity = 0 then
    { c with capacity := if a.ok then (a.written c.maxMsgLen).length else 0, currPos := 0,
             buffer := a.written c.maxMsgLen ++ c.buffer.drop (a.written c.maxMsgLen).length }
  else c

/-- The read fails, and the call with it. -/
def TeeClient.fillFails (a : ReadAnswer) (c : TeeClient) : Bool := c.capacity = 0 && !a.ok

/-- The copy to the caller: the bytes, the length that is reported, and the client afterwards. -/
def TeeClient.copyOut (length : UInt32) (c : TeeClient) : Bytes × UInt32 × TeeClient :=
  if length.toNat ≤ c.capacity then
    ((c.buffer.drop c.currPos).take length.toNat, length,
      { c with capacity := c.capacity - length.toNat, currPos := c.currPos + length.toNat })
  else ((c.buffer.drop c.currPos).take c.capacity, UInt32.ofNat c.capacity, { c with capacity := 0 })

/-- The structure behind a pointer changes. -/
def ClientContext.update (c : TeeClient) (x : ClientContext) : ClientContext :=
  { x with clientList := x.clientList.map fun c' => if c'.ptr = c.ptr then c else c' }

/-- The result of a receive: the bytes that were delivered, and the length that is reported. -/
structure RecvResult where
  status : TeeCommStatus
  delivered : Bytes
  length : Option UInt32

section Recv

variable {ι : Type} (w : PtrWidth)

/-- `TEELIB_Recv`; `buffer` says whether the pointer is there. -/
def teelibRecv (pInterface : Option ι) (handle : Nat) (buffer : Bool) (length : Option UInt32) (a : ReadAnswer)
    (s : TeeState ι) : RecvResult × TeeState ι :=
  match pInterface, length with
  | none, _ | some _, none => (⟨.invalidParams, [], length⟩, s)
  | some i, some len =>
    if handle = w.invalidHandleValue ∨ buffer = false then (⟨.invalidParams, [], length⟩, s)
    else if !s.initialized i then (⟨.notInitialized, [], length⟩, s)
    else
      match getClientByHandle w handle s.context with
      | none => (⟨.internalError, [], length⟩, s)
      | some c =>
        if c.fillFails a then (⟨.internalError, [], length⟩, { s with context := s.context.update (c.fill a) })
        else
          let copied := (c.fill a).copyOut len
          (⟨.success, copied.1, some copied.2.1⟩, { s with context := s.context.update copied.2.2 })

end Recv

/-! ### Runs -/

/-- A call, with what the platform answers to it. -/
inductive TeeOp (ι : Type)
  | setup (pInterface : Option ι) (mutexCreated : Bool)
  | teardown (pInterface : Option ι)
  | connect (pInterface : Option ι) (entity : Nat) (params handle : Bool) (a : ConnectAnswers)
  | disconnect (pInterface : Option ι) (handle : Option Nat)
  | recv (pInterface : Option ι) (handle : Nat) (buffer : Bool) (length : Option UInt32) (a : ReadAnswer)

section Run

variable {ι : Type} [DecidableEq ι] (w : PtrWidth)

def TeeOp.exec : TeeOp ι → TeeState ι → TeeState ι
  | setup pInterface mutexCreated, s => (teelibSetup pInterface mutexCreated s).2
  | teardown pInterface, s => (teelibTeardown pInterface s).2
  | connect pInterface entity params handle a, s => (teelibConnect w pInterface entity params handle a s).2.2
  | disconnect pInterface handle, s => (teelibDisconnect w pInterface handle s).2.2
  | recv pInterface handle buffer length a, s => (teelibRecv w pInterface handle buffer length a s).2

end Run

/-! ### What the calls do -/

section Connect

variable {ι : Type} {w : PtrWidth} {s : TeeState ι}

/-- All checks of a connect pass, and the platform gives what it needs. -/
def Connects (pInterface : Option ι) (entity : Nat) (params handle : Bool) (a : ConnectAnswers) (s : TeeState ι) : Prop :=
  handle = true ∧ isEntityValid entity = true ∧ (entity = 10100 → params = true) ∧ (∃ i, pInterface = some i ∧ s.initialized i = true) ∧
    s.context.clientMutex = true ∧ a.newClient = true ∧ a.teeInit = true ∧ a.teeConnect = true ∧ a.buffer = true

theorem connect_of_connects {pInterface : Option ι} {entity : Nat} {params handle : Bool} {a : ConnectAnswers}
    (h : Connects pInterface entity params handle a s) :
    teelibConnect w pInterface entity params handle a s =
      (.success, some (registerClient w true ⟨s.allocated, 0, a.maxMsgLen, 0, 0, []⟩ s.context).2.1,
        { s with context := (registerClient w true ⟨s.allocated, 0, a.maxMsgLen, 0, 0, []⟩ s.context).2.2,
                 allocated := s.allocated + 1 }) := by
  obtain ⟨hhandle, hentity, hparams, ⟨i, rfl, hinit⟩, hmutex, hnew, hteeInit, hteeConnect, hbuffer⟩ := h
  have hguid : (decide (entity = 10100) || findHeciGuid entity) = true := by
    unfold isEntityValid at hentity
    unfold findHeciGuid
    simp only [List.contains_cons, List.contains_nil, Bool.or_false, Bool.or_eq_true, beq_iff_eq, decide_eq_true_eq] at hentity ⊢
    omega
  have hcustom : ¬(entity = 10100 ∧ params = false) := by
    rintro ⟨he, hp⟩
    rw [hparams he] at hp
    cases hp
  unfold teelibConnect
  simp only [hhandle, hentity, hinit, hguid, hnew, hteeInit, hteeConnect, hbuffer, Bool.not_true, Bool.false_eq_true, if_false,
    Bool.or_self, if_neg hcustom]
  rw [if_pos (by simp [registerClient, hmutex])]

theorem connect_of_not_connects {pInterface : Option ι} {entity : Nat} {params handle : Bool} {a : ConnectAnswers}
    (h : ¬Connects pInterface entity params handle a s) :
    (teelibConnect w pInterface entity params handle a s).1 ≠ .success ∧
      (teelibConnect w pInterface entity params handle a s).2.2 = s := by
  unfold teelibConnect
  cases pInterface with
  | none => exact ⟨TeeCommStatus.noConfusion, rfl⟩
  | some i =>
    simp only
    split_ifs with hhandle hcustom hentity hinit hguid hnew htee hregistered
    all_goals first
      | exact ⟨TeeCommStatus.noConfusion, rfl⟩
      | skip
    refine absurd ⟨by simpa using hhandle, by simpa using hentity, fun he => ?_, ⟨i, rfl, by simpa using hinit⟩, ?_⟩ h
    · exact (Bool.not_eq_false params).mp fun hp => hcustom ⟨he, hp⟩
    · unfold registerClient at hregistered
      simp only [Bool.not_eq_true', Bool.or_eq_true, not_or, Bool.not_eq_false] at hnew htee
      split_ifs at hregistered with hbuffer hmutex
      exact ⟨by simpa using hmutex, hnew, htee.1, htee.2, by simpa using hbuffer⟩

end Connect

/-! ### Pointers -/

/-- The structures in the list are different ones, and were all allocated. -/
structure TeeState.PtrInv {ι : Type} (s : TeeState ι) : Prop where
  distinct : (s.context.clientList.map TeeClient.ptr).Nodup
  allocated : ∀ c ∈ s.context.clientList, c.ptr < s.allocated

section Pointers

variable {ι : Type} {w : PtrWidth} {s : TeeState ι}

theorem ptrInv_start : (TeeState.start : TeeState ι).PtrInv := ⟨List.nodup_nil, fun _ hc => absurd hc List.not_mem_nil⟩

theorem TeeState.PtrInv.of_sublist (h : s.PtrInv) {t : TeeState ι} (hlist : t.context.clientList.Sublist s.context.clientList)
    (hallocated : t.allocated = s.allocated) : t.PtrInv where
  distinct := (hlist.map _).nodup h.distinct
  allocated c hc := hallocated ▸ h.allocated c (hlist.subset hc)

theorem unlinkClient_sublist (handle : Nat) (l : List TeeClient) : ((unlinkClient handle l).2).Sublist l := by
  induction l with
  | nil => exact List.Sublist.refl _
  | cons c l ih =>
    unfold unlinkClient
    split_ifs with hc
    · exact List.sublist_cons_self _ _
    · exact ih.cons_cons c

theorem TeeState.PtrInv.update (h : s.PtrInv) (c : TeeClient) : { s with context := s.context.update c }.PtrInv := by
  have hptrs : (s.context.update c).clientList.map TeeClient.ptr = s.context.clientList.map TeeClient.ptr := by
    unfold ClientContext.update
    rw [List.map_map]
    refine List.map_congr_left fun d _ => ?_
    show (if d.ptr = c.ptr then c else d).ptr = d.ptr
    split_ifs with heq
    · exact heq.symm
    · rfl
  refine ⟨hptrs ▸ h.distinct, fun d hd => ?_⟩
  have hmem : d.ptr ∈ s.context.clientList.map TeeClient.ptr := hptrs ▸ List.mem_map_of_mem hd
  obtain ⟨d', hd', heq⟩ := List.mem_map.1 hmem
  rw [← heq]
  exact h.allocated d' hd'

theorem TeeState.PtrInv.eq_of_ptr (h : s.PtrInv) {c d : TeeClient} (hc : c ∈ s.context.clientList) (hd : d ∈ s.context.clientList)
    (hptr : c.ptr = d.ptr) : c = d := by
  have hinj := List.inj_on_of_nodup_map h.distinct
  exact hinj hc hd hptr

theorem getClientByHandle_mem {x : ClientContext} {handle : Nat} {c : TeeClient} (h : getClientByHandle w handle x = some c) :
    c ∈ x.clientList ∧ c.handle = handle := by
  unfold getClientByHandle at h
  split_ifs at h
  exact ⟨List.mem_of_find?_eq_some h, by simpa using List.find?_some h⟩

/-- The clients that a call leaves registered: those before it, without the ones it removes; with a new one; or with one
of them changed, which only a receive does. -/
inductive TeeEdit (s : TeeState ι) : TeeState ι → Prop
  | remove {t : TeeState ι} (hlist : t.context.clientList.Sublist s.context.clientList) (hallocated : t.allocated = s.allocated) :
      TeeEdit s t
  | add {t : TeeState ι} (c : TeeClient) (hptr : c.ptr = s.allocated)
      (hempty : c.capacity = 0 ∧ c.currPos = 0 ∧ c.buffer.length = c.maxMsgLen)
      (hlist : t.context.clientList = c :: s.context.clientList) (hallocated : t.allocated = s.allocated + 1) : TeeEdit s t

theorem TeeEdit.same : TeeEdit s s := .remove (List.Sublist.refl _) rfl

theorem edit_connect (pInterface : Option ι) (entity : Nat) (params handle : Bool) (a : ConnectAnswers) :
    TeeEdit s (teelibConnect w pInterface entity params handle a s).2.2 := by
  by_cases h : Connects pInterface entity params handle a s
  · rw [connect_of_connects h]
    have hmutex := h.2.2.2.2.1
    unfold registerClient
    simp only [hmutex, Bool.not_true, Bool.false_eq_true, if_false]
    exact .add _ rfl ⟨rfl, rfl, List.length_replicate⟩ rfl rfl
  · rw [(connect_of_not_connects h).2]
    exact .same

theorem edit_disconnect (pInterface : Option ι) (handle : Option Nat) :
    TeeEdit s (teelibDisconnect w pInterface handle s).2.2 := by
  unfold teelibDisconnect
  split
  · exact .same
  · exact .same
  · split_ifs
    · exact .same
    · refine .remove ?_ rfl
      unfold unregisterClient
      split_ifs
      · exact List.Sublist.refl _
      · exact List.Sublist.refl _
      · exact unlinkClient_sublist _ _
    · exact .same

variable [DecidableEq ι]

theorem setup_some (i : ι) (mutexCreated : Bool) : (teelibSetup (some i) mutexCreated s).2 =
    if s.initialized i then s
    else if mutexCreated then { s with context := { s.context with clientMutex := true } }.setInitialized i true
    else { s with context := { s.context with clientMutex := false } } := by
  unfold teelibSetup setupContext
  cases hinit : s.initialized i with
  | true => simp only [hinit, if_true]
  | false => cases mutexCreated <;> simp [hinit]

theorem edit_setup (pInterface : Option ι) (mutexCreated : Bool) : TeeEdit s (teelibSetup pInterface mutexCreated s).2 := by
  cases pInterface with
  | none => exact .same
  | some i =>
    rw [setup_some]
    split_ifs <;> exact .remove (List.Sublist.refl _) rfl

theorem edit_teardown (pInterface : Option ι) : TeeEdit s (teelibTeardown pInterface s).2 := by
  unfold teelibTeardown teardownContext
  cases pInterface with
  | none => exact .same
  | some i =>
    simp only
    split_ifs
    · exact .remove (List.nil_sublist _) rfl
    · exact .remove (List.Sublist.refl _) rfl
    · exact .same

omit [DecidableEq ι] in
theorem TeeState.PtrInv.edit (h : s.PtrInv) {t : TeeState ι} (hedit : TeeEdit s t) : t.PtrInv := by
  cases hedit with
  | remove hlist hallocated => exact h.of_sublist hlist hallocated
  | add c hptr hempty hlist hallocated =>
    refine ⟨?_, ?_⟩
    · rw [hlist, List.map_cons, List.nodup_cons]
      refine ⟨fun hmem => ?_, h.distinct⟩
      obtain ⟨d, hd, heq⟩ := List.mem_map.1 hmem
      have hlt := h.allocated d hd
      omega
    · rw [hlist, hallocated, List.forall_mem_cons]
      exact ⟨by omega, fun d hd => Nat.lt_succ_of_lt (h.allocated d hd)⟩

theorem fill_fields (a : ReadAnswer) (c : TeeClient) : (c.fill a).ptr = c.ptr ∧ (c.fill a).handle = c.handle := by
  unfold TeeClient.fill
  split_ifs <;> exact ⟨rfl, rfl⟩

theorem copyOut_fields (length : UInt32) (c : TeeClient) :
    (c.copyOut length).2.2.ptr = c.ptr ∧ (c.copyOut length).2.2.handle = c.handle := by
  unfold TeeClient.copyOut
  split_ifs <;> exact ⟨rfl, rfl⟩

section Target

omit [DecidableEq ι]

variable {pInterface : Option ι} {handle : Nat} {buffer : Bool} {length : Option UInt32}

/-- The client that a receive gets to. -/
def recvTarget (w : PtrWidth) (pInterface : Option ι) (handle : Nat) (buffer : Bool) (length : Option UInt32) (s : TeeState ι) :
    Option TeeClient :=
  if pInterface.any s.initialized && length.isSome && buffer then getClientByHandle w handle s.context else none

theorem recv_of_no_target (h : recvTarget w pInterface handle buffer length s = none) (a : ReadAnswer) :
    (teelibRecv w pInterface handle buffer length a s).1.status ≠ .success ∧
    (teelibRecv w pInterface handle buffer length a s).1.delivered = [] ∧
    (teelibRecv w pInterface handle buffer length a s).2 = s := by
  unfold teelibRecv
  cases pInterface with
  | none => exact ⟨TeeCommStatus.noConfusion, rfl, rfl⟩
  | some i =>
    cases length with
    | none => exact ⟨TeeCommStatus.noConfusion, rfl, rfl⟩
    | some len =>
      simp only
      split_ifs with hparams hinit
      · exact ⟨TeeCommStatus.noConfusion, rfl, rfl⟩
      · exact ⟨TeeCommStatus.noConfusion, rfl, rfl⟩
      · have hbuffer : buffer = true := by
          rw [← Bool.not_eq_false]
          exact fun hno => hparams (.inr hno)
        unfold recvTarget at h
        rw [if_pos (by simpa [hbuffer] using hinit)] at h
        rw [h]
        exact ⟨TeeCommStatus.noConfusion, rfl, rfl⟩

theorem recv_of_target {c : TeeClient} (h : recvTarget w pInterface handle buffer length s = some c) :
    c ∈ s.context.clientList ∧ ∃ len, length = some len ∧ ∀ a,
      teelibRecv w pInterface handle buffer length a s =
        if c.fillFails a then (⟨.internalError, [], length⟩, { s with context := s.context.update (c.fill a) })
        else (⟨.success, ((c.fill a).copyOut len).1, some ((c.fill a).copyOut len).2.1⟩,
          { s with context := s.context.update ((c.fill a).copyOut len).2.2 }) := by
  unfold recvTarget at h
  split_ifs at h with hparams
  have hvalid : handle ≠ w.invalidHandleValue := by
    intro hinvalid
    unfold getClientByHandle at h
    rw [if_pos hinvalid] at h
    cases h
  refine ⟨(getClientByHandle_mem h).1, ?_⟩
  cases pInterface with
  | none => simp at hparams
  | some i =>
    cases length with
    | none => simp at hparams
    | some len =>
      simp only [Option.any_some, Option.isSome_some, Bool.and_true, Bool.and_eq_true] at hparams
      refine ⟨len, rfl, fun a => ?_⟩
      simp only [teelibRecv, hvalid, hparams, Bool.true_eq_false, or_self, Bool.not_true, Bool.false_eq_true, if_false, h]

end Target

theorem ptrInv_exec (op : TeeOp ι) (h : s.PtrInv) : (op.exec w s).PtrInv := by
  cases op with
  | setup => exact h.edit (edit_setup _ _)
  | teardown => exact h.edit (edit_teardown _)
  | connect => exact h.edit (edit_connect _ _ _ _ _)
  | disconnect => exact h.edit (edit_disconnect _ _)
  | recv pInterface handle buffer length a =>
    show (teelibRecv w pInterface handle buffer length a s).2.PtrInv
    cases htarget : recvTarget w pInterface handle buffer length s with
    | none =>
      rw [(recv_of_no_target htarget a).2.2]
      exact h
    | some c =>
      obtain ⟨-, len, -, hrecv⟩ := recv_of_target htarget
      rw [hrecv]
      split_ifs
      · exact h.update _
      · exact h.update _

end Pointers

end DalHost

import DalHost.Lib.Calls
import DalHost.Transport.TeeLib
import Mathlib.Algebra.Group.Nat.Defs
import Mathlib.Data.Finset.Card

/-!
# The registry of TeeLib clients

The registered clients have distinct handles, are found under them and are counted, as long as three things do not happen
(`TeeOp.Breaks`): the counter does not come back to a handle in use, nothing is torn down while clients are
registered, as the count is not reset, and no mutex is replaced by none.
-/

namespace DalHost

/-! ### The registry -/

/-- What holds of the registry between calls. -/
structure RegistryOk (w : PtrWidth) (x : ClientContext) : Prop where
  distinct : (x.clientList.map TeeClient.handle).Nodup
  valid : ∀ c ∈ x.clientList, c.handle ≠ w.invalidHandleValue
  found : ∀ c ∈ x.clientList, getClientByHandle w c.handle x = some c
  notFound : ∀ handle, handle ∉ x.clientList.map TeeClient.handle → getClientByHandle w handle x = none
  count : x.clientCount = x.clientList.length

section Ops

variable {ι : Type} [DecidableEq ι] (w : PtrWidth)

/-- What a call does to the list: a successful connect adds its client, a successful disconnect removes the one
that the handle names, a teardown removes all and nothing else changes the handles. -/
def TeeOp.Edits (s : TeeState ι) : TeeOp ι → Prop
  | .setup pInterface mutexCreated =>
    (teelibSetup pInterface mutexCreated s).2.context.clientList = s.context.clientList
  | .teardown pInterface =>
    (teelibTeardown pInterface s).2.context.clientList = [] ∨
      (teelibTeardown pInterface s).2.context.clientList = s.context.clientList
  | .connect pInterface entity params handle a =>
    let connected := teelibConnect w pInterface entity params handle a s
    if connected.1 = .success then
      ∃ c, connected.2.1 = some c ∧ connected.2.2.context.clientList = c :: s.context.clientList
    else connected.2.2.context.clientList = s.context.clientList
  | .disconnect pInterface handle =>
    let disconnected := teelibDisconnect w pInterface handle s
    if disconnected.1 = .success then
      ∃ h, handle = some h ∧ disconnected.2.2.context.clientList = s.context.clientList.filter fun c => c.handle ≠ h
    else disconnected.2.2.context.clientList = s.context.clientList
  | .recv pInterface handle buffer length a =>
    (teelibRecv w pInterface handle buffer length a s).2.context.clientList.map TeeClient.handle =
      s.context.clientList.map TeeClient.handle

/-- The three ways to break the registry. -/
def TeeOp.Breaks (s : TeeState ι) : TeeOp ι → Prop
  | .setup pInterface mutexCreated =>
    (∃ i, pInterface = some i ∧ s.initialized i = false) ∧ mutexCreated = false ∧ s.context.clientList ≠ []
  | .teardown pInterface => (∃ i, pInterface = some i ∧ s.initialized i = true) ∧ s.context.clientList ≠ []
  | .connect pInterface entity params handle a => Connects pInterface entity params handle a s ∧
      (nextCounter w s.context.internalCounter).toNat ∈ s.context.clientList.map TeeClient.handle
  | .disconnect .. | .recv .. => False

end Ops

/-! ### Handles -/

theorem nextCounter_ne_invalid (w : PtrWidth) (counter : UInt32) : (nextCounter w counter).toNat ≠ w.invalidHandleValue := by
  unfold nextCounter
  split_ifs with h
  · cases w with
    | w32 =>
      have hmax : counter + 1 = 0xFFFFFFFF := by
        rw [← UInt32.toNat_inj, h]
        rfl
      rw [hmax]
      decide
    | w64 =>
      have hlt := (counter + 1).toNat_lt
      rw [h] at hlt
      exact absurd hlt (by decide)
  · exact h

theorem length_lt_modulus {w : PtrWidth} {handles : List Nat} (hnodup : handles.Nodup) (hlt : ∀ h ∈ handles, h < 2 ^ 32)
    (hvalid : ∀ h ∈ handles, h ≠ w.invalidHandleValue) : handles.length < w.modulus := by
  have hsub : handles.toFinset ⊆ (Finset.range (2 ^ 32)).erase w.invalidHandleValue := by
    intro h hh
    rw [List.mem_toFinset] at hh
    rw [Finset.mem_erase, Finset.mem_range]
    exact ⟨hvalid h hh, hlt h hh⟩
  have hcard := Finset.card_le_card hsub
  rw [List.toFinset_card_of_nodup hnodup] at hcard
  cases w with
  | w32 =>
    rw [Finset.card_erase_of_mem (by rw [Finset.mem_range]; decide), Finset.card_range] at hcard
    exact Nat.lt_of_le_of_lt hcard (by decide)
  | w64 =>
    have hle := Finset.card_erase_le (s := Finset.range (2 ^ 32)) (a := PtrWidth.w64.invalidHandleValue)
    rw [Finset.card_range] at hle
    exact Nat.lt_of_le_of_lt (hcard.trans hle) (by decide)

/-! ### The list -/

section Lists

variable {l : List TeeClient}

theorem find?_handle_of_mem (h : (l.map TeeClient.handle).Nodup) {c : TeeClient} (hc : c ∈ l) :
    (l.find? fun c' => c'.handle = c.handle) = some c := by
  induction l with
  | nil => cases hc
  | cons first l ih =>
    rw [List.map_cons, List.nodup_cons] at h
    rw [List.find?_cons]
    rcases List.mem_cons.1 hc with rfl | hc
    · rw [decide_eq_true rfl]
    · have hne : first.handle ≠ c.handle := fun heq => h.1 (heq ▸ List.mem_map_of_mem hc)
      rw [decide_eq_false hne]
      exact ih h.2 hc

theorem find?_handle_of_not_mem {handle : Nat} (h : handle ∉ l.map TeeClient.handle) :
    (l.find? fun c => c.handle = handle) = none := by
  rw [List.find?_eq_none]
  intro c hc
  rw [decide_eq_true_eq]
  rintro rfl
  exact h (List.mem_map_of_mem hc)

theorem unlinkClient_snd (handle : Nat) (h : (l.map TeeClient.handle).Nodup) :
    (unlinkClient handle l).2 = l.filter fun c => c.handle ≠ handle := by
  induction l with
  | nil => rfl
  | cons c l ih =>
    rw [List.map_cons, List.nodup_cons] at h
    unfold unlinkClient
    split_ifs with hc
    · rw [List.filter_cons_of_neg (by simpa using hc), eq_comm, List.filter_eq_self]
      intro c' hc'
      rw [decide_eq_true_eq]
      rintro heq
      exact h.1 ((hc.trans heq.symm) ▸ List.mem_map_of_mem hc')
    · rw [List.filter_cons_of_pos (by simpa using hc), ih h.2]

theorem length_unlinkClient (handle : Nat) (l : List TeeClient) :
    l.length = (unlinkClient handle l).2.length + (unlinkClient handle l).1.isSome.toNat := by
  induction l with
  | nil => rfl
  | cons c l ih =>
    unfold unlinkClient
    split_ifs with hc
    · rfl
    · rw [List.length_cons, List.length_cons, ih]
      exact Nat.add_right_comm _ _ _

end Lists

/-! ### The invariant -/

structure RegistryInv (w : PtrWidth) (x : ClientContext) : Prop where
  distinct : (x.clientList.map TeeClient.handle).Nodup
  valid : ∀ h ∈ x.clientList.map TeeClient.handle, h ≠ w.invalidHandleValue
  small : ∀ h ∈ x.clientList.map TeeClient.handle, h < 2 ^ 32
  count : x.clientCount = x.clientList.length
  mutex : x.clientList ≠ [] → x.clientMutex = true

section Inv

variable {w : PtrWidth} {x : ClientContext}

theorem RegistryInv.ok (h : RegistryInv w x) : RegistryOk w x where
  distinct := h.distinct
  valid c hc := h.valid _ (List.mem_map_of_mem hc)
  found c hc := by
    unfold getClientByHandle
    rw [if_neg (h.valid _ (List.mem_map_of_mem hc)), h.mutex (List.ne_nil_of_mem hc)]
    exact find?_handle_of_mem h.distinct hc
  notFound handle hnot := by
    unfold getClientByHandle
    split_ifs
    · rfl
    · rfl
    · exact find?_handle_of_not_mem hnot
  count := h.count

theorem RegistryInv.length_lt (h : RegistryInv w x) : x.clientList.length < w.modulus := by
  have hlt := length_lt_modulus h.distinct h.small h.valid
  rwa [List.length_map] at hlt

theorem registryInv_start : RegistryInv w ⟨[], false, 0, 0⟩ where
  distinct := List.nodup_nil
  valid _ hh := absurd hh List.not_mem_nil
  small _ hh := absurd hh List.not_mem_nil
  count := rfl
  mutex h := absurd rfl h

theorem RegistryInv.setMutex (h : RegistryInv w x) {b : Bool} (hb : x.clientList ≠ [] → b = true) :
    RegistryInv w { x with clientMutex := b } := ⟨h.distinct, h.valid, h.small, h.count, hb⟩

theorem RegistryInv.update (h : RegistryInv w x) {l : List TeeClient}
    (hl : l.map TeeClient.handle = x.clientList.map TeeClient.handle) : RegistryInv w { x with clientList := l } := by
  have hlen : l.length = x.clientList.length := by simpa using congrArg List.length hl
  refine ⟨hl ▸ h.distinct, hl ▸ h.valid, hl ▸ h.small, h.count.trans hlen.symm, fun hne => h.mutex fun hnil => hne ?_⟩
  rw [hnil] at hlen
  exact List.length_eq_zero_iff.1 hlen

end Inv

/-! ### One call -/

section Step

variable {ι : Type} {w : PtrWidth} {s : TeeState ι}

theorem RegistryInv.register {x : ClientContext} (h : RegistryInv w x) (c : TeeClient) (hmutex : x.clientMutex = true)
    (hnew : (nextCounter w x.internalCounter).toNat ∉ x.clientList.map TeeClient.handle) :
    RegistryInv w (registerClient w true c x).2.2 := by
  have hdistinct := List.nodup_cons.2 ⟨hnew, h.distinct⟩
  have hvalid : ∀ k ∈ (nextCounter w x.internalCounter).toNat :: x.clientList.map TeeClient.handle, k ≠ w.invalidHandleValue :=
    List.forall_mem_cons.2 ⟨nextCounter_ne_invalid w x.internalCounter, h.valid⟩
  have hsmall : ∀ k ∈ (nextCounter w x.internalCounter).toNat :: x.clientList.map TeeClient.handle, k < 2 ^ 32 :=
    List.forall_mem_cons.2 ⟨(nextCounter w x.internalCounter).toNat_lt, h.small⟩
  have hlt := length_lt_modulus hdistinct hsmall hvalid
  rw [List.length_cons, List.length_map] at hlt
  unfold registerClient
  simp only [hmutex, Bool.not_true, Bool.false_eq_true, if_false]
  refine ⟨hdistinct, hvalid, hsmall, ?_, fun _ => rfl⟩
  rw [h.count]
  exact Nat.mod_eq_of_lt hlt

theorem RegistryInv.unregister {x : ClientContext} (h : RegistryInv w x) (handle : Nat) :
    RegistryInv w (unregisterClient w handle x).2.2 := by
  unfold unregisterClient
  split_ifs with hinvalid hmutex
  · exact h
  · exact h
  · have hlist := unlinkClient_snd handle h.distinct
    have hsub : (x.clientList.filter fun c => c.handle ≠ handle).map TeeClient.handle ⊆ x.clientList.map TeeClient.handle :=
      List.map_subset _ (List.filter_subset_self _)
    have hlength := length_unlinkClient handle x.clientList
    have hlt := h.length_lt
    simp only [hlist]
    refine ⟨(List.filter_sublist.map _).nodup h.distinct, fun k hk => h.valid k (hsub hk), fun k hk => h.small k (hsub hk), ?_,
      fun _ => by simpa using hmutex⟩
    rw [← hlist, h.count]
    split_ifs with hsome
    · rw [hsome, Bool.toNat_true] at hlength
      have hsub' : x.clientList.length + w.modulus - 1 = (unlinkClient handle x.clientList).2.length + w.modulus := by omega
      rw [hsub', Nat.add_mod_right, Nat.mod_eq_of_lt (by omega)]
    · rw [Bool.not_eq_true] at hsome
      rw [hsome, Bool.toNat_false] at hlength
      omega

theorem map_handle_update (h : s.PtrInv) {c c' : TeeClient} (hc : c ∈ s.context.clientList) (hptr : c'.ptr = c.ptr)
    (hhandle : c'.handle = c.handle) :
    (s.context.update c').clientList.map TeeClient.handle = s.context.clientList.map TeeClient.handle := by
  unfold ClientContext.update
  rw [List.map_map]
  refine List.map_congr_left fun d hd => ?_
  show (if d.ptr = c'.ptr then c' else d).handle = d.handle
  split_ifs with heq
  · rw [hhandle, h.eq_of_ptr hd hc (heq.trans hptr)]
  · rfl

theorem recv_handles (h : s.PtrInv) (pInterface : Option ι) (handle : Nat) (buffer : Bool) (length : Option UInt32)
    (a : ReadAnswer) : ∃ l, (teelibRecv w pInterface handle buffer length a s).2.context = { s.context with clientList := l } ∧
      l.map TeeClient.handle = s.context.clientList.map TeeClient.handle := by
  cases htarget : recvTarget w pInterface handle buffer length s with
  | none =>
    rw [(recv_of_no_target htarget a).2.2]
    exact ⟨s.context.clientList, rfl, rfl⟩
  | some c =>
    obtain ⟨hmem, len, -, hrecv⟩ := recv_of_target htarget
    obtain ⟨hptr, hhandle⟩ := fill_fields a c
    obtain ⟨hptr', hhandle'⟩ := copyOut_fields len (c.fill a)
    rw [hrecv]
    split_ifs
    · exact ⟨_, rfl, map_handle_update h hmem hptr hhandle⟩
    · exact ⟨_, rfl, map_handle_update h hmem (hptr'.trans hptr) (hhandle'.trans hhandle)⟩

variable [DecidableEq ι]

/-- The registry and the addresses. -/
def TeeInv (w : PtrWidth) (s : TeeState ι) : Prop := RegistryInv w s.context ∧ s.PtrInv

theorem registryInv_exec (h : TeeInv w s) {op : TeeOp ι} (hop : ¬op.Breaks w s) : RegistryInv w (op.exec w s).context := by
  obtain ⟨hreg, hptr⟩ := h
  cases op with
  | setup pInterface mutexCreated =>
    cases pInterface with
    | none => exact hreg
    | some i =>
      show RegistryInv w (teelibSetup (some i) mutexCreated s).2.context
      rw [setup_some]
      split_ifs with hinit hcreated
      · exact hreg
      · exact hreg.setMutex fun _ => rfl
      · refine hreg.setMutex fun hne => absurd ⟨⟨i, rfl, by simpa using hinit⟩, by simpa using hcreated, hne⟩ hop
  | teardown pInterface =>
    cases pInterface with
    | none => exact hreg
    | some i =>
      show RegistryInv w (teelibTeardown (some i) s).2.context
      unfold teelibTeardown
      simp only
      split_ifs with hinit
      · -- nobody is registered
        have hempty : s.context.clientList = [] := Classical.byContradiction fun hne => hop ⟨⟨i, rfl, hinit⟩, hne⟩
        have hsame : teardownContext s.context = { s.context with clientMutex := false } := by
          unfold teardownContext
          split_ifs
          · simp only [hempty]
          · rfl
        show RegistryInv w (teardownContext s.context)
        rw [hsame]
        exact hreg.setMutex fun hne => absurd hempty hne
      · exact hreg
  | connect pInterface entity params handle a =>
    show RegistryInv w (teelibConnect w pInterface entity params handle a s).2.2.context
    by_cases hconnects : Connects pInterface entity params handle a s
    · rw [connect_of_connects hconnects]
      exact hreg.register _ hconnects.2.2.2.2.1 fun hmem => hop ⟨hconnects, hmem⟩
    · rw [(connect_of_not_connects hconnects).2]
      exact hreg
  | disconnect pInterface handle =>
    show RegistryInv w (teelibDisconnect w pInterface handle s).2.2.context
    unfold teelibDisconnect
    split
    · exact hreg
    · exact hreg
    · split_ifs
      · exact hreg
      · exact hreg.unregister _
      · exact hreg
  | recv pInterface handle buffer length a =>
    obtain ⟨l, hcontext, hhandles⟩ := @recv_handles ι w s hptr pInterface handle buffer length a
    show RegistryInv w (teelibRecv w pInterface handle buffer length a s).2.context
    rw [hcontext]
    exact hreg.update hhandles

/-- Every call edits the list as it should. -/
theorem edits_of_inv (h : TeeInv w s) (op : TeeOp ι) : op.Edits w s := by
  obtain ⟨hreg, hptr⟩ := h
  cases op with
  | setup pInterface mutexCreated =>
    simp only [TeeOp.Edits]
    cases pInterface with
    | none => rfl
    | some i =>
      rw [setup_some]
      split_ifs <;> rfl
  | teardown pInterface =>
    simp only [TeeOp.Edits, teelibTeardown, teardownContext]
    cases pInterface with
    | none => exact .inr rfl
    | some i =>
      simp only
      split_ifs
      · exact .inl rfl
      · exact .inr rfl
      · exact .inr rfl
  | connect pInterface entity params handle a =>
    simp only [TeeOp.Edits]
    by_cases hconnects : Connects pInterface entity params handle a s
    · rw [connect_of_connects hconnects, if_pos rfl]
      refine ⟨_, rfl, ?_⟩
      unfold registerClient
      simp only [hconnects.2.2.2.2.1, Bool.not_true, Bool.false_eq_true, if_false]
    · obtain ⟨hstatus, hsame⟩ := @connect_of_not_connects ι w s _ _ _ _ _ hconnects
      rw [if_neg hstatus, hsame]
  | disconnect pInterface handle =>
    simp only [TeeOp.Edits, teelibDisconnect]
    split
    · rfl
    · rfl
    · rename_i i handle
      by_cases hinit : s.initialized i = false
      · simp [hinit]
      rw [Bool.not_eq_false] at hinit
      by_cases hvalid : handle = w.invalidHandleValue
      · simp [hinit, hvalid]
      · simp only [hinit, Bool.not_true, Bool.false_eq_true, if_false, ne_eq, hvalid, not_false_eq_true, if_true]
        refine ⟨handle, rfl, ?_⟩
        unfold unregisterClient
        rw [if_neg hvalid]
        split_ifs with hmutex
        · -- without a mutex nobody is registered
          have hempty : s.context.clientList = [] := by
            refine Classical.byContradiction fun hne => ?_
            rw [hreg.mutex hne] at hmutex
            cases hmutex
          simp only [hempty, List.filter_nil]
        · exact unlinkClient_snd handle hreg.distinct
  | recv pInterface handle buffer length a =>
    obtain ⟨l, hcontext, hhandles⟩ := @recv_handles ι w s hptr pInterface handle buffer length a
    simp only [TeeOp.Edits]
    rw [hcontext]
    exact hhandles

theorem teeInv_exec (op : TeeOp ι) (s : TeeState ι) (h : TeeInv w s) (hop : ¬op.Breaks w s) : TeeInv w (op.exec w s) :=
  ⟨registryInv_exec h hop, ptrInv_exec op h.2⟩

/-- A call that breaks the registry does so at once. -/
theorem not_ok_of_breaks (h : TeeInv w s) {op : TeeOp ι} (hop : op.Breaks w s) : ¬RegistryOk w (op.exec w s).context := by
  intro hok
  cases op with
  | disconnect | recv => exact hop
  | setup pInterface mutexCreated =>
    obtain ⟨⟨i, rfl, hinit⟩, rfl, hne⟩ := hop
    -- a client is registered, and is not found without a mutex
    have hexec : (TeeOp.exec w (.setup (some i) false) s).context = { s.context with clientMutex := false } := by
      show (teelibSetup (some i) false s).2.context = _
      rw [setup_some, if_neg (by rw [hinit]; decide)]
      rfl
    obtain ⟨c, hc⟩ := List.exists_mem_of_ne_nil _ hne
    rw [hexec] at hok
    have hfound := hok.found c hc
    unfold getClientByHandle at hfound
    split_ifs at hfound with hinvalid hmutex
    exact hmutex rfl
  | teardown pInterface =>
    obtain ⟨⟨i, rfl, hinit⟩, hne⟩ := hop
    have hexec : (TeeOp.exec w (.teardown (some i)) s).context =
        { s.context with clientList := [], clientMutex := false } := by
      show (teelibTeardown (some i) s).2.context = _
      simp only [teelibTeardown, hinit, if_true, teardownContext, h.1.mutex hne, TeeState.setInitialized]
    rw [hexec] at hok
    have hcount : s.context.clientCount = 0 := hok.count
    rw [h.1.count] at hcount
    exact hne (List.length_eq_zero_iff.1 hcount)
  | connect pInterface entity params handle a =>
    obtain ⟨hconnects, hmem⟩ := hop
    have hexec : (TeeOp.exec w (.connect pInterface entity params handle a) s).context.clientList.map TeeClient.handle =
        (nextCounter w s.context.internalCounter).toNat :: s.context.clientList.map TeeClient.handle := by
      show (teelibConnect w pInterface entity params handle a s).2.2.context.clientList.map TeeClient.handle = _
      rw [connect_of_connects hconnects]
      unfold registerClient
      simp only [hconnects.2.2.2.2.1, Bool.not_true, Bool.false_eq_true, if_false, List.map_cons]
    have hdistinct := hok.distinct
    rw [hexec, List.nodup_cons] at hdistinct
    exact hdistinct.1 hmem

end Step

/-- The registry is in order after every call, and every next call edits it as it should, exactly when no call breaks it. -/
theorem tee_registry_iff {ι : Type} [DecidableEq ι] (w : PtrWidth) (ops : List (TeeOp ι)) :
    Along (TeeOp.exec w) (fun _ s => RegistryOk w s.context ∧ ∀ op : TeeOp ι, op.Edits w s) ops .start ↔
      Never (TeeOp.exec w) (fun op s => op.Breaks w s) ops .start := by
  have hstart : TeeInv w (TeeState.start : TeeState ι) := ⟨registryInv_start, ptrInv_start⟩
  refine along_iff_never teeInv_exec hstart (fun ops h => ?_) (fun _ op s h hop hok => not_ok_of_breaks h hop hok.1) ops
  have hinv := invariant_of_never teeInv_exec hstart h
  exact ⟨hinv.1.ok, edits_of_inv hinv⟩

/-- A platform that gives everything. -/
def plenty : ConnectAnswers := ⟨true, true, true, 4096, true⟩

/-- A client is connected when the interface is torn down. -/
def tornDown : List (TeeOp Unit) := [.setup (some ()) true, .connect (some ()) 10002 false true plenty, .teardown (some ())]

/-- The client is still counted. -/
theorem tee_registry_torn_down : ¬Along (TeeOp.exec .w64)
    (fun _ s => RegistryOk .w64 s.context ∧ ∀ op : TeeOp Unit, op.Edits .w64 s) tornDown .start := by
  intro h
  have hcount := (h tornDown List.prefix_rfl).1.count
  exact absurd hcount (by decide +kernel)

end DalHost

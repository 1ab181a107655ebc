import DalHost.Client.HandleLedger

/-!
# What the calls of the client library do to its handles

A completed call is a `HandleEvent`: the call, and what it returned and asked the service. `TableStep` says how the accepted
handles can change with an event, and `exec_spec` that every call is such a step and keeps the ledger.
-/

namespace DalHost

/-! ### Completed calls -/

/-- A completed call. -/
structure HandleEvent where
  call : JhiCall
  result : LibResult

/-- The session handle that a call names. -/
def JhiCall.sessionHandle : JhiCall → Option Nat
  | closeSession _ p => p
  | forceCloseSession _ p => p
  | sendAndRecv2 _ p _ _ => some p
  | registerEvents _ p _ => some p
  | unRegisterEvents _ p => some p
  | _ => none

/-- The service says that the session is gone: a close that succeeds or finds no session, or an event handler for no session. -/
def SaysGone : ClientCall → JhiRet → Prop
  | .closeSession .., rc => rc = jhiSuccess ∨ rc = jhiInvalidSessionHandle
  | .setSessionEventHandler .., rc => rc = jhiInvalidSessionHandle
  | _, _ => False

namespace HandleEvent

variable (e : HandleEvent)

/-- The application handle that a successful `JHI_Initialize` returned. -/
def initialized : Option Nat :=
  match e.call with
  | .jhiInitialize _ => if e.result.rc = jhiSuccess then e.result.handle else none
  | _ => none

/-- A `JHI_Deinit` that was accepted. -/
def deinitialized : Bool :=
  match e.call with
  | .deinit _ => e.result.rc = jhiSuccess
  | _ => false

/-- The application handle and the session handle of a successful `JHI_CreateSession`. -/
def created : Option (Nat × Nat) :=
  match e.call with
  | .createSession h .. => if e.result.rc = jhiSuccess then e.result.handle.map fun p => (h, p) else none
  | _ => none

/-- The call ended the session. -/
def Ends (p : Nat) : Prop := e.call.sessionHandle = some p ∧ ∃ x ∈ e.result.asked, SaysGone x.1 x.2

end HandleEvent

/-! ### What a call does to the handles -/

/-- The handles before and after a completed call. -/
inductive TableStep (e : HandleEvent) : Option HandleTable → Option HandleTable → Prop
  | kept (t : Option HandleTable) (hinit : e.initialized = none) (hdeinit : e.deinitialized = false) (hcreated : e.created = none)
      (hends : ∀ p, ¬e.Ends p) : TableStep e t t
  | made (h : Nat) (hinit : e.initialized = some h) (hdeinit : e.deinitialized = false) (hcreated : e.created = none)
      (hends : ∀ p, ¬e.Ends p) : TableStep e none (some ⟨h, 1, []⟩)
  | again (t : HandleTable) (hinit : e.initialized = some t.ptr) (hdeinit : e.deinitialized = false)
      (hcreated : e.created = none) (hends : ∀ p, ¬e.Ends p) : TableStep e (some t) (some { t with count := t.count + 1 })
  | left (t : HandleTable) (hcount : 0 < t.count - 1) (hinit : e.initialized = none) (hdeinit : e.deinitialized = true)
      (hcreated : e.created = none) (hends : ∀ p, ¬e.Ends p) : TableStep e (some t) (some { t with count := t.count - 1 })
  | released (t : HandleTable) (hcount : t.count - 1 = 0) (hinit : e.initialized = none) (hdeinit : e.deinitialized = true)
      (hcreated : e.created = none) (hends : ∀ p, ¬e.Ends p) : TableStep e (some t) none
  | opened (t : HandleTable) (p : Nat) (hinit : e.initialized = none) (hdeinit : e.deinitialized = false)
      (hcreated : e.created = some (t.ptr, p)) (hends : ∀ p, ¬e.Ends p) :
      TableStep e (some t) (some { t with sessions := t.sessions ++ [p] })
  | ended (t : HandleTable) (p : Nat) (hmem : p ∈ t.sessions) (hinit : e.initialized = none) (hdeinit : e.deinitialized = false)
      (hcreated : e.created = none) (hends : ∀ q, e.Ends q ↔ q = p) :
      TableStep e (some t) (some { t with sessions := t.sessions.filter fun q => q ≠ p })

/-- What one call does: to the handles, to the structs, and which address a new application handle gets. -/
structure CallSpec (A : Addresses) (s : JhiLib) (e : HandleEvent) (s' : JhiLib) : Prop where
  step : TableStep e s.table s'.table
  ledger : Ledger A s'
  allocations : s.allocations ≤ s'.allocations
  fresh : ∀ h, s.table = none → e.initialized = some h → h = A.addr s.allocations ∧ s.allocations < s'.allocations

section Calls

variable {A : Addresses} {ans : LibAnswers} {s : JhiLib}

theorem CallSpec.same (hs : Ledger A s) {s' : JhiLib} (h : SameHandles s s') {e : HandleEvent} (hinit : e.initialized = none)
    (hdeinit : e.deinitialized = false) (hcreated : e.created = none) (hends : ∀ p, ¬e.Ends p) : CallSpec A s e s' where
  step := by
    rw [h.table]
    exact .kept _ hinit hdeinit hcreated hends
  ledger := h.ledger hs
  allocations := by rw [h.allocations]
  fresh h _ hsome := by
    rw [hinit] at hsome
    cases hsome

theorem not_ends_of_no_session {e : HandleEvent} (h : e.call.sessionHandle = none) (p : Nat) : ¬e.Ends p := by
  rintro ⟨hp, -⟩
  rw [h] at hp
  cases hp

theorem table_eq_none_iff (hs : Ledger A s) : s.table = none ↔ s.appHandle = none := by
  constructor
  · intro h
    refine Classical.byContradiction fun hne => ?_
    obtain ⟨a, ha⟩ := Option.ne_none_iff_exists'.1 hne
    obtain ⟨l, -, -, htable⟩ := hs.handle ha
    rw [h] at htable
    cases htable
  · intro h
    unfold JhiLib.table
    rw [h]
    rfl

theorem newAppHandle_spec (hs : Ledger A s) (hnone : s.appHandle = none) :
    Ledger A (s.newAppHandle A ans).2 ∧ s.allocations ≤ (s.newAppHandle A ans).2.allocations ∧
    ((s.newAppHandle A ans).1 = none → (s.newAppHandle A ans).2.appHandle = none) ∧
    ∀ p, (s.newAppHandle A ans).1 = some p → p = A.addr s.allocations ∧
      s.allocations < (s.newAppHandle A ans).2.allocations ∧ (s.newAppHandle A ans).2.table = some ⟨p, 1, []⟩ := by
  have hne : ∀ i, A.addr i ≠ 0 := A.ne_null
  unfold JhiLib.newAppHandle
  cases ans.allocHandle with
  | false =>
    simp only [alloc_false, if_true]
    exact ⟨hs, Nat.le_refl _, fun _ => hnone, fun p hp => by cases hp⟩
  | true =>
    cases ans.allocList with
    | false =>
      simp only [alloc_true, alloc_false, hne, if_false, if_true, dealloc_allocations, dealloc_appHandle]
      exact ⟨hs.alloc_dealloc rfl (Nat.lt_succ_self _) rfl, Nat.le_succ _, fun _ => hnone, fun p hp => by cases hp⟩
    | true =>
      cases ans.processInfo with
      | none =>
        simp only [alloc_true, hne, if_false, dealloc_allocations, dealloc_appHandle]
        exact ⟨hs.alloc_dealloc rfl (by show s.allocations < s.allocations + 1 + 1; omega) rfl, by omega, fun _ => hnone,
          fun p hp => by cases hp⟩
      | some info =>
        simp only [alloc_true, hne, if_false]
        refine ⟨⟨?_, ?_, ?_⟩, by omega, fun h => (by cases h), fun p hp => ?_⟩
        · rintro _ ⟨⟩
          rfl
        · -- two new addresses behind the freed ones
          have hfirst := hs.next_not_mem
          have hsecond := (@Ledger.congr A s { s with allocations := s.allocations + 1 } hs rfl (Nat.le_succ _) rfl).next_not_mem
          have hapart : A.addr s.allocations ≠ A.addr (s.allocations + 1) := fun heq => by
            have hi := A.injective _ _ heq
            omega
          show (s.freed ++ [A.addr s.allocations, A.addr (s.allocations + 1)]).Nodup
          have hfreed := (List.nodup_append.1 hs.nodup).1
          rw [List.nodup_append]
          refine ⟨hfreed, by simpa using hapart, fun p hp q hq => ?_⟩
          rintro rfl
          rcases List.mem_cons.1 hq with rfl | hq
          · exact hfirst (List.mem_append_left _ hp)
          · rw [List.mem_singleton] at hq
            subst hq
            exact hsecond (List.mem_append_left _ hp)
        · intro p hp
          have hp' : p ∈ s.freed ++ [A.addr s.allocations, A.addr (s.allocations + 1)] := hp
          rcases List.mem_append.1 hp' with hp' | hp'
          · obtain ⟨i, hi, rfl⟩ := hs.given p (List.mem_append_left _ hp')
            exact ⟨i, by show i < s.allocations + 1 + 1; omega, rfl⟩
          · rcases List.mem_cons.1 hp' with rfl | hp'
            · exact ⟨s.allocations, by show s.allocations < s.allocations + 1 + 1; omega, rfl⟩
            · exact ⟨s.allocations + 1, by show s.allocations + 1 < s.allocations + 1 + 1; omega, List.mem_singleton.1 hp'⟩
        · cases hp
          exact ⟨rfl, by omega, rfl⟩

theorem jhiInitialize_spec (hs : Ledger A s) (ppHandle : Bool) :
    CallSpec A s ⟨.jhiInitialize ppHandle, (s.jhiInitialize A ans ppHandle).1⟩ (s.jhiInitialize A ans ppHandle).2 := by
  have hfail : ∀ (asked : List (ClientCall × JhiRet)) {rc : JhiRet}, rc ≠ jhiSuccess →
      (HandleEvent.mk (.jhiInitialize ppHandle) ⟨rc, none, asked⟩).initialized = none := fun _ _ h => if_neg h
  cases ppHandle with
  | false => exact .same hs (sameHandles_refl s) (@hfail [] jhiInvalidHandle (by decide)) rfl rfl (not_ends_of_no_session rfl)
  | true =>
    unfold JhiLib.jhiInitialize
    simp only [Bool.not_true, Bool.false_eq_true, if_false]
    cases ha : s.appHandle with
    | some a =>
      obtain ⟨l, hl, hlive, htable⟩ := hs.handle ha
      have htable' : ({ s with appHandle := some { a with referenceCount := a.referenceCount + 1 } } : JhiLib).table =
          some ⟨a.ptr, a.referenceCount + 1, l.items⟩ := by
        simp only [JhiLib.table, Option.bind_some, IHandle.table, hl, Option.map_some]
      refine ⟨?_, hs.perm ?_ rfl ?_, Nat.le_refl _, fun h hnone => ?_⟩
      · rw [htable, htable']
        exact .again ⟨a.ptr, a.referenceCount, l.items⟩ rfl rfl rfl (not_ends_of_no_session rfl)
      · rintro _ ⟨⟩
        exact hs.shape a ha
      · simp only [JhiLib.live, ha]
        exact List.Perm.refl _
      · rw [htable] at hnone
        cases hnone
    | none =>
      simp only
      by_cases hrc : ans.service .init = jhiSuccess
      · rw [if_neg (not_not.2 hrc)]
        obtain ⟨hledger, halloc, hfailed, hmade⟩ := @newAppHandle_spec A ans s hs ha
        have htable : s.table = none := (table_eq_none_iff hs).2 ha
        generalize s.newAppHandle A ans = made at hledger halloc hfailed hmade ⊢
        obtain ⟨p, s'⟩ := made
        cases p with
        | none =>
          refine ⟨?_, hledger, halloc, fun h _ hinit => ?_⟩
          · rw [htable, (table_eq_none_iff hledger).2 (hfailed rfl)]
            exact .kept _ (hfail _ (by decide)) rfl rfl (not_ends_of_no_session rfl)
          · rw [hfail _ (by decide)] at hinit
            cases hinit
        | some p =>
          obtain ⟨hp, hlt, htable'⟩ := hmade p rfl
          have hinit : (HandleEvent.mk (.jhiInitialize true) ⟨ans.service .init, some p, [(.init, ans.service .init)]⟩).initialized =
              some p := if_pos hrc
          refine ⟨?_, hledger, halloc, fun h _ hinit' => ?_⟩
          · rw [htable, htable']
            exact .made p hinit rfl rfl (not_ends_of_no_session rfl)
          · rw [hinit] at hinit'
            cases hinit'
            exact ⟨hp, hlt⟩
      · rw [if_pos hrc]
        exact .same hs (sameHandles_refl s) (hfail _ hrc) rfl rfl (not_ends_of_no_session rfl)

theorem jhiDeinit_spec (hs : Ledger A s) (handle : Nat) :
    CallSpec A s ⟨.deinit handle, (s.jhiDeinit ans handle).1⟩ (s.jhiDeinit ans handle).2 := by
  unfold JhiLib.jhiDeinit
  by_cases hvalid : s.validateJHIhandle handle = true
  · simp only [hvalid, Bool.not_true, Bool.false_eq_true, if_false]
    obtain ⟨t, ht, -⟩ := (validateJHIhandle_iff hs).1 hvalid
    cases ha : s.appHandle with
    | none =>
      rw [(table_eq_none_iff hs).2 ha] at ht
      cases ht
    | some a =>
      obtain ⟨l, hl, hlive, htable⟩ := hs.handle ha
      simp only
      have hfresh : ∀ h, s.table = none →
          (HandleEvent.mk (.deinit handle) (.refuse jhiSuccess)).initialized = some h →
          ∀ s' : JhiLib, h = A.addr s.allocations ∧ s.allocations < s'.allocations := by
        intro h hnone
        rw [htable] at hnone
        cases hnone
      by_cases hcount : 0 < a.referenceCount - 1
      · rw [if_pos hcount]
        have htable' : ({ s with appHandle := some { a with referenceCount := a.referenceCount - 1 } } : JhiLib).table =
            some ⟨a.ptr, a.referenceCount - 1, l.items⟩ := by
          simp only [JhiLib.table, Option.bind_some, IHandle.table, hl, Option.map_some]
        refine ⟨?_, hs.perm ?_ rfl ?_, Nat.le_refl _, fun h hnone hinit => hfresh h hnone hinit _⟩
        · rw [htable, htable']
          exact .left ⟨a.ptr, a.referenceCount, l.items⟩ hcount rfl rfl rfl (not_ends_of_no_session rfl)
        · rintro _ ⟨⟩
          exact hs.shape a ha
        · simp only [JhiLib.live, ha]
          exact List.Perm.refl _
      · rw [if_neg hcount]
        have hzero : a.referenceCount - 1 = 0 := by
          rw [UInt32.pos_iff_ne_zero] at hcount
          exact not_not.1 hcount
        have hne : ∀ p ∈ a.ptr :: l.ptr :: l.items, p ≠ 0 := fun p hp => hs.ne_null (by rw [hlive]; exact hp)
        refine ⟨?_, ledger_release hs ha _ rfl rfl, ?_, fun h hnone hinit => hfresh h hnone hinit _⟩
        · rw [htable]
          exact .released _ hzero rfl rfl rfl (not_ends_of_no_session rfl)
        · rw [(@release_freed ans { a with referenceCount := a.referenceCount - 1 } _ l hl hne).2]
  · rw [Bool.not_eq_true] at hvalid
    simp only [hvalid, Bool.not_false, if_true]
    exact .same hs (sameHandles_refl s) rfl rfl rfl (not_ends_of_no_session rfl)

theorem Ledger.add (hs : Ledger A s) {s' : JhiLib} (hshape : ∀ a, s'.appHandle = some a → a.sessionsList.isSome = true)
    (halloc : s'.allocations = s.allocations + 1) (hfreed : s'.freed = s.freed)
    (hlive : s'.live.Perm (A.addr s.allocations :: s.live)) : Ledger A s' := by
  have hperm : (s'.freed ++ s'.live).Perm (A.addr s.allocations :: (s.freed ++ s.live)) := by
    rw [hfreed]
    exact (hlive.append_left _).trans List.perm_middle
  refine ⟨hshape, hperm.nodup_iff.2 (List.nodup_cons.2 ⟨hs.next_not_mem, hs.nodup⟩), fun p hp => ?_⟩
  rw [halloc]
  rcases List.mem_cons.1 (hperm.mem_iff.1 hp) with rfl | hp
  · exact ⟨s.allocations, Nat.lt_succ_self _, rfl⟩
  · obtain ⟨i, hi, rfl⟩ := hs.given p hp
    exact ⟨i, by omega, rfl⟩

theorem newSession_spec (hs : Ledger A s) {t : HandleTable} (ht : s.table = some t) {call : JhiCall} {appId : Option CText}
    {flags : UInt32} {buffer : Option DataBuffer} {out : Bool} (hcall : call = .createSession t.ptr appId flags buffer out)
    (id : AppId) (initBuffer : DataBuffer) :
    CallSpec A s ⟨call, (s.newSession A ans id flags initBuffer).1⟩ (s.newSession A ans id flags initBuffer).2 := by
  subst hcall
  have hfresh : ∀ {e : HandleEvent} {s' : JhiLib} (h : Nat), s.table = none → e.initialized = some h →
      h = A.addr s.allocations ∧ s.allocations < s'.allocations := by
    intro e s' h hnone
    rw [ht] at hnone
    cases hnone
  unfold JhiLib.newSession
  cases ans.allocHandle with
  | false =>
    simp only [alloc_false, if_true]
    exact .same hs (sameHandles_refl s) rfl rfl rfl (not_ends_of_no_session rfl)
  | true =>
    have hne : A.addr s.allocations ≠ 0 := A.ne_null _
    cases ha : s.appHandle with
    | none =>
      rw [(table_eq_none_iff hs).2 ha] at ht
      cases ht
    | some a =>
      obtain ⟨l, hl, hlive, htable⟩ := hs.handle ha
      rw [htable] at ht
      cases ht
      simp only [alloc_true, hne, if_false, ha]
      by_cases hrc : ans.service (.createSession id flags initBuffer.data a.processInfo) = jhiSuccess
      · rw [if_neg (not_not.2 hrc)]
        have hadd : ({ s with allocations := s.allocations + 1 }.edit (A.addr s.allocations) fun _ =>
              ⟨ans.sessionID, false, false, false, false, flags, a.processInfo⟩).addSessionHandle (A.addr s.allocations) =
            (true, ({ s with allocations := s.allocations + 1 }.edit (A.addr s.allocations) fun _ =>
              ⟨ans.sessionID, false, false, false, false, flags, a.processInfo⟩).setItems (l.items ++ [A.addr s.allocations])) := by
          simp only [JhiLib.addSessionHandle, JhiLib.sessionsList, JhiLib.edit, ha, Option.bind_some, hl, hne, if_false]
        rw [ha] at hadd
        rw [hadd]
        have happ : (({ s with allocations := s.allocations + 1 }.edit (A.addr s.allocations) fun _ =>
              ⟨ans.sessionID, false, false, false, false, flags, a.processInfo⟩).setItems
                (l.items ++ [A.addr s.allocations])).appHandle =
            some { a with sessionsList := some { l with items := l.items ++ [A.addr s.allocations] } } := by
          simp only [JhiLib.setItems, JhiLib.edit, ha, hl, Option.map_some]
        rw [ha] at happ
        refine ⟨?_, hs.add ?_ rfl rfl ?_, Nat.le_succ _, hfresh⟩
        · rw [htable, JhiLib.table, happ]
          exact .opened ⟨a.ptr, a.referenceCount, l.items⟩ (A.addr s.allocations) rfl rfl (if_pos hrc) (not_ends_of_no_session rfl)
        · rw [happ]
          rintro _ ⟨⟩
          rfl
        · rw [JhiLib.live, happ, hlive]
          show (a.ptr :: l.ptr :: (l.items ++ [A.addr s.allocations])).Perm _
          exact @List.perm_append_comm _ (a.ptr :: l.ptr :: l.items) [A.addr s.allocations]
      · rw [if_pos hrc]
        refine ⟨?_, hs.alloc_dealloc ha.symm (Nat.lt_succ_self _) rfl, ?_, hfresh⟩
        · unfold JhiLib.table
          rw [dealloc_appHandle, ← ha]
          exact .kept _ rfl rfl (if_neg hrc) (not_ends_of_no_session rfl)
        · rw [dealloc_allocations]
          exact Nat.le_succ _

theorem jhiCreateSession_spec (hs : Ledger A s) (handle : Nat) (appId : Option CText) (flags : UInt32) (initBuffer : Option DataBuffer)
    (out : Bool) :
    CallSpec A s ⟨.createSession handle appId flags initBuffer out, (s.jhiCreateSession A ans handle appId flags initBuffer out).1⟩
      (s.jhiCreateSession A ans handle appId flags initBuffer out).2 := by
  have hrefuse : ∀ {rc : JhiRet}, rc ≠ jhiSuccess →
      CallSpec A s ⟨.createSession handle appId flags initBuffer out, .refuse rc⟩ s :=
    fun hrc => .same hs (sameHandles_refl s) rfl rfl (if_neg hrc) (not_ends_of_no_session rfl)
  unfold JhiLib.jhiCreateSession
  split_ifs with hinvalid hout
  · exact hrefuse (by decide)
  · exact hrefuse (by decide)
  · have hvalid : s.validateJHIhandle handle = true := by simpa using hinvalid
    obtain ⟨t, ht, rfl⟩ := (validateJHIhandle_iff hs).1 hvalid
    simp only
    cases appId.bind fun id => jhiUtilUUIDValidate id.text with
    | none => exact hrefuse (by decide)
    | some id =>
      simp only
      split_ifs
      · exact hrefuse (by decide)
      · exact hrefuse (by decide)
      · exact newSession_spec hs ht rfl id _

/-! ### Calls that name a session -/

/-- What a call does that names a session: nothing that a handle sees, or the session is ended. -/
inductive SessionEffect (A : Addresses) (s : JhiLib) (p : Nat) (asked : List (ClientCall × JhiRet)) : JhiLib → Prop
  | kept {s' : JhiLib} (h : SameHandles s s') (hasked : ∀ x ∈ asked, ¬SaysGone x.1 x.2) : SessionEffect A s p asked s'
  | ended {s' : JhiLib} {t : HandleTable} (ht : s.table = some t) (hmem : p ∈ t.sessions) (hasked : ∃ x ∈ asked, SaysGone x.1 x.2)
      (hledger : Ledger A s') (halloc : s'.allocations = s.allocations)
      (ht' : s'.table = some { t with sessions := t.sessions.filter fun q => q ≠ p }) : SessionEffect A s p asked s'

theorem SessionEffect.refused {p : Nat} {s' : JhiLib} (h : SameHandles s s') : SessionEffect A s p [] s' :=
  .kept h fun x hx => by cases hx

theorem SessionEffect.forget (hs : Ledger A s) {s' : JhiLib} (h : SameHandles s s') {p : Nat} (hvalid : s.sessionHandleValid p = true)
    {asked : List (ClientCall × JhiRet)} (hasked : ∃ x ∈ asked, SaysGone x.1 x.2) : SessionEffect A s p asked (s'.forget p).2 := by
  obtain ⟨t, ht, hmem⟩ := (sessionHandleValid_iff hs).1 hvalid
  obtain ⟨-, hledger, halloc, htable⟩ := forget_spec (h.ledger hs) (h.table.trans ht) hmem
  exact .ended ht hmem hasked hledger (halloc.trans h.allocations) htable

theorem CallSpec.ofSession (hs : Ledger A s) {e : HandleEvent} {p : Nat} {s' : JhiLib} (h : SessionEffect A s p e.result.asked s')
    (hp : e.call.sessionHandle = some p) (hinit : e.initialized = none) (hdeinit : e.deinitialized = false)
    (hcreated : e.created = none) : CallSpec A s e s' := by
  cases h with
  | kept hsame hasked =>
    refine .same hs hsame hinit hdeinit hcreated ?_
    rintro q ⟨-, x, hx, hgone⟩
    exact hasked x hx hgone
  | ended ht hmem hasked hledger halloc ht' =>
    refine ⟨?_, hledger, Nat.le_of_eq halloc.symm, fun h _ hsome => ?_⟩
    · rw [ht, ht']
      refine .ended _ p hmem hinit hdeinit hcreated fun q => ?_
      constructor
      · rintro ⟨hq, -⟩
        rw [hp] at hq
        exact (Option.some.inj hq).symm
      · rintro rfl
        exact ⟨hp, hasked⟩
    · rw [hinit] at hsome
      cases hsome

theorem jhiCloseSessionInternal_effect (hs : Ledger A s) (handle p : Nat) (force : Bool) :
    SessionEffect A s p (s.jhiCloseSessionInternal ans handle (some p) force).1.asked
      (s.jhiCloseSessionInternal ans handle (some p) force).2 := by
  unfold JhiLib.jhiCloseSessionInternal
  split_ifs with hinvalid
  · exact .refused (sameHandles_refl s)
  · cases ha : s.appHandle with
    | none => exact .refused (sameHandles_refl s)
    | some a =>
      simp only
      by_cases hvalid : s.sessionHandleValid p = true
      · simp only [hvalid, Bool.not_true, Bool.false_eq_true, if_false]
        have hsame := sameHandles_closeEvent ans p s
        generalize (if s.hasEvent ans p then s.closeSessionEventThread ans p else s) = s₁ at hsame ⊢
        generalize ans.service (.closeSession (s₁.memory p).sessionID a.processInfo force) = answer
        have hrc : (if answer = jhiInvalidSessionHandle then jhiSuccess else answer) = jhiSuccess ↔
            answer = jhiSuccess ∨ answer = jhiInvalidSessionHandle := by
          split_ifs with h
          · simp [h]
          · simp [h]
        by_cases hgone : answer = jhiSuccess ∨ answer = jhiInvalidSessionHandle
        · rw [if_pos (hrc.2 hgone)]
          exact .forget hs hsame hvalid ⟨_, List.mem_singleton.2 rfl, hgone⟩
        · rw [if_neg fun h => hgone (hrc.1 h)]
          refine .kept hsame fun x hx => ?_
          rw [List.mem_singleton.1 hx]
          exact hgone
      · rw [Bool.not_eq_true] at hvalid
        simp only [hvalid, Bool.not_false, if_true]
        exact .refused (sameHandles_refl s)

theorem jhiCloseSessionInternal_none (handle : Nat) (force : Bool) :
    ∃ rc, s.jhiCloseSessionInternal ans handle none force = (.refuse rc, s) := by
  unfold JhiLib.jhiCloseSessionInternal
  split_ifs
  · exact ⟨_, rfl⟩
  · exact ⟨_, rfl⟩

theorem jhiSendAndRecv2_effect (hs : Ledger A s) (handle p : Nat) (commandId : UInt32) (comm : Option (DataBuffer × DataBuffer)) :
    SessionEffect A s p (s.jhiSendAndRecv2 ans handle p commandId comm).1.asked
      (s.jhiSendAndRecv2 ans handle p commandId comm).2 := by
  unfold JhiLib.jhiSendAndRecv2
  split_ifs with hinvalid hvalid
  · exact .refused (sameHandles_refl s)
  · exact .refused (sameHandles_refl s)
  · rcases comm with _ | ⟨tx, rx⟩
    · exact .refused (sameHandles_refl s)
    · simp only
      split_ifs
      · exact .refused (sameHandles_refl s)
      · exact .refused (sameHandles_refl s)
      · -- the close that follows a dead session
        cases @jhiCloseSessionInternal_effect A ans s hs handle p false with
        | kept hsame hasked => exact .kept hsame (List.forall_mem_cons.2 ⟨id, hasked⟩)
        | ended ht hmem hasked hledger halloc ht' =>
          obtain ⟨x, hx, hgone⟩ := hasked
          exact .ended ht hmem ⟨x, List.mem_cons_of_mem _ hx, hgone⟩ hledger halloc ht'
      · refine .kept (sameHandles_refl s) fun x hx => ?_
        rw [List.mem_singleton.1 hx]
        exact id

/-- The service is asked for a session that is in the list only, and it alone says that the session is not there. -/
theorem registerAtService_asked (p : Nat) :
    ((s.registerAtService ans p).1.asked = [] ∧
      ((s.registerAtService ans p).1.rc = jhiInvalidSessionHandle → s.sessionHandleValid p = false)) ∨
    (s.sessionHandleValid p = true ∧ ∃ sessionID handleName,
      (s.registerAtService ans p).1.asked = [(.setSessionEventHandler sessionID handleName, (s.registerAtService ans p).1.rc)]) := by
  have hcodes : jhiEventsNotSupported ≠ jhiInvalidSessionHandle ∧ jhiSessionAlreadyRegsitered ≠ jhiInvalidSessionHandle ∧
      jhiInternalError ≠ jhiInvalidSessionHandle := by decide
  unfold JhiLib.registerAtService
  cases hvalid : s.sessionHandleValid p with
  | false => exact .inl ⟨rfl, fun _ => rfl⟩
  | true =>
    simp only [Bool.not_true, Bool.false_eq_true, if_false]
    cases ans.uuid with
    | none =>
      simp only
      split_ifs
      · exact .inl ⟨rfl, fun h => absurd h hcodes.1⟩
      · exact .inl ⟨rfl, fun h => absurd h hcodes.2.1⟩
      · exact .inl ⟨rfl, fun h => absurd h hcodes.2.2⟩
      · exact .inl ⟨rfl, fun h => absurd h hcodes.2.2⟩
    | some uuid =>
      simp only
      split_ifs
      · exact .inl ⟨rfl, fun h => absurd h hcodes.1⟩
      · exact .inl ⟨rfl, fun h => absurd h hcodes.2.1⟩
      · exact .inl ⟨rfl, fun h => absurd h hcodes.2.2⟩
      · exact .inl ⟨rfl, fun h => absurd h hcodes.2.2⟩
      · exact .inr ⟨trivial, _, _, rfl⟩

theorem jhiRegisterEvents_effect (hs : Ledger A s) (handle p : Nat) (callback : Bool) :
    SessionEffect A s p (s.jhiRegisterEvents ans handle p callback).1.asked (s.jhiRegisterEvents ans handle p callback).2 := by
  unfold JhiLib.jhiRegisterEvents
  split_ifs with hinvalid hcallback
  · exact .refused (sameHandles_refl s)
  · exact .refused (sameHandles_refl s)
  · have hsame := sameHandles_registerAtService ans p s
    have hasked := @registerAtService_asked ans s p
    generalize s.registerAtService ans p = r at hsame hasked ⊢
    obtain ⟨result, s₁⟩ := r
    simp only at hsame hasked ⊢
    have hthread := hsame.trans (sameHandles_closeSessionEventThread ans p s₁)
    -- the answer says that the session is gone exactly when the code is the one that is checked
    have hgone : ∀ x ∈ result.asked, SaysGone x.1 x.2 → result.rc = jhiInvalidSessionHandle := by
      intro x hx hx'
      rcases hasked with ⟨hnil, -⟩ | ⟨-, sessionID, handleName, heq⟩
      · rw [hnil] at hx
        cases hx
      · rw [heq, List.mem_singleton] at hx
        subst hx
        exact hx'
    split_ifs with hfailed hrc
    · rcases hasked with ⟨hnil, hinv⟩ | ⟨hvalid, sessionID, handleName, heq⟩
      · rw [forget_of_not_valid ((hthread.sessionHandleValid p).trans (hinv hrc)), hnil]
        exact .refused hthread
      · refine .forget hs hthread hvalid ⟨(.setSessionEventHandler sessionID handleName, result.rc), ?_, hrc⟩
        rw [heq]
        exact List.mem_singleton.2 rfl
    · exact .kept hthread fun x hx hx' => hrc (hgone x hx hx')
    · refine .kept hsame fun x hx hx' => hfailed ?_
      rw [hgone x hx hx']
      decide

theorem jhiUnRegisterEvents_effect (hs : Ledger A s) (handle p : Nat) :
    SessionEffect A s p (s.jhiUnRegisterEvents ans handle p).1.asked (s.jhiUnRegisterEvents ans handle p).2 := by
  unfold JhiLib.jhiUnRegisterEvents
  simp only
  have hsame := sameHandles_closeSessionEventThread ans p s
  split_ifs with hinvalid hvalid hshared hevent hrc
  · exact .refused (sameHandles_refl s)
  · exact .refused (sameHandles_refl s)
  · exact .refused (sameHandles_refl s)
  · exact .refused (sameHandles_refl s)
  · exact .forget hs hsame (by simpa using hvalid) ⟨_, List.mem_singleton.2 rfl, hrc⟩
  · refine .kept hsame fun x hx => ?_
    rw [List.mem_singleton.1 hx]
    exact hrc

theorem exec_spec (hs : Ledger A s) (call : JhiCall) :
    CallSpec A s ⟨call, (call.exec A ans s).1⟩ (call.exec A ans s).2 := by
  have hclose : ∀ {call : JhiCall} (handle : Nat) (sessionHandle : Option Nat) (force : Bool) {result : LibResult × JhiLib},
      s.jhiCloseSessionInternal ans handle sessionHandle force = result → call.sessionHandle = sessionHandle →
      (HandleEvent.mk call result.1).initialized = none ∧ (HandleEvent.mk call result.1).deinitialized = false →
      (HandleEvent.mk call result.1).created = none → CallSpec A s ⟨call, result.1⟩ result.2 := by
    rintro call handle sessionHandle force result rfl hcall ⟨hinit, hdeinit⟩ hcreated
    cases sessionHandle with
    | none =>
      obtain ⟨rc, hrefused⟩ := @jhiCloseSessionInternal_none ans s handle force
      rw [hrefused] at hinit hdeinit hcreated ⊢
      exact .same hs (sameHandles_refl s) hinit hdeinit hcreated (not_ends_of_no_session hcall)
    | some p => exact .ofSession hs (jhiCloseSessionInternal_effect hs handle p force) hcall hinit hdeinit hcreated
  cases call with
  | jhiInitialize ppHandle => exact jhiInitialize_spec hs ppHandle
  | deinit handle => exact jhiDeinit_spec hs handle
  | createSession handle appId flags initBuffer out => exact jhiCreateSession_spec hs handle appId flags initBuffer out
  | closeSession handle sessionHandle => exact hclose handle sessionHandle false rfl rfl ⟨rfl, rfl⟩ rfl
  | forceCloseSession handle sessionHandle => exact hclose handle sessionHandle true rfl rfl ⟨rfl, rfl⟩ rfl
  | sendAndRecv2 handle p commandId comm => exact .ofSession hs (jhiSendAndRecv2_effect hs handle p commandId comm) rfl rfl rfl rfl
  | registerEvents handle p callback => exact .ofSession hs (jhiRegisterEvents_effect hs handle p callback) rfl rfl rfl rfl
  | unRegisterEvents handle p => exact .ofSession hs (jhiUnRegisterEvents_effect hs handle p) rfl rfl rfl rfl

end Calls

end DalHost

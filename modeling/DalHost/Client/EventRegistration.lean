import DalHost.Client.HandleHistory
import DalHost.Lib.Calls

/-!
# Registering for events

`JHI_RegisterEvents` sets four fields of the session struct one after the other, and can fail after each. Every
failure takes back some of the fields where it happens, and a common clean-up takes back the rest; it is left out
when the session is registered already. Here the fields are kept with what they point to. The handles are those of
`JhiLib`.

The listener thread closes its event when it ends, which can be at any time: between two calls (`listenerEnds`), or
before the clean-up of the call that started it (an `isCreated` that is false).
-/

namespace DalHost

variable {γ : Type}

/-- The fields of `JHI_I_SESSION_HANDLE` that have to do with events: the event with its `_created`, the thread, the
function to be called, and the flag that ends the thread. -/
structure EventFields (γ : Type) where
  eventHandle : Option Bool
  threadHandle : Bool
  callback : Option γ
  threadNeedToEnd : Option UInt8

/-- `eventHandle != NULL && eventHandle->is_created()`. -/
def EventFields.created (x : EventFields γ) : Bool := x.eventHandle = some true

structure EventLib (γ : Type) where
  lib : JhiLib
  fields : Nat → EventFields γ

namespace EventLib

variable (ans : LibAnswers)

def edit (p : Nat) (f : EventFields γ → EventFields γ) (s : EventLib γ) : EventLib γ :=
  { s with fields := Function.update s.fields p (f (s.fields p)) }

/-- The session has an event that is created. -/
def registered (s : EventLib γ) (p : Nat) : Bool := s.lib.sessionHandleValid p && (s.fields p).created

/-- The session was created with `JHI_SHARED_SESSION`. -/
def shared (s : EventLib γ) (p : Nat) : Bool := sharedSession (s.lib.memory p).sessionFlags

/-- `closeSessionEventThread`. -/
def closeSessionEventThread (p : Nat) (s : EventLib γ) : EventLib γ :=
  if !s.lib.sessionHandleValid p then s
  else
    s.edit p fun x =>
      { eventHandle := if x.created then none else x.eventHandle
        threadHandle := false
        callback := none
        threadNeedToEnd := if x.created then x.threadNeedToEnd.map fun _ => 1 else x.threadNeedToEnd }

/-- A failure behind the allocation of the event, or in it: the flag and the event are freed. -/
def withoutEvent (p : Nat) (s : EventLib γ) : EventLib γ :=
  s.edit p fun x => { x with eventHandle := none, threadNeedToEnd := none }

/-- `JHI_RegisterEvents` under the lock, up to the clean-up. -/
def registerAtService (p : Nat) (callback : γ) (s : EventLib γ) : LibResult × EventLib γ :=
  if !s.lib.sessionHandleValid p then (.refuse jhiInvalidSessionHandle, s)
  else if s.shared p then (.refuse jhiEventsNotSupported, s)
  else if (s.fields p).created then (.refuse jhiSessionAlreadyRegsitered, s)
  else if !ans.allocNeedToEnd then (.refuse jhiInternalError, s.edit p fun x => { x with threadNeedToEnd := none })
  else
    let s := s.edit p fun x => { x with threadNeedToEnd := some 0, callback := some callback }
    match ans.uuid with
    | none => (.refuse jhiInternalError, s.edit p fun x => { x with threadNeedToEnd := none })
    | some uuid =>
      if !ans.allocEvent then (.refuse jhiInternalError, s.withoutEvent p)
      else if !ans.createEvent then (.refuse jhiInternalError, s.withoutEvent p)
      else if !ans.createThread then (.refuse jhiInternalError, s.withoutEvent p)
      else
        let request := ClientCall.setSessionEventHandler (s.lib.memory p).sessionID (generateHandleUUID uuid)
        let rc := ans.service request
        -- the new thread may have closed its event by now
        (⟨rc, none, [(request, rc)]⟩, s.edit p fun x => { x with eventHandle := some (ans.isCreated p), threadHandle := true })

/-- `JHI_RegisterEvents`, with a callback that may be `NULL`. -/
def jhiRegisterEvents (handle p : Nat) (callback : Option γ) (s : EventLib γ) : LibResult × EventLib γ :=
  if !s.lib.validateJHIhandle handle then (.refuse jhiInvalidHandle, s)
  else
    match callback with
    | none => (.refuse jhiInvalidParams, s)
    | some callback =>
      let (result, s) := s.registerAtService ans p callback
      if result.rc ≠ jhiSuccess ∧ result.rc ≠ jhiSessionAlreadyRegsitered then
        let s := s.closeSessionEventThread p
        if result.rc = jhiInvalidSessionHandle then (result, { s with lib := (s.lib.forget p).2 }) else (result, s)
      else (result, s)

/-- `JHI_UnRegisterEvents`. -/
def jhiUnRegisterEvents (handle p : Nat) (s : EventLib γ) : LibResult × EventLib γ :=
  if !s.lib.validateJHIhandle handle then (.refuse jhiInvalidHandle, s)
  else if !s.lib.sessionHandleValid p then (.refuse jhiInvalidSessionHandle, s)
  else if s.shared p then (.refuse jhiEventsNotSupported, s)
  else if !(s.fields p).created then (.refuse jhiSessionNotRegistered, s)
  else
    let s := s.closeSessionEventThread p
    let request := ClientCall.setSessionEventHandler (s.lib.memory p).sessionID []
    let rc := ans.service request
    if rc = jhiInvalidSessionHandle then (⟨rc, none, [(request, rc)]⟩, { s with lib := (s.lib.forget p).2 })
    else (⟨rc, none, [(request, rc)]⟩, s)

end EventLib

/-! ### Handles -/

section Handles

variable (lib : JhiLib) (p q : Nat)

theorem sessionHandleValid_forget : (lib.forget p).2.sessionHandleValid q = (lib.sessionHandleValid q && q ≠ p) := by
  cases hvalid : lib.sessionHandleValid p with
  | false =>
    rw [forget_of_not_valid hvalid]
    by_cases hq : q = p
    · rw [hq, hvalid]
      rfl
    · simp [hq]
  | true =>
    cases hlist : lib.sessionsList with
    | none => simp [JhiLib.sessionHandleValid, hlist] at hvalid
    | some l =>
      have hforget : lib.forget p = (true, (lib.setItems (l.items.filter fun q => q ≠ p)).dealloc p) := by
        simp [JhiLib.forget, JhiLib.removeSessionHandle, hvalid, hlist]
      have hitems : (lib.forget p).2.sessionsList = some { l with items := l.items.filter fun q => q ≠ p } := by
        cases happ : lib.appHandle with
        | none => simp [JhiLib.sessionsList, happ] at hlist
        | some a =>
          have hl : a.sessionsList = some l := by simpa [JhiLib.sessionsList, happ] using hlist
          simp [hforget, JhiLib.sessionsList, JhiLib.setItems, dealloc_appHandle, happ, hl]
      rw [JhiLib.sessionHandleValid, hitems, JhiLib.sessionHandleValid, hlist]
      by_cases hq : q = p
      · simp [hq]
      · simp [hq, List.mem_filter]

theorem memory_forget : (lib.forget p).2.memory = lib.memory := by
  unfold JhiLib.forget JhiLib.removeSessionHandle JhiLib.dealloc
  split_ifs <;> cases lib.sessionsList <;> rfl

end Handles

/-! ### One call -/

section Call

variable (s : EventLib γ) (ans : LibAnswers) (handle p : Nat)

/-- A call with a bad JHI handle or without a callback. -/
def EventLib.Misused (callback : Option γ) : Prop := s.lib.validateJHIhandle handle = false ∨ callback = none

/-- What `JHI_UnRegisterEvents` answers for a session that is not registered. -/
def EventLib.unregisteredCode : JhiRet :=
  if s.lib.sessionHandleValid p = false then jhiInvalidSessionHandle
  else if s.shared p then jhiEventsNotSupported
  else jhiSessionNotRegistered

/-- The session is not registered: no registration is refused because it were, and there is nothing to unregister. -/
structure EventLib.Unregistered : Prop where
  none : s.registered p = false
  again : ∀ ans handle callback, (s.jhiRegisterEvents ans handle p callback).1 ≠ .refuse jhiSessionAlreadyRegsitered
  back : ∀ ans handle, s.lib.validateJHIhandle handle = true →
    (s.jhiUnRegisterEvents ans handle p).1 = .refuse (s.unregisteredCode p)

/-- A registration is made whole or not at all. -/
structure EventLib.RegistersWhole (callback : Option γ) : Prop where
  misused : s.Misused handle callback → (s.jhiRegisterEvents ans handle p callback).2 = s
  failed : ¬s.Misused handle callback → (s.jhiRegisterEvents ans handle p callback).1.rc ≠ jhiSuccess →
    (s.jhiRegisterEvents ans handle p callback).1.rc ≠ jhiSessionAlreadyRegsitered →
    (s.jhiRegisterEvents ans handle p callback).2.Unregistered p
  already : (∀ request, ans.service request ≠ jhiSessionAlreadyRegsitered) →
    (s.jhiRegisterEvents ans handle p callback).1.rc = jhiSessionAlreadyRegsitered → (s.jhiRegisterEvents ans handle p callback).2 = s
  shared : ¬s.Misused handle callback → s.lib.sessionHandleValid p = true → s.shared p = true →
    (s.jhiRegisterEvents ans handle p callback).1 = .refuse jhiEventsNotSupported

variable {s ans handle p}

@[simp] theorem fields_edit (f : EventFields γ → EventFields γ) : (s.edit p f).fields p = f (s.fields p) :=
  Function.update_self ..

theorem lib_closeSessionEventThread : (s.closeSessionEventThread p).lib = s.lib := by
  unfold EventLib.closeSessionEventThread
  split_ifs <;> rfl

theorem registered_closeSessionEventThread : (s.closeSessionEventThread p).registered p = false := by
  unfold EventLib.registered
  rw [lib_closeSessionEventThread]
  cases hvalid : s.lib.sessionHandleValid p with
  | false => rfl
  | true =>
    have hclose : s.closeSessionEventThread p = s.edit p _ := if_neg (by rw [hvalid]; exact Bool.false_ne_true)
    rw [hclose, fields_edit, Bool.true_and]
    cases hcreated : (s.fields p).created with
    | false =>
      rw [EventFields.created] at hcreated ⊢
      simpa using hcreated
    | true => rfl

theorem lib_registerAtService (callback : γ) : (s.registerAtService ans p callback).2.lib = s.lib := by
  unfold EventLib.registerAtService EventLib.withoutEvent
  cases ans.uuid <;> dsimp only <;> split_ifs <;> rfl

/-- The three answers without a trace: the session is not there, is shared, or is registered already. -/
theorem registerAtService_refuses (callback : γ) :
    (s.lib.sessionHandleValid p = false → s.registerAtService ans p callback = (.refuse jhiInvalidSessionHandle, s)) ∧
    (s.lib.sessionHandleValid p = true → s.shared p = true →
      s.registerAtService ans p callback = (.refuse jhiEventsNotSupported, s)) ∧
    (s.lib.sessionHandleValid p = true → s.shared p = false → (s.fields p).created = true →
      s.registerAtService ans p callback = (.refuse jhiSessionAlreadyRegsitered, s)) := by
  refine ⟨fun hvalid => ?_, fun hvalid hshared => ?_, fun hvalid hshared hcreated => ?_⟩
  · simp [EventLib.registerAtService, hvalid]
  · simp [EventLib.registerAtService, hvalid, hshared]
  · simp [EventLib.registerAtService, hvalid, hshared, hcreated]

/-- No other session is told that it is registered already, unless the service says so. -/
theorem registerAtService_of_not_created (callback : γ) (hcreated : s.registered p = false) :
    (s.registerAtService ans p callback).1.rc = jhiSessionAlreadyRegsitered →
      ∃ request, (s.registerAtService ans p callback).1 =
        ⟨jhiSessionAlreadyRegsitered, none, [(request, jhiSessionAlreadyRegsitered)]⟩ ∧
        ans.service request = jhiSessionAlreadyRegsitered := by
  have hcodes : jhiInvalidSessionHandle ≠ jhiSessionAlreadyRegsitered ∧ jhiEventsNotSupported ≠ jhiSessionAlreadyRegsitered ∧
      jhiInternalError ≠ jhiSessionAlreadyRegsitered := by decide
  unfold EventLib.registerAtService
  cases hvalid : s.lib.sessionHandleValid p with
  | false => exact fun h => absurd h hcodes.1
  | true =>
    rw [EventLib.registered, hvalid, Bool.true_and] at hcreated
    simp only [hcreated, Bool.not_true, Bool.false_eq_true, if_false]
    cases ans.uuid with
    | none =>
      dsimp only
      split_ifs
      · exact fun h => absurd h hcodes.2.1
      all_goals exact fun h => absurd h hcodes.2.2
    | some uuid =>
      dsimp only
      split_ifs
      · exact fun h => absurd h hcodes.2.1
      · exact fun h => absurd h hcodes.2.2
      · exact fun h => absurd h hcodes.2.2
      · exact fun h => absurd h hcodes.2.2
      · exact fun h => absurd h hcodes.2.2
      · intro h
        refine ⟨_, ?_, h⟩
        dsimp only at h ⊢
        rw [h]

theorem jhiRegisterEvents_misused (ans : LibAnswers) (p : Nat) {callback : Option γ} (h : s.Misused handle callback) :
    ∃ rc, rc ≠ jhiSessionAlreadyRegsitered ∧ s.jhiRegisterEvents ans handle p callback = (.refuse rc, s) := by
  cases hhandle : s.lib.validateJHIhandle handle with
  | false => exact ⟨jhiInvalidHandle, by decide, by simp [EventLib.jhiRegisterEvents, hhandle]⟩
  | true =>
    obtain rfl : callback = none := h.resolve_left (by rw [hhandle]; exact Bool.noConfusion)
    exact ⟨jhiInvalidParams, by decide, by simp [EventLib.jhiRegisterEvents, hhandle]⟩

theorem jhiRegisterEvents_eq (callback : γ) (hhandle : s.lib.validateJHIhandle handle = true) :
    s.jhiRegisterEvents ans handle p (some callback) =
      let (result, s) := s.registerAtService ans p callback
      if result.rc ≠ jhiSuccess ∧ result.rc ≠ jhiSessionAlreadyRegsitered then
        let s := s.closeSessionEventThread p
        if result.rc = jhiInvalidSessionHandle then (result, { s with lib := (s.lib.forget p).2 }) else (result, s)
      else (result, s) := by
  rw [EventLib.jhiRegisterEvents, hhandle]
  rfl

theorem jhiRegisterEvents_result (callback : γ) (hhandle : s.lib.validateJHIhandle handle = true) :
    (s.jhiRegisterEvents ans handle p (some callback)).1 = (s.registerAtService ans p callback).1 := by
  rw [jhiRegisterEvents_eq callback hhandle]
  dsimp only
  split_ifs <;> rfl

theorem exists_callback {callback : Option γ} (h : ¬s.Misused handle callback) :
    s.lib.validateJHIhandle handle = true ∧ ∃ f, callback = some f := by
  constructor
  · cases hhandle : s.lib.validateJHIhandle handle with
    | false => exact absurd (Or.inl hhandle) h
    | true => rfl
  · cases callback with
    | none => exact absurd (Or.inr rfl) h
    | some f => exact ⟨f, rfl⟩

theorem unregistered_of_not_registered (h : s.registered p = false) : s.Unregistered p := by
  refine ⟨h, fun ans handle callback => ?_, fun ans handle hhandle => ?_⟩
  · by_cases hmisused : s.Misused handle callback
    · obtain ⟨rc, hne, hrefuse⟩ := jhiRegisterEvents_misused ans p hmisused
      rw [hrefuse]
      intro heq
      exact hne (congrArg LibResult.rc heq)
    · obtain ⟨hhandle, f, rfl⟩ := exists_callback hmisused
      rw [jhiRegisterEvents_result f hhandle]
      intro hrefuse
      obtain ⟨request, hasked, -⟩ := registerAtService_of_not_created f h (congrArg LibResult.rc hrefuse)
      rw [hrefuse] at hasked
      cases congrArg LibResult.asked hasked
  · unfold EventLib.jhiUnRegisterEvents EventLib.unregisteredCode
    cases hvalid : s.lib.sessionHandleValid p with
    | false => simp [hhandle]
    | true =>
      rw [EventLib.registered, hvalid, Bool.true_and] at h
      cases hshared : s.shared p with
      | false => simp [hhandle, h]
      | true => simp [hhandle]

theorem unregistered_of_failed {callback : γ} (hhandle : s.lib.validateJHIhandle handle = true)
    (hrc : (s.jhiRegisterEvents ans handle p (some callback)).1.rc ≠ jhiSuccess)
    (halready : (s.jhiRegisterEvents ans handle p (some callback)).1.rc ≠ jhiSessionAlreadyRegsitered) :
    (s.jhiRegisterEvents ans handle p (some callback)).2.Unregistered p := by
  apply unregistered_of_not_registered
  rw [jhiRegisterEvents_result callback hhandle] at hrc halready
  rw [jhiRegisterEvents_eq callback hhandle]
  dsimp only
  rw [if_pos ⟨hrc, halready⟩]
  split_ifs
  · -- the handle is gone
    rw [EventLib.registered, sessionHandleValid_forget]
    simp
  · exact registered_closeSessionEventThread

theorem jhiRegisterEvents_of_registered {callback : γ} (hhandle : s.lib.validateJHIhandle handle = true)
    (h : s.registered p = true) (hshared : s.shared p = false) :
    s.jhiRegisterEvents ans handle p (some callback) = (.refuse jhiSessionAlreadyRegsitered, s) := by
  rw [EventLib.registered, Bool.and_eq_true] at h
  rw [jhiRegisterEvents_eq callback hhandle, (registerAtService_refuses callback).2.2 h.1 hshared h.2]
  exact if_neg fun hne => hne.2 rfl

theorem jhiRegisterEvents_of_shared {callback : γ} (hhandle : s.lib.validateJHIhandle handle = true)
    (hvalid : s.lib.sessionHandleValid p = true) (hshared : s.shared p = true) :
    (s.jhiRegisterEvents ans handle p (some callback)).1 = .refuse jhiEventsNotSupported := by
  rw [jhiRegisterEvents_result callback hhandle, (registerAtService_refuses callback).2.1 hvalid hshared]

theorem registered_of_already {callback : γ} (hhandle : s.lib.validateJHIhandle handle = true)
    (hservice : ∀ request, ans.service request ≠ jhiSessionAlreadyRegsitered)
    (hrc : (s.jhiRegisterEvents ans handle p (some callback)).1.rc = jhiSessionAlreadyRegsitered) :
    s.registered p = true ∧ s.shared p = false := by
  have hregistered : s.registered p = true := by
    cases h : s.registered p with
    | true => rfl
    | false =>
      rw [jhiRegisterEvents_result callback hhandle] at hrc
      obtain ⟨request, -, hsays⟩ := registerAtService_of_not_created callback h hrc
      exact absurd hsays (hservice request)
  refine ⟨hregistered, ?_⟩
  cases hshared : s.shared p with
  | false => rfl
  | true =>
    rw [EventLib.registered, Bool.and_eq_true] at hregistered
    rw [jhiRegisterEvents_of_shared hhandle hregistered.1 hshared] at hrc
    exact absurd hrc (by decide)

theorem registersWhole (s : EventLib γ) (ans : LibAnswers) (handle p : Nat) (callback : Option γ) :
    s.RegistersWhole ans handle p callback where
  misused h := by
    obtain ⟨rc, -, hrefuse⟩ := jhiRegisterEvents_misused ans p h
    rw [hrefuse]
  failed h := by
    obtain ⟨hhandle, f, rfl⟩ := exists_callback h
    exact unregistered_of_failed hhandle
  already hservice hrc := by
    by_cases h : s.Misused handle callback
    · obtain ⟨rc, -, hrefuse⟩ := jhiRegisterEvents_misused ans p h
      rw [hrefuse]
    · obtain ⟨hhandle, f, rfl⟩ := exists_callback h
      obtain ⟨hregistered, hshared⟩ := registered_of_already hhandle hservice hrc
      rw [jhiRegisterEvents_of_registered hhandle hregistered hshared]
  shared h hvalid hshared := by
    obtain ⟨hhandle, f, rfl⟩ := exists_callback h
    exact jhiRegisterEvents_of_shared hhandle hvalid hshared

end Call

/-! ### The flags of a session -/

section Flags

variable {A : Addresses} {ans : LibAnswers} {lib : JhiLib}

/-- The flags of every struct but the one at `p` are as before. -/
def FlagsKept (p : Nat) (lib lib' : JhiLib) : Prop :=
  ∀ q, q ≠ p → (lib'.memory q).sessionFlags = (lib.memory q).sessionFlags

theorem FlagsKept.refl (p : Nat) (lib : JhiLib) : FlagsKept p lib lib := fun _ _ => rfl

theorem FlagsKept.trans {p : Nat} {lib lib' lib'' : JhiLib} (h : FlagsKept p lib lib') (h' : FlagsKept p lib' lib'') :
    FlagsKept p lib lib'' := fun q hq => (h' q hq).trans (h q hq)

theorem FlagsKept.of_memory {p : Nat} {lib' : JhiLib} (h : lib'.memory = lib.memory) : FlagsKept p lib lib' := by
  intro q _
  rw [h]

theorem flagsKept_edit {p q : Nat} {f : ISessionHandle → ISessionHandle}
    (hf : q = p ∨ ∀ x, (f x).sessionFlags = x.sessionFlags) : FlagsKept p lib (lib.edit q f) := by
  intro r hr
  rw [JhiLib.edit]
  dsimp only
  split_ifs with heq
  · obtain rfl | hf := hf
    · exact absurd heq hr
    · exact hf _
  · rfl

theorem FlagsKept.edit {p q : Nat} {lib' : JhiLib} (h : FlagsKept p lib lib') {f : ISessionHandle → ISessionHandle}
    (hf : ∀ x, (f x).sessionFlags = x.sessionFlags) : FlagsKept p lib (lib'.edit q f) := h.trans (flagsKept_edit (.inr hf))

theorem flagsKept_closeSessionEventThread (p q : Nat) : FlagsKept p lib (lib.closeSessionEventThread ans q) := by
  unfold JhiLib.closeSessionEventThread
  split_ifs
  · exact .refl p lib
  · exact flagsKept_edit (.inr fun _ => rfl)

theorem flagsKept_forget (p q : Nat) : FlagsKept p lib (lib.forget q).2 := .of_memory (memory_forget lib q)

theorem memory_dealloc (lib : JhiLib) (p : Nat) : (lib.dealloc p).memory = lib.memory := by
  unfold JhiLib.dealloc
  split_ifs <;> rfl

theorem FlagsKept.dealloc {p : Nat} {lib' : JhiLib} (h : FlagsKept p lib lib') (q : Nat) : FlagsKept p lib (lib'.dealloc q) :=
  h.trans (.of_memory (memory_dealloc lib' q))

theorem FlagsKept.setItems {p : Nat} {lib' : JhiLib} (h : FlagsKept p lib lib') (items : List Nat) :
    FlagsKept p lib (lib'.setItems items) := h

theorem flagsKept_closeEvent (p q : Nat) :
    FlagsKept p lib (if lib.hasEvent ans q then lib.closeSessionEventThread ans q else lib) := by
  split_ifs
  · exact flagsKept_closeSessionEventThread p q
  · exact .refl p lib

theorem flagsKept_freeSessions (p : Nat) (items : List Nat) (done : Nat) (lib : JhiLib) :
    FlagsKept p lib (lib.freeSessions ans done items) := by
  induction items generalizing done lib with
  | nil => exact .refl p lib
  | cons q rest ih =>
    rw [JhiLib.freeSessions]
    refine FlagsKept.trans ?_ (ih _ _)
    exact (flagsKept_closeEvent p q).dealloc q

theorem flagsKept_jhiInitialize (p : Nat) (ppHandle : Bool) : FlagsKept p lib (lib.jhiInitialize A ans ppHandle).2 := by
  apply FlagsKept.of_memory
  unfold JhiLib.jhiInitialize JhiLib.newAppHandle
  cases lib.appHandle <;> cases ans.allocHandle <;> cases ans.allocList <;> cases ans.processInfo <;>
    simp only [JhiLib.alloc] <;> split_ifs <;> simp [memory_dealloc]

theorem flagsKept_jhiDeinit (p handle : Nat) : FlagsKept p lib (lib.jhiDeinit ans handle).2 := by
  unfold JhiLib.jhiDeinit JhiLib.release
  cases lib.appHandle with
  | none =>
    split_ifs
    · exact .refl p lib
    · exact .refl p lib
  | some a =>
    dsimp only
    split_ifs
    · exact .refl p lib
    · exact .refl p lib
    · cases a.sessionsList with
      | none => exact .of_memory (memory_dealloc _ a.ptr)
      | some l =>
        refine FlagsKept.trans ?_ (.of_memory (memory_dealloc _ a.ptr))
        refine FlagsKept.trans ?_ (.of_memory (memory_dealloc _ l.ptr))
        exact FlagsKept.trans (.refl p lib) (flagsKept_freeSessions p l.items 0 _)

theorem flagsKept_newSession (appId : AppId) (flags : UInt32) (initBuffer : DataBuffer) :
    FlagsKept (A.addr lib.allocations) lib (lib.newSession A ans appId flags initBuffer).2 := by
  have hedit : ∀ {new : JhiLib} {f}, new.memory = lib.memory →
      FlagsKept (A.addr lib.allocations) lib (new.edit (A.addr lib.allocations) f) :=
    fun hnew => (FlagsKept.of_memory hnew).trans (flagsKept_edit (.inl rfl))
  unfold JhiLib.newSession
  cases ans.allocHandle with
  | false => exact .refl _ lib
  | true =>
    simp only [alloc_true, A.ne_null, if_false]
    cases lib.appHandle with
    | none =>
      apply FlagsKept.dealloc
      exact .of_memory rfl
    | some a =>
      dsimp only
      split_ifs
      · apply FlagsKept.dealloc
        exact hedit rfl
      · unfold JhiLib.addSessionHandle
        cases JhiLib.sessionsList _ with
        | none =>
          apply FlagsKept.dealloc
          exact hedit rfl
        | some l =>
          simp only [A.ne_null, if_false]
          apply FlagsKept.setItems
          exact hedit rfl

theorem flagsKept_jhiCreateSession (handle : Nat) (appId : Option CText) (flags : UInt32) (initBuffer : Option DataBuffer)
    (out : Bool) :
    FlagsKept (A.addr lib.allocations) lib (lib.jhiCreateSession A ans handle appId flags initBuffer out).2 := by
  unfold JhiLib.jhiCreateSession
  cases appId.bind fun id => jhiUtilUUIDValidate id.text with
  | none =>
    dsimp only
    split_ifs <;> exact .refl _ lib
  | some id =>
    dsimp only
    split_ifs
    · exact .refl _ lib
    · exact .refl _ lib
    · exact .refl _ lib
    · exact .refl _ lib
    · exact flagsKept_newSession id flags _

theorem flagsKept_jhiCloseSessionInternal (p handle : Nat) (sessionHandle : Option Nat) (force : Bool) :
    FlagsKept p lib (lib.jhiCloseSessionInternal ans handle sessionHandle force).2 := by
  unfold JhiLib.jhiCloseSessionInternal
  cases sessionHandle with
  | none =>
    dsimp only
    split_ifs <;> exact .refl p lib
  | some q =>
    cases lib.appHandle with
    | none =>
      dsimp only
      split_ifs <;> exact .refl p lib
    | some a =>
      have hclosed := @flagsKept_closeEvent ans lib p q
      dsimp only
      generalize (if lib.hasEvent ans q then lib.closeSessionEventThread ans q else lib) = closed at hclosed ⊢
      split_ifs
      · exact .refl p lib
      · exact .refl p lib
      all_goals
        first
          | exact hclosed
          | exact hclosed.trans (flagsKept_forget p q)

theorem flagsKept_jhiSendAndRecv2 (p handle q : Nat) (commandId : UInt32) (comm : Option (DataBuffer × DataBuffer)) :
    FlagsKept p lib (lib.jhiSendAndRecv2 ans handle q commandId comm).2 := by
  unfold JhiLib.jhiSendAndRecv2
  cases comm with
  | none =>
    dsimp only
    split_ifs <;> exact .refl p lib
  | some buffers =>
    dsimp only
    split_ifs
    · exact .refl p lib
    · exact .refl p lib
    · exact .refl p lib
    · exact .refl p lib
    · exact flagsKept_jhiCloseSessionInternal p handle (some q) false
    · exact .refl p lib

theorem flagsKept_jhiRegisterEvents (p handle q : Nat) (callback : Bool) :
    FlagsKept p lib (lib.jhiRegisterEvents ans handle q callback).2 := by
  have hservice : FlagsKept p lib (lib.registerAtService ans q).2 := by
    unfold JhiLib.registerAtService
    cases ans.uuid <;> dsimp only <;> split_ifs
    all_goals
      dsimp only
      repeat'
        first
          | exact .refl p lib
          | refine FlagsKept.edit ?_ fun _ => ?_
      all_goals rfl
  unfold JhiLib.jhiRegisterEvents
  dsimp only
  split_ifs
  · exact .refl p lib
  · exact .refl p lib
  · exact (hservice.trans (flagsKept_closeSessionEventThread p q)).trans (flagsKept_forget p q)
  · exact hservice.trans (flagsKept_closeSessionEventThread p q)
  · exact hservice

theorem flagsKept_jhiUnRegisterEvents (p handle q : Nat) : FlagsKept p lib (lib.jhiUnRegisterEvents ans handle q).2 := by
  unfold JhiLib.jhiUnRegisterEvents
  dsimp only
  split_ifs
  · exact .refl p lib
  · exact .refl p lib
  · exact .refl p lib
  · exact .refl p lib
  · exact (flagsKept_closeSessionEventThread p q).trans (flagsKept_forget p q)
  · exact flagsKept_closeSessionEventThread p q

theorem flagsKept_exec (c : JhiCall) : FlagsKept (A.addr lib.allocations) lib (c.exec A ans lib).2 := by
  cases c with
  | jhiInitialize ppHandle => exact flagsKept_jhiInitialize _ ppHandle
  | deinit handle => exact flagsKept_jhiDeinit _ handle
  | createSession handle appId flags initBuffer out => exact flagsKept_jhiCreateSession handle appId flags initBuffer out
  | closeSession handle sessionHandle => exact flagsKept_jhiCloseSessionInternal _ handle sessionHandle false
  | forceCloseSession handle sessionHandle => exact flagsKept_jhiCloseSessionInternal _ handle sessionHandle true
  | sendAndRecv2 handle p commandId comm => exact flagsKept_jhiSendAndRecv2 _ handle p commandId comm
  | registerEvents handle p callback => exact flagsKept_jhiRegisterEvents _ handle p callback
  | unRegisterEvents handle p => exact flagsKept_jhiUnRegisterEvents _ handle p

end Flags

/-! ### Runs -/

/-- The fields of a new session. -/
def EventFields.fresh : EventFields γ := ⟨none, false, none, none⟩

def ClientCall.closes : ClientCall → Bool
  | .closeSession .. => true
  | _ => false

namespace EventLib

variable (A : Addresses) (ans : LibAnswers)

/-- The calls that do not name events. A new session has none; a session whose end is asked for has its event closed first.
The fields of the structs that `JHI_Deinit` frees do not matter any more. -/
def otherCall (c : JhiCall) (s : EventLib γ) : LibResult × EventLib γ :=
  let (result, lib) := c.exec A ans s.lib
  match (HandleEvent.mk c result).created, c.sessionHandle with
  | some (_, p), _ => (result, ⟨lib, Function.update s.fields p .fresh⟩)
  | none, none => (result, { s with lib := lib })
  | none, some p =>
    if (s.fields p).created && result.asked.any fun x => x.1.closes then (result, { s.closeSessionEventThread p with lib := lib })
    else (result, { s with lib := lib })

/-- Any call; `f` is the function that a registration passes, if it passes one. -/
def call (f : γ) : JhiCall → EventLib γ → LibResult × EventLib γ
  | .registerEvents handle p callback, s => s.jhiRegisterEvents ans handle p (if callback then some f else none)
  | .unRegisterEvents handle p, s => s.jhiUnRegisterEvents ans handle p
  | c, s => s.otherCall A ans c

/-- No handle was given out yet. -/
def start (memory : Nat → ISessionHandle) (fields : Nat → EventFields γ) : EventLib γ := ⟨⟨none, memory, 0, []⟩, fields⟩

end EventLib

inductive EventStep (γ : Type)
  | call (c : JhiCall) (f : γ) (ans : LibAnswers)
  | listenerEnds (p : Nat)

def EventLib.step (A : Addresses) : EventStep γ → EventLib γ → EventLib γ
  | .call c f ans, s => (s.call A ans f c).2
  | .listenerEnds p, s => s.edit p fun x => { x with eventHandle := x.eventHandle.map fun _ => false }

/-- No shared session has a created event. -/
structure EventLib.SharedSilent (A : Addresses) (s : EventLib γ) : Prop where
  ledger : Ledger A s.lib
  silent : ∀ p, s.lib.sessionHandleValid p = true → s.shared p = true → (s.fields p).created = false

section Runs

variable {A : Addresses} {ans : LibAnswers} {s s' : EventLib γ} {p q : Nat}

theorem fields_edit_of_ne (f : EventFields γ → EventFields γ) (h : q ≠ p) : (s.edit p f).fields q = s.fields q :=
  Function.update_of_ne h ..

theorem created_closeSessionEventThread (h : ((s.closeSessionEventThread p).fields q).created = true) :
    (s.fields q).created = true := by
  unfold EventLib.closeSessionEventThread at h
  split_ifs at h
  · exact h
  · by_cases hq : q = p
    · subst hq
      rw [fields_edit] at h
      cases hcreated : (s.fields q).created with
      | true => rfl
      | false =>
        rw [hcreated, EventFields.created] at h
        rw [EventFields.created] at hcreated
        simp [hcreated] at h
    · rwa [fields_edit_of_ne _ hq] at h

theorem EventLib.SharedSilent.of_less (h : s.SharedSilent A) (hledger : Ledger A s'.lib)
    (hvalid : ∀ q, s'.lib.sessionHandleValid q = true → s.lib.sessionHandleValid q = true)
    (hshared : ∀ q, s'.lib.sessionHandleValid q = true → s'.shared q = s.shared q)
    (hcreated : ∀ q, s.shared q = true → (s'.fields q).created = true → (s.fields q).created = true) : s'.SharedSilent A := by
  refine ⟨hledger, fun q hq hq' => ?_⟩
  rw [hshared q hq] at hq'
  cases h' : (s'.fields q).created with
  | false => rfl
  | true =>
    rw [← hcreated q hq' h']
    exact h.silent q (hvalid q hq) hq'

theorem ledger_forget {lib : JhiLib} (h : Ledger A lib) (p : Nat) : Ledger A (lib.forget p).2 := by
  cases hvalid : lib.sessionHandleValid p with
  | false =>
    rw [forget_of_not_valid hvalid]
    exact h
  | true =>
    obtain ⟨t, ht, hmem⟩ := (sessionHandleValid_iff h).1 hvalid
    exact (forget_spec h ht hmem).2.1

theorem EventLib.SharedSilent.forget (h : s.SharedSilent A) (p : Nat) :
    EventLib.SharedSilent A { s with lib := (s.lib.forget p).2 } := by
  refine h.of_less (ledger_forget h.ledger p) (fun q hq => ?_) (fun q _ => ?_) fun q _ hq => hq
  · rw [sessionHandleValid_forget, Bool.and_eq_true] at hq
    exact hq.1
  · rw [EventLib.shared, EventLib.shared, memory_forget]

theorem EventLib.SharedSilent.closeSessionEventThread (h : s.SharedSilent A) (p : Nat) :
    (s.closeSessionEventThread p).SharedSilent A := by
  have hlib : (s.closeSessionEventThread p).lib = s.lib := lib_closeSessionEventThread
  refine h.of_less ?_ (fun q hq => ?_) (fun q _ => ?_) fun q _ => created_closeSessionEventThread
  · rw [hlib]
    exact h.ledger
  · rwa [hlib] at hq
  · rw [EventLib.shared, EventLib.shared, hlib]

theorem EventLib.SharedSilent.registerAtService (h : s.SharedSilent A) (p : Nat) (callback : γ) :
    (s.registerAtService ans p callback).2.SharedSilent A := by
  have hlib : (s.registerAtService ans p callback).2.lib = s.lib := lib_registerAtService callback
  cases hvalid : s.lib.sessionHandleValid p with
  | false =>
    rw [(registerAtService_refuses callback).1 hvalid]
    exact h
  | true =>
    cases hshared : s.shared p with
    | true =>
      rw [(registerAtService_refuses callback).2.1 hvalid hshared]
      exact h
    | false =>
      refine h.of_less ?_ (fun q hq => ?_) (fun q _ => ?_) fun q hq => ?_
      · rw [hlib]
        exact h.ledger
      · rwa [hlib] at hq
      · rw [EventLib.shared, EventLib.shared, hlib]
      · have hne : q ≠ p := by
          rintro rfl
          rw [hshared] at hq
          cases hq
        have hfields : (s.registerAtService ans p callback).2.fields q = s.fields q := by
          unfold EventLib.registerAtService EventLib.withoutEvent
          cases ans.uuid <;> dsimp only <;> split_ifs <;> simp only [fields_edit_of_ne _ hne]
        rw [hfields]
        exact id

theorem EventLib.SharedSilent.jhiRegisterEvents (h : s.SharedSilent A) (handle p : Nat) (callback : Option γ) :
    (s.jhiRegisterEvents ans handle p callback).2.SharedSilent A := by
  by_cases hmisused : s.Misused handle callback
  · obtain ⟨rc, -, hrefuse⟩ := jhiRegisterEvents_misused ans p hmisused
    rw [hrefuse]
    exact h
  · obtain ⟨hhandle, f, rfl⟩ := exists_callback hmisused
    have hservice : (s.registerAtService ans p f).2.SharedSilent A := h.registerAtService p f
    rw [jhiRegisterEvents_eq f hhandle]
    dsimp only
    split_ifs
    · exact (hservice.closeSessionEventThread p).forget p
    · exact hservice.closeSessionEventThread p
    · exact hservice

theorem EventLib.SharedSilent.jhiUnRegisterEvents (h : s.SharedSilent A) (handle p : Nat) :
    (s.jhiUnRegisterEvents ans handle p).2.SharedSilent A := by
  unfold EventLib.jhiUnRegisterEvents
  dsimp only
  split_ifs
  · exact h
  · exact h
  · exact h
  · exact h
  · exact (h.closeSessionEventThread p).forget p
  · exact h.closeSessionEventThread p

theorem valid_of_exec {lib : JhiLib} (h : Ledger A lib) (c : JhiCall) (hq : (c.exec A ans lib).2.sessionHandleValid q = true) :
    lib.sessionHandleValid q = true ∨ ∃ a, (HandleEvent.mk c (c.exec A ans lib).1).created = some (a, q) := by
  have hspec : CallSpec A lib ⟨c, (c.exec A ans lib).1⟩ (c.exec A ans lib).2 := exec_spec h c
  obtain ⟨t', ht', hmem⟩ := (sessionHandleValid_iff hspec.ledger).1 hq
  have hold : ∀ t, lib.table = some t → q ∈ t.sessions → lib.sessionHandleValid q = true :=
    fun t ht hin => (sessionHandleValid_iff h).2 ⟨t, ht, hin⟩
  have hstep := hspec.step
  rw [ht'] at hstep
  generalize htable : lib.table = table at hstep
  cases hstep with
  | kept => exact .inl (hold t' htable hmem)
  | made => cases hmem
  | again t => exact .inl (hold t htable hmem)
  | left t => exact .inl (hold t htable hmem)
  | opened t p _ _ hcreated =>
    obtain hin | hin := List.mem_append.1 hmem
    · exact .inl (hold t htable hin)
    · rw [List.mem_singleton] at hin
      subst hin
      exact .inr ⟨_, hcreated⟩
  | ended t => exact .inl (hold t htable (List.mem_of_mem_filter hmem))

theorem shared_of_exec (h : Ledger A s.lib) (c : JhiCall) (hq : s.lib.sessionHandleValid q = true) (fields : Nat → EventFields γ) :
    EventLib.shared ⟨(c.exec A ans s.lib).2, fields⟩ q = s.shared q := by
  have hne : q ≠ A.addr s.lib.allocations := by
    rintro rfl
    obtain ⟨t, ht, hmem⟩ := (sessionHandleValid_iff h).1 hq
    exact h.next_not_mem (List.mem_append_right _ ((HandleRun.mem_live_of_table h ht).2 _ hmem))
  rw [EventLib.shared, EventLib.shared, flagsKept_exec c q hne]

theorem EventLib.SharedSilent.otherCall (h : s.SharedSilent A) (c : JhiCall) : (s.otherCall A ans c).2.SharedSilent A := by
  have hspec : CallSpec A s.lib ⟨c, (c.exec A ans s.lib).1⟩ (c.exec A ans s.lib).2 := exec_spec h.ledger c
  -- the sessions that were there, with the fields of a state in which they are silent
  have hold : ∀ {old : EventLib γ}, old.SharedSilent A → old.lib = s.lib →
      (HandleEvent.mk c (c.exec A ans s.lib).1).created = none → EventLib.SharedSilent A ⟨(c.exec A ans s.lib).2, old.fields⟩ := by
    intro old hsilent hlib hcreated
    refine ⟨hspec.ledger, fun q hq hshared => ?_⟩
    obtain hvalid | ⟨a, ha⟩ := valid_of_exec h.ledger c hq
    · rw [shared_of_exec h.ledger c hvalid] at hshared
      refine hsilent.silent q (by rwa [hlib]) ?_
      rwa [EventLib.shared, hlib]
    · rw [hcreated] at ha
      cases ha
  unfold EventLib.otherCall
  dsimp only
  cases hcreated : (HandleEvent.mk c (c.exec A ans s.lib).1).created with
  | none =>
    cases c.sessionHandle with
    | none => exact hold h rfl hcreated
    | some p =>
      dsimp only
      split_ifs
      · exact hold (h.closeSessionEventThread p) lib_closeSessionEventThread hcreated
      · exact hold h rfl hcreated
  | some created =>
    obtain ⟨a, p⟩ := created
    refine ⟨hspec.ledger, fun q hq hshared => ?_⟩
    by_cases hqp : q = p
    · subst hqp
      dsimp only
      rw [Function.update_self]
      rfl
    · dsimp only
      rw [Function.update_of_ne hqp]
      obtain hvalid | ⟨b, hb⟩ := valid_of_exec h.ledger c hq
      · rw [shared_of_exec h.ledger c hvalid] at hshared
        exact h.silent q hvalid hshared
      · rw [hcreated] at hb
        cases hb
        exact absurd rfl hqp

theorem EventLib.SharedSilent.step (h : s.SharedSilent A) (x : EventStep γ) : (s.step A x).SharedSilent A := by
  cases x with
  | call c f ans =>
    cases c with
    | registerEvents handle p callback => exact h.jhiRegisterEvents handle p _
    | unRegisterEvents handle p => exact h.jhiUnRegisterEvents handle p
    | _ => exact h.otherCall _
  | listenerEnds p =>
    refine h.of_less h.ledger (fun _ hq => hq) (fun _ _ => rfl) fun q _ hq => ?_
    by_cases hqp : q = p
    · subst hqp
      rw [EventLib.step, fields_edit, EventFields.created] at hq
      cases hevent : (s.fields q).eventHandle with
      | none => simp [hevent] at hq
      | some created => simp [hevent] at hq
    · rwa [EventLib.step, fields_edit_of_ne _ hqp] at hq

theorem sharedSilent_start (A : Addresses) (memory : Nat → ISessionHandle) (fields : Nat → EventFields γ) :
    (EventLib.start memory fields).SharedSilent A where
  ledger := (HandleRun.inv_start memory).ledger
  silent p hp := by cases hp

theorem EventLib.SharedSilent.run (h : s.SharedSilent A) (steps : List (EventStep γ)) :
    (afterCalls (EventLib.step A) steps s).SharedSilent A := by
  induction steps generalizing s with
  | nil => exact h
  | cons x steps ih => exact ih (h.step x)

/-- A registration is made whole or not at all, and a shared session has none. -/
theorem registration_all_or_nothing (γ : Type) :
    (∀ (s : EventLib γ) (ans : LibAnswers) (handle p : Nat) (callback : Option γ), s.RegistersWhole ans handle p callback) ∧
    ∀ (A : Addresses) (memory : Nat → ISessionHandle) (fields : Nat → EventFields γ) (steps : List (EventStep γ)) (p : Nat),
      (afterCalls (EventLib.step A) steps (.start memory fields)).shared p = true →
      (afterCalls (EventLib.step A) steps (.start memory fields)).registered p = false := by
  refine ⟨registersWhole, fun A memory fields steps p hshared => ?_⟩
  have hsilent := (sharedSilent_start A memory fields).run steps
  rw [EventLib.registered, Bool.and_eq_false_iff]
  cases hvalid : (afterCalls (EventLib.step A) steps (.start memory fields)).lib.sessionHandleValid p with
  | false => exact .inl rfl
  | true => exact .inr (hsilent.silent p hvalid hshared)

end Runs

/-! ### A shared session -/

theorem zeros_no_terminator : (0 : UInt8) ∉ List.replicate 32 (48 : UInt8) := by decide

/-- An application creates a shared session. -/
def sharedSessionRun : List (EventStep Unit) :=
  [.call (.jhiInitialize true) () crashingAnswers,
    .call (.createSession 1 (some ⟨List.replicate 32 48, zeros_no_terminator⟩) 1 none true) () crashingAnswers]

def sharedSessionState : EventLib Unit :=
  afterCalls (EventLib.step countedAddresses) sharedSessionRun (.start (fun _ => emptySession) fun _ => .fresh)

/-- Its registration fails, and there is no session to unregister, but this is not what the application is told. -/
theorem shared_session_not_supported :
    sharedSessionState.lib.sessionHandleValid 3 = true ∧
    (sharedSessionState.jhiRegisterEvents crashingAnswers 1 3 (some ())).1.rc = jhiEventsNotSupported ∧
    ((sharedSessionState.jhiRegisterEvents crashingAnswers 1 3 (some ())).2.jhiUnRegisterEvents crashingAnswers 1 3).1.rc =
      jhiEventsNotSupported ∧
    jhiEventsNotSupported ≠ jhiSuccess ∧ jhiEventsNotSupported ≠ jhiSessionAlreadyRegsitered ∧
    jhiEventsNotSupported ≠ jhiSessionNotRegistered := by
  decide +kernel

end DalHost

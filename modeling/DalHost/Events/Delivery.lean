import DalHost.Lib.Calls
import DalHost.Service.Calls
import Mathlib.Data.List.Sublists
import Mathlib.Logic.Function.Basic
import Mathlib.Tactic.SplitIfs

/-!
# Delivery of events

An event takes four steps in the listener thread: the spooler's answer arrives, the event handle of its
session is looked up, the event is put into the queue of the session, the handle is signalled. Between any two
of them the commands may register, unregister, empty or close the session. A ledger beside the state
keeps, for every session, what the spooler addressed to it, what was queued and what was returned since its
registration began; a registration is the time during which the session has a created event handle, and
replacing that handle by another one does not end it.

The look-up is the only test of the registration, and it is neither at the arrival nor at the queue. The last
section says exactly which runs deliver properly.
-/

namespace DalHost

/-! ### The mailbox of a session -/

/-- The session has a created event handle. -/
def registered (t : SessionTable) (id : SessionId) : Bool := (getEventHandle t id).isSome

/-- The events that wait for the session. -/
def queued (t : SessionTable) (id : SessionId) : List EventData :=
  ((t.find? id).map SessionRecord.eventsDataQueue).getD []

/-! ### The listener and the ledger -/

/-- Where the loop of `JomEventListenerThread` stands. -/
inductive ListenerPoint
  /-- In `JHI_Plugin_WaitForSpoolerEvent`. -/
  | waiting
  /-- The spooler has answered with success. -/
  | received (target : SessionId) (event : Option EventData)
  /-- `getEventHandle` has found the handle. -/
  | found (target : SessionId) (event : Option EventData) (handle : EventHandle)
  /-- The handle is to be signalled. -/
  | raising (handle : EventHandle)

/-- The event that the listener still has to queue, and its target. -/
def ListenerPoint.inHand : ListenerPoint → Option (SessionId × EventData)
  | .waiting | .raising _ => none
  | .received target event | .found target event _ => event.map fun e => (target, e)

/-- What happened on a session since its registration began or ended; `registration` counts these. -/
structure Channel where
  registration : Nat
  /-- The events that the spooler addressed to the session. -/
  addressed : List EventData
  /-- The events that were put into the queue. -/
  accepted : List EventData
  /-- The events that `GET_EVENT_DATA` returned. -/
  returned : List EventData

/-- A registration begins or ends. -/
def Channel.next (c : Channel) : Channel := ⟨c.registration + 1, [], [], []⟩

/-- An event that the listener let go, with what the table said at that moment. -/
structure Drop where
  registered : Bool
  queueLength : Nat

/-- The service, its listener and the ledger. -/
structure DeliveryState (φ : Type) where
  service : Service φ
  listener : ListenerPoint
  channels : SessionId → Channel
  /-- The registration count of the target when the event in the listener's hand arrived. -/
  arrivedIn : Nat
  drops : List Drop

section Steps

variable {φ : Type}

/-- No session yet, and the listener waits. -/
def DeliveryState.start (s : Service φ) : DeliveryState φ where
  service := { s with sessionList := OrdMap.empty }
  listener := .waiting
  channels := fun _ => ⟨0, [], [], []⟩
  arrivedIn := 0
  drops := []

abbrev DeliveryState.sessions (d : DeliveryState φ) : SessionTable := d.service.sessionList

/-- Change what the ledger says of one session. -/
def DeliveryState.note (d : DeliveryState φ) (id : SessionId) (f : Channel → Channel) : DeliveryState φ :=
  { d with channels := Function.update d.channels id (f (d.channels id)) }

/-- Record an event that is not queued. -/
def DeliveryState.drop (d : DeliveryState φ) (id : SessionId) : DeliveryState φ :=
  { d with drops := d.drops ++ [⟨registered d.sessions id, (queued d.sessions id).length⟩] }

/-- A program of the service; the ledger turns a page for every session that it registers or unregisters. -/
def DeliveryState.serve {α : Type} (d : DeliveryState φ) (x : StateM (Service φ) α) : DeliveryState φ :=
  let s := (x.exe d.service).2
  { d with
    service := s
    channels := fun id =>
      if registered s.sessionList id = registered d.sessions id then d.channels id else (d.channels id).next }

/-- `JHI_Plugin_WaitForSpoolerEvent` returns `JHI_SUCCESS`. -/
def DeliveryState.arrive (d : DeliveryState φ) (target : SessionId) (event : Option EventData) : DeliveryState φ :=
  match d.listener with
  | .waiting =>
    let d' := { d with listener := .received target event, arrivedIn := (d.channels target).registration }
    if registered d.sessions target then d'.note target fun c => { c with addressed := c.addressed ++ event.toList }
    else d'
  | _ => d

/-- The listener calls `enqueueEventData` on an event. -/
def DeliveryState.enqueue (d : DeliveryState φ) (target : SessionId) (event : EventData) : DeliveryState φ :=
  match enqueueEventData d.sessions target event with
  | none => d.drop target
  | some t => { d with service := { d.service with sessionList := t } }.note target fun c =>
      { c with accepted := c.accepted ++ [event] }

/-- The listener stores the event, if there is one. -/
def DeliveryState.store (d : DeliveryState φ) : DeliveryState φ :=
  match d.listener with
  | .found target event handle =>
    match event with
    | none => { d with listener := .raising handle }
    | some e => { d.enqueue target e with listener := .raising handle }
  | _ => d

/-- `GET_EVENT_DATA`: what it returns goes into the ledger. -/
def DeliveryState.getEventData (d : DeliveryState φ) (id : SessionId) : DeliveryState φ :=
  (d.serve (getSessionEventData id)).note id fun c =>
    { c with returned := c.returned ++ ((getSessionEventData id).exe d.service).1.2.toList }

/-- A step of the listener or a command. -/
inductive DeliveryStep
  | waitForSpoolerEvent (target : SessionId) (event : Option EventData)
  | getEventHandle
  | enqueueEventData
  | set
  /-- The end of a create: `SessionsManager::add`. -/
  | addSession (appId : Bytes) (handle : VmHandle) (sessionId : SessionId) (flags : UInt32) (p : ProcessInfo)
  | setSessionEventHandler (sessionId : SessionId) (handleName : Bytes)
  | getEventData (sessionId : SessionId)
  | closeSession (sessionId : SessionId) (p : ProcessInfo) (force : Bool)

end Steps

/-! ### The property -/

/-- What the ledger and the table say of a session. -/
structure Channel.Proper (c : Channel) (t : SessionTable) (id : SessionId) : Prop where
  /-- First in, first out: what was queued is what was returned and then what still waits. -/
  fifo : c.returned ++ queued t id = c.accepted
  /-- Only events of this session and this registration, in their order. -/
  ofRegistration : c.accepted.Sublist c.addressed
  bounded : (queued t id).length ≤ maxEventsDataInQueue
  /-- A session that is not registered has no event. -/
  empty : registered t id = false → queued t id = []

/-- Every session is served properly, and events were dropped for a reason. -/
structure Delivers {φ : Type} (d : DeliveryState φ) : Prop where
  proper : ∀ id, (d.channels id).Proper d.sessions id
  drops : ∀ x ∈ d.drops, x.registered = false ∨ maxEventsDataInQueue ≤ x.queueLength

/-- The listener is about to queue an event for a session that has room, but that is not registered, or was
registered again since the event arrived. -/
def CrossesRegistration {φ : Type} (step : DeliveryStep) (d : DeliveryState φ) : Prop :=
  step = .enqueueEventData ∧ ∃ target event handle r, d.listener = .found target (some event) handle ∧
    d.sessions.find? target = some r ∧ r.eventsDataQueue.length < maxEventsDataInQueue ∧
    ¬(registered d.sessions target = true ∧ d.arrivedIn = (d.channels target).registration)

/-! ### What the commands do to the mailboxes -/

section Mailboxes

variable {t t' : SessionTable} {id : SessionId} {r : SessionRecord}

theorem registered_of_find? (h : t.find? id = some r) :
    registered t id = (r.eventHandle.filter EventHandle.created).isSome := by
  simp only [registered, getEventHandle, h]

theorem registered_of_absent (h : t.find? id = none) : registered t id = false := by
  simp only [registered, getEventHandle, h, Option.isSome_none]

theorem queued_of_find? (h : t.find? id = some r) : queued t id = r.eventsDataQueue := by
  simp only [queued, h, Option.map_some, Option.getD_some]

theorem registered_congr (h : t'.find? id = t.find? id) : registered t' id = registered t id := by
  simp only [registered, getEventHandle, h]

theorem queued_congr (h : t'.find? id = t.find? id) : queued t' id = queued t id := by
  simp only [queued, h]

/-- What a command may do to the mailbox of a session: register it, or empty and unregister it. -/
def MailboxStep (t t' : SessionTable) (id : SessionId) : Prop :=
  (queued t' id = queued t id ∧ (registered t' id = registered t id ∨ registered t' id = true)) ∨
    (queued t' id = [] ∧ registered t' id = false)

end Mailboxes

section Commands

variable {φ : Type} (W : World φ) (s : Service φ) (id : SessionId)

end Commands

/-! ### The invariant -/

/-- The event in the listener's hand is the last one that the spooler addressed to its target in the current
registration, or nothing was addressed to it in this registration yet. -/
structure InHand {φ : Type} (d : DeliveryState φ) (target : SessionId) (event : EventData) : Prop where
  le : d.arrivedIn ≤ (d.channels target).registration
  current : d.arrivedIn = (d.channels target).registration → registered d.sessions target = true →
    ∃ before, (d.channels target).addressed = before ++ [event] ∧ (d.channels target).accepted.Sublist before
  stale : d.arrivedIn < (d.channels target).registration → (d.channels target).addressed = []

structure DeliveryInv {φ : Type} (d : DeliveryState φ) : Prop where
  delivers : Delivers d
  inHand : ∀ target event, d.listener.inHand = some (target, event) → InHand d target event

section Invariant

variable {φ : Type} {d : DeliveryState φ}

theorem Channel.Proper.serve {c : Channel} {t t' : SessionTable} {id : SessionId} (h : c.Proper t id)
    (hstep : MailboxStep t t' id) :
    (if registered t' id = registered t id then c else c.next).Proper t' id := by
  -- without a handle the queue is empty, so the queue is the old one unless the registration ends
  have hqueue : registered t' id = registered t id → queued t' id = queued t id := by
    intro hsame
    rcases hstep with ⟨hq, -⟩ | ⟨hq, hr⟩
    · exact hq
    · rw [hq, h.empty (hsame.symm.trans hr)]
  have hempty : registered t' id ≠ registered t id → queued t' id = [] := by
    intro hne
    rcases hstep with ⟨hq, hr | hr⟩ | ⟨hq, -⟩
    · exact absurd hr hne
    · have hold : registered t id = false := by
        cases hreg : registered t id
        · rfl
        · exact absurd (hr.trans hreg.symm) hne
      rw [hq, h.empty hold]
    · exact hq
  split_ifs with hsame
  · exact ⟨by rw [hqueue hsame]; exact h.fifo, h.ofRegistration, by rw [hqueue hsame]; exact h.bounded,
      fun hr => by rw [hqueue hsame]; exact h.empty (hsame.symm.trans hr)⟩
  · rw [Channel.next]
    exact ⟨hempty hsame, List.Sublist.refl _, by rw [hempty hsame]; exact Nat.zero_le _, fun _ => hempty hsame⟩

theorem InHand.serve {α : Type} {target : SessionId} {event : EventData} (h : InHand d target event)
    (x : StateM (Service φ) α) : InHand (d.serve x) target event := by
  by_cases hsame : registered (x.exe d.service).2.sessionList target = registered d.sessions target
  · have hchannel : (d.serve x).channels target = d.channels target := if_pos hsame
    refine ⟨?_, ?_, ?_⟩
    · rw [hchannel]
      exact h.le
    · rw [hchannel]
      intro hcurrent hreg
      exact h.current hcurrent (hsame.symm.trans hreg)
    · rw [hchannel]
      exact h.stale
  · have hchannel : (d.serve x).channels target = (d.channels target).next := if_neg hsame
    have hle := h.le
    refine ⟨?_, ?_, ?_⟩
    · rw [hchannel]
      exact Nat.le_succ_of_le hle
    · rw [hchannel]
      intro hcurrent
      have hnow : d.arrivedIn = (d.channels target).registration + 1 := hcurrent
      omega
    · rw [hchannel]
      exact fun _ => rfl

theorem DeliveryInv.serve {α : Type} (h : DeliveryInv d) {x : StateM (Service φ) α}
    (hstep : ∀ id, MailboxStep d.sessions (x.exe d.service).2.sessionList id) : DeliveryInv (d.serve x) where
  delivers :=
    { proper := fun id => (h.delivers.proper id).serve (hstep id)
      drops := h.delivers.drops }
  inHand target event hhand := (h.inHand target event hhand).serve x

theorem DeliveryInv.move (h : DeliveryInv d) {point : ListenerPoint} {drops : List Drop}
    (hpoint : ∀ target event, point.inHand = some (target, event) → d.listener.inHand = some (target, event))
    (hdrops : ∀ x ∈ drops, x.registered = false ∨ maxEventsDataInQueue ≤ x.queueLength) :
    DeliveryInv { d with listener := point, drops := drops } where
  delivers := ⟨h.delivers.proper, hdrops⟩
  inHand target event hhand := by
    have hold := h.inHand target event (hpoint target event hhand)
    exact ⟨hold.le, hold.current, hold.stale⟩

theorem Delivers.append_drop (h : Delivers d) {x : Drop} (hx : x.registered = false ∨ maxEventsDataInQueue ≤ x.queueLength) :
    ∀ y ∈ d.drops ++ [x], y.registered = false ∨ maxEventsDataInQueue ≤ y.queueLength := by
  intro y hy
  rcases List.mem_append.1 hy with hy | hy
  · exact h.drops y hy
  · obtain rfl := List.mem_singleton.1 hy
    exact hx

theorem note_channels_of_ne {id i : SessionId} (hne : i ≠ id) (f : Channel → Channel) :
    (d.note id f).channels i = d.channels i := Function.update_of_ne hne _ _

theorem note_channels_self (id : SessionId) (f : Channel → Channel) :
    (d.note id f).channels id = f (d.channels id) := Function.update_self _ _ _

theorem DeliveryInv.arrive (h : DeliveryInv d) (target : SessionId) (event : Option EventData) :
    DeliveryInv (d.arrive target event) := by
  unfold DeliveryState.arrive
  cases hl : d.listener with
  | received | found | raising => exact h
  | waiting =>
    dsimp only
    split_ifs with hreg
    · refine ⟨⟨fun id => ?_, h.delivers.drops⟩, fun i e hhand => ?_⟩
      · by_cases hid : id = target
        · subst hid
          rw [note_channels_self]
          have hold := h.delivers.proper id
          exact ⟨hold.fifo, hold.ofRegistration.trans (List.sublist_append_left _ _), hold.bounded, hold.empty⟩
        · rw [note_channels_of_ne hid]
          exact h.delivers.proper id
      · -- the event in hand is the one that has just been noted
        obtain ⟨e', rfl, hpair⟩ := Option.map_eq_some_iff.1 hhand
        cases hpair
        refine ⟨?_, fun _ _ => ?_, fun hlt => ?_⟩
        · rw [note_channels_self]
          exact Nat.le_refl _
        · rw [note_channels_self]
          exact ⟨_, rfl, (h.delivers.proper target).ofRegistration⟩
        · rw [note_channels_self] at hlt
          exact absurd hlt (Nat.lt_irrefl _)
    · refine ⟨⟨h.delivers.proper, h.delivers.drops⟩, fun i e hhand => ?_⟩
      obtain ⟨e', rfl, hpair⟩ := Option.map_eq_some_iff.1 hhand
      cases hpair
      exact ⟨Nat.le_refl _, fun _ h => absurd h hreg, fun hlt => absurd hlt (Nat.lt_irrefl _)⟩

theorem enqueueEventData_eq_none {t : SessionTable} {target : SessionId} {event : EventData}
    (h : enqueueEventData t target event = none) :
    registered t target = false ∨ maxEventsDataInQueue ≤ (queued t target).length := by
  unfold enqueueEventData at h
  cases hr : t.find? target with
  | none => exact Or.inl (registered_of_absent hr)
  | some r =>
    rw [hr] at h
    dsimp only at h
    split_ifs at h with hfull
    rw [queued_of_find? hr]
    exact Or.inr hfull

theorem enqueueEventData_eq_some {t t' : SessionTable} {target : SessionId} {event : EventData}
    (h : enqueueEventData t target event = some t') :
    ∃ r, t.find? target = some r ∧ r.eventsDataQueue.length < maxEventsDataInQueue ∧
      t' = t.modify target fun r => { r with eventsDataQueue := r.eventsDataQueue ++ [event] } := by
  unfold enqueueEventData at h
  cases hr : t.find? target with
  | none =>
    rw [hr] at h
    cases h
  | some r =>
    rw [hr] at h
    dsimp only at h
    split_ifs at h with hfull
    exact ⟨r, rfl, Nat.lt_of_not_le hfull, (Option.some.inj h).symm⟩

theorem setQueue_spec {t : SessionTable} {target : SessionId} {r : SessionRecord} (hr : t.find? target = some r)
    (f : List EventData → List EventData) (id : SessionId) :
    registered (t.modify target fun r => { r with eventsDataQueue := f r.eventsDataQueue }) id = registered t id ∧
      queued (t.modify target fun r => { r with eventsDataQueue := f r.eventsDataQueue }) id =
        if id = target then f r.eventsDataQueue else queued t id := by
  have hmod := OrdMap.find?_modify t target id fun r => { r with eventsDataQueue := f r.eventsDataQueue }
  by_cases hid : id = target
  · subst hid
    rw [if_pos rfl, hr, Option.map_some] at hmod
    rw [if_pos rfl, registered_of_find? hmod, registered_of_find? hr, queued_of_find? hmod]
    exact ⟨rfl, rfl⟩
  · rw [if_neg hid] at hmod
    rw [if_neg hid, registered_congr hmod, queued_congr hmod]
    exact ⟨rfl, rfl⟩

theorem enqueue_accepted {target : SessionId} (event : EventData) {r : SessionRecord}
    (hr : d.sessions.find? target = some r) (hroom : r.eventsDataQueue.length < maxEventsDataInQueue) :
    (d.enqueue target event).channels target = { d.channels target with accepted := (d.channels target).accepted ++ [event] } ∧
      ∀ id, registered (d.enqueue target event).sessions id = registered d.sessions id ∧
        queued (d.enqueue target event).sessions id =
          if id = target then r.eventsDataQueue ++ [event] else queued d.sessions id := by
  have hsome : enqueueEventData d.sessions target event =
      some (d.sessions.modify target fun r => { r with eventsDataQueue := r.eventsDataQueue ++ [event] }) := by
    unfold enqueueEventData
    rw [hr]
    exact if_neg (Nat.not_le_of_lt hroom)
  unfold DeliveryState.enqueue
  rw [hsome]
  exact ⟨note_channels_self _ _, setQueue_spec hr fun queue => queue ++ [event]⟩

theorem DeliveryInv.store (h : DeliveryInv d) (hharm : ¬CrossesRegistration .enqueueEventData d) :
    DeliveryInv d.store := by
  unfold DeliveryState.store
  cases hl : d.listener with
  | waiting | received | raising => exact h
  | found target event handle =>
    cases event with
    | none => exact h.move (fun _ _ hhand => nomatch hhand) h.delivers.drops
    | some e =>
      dsimp only
      cases henqueue : enqueueEventData d.sessions target e with
      | none =>
        have heq : d.enqueue target e = d.drop target := by
          unfold DeliveryState.enqueue
          rw [henqueue]
        rw [heq]
        exact h.move (fun _ _ hhand => nomatch hhand) (h.delivers.append_drop (enqueueEventData_eq_none henqueue))
      | some t =>
        obtain ⟨r, hr, hroom, -⟩ := enqueueEventData_eq_some henqueue
        obtain ⟨hchannel, htable⟩ := enqueue_accepted (d := d) e hr hroom
        -- the session is still in the registration in which the event arrived
        have hcurrent : registered d.sessions target = true ∧ d.arrivedIn = (d.channels target).registration :=
          Classical.byContradiction fun hno => hharm ⟨rfl, target, e, handle, r, hl, hr, hroom, hno⟩
        obtain ⟨before, haddressed, haccepted⟩ :=
          (h.inHand target e (by rw [hl]; rfl)).current hcurrent.2 hcurrent.1
        have hothers : ∀ id, id ≠ target → (d.enqueue target e).channels id = d.channels id := by
          intro id hid
          unfold DeliveryState.enqueue
          rw [henqueue]
          exact note_channels_of_ne hid _
        have hdrops : (d.enqueue target e).drops = d.drops := by
          unfold DeliveryState.enqueue
          rw [henqueue]
          rfl
        refine ⟨⟨fun id => ?_, ?_⟩, fun _ _ hhand => nomatch hhand⟩
        · show ((d.enqueue target e).channels id).Proper (d.enqueue target e).sessions id
          have hold := h.delivers.proper id
          by_cases hid : id = target
          · subst hid
            have hqueued : queued (d.enqueue id e).sessions id = r.eventsDataQueue ++ [e] := by
              rw [(htable id).2, if_pos rfl]
            rw [hchannel]
            refine ⟨?_, ?_, ?_, ?_⟩
            · have hfifo := hold.fifo
              rw [queued_of_find? hr] at hfifo
              rw [hqueued, ← List.append_assoc, hfifo]
            · dsimp only
              rw [haddressed]
              exact haccepted.append (List.Sublist.refl _)
            · rw [hqueued, List.length_append]
              exact hroom
            · rw [(htable id).1, hcurrent.1]
              exact fun hfalse => nomatch hfalse
          · rw [hothers id hid]
            obtain ⟨hreg, hqueued⟩ := htable id
            rw [if_neg hid] at hqueued
            exact ⟨by rw [hqueued]; exact hold.fifo, hold.ofRegistration, by rw [hqueued]; exact hold.bounded,
              by rw [hreg, hqueued]; exact hold.empty⟩
        · show ∀ x ∈ (d.enqueue target e).drops, _
          rw [hdrops]
          exact h.delivers.drops

/-! ### Returning an event -/

theorem getSessionEventData_cases (s : Service φ) (id : SessionId) :
    (((getSessionEventData id).exe s).2 = s ∧ ((getSessionEventData id).exe s).1.2 = none) ∨
      ∃ r e es, s.sessionList.find? id = some r ∧ r.eventsDataQueue = e :: es ∧
        ((getSessionEventData id).exe s).1.2 = some e ∧
        ((getSessionEventData id).exe s).2.sessionList =
          s.sessionList.modify id fun r => { r with eventsDataQueue := es } := by
  simp only [getSessionEventData, exe_bind, exe_get]
  cases hr : s.sessionList.find? id with
  | none => exact Or.inl ⟨rfl, rfl⟩
  | some r =>
    simp only [exe_ite]
    split_ifs
    · exact Or.inl ⟨rfl, rfl⟩
    · cases hqueue : r.eventsDataQueue with
      | nil => exact Or.inl ⟨rfl, rfl⟩
      | cons e es => exact Or.inr ⟨r, e, es, rfl, hqueue, rfl, rfl⟩

theorem DeliveryInv.getEventData (h : DeliveryInv d) (id : SessionId) : DeliveryInv (d.getEventData id) := by
  unfold DeliveryState.getEventData
  rcases getSessionEventData_cases d.service id with ⟨hstate, hnone⟩ | ⟨r, e, es, hr, hqueue, hsome, htable⟩
  · have hserve : d.serve (getSessionEventData id) = d := by
      unfold DeliveryState.serve
      simp only [hstate, if_true]
    rw [hserve, hnone]
    have hnote : d.note id (fun c => { c with returned := c.returned ++ (none : Option EventData).toList }) = d := by
      unfold DeliveryState.note
      simp only [Option.toList_none, List.append_nil, Function.update_eq_self]
    rw [hnote]
    exact h
  · have hspec := setQueue_spec hr fun _ => es
    rw [← htable] at hspec
    have hchannels : (d.serve (getSessionEventData id)).channels = d.channels := by
      funext i
      exact if_pos (hspec i).1
    rw [hsome]
    refine ⟨⟨fun i => ?_, h.delivers.drops⟩, fun target event hhand => ?_⟩
    · obtain ⟨hreg, hqueued⟩ := hspec i
      have hold := h.delivers.proper i
      show (Channel.Proper _ ((getSessionEventData id).exe d.service).2.sessionList i)
      by_cases hi : i = id
      · subst hi
        rw [note_channels_self, hchannels]
        rw [if_pos rfl] at hqueued
        have hfifo := hold.fifo
        have hbounded := hold.bounded
        rw [queued_of_find? hr, hqueue] at hfifo hbounded
        refine ⟨?_, hold.ofRegistration, ?_, fun hfalse => ?_⟩
        · rw [hqueued, ← hfifo]
          simp only [Option.toList_some, List.append_assoc, List.singleton_append]
        · rw [hqueued]
          exact Nat.le_of_succ_le hbounded
        · -- a session without a handle had no event to return
          have hempty := hold.empty (hreg.symm.trans hfalse)
          rw [queued_of_find? hr, hqueue] at hempty
          cases hempty
      · rw [note_channels_of_ne hi, hchannels]
        rw [if_neg hi] at hqueued
        exact ⟨by rw [hqueued]; exact hold.fifo, hold.ofRegistration, by rw [hqueued]; exact hold.bounded,
          by rw [hreg, hqueued]; exact hold.empty⟩
    · have hold := (h.inHand target event hhand).serve (getSessionEventData id)
      by_cases ht : target = id
      · subst ht
        refine ⟨?_, ?_, ?_⟩
        all_goals rw [note_channels_self]
        · exact hold.le
        · exact hold.current
        · exact hold.stale
      · refine ⟨?_, ?_, ?_⟩
        all_goals rw [note_channels_of_ne ht]
        · exact hold.le
        · exact hold.current
        · exact hold.stale

/-! ### Runs -/

end Invariant

section Crossing

end Crossing

end DalHost

import DalHost.Plugin.Beihai
import DalHost.Service.SessionsManager
import Mathlib.Algebra.Group.Nat.Defs

/-!
# Events from the spooler

The spooler is an applet that collects the events of all applets. The listener thread of the
service asks it for the next one (`JHI_Plugin_WaitForSpoolerEvent`), looks up the session that the
response names and raises the event of that session. The session is an out parameter that lives
across the rounds of the listener, and the two plugins differ in how they test for a success; the
last section says exactly when a round reacts to something that is not an event.
-/

namespace DalHost

/-! ### One exchange with the spooler -/

/-- The firmware's answer to one send-and-receive. -/
inductive SnrReply
  /-- The message could not be exchanged, or the code is an error. -/
  | failed (ret : BhRet) (h : ret ≠ bhSuccess)
  /-- The applet asks for a larger buffer. -/
  | smallBuffer (responseCode requestLength : UInt32)
  /-- The applet has responded; the length is that of a message. -/
  | response (responseCode : UInt32) (data : Bytes) (hlen : data.length < 2 ^ 32)

/-- `BHE_APPLET_SMALL_BUFFER`. -/
def bheAppletSmallBuffer : BhRet := 0x403

/-- `BHP_SendAndRecv`, `BH_PluginSendAndRecv` after the message: the code, the response code, the output
length and the output. A response that does not fit is answered with its length alone. -/
def bhSendAndRecv (rxLen : UInt32) : SnrReply → BhRet × UInt32 × UInt32 × Option Bytes
  | .failed ret _ => (ret, 0, rxLen, none)
  | .smallBuffer responseCode requestLength => (bheAppletSmallBuffer, responseCode, requestLength, none)
  | .response responseCode data _ =>
    let len := UInt32.ofNat data.length
    if len = 0 then (bhSuccess, responseCode, len, none)
    else if len ≤ rxLen then (bhSuccess, responseCode, len, some data)
    else (bheAppletSmallBuffer, responseCode, len, none)

/-- `JHI_Plugin_SendAndRecv` on a reply. -/
def receiveReply (v : PluginVersion) (rxLen : UInt32) (reply : SnrReply) : SarAnswer :=
  let out := bhSendAndRecv rxLen reply
  ⟨v.toJhiError out.1, out.2.1, out.2.2.1, out.2.2.2.getD []⟩

/-- The plugin's exchange, on a firmware that replies so. -/
theorem exe_jhiPluginSendAndRecv {ψ : Type} {F : Firmware ψ} {v : PluginVersion} {handle : VmHandle} {cmd : UInt32}
    {tx : Bytes} {rxLen : UInt32} {e : VmEnv ψ} {reply : SnrReply}
    (h : ((F.sendAndRecv handle cmd tx rxLen).exe e.fw).1 = bhSendAndRecv rxLen reply) :
    ((jhiPluginSendAndRecv F v handle cmd tx rxLen).exe e).1 = receiveReply v rxLen reply := by
  unfold jhiPluginSendAndRecv receiveReply
  simp only [exe_bind, exe_onFw, exe_pure, h]
  cases reply with
  | failed ret hret => rfl
  | smallBuffer responseCode requestLength => rfl
  | response responseCode data hlen =>
    have hdata : (UInt32.ofNat data.length).toNat = data.length := UInt32.toNat_ofNat_of_lt' hlen
    unfold bhSendAndRecv
    by_cases hzero : UInt32.ofNat data.length = 0
    · simp only [if_pos hzero]
      rfl
    · by_cases hfit : UInt32.ofNat data.length ≤ rxLen
      · simp only [if_neg hzero, if_pos hfit, true_and, hdata, List.take_length, Option.getD_some]
      · simp only [if_neg hzero, if_neg hfit]
        rfl

theorem receiveReply_eq_success {v : PluginVersion} {rxLen : UInt32} {reply : SnrReply}
    (h : (receiveReply v rxLen reply).retCode = jhiSuccess) :
    ∃ data hlen, reply = .response (receiveReply v rxLen reply).responseCode data hlen ∧
      (receiveReply v rxLen reply).length.toNat = data.length ∧ (receiveReply v rxLen reply).written = data := by
  have hret : (bhSendAndRecv rxLen reply).1 = bhSuccess := PluginVersion.toJhiError_eq_success.1 h
  cases reply with
  | failed ret hne => exact absurd hret hne
  | smallBuffer responseCode requestLength => exact absurd hret (by exact (by decide : ¬bheAppletSmallBuffer = bhSuccess))
  | response responseCode data hlen =>
    have hdata : (UInt32.ofNat data.length).toNat = data.length := UInt32.toNat_ofNat_of_lt' hlen
    refine ⟨data, hlen, ?_⟩
    by_cases hzero : UInt32.ofNat data.length = 0
    · have hnil : data.length = 0 := by rw [← hdata, hzero]; rfl
      obtain rfl := List.length_eq_zero_iff.1 hnil
      exact ⟨rfl, rfl, rfl⟩
    · unfold receiveReply
      unfold bhSendAndRecv at hret ⊢
      by_cases hfit : UInt32.ofNat data.length ≤ rxLen
      · simp only [if_neg hzero, if_pos hfit, hdata, Option.getD_some, and_self]
      · simp only [if_neg hzero, if_neg hfit] at hret
        exact absurd hret (by decide)

/-! ### `JHI_Plugin_WaitForSpoolerEvent` -/

/-- `JHI_EVENT_DATA_BUFFER_SIZE + sizeof(JHI_SESSION_ID)`. -/
def eventBufferSize : UInt32 := 1024 + 16

/-- `JHI_DATA_FROM_APPLET`. -/
def jhiDataFromApplet : UInt32 := 0

/-- The id at the start of a buffer that was cleared. -/
def SessionId.ofBuffer (buffer : Bytes) : SessionId :=
  ⟨(buffer ++ List.replicate 16 0).take 16, by simp⟩

/-- What the listener gets: the code, the event (`NULL` if there is none) and the target. -/
structure SpoolerEvent where
  status : JhiRet
  eventData : Option EventData
  targetSession : SessionId

/-- The test for a success: only the second plugin looks at the response code. -/
def PluginVersion.eventArrived (v : PluginVersion) (a : SarAnswer) : Bool :=
  match v with
  | .v1 => a.retCode = jhiSuccess
  | .v2 => a.retCode = jhiSuccess ∧ a.responseCode = jhiSuccess

/-- The end of `JHI_Plugin_WaitForSpoolerEvent`, after the exchanges. Without an event the target is not
touched and the code is that of the exchange. -/
def unpackEvent (v : PluginVersion) (target : SessionId) (a : SarAnswer) : SpoolerEvent :=
  if v.eventArrived a then
    if a.length.toNat < 16 then ⟨jhiInternalError, none, target⟩
    else ⟨a.retCode, some ⟨jhiDataFromApplet, a.written.drop 16⟩, SessionId.ofBuffer a.written⟩
  else ⟨a.retCode, none, target⟩

/-- The exchanges of `JHI_Plugin_WaitForSpoolerEvent`: a second one with a larger buffer if the first buffer
is too small. -/
def processedAnswer (v : PluginVersion) (first second : SnrReply) : SarAnswer :=
  let a := receiveReply v eventBufferSize first
  if a.retCode = jhiInsufficientBuffer then receiveReply v a.length second else a

/-- `JHI_Plugin_WaitForSpoolerEvent`. -/
def waitForSpoolerEvent (v : PluginVersion) (target : SessionId) (first second : SnrReply) : SpoolerEvent :=
  unpackEvent v target (processedAnswer v first second)

/-! ### The listener -/

/-- What one round of the listener meets: the replies of the spooler, and the session table when the
event handle is looked up and when the event is stored. -/
structure SpoolerRound where
  first : SnrReply
  second : SnrReply
  atLookup : SessionTable
  atEnqueue : SessionTable

/-- What one round of the listener does. -/
structure Reaction where
  /-- The session whose event is raised. -/
  raised : Option SessionId
  /-- The event that is stored, and for which session. -/
  enqueued : Option (SessionId × EventData)
  /-- The loop goes on. -/
  goesOn : Bool

/-- The event that a round stores. -/
def storedEvent (t : SessionTable) (e : SpoolerEvent) : Option (SessionId × EventData) :=
  match e.eventData with
  | none => none
  | some event => (enqueueEventData t e.targetSession event).map fun _ => (e.targetSession, event)

/-- The body of the loop of `JomEventListenerThread`. -/
def react (round : SpoolerRound) (e : SpoolerEvent) : Reaction :=
  if e.status = jhiSuccess then
    match getEventHandle round.atLookup e.targetSession with
    | none => ⟨none, none, true⟩
    | some _ => ⟨some e.targetSession, storedEvent round.atEnqueue e, true⟩
  else ⟨none, none, false⟩

/-- The event of a round, given the target of the round before. -/
def SpoolerRound.event (v : PluginVersion) (target : SessionId) (round : SpoolerRound) : SpoolerEvent :=
  waitForSpoolerEvent v target round.first round.second

/-- The rounds of the listener, each with the target it started from and what it did. -/
def listen (v : PluginVersion) : SessionId → List SpoolerRound → List (SessionId × SpoolerRound × Reaction)
  | _, [] => []
  | target, round :: rounds =>
    let e := round.event v target
    (target, round, react round e) :: if (react round e).goesOn then listen v e.targetSession rounds else []

/-! ### What the rounds react to -/

/-- The answer that a round looks at. -/
def SpoolerRound.answer (v : PluginVersion) (round : SpoolerRound) : SarAnswer :=
  processedAnswer v round.first round.second

/-- A successful response that names a session and carries a payload. -/
def EventFor (a : SarAnswer) (sessionId : SessionId) (payload : Bytes) : Prop :=
  a.retCode = jhiSuccess ∧ a.responseCode = jhiSuccess ∧ 16 ≤ a.written.length ∧
    sessionId.bytes = a.written.take 16 ∧ payload = a.written.drop 16

/-- A round raises the event of a session, or stores one, only for an event of that session. -/
structure FollowsResponse (v : PluginVersion) (round : SpoolerRound) (x : Reaction) : Prop where
  raised : ∀ sessionId, x.raised = some sessionId → ∃ payload, EventFor (round.answer v) sessionId payload
  enqueued : ∀ sessionId event, x.enqueued = some (sessionId, event) →
    EventFor (round.answer v) sessionId event.data

/-- The exchange succeeded, but the applet's response code is an error, and the session that the plugin
nevertheless takes for the target is registered: the one named in the response (v1), or the one of
the last event (v2). -/
def Misreported (v : PluginVersion) (target : SessionId) (round : SpoolerRound) : Prop :=
  (round.answer v).retCode = jhiSuccess ∧ (round.answer v).responseCode ≠ jhiSuccess ∧
    match v with
    | .v1 => 16 ≤ (round.answer v).written.length ∧
      (getEventHandle round.atLookup (SessionId.ofBuffer (round.answer v).written)).isSome
    | .v2 => (getEventHandle round.atLookup target).isSome

section Rounds

variable {v : PluginVersion} {target : SessionId} {round : SpoolerRound}

theorem length_answer (h : (round.answer v).retCode = jhiSuccess) :
    (round.answer v).length.toNat = (round.answer v).written.length := by
  unfold SpoolerRound.answer processedAnswer at h ⊢
  dsimp only at h ⊢
  split_ifs at h ⊢ with hsmall
  all_goals
    obtain ⟨data, hlen, -, hlength, hwritten⟩ := receiveReply_eq_success h
    rw [hlength, hwritten]

theorem bytes_ofBuffer {buffer : Bytes} (h : 16 ≤ buffer.length) : (SessionId.ofBuffer buffer).bytes = buffer.take 16 :=
  List.take_append_of_le_length h

theorem react_of_failed (h : (round.answer v).retCode ≠ jhiSuccess) :
    react round (round.event v target) = ⟨none, none, false⟩ := by
  have harrived : v.eventArrived (round.answer v) = false := by
    cases v <;> simp [PluginVersion.eventArrived, h]
  have he : round.event v target = ⟨(round.answer v).retCode, none, target⟩ := by
    show unpackEvent v target (round.answer v) = _
    unfold unpackEvent
    rw [harrived]
    rfl
  rw [he]
  exact if_neg h

theorem event_of_arrived (target : SessionId) (harrived : v.eventArrived (round.answer v) = true) (hret : (round.answer v).retCode = jhiSuccess)
    (hlen : 16 ≤ (round.answer v).written.length) :
    round.event v target = ⟨jhiSuccess, some ⟨jhiDataFromApplet, (round.answer v).written.drop 16⟩,
      SessionId.ofBuffer (round.answer v).written⟩ := by
  show unpackEvent v target (round.answer v) = _
  unfold unpackEvent
  rw [if_pos harrived, if_neg (by rw [length_answer hret]; omega), hret]

theorem react_of_short (harrived : v.eventArrived (round.answer v) = true) (hret : (round.answer v).retCode = jhiSuccess)
    (hlen : (round.answer v).written.length < 16) : react round (round.event v target) = ⟨none, none, false⟩ := by
  have he : round.event v target = ⟨jhiInternalError, none, target⟩ := by
    show unpackEvent v target (round.answer v) = _
    unfold unpackEvent
    rw [if_pos harrived, if_pos (by rw [length_answer hret]; exact hlen)]
  rw [he]
  rfl

theorem react_of_handle {e : SpoolerEvent} (hstatus : e.status = jhiSuccess)
    (h : (getEventHandle round.atLookup e.targetSession).isSome) :
    react round e = ⟨some e.targetSession, storedEvent round.atEnqueue e, true⟩ := by
  obtain ⟨handle, hhandle⟩ := Option.isSome_iff_exists.1 h
  unfold react
  rw [if_pos hstatus, hhandle]

theorem react_of_noHandle {e : SpoolerEvent} (hstatus : e.status = jhiSuccess)
    (h : ¬(getEventHandle round.atLookup e.targetSession).isSome) : react round e = ⟨none, none, true⟩ := by
  have hnone : getEventHandle round.atLookup e.targetSession = none := by simpa using h
  unfold react
  rw [if_pos hstatus, hnone]

theorem followsResponse_of_idle {x : Reaction} (hraised : x.raised = none) (henqueued : x.enqueued = none) :
    FollowsResponse v round x where
  raised sessionId h := by
    rw [hraised] at h
    cases h
  enqueued sessionId event h := by
    rw [henqueued] at h
    cases h

theorem followsResponse_of_event (hret : (round.answer v).retCode = jhiSuccess)
    (hcode : (round.answer v).responseCode = jhiSuccess) :
    FollowsResponse v round (react round (round.event v target)) := by
  have harrived : v.eventArrived (round.answer v) = true := by
    cases v <;> simp [PluginVersion.eventArrived, hret, hcode]
  by_cases hlen : 16 ≤ (round.answer v).written.length
  · have he := event_of_arrived target harrived hret hlen
    have hid := bytes_ofBuffer hlen
    rw [he]
    by_cases hhandle : (getEventHandle round.atLookup (SessionId.ofBuffer (round.answer v).written)).isSome
    · rw [react_of_handle rfl hhandle]
      refine ⟨fun sessionId h => ?_, fun sessionId event h => ?_⟩
      · obtain rfl := Option.some.inj h
        exact ⟨_, hret, hcode, hlen, hid, rfl⟩
      · obtain ⟨t, -, hpair⟩ := Option.map_eq_some_iff.1 h
        cases hpair
        exact ⟨hret, hcode, hlen, hid, rfl⟩
    · rw [react_of_noHandle rfl hhandle]
      exact followsResponse_of_idle rfl rfl
  · rw [react_of_short harrived hret (by omega)]
    exact followsResponse_of_idle rfl rfl

/-- The event is raised although the applet reports an error. -/
theorem not_followsResponse {e : SpoolerEvent} (hcode : (round.answer v).responseCode ≠ jhiSuccess)
    (hstatus : e.status = jhiSuccess) (hhandle : (getEventHandle round.atLookup e.targetSession).isSome) :
    ¬FollowsResponse v round (react round e) := by
  rw [react_of_handle hstatus hhandle]
  intro h
  obtain ⟨payload, hevent⟩ := h.raised _ rfl
  exact hcode hevent.2.1

theorem followsResponse_iff :
    FollowsResponse v round (react round (round.event v target)) ↔ ¬Misreported v target round := by
  by_cases hret : (round.answer v).retCode = jhiSuccess
  swap
  · rw [react_of_failed hret]
    exact iff_of_true (followsResponse_of_idle rfl rfl) fun h => hret h.1
  by_cases hcode : (round.answer v).responseCode = jhiSuccess
  · exact iff_of_true (followsResponse_of_event hret hcode) fun h => h.2.1 hcode
  -- the exchange succeeded and the applet reports an error
  cases v with
  | v1 =>
    have harrived : PluginVersion.v1.eventArrived (round.answer .v1) = true := decide_eq_true hret
    by_cases hlen : 16 ≤ (round.answer .v1).written.length
    · have he := event_of_arrived target harrived hret hlen
      have hstatus : (round.event .v1 target).status = jhiSuccess := by rw [he]
      have htarget : (round.event .v1 target).targetSession = SessionId.ofBuffer (round.answer .v1).written := by rw [he]
      by_cases hhandle : (getEventHandle round.atLookup (SessionId.ofBuffer (round.answer .v1).written)).isSome
      · exact iff_of_false (not_followsResponse hcode hstatus (by rw [htarget]; exact hhandle))
          fun h => h ⟨hret, hcode, hlen, hhandle⟩
      · rw [react_of_noHandle hstatus (by rw [htarget]; exact hhandle)]
        exact iff_of_true (followsResponse_of_idle rfl rfl) fun h => hhandle h.2.2.2
    · rw [react_of_short harrived hret (by omega)]
      exact iff_of_true (followsResponse_of_idle rfl rfl) fun h => hlen h.2.2.1
  | v2 =>
    have harrived : PluginVersion.v2.eventArrived (round.answer .v2) = false := by
      simp [PluginVersion.eventArrived, hcode]
    have he : round.event .v2 target = ⟨jhiSuccess, none, target⟩ := by
      show unpackEvent .v2 target (round.answer .v2) = _
      unfold unpackEvent
      rw [harrived, hret]
      rfl
    have hstatus : (round.event .v2 target).status = jhiSuccess := by rw [he]
    have htarget : (round.event .v2 target).targetSession = target := by rw [he]
    by_cases hhandle : (getEventHandle round.atLookup target).isSome
    · exact iff_of_false (not_followsResponse hcode hstatus (by rw [htarget]; exact hhandle))
        fun h => h ⟨hret, hcode, hhandle⟩
    · rw [react_of_noHandle hstatus (by rw [htarget]; exact hhandle)]
      exact iff_of_true (followsResponse_of_idle rfl rfl) fun h => hhandle h.2.2

end Rounds

theorem react_of_mem_listen {v : PluginVersion} {target : SessionId} {rounds : List SpoolerRound}
    {x : SessionId × SpoolerRound × Reaction} (h : x ∈ listen v target rounds) :
    x.2.2 = react x.2.1 (x.2.1.event v x.1) := by
  induction rounds generalizing target with
  | nil => cases h
  | cons round rounds ih =>
    rw [listen] at h
    rcases List.mem_cons.1 h with rfl | h
    · rfl
    · split_ifs at h
      · exact ih h
      · cases h

/-- The listener signals events only to their targets, in a run, exactly if no round of it was
misreported. -/
theorem listen_followsResponse_iff (v : PluginVersion) (target : SessionId) (rounds : List SpoolerRound) :
    (∀ x ∈ listen v target rounds, FollowsResponse v x.2.1 x.2.2) ↔
      ∀ x ∈ listen v target rounds, ¬Misreported v x.1 x.2.1 := by
  refine forall_congr' fun x => imp_congr_right fun hx => ?_
  rw [react_of_mem_listen hx]
  exact followsResponse_iff

/-! ### A stale target -/

/-- A table with one session, registered for events. -/
def registeredTable (id : SessionId) : SessionTable :=
  OrdMap.empty.insert id { newRecord [] 1 id 0 ⟨1, 0, 0⟩ with eventHandle := some ⟨[1], true⟩ }

/-- A response to the first exchange, with the session above registered. -/
def registeredRound (responseCode : UInt32) (data : Bytes) (hlen : data.length < 2 ^ 32) : SpoolerRound where
  first := .response responseCode data hlen
  second := .response 0 [] (by decide)
  atLookup := registeredTable (.replicate 7)
  atEnqueue := registeredTable (.replicate 7)

/-- The second plugin raises the event of a session again for an exchange that only brings an error. -/
theorem staleTarget_raised :
    ¬∀ x ∈ listen .v2 (.replicate 0) [registeredRound 0 (List.replicate 16 7) (by decide), registeredRound 1 [] (by decide)],
      FollowsResponse .v2 x.2.1 x.2.2 := by
  intro h
  have hlisten : (SessionId.replicate 7, registeredRound 1 [] (by decide), ⟨some (.replicate 7), none, true⟩) ∈
      listen .v2 (.replicate 0) [registeredRound 0 (List.replicate 16 7) (by decide), registeredRound 1 [] (by decide)] :=
    List.mem_cons_of_mem _ List.mem_cons_self
  obtain ⟨payload, hevent⟩ := (h _ hlisten).raised _ rfl
  exact absurd hevent.2.1 (by decide)

end DalHost

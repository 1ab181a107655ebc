import DalHost.Plugin.SecurityDomains
import DalHost.Lib.OrdMap
import Mathlib.Algebra.Group.Nat.Defs
import Mathlib.Logic.Function.Basic

/-!
# A connection of the Beihai host proxy

The library under the plugin talks to one firmware process over one connection. Any number of
threads send commands on it; one thread receives. A sender puts a response record into a map under a
fresh number, sends the number along, and sleeps on an event of the record; the receiver looks the
number of a response up, fills the record in and signals the event. Sessions are records that stay
in the map, with a count of the threads inside, a lock and a flag that says that the session was
killed.

A step is what a thread does between two points at which another one can interfere: a section of the
map's mutex is one step, an access to a record without it is a step of its own. The receiver holds
the mutex all through its last pass over the map (`RecvThread.holdsMap`). Numbers are shared with
the other connections (`BhpMove.elsewhere`).
-/

namespace DalHost

def bpeCommsError : BhRet := 0x004
def bpeOutOfResource : BhRet := 0x00B
def bheWdTimeout : BhRet := 0x106
def bheAppletCrashed : BhRet := 0x201
def bheIacExistInternalSession : BhRet := 0x244
def bhePackageNotFound : BhRet := 0x304
def bheUncaughtException : BhRet := 0x401

/-- `MAX_SESSION_LIMIT`. -/
def maxSessionLimit : Nat := 20

/-! ### Records -/

/-- An event that `wait_event` points to; `closed` once `bh_close_event` has freed it. -/
structure WaitEvent where
  triggered : Bool
  closed : Bool
  deriving DecidableEq

/-- `bh_response_record`; `buffer` is the pair of `buffer` and `length`. -/
structure ResponseRecord (τ : Type) where
  waitEvent : Option WaitEvent
  code : BhRet
  buffer : Option Bytes
  addr : Nat
  isSession : Bool
  killed : Bool
  count : Nat
  /-- The thread that holds `session_lock`. -/
  sessionLock : Option τ
  /-- The memory is gone: `destroy_session` was called, or the function whose stack held the record
  returned. -/
  freed : Bool
  /-- The firmware has got the whole command and has not answered it. -/
  outstanding : Bool
  /-- How many responses had come when the event was created. -/
  asked : Nat

/-- No record: never made, or made on another connection. -/
def ResponseRecord.absent {τ : Type} : ResponseRecord τ :=
  ⟨none, 0, none, 0, false, false, 0, none, true, false, 0⟩

/-- `{0}`: the record of a command. -/
def ResponseRecord.ofCommand {τ : Type} : ResponseRecord τ :=
  { ResponseRecord.absent with freed := false }

/-- The record of a session that is being opened. -/
def ResponseRecord.ofSession {τ : Type} : ResponseRecord τ :=
  { ResponseRecord.absent with freed := false, isSession := true, count := 1 }

/-- `inc_seqno`: the number after `g`, as `BH_U32`. -/
def incSeqno (g : Nat) : Nat := if (g + 1) % 2 ^ 32 = 0 then 1 else (g + 1) % 2 ^ 32

/-- `g_seqno` after so many draws. Records are named by their draw, so this is the number of a
record. -/
def seqOf : Nat → Nat
  | 0 => 0
  | n + 1 => incSeqno (seqOf n)

/-! ### Threads -/

/-- Why a thread is inside a session. -/
inductive SessionRole
  /-- `BHP_OpenSDSession`, `bh_proxy_openjtasession`; the latter may download the package and try
  again. -/
  | opening (retry : Bool)
  /-- `BHP_SendAndRecv` and the other functions that leave by `session_exit`. -/
  | exchanging
  /-- `BHP_CloseSDSession`, `BHP_CloseTASession`. -/
  | closing (sd : Bool)
  /-- `BHP_ForceCloseTASession`. -/
  | forcing
  deriving DecidableEq

/-- `lock_session`. -/
def SessionRole.locks : SessionRole → Bool
  | .exchanging | .closing _ => true
  | .opening _ | .forcing => false

def SessionRole.opens : SessionRole → Bool
  | .opening _ => true
  | _ => false

/-- Where a thread stands in `rrmap_add` and `bh_send_message`. -/
inductive SendStage
  | register
  | find
  | lockSend
  | arm
  | sendCmd
  | sendData
  /-- `bh_close_event` after a send that failed. -/
  | failed
  /-- `rrmap_remove` after a send that failed. -/
  | giveUp (ret : BhRet)
  | unlockFailed (ret : BhRet)
  | unlock
  | wait
  | closeEvent
  | disarm
  | returned (ret : BhRet)
  deriving DecidableEq

/-- The stage is a section of the map's mutex. -/
def SendStage.inMap : SendStage → Bool
  | .register | .find | .giveUp _ => true
  | _ => false

inductive HostTask
  | idle
  /-- A command is to be sent with a record of its own, whose number is drawn next. -/
  | drawing
  /-- Before the section of `session_enter`. -/
  | entering (q : Nat) (role : SessionRole)
  | locking
  /-- The session is locked; `killed` is read next. -/
  | checking
  /-- The caller's record is `m`, the one that `addr2record` found is `rr`. -/
  | sending (m rr : Nat) (stage : SendStage)
  /-- Before the section of `session_exit`, or of `session_close`. -/
  | leaving (closes : Bool)
  deriving DecidableEq

structure HostThread where
  /-- The session that counts the thread. -/
  session : Option (Nat × SessionRole)
  task : HostTask
  deriving DecidableEq

/-- A response: the fields of `bhp_response_header` and the data, if the length announces any. -/
structure BhpResponse where
  seq : Nat
  code : BhRet
  addr : Nat
  data : Option Bytes
  deriving DecidableEq

/-- Where the receiver stands. -/
inductive RecvThread
  | listening
  /-- The header has come, `rrmap_remove` has answered; the data comes next. -/
  | found (a : BhpResponse) (rr : Option Nat)
  /-- The record is filled in; its `wait_event` is read next. -/
  | waking (n : Nat) (sessionKilled ok : Bool)
  /-- Before the section of `session_kill`. -/
  | killing (n : Nat) (ok : Bool)
  | closing
  /-- The handle is zero; `unblock_threads` comes next. -/
  | closed
  | sweeping (rest : List (Nat × Nat))
  /-- A record is signalled; its `is_session` is read next. -/
  | erasing (q n : Nat) (rest : List (Nat × Nat))
  | clearing
  | ended
  deriving DecidableEq

def RecvThread.holdsMap : RecvThread → Bool
  | .sweeping _ | .erasing .. => true
  | _ => false

/-- After a message: on to the next one, or to the end of the connection. -/
def RecvThread.next (ok : Bool) : RecvThread := if ok then .listening else .closing

/-- What the transport has taken. -/
inductive WirePart
  | command (m : Nat) (withData : Bool)
  | data (m : Nat)
  /-- The data was refused, so that the rest of the command is missing. -/
  | torn (m : Nat)
  deriving DecidableEq

/-- `bh_connection_item` with its threads. -/
structure ConnectionItem (τ : Type) where
  /-- `handle` is not zero. -/
  handle : Bool
  drawn : Nat
  rrmap : OrdMap Nat Nat
  record : Nat → ResponseRecord τ
  /-- The sessions whose handles the plugin has got. -/
  issued : Nat → Bool
  /-- The thread that holds `bhm_send`. -/
  sendLock : Option τ
  receiver : RecvThread
  thread : τ → HostThread
  wire : List WirePart
  log : List BhpResponse
  /-- An event was signalled after it was closed. -/
  lateSignal : Bool

namespace ConnectionItem

variable {τ : Type}

/-- After `bh_do_connect`, when so many numbers have been drawn before. -/
def start (drawn : Nat) : ConnectionItem τ where
  handle := true
  drawn := drawn
  rrmap := OrdMap.empty
  record _ := .absent
  issued _ := false
  sendLock := none
  receiver := .listening
  thread _ := ⟨none, .idle⟩
  wire := []
  log := []
  lateSignal := false

/-! ### Building blocks -/

def edit (s : ConnectionItem τ) (n : Nat) (f : ResponseRecord τ → ResponseRecord τ) :
    ConnectionItem τ :=
  { s with record := Function.update s.record n (f (s.record n)) }

def setMap (s : ConnectionItem τ) (m : OrdMap Nat Nat) : ConnectionItem τ := { s with rrmap := m }

def setSendLock (s : ConnectionItem τ) (holder : Option τ) : ConnectionItem τ :=
  { s with sendLock := holder }

def setReceiver (s : ConnectionItem τ) (r : RecvThread) : ConnectionItem τ :=
  { s with receiver := r }

/-- The transport takes something. -/
def post (s : ConnectionItem τ) (p : WirePart) : ConnectionItem τ :=
  { s with wire := s.wire ++ [p] }

/-- The memory of a session is given back, and its entry in the map. -/
def destroy (s : ConnectionItem τ) (n : Nat) : ConnectionItem τ :=
  (s.edit n fun r => { r with freed := true, sessionLock := none }).setMap (s.rrmap.erase (seqOf n))

/-- `rrmap_remove`: sessions stay. -/
def rrmapRemove (s : ConnectionItem τ) (q : Nat) : ConnectionItem τ :=
  match s.rrmap.find? q with
  | some n => if (s.record n).isSession then s else s.setMap (s.rrmap.erase q)
  | none => s

/-- `bh_signal_event`. -/
def signal (s : ConnectionItem τ) (n : Nat) (e : WaitEvent) : ConnectionItem τ :=
  { s.edit n fun r => { r with waitEvent := some { e with triggered := true } } with
    lateSignal := s.lateSignal || e.closed }

variable [DecidableEq τ]

def setThread (s : ConnectionItem τ) (t : τ) (th : HostThread) : ConnectionItem τ :=
  { s with thread := Function.update s.thread t th }

def goto (s : ConnectionItem τ) (t : τ) (task : HostTask) : ConnectionItem τ :=
  s.setThread t { s.thread t with task := task }

/-- A record is made and a number drawn for it. -/
def draw (s : ConnectionItem τ) (t : τ) (r : ResponseRecord τ)
    (session : Option (Nat × SessionRole)) : ConnectionItem τ :=
  { s with
    drawn := s.drawn + 1
    record := Function.update s.record (s.drawn + 1) r
    thread := Function.update s.thread t ⟨session, .sending (s.drawn + 1) (s.drawn + 1) .register⟩ }

/-! ### Sessions -/

/-- `session_enter`. -/
def sessionEnter (s : ConnectionItem τ) (t : τ) (q : Nat) (role : SessionRole) : ConnectionItem τ :=
  match s.rrmap.find? q with
  | none => s.goto t .idle
  | some n =>
    let r := s.record n
    if r.isSession && !r.killed && r.count < maxSessionLimit then
      (s.edit n fun r => { r with count := r.count + 1 }).setThread t
        ⟨some (n, role), if role.locks then .locking else .drawing⟩
    else s.goto t .idle

/-- The section of `session_exit` and of `session_close`. A session that was opened goes to the
plugin. -/
def sessionLeave (s : ConnectionItem τ) (t : τ) (n : Nat) (role : SessionRole)
    (closes : Bool) : ConnectionItem τ :=
  let count := (s.record n).count - 1
  let killed := (s.record n).killed
  let left := { (s.edit n fun r => { r with
      count := count
      killed := killed || closes
      sessionLock := if role.locks then none else r.sessionLock }).setThread t ⟨none, .idle⟩ with
    issued := if role.opens && !closes then Function.update s.issued n true else s.issued }
  if count = 0 ∧ (killed || closes) = true then left.destroy n else left

/-! ### `bh_send_message` -/

/-- `bh_send_message` has returned: the command is done, or the function of the session goes on. -/
def sendReturned (s : ConnectionItem τ) (t : τ) (m : Nat) (ret : BhRet) : ConnectionItem τ :=
  let r := s.record m
  let ret := if ret = bhSuccess then r.code else ret
  let gone := s.edit m fun r => { r with freed := true }
  let kept := s.edit m fun r => { r with buffer := none }
  match (s.thread t).session with
  | none => gone.goto t .idle
  | some (n, .opening retry) =>
    if n ≠ m then
      -- the download in `bh_proxy_openjtasession`
      gone.goto t (if ret = bhSuccess then .sending n n .find else .leaving true)
    else if ret = bhePackageNotFound ∧ retry = true then
      kept.setThread t ⟨some (n, .opening false), .drawing⟩
    else kept.goto t (.leaving (ret ≠ bhSuccess))
  | some (_, .exchanging) => kept.goto t (.leaving false)
  | some (_, .closing sd) =>
    let ret := if r.killed = true ∧ r.code ≠ bheWdTimeout then bheUncaughtException else ret
    s.goto t (.leaving (sd || ret ≠ bheIacExistInternalSession))
  | some (_, .forcing) => gone.goto t (.leaving true)

/-- What the thread finds where it goes on. -/
structure SendChoice where
  /-- The transport takes the bytes; `bh_create_event` gets its event. -/
  ok : Bool
  /-- The command has data behind it. -/
  data : Bool
  deriving DecidableEq

/-- What a step in `rrmap_add` and `bh_send_message` does besides going on to the next stage. -/
def sendStep (s : ConnectionItem τ) (t : τ) (m rr : Nat) (c : SendChoice)
    (stage : SendStage) : ConnectionItem τ :=
  let atStage (s : ConnectionItem τ) (stage : SendStage) := s.goto t (.sending m rr stage)
  let closed (r : ResponseRecord τ) :=
    { r with waitEvent := r.waitEvent.map fun e => { e with closed := true } }
  match stage with
  | .register => atStage (s.setMap ((s.rrmap.erase (seqOf m)).insert (seqOf m) m)) .find
  | .find =>
    match s.rrmap.find? (seqOf m) with
    | some found => s.goto t (.sending m found .lockSend)
    | none => atStage s (.returned bpeInternalError)
  | .lockSend => if s.sendLock = none then atStage (s.setSendLock (some t)) .arm else s
  | .arm =>
    if c.ok then
      atStage (s.edit rr fun r =>
        { r with buffer := none, waitEvent := some ⟨false, false⟩, asked := s.log.length }) .sendCmd
    else atStage (s.edit rr fun r => { r with buffer := none, waitEvent := none })
      (.giveUp bpeOutOfResource)
  | .sendCmd =>
    if s.handle && c.ok then
      if c.data then atStage (s.post (.command m true)) .sendData
      else
        atStage ((s.post (.command m false)).edit rr fun r => { r with outstanding := true }) .unlock
    else atStage s .failed
  | .sendData =>
    if s.handle && c.ok then
      atStage ((s.post (.data m)).edit rr fun r => { r with outstanding := true }) .unlock
    else atStage (s.post (.torn m)) .failed
  | .failed => atStage (s.edit rr closed) (.giveUp bpeCommsError)
  | .giveUp ret => atStage (s.rrmapRemove (seqOf m)) (.unlockFailed ret)
  | .unlockFailed ret => atStage (s.setSendLock none) (.returned ret)
  | .unlock =>
    atStage (s.setSendLock none)
      (if (s.record rr).waitEvent = none then .returned bhSuccess else .wait)
  | .wait => if (s.record rr).waitEvent.any fun e => !e.triggered then s else atStage s .closeEvent
  | .closeEvent => atStage (s.edit rr closed) .disarm
  | .disarm => atStage (s.edit rr fun r => { r with waitEvent := none }) (.returned bhSuccess)
  | .returned ret => s.sendReturned t m ret

/-- A thread goes on, unless it waits for a lock or an event. -/
def hostStep (s : ConnectionItem τ) (t : τ) (c : SendChoice) : ConnectionItem τ :=
  match (s.thread t).task, (s.thread t).session with
  | .drawing, session => s.draw t .ofCommand session
  | .entering q role, _ => if s.receiver.holdsMap then s else s.sessionEnter t q role
  | .locking, some (n, _) =>
    if (s.record n).sessionLock = none then
      (s.edit n fun r => { r with sessionLock := some t }).goto t .checking
    else s
  | .checking, some (n, _) =>
    s.goto t (if (s.record n).killed then .leaving false else .sending n n .find)
  | .sending m rr stage, _ =>
    if stage.inMap && s.receiver.holdsMap then s else s.sendStep t m rr c stage
  | .leaving closes, some (n, role) =>
    if s.receiver.holdsMap then s else s.sessionLeave t n role closes
  | _, _ => s

/-- What an idle thread begins; a session is named by its handle. -/
inductive HostCall
  | command
  | openSession (retry : Bool)
  | exchange (q : Nat)
  | closeSession (q : Nat) (sd : Bool)
  | forceClose (q : Nat)
  deriving DecidableEq

def begin (s : ConnectionItem τ) (t : τ) (call : HostCall) : ConnectionItem τ :=
  if s.thread t = ⟨none, .idle⟩ then
    match call with
    | .command => s.goto t .drawing
    | .openSession retry => s.draw t .ofSession (some (s.drawn + 1, .opening retry))
    | .exchange q => s.goto t (.entering q .exchanging)
    | .closeSession q sd => s.goto t (.entering q (.closing sd))
    | .forceClose q => s.goto t (.entering q .forcing)
  else s

/-! ### The receiver -/

/-- `bh_transport_recv` of a header, the check of its magic, and `rrmap_remove`; `none` if there is
no good header. -/
def receive (s : ConnectionItem τ) (header : Option BhpResponse) : ConnectionItem τ :=
  match s.receiver, header with
  | .listening, none => s.setReceiver .closing
  | .listening, some a =>
    let found := s.rrmap.find? a.seq
    let s := { s.rrmapRemove a.seq with log := s.log ++ [a], receiver := .found a found }
    match found with
    | some n => s.edit n fun r => { r with outstanding := false }
    | none => s
  | _, _ => s

/-- The codes that say that the session is dead. -/
def sessionDead (code : BhRet) : Bool :=
  code = bheWdTimeout || code = bheUncaughtException || code = bheAppletCrashed

/-- The fields that `bh_recv_message` writes; the buffer is there even if the data did not come. -/
def fill (a : BhpResponse) (ok : Bool) (r : ResponseRecord τ) : ResponseRecord τ :=
  let code := if ok then a.code else bpeCommsError
  { r with
    buffer := a.data
    code := code
    addr := if a.addr ≠ 0 then a.addr else r.addr
    killed := r.killed || (r.isSession && sessionDead code) }

/-- A step of the receiver after the header. The data comes if `ok`; a stack that is gone may hold
anything (`stale`) where `is_session` was. -/
def recvStep (s : ConnectionItem τ) (ok stale : Bool) : ConnectionItem τ :=
  match s.receiver with
  | .listening | .ended => s
  | .found a rr =>
    let ok := ok || a.data.isNone
    match rr with
    | none => s.setReceiver (.next ok)
    | some n =>
      (s.edit n (fill a ok)).setReceiver
        (.waking n ((s.record n).isSession && sessionDead (if ok then a.code else bpeCommsError)) ok)
  | .waking n sessionKilled ok =>
    match (s.record n).waitEvent with
    | some e => (s.signal n e).setReceiver (.next ok)
    | none => s.setReceiver (if sessionKilled then .killing n ok else .next ok)
  | .killing n ok =>
    let s := s.edit n fun r => { r with killed := true }
    (if (s.record n).count = 0 then s.destroy n else s).setReceiver (.next ok)
  | .closing => { s with handle := false, receiver := .closed }
  | .closed => s.setReceiver (.sweeping s.rrmap.entries)
  | .sweeping [] => s.setReceiver .clearing
  | .sweeping ((q, n) :: rest) =>
    let s := s.edit n fun r => { r with code := bpeCommsError, outstanding := false }
    match (s.record n).waitEvent with
    | some e =>
      ((s.edit n fun r => { r with killed := r.killed || r.isSession }).signal n e).setReceiver
        (.erasing q n rest)
    | none =>
      (if (s.record n).isSession && (s.record n).count = 0 then s.destroy n else s).setReceiver
        (.sweeping rest)
  | .erasing q n rest =>
    (if (if (s.record n).freed then stale else (s.record n).isSession) then s
      else s.setMap (s.rrmap.erase q)).setReceiver (.sweeping rest)
  | .clearing => (s.setMap OrdMap.empty).setReceiver .ended

/-! ### Runs -/

inductive BhpMove (τ : Type)
  | begin (t : τ) (call : HostCall)
  | host (t : τ) (c : SendChoice)
  | receive (header : Option BhpResponse)
  | recv (ok stale : Bool)
  /-- A number is drawn for another connection. -/
  | elsewhere

def step (c : BhpMove τ) (s : ConnectionItem τ) : ConnectionItem τ :=
  match c with
  | .begin t call => s.begin t call
  | .host t c => s.hostStep t c
  | .receive header => s.receive header
  | .recv ok stale => s.recvStep ok stale
  | .elsewhere => { s with drawn := s.drawn + 1 }

end ConnectionItem

end DalHost

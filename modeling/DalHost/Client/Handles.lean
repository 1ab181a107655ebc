import DalHost.Client.Encode

/-!
# The handles of the client library

`jhi.cpp` keeps one application handle, with a reference count and the list of the session handles, and hands out the
addresses of its structs. Modelled are the functions that make, check and free these structs, with every answer of the
service and of the system as an argument (`LibAnswers`), and a record of what was freed.
-/

namespace DalHost

/-! ### Memory -/

/-- The addresses that `new` returns, in this order: no address is given out again. -/
structure Addresses where
  addr : Nat → Nat
  injective : ∀ i j, addr i = addr j → i = j
  ne_null : ∀ i, addr i ≠ 0

/-- `JHI_I_SESSION_HANDLE`. Of `eventHandle`, `threadHandle`, `callback` and `threadNeedToEnd` it matters whether they are set. -/
structure ISessionHandle where
  sessionID : SessionId
  eventHandle : Bool
  threadHandle : Bool
  callback : Bool
  threadNeedToEnd : Bool
  sessionFlags : UInt32
  processInfo : ProcessInfo

/-- `list<JHI_I_SESSION_HANDLE*>`, at its address. -/
structure SessionsList where
  ptr : Nat
  items : List Nat

/-- `JHI_I_HANDLE`, at its address. -/
structure IHandle where
  ptr : Nat
  processInfo : ProcessInfo
  sessionsList : Option SessionsList
  referenceCount : UInt32

/-- The globals of `jhi.cpp` and the session structs; how many structs were allocated, and which were freed. -/
structure JhiLib where
  appHandle : Option IHandle
  memory : Nat → ISessionHandle
  allocations : Nat
  freed : List Nat

namespace JhiLib

variable (A : Addresses) (s : JhiLib)

/-- `JHI_ALLOC_T`: `NULL` if there is no memory. -/
def alloc (succeeds : Bool) : Nat × JhiLib :=
  if succeeds then (A.addr s.allocations, { s with allocations := s.allocations + 1 }) else (0, s)

/-- `JHI_DEALLOC`, `JHI_DEALLOC_T`. -/
def dealloc (p : Nat) : JhiLib := if p = 0 then s else { s with freed := s.freed ++ [p] }

def edit (p : Nat) (f : ISessionHandle → ISessionHandle) : JhiLib :=
  { s with memory := fun q => if q = p then f (s.memory q) else s.memory q }

def setItems (items : List Nat) : JhiLib :=
  { s with appHandle := s.appHandle.map fun a => { a with sessionsList := a.sessionsList.map fun l => { l with items := items } } }

/-! ### The list of sessions -/

/-- `ValidateJHIhandle`. -/
def validateJHIhandle (handle : Nat) : Bool := handle ≠ 0 && s.appHandle.any fun a => a.ptr = handle

/-- The list, if there is one. -/
def sessionsList : Option SessionsList := s.appHandle.bind IHandle.sessionsList

/-- `SessionHandleValid`. -/
def sessionHandleValid (p : Nat) : Bool :=
  match s.sessionsList with
  | none => false
  | some l => p ≠ 0 && l.items.contains p

/-- `addSessionHandle`. -/
def addSessionHandle (p : Nat) : Bool × JhiLib :=
  match s.sessionsList with
  | none => (false, s)
  | some l => if p = 0 then (false, s) else (true, s.setItems (l.items ++ [p]))

/-- `removeSessionHandle`. -/
def removeSessionHandle (p : Nat) : Bool × JhiLib :=
  if !s.sessionHandleValid p then (false, s)
  else
    match s.sessionsList with
    | none => (false, s)
    | some l => (true, s.setItems (l.items.filter fun q => q ≠ p))

end JhiLib

/-! ### Answers -/

/-- What the system and the service answer during one call. An event may be closed by the thread that listens to it, and so
`is_created` is an answer too. -/
structure LibAnswers where
  /-- `JHI_ALLOC_T` of the handle struct, of the sessions list, of `threadNeedToEnd` and of the event. -/
  allocHandle : Bool
  allocList : Bool
  allocNeedToEnd : Bool
  allocEvent : Bool
  /-- The process id and its creation time. -/
  processInfo : Option ProcessInfo
  /-- `UuidCreate`, `uuid_generate`, and the memory for the name of the event. -/
  uuid : Option UuidText
  createEvent : Bool
  createThread : Bool
  isCreated : Nat → Bool
  service : ClientCall → JhiRet
  /-- The session id that `JhisCreateSession` stores. -/
  sessionID : SessionId

/-- What a call returns: the code, the handle that it stores through its out parameter, and the requests to the service
with their answers. -/
structure LibResult where
  rc : JhiRet
  handle : Option Nat
  asked : List (ClientCall × JhiRet)

/-- A call that is refused before it asks the service. -/
def LibResult.refuse (rc : JhiRet) : LibResult := ⟨rc, none, []⟩

/-- `DATA_BUFFER`. -/
structure DataBuffer where
  buffer : Option Bytes
  length : UInt32

/-- The bytes that the service gets. -/
def DataBuffer.data (b : DataBuffer) : Bytes := (b.buffer.getD []).take b.length.toNat

/-- A length without bytes. -/
def DataBuffer.illegal (b : DataBuffer) : Bool := 0 < b.length && b.buffer.isNone

namespace JhiLib

variable (A : Addresses) (ans : LibAnswers)

/-! ### Initialisation -/

/-- `JHI_Initialize` after `JhisInit`. When the process information is not there, the list is not freed. -/
def newAppHandle (s : JhiLib) : Option Nat × JhiLib :=
  let (p, s) := s.alloc A ans.allocHandle
  if p = 0 then (none, s)
  else
    let (l, s) := s.alloc A ans.allocList
    if l = 0 then (none, s.dealloc p)
    else
      match ans.processInfo with
      | none => (none, s.dealloc p)
      | some info => (some p, { s with appHandle := some ⟨p, info, some ⟨l, []⟩, 1⟩ })

/-- `JHI_Initialize`; whether there is an out parameter. -/
def jhiInitialize (ppHandle : Bool) (s : JhiLib) : LibResult × JhiLib :=
  if !ppHandle then (.refuse jhiInvalidHandle, s)
  else
    match s.appHandle with
    | some a => (⟨jhiSuccess, some a.ptr, []⟩, { s with appHandle := some { a with referenceCount := a.referenceCount + 1 } })
    | none =>
      let rc := ans.service .init
      if rc ≠ jhiSuccess then (⟨rc, none, [(.init, rc)]⟩, s)
      else
        match newAppHandle A ans s with
        | (none, s) => (⟨jhiInternalError, none, [(.init, rc)]⟩, s)
        | (some p, s) => (⟨rc, some p, [(.init, rc)]⟩, s)

/-- The event of the session is there and open. -/
def hasEvent (s : JhiLib) (p : Nat) : Bool := (s.memory p).eventHandle && ans.isCreated p

/-- `closeSessionEventThread`. -/
def closeSessionEventThread (p : Nat) (s : JhiLib) : JhiLib :=
  if !s.sessionHandleValid p then s
  else
    s.edit p fun x =>
      { x with callback := false, eventHandle := x.eventHandle && !ans.isCreated p, threadHandle := false }

/-- The loop of `JHI_Deinit` over the list, which holds `NULL` for the structs that are freed. -/
def freeSessions (done : Nat) : List Nat → JhiLib → JhiLib
  | [], s => s
  | p :: rest, s =>
    let s := if s.hasEvent ans p then s.closeSessionEventThread ans p else s
    freeSessions (done + 1) rest ((s.dealloc p).setItems (List.replicate (done + 1) 0 ++ rest))

/-- The end of `JHI_Deinit`, for the last reference. -/
def release (a : IHandle) (s : JhiLib) : JhiLib :=
  let s :=
    match a.sessionsList with
    | none => s
    | some l => (freeSessions ans 0 l.items s).dealloc l.ptr
  { s.dealloc a.ptr with appHandle := none }

/-- `JHI_Deinit`. -/
def jhiDeinit (handle : Nat) (s : JhiLib) : LibResult × JhiLib :=
  if !s.validateJHIhandle handle then (.refuse jhiInvalidHandle, s)
  else
    match s.appHandle with
    | none => (.refuse jhiSuccess, s)
    | some a =>
      let a := { a with referenceCount := a.referenceCount - 1 }
      if 0 < a.referenceCount then (.refuse jhiSuccess, { s with appHandle := some a })
      else (.refuse jhiSuccess, release ans a { s with appHandle := some a })

/-! ### Sessions -/

/-- `JHI_CreateSession_handler` after the checks of its arguments. -/
def newSession (appId : AppId) (flags : UInt32) (initBuffer : DataBuffer) (s : JhiLib) : LibResult × JhiLib :=
  let (p, s) := s.alloc A ans.allocHandle
  if p = 0 then (.refuse jhiInternalError, s)
  else
    match s.appHandle with
    | none => (.refuse jhiInvalidHandle, s.dealloc p)
    | some a =>
      let request := ClientCall.createSession appId flags initBuffer.data a.processInfo
      let rc := ans.service request
      let s := s.edit p fun _ => ⟨ans.sessionID, false, false, false, false, flags, a.processInfo⟩
      if rc ≠ jhiSuccess then (⟨rc, none, [(request, rc)]⟩, s.dealloc p)
      else
        match s.addSessionHandle p with
        | (true, s) => (⟨rc, some p, [(request, rc)]⟩, s)
        | (false, s) => (⟨jhiInvalidHandle, none, [(request, rc)]⟩, s.dealloc p)

/-- `JHI_CreateSession`; an applet id that is not `NULL`, and whether there is an out parameter. -/
def jhiCreateSession (handle : Nat) (appId : Option CText) (flags : UInt32) (initBuffer : Option DataBuffer) (pSessionHandle : Bool)
    (s : JhiLib) : LibResult × JhiLib :=
  if !s.validateJHIhandle handle then (.refuse jhiInvalidHandle, s)
  else if !pSessionHandle then (.refuse jhiInvalidSessionHandle, s)
  else
    let initBuffer := initBuffer.getD ⟨none, 0⟩
    match appId.bind fun id => jhiUtilUUIDValidate id.text with
    | none => (.refuse jhiInvalidAppletGuid, s)
    | some id =>
      if initBuffer.illegal then (.refuse jhiInvalidInitBuffer, s)
      else if initBuffer.length.toNat > jhiBufferMax then (.refuse jhiInvalidBufferSize, s)
      else newSession A ans id flags initBuffer s

/-- The session is gone: its handle is removed and its struct freed. -/
def forget (p : Nat) (s : JhiLib) : Bool × JhiLib :=
  match s.removeSessionHandle p with
  | (true, s) => (true, s.dealloc p)
  | (false, s) => (false, s)

/-- `JHI_CloseSessionInternal`, with what its second parameter points to. The handle there is set to `NULL`. -/
def jhiCloseSessionInternal (handle : Nat) (sessionHandle : Option Nat) (force : Bool) (s : JhiLib) : LibResult × JhiLib :=
  if !s.validateJHIhandle handle then (.refuse jhiInvalidHandle, s)
  else
    match sessionHandle, s.appHandle with
    | none, _ => (.refuse jhiInvalidSessionHandle, s)
    | some _, none => (.refuse jhiInvalidSessionHandle, s)
    | some p, some a =>
      if !s.sessionHandleValid p then (.refuse jhiInvalidSessionHandle, s)
      else
        let s := if s.hasEvent ans p then s.closeSessionEventThread ans p else s
        let request := ClientCall.closeSession (s.memory p).sessionID a.processInfo force
        let answer := ans.service request
        let rc := if answer = jhiInvalidSessionHandle then jhiSuccess else answer
        if rc = jhiSuccess then
          let (removed, s) := s.forget p
          (⟨rc, if removed then some 0 else none, [(request, answer)]⟩, s)
        else (⟨rc, none, [(request, answer)]⟩, s)

/-- `JHI_SendAndRecv2`, with the two buffers. -/
def jhiSendAndRecv2 (handle p : Nat) (commandId : UInt32) (comm : Option (DataBuffer × DataBuffer)) (s : JhiLib) :
    LibResult × JhiLib :=
  if !s.validateJHIhandle handle then (.refuse jhiInvalidHandle, s)
  else if !s.sessionHandleValid p then (.refuse jhiInvalidSessionHandle, s)
  else
    match comm with
    | none => (.refuse jhiInvalidCommBuffer, s)
    | some (tx, rx) =>
      if tx.illegal || rx.illegal then (.refuse jhiInvalidCommBuffer, s)
      else if tx.length.toNat > jhiBufferMax ∨ rx.length.toNat > jhiBufferMax then (.refuse jhiInvalidBufferSize, s)
      else
        let request := ClientCall.sendAndRecv (s.memory p).sessionID commandId tx.data rx.length
        let rc := ans.service request
        if sessionDied rc then
          let (closed, s) := jhiCloseSessionInternal ans handle (some p) false s
          (⟨rc, none, (request, rc) :: closed.asked⟩, s)
        else (⟨rc, none, [(request, rc)]⟩, s)

/-! ### Events -/

/-- `JHI_RegisterEvents` under the lock, up to the clean-up. -/
def registerAtService (p : Nat) (s : JhiLib) : LibResult × JhiLib :=
  if !s.sessionHandleValid p then (.refuse jhiInvalidSessionHandle, s)
  else if sharedSession (s.memory p).sessionFlags then (.refuse jhiEventsNotSupported, s)
  else if s.hasEvent ans p then (.refuse jhiSessionAlreadyRegsitered, s)
  else if !ans.allocNeedToEnd then (.refuse jhiInternalError, s.edit p fun x => { x with threadNeedToEnd := false })
  else
    let s := s.edit p fun x => { x with threadNeedToEnd := true, callback := true }
    match ans.uuid with
    | none => (.refuse jhiInternalError, s.edit p fun x => { x with threadNeedToEnd := false })
    | some uuid =>
      if !ans.allocEvent || !ans.createEvent || !ans.createThread then
        (.refuse jhiInternalError, s.edit p fun x => { x with threadNeedToEnd := false, eventHandle := false })
      else
        let s := s.edit p fun x => { x with eventHandle := true, threadHandle := true }
        let request := ClientCall.setSessionEventHandler (s.memory p).sessionID (generateHandleUUID uuid)
        let rc := ans.service request
        (⟨rc, none, [(request, rc)]⟩, s)

/-- `JHI_RegisterEvents`; whether there is a callback. -/
def jhiRegisterEvents (handle p : Nat) (callback : Bool) (s : JhiLib) : LibResult × JhiLib :=
  if !s.validateJHIhandle handle then (.refuse jhiInvalidHandle, s)
  else if !callback then (.refuse jhiInvalidParams, s)
  else
    let (result, s) := registerAtService ans p s
    if result.rc ≠ jhiSuccess ∧ result.rc ≠ jhiSessionAlreadyRegsitered then
      let s := s.closeSessionEventThread ans p
      if result.rc = jhiInvalidSessionHandle then (result, (s.forget p).2) else (result, s)
    else (result, s)

/-- `JHI_UnRegisterEvents`. -/
def jhiUnRegisterEvents (handle p : Nat) (s : JhiLib) : LibResult × JhiLib :=
  if !s.validateJHIhandle handle then (.refuse jhiInvalidHandle, s)
  else if !s.sessionHandleValid p then (.refuse jhiInvalidSessionHandle, s)
  else if sharedSession (s.memory p).sessionFlags then (.refuse jhiEventsNotSupported, s)
  else if !s.hasEvent ans p then (.refuse jhiSessionNotRegistered, s)
  else
    let s := s.closeSessionEventThread ans p
    let request := ClientCall.setSessionEventHandler (s.memory p).sessionID []
    let rc := ans.service request
    if rc = jhiInvalidSessionHandle then (⟨rc, none, [(request, rc)]⟩, (s.forget p).2)
    else (⟨rc, none, [(request, rc)]⟩, s)

end JhiLib

/-! ### Calls -/

/-- A call of the application. -/
inductive JhiCall
  | jhiInitialize (ppHandle : Bool)
  | deinit (handle : Nat)
  | createSession (handle : Nat) (appId : Option CText) (flags : UInt32) (initBuffer : Option DataBuffer) (pSessionHandle : Bool)
  | closeSession (handle : Nat) (sessionHandle : Option Nat)
  | forceCloseSession (handle : Nat) (sessionHandle : Option Nat)
  | sendAndRecv2 (handle sessionHandle : Nat) (commandId : UInt32) (comm : Option (DataBuffer × DataBuffer))
  | registerEvents (handle sessionHandle : Nat) (callback : Bool)
  | unRegisterEvents (handle sessionHandle : Nat)

def JhiCall.exec (A : Addresses) (ans : LibAnswers) : JhiCall → JhiLib → LibResult × JhiLib
  | jhiInitialize ppHandle => JhiLib.jhiInitialize A ans ppHandle
  | deinit handle => JhiLib.jhiDeinit ans handle
  | createSession handle appId flags initBuffer out => JhiLib.jhiCreateSession A ans handle appId flags initBuffer out
  | closeSession handle p => JhiLib.jhiCloseSessionInternal ans handle p false
  | forceCloseSession handle p => JhiLib.jhiCloseSessionInternal ans handle p true
  | sendAndRecv2 handle p commandId comm => JhiLib.jhiSendAndRecv2 ans handle p commandId comm
  | registerEvents handle p callback => JhiLib.jhiRegisterEvents ans handle p callback
  | unRegisterEvents handle p => JhiLib.jhiUnRegisterEvents ans handle p

end DalHost

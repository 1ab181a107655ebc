import DalHost.Dispatch.Process
import DalHost.Lib.LockedThreads
import DalHost.Service.Evolution

/-!
# Starting and stopping the service

The service is initialised by the first command that finds it stopped (`jhis_init`), and taken down by `JhiReset`. The
state is tested without a lock, then under the writer lock, then under the reader lock. Commands, resets, `jhi_stop`,
`jhi_invoke_reset` and the listener thread of the event manager are programs of threads that share the globals. Each
read and each write of a global is a step; a call of the firmware or of the system is a step that may fail.
-/

namespace DalHost

/-! ### The globals -/

/-- What the threads share, besides the locks. `plugin_registered` and the plugin table are one field: `JhiPlugin_Register`
succeeds only with a table, and `JhiPlugin_Unregister` clears it. -/
structure LifeGlobals where
  jhiState : JhiState
  pluginRegistered : Bool
  sessionList : SessionTable
  appletTable : AppletTable
  /-- `EventManager::initialized` and `spooler_handle`. -/
  initialized : Bool
  spoolerHandle : Option Nat
  /-- The spooler sessions so far: the next one has this handle. -/
  spoolerSessions : Nat
  /-- Listener threads that were created and have not begun to run. -/
  newListeners : Nat
  resetComplete : Bool

def LifeGlobals.start : LifeGlobals where
  jhiState := .stopped
  pluginRegistered := false
  sessionList := .empty
  appletTable := .empty
  initialized := false
  spoolerHandle := none
  spoolerSessions := 0
  newListeners := 0
  resetComplete := false

/-! ### Points -/

/-- `EventManager::Deinit`: the test of `initialized`, `closeSpoolerSession`, and the write. -/
inductive DeinitPoint
  | test
  | close
  | clear
  deriving DecidableEq

/-- `EventManager::Initialize`: the test of `initialized`, the file, the session that Beihai v2 tries first, the installation,
the session, the thread, and the write. -/
inductive SpoolerPoint
  | test
  | file
  | firstSession
  | install
  | session
  | thread
  | set (succeeded : Bool)
  deriving DecidableEq

/-- `jhis_init`; the last three are behind its label `end`. -/
inductive InitPoint
  | test
  | settings
  | vmType
  | deviceEvents
  | isRegistered
  | register
  | pluginTable
  | setTransport
  | pluginInit
  | fwVersion
  | events (p : SpoolerPoint)
  | updateApplets
  | setInitialized
  | failed
  | failedRegistered
  | unregister
  deriving DecidableEq

/-- `JhiReset`. -/
inductive ResetPoint
  | closeSessions
  | wait
  | test
  | resetApplets
  | resetSessions
  | deinit (p : DeinitPoint)
  | pluginTable
  | unregister
  | setStopped
  | signal
  | release
  deriving DecidableEq

/-- `JomEventListenerThread`. -/
inductive JomListenerPoint
  | pluginTable
  | loop
  | wait (handle : Option Nat)
  | event
  /-- The spooler crashed: the test of the state, and the recovery. -/
  | test
  | forget
  | deinit (p : DeinitPoint)
  | start (p : SpoolerPoint)
  deriving DecidableEq

/-- Where a thread stands; `sync` is false for `SEND_AND_RECIEVE`, which does not take `_jhiMutex`. -/
inductive LifePoint
  | idle
  /-- `processCommand`. -/
  | test (sync : Bool)
  | waitWriter (sync : Bool)
  | testAgain (sync : Bool)
  | init (sync : Bool) (p : InitPoint)
  | releaseWriter (sync : Bool) (succeeded : Bool)
  | waitReader (sync : Bool)
  | ready (sync : Bool)
  | lock
  | handler (sync : Bool)
  | unlock
  | releaseReader
  | respond
  | reset (p : ResetPoint)
  /-- `jhi_stop`. -/
  | stopTest
  | stopSet
  /-- `jhi_invoke_reset`. -/
  | invokeWait
  | invokeTest
  | invokeSet
  | invokeDeinit (p : DeinitPoint)
  | invokeRelease
  | invokeComplete
  | listener (p : JomListenerPoint)
  deriving DecidableEq

/-! ### Steps -/

/-- What an idle thread begins. -/
inductive LifeCall
  /-- A command that passes the checks of its header, or does not. -/
  | command (valid sync : Bool)
  | reset
  | stop
  | invokeReset
  | listener

/-- What `JHI_Plugin_WaitForSpoolerEvent` answers: an event, one of the three codes of a spooler that crashed, or another error. -/
inductive WaitAnswer
  | event
  | crashed
  | error

/-- What is not determined by the globals in one step. -/
structure LifeAnswers where
  call : LifeCall
  /-- The call of the step succeeds. -/
  succeeds : Bool
  /-- The VM is Beihai v2; the handler goes on. -/
  beihaiV2 : Bool
  goesOn : Bool
  /-- The tables after the step, where it works on them. -/
  sessionList : SessionTable
  appletTable : AppletTable
  wait : WaitAnswer

/-- The tables have entries for ids that were there before, only. -/
def tablesShrink (x : LifeAnswers) (m : LifeGlobals) : Bool :=
  (x.sessionList.keys.all fun k => m.sessionList.contains k) && x.appletTable.keys.all fun k => m.appletTable.contains k

/-- `EventManager::Deinit`. The plugins do not change the handle of the session that they close. -/
def DeinitPoint.next (m : LifeGlobals) : DeinitPoint → Option DeinitPoint × LifeGlobals
  | test => (some (if m.initialized then close else clear), m)
  | close => (some clear, m)
  | clear => (none, { m with initialized := false })

/-- `CreateSpoolerSession`. -/
def createSpoolerSession (x : LifeAnswers) (m : LifeGlobals) : Bool × LifeGlobals :=
  if m.pluginRegistered && x.succeeds then
    (true, { m with spoolerHandle := some m.spoolerSessions, spoolerSessions := m.spoolerSessions + 1 })
  else (false, m)

/-- `EventManager::Initialize`: the next point, or whether it returned `JHI_SUCCESS`. When the event manager is initialised, it
returns `true`, which is not `JHI_SUCCESS`. -/
def SpoolerPoint.next (x : LifeAnswers) (m : LifeGlobals) : SpoolerPoint → (SpoolerPoint ⊕ Bool) × LifeGlobals
  | test => (if m.initialized then .inr false else .inl file, m)
  | file => (.inl (if !x.succeeds then set false else if x.beihaiV2 then firstSession else install), m)
  | firstSession =>
    match createSpoolerSession x m with
    | (true, m) => (.inl thread, m)
    | (false, m) => (.inl install, m)
  -- `jhis_install` of an applet without a record cleans up the sessions and may unload applets
  | install =>
    let m := if tablesShrink x m then { m with sessionList := x.sessionList, appletTable := x.appletTable } else m
    (.inl (if m.pluginRegistered && x.succeeds then session else set false), m)
  | session =>
    match createSpoolerSession x m with
    | (true, m) => (.inl thread, m)
    | (false, m) => (.inl (set false), m)
  | thread => if x.succeeds then (.inl (set true), { m with newListeners := m.newListeners + 1 }) else (.inl (set false), m)
  | set succeeded => (.inr succeeded, { m with initialized := succeeded })

/-- `jhis_init`: the next point, or whether it returned `JHI_SUCCESS`. -/
def InitPoint.next (x : LifeAnswers) (m : LifeGlobals) : InitPoint → (InitPoint ⊕ Bool) × LifeGlobals
  | test => (if m.jhiState ≠ .stopped then .inr true else .inl settings, m)
  | settings => (.inl (if x.succeeds then vmType else failed), m)
  | vmType => (.inl (if x.succeeds then deviceEvents else failed), m)
  | deviceEvents => (.inl (if x.succeeds then isRegistered else failed), m)
  | isRegistered => (.inl (if m.pluginRegistered then pluginTable else register), m)
  | register => if x.succeeds then (.inl pluginTable, { m with pluginRegistered := true }) else (.inl failed, m)
  | pluginTable => (.inl (if m.pluginRegistered then setTransport else failed), m)
  | setTransport => (.inl (if x.succeeds then pluginInit else failed), m)
  | pluginInit => (.inl (if x.succeeds then fwVersion else failed), m)
  | fwVersion => (.inl (events .test), m)
  | events p =>
    match p.next x m with
    | (.inl p, m) => (.inl (events p), m)
    | (.inr true, m) => (.inl (if x.beihaiV2 then updateApplets else setInitialized), m)
    | (.inr false, m) => (.inl failed, m)
  | updateApplets => (.inl setInitialized, { m with appletTable := x.appletTable })
  | setInitialized => (.inr true, { m with jhiState := .initialized })
  | failed => (.inl failedRegistered, m)
  | failedRegistered => if m.pluginRegistered then (.inl unregister, m) else (.inr false, m)
  | unregister => (.inr false, { m with pluginRegistered := false })

/-- `JhiReset`. -/
def ResetPoint.next (m : LifeGlobals) : ResetPoint → Option ResetPoint × LifeGlobals
  | closeSessions => (some wait, m)
  | wait => (some test, m)
  | test => (some (if m.jhiState = .stopped then release else resetApplets), m)
  | resetApplets => (some resetSessions, { m with appletTable := .empty })
  | resetSessions => (some (deinit .test), { m with sessionList := .empty })
  | deinit p =>
    match p.next m with
    | (some p, m) => (some (deinit p), m)
    | (none, m) => (some pluginTable, m)
  | pluginTable => (some (if m.pluginRegistered then unregister else setStopped), m)
  | unregister => (some setStopped, { m with pluginRegistered := false })
  | setStopped => (some signal, { m with jhiState := .stopped })
  | signal => (some release, { m with resetComplete := true })
  | release => (none, m)

/-- `JomEventListenerThread`. -/
def JomListenerPoint.next (x : LifeAnswers) (m : LifeGlobals) : JomListenerPoint → LifePoint × LifeGlobals
  | pluginTable => (if m.pluginRegistered then .listener loop else .idle, m)
  | loop => (.listener (wait m.spoolerHandle), m)
  | wait _ =>
    match x.wait with
    | .event => (.listener event, m)
    | .crashed => (.listener test, m)
    | .error => (.reset .closeSessions, m)
  | event => (.listener loop, m)
  | test => (if m.jhiState = .initialized then .listener forget else .reset .closeSessions, m)
  | forget => (.listener (deinit .test), { m with spoolerHandle := none })
  | deinit p =>
    match p.next m with
    | (some p, m) => (.listener (deinit p), m)
    | (none, m) => (.listener (start .test), m)
  | start p =>
    match p.next x m with
    | (.inl p, m) => (.listener (start p), m)
    | (.inr true, m) => (.idle, m)
    | (.inr false, m) => (.reset .closeSessions, m)

namespace LifePoint

def next (x : LifeAnswers) (p : LifePoint) (m : LifeGlobals) : LifePoint × LifeGlobals :=
  match p with
  | idle =>
    match x.call with
    | .command valid sync => (if valid then test sync else respond, m)
    | .reset => (reset .closeSessions, m)
    | .stop => (stopTest, m)
    | .invokeReset => (invokeWait, m)
    | .listener => if 0 < m.newListeners then (listener .pluginTable, { m with newListeners := m.newListeners - 1 }) else (idle, m)
  | test sync => (if m.jhiState = .stopped then waitWriter sync else waitReader sync, m)
  | waitWriter sync => (testAgain sync, m)
  | testAgain sync => (if m.jhiState = .stopped then init sync .test else releaseWriter sync true, m)
  | init sync p =>
    match p.next x m with
    | (.inl p, m) => (init sync p, m)
    | (.inr succeeded, m) => (releaseWriter sync succeeded, m)
  | releaseWriter sync succeeded => (if succeeded then waitReader sync else respond, m)
  | waitReader sync => (ready sync, m)
  | ready sync => (if m.jhiState = .initialized then (if sync then lock else handler false) else releaseReader, m)
  | lock => (handler true, m)
  | handler sync =>
    (if x.goesOn then handler sync else if sync then unlock else releaseReader,
      { m with sessionList := x.sessionList, appletTable := x.appletTable })
  | unlock => (releaseReader, m)
  | releaseReader => (respond, m)
  | respond => (idle, m)
  | reset p =>
    match p.next m with
    | (some p, m) => (reset p, m)
    | (none, m) => (idle, m)
  | stopTest => (if m.jhiState = .initialized then stopSet else idle, m)
  | stopSet => (reset .closeSessions, { m with jhiState := .stopping })
  | invokeWait => (invokeTest, m)
  | invokeTest => (if m.jhiState = .initialized then invokeSet else invokeRelease, m)
  | invokeSet => (invokeDeinit .test, { m with jhiState := .stopping })
  | invokeDeinit p =>
    match p.next m with
    | (some p, m) => (invokeDeinit p, m)
    | (none, m) => (invokeRelease, m)
  | invokeRelease => (invokeComplete, m)
  | invokeComplete => if m.resetComplete then (idle, { m with resetComplete := false }) else (invokeComplete, m)
  | listener p => p.next x m

/-- The operation on a lock at a point. -/
def op : LifePoint → LockOp
  | waitWriter _ => .takeWriter
  | releaseWriter .. => .giveWriter
  | waitReader _ => .takeReader
  | releaseReader => .giveReader
  | lock => .takeMutex
  | unlock => .giveMutex
  | reset .wait => .takeWriter
  | reset .release => .giveWriter
  | invokeWait => .takeReader
  | invokeRelease => .giveReader
  | _ => .none

/-- Between `aquireWriterLock` and `releaseWriterLock`, between `aquireReaderLock` and `releaseReaderLock`, and between the
lock and the unlock of `_jhiMutex`. -/
def held : LifePoint → HeldLocks
  | testAgain _ | init .. | releaseWriter .. => ⟨true, false, false⟩
  | ready _ | lock | releaseReader => ⟨false, true, false⟩
  | handler sync => ⟨false, true, sync⟩
  | unlock => ⟨false, true, true⟩
  | reset .closeSessions | reset .wait => ⟨false, false, false⟩
  | reset _ => ⟨true, false, false⟩
  | invokeTest | invokeSet | invokeDeinit _ | invokeRelease => ⟨false, true, false⟩
  | _ => ⟨false, false, false⟩

end LifePoint

/-! ### Programs -/

section Program

variable (x : LifeAnswers) (p : LifePoint) (m : LifeGlobals)

theorem LifePoint.held_next : (p.next x m).1.held = p.op.after p.held := by
  cases p with
  | idle =>
    unfold LifePoint.next
    cases x.call with
    | command | listener =>
      dsimp only
      split_ifs <;> rfl
    | _ => rfl
  | init sync p =>
    unfold LifePoint.next
    dsimp only
    split <;> rfl
  | reset p =>
    cases p with
    | deinit p => cases p <;> rfl
    | test | pluginTable =>
      simp only [LifePoint.next, ResetPoint.next]
      split_ifs <;> rfl
    | _ => rfl
  | invokeDeinit p => cases p <;> rfl
  | listener p =>
    cases p with
    | start p =>
      unfold LifePoint.next JomListenerPoint.next
      dsimp only
      split <;> rfl
    | deinit p => cases p <;> rfl
    | wait h =>
      unfold LifePoint.next JomListenerPoint.next
      cases x.wait <;> rfl
    | pluginTable | test =>
      simp only [LifePoint.next, JomListenerPoint.next]
      split_ifs <;> rfl
    | _ => rfl
  | handler sync =>
    simp only [LifePoint.next]
    cases sync <;> cases x.goesOn <;> rfl
  | test | testAgain | releaseWriter | ready | stopTest | invokeTest | invokeComplete =>
    simp only [LifePoint.next]
    split_ifs <;> rfl
  | _ => rfl

/-- The threads of the service. -/
def lifeProgram : LockedProgram LifePoint LifeGlobals LifeAnswers where
  op := LifePoint.op
  next := LifePoint.next
  held := LifePoint.held
  held_next := LifePoint.held_next
  give_writer p hop := by
    cases p with
    | reset p => cases p <;> first | rfl | cases hop
    | _ => first | rfl | cases hop
  give_reader p hop := by
    cases p with
    | reset p => cases p <;> cases hop
    | _ => first | rfl | cases hop
  give_mutex p hop := by
    cases p with
    | reset p => cases p <;> cases hop
    | _ => first | rfl | cases hop
  take_reader p hop := by
    cases p with
    | reset p => cases p <;> cases hop
    | _ => first | rfl | cases hop
  lock_mem x p m hop := by
    cases p with
    | reset p => cases p <;> first | rfl | exact absurd rfl hop
    | _ => first | rfl | exact absurd rfl hop

abbrev LifeState (τ : Type) := LockedThreads τ LifePoint LifeGlobals

/-- A step of one thread. -/
def lifeStep {τ : Type} [DecidableEq τ] (c : τ × LifeAnswers) (s : LifeState τ) : LifeState τ := s.step lifeProgram c

/-- All threads are idle, and the service is stopped. -/
def lifeStart {τ : Type} : LifeState τ := .start .idle .start

end Program

/-! ### The installation of the spooler -/

section SpoolerInstall

variable {φ : Type} {W : World φ} {I : Service φ → Prop} {appId : Bytes}

theorem keeps_installWithoutRecord (hI : Closed (CareStep W (.loading appId)) I) (file : FileString) (isAcp : Bool) :
    Keeps I (jhisInstall W appId file false isAcp) := by
  refine (keeps_clearForApplet hI.tidy appId).bind fun _ => Keeps.get.bind fun _ => Keeps.ite (fun _ => Keeps.pure _) fun _ => ?_
  refine (keeps_env hI (.fileExists file)).bind fun _ => Keeps.ite (fun _ => Keeps.pure _) fun _ => ?_
  refine Keeps.ite (fun _ => Keeps.pure _) fun _ => Keeps.bind (keeps_getAppletBlobs hI file isAcp) fun blobs => ?_
  cases blobs with
  | error ret => exact Keeps.pure _
  | ok blobs =>
    refine Keeps.bind ?_ fun ret => Keeps.ite (fun _ => Keeps.ite (fun h => by cases h) fun _ => Keeps.pure _) fun _ => Keeps.pure _
    refine (keeps_downloadBlobs hI rfl jhiSuccess blobs).bind fun ret => ?_
    exact keeps_evictAndRetry hI trivial ret (keeps_downloadAgain hI appId ret blobs)

/-- The ids of the tables are among those of these tables. -/
def IdsAmong (sessions : SessionTable) (applets : AppletTable) (s : Service φ) : Prop :=
  (∀ k, s.sessionList.contains k = true → sessions.contains k = true) ∧
    ∀ k, s.appletTable.contains k = true → applets.contains k = true

theorem closed_idsAmong (sessions : SessionTable) (applets : AppletTable) :
    Closed (CareStep W (.loading appId)) (IdsAmong sessions applets) := by
  have herase : ∀ {κ ν : Type} [LinearOrder κ] (a : OrdMap κ ν) (k k' : κ), (a.erase k).contains k' = true → a.contains k' = true := by
    intro κ ν _ a k k' h
    rw [OrdMap.contains, OrdMap.find?_erase] at h
    split_ifs at h
    · cases h
    · exact h
  intro s t hst hs
  cases hst with
  | tidy htidy =>
    cases htidy with
    | processIsDead | closeFailed => exact hs
    | deadOwners => exact ⟨fun k hk => hs.1 k (by rwa [OrdMap.contains_modify] at hk), hs.2⟩
    | closed => exact ⟨fun k hk => hs.1 k (herase _ _ _ hk), hs.2⟩
  | env | unload | uninstallPackage => exact hs
  | applets hedit =>
    cases hedit with
    | keep => exact hs
    | forget => exact ⟨hs.1, fun k hk => hs.2 k (herase _ _ _ hk)⟩
    | markPending hP | setInstalled hP | dropPending hP => cases hP

/-- What `jhis_install` of the spooler may do to the tables. -/
theorem tablesShrink_install (x : LifeAnswers) (m : LifeGlobals) (file : FileString) (isAcp : Bool) {s : Service φ}
    (hs : s.sessionList = m.sessionList ∧ s.appletTable = m.appletTable)
    (hx : x.sessionList = ((jhisInstall W spoolerAppletUuid.text file false isAcp).exe s).2.sessionList ∧
      x.appletTable = ((jhisInstall W spoolerAppletUuid.text file false isAcp).exe s).2.appletTable) : tablesShrink x m = true := by
  have hstart : IdsAmong m.sessionList m.appletTable s := by
    rw [IdsAmong, hs.1, hs.2]
    exact ⟨fun _ => id, fun _ => id⟩
  have hkeeps : IdsAmong m.sessionList m.appletTable ((jhisInstall W spoolerAppletUuid.text file false isAcp).exe s).2 :=
    keeps_installWithoutRecord (closed_idsAmong m.sessionList m.appletTable) file isAcp s hstart
  rw [tablesShrink, Bool.and_eq_true, List.all_eq_true, List.all_eq_true, hx.1, hx.2]
  refine ⟨fun k hk => hkeeps.1 k ?_, fun k hk => hkeeps.2 k ?_⟩
  · exact OrdMap.mem_keys_iff.1 hk
  · exact OrdMap.mem_keys_iff.1 hk

end SpoolerInstall

end DalHost

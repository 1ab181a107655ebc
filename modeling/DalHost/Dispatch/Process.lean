import DalHost.Dispatch.Decode
import DalHost.Dispatch.Reply

/-!
# `CommandDispatcher::processCommand`

A `Backend` is what the dispatcher works on: the globals it reads, `jhis_init` and the answers to
the calls. `processCommand` takes the bytes behind `inputData`, the size of the request and the
state of the backend; its `Processed` is the response, with everything the dispatcher and its
handlers read of the request and the calls they made. The answers of the service of this
development are one backend (`serviceBackend`).

The locks of `processCommand` are not in this module: here one command runs at a time.
-/

namespace DalHost

/-- `JHI_STATE`. -/
inductive JhiState
  | initialized
  | stopping
  | stopped
  deriving DecidableEq

/-- The dispatcher's view of the service. -/
structure Backend (σ : Type) where
  getJhiState : σ → JhiState
  getVmType : σ → VmType
  /-- `getPluginTable` succeeds with a plugin. -/
  pluginRegistered : σ → Bool
  jhisInit : StateM σ JhiRet
  exec : (c : Call) → StateM σ (Answer c)

/-- A request: its size and the memory that starts with it. -/
structure Request where
  inputSize : UInt32
  inputData : Nat → UInt8

/-- What the handlers made of a request. -/
inductive Verdict
  /-- An error before any handler was reached. -/
  | rejected (retCode : JhiRet)
  /-- A check of the handler failed. -/
  | refused (id : CommandId) (retCode : JhiRet)
  /-- The handler has nothing to ask of the service (`INIT`). -/
  | done
  /-- The service answered. -/
  | answered (c : Call) (a : Answer c)

/-- The response. -/
def Verdict.output : Verdict → Option Message
  | .rejected retCode => some (respondCode retCode)
  | .refused id retCode => refuse id retCode
  | .done => some (respondCode jhiSuccess)
  | .answered c a => some (respond c a)

/-- The calls that were made, `jhis_init` apart. -/
def Verdict.calls : Verdict → List Call
  | .answered c _ => [c]
  | _ => []

structure Processed where
  verdict : Verdict
  /-- What was read of the request. -/
  accesses : List Access

section Process

variable {σ : Type} (B : Backend σ) (emulation : Bool)

/-- The checks on the header, before anything else is looked at. -/
def readHeader (inputSize : UInt32) : Scan JhiRet CommandId := do
  Scan.check (sizeofJhiCommand ≤ inputSize.toNat) jhiInternalError
  let id ← Scan.u8 0
  match CommandId.ofByte emulation id with
  | none => Scan.fail jhiInternalError
  | some id =>
    let dataLength ← Scan.u32 1
    Scan.check (dataLength = inputSize) jhiInternalError
    return id

/-- A stopped service is started by the first request. -/
def ensureInit : StateM σ JhiRet := do
  let ret ← if B.getJhiState (← get) = .stopped then B.jhisInit else pure jhiSuccess
  if ret ≠ jhiSuccess then return ret
  else if B.getJhiState (← get) ≠ .initialized then return jhiServiceUnavailable
  else return jhiSuccess

/-- The part of `processCommand` under the reader lock. -/
def handle (id : CommandId) (req : Request) : StateM σ Processed := do
  let s ← get
  let handler := decode req.inputSize (B.getVmType s) (B.pluginRegistered s) id
  let accesses := handler.accesses req.inputData
  match handler.answer req.inputData with
  | .error retCode => return ⟨.refused id retCode, accesses⟩
  | .ok none => return ⟨.done, accesses⟩
  | .ok (some c) =>
    let a ← B.exec c
    return ⟨.answered c a, accesses⟩

/-- `CommandDispatcher::processCommand`. -/
def processCommand (req : Request) : StateM σ Processed := do
  let header := readHeader emulation req.inputSize
  let accesses := header.accesses req.inputData
  match header.answer req.inputData with
  | .error retCode => return ⟨.rejected retCode, accesses⟩
  | .ok id =>
    let ret ← ensureInit B
    if ret ≠ jhiSuccess then return ⟨.rejected ret, accesses⟩
    else
      let processed ← handle B id req
      return ⟨processed.verdict, accesses ++ processed.accesses⟩

/-- The handler of command `id` is reached, in state `s'`. -/
def Reaches (req : Request) (s : σ) (id : CommandId) (s' : σ) : Prop :=
  (readHeader emulation req.inputSize).answer req.inputData = .ok id ∧ (ensureInit B).exe s = (jhiSuccess, s')

/-! What `processCommand` does, by how far the request gets. -/

theorem fails_readHeader (inputSize : UInt32) :
    Scan.Fails (· ≠ jhiSuccess) (readHeader emulation inputSize) := by
  have hinternal : jhiInternalError ≠ jhiSuccess := by decide
  refine Scan.fails_bind (Scan.fails_check hinternal) fun _ => Scan.fails_bind (Scan.fails_u8 _) fun id => ?_
  split
  · exact Scan.fails_fail hinternal
  · refine Scan.fails_bind (Scan.fails_u32 _) fun _ => ?_
    exact Scan.fails_bind (Scan.fails_check hinternal) fun _ => Scan.fails_pure _

theorem readHeader_eq_ok_iff {inputSize : UInt32} {m : Nat → UInt8} {id : CommandId} :
    (readHeader emulation inputSize).answer m = .ok id ↔
      sizeofJhiCommand ≤ inputSize.toNat ∧ CommandId.ofByte emulation (m 0) = some id ∧ u32At m 1 = inputSize := by
  unfold readHeader
  rw [Scan.answer_check_bind_eq_ok, Scan.answer_u8_bind]
  cases hid : CommandId.ofByte emulation (m 0) with
  | none => simp
  | some id' =>
    simp only [Scan.answer_u32_bind, Scan.answer_check_bind_eq_ok, Scan.answer_pure, Except.ok.injEq, Option.some.injEq]
    exact and_congr_right fun _ => and_comm

variable {B emulation} {req : Request} {s s' : σ} {id : CommandId}

theorem Reaches.unique {id' : CommandId} {s'' : σ} (h : Reaches B emulation req s id s')
    (h' : Reaches B emulation req s id' s'') : id = id' ∧ s' = s'' :=
  ⟨Except.ok.inj (h.1.symm.trans h'.1), congrArg Prod.snd (h.2.symm.trans h'.2)⟩

theorem processCommand_of_header_error {retCode : JhiRet}
    (h : (readHeader emulation req.inputSize).answer req.inputData = .error retCode) :
    (processCommand B emulation req).exe s =
      (⟨.rejected retCode, (readHeader emulation req.inputSize).accesses req.inputData⟩, s) := by
  unfold processCommand
  simp only [h, exe_pure]

theorem processCommand_of_init_error
    (h : (readHeader emulation req.inputSize).answer req.inputData = .ok id)
    (hinit : ((ensureInit B).exe s).1 ≠ jhiSuccess) :
    (processCommand B emulation req).exe s =
      (⟨.rejected ((ensureInit B).exe s).1, (readHeader emulation req.inputSize).accesses req.inputData⟩,
        ((ensureInit B).exe s).2) := by
  unfold processCommand
  simp only [h, exe_bind]
  rw [if_pos hinit, exe_pure]

theorem processCommand_of_reaches (h : Reaches B emulation req s id s') :
    (processCommand B emulation req).exe s =
      (⟨((handle B id req).exe s').1.verdict, (readHeader emulation req.inputSize).accesses req.inputData ++
        ((handle B id req).exe s').1.accesses⟩, ((handle B id req).exe s').2) := by
  obtain ⟨hid, hinit⟩ := h
  unfold processCommand
  simp only [hid, exe_bind, hinit]
  rw [if_neg (by simp), exe_bind, exe_pure]

theorem accesses_handle : ((handle B id req).exe s).1.accesses =
    (decode req.inputSize (B.getVmType s) (B.pluginRegistered s) id).accesses req.inputData := by
  unfold handle
  simp only [exe_bind, exe_get]
  split <;> rfl

theorem handle_of_error {retCode : JhiRet}
    (h : (decode req.inputSize (B.getVmType s) (B.pluginRegistered s) id).answer req.inputData = .error retCode) :
    ((handle B id req).exe s).1.verdict = .refused id retCode ∧ ((handle B id req).exe s).2 = s := by
  unfold handle
  simp only [exe_bind, exe_get, h, exe_pure, and_self]

theorem handle_of_done
    (h : (decode req.inputSize (B.getVmType s) (B.pluginRegistered s) id).answer req.inputData = .ok none) :
    ((handle B id req).exe s).1.verdict = .done := by
  unfold handle
  simp only [exe_bind, exe_get, h, exe_pure]

theorem handle_of_call {c : Call}
    (h : (decode req.inputSize (B.getVmType s) (B.pluginRegistered s) id).answer req.inputData = .ok (some c)) :
    ((handle B id req).exe s).1.verdict = .answered c ((B.exec c).exe s).1 ∧
      ((handle B id req).exe s).2 = ((B.exec c).exe s).2 := by
  unfold handle
  simp only [exe_bind, exe_get, h, exe_pure, and_self]

theorem processCommand_cases (B : Backend σ) (emulation : Bool) (req : Request) (s : σ) :
    (∃ retCode s', retCode ≠ jhiSuccess ∧ (s' = s ∨ s' = ((ensureInit B).exe s).2) ∧
      (processCommand B emulation req).exe s =
        (⟨.rejected retCode, (readHeader emulation req.inputSize).accesses req.inputData⟩, s') ∧
      ∀ id s', ¬Reaches B emulation req s id s') ∨
    ∃ id s', Reaches B emulation req s id s' := by
  cases hid : (readHeader emulation req.inputSize).answer req.inputData with
  | error retCode =>
    refine .inl ⟨retCode, s, ?_, .inl rfl, processCommand_of_header_error hid, fun id s' h => ?_⟩
    · exact fails_readHeader emulation req.inputSize _ _ hid
    · exact nomatch hid.symm.trans h.1
  | ok id =>
    by_cases hinit : ((ensureInit B).exe s).1 = jhiSuccess
    · exact .inr ⟨id, ((ensureInit B).exe s).2, hid, Prod.ext hinit rfl⟩
    · refine .inl ⟨_, _, hinit, .inr rfl, processCommand_of_init_error hid hinit, fun id' s' h => hinit ?_⟩
      rw [h.2]

end Process

/-! ### The service of this development as a backend -/

/-- The service with `JHI_STATE`; `jhis_init` is a parameter. -/
def serviceBackend {φ : Type} (W : World φ) (jhisInit : StateM (JhiState × Service φ) JhiRet) :
    Backend (JhiState × Service φ) where
  getJhiState s := s.1
  getVmType s := s.2.vmType
  pluginRegistered s := s.2.pluginRegistered
  jhisInit := jhisInit
  exec c := fun s => (((exec W c).exe s.2).1, (s.1, ((exec W c).exe s.2).2))

/-- A service in a quiet world, for examples. -/
def quietBackend : Backend (JhiState × Service Unit) := serviceBackend (World.quiet Unit) (pure jhiSuccess)

/-- Its state after a start-up with a given VM. -/
def quietState (vmType : VmType) : JhiState × Service Unit :=
  (.initialized, ⟨OrdMap.empty, 0, OrdMap.empty, vmType, true, [], (), []⟩)

/-- A request with these bytes, followed by zeros. -/
def Request.ofBytes (bs : Bytes) : Request := ⟨UInt32.ofNat bs.length, fun i => bs.getD i 0⟩

end DalHost

import DalHost.Sessions.TableInvariant

/-!
# The owners of a shared session

A shared session belongs to every process that asked for it, as often as it asked. From the create
that adds the record on, the list of owners is a running balance: one entry more for each create
that succeeds, one entry less for each close that succeeds, of the process that made the call and of
nobody else. A create in between runs the clean-ups, so the argument follows the record through
`CleanStep`: an owner that is alive stays, and a record that was removed has left a mark in the log.
-/

namespace DalHost

variable {φ : Type}

/-! ### Following a record -/

/-- How often a record of this id was removed. -/
def removals (id : SessionId) (log : List LogEntry) : Nat :=
  log.countP fun entry => match entry.call with
    | .removeSession i => i = id
    | _ => false

@[simp] theorem removals_append (id : SessionId) (log : List LogEntry) (entry : LogEntry) :
    removals id (log ++ [entry]) = removals id log + removals id [entry] := List.countP_append

/-- The shared record of the applet, with its owners. -/
def HasOwners (appId : AppId) (id : SessionId) (owners : List ProcessInfo) (t : SessionTable) : Prop :=
  ∃ r, t.find? id = some r ∧ r.ownersList = owners ∧ r.shared = true ∧ r.appId = appId.text

/-- The record has these owners, unless it was removed since there were `n` removals. -/
structure Tracked (n : Nat) (appId : AppId) (id : SessionId) (owners : List ProcessInfo) (s : Service φ) :
    Prop where
  inv : ServiceInv s
  removals_ge : n ≤ removals id s.log
  hasOwners : removals id s.log = n → HasOwners appId id owners s.sessionList

section Follow

variable {W : World φ} {n : Nat} {appId : AppId} {id : SessionId} {owners : List ProcessInfo}

theorem HasOwners.modify {t : SessionTable} (h : HasOwners appId id owners t) {i : SessionId}
    {f : SessionRecord → SessionRecord} (hf : ∀ r, t.find? id = some r → i = id → (f r).ownersList = r.ownersList ∧
      (f r).sessionFlags = r.sessionFlags ∧ (f r).appId = r.appId) : HasOwners appId id owners (t.modify i f) := by
  obtain ⟨r, hr, rfl, hshared, happ⟩ := h
  by_cases hi : id = i
  · subst hi
    obtain ⟨h₁, h₂, h₃⟩ := hf r hr rfl
    refine ⟨f r, by simp [OrdMap.find?_modify, hr], h₁, ?_, h₃.trans happ⟩
    simpa only [SessionRecord.shared, h₂] using hshared
  · exact ⟨r, by simp [OrdMap.find?_modify, hi, hr], rfl, hshared, happ⟩

theorem HasOwners.erase {t : SessionTable} (h : HasOwners appId id owners t) {i : SessionId} (hi : id ≠ i) :
    HasOwners appId id owners (t.erase i) := by
  obtain ⟨r, hr, hrest⟩ := h
  exact ⟨r, by simp [OrdMap.find?_erase, hi, hr], hrest⟩

theorem closed_tracked (halive : ∀ p ∈ owners, ∀ e, ((W.processIsDead p).exe e).1 = false) :
    Closed (CleanStep W) (Tracked n appId id owners) := by
  intro s t hst h
  refine ⟨closed_clean_serviceInv W s t hst h.inv, ?_, ?_⟩
  · cases hst <;> simp only [removals_append] <;> exact h.removals_ge.trans (by omega)
  · intro hn
    cases hst with
    | env | applets | closeFailed => exact h.hasOwners hn
    | unload | uninstallPackage => exact h.hasOwners (by simpa [removals] using hn)
    | @deadOwners i r hr _ hsub hdead stamp counter =>
      refine (h.hasOwners hn).modify ?_
      intro r' hr' heq
      subst heq
      obtain ⟨r₀, hr₀, rfl, -⟩ := h.hasOwners hn
      obtain ⟨p, hp, e, he⟩ := hdead
      cases hr.symm.trans hr₀
      rw [halive p hp e] at he
      cases he
    | events => exact (h.hasOwners hn).modify fun _ _ _ => ⟨rfl, rfl, rfl⟩
    | @closed i r hr force hret =>
      have hge := h.removals_ge
      simp only [removals_append] at hn
      by_cases hi : i = id
      · subst hi
        simp [removals] at hn hge
        omega
      · exact (h.hasOwners (by simpa [removals, hi] using hn)).erase (Ne.symm hi)

theorem closed_removals (W : World φ) (id : SessionId) (n : Nat) :
    Closed (Step W) fun s => n ≤ removals id s.log := by
  intro s t hst h
  cases hst with
  | opened => exact h
  | quiet hst =>
    cases hst with
    | clean hst => cases hst <;> simp only [removals_append] <;> exact h.trans (by omega)
    | exchange | openFailed | dropOwner => exact h
    | crashed | addOwner | ownersFull | undone =>
      simp only [removals_append]
      exact h.trans (by omega)

end Follow

/-! ### One create -/

section Create

variable (W : World φ)

/-- The part of a shared create before the owners are looked at: the code it ends with, if it ends. -/
def createPrechecks (appId : Bytes) : StateM (Service φ) (Option JhiRet) := do
  match ← locateApplet W appId with
  | .error ret => return some ret
  | .ok _ =>
    clearDeadAndAbandoned W
    match ← lookForShared W appId with
    | .error ret => return some ret
    | .ok _ => return none

/-- The rest of a shared create. -/
def createAfterChecks (appId : Bytes) (blobs : List Bytes) (flags : UInt32) (init : Bytes) (p : ProcessInfo) :
    StateM (Service φ) (JhiRet × Option SessionId) := do
  match getSharedSessionID (← get).sessionList appId with
  | some id =>
    if ← addSessionOwner id p then return (jhiSuccess, some id) else return (jhiMaxSharedSessionReached, some id)
  | none => createNewSession W appId blobs flags init p

theorem exe_jhisCreateSession_shared {appId : Bytes} {flags : UInt32} (hflag : sharedSession flags = true)
    (init : Bytes) (p : ProcessInfo) (s : Service φ) :
    (∃ ret, ((createPrechecks W appId).exe s).1 = some ret ∧
      (jhisCreateSession W appId flags init p).exe s = ((ret, none), ((createPrechecks W appId).exe s).2)) ∨
    (((createPrechecks W appId).exe s).1 = none ∧ ∃ blobs,
      (((createPrechecks W appId).exe s).2.vmType = .beihaiV2 → blobs ≠ []) ∧
      (jhisCreateSession W appId flags init p).exe s =
        (createAfterChecks W appId blobs flags init p).exe ((createPrechecks W appId).exe s).2) := by
  have hblobs := @locateApplet_blobs φ W appId s
  simp only [createPrechecks, jhisCreateSession, createLocated, createAfterChecks, exe_bind]
  generalize (locateApplet W appId).exe s = r at hblobs ⊢
  obtain ⟨_ | blobs, s₁⟩ := r
  · exact Or.inl ⟨_, rfl, rfl⟩
  · have hclean := keeps_clearDeadAndAbandoned (Closed.toTidy (closed_vmType W s₁.vmType)) s₁ rfl
    have hlook := keeps_lookForShared (closed_vmType W s₁.vmType) appId _ hclean
    have hans := @lookForShared_ok φ W appId ((clearDeadAndAbandoned W).exe s₁).2
    simp only [exe_bind, hflag, if_true, exe_get]
    generalize (lookForShared W appId).exe ((clearDeadAndAbandoned W).exe s₁).2 = r at hlook hans ⊢
    obtain ⟨_ | found, s₃⟩ := r
    · exact Or.inl ⟨_, rfl, rfl⟩
    · refine Or.inr ⟨rfl, blobs, fun hv => hblobs rfl (hlook.symm.trans hv), ?_⟩
      simp only [exe_pure, hans rfl]
      cases found <;> simp only [exe_bind]

variable {W}

theorem keeps_createPrechecks {I : Service φ → Prop} (hI : Closed (CleanStep W) I) (appId : Bytes) :
    Keeps I (createPrechecks W appId) := by
  refine (keeps_locateApplet (hI.care .any) trivial trivial trivial).bind fun located => ?_
  cases located with
  | error ret => exact Keeps.pure _
  | ok blobs =>
    refine (keeps_clearDeadAndAbandoned hI.toTidy).bind fun _ => (keeps_lookForShared hI appId).bind fun found => ?_
    cases found <;> exact Keeps.pure _

/-- A code that is not one of the two that a look at the owners gives. -/
def EarlyCode (ret : JhiRet) : Prop := ret ≠ jhiSuccess ∧ ret ≠ jhiMaxSharedSessionReached

instance (ret : JhiRet) : Decidable (EarlyCode ret) := inferInstanceAs (Decidable (_ ∧ _))

def FailsEarly {α : Type} (answer : Except JhiRet α) : Prop := ∀ ret, answer = .error ret → EarlyCode ret

theorem FailsEarly.ok {α : Type} (a : α) : FailsEarly (.ok a) := fun _ h => by cases h

theorem FailsEarly.error {α : Type} {ret : JhiRet} (h : EarlyCode ret) : FailsEarly (.error ret : Except JhiRet α) := by
  rintro _ ⟨⟩
  exact h

theorem getAppletBlobs_failsEarly (file : FileString) (isAcp : Bool) :
    Answers FailsEarly (getAppletBlobs W file isAcp) := by
  refine Answers.ite (Answers.after fun found => ?_) (Answers.ite (Answers.after fun found => ?_) ?_)
  · cases found with
    | none => exact Answers.pure (.error (by decide))
    | some blob => exact Answers.pure (.ok _)
  · match found with
    | none => exact Answers.pure (.error (by decide))
    | some none => exact Answers.pure (.error (by decide))
    | some (some []) => exact Answers.pure (.error (by decide))
    | some (some (blob :: blobs)) => exact Answers.pure (.ok _)
  · exact Answers.pure (.error (by decide))

theorem locateApplet_failsEarly (appId : Bytes) : Answers FailsEarly (locateApplet W appId) := by
  refine Answers.after fun s => Answers.ite (Answers.pure (.error (by decide))) (Answers.after fun found => ?_)
  cases found with
  | none => exact Answers.pure (.error (by decide))
  | some found =>
    refine Answers.after fun s => Answers.ite (getAppletBlobs_failsEarly _ _) (Answers.after fun s => ?_)
    refine Answers.ite (Answers.after fun ret => ?_) (Answers.pure (.ok _))
    exact Answers.ite (Answers.pure (.ok _)) (Answers.pure (.error (by decide)))

theorem lookForShared_failsEarly (appId : Bytes) : Answers FailsEarly (lookForShared W appId) := by
  have hend : Answers FailsEarly (do
      return .ok (getSharedSessionID (← get).sessionList appId) :
        StateM (Service φ) (Except JhiRet (Option SessionId))) := Answers.after fun s => Answers.pure (.ok _)
  refine Answers.after fun s => Answers.ite (Answers.after fun supported => ?_) hend
  exact Answers.ite (Answers.pure (.error (by decide))) hend

theorem createPrechecks_early (appId : Bytes) :
    Answers (fun answer => ∀ ret, answer = some ret → EarlyCode ret) (createPrechecks W appId) := by
  refine (locateApplet_failsEarly appId).bind fun located hlocated => ?_
  cases located with
  | error ret =>
    refine Answers.pure ?_
    rintro _ ⟨⟩
    exact hlocated _ rfl
  | ok blobs =>
    refine Answers.after fun _ => (lookForShared_failsEarly appId).bind fun found hfound => ?_
    cases found with
    | error ret =>
      refine Answers.pure ?_
      rintro _ ⟨⟩
      exact hfound _ rfl
    | ok found =>
      refine Answers.pure ?_
      rintro _ ⟨⟩

variable {n : Nat} {appId : AppId} {id : SessionId} {owners : List ProcessInfo}

theorem Tracked.getSharedSessionID_eq {s : Service φ} (h : Tracked n appId id owners s) (hn : removals id s.log = n) :
    getSharedSessionID s.sessionList appId.text = some id := by
  obtain ⟨r, hr, -, hshared, happ⟩ := h.hasOwners hn
  cases hfound : getSharedSessionID s.sessionList appId.text with
  | none =>
    have hprivate := getSharedSessionID_eq_none.1 hfound id r hr happ
    rw [hshared] at hprivate
    cases hprivate
  | some id' =>
    obtain ⟨r', hr', happ', hshared'⟩ := getSharedSessionID_eq_some hfound
    rw [h.inv.table.shared_unique id' id r' r hr' hr (happ'.trans happ.symm) hshared' hshared]

theorem removals_le_createAfterChecks (appId : AppId) {blobs : List Bytes} (flags : UInt32) (init : Bytes)
    (p : ProcessInfo) (id : SessionId) {s : Service φ} (hblobs : s.vmType = .beihaiV2 → blobs ≠ []) :
    removals id s.log ≤ removals id ((createAfterChecks W appId.text blobs flags init p).exe s).2.log := by
  have hstep := closed_removals W id (removals id s.log)
  simp only [createAfterChecks, exe_bind, exe_get]
  cases hfound : getSharedSessionID s.sessionList appId.text with
  | none =>
    rcases createNewSession_created (Closed.opening (Closed.toCareQuiet hstep)) appId blobs flags init p
      ⟨le_rfl, fun _ => hfound, hblobs⟩ with hge | ⟨s', -, -, hge, hopened, -⟩
    · exact hge
    · exact hstep _ _ hopened hge
  | some id' =>
    have hadd := addSessionOwner_keeps (Closed.toCareQuiet hstep) p hfound le_rfl
    simp only [exe_bind, exe_ite]
    split <;> exact hadd

theorem Tracked.createAfterChecks {s : Service φ} (h : Tracked n appId id owners s) (hn : removals id s.log = n)
    (blobs : List Bytes) (flags : UInt32) (init : Bytes) (p : ProcessInfo) :
    ∃ s', (owners.length < maxSessionOwners ∧ Tracked n appId id (owners ++ [p]) s' ∧
        (createAfterChecks W appId.text blobs flags init p).exe s = ((jhiSuccess, some id), s')) ∨
      (owners.length = maxSessionOwners ∧ Tracked n appId id owners s' ∧
        (createAfterChecks W appId.text blobs flags init p).exe s = ((jhiMaxSharedSessionReached, some id), s')) := by
  have hfound := h.getSharedSessionID_eq hn
  obtain ⟨r, hr, rfl, hshared, happ⟩ := h.hasOwners hn
  have hle := h.inv.table.shared_owners id r hr hshared
  simp only [DalHost.createAfterChecks, exe_bind, exe_get, hfound, addSessionOwner, exe_record, hr, exe_ite,
    exe_modifySessions, exe_pure]
  by_cases hfull : maxSessionOwners ≤ r.ownersList.length
  · rw [if_pos hfull]
    refine ⟨{ s with log := s.log ++ [⟨.addSessionOwner id, s.sessionList, s.appletTable⟩] }, Or.inr ⟨by omega, ⟨?_, ?_, fun _ => ?_⟩, rfl⟩⟩
    · exact closed_quiet_serviceInv W _ _ (.ownersFull s hr hshared hfull) h.inv
    · simp only [removals_append]
      omega
    · exact ⟨r, hr, rfl, hshared, happ⟩
  · rw [if_neg hfull]
    refine ⟨_, Or.inl ⟨by omega, ⟨?_, ?_, fun _ => ?_⟩, rfl⟩⟩
    · exact closed_quiet_serviceInv W _ _ (.addOwner s hr hshared (not_le.1 hfull) p) h.inv
    · simp only [removals_append]
      omega
    · exact ⟨{ r with ownersList := r.ownersList ++ [p] }, by simp [OrdMap.find?_modify, hr], rfl, hshared, happ⟩

theorem Tracked.create {s s' : Service φ} (h : Tracked n appId id owners s)
    (halive : ∀ p ∈ owners, ∀ e, ((W.processIsDead p).exe e).1 = false) {flags : UInt32}
    (hflag : sharedSession flags = true) {init : Bytes} {p : ProcessInfo} {ret : JhiRet} {sid : Option SessionId}
    (hexe : (jhisCreateSession W appId.text flags init p).exe s = ((ret, sid), s')) (hn : removals id s'.log = n) :
    (ret = jhiMaxSharedSessionReached ↔
      ((createPrechecks W appId.text).exe s).1 = none ∧ owners.length = maxSessionOwners) ∧
    (ret = jhiSuccess → sid = some id ∧ Tracked n appId id (owners ++ [p]) s') ∧
    (ret ≠ jhiSuccess → Tracked n appId id owners s') := by
  have hchecked := keeps_createPrechecks (closed_tracked halive) appId.text s h
  rcases exe_jhisCreateSession_shared W hflag init p s with ⟨code, hcode, heq⟩ | ⟨hpass, blobs, hblobs, heq⟩
  · obtain ⟨hne, hne'⟩ := createPrechecks_early appId.text s code hcode
    rw [hexe, Prod.mk.injEq, Prod.mk.injEq] at heq
    obtain ⟨⟨rfl, rfl⟩, rfl⟩ := heq
    refine ⟨⟨fun h => absurd h hne', fun h => ?_⟩, fun h => absurd h hne, fun _ => hchecked⟩
    rw [hcode] at h
    cases h.1
  · rw [hexe] at heq
    generalize ((createPrechecks W appId.text).exe s).2 = s₃ at hchecked hblobs heq
    have hle := removals_le_createAfterChecks (W := W) appId flags init p id hblobs
    rw [← heq] at hle
    have hn₃ : removals id s₃.log = n := le_antisymm (hle.trans hn.le) hchecked.removals_ge
    obtain ⟨s₄, ⟨hlt, htracked, hadd⟩ | ⟨hfull, htracked, hadd⟩⟩ := hchecked.createAfterChecks hn₃ blobs flags init p <;>
      rw [hadd, Prod.mk.injEq, Prod.mk.injEq] at heq <;> obtain ⟨⟨rfl, rfl⟩, rfl⟩ := heq
    · refine ⟨⟨fun h => absurd h (by decide), fun h => absurd h.2 hlt.ne⟩, fun _ => ⟨rfl, htracked⟩, fun h => ?_⟩
      exact absurd rfl h
    · refine ⟨⟨fun _ => ⟨hpass, hfull⟩, fun _ => rfl⟩, fun h => absurd h (by decide), fun _ => htracked⟩

end Create

/-! ### One close -/

section Close

variable {W : World φ} {n : Nat} {appId : AppId} {id : SessionId} {owners : List ProcessInfo}

theorem keeps_serviceInv_close (i : SessionId) (p : ProcessInfo) :
    Keeps ServiceInv (jhisCloseSession W i (some p) false true) :=
  keeps_jhisCloseSession (Closed.careQuiet (closed_quiet_serviceInv W) .any) i (some p) false

theorem Tracked.close {s : Service φ} (h : Tracked n appId id owners s) (hn : removals id s.log = n) (p : ProcessInfo) :
    (p ∈ owners ∧ ∃ s', (jhisCloseSession W id (some p) false true).exe s = (jhiSuccess, s') ∧
      Tracked n appId id (owners.erase p) s') ∨
    (p ∉ owners ∧ (jhisCloseSession W id (some p) false true).exe s = (jhiInternalError, s)) := by
  have hinv := keeps_serviceInv_close (W := W) id p s h.inv
  obtain ⟨r, hr, rfl, hshared, happ⟩ := h.hasOwners hn
  have hactive := h.inv.table.active id r hr
  have hflag : sharedSession r.sessionFlags = true := hshared
  by_cases hp : p ∈ r.ownersList
  · obtain ⟨stamp, counter, -, hset⟩ := setOwners_eq s id r (r.ownersList.erase p)
    have hbranch : closeBranch s.sessionList id (some p) false = .dropOwner := by
      simp [closeBranch, getSessionInfo, isSessionOwnerValid, hr, hactive, hp, hflag]
    have hcontains : r.ownersList.contains p = true := by simpa using hp
    simp only [jhisCloseSession, exe_bind, exe_get, hbranch, removeSessionOwner, hr, hcontains, if_true, exe_pure,
      hset] at hinv ⊢
    refine Or.inl ⟨hp, _, rfl, hinv, h.removals_ge, fun _ => ?_⟩
    exact ⟨{ r with ownersList := r.ownersList.erase p, lastUsedTime := stamp },
      by simp [OrdMap.find?_modify, hr], rfl, hshared, happ⟩
  · have hbranch : closeBranch s.sessionList id (some p) false = .notOwner := by
      simp [closeBranch, getSessionInfo, isSessionOwnerValid, hr, hactive, hp]
    refine Or.inr ⟨hp, ?_⟩
    simp only [jhisCloseSession, exe_bind, exe_get, hbranch, exe_pure]

theorem Tracked.close_other {s : Service φ} (h : Tracked n appId id owners s)
    (halive : ∀ p ∈ owners, ∀ e, ((W.processIsDead p).exe e).1 = false) {i : SessionId} (hi : i ≠ id)
    (p : ProcessInfo) : Tracked n appId id owners ((jhisCloseSession W i (some p) false true).exe s).2 := by
  have hinv := keeps_serviceInv_close (W := W) i p s h.inv
  simp only [jhisCloseSession, exe_bind, exe_get] at hinv ⊢
  cases hbranch : closeBranch s.sessionList i (some p) false with
  | notExists => exact h
  | notOwner => exact h
  | removal => exact keeps_closeRemoval (Closed.toTidy (closed_tracked halive)) i false s h
  | dropOwner =>
    rw [hbranch] at hinv
    simp only [exe_bind, exe_pure, removeSessionOwner, exe_get] at hinv ⊢
    cases hr : s.sessionList.find? i with
    | none => exact h
    | some r =>
      obtain ⟨stamp, counter, -, hset⟩ := setOwners_eq s i r (r.ownersList.erase p)
      simp only [hr, exe_ite, exe_bind, exe_pure] at hinv ⊢
      split
      next hp =>
        rw [if_pos hp] at hinv
        simp only [hset] at hinv ⊢
        exact ⟨hinv, h.removals_ge, fun hn => (h.hasOwners hn).modify fun _ _ heq => absurd heq hi⟩
      · exact h

end Close

/-! ### Runs -/

/-- A create with the shared flag for the applet, or a close that is not forced. -/
inductive SharedOp
  | create (flags : UInt32) (hshared : sharedSession flags = true) (init : Bytes) (p : ProcessInfo)
  | close (sessionId : SessionId) (p : ProcessInfo)

def SharedOp.process : SharedOp → ProcessInfo
  | .create _ _ _ p => p
  | .close _ p => p

/-- What came of an operation; a create also answers a session id. -/
structure Outcome where
  op : SharedOp
  retCode : JhiRet
  sessionId : Option SessionId

/-- If this is a create that succeeded, it answered this id. -/
def Outcome.ofSession (id : SessionId) (o : Outcome) : Prop :=
  match o.op with
  | .create _ _ _ _ => o.retCode = jhiSuccess → o.sessionId = some id
  | .close _ _ => True

/-- The successful creates of a process. -/
def creates (p : ProcessInfo) (outcomes : List Outcome) : Nat :=
  outcomes.countP fun o => match o.op with
    | .create _ _ _ q => q = p && o.retCode = jhiSuccess
    | .close _ _ => false

/-- The successful closes of a session by a process. -/
def closes (id : SessionId) (p : ProcessInfo) (outcomes : List Outcome) : Nat :=
  outcomes.countP fun o => match o.op with
    | .create _ _ _ _ => false
    | .close i q => i = id && q = p && o.retCode = jhiSuccess

section Run

variable (W : World φ) (appId : AppId)

def execShared : SharedOp → StateM (Service φ) Outcome
  | .create flags hshared init p => do
    let r ← jhisCreateSession W appId.text flags init p
    return ⟨.create flags hshared init p, r.1, r.2⟩
  | .close sessionId p => do
    let ret ← jhisCloseSession W sessionId (some p) false true
    return ⟨.close sessionId p, ret, none⟩

def runShared : List SharedOp → StateM (Service φ) (List Outcome)
  | [] => return []
  | op :: ops => do
    let o ← execShared W appId op
    let os ← runShared ops
    return o :: os

variable {W appId}

theorem keeps_execShared {I : Service φ → Prop} (hI : Closed (Step W) I) (op : SharedOp) :
    Keeps I (execShared W appId op) := by
  cases op with
  | create flags hshared init p => exact (keeps_jhisCreateSession hI appId flags init p).bind fun _ => Keeps.pure _
  | close i p => exact (keeps_jhisCloseSession (Closed.toCareQuiet hI) i (some p) false).bind fun _ => Keeps.pure _

theorem keeps_runShared {I : Service φ → Prop} (hI : Closed (Step W) I) (ops : List SharedOp) :
    Keeps I (runShared W appId ops) := by
  induction ops with
  | nil => exact Keeps.pure _
  | cons op ops ih => exact (keeps_execShared hI op).bind fun _ => ih.bind fun _ => Keeps.pure _

variable {n : Nat} {id : SessionId} {owners : List ProcessInfo}

/-- One operation changes the list by what came of it. -/
theorem Tracked.exec {s : Service φ} (h : Tracked n appId id owners s)
    (halive : ∀ p ∈ owners, ∀ e, ((W.processIsDead p).exe e).1 = false) (op : SharedOp)
    (hn : removals id ((execShared W appId op).exe s).2.log = n) :
    ∃ owners', Tracked n appId id owners' ((execShared W appId op).exe s).2 ∧
      (∀ p, owners'.count p + closes id p [((execShared W appId op).exe s).1] =
        owners.count p + creates p [((execShared W appId op).exe s).1]) ∧
      ((execShared W appId op).exe s).1.ofSession id ∧
      (∀ p ∈ owners', p ∈ owners ∨ p = op.process) := by
  have hn₀ : removals id s.log = n :=
    le_antisymm ((keeps_execShared (closed_removals W id _) op s le_rfl).trans hn.le) h.removals_ge
  cases op with
  | create flags hshared init p =>
    simp only [execShared, exe_bind, exe_pure] at hn ⊢
    generalize hexe : (jhisCreateSession W appId.text flags init p).exe s = res at hn ⊢
    obtain ⟨⟨ret, sid⟩, s'⟩ := res
    obtain ⟨-, hsucc, hfail⟩ := h.create halive hshared hexe hn
    by_cases hret : ret = jhiSuccess
    · refine ⟨owners ++ [p], (hsucc hret).2, fun q => ?_, fun _ => (hsucc hret).1, fun q hq => ?_⟩
      · by_cases hq : p = q <;> simp [creates, closes, hret, List.count_append, hq]
      · simpa [SharedOp.process] using hq
    · refine ⟨owners, hfail hret, fun q => ?_, fun h => absurd h hret, fun q hq => Or.inl hq⟩
      simp [creates, closes, hret]
  | close i p =>
    simp only [execShared, exe_bind, exe_pure] at hn ⊢
    by_cases hi : i = id
    · subst hi
      rcases h.close (W := W) hn₀ p with ⟨hp, s', hexe, htracked⟩ | ⟨hp, hexe⟩
      · rw [hexe]
        refine ⟨owners.erase p, htracked, fun q => ?_, trivial, fun q hq => Or.inl (List.mem_of_mem_erase hq)⟩
        by_cases hq : p = q
        · subst hq
          have hpos := List.count_pos_iff.2 hp
          simp [creates, closes, List.count_erase_self]
          omega
        · simp [creates, closes, hq, List.count_erase_of_ne (Ne.symm hq)]
      · rw [hexe]
        refine ⟨owners, h, fun q => ?_, trivial, fun q hq => Or.inl hq⟩
        have hcode : jhiInternalError ≠ jhiSuccess := by decide
        simp [creates, closes, hcode]
    · refine ⟨owners, h.close_other halive hi p, fun q => ?_, trivial, fun q hq => Or.inl hq⟩
      simp [creates, closes, hi]

theorem creates_cons (p : ProcessInfo) (o : Outcome) (os : List Outcome) :
    creates p (o :: os) = creates p [o] + creates p os := by
  rw [← List.singleton_append]
  exact List.countP_append

theorem closes_cons (id : SessionId) (p : ProcessInfo) (o : Outcome) (os : List Outcome) :
    closes id p (o :: os) = closes id p [o] + closes id p os := by
  rw [← List.singleton_append]
  exact List.countP_append

/-- The balance along a run. -/
theorem Tracked.run (ops : List SharedOp) {owners : List ProcessInfo} {s : Service φ}
    (h : Tracked n appId id owners s)
    (halive : ∀ p, (p ∈ owners ∨ ∃ op ∈ ops, op.process = p) → ∀ e, ((W.processIsDead p).exe e).1 = false)
    (hn : removals id ((runShared W appId ops).exe s).2.log = n) :
    ∃ owners', Tracked n appId id owners' ((runShared W appId ops).exe s).2 ∧
      (∀ p, owners'.count p + closes id p ((runShared W appId ops).exe s).1 =
        owners.count p + creates p ((runShared W appId ops).exe s).1) ∧
      (∀ o ∈ ((runShared W appId ops).exe s).1, o.ofSession id) ∧
      (∀ p ∈ owners', ∀ e, ((W.processIsDead p).exe e).1 = false) := by
  induction ops generalizing owners s with
  | nil => exact ⟨owners, h, fun _ => rfl, List.forall_mem_nil _, fun p hp => halive p (Or.inl hp)⟩
  | cons op ops ih =>
    simp only [runShared, exe_bind, exe_pure] at hn ⊢
    have hmid : removals id ((execShared W appId op).exe s).2.log = n := by
      refine le_antisymm ((keeps_runShared (closed_removals W id _) ops _ le_rfl).trans hn.le) ?_
      exact keeps_execShared (closed_removals W id n) op s h.removals_ge
    obtain ⟨owners₁, h₁, hcount₁, hid₁, hmem₁⟩ := h.exec (fun p hp => halive p (Or.inl hp)) op hmid
    have halive₁ : ∀ p, (p ∈ owners₁ ∨ ∃ op ∈ ops, op.process = p) → ∀ e, ((W.processIsDead p).exe e).1 = false := by
      intro p hp
      refine halive p ?_
      rcases hp with hp | ⟨op', hop', rfl⟩
      · rcases hmem₁ p hp with hp | rfl
        · exact Or.inl hp
        · exact Or.inr ⟨op, List.mem_cons_self, rfl⟩
      · exact Or.inr ⟨op', List.mem_cons_of_mem _ hop', rfl⟩
    obtain ⟨owners', h', hcount', hid', halive'⟩ := ih h₁ halive₁ hn
    refine ⟨owners', h', fun p => ?_, List.forall_mem_cons.2 ⟨hid₁, hid'⟩, halive'⟩
    have hp₁ := hcount₁ p
    have hp' := hcount' p
    rw [creates_cons, closes_cons]
    omega

end Run

/-! ### From the create that adds the record -/

theorem added_record {W : World φ} {appId : AppId} {flags : UInt32} {init : Bytes} {p : ProcessInfo}
    {s s' : Service φ} {res : JhiRet × Option SessionId}
    (hexe : (jhisCreateSession W appId.text flags init p).exe s = (res, s')) {id : SessionId}
    (hnew : s.sessionList.find? id = none) (hadded : s'.sessionList.find? id ≠ none) :
    res = (jhiSuccess, some id) ∧ ∃ handle, s'.sessionList.find? id = some (newRecord appId.text handle id flags p) := by
  have hself : RecordsFrom s.sessionList s.sessionList := fun _ r hr => ⟨r, hr, rfl⟩
  have hcreated := jhisCreateSession_created (closed_recordsFrom W s.sessionList) appId flags init p hself
  -- a table made of records that were there has none under the new id
  have hnone : ∀ t, RecordsFrom s.sessionList t → t.find? id = none := by
    intro t hfrom
    cases hr : t.find? id with
    | none => rfl
    | some r =>
      obtain ⟨r₀, hr₀, -⟩ := hfrom id r hr
      rw [hnew] at hr₀
      cases hr₀
  rw [hexe] at hcreated
  rcases hcreated with hfrom | ⟨s₁, id', handle, hs₁, -, hres, _, _, htable⟩
  · exact absurd (hnone _ hfrom) hadded
  · rw [congrArg Service.sessionList htable, OrdMap.find?_insert] at hadded ⊢
    by_cases hid : id = id'
    · subst hid
      exact ⟨hres, handle, by simp [hnone _ hs₁]⟩
    · rw [if_neg hid] at hadded
      exact absurd (hnone _ hs₁) hadded

/-- **The owner balance of a shared session.** From the create that adds the record, as long as the
record is not removed and the processes involved are not reported dead: every process is listed as
often as its successful creates exceed its successful closes, all successful creates answer the one
id, a create that gets past its first checks fails exactly when the list is full and one that does
not answers their code, and a close takes an entry of the caller or, if there is none, fails and
changes nothing. -/
theorem sharedSession_ownerBalance (W : World φ) (e : φ) (before : List Op) (appId : AppId) {flags : UInt32}
    (hflag : sharedSession flags = true) (init : Bytes) (p₀ : ProcessInfo) {res : JhiRet × Option SessionId}
    {s₁ : Service φ}
    (hcreate : (jhisCreateSession W appId.text flags init p₀).exe (runOps W before (freshService e)) = (res, s₁))
    (id : SessionId) (hnew : (runOps W before (freshService e)).sessionList.find? id = none)
    (hadded : s₁.sessionList.find? id ≠ none) (ops : List SharedOp) {outcomes : List Outcome} {s : Service φ}
    (hrun : (runShared W appId ops).exe s₁ = (outcomes, s)) (hstays : removals id s.log = removals id s₁.log)
    (halive : ∀ p, (p = p₀ ∨ ∃ op ∈ ops, op.process = p) → ∀ e, ((W.processIsDead p).exe e).1 = false) :
    res = (jhiSuccess, some id) ∧ (∀ o ∈ outcomes, o.ofSession id) ∧
    ∃ r, s.sessionList.find? id = some r ∧
      (∀ p, r.ownersList.count p + closes id p outcomes =
        creates p (⟨.create flags hflag init p₀, res.1, res.2⟩ :: outcomes)) ∧
      (∀ flags', sharedSession flags' = true → ∀ init' p ret sid s',
        (jhisCreateSession W appId.text flags' init' p).exe s = ((ret, sid), s') →
        removals id s'.log = removals id s₁.log →
        (ret = jhiMaxSharedSessionReached ↔
          ((createPrechecks W appId.text).exe s).1 = none ∧ r.ownersList.length = maxSessionOwners)) ∧
      (∀ flags', sharedSession flags' = true → ∀ init' p code, ((createPrechecks W appId.text).exe s).1 = some code →
        ((jhisCreateSession W appId.text flags' init' p).exe s).1 = (code, none)) ∧
      (∀ p, p ∉ r.ownersList → (jhisCloseSession W id (some p) false true).exe s = (jhiInternalError, s)) ∧
      (∀ i p ret s', (jhisCloseSession W i (some p) false true).exe s = (ret, s') →
        removals id s'.log = removals id s₁.log →
        ∃ r', s'.sessionList.find? id = some r' ∧ ∀ q, q ≠ p → r'.ownersList.count q = r.ownersList.count q) := by
  obtain ⟨rfl, handle, hr₁⟩ := added_record hcreate hnew hadded
  have hinv₁ := keeps_jhisCreateSession (closed_serviceInv W) appId flags init p₀ _ (serviceInv_runOps W before e)
  rw [hcreate] at hinv₁
  have h₁ : Tracked (removals id s₁.log) appId id [p₀] s₁ :=
    ⟨hinv₁, le_rfl, fun _ => ⟨_, hr₁, rfl, hflag, appId.toUpperCase_text⟩⟩
  have halive₁ : ∀ p, (p ∈ [p₀] ∨ ∃ op ∈ ops, op.process = p) → ∀ e, ((W.processIsDead p).exe e).1 = false :=
    fun p hp => halive p (by simpa using hp)
  have hbalance := h₁.run ops halive₁ (by rw [hrun]; exact hstays)
  rw [hrun] at hbalance
  obtain ⟨owners, h, hcount, hids, halive'⟩ := hbalance
  obtain ⟨r, hr, rfl, -⟩ := h.hasOwners hstays
  refine ⟨rfl, hids, r, hr, fun p => ?_, ?_, ?_, ?_, ?_⟩
  · have hp := hcount p
    have hfirst : creates p [⟨.create flags hflag init p₀, jhiSuccess, some id⟩] = [p₀].count p := by
      by_cases hp₀ : p₀ = p <;> simp [creates, hp₀]
    rw [creates_cons, hfirst]
    exact hp
  · intro flags' hflag' init' p ret sid s' hexe hn
    exact (h.create halive' hflag' hexe hn).1
  · intro flags' hflag' init' p code hcode
    rcases exe_jhisCreateSession_shared W hflag' init' p s with ⟨code', hcode', hexe⟩ | ⟨hpass, -⟩
    · rw [hexe, Option.some.inj (hcode'.symm.trans hcode)]
    · cases hpass.symm.trans hcode
  · intro p hp
    rcases h.close (W := W) hstays p with ⟨hp', -⟩ | ⟨-, hexe⟩
    · exact absurd hp' hp
    · exact hexe
  · intro i p ret s' hexe hn
    by_cases hi : i = id
    · subst hi
      rcases h.close (W := W) hstays p with ⟨-, s'', hexe', htracked⟩ | ⟨-, hexe'⟩ <;>
        rw [hexe, Prod.mk.injEq] at hexe' <;> obtain ⟨rfl, rfl⟩ := hexe'
      · obtain ⟨r', hr', howners, -⟩ := htracked.hasOwners hn
        exact ⟨r', hr', fun q hq => by rw [howners, List.count_erase_of_ne hq]⟩
      · exact ⟨r, hr, fun _ _ => rfl⟩
    · have hother := h.close_other (W := W) halive' hi p
      rw [hexe] at hother
      obtain ⟨r', hr', howners, -⟩ := hother.hasOwners hn
      exact ⟨r', hr', fun q _ => by rw [howners]⟩

/-! ### Examples -/

def exampleProcess : ProcessInfo := ⟨1, 0, 0⟩

/-- A shared create, and what the service is after it. -/
def sharedCreate : SharedOp := .create 1 rfl [] exampleProcess

def afterFirstCreate : (JhiRet × Option SessionId) × Service Unit :=
  (jhisCreateSession (World.quiet Unit) exampleApplet.text 1 [] exampleProcess).exe
    (runOps (World.quiet Unit) [.startUp .beihaiV2 [] OrdMap.empty] (freshService ()))

/-- A second owner comes, the first one goes. -/
def secondOwner : List Outcome × Service Unit :=
  (runShared (World.quiet Unit) exampleApplet
    [.create 1 rfl [] ⟨2, 0, 0⟩, .close (.replicate 0) exampleProcess]).exe afterFirstCreate.2

theorem sharedSession_ownerBalance_secondOwner :
    ∃ r, secondOwner.2.sessionList.find? (.replicate 0) = some r ∧
      ∀ p, r.ownersList.count p + closes (.replicate 0) p secondOwner.1 =
        creates p (⟨sharedCreate, afterFirstCreate.1.1, afterFirstCreate.1.2⟩ :: secondOwner.1) := by
  obtain ⟨-, -, r, hr, hcount, -⟩ := sharedSession_ownerBalance (World.quiet Unit) ()
    [.startUp .beihaiV2 [] OrdMap.empty] exampleApplet (rfl : sharedSession 1 = true) [] exampleProcess
    (show _ = (afterFirstCreate.1, afterFirstCreate.2) from rfl) (.replicate 0) (by decide +kernel)
    (by decide +kernel) [.create 1 rfl [] ⟨2, 0, 0⟩, .close (.replicate 0) exampleProcess]
    (show _ = (secondOwner.1, secondOwner.2) from rfl) (by decide +kernel) (fun _ _ _ => rfl)
  exact ⟨r, hr, hcount⟩

/-- A world in which the first `n` look-ups of a file succeed. -/
def vanishingWorld (n : Nat) : World Nat where
  __ := World.quiet Nat
  fileExists _ := fun k => (k < n, k + 1)

/-- The service with a Beihai v2 plugin, after `n` shared creates. -/
def afterSharedCreates (n : Nat) : Service Nat :=
  ((runShared (vanishingWorld maxSessionOwners) exampleApplet (List.replicate n sharedCreate)).exe
    (runOps (vanishingWorld maxSessionOwners) [.startUp .beihaiV2 [] OrdMap.empty] (freshService 0))).2

/-- The list is full, and the next create fails because the applet is no longer in the repository. -/
theorem full_list_other_code :
    ((afterSharedCreates 20).sessionList.find? (.replicate 0)).map (fun r => r.ownersList.length) =
      some maxSessionOwners ∧
    ((execShared (vanishingWorld maxSessionOwners) exampleApplet sharedCreate).exe
      (afterSharedCreates 20)).1.retCode = jhiAppletNotInstalled ∧
    ((afterSharedCreates 21).sessionList.find? (.replicate 0)).map (fun r => r.ownersList.length) =
      some maxSessionOwners ∧
    removals (.replicate 0) (afterSharedCreates 21).log = 0 ∧
    jhiAppletNotInstalled ≠ jhiMaxSharedSessionReached := by
  decide +kernel

end DalHost

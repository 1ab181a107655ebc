import DalHost.Service.Refinement

/-!
# The session-table invariant

`SessionsManager::add` would accept a second shared session of an applet, and `addSessionOwner` a
second owner of a private one; that neither happens follows from the order of the steps in
`jhis_create_session`. `TableInv` is what every reachable table satisfies. It is closed under every
step of `Evolution.lean`, so it holds after every run.
-/

namespace DalHost

variable {φ : Type}

/-- What every reachable session table satisfies. -/
structure TableInv (t : SessionTable) : Prop where
  key_eq : ∀ id r, t.find? id = some r → r.sessionId = id
  appId_valid : ∀ id r, t.find? id = some r → IsAppId r.appId
  active : ∀ id r, t.find? id = some r → r.state = .active
  shared_unique : ∀ id id' r r', t.find? id = some r → t.find? id' = some r' → r.appId = r'.appId →
    r.shared = true → r'.shared = true → id = id'
  private_owners : ∀ id r, t.find? id = some r → r.shared = false → r.ownersList.length ≤ 1
  shared_owners : ∀ id r, t.find? id = some r → r.shared = true → r.ownersList.length ≤ maxSessionOwners

theorem TableInv.empty : TableInv OrdMap.empty := by
  constructor <;> simp

/-! ### Updates of the table that keep the invariant -/

theorem TableInv.shrink {t : SessionTable} (h : TableInv t) {id : SessionId} {f : SessionRecord → SessionRecord}
    (hid : ∀ r, t.find? id = some r → (f r).sessionId = r.sessionId ∧ (f r).appId = r.appId ∧
      (f r).state = r.state ∧ (f r).sessionFlags = r.sessionFlags)
    (hown : ∀ r, t.find? id = some r → (f r).ownersList.length ≤ r.ownersList.length ∨
      r.shared = true ∧ (f r).ownersList.length ≤ maxSessionOwners) :
    TableInv (t.modify id f) := by
  -- a record of the new table has the identity of a record of the old one
  have hold : ∀ id' r', (t.modify id f).find? id' = some r' → ∃ r, t.find? id' = some r ∧
      r'.sessionId = r.sessionId ∧ r'.appId = r.appId ∧ r'.state = r.state ∧ r'.shared = r.shared ∧
      (r'.ownersList.length ≤ r.ownersList.length ∨
        r.shared = true ∧ r'.ownersList.length ≤ maxSessionOwners) := by
    intro id' r' hr'
    rw [OrdMap.find?_modify] at hr'
    split_ifs at hr' with heq
    · subst heq
      obtain ⟨r, hr, rfl⟩ := Option.map_eq_some_iff.1 hr'
      obtain ⟨h₁, h₂, h₃, h₄⟩ := hid r hr
      exact ⟨r, hr, h₁, h₂, h₃, by simp only [SessionRecord.shared, h₄], hown r hr⟩
    · exact ⟨r', hr', rfl, rfl, rfl, rfl, Or.inl le_rfl⟩
  constructor
  · intro id' r' hr'
    obtain ⟨r, hr, h₁, -⟩ := hold id' r' hr'
    exact h₁.trans (h.key_eq id' r hr)
  · intro id' r' hr'
    obtain ⟨r, hr, -, h₂, -⟩ := hold id' r' hr'
    exact h₂ ▸ h.appId_valid id' r hr
  · intro id' r' hr'
    obtain ⟨r, hr, -, -, h₃, -⟩ := hold id' r' hr'
    exact h₃.trans (h.active id' r hr)
  · intro i j ri rj hi hj happ hsi hsj
    obtain ⟨ri', hri, -, hai, -, hshi, -⟩ := hold i ri hi
    obtain ⟨rj', hrj, -, haj, -, hshj, -⟩ := hold j rj hj
    exact h.shared_unique i j ri' rj' hri hrj (hai ▸ haj ▸ happ) (hshi ▸ hsi) (hshj ▸ hsj)
  · intro id' r' hr' hsh
    obtain ⟨r, hr, -, -, -, h₄, hlen⟩ := hold id' r' hr'
    rcases hlen with hlen | ⟨hshared, -⟩
    · exact hlen.trans (h.private_owners id' r hr (h₄ ▸ hsh))
    · rw [h₄, hshared] at hsh
      cases hsh
  · intro id' r' hr' hsh
    obtain ⟨r, hr, -, -, -, h₄, hlen⟩ := hold id' r' hr'
    rcases hlen with hlen | ⟨-, hlen⟩
    · exact hlen.trans (h.shared_owners id' r hr (h₄ ▸ hsh))
    · exact hlen

theorem TableInv.erase {t : SessionTable} (h : TableInv t) (id : SessionId) : TableInv (t.erase id) := by
  have hold : ∀ id' r', (t.erase id).find? id' = some r' → t.find? id' = some r' := by
    intro id' r' hr'
    rw [OrdMap.find?_erase] at hr'
    split_ifs at hr'
    exact hr'
  exact
    { key_eq := fun i r hr => h.key_eq i r (hold i r hr)
      appId_valid := fun i r hr => h.appId_valid i r (hold i r hr)
      active := fun i r hr => h.active i r (hold i r hr)
      shared_unique := fun i j r r' hr hr' => h.shared_unique i j r r' (hold i r hr) (hold j r' hr')
      private_owners := fun i r hr => h.private_owners i r (hold i r hr)
      shared_owners := fun i r hr => h.shared_owners i r (hold i r hr) }

theorem TableInv.insert {t : SessionTable} (h : TableInv t) {appId : AppId} {id : SessionId} (handle : VmHandle)
    {flags : UInt32} (p : ProcessInfo) (hnew : t.find? id = none)
    (hshared : sharedSession flags = true → getSharedSessionID t appId.text = none) :
    TableInv (t.insert id (newRecord appId.text handle id flags p)) := by
  have happ : (newRecord appId.text handle id flags p).appId = appId.text := appId.toUpperCase_text
  have hcases : ∀ id' r', (t.insert id (newRecord appId.text handle id flags p)).find? id' = some r' →
      (id' = id ∧ r' = newRecord appId.text handle id flags p) ∨ (id' ≠ id ∧ t.find? id' = some r') := by
    intro id' r' hr'
    rw [OrdMap.find?_insert, hnew] at hr'
    split_ifs at hr' with heq
    · exact Or.inl ⟨heq, (Option.some.inj hr').symm⟩
    · exact Or.inr ⟨heq, hr'⟩
  -- a shared session of the applet that was there before contradicts the look-up
  have hno : sharedSession flags = true → ∀ id' r', t.find? id' = some r' → r'.appId = appId.text →
      r'.shared = false := fun hf => getSharedSessionID_eq_none.1 (hshared hf)
  constructor
  · intro id' r' hr'
    rcases hcases id' r' hr' with ⟨rfl, rfl⟩ | ⟨-, hr⟩
    · rfl
    · exact h.key_eq id' r' hr
  · intro id' r' hr'
    rcases hcases id' r' hr' with ⟨rfl, rfl⟩ | ⟨-, hr⟩
    · rw [happ]
      exact appId.valid
    · exact h.appId_valid id' r' hr
  · intro id' r' hr'
    rcases hcases id' r' hr' with ⟨rfl, rfl⟩ | ⟨-, hr⟩
    · rfl
    · exact h.active id' r' hr
  · intro i j ri rj hi hj heq hsi hsj
    rcases hcases i ri hi with ⟨rfl, rfl⟩ | ⟨-, hri⟩ <;> rcases hcases j rj hj with ⟨rfl, rfl⟩ | ⟨-, hrj⟩
    · rfl
    · exact absurd hsj (by rw [hno hsi j rj hrj (heq.symm.trans happ)]; decide)
    · exact absurd hsi (by rw [hno hsj i ri hri (heq.trans happ)]; decide)
    · exact h.shared_unique i j ri rj hri hrj heq hsi hsj
  · intro id' r' hr' hsh
    rcases hcases id' r' hr' with ⟨rfl, rfl⟩ | ⟨-, hr⟩
    · exact le_rfl
    · exact h.private_owners id' r' hr hsh
  · intro id' r' hr' hsh
    rcases hcases id' r' hr' with ⟨rfl, rfl⟩ | ⟨-, hr⟩
    · exact (by decide : 1 ≤ maxSessionOwners)
    · exact h.shared_owners id' r' hr hsh

/-! ### The invariant of the service -/

/-- The table invariant, and that owners were only ever added to shared sessions. -/
structure ServiceInv (s : Service φ) : Prop where
  table : TableInv s.sessionList
  ownersOfShared : ∀ e ∈ s.log, ∀ id, e.call = .addSessionOwner id →
    ∀ r, e.table.find? id = some r → r.shared = true

theorem ServiceInv.log_append {s : Service φ} (h : ServiceInv s) {call : LogCall}
    (hcall : ∀ id, call = .addSessionOwner id → ∀ r, s.sessionList.find? id = some r → r.shared = true) :
    ∀ e ∈ s.log ++ [⟨call, s.sessionList, s.appletTable⟩], ∀ id, e.call = .addSessionOwner id →
      ∀ r, e.table.find? id = some r → r.shared = true := by
  intro e he
  rcases List.mem_append.1 he with he | he
  · exact h.ownersOfShared e he
  · rw [List.mem_singleton.1 he]
    exact hcall

theorem closed_clean_serviceInv (W : World φ) : Closed (CleanStep W) ServiceInv := by
  intro s t hst h
  cases hst with
  | env | applets | closeFailed => exact ⟨h.table, h.ownersOfShared⟩
  | unload appId => exact ⟨h.table, h.log_append (by rintro id ⟨⟩)⟩
  | uninstallPackage appId => exact ⟨h.table, h.log_append (by rintro id ⟨⟩)⟩
  | deadOwners hr hsub =>
    refine ⟨?_, h.ownersOfShared⟩
    dsimp only
    apply h.table.shrink <;> intro r' hr' <;> cases hr.symm.trans hr'
    · exact ⟨rfl, rfl, rfl, rfl⟩
    · exact Or.inl hsub.length_le
  | events id eh q =>
    refine ⟨?_, h.ownersOfShared⟩
    dsimp only
    apply h.table.shrink
    · exact fun _ _ => ⟨rfl, rfl, rfl, rfl⟩
    · exact fun _ _ => Or.inl le_rfl
  | closed hr => exact ⟨h.table.erase _, h.log_append (by rintro id ⟨⟩)⟩

theorem closed_quiet_serviceInv (W : World φ) : Closed (QuietStep W) ServiceInv := by
  intro s t hst h
  cases hst with
  | clean hst => exact closed_clean_serviceInv W s t hst h
  | exchange | openFailed => exact ⟨h.table, h.ownersOfShared⟩
  | crashed hr => exact ⟨h.table.erase _, h.log_append (by rintro id ⟨⟩)⟩
  | dropOwner hr =>
    refine ⟨?_, h.ownersOfShared⟩
    dsimp only
    apply h.table.shrink <;> intro r' hr' <;> cases hr.symm.trans hr'
    · exact ⟨rfl, rfl, rfl, rfl⟩
    · exact Or.inl List.erase_sublist.length_le
  | @addOwner id r hr hshared hlt p =>
    refine ⟨?_, h.log_append ?_⟩
    · dsimp only
      apply h.table.shrink
      · exact fun _ _ => ⟨rfl, rfl, rfl, rfl⟩
      · intro r' hr'
        cases hr.symm.trans hr'
        refine Or.inr ⟨hshared, ?_⟩
        simp only [List.length_append, List.length_singleton]
        omega
    · rintro _ ⟨⟩ r' hr'
      cases hr.symm.trans hr'
      exact hshared
  | @ownersFull id r hr hshared hge =>
    refine ⟨h.table, h.log_append ?_⟩
    rintro _ ⟨⟩ r' hr'
    cases hr.symm.trans hr'
    exact hshared
  | undone => exact ⟨h.table, h.log_append (by rintro id ⟨⟩)⟩

theorem closed_serviceInv (W : World φ) : Closed (Step W) ServiceInv := by
  intro s t hst h
  cases hst with
  | quiet hst => exact closed_quiet_serviceInv W s t hst h
  | opened appId blob init flags p hret hnew hshared => exact ⟨h.table.insert _ p hnew hshared, h.ownersOfShared⟩

theorem keeps_serviceInv_execOp (W : World φ) (op : Op) : Keeps ServiceInv (execOp W op) := by
  cases op with
  | call c => exact (keeps_exec (closed_serviceInv W) c).bind fun _ => Keeps.pure _
  | startUp v f t => exact fun s h => ⟨h.table, h.ownersOfShared⟩
  | reset =>
    have henv : ∀ {α : Type} (op : StateM φ α), Keeps (@ServiceInv φ) (onEnv op) :=
      fun op s h => ⟨h.table, h.ownersOfShared⟩
    refine Keeps.bind (Keeps.get.bind fun s => Keeps.ite (fun _ => ?_) fun _ => Keeps.pure _) fun _ => ?_
    · refine Keeps.get.bind fun s => (Keeps.iterateAny (fun h => ?_) _).bind fun _ => Keeps.pure _
      exact (henv _).bind fun _ => Keeps.pure _
    · refine Keeps.bind (fun s h => ⟨h.table, h.ownersOfShared⟩) fun _ => ?_
      refine Keeps.bind (fun s h => ⟨TableInv.empty, h.ownersOfShared⟩) fun _ => ?_
      exact (henv _).bind fun _ s h => ⟨h.table, h.ownersOfShared⟩

/-! ### Runs -/

/-- The service as the process starts: empty tables, no plugin. -/
def freshService (e : φ) : Service φ where
  sessionList := OrdMap.empty
  sharedSessionLRUCounter := 1
  appletTable := OrdMap.empty
  vmType := .invalid
  pluginRegistered := false
  appletsFolder := []
  env := e
  log := []

theorem serviceInv_runOps (W : World φ) (ops : List Op) (e : φ) : ServiceInv (runOps W ops (freshService e)) :=
  runOps_invariant W (keeps_serviceInv_execOp W) ops _ ⟨TableInv.empty, fun _ h => by cases h⟩

theorem closeBranch_of_private {t : SessionTable} (h : TableInv t) {id : SessionId} {r : SessionRecord}
    (hr : t.find? id = some r) (hprivate : r.shared = false) {p : ProcessInfo} (hp : p ∈ r.ownersList) (force : Bool) :
    closeBranch t id (some p) force = .removal := by
  have hlen : r.ownersList.length = 1 := by
    have hle := h.private_owners id r hr hprivate
    have hpos := List.length_pos_of_mem hp
    omega
  have hflags : sharedSession r.sessionFlags = false := hprivate
  simp [closeBranch, getSessionInfo, isSessionOwnerValid, getOwnersCount, hr, h.active id r hr, hlen, hp, hflags]

/-- **The session-table invariant.** After every run from the empty table, with any answers of the
plugin and the operating system: the table satisfies `TableInv`, a listed owner of a private
session who closes it takes the removal branch, and owners were added to shared sessions only. -/
theorem sessionTable_invariant (W : World φ) (e : φ) (ops : List Op) :
    TableInv (runOps W ops (freshService e)).sessionList ∧
    (∀ id r p force, (runOps W ops (freshService e)).sessionList.find? id = some r → r.shared = false →
      p ∈ r.ownersList →
      (jhisCloseSession W id (some p) force true).exe (runOps W ops (freshService e)) =
        (closeRemoval W id force true).exe (runOps W ops (freshService e))) ∧
    ∀ entry ∈ (runOps W ops (freshService e)).log, ∀ id, entry.call = .addSessionOwner id →
      ∀ r, entry.table.find? id = some r → r.shared = true := by
  have hinv := serviceInv_runOps W ops e
  refine ⟨hinv.table, ?_, hinv.ownersOfShared⟩
  intro id r p force hr hprivate hp
  have hbranch := closeBranch_of_private hinv.table hr hprivate hp force
  simp only [jhisCloseSession, exe_bind, exe_get, hbranch]

end DalHost

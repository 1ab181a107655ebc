import DalHost.Sessions.CleanUp
import Mathlib.Algebra.Group.Nat.Defs

/-!
# The order of evictions

A shared session that loses its last owner is stamped with a counter, and `TryRemoveUnusedSharedSession`
closes the unused one with the smallest stamp. The moments at which sessions lose their last owners
are numbered by a history that runs along with the service; the stamps are these numbers, cut to 32 bits.
-/

namespace DalHost

variable {φ : Type}

/-! ### Histories -/

/-- A shared session without an owner. -/
def unused (t : SessionTable) (id : SessionId) : Bool := (t.find? id).any fun r => r.shared && r.ownersList.isEmpty

/-- The session loses its last owner between two states. -/
def leaves (s t : Service φ) (id : SessionId) : Bool := unused t.sessionList id && !unused s.sessionList id

/-- When sessions lost their last owners. -/
structure History where
  /-- How often a shared session lost its last owner. -/
  leavings : Nat
  /-- For a session that lost its last owner, how often this had happened before. -/
  left : SessionId → Nat

def History.tick (h : History) (s t : Service φ) : History where
  leavings := if t.sessionList.keys.any (leaves s t) then h.leavings + 1 else h.leavings
  left id := if leaves s t id then h.leavings else h.left id

/-- What happens to the service in one step: a step of a command, or a part of a reset or a start-up. -/
inductive Move (W : World φ) : Service φ → Service φ → Prop
  | step {s t : Service φ} (h : Step W s t) : Move W s t
  | global {s t : Service φ} (hcounter : t.sharedSessionLRUCounter = s.sharedSessionLRUCounter) (hlog : t.log = s.log)
      (htable : t.sessionList = s.sessionList ∨ t.sessionList = OrdMap.empty) : Move W s t

/-- The states a fresh service can reach, with the history. -/
inductive Reached (W : World φ) (e : φ) : Service φ → History → Prop
  | start : Reached W e (freshService e) ⟨0, fun _ => 0⟩
  | move {s t : Service φ} {h : History} (hs : Reached W e s h) (hst : Move W s t) : Reached W e t (h.tick s t)

theorem reached_runOps (W : World φ) (e : φ) (ops : List Op) : ∃ h, Reached W e (runOps W ops (freshService e)) h := by
  have hglobal : ∀ {α : Type} {x : StateM (Service φ) α}, (∀ s, (x.exe s).2.sharedSessionLRUCounter =
      s.sharedSessionLRUCounter ∧ (x.exe s).2.log = s.log) → (∀ s, (x.exe s).2.sessionList = s.sessionList ∨ (x.exe s).2.sessionList = OrdMap.empty) →
      Keeps (fun s => ∃ h, Reached W e s h) x := by
    intro α x hcounter htable s hs
    obtain ⟨h, hs⟩ := hs
    exact ⟨_, hs.move (.global (hcounter s).1 (hcounter s).2 (htable s))⟩
  refine runOps_invariant W (I := fun s => ∃ h, Reached W e s h) (fun op => ?_) ops _ ⟨_, .start⟩
  cases op with
  | call c =>
    refine (keeps_exec (fun s t hst hs => ?_) c).bind fun _ => Keeps.pure _
    obtain ⟨h, hs⟩ := hs
    exact ⟨_, hs.move (.step hst)⟩
  | startUp => exact hglobal (fun _ => ⟨rfl, rfl⟩) fun _ => .inl rfl
  | reset =>
    have henv : ∀ {α : Type} (op : StateM φ α), Keeps (fun s => ∃ h, Reached W e s h) (onEnv op) :=
      fun op => hglobal (fun _ => ⟨rfl, rfl⟩) fun _ => .inl rfl
    refine Keeps.bind (Keeps.get.bind fun s => Keeps.ite (fun _ => ?_) fun _ => Keeps.pure _) fun _ => ?_
    · refine Keeps.get.bind fun s => (Keeps.iterateAny (fun h => ?_) _).bind fun _ => Keeps.pure _
      exact (henv _).bind fun _ => Keeps.pure _
    · refine (hglobal (fun _ => ⟨rfl, rfl⟩) fun _ => .inl rfl).bind fun _ => ?_
      refine (hglobal (fun _ => ⟨rfl, rfl⟩) fun _ => .inr rfl).bind fun _ => ?_
      exact (henv _).bind fun _ => hglobal (fun _ => ⟨rfl, rfl⟩) fun _ => .inl rfl

/-! ### The stamps -/

/-- The stamps are the numbers of the history, cut to 32 bits. -/
structure StampInv (s : Service φ) (h : History) : Prop where
  counter : s.sharedSessionLRUCounter = UInt32.ofNat (1 + h.leavings)
  stamp : ∀ id r, s.sessionList.find? id = some r → unused s.sessionList id = true →
    r.lastUsedTime = UInt32.ofNat (1 + h.left id)
  before : ∀ id, unused s.sessionList id = true → h.left id < h.leavings
  distinct : ∀ id id', unused s.sessionList id = true → unused s.sessionList id' = true → h.left id = h.left id' →
    id = id'

section Inv

variable {s t : Service φ} {h : History}

theorem unused_iff {t : SessionTable} {id : SessionId} :
    unused t id = true ↔ ∃ r, t.find? id = some r ∧ r.shared = true ∧ r.ownersList = [] := by
  unfold unused
  cases t.find? id <;> simp

theorem StampInv.calm (hs : StampInv s h) (hcounter : t.sharedSessionLRUCounter = s.sharedSessionLRUCounter)
    (hcalm : ∀ id r, t.sessionList.find? id = some r → r.shared = true → r.ownersList = [] →
      ∃ r', s.sessionList.find? id = some r' ∧ r'.shared = true ∧ r'.ownersList = [] ∧ r'.lastUsedTime = r.lastUsedTime) :
    StampInv t (h.tick s t) := by
  have hold : ∀ id, unused t.sessionList id = true → unused s.sessionList id = true := by
    intro id hid
    obtain ⟨r, hr, hshared, hnobody⟩ := unused_iff.1 hid
    obtain ⟨r', hr', hshared', hnobody', -⟩ := hcalm id r hr hshared hnobody
    exact unused_iff.2 ⟨r', hr', hshared', hnobody'⟩
  have hleaves : ∀ id, leaves s t id = false := by
    intro id
    unfold leaves
    cases hid : unused t.sessionList id
    · rfl
    · rw [hold id hid]
      rfl
  have hleft : ∀ id, (h.tick s t).left id = h.left id := by
    intro id
    simp only [History.tick, hleaves, Bool.false_eq_true, if_false]
  have hleavings : (h.tick s t).leavings = h.leavings := by
    have hany : t.sessionList.keys.any (leaves s t) = false := by
      rw [List.any_eq_false]
      intro id _
      simp [hleaves]
    simp only [History.tick, hany, Bool.false_eq_true, if_false]
  refine ⟨?_, fun id r hr hid => ?_, fun id hid => ?_, fun id id' hid hid' heq => ?_⟩
  · rw [hcounter, hs.counter, hleavings]
  · obtain ⟨r₁, hr₁, hshared, hnobody⟩ := unused_iff.1 hid
    cases hr.symm.trans hr₁
    obtain ⟨r', hr', -, -, hstamp⟩ := hcalm id r hr hshared hnobody
    rw [hleft, ← hstamp]
    exact hs.stamp id r' hr' (hold id hid)
  · rw [hleft, hleavings]
    exact hs.before id (hold id hid)
  · rw [hleft, hleft] at heq
    exact hs.distinct id id' (hold id hid) (hold id' hid') heq

theorem StampInv.leave (hs : StampInv s h) {id : SessionId} {r : SessionRecord} (hr : s.sessionList.find? id = some r)
    (hshared : r.shared = true) (howned : r.ownersList ≠ [])
    (htable : t.sessionList = s.sessionList.modify id fun _ =>
      { r with ownersList := [], lastUsedTime := s.sharedSessionLRUCounter })
    (hcounter : t.sharedSessionLRUCounter = s.sharedSessionLRUCounter + 1) : StampInv t (h.tick s t) := by
  have hfind : ∀ k, t.sessionList.find? k = if k = id then
      some { r with ownersList := [], lastUsedTime := s.sharedSessionLRUCounter } else s.sessionList.find? k := by
    intro k
    rw [htable, OrdMap.find?_modify]
    split_ifs with hk
    · rw [hr]
      rfl
    · rfl
  have hfindSelf := hfind id
  rw [if_pos rfl] at hfindSelf
  have hself : unused t.sessionList id = true := unused_iff.2 ⟨_, hfindSelf, hshared, rfl⟩
  have hnot : unused s.sessionList id = false := by
    rw [← Bool.not_eq_true, unused_iff]
    rintro ⟨r', hr', -, hnobody⟩
    cases hr.symm.trans hr'
    exact howned hnobody
  have hother : ∀ k, k ≠ id → unused t.sessionList k = unused s.sessionList k := by
    intro k hk
    unfold unused
    rw [hfind, if_neg hk]
  have hleft : (h.tick s t).left id = h.leavings := by
    have hid : leaves s t id = true := by simp [leaves, hself, hnot]
    simp only [History.tick, hid, if_true]
  have hleft' : ∀ k, k ≠ id → (h.tick s t).left k = h.left k := by
    intro k hk
    have hk' : leaves s t k = false := by
      unfold leaves
      rw [hother k hk]
      simp
    simp only [History.tick, hk', Bool.false_eq_true, if_false]
  have hleavings : (h.tick s t).leavings = h.leavings + 1 := by
    have hany : t.sessionList.keys.any (leaves s t) = true := by
      rw [List.any_eq_true]
      refine ⟨id, ?_, by simp [leaves, hself, hnot]⟩
      exact OrdMap.mem_keys_iff.2 (OrdMap.contains_iff.2 ⟨_, hfindSelf⟩)
    simp only [History.tick, hany, if_true]
  refine ⟨?_, fun k r' hr' hk => ?_, fun k hk => ?_, fun k k' hk hk' heq => ?_⟩
  · rw [hcounter, hs.counter, hleavings]
    rw [← Nat.add_assoc, UInt32.ofNat_add (1 + h.leavings) 1]
    rfl
  · by_cases hkid : k = id
    · rw [hkid, hleft, ← hs.counter]
      rw [hfind, if_pos hkid, Option.some.injEq] at hr'
      rw [← hr']
    · rw [hleft' k hkid]
      rw [hfind, if_neg hkid] at hr'
      exact hs.stamp k r' hr' (hother k hkid ▸ hk)
  · rw [hleavings]
    by_cases hkid : k = id
    · rw [hkid, hleft]
      omega
    · rw [hleft' k hkid]
      have := hs.before k (hother k hkid ▸ hk)
      omega
  · by_cases hkid : k = id <;> by_cases hkid' : k' = id
    · rw [hkid, hkid']
    · -- the others left before
      rw [hkid, hleft, hleft' k' hkid'] at heq
      have := hs.before k' (hother k' hkid' ▸ hk')
      omega
    · rw [hkid', hleft, hleft' k hkid] at heq
      have := hs.before k (hother k hkid ▸ hk)
      omega
    · rw [hleft' k hkid, hleft' k' hkid'] at heq
      exact hs.distinct k k' (hother k hkid ▸ hk) (hother k' hkid' ▸ hk') heq

theorem StampInv.owners (hs : StampInv s h) {id : SessionId} {r : SessionRecord} (hr : s.sessionList.find? id = some r)
    {owners : List ProcessInfo} (howned : r.ownersList ≠ []) {stamp counter : UInt32}
    (hstamp : Stamped r owners s.sharedSessionLRUCounter stamp counter)
    (htable : t.sessionList = s.sessionList.modify id fun _ => { r with ownersList := owners, lastUsedTime := stamp })
    (hcounter : t.sharedSessionLRUCounter = counter) : StampInv t (h.tick s t) := by
  unfold Stamped updateSessionLastUsage at hstamp
  split_ifs at hstamp with hlast
  · obtain ⟨hempty, hshared⟩ := hlast
    have hempty' : owners = [] := List.length_eq_zero_iff.1 hempty
    rw [Prod.mk.injEq] at hstamp
    obtain ⟨hrecord, hc⟩ := hstamp
    have hst : stamp = s.sharedSessionLRUCounter := (congrArg SessionRecord.lastUsedTime hrecord).symm
    subst hempty' hst
    exact hs.leave hr hshared howned htable (hcounter.trans hc.symm)
  · rw [Prod.mk.injEq] at hstamp
    obtain ⟨hrecord, hc⟩ := hstamp
    refine hs.calm (hcounter.trans hc.symm) fun k r' hr' hshared hnobody => ?_
    rw [htable, OrdMap.find?_modify] at hr'
    split_ifs at hr' with hk
    · -- the record still has an owner, or is private
      rw [hr, Option.map_some, Option.some.injEq] at hr'
      subst hr'
      exact absurd ⟨by simpa using hnobody, hshared⟩ hlast
    · exact ⟨r', hr', hshared, hnobody, rfl⟩

theorem StampInv.same (hs : StampInv s h) (hcounter : t.sharedSessionLRUCounter = s.sharedSessionLRUCounter)
    (htable : t.sessionList = s.sessionList) : StampInv t (h.tick s t) :=
  hs.calm hcounter fun _ r hr hshared hnobody => ⟨r, htable ▸ hr, hshared, hnobody, rfl⟩

theorem StampInv.erase (hs : StampInv s h) {id : SessionId} (hcounter : t.sharedSessionLRUCounter = s.sharedSessionLRUCounter)
    (htable : t.sessionList = s.sessionList.erase id) : StampInv t (h.tick s t) := by
  refine hs.calm hcounter fun k r hr hshared hnobody => ⟨r, ?_, hshared, hnobody, rfl⟩
  rw [htable, OrdMap.find?_erase] at hr
  split_ifs at hr
  exact hr

theorem stampInv_clean {W : World φ} (hst : CleanStep W s t) (hs : StampInv s h) : StampInv t (h.tick s t) := by
  cases hst with
  | env | applets | unload | uninstallPackage | closeFailed => exact hs.same rfl rfl
  | deadOwners hr hsub hdead stamp counter hstamp =>
    obtain ⟨p, hp, -⟩ := hdead
    exact hs.owners hr (List.ne_nil_of_mem hp) hstamp rfl rfl
  | events id eh q =>
    refine hs.calm rfl fun k r hr hshared hnobody => ?_
    rw [OrdMap.find?_modify] at hr
    split_ifs at hr with hk
    · obtain ⟨r', hr', rfl⟩ := Option.map_eq_some_iff.1 hr
      exact ⟨r', by rwa [hk], hshared, hnobody, rfl⟩
    · exact ⟨r, hr, hshared, hnobody, rfl⟩
  | closed => exact hs.erase rfl rfl

theorem stampInv_quiet {W : World φ} (hst : QuietStep W s t) (hs : StampInv s h) : StampInv t (h.tick s t) := by
  cases hst with
  | clean hst => exact stampInv_clean hst hs
  | exchange | ownersFull | openFailed | undone => exact hs.same rfl rfl
  | crashed => exact hs.erase rfl rfl
  | dropOwner hr hp stamp counter hstamp => exact hs.owners hr (List.ne_nil_of_mem hp) hstamp rfl rfl
  | addOwner hr hshared hlt p =>
    refine hs.calm rfl fun k r hr hshared hnobody => ?_
    rw [OrdMap.find?_modify] at hr
    split_ifs at hr with hk
    · -- the session has an owner now
      obtain ⟨r', -, rfl⟩ := Option.map_eq_some_iff.1 hr
      simp at hnobody
    · exact ⟨r, hr, hshared, hnobody, rfl⟩

theorem stampInv_move {W : World φ} (hst : Move W s t) (hs : StampInv s h) : StampInv t (h.tick s t) := by
  cases hst with
  | step hst =>
    cases hst with
    | quiet hst => exact stampInv_quiet hst hs
    | opened appId blob init flags p hret hnew hshared =>
      refine hs.calm rfl fun k r hr hshared hnobody => ?_
      rw [OrdMap.find?_insert] at hr
      split_ifs at hr with hk
      · rw [hnew] at hr
        cases hr
        simp [newRecord] at hnobody
      · exact ⟨r, hr, hshared, hnobody, rfl⟩
  | global hcounter _ htable =>
    rcases htable with htable | htable
    · exact hs.same hcounter htable
    · refine hs.calm hcounter fun k r hr _ _ => ?_
      rw [htable] at hr
      simp at hr

theorem Reached.stampInv {W : World φ} {e : φ} (hs : Reached W e s h) : StampInv s h := by
  induction hs with
  | start =>
    have hunused : ∀ id, unused (freshService e).sessionList id ≠ true := by
      intro id hid
      obtain ⟨r, hr, -⟩ := unused_iff.1 hid
      simp [freshService] at hr
    exact ⟨rfl, fun id _ _ hid => absurd hid (hunused id), fun id hid => absurd hid (hunused id),
      fun id _ hid => absurd hid (hunused id)⟩
  | move _ hst ih => exact stampInv_move hst ih

theorem Reached.serviceInv {W : World φ} {e : φ} (hs : Reached W e s h) : ServiceInv s := by
  induction hs with
  | start => exact ⟨TableInv.empty, fun _ h => by cases h⟩
  | @move s t h _ hst ih =>
    cases hst with
    | step hst => exact closed_serviceInv W s t hst ih
    | global _ hlog htable =>
      refine ⟨?_, hlog ▸ ih.ownersOfShared⟩
      rcases htable with htable | htable
      · exact htable ▸ ih.table
      · exact htable ▸ TableInv.empty

end Inv

/-! ### What is closed -/

/-- `TryRemoveUnusedSharedSession` may close the session. -/
def Eligible (t : SessionTable) (allowNonSharedSessions : Bool) (id : SessionId) : Prop :=
  ∃ r, t.find? id = some r ∧ r.shared = true ∧ r.ownersList = [] ∧
    (allowNonSharedSessions = true ∨ ∀ id' r', t.find? id' = some r' → r'.appId = r.appId → r'.shared = true)

/-- The order of the stamps is the order in which the sessions lost their last owners. -/
def StampsOrdered (s : Service φ) (h : History) : Prop :=
  ∀ id id' r r', s.sessionList.find? id = some r → s.sessionList.find? id' = some r' →
    unused s.sessionList id = true → unused s.sessionList id' = true →
    (r.lastUsedTime = r'.lastUsedTime → id = id') ∧ (r.lastUsedTime < r'.lastUsedTime ↔ h.left id < h.left id')

/-- The eligible session whose last owner left first. -/
def Oldest (t : SessionTable) (h : History) (allowNonSharedSessions : Bool) (id : SessionId) : Prop :=
  Eligible t allowNonSharedSessions id ∧
    ∀ id', Eligible t allowNonSharedSessions id' → id' ≠ id → h.left id < h.left id'

/-- `TryRemoveUnusedSharedSession` closes the eligible session whose last owner left first and leaves
the others alone; without a plugin the close fails. -/
structure EvictsOldest (W : World φ) (s : Service φ) (h : History) (allowNonSharedSessions : Bool) : Prop where
  nothing : (∀ id, ¬Eligible s.sessionList allowNonSharedSessions id) →
    (tryRemoveUnusedSharedSession W allowNonSharedSessions).exe s = (false, s)
  found : (∃ id, Eligible s.sessionList allowNonSharedSessions id) →
    ∃ id, Oldest s.sessionList h allowNonSharedSessions id
  result : ∀ id r, Oldest s.sessionList h allowNonSharedSessions id → s.sessionList.find? id = some r →
    ((tryRemoveUnusedSharedSession W allowNonSharedSessions).exe s).1 =
      (s.pluginRegistered && ((W.pluginCloseSession r.vmSessionHandle).exe s.env).1 = jhiSuccess)
  table : ∀ id r, Oldest s.sessionList h allowNonSharedSessions id → s.sessionList.find? id = some r →
    ((tryRemoveUnusedSharedSession W allowNonSharedSessions).exe s).2.sessionList =
      if s.pluginRegistered && closedInVm ((W.pluginCloseSession r.vmSessionHandle).exe s.env).1
      then s.sessionList.erase id else s.sessionList

theorem leastRecentlyUsed_spec (best : SessionId × UInt32) (cs : List (SessionId × UInt32)) :
    ∃ c ∈ best :: cs, leastRecentlyUsed best cs = c.1 ∧ ∀ c' ∈ best :: cs, c.2 ≤ c'.2 := by
  induction cs generalizing best with
  | nil => exact ⟨best, by simp, rfl, by simp⟩
  | cons d ds ih =>
    unfold leastRecentlyUsed
    split_ifs with hlt
    · obtain ⟨c, hc, heq, hmin⟩ := ih d
      refine ⟨c, List.mem_cons_of_mem _ hc, heq, ?_⟩
      intro c' hc'
      rcases List.mem_cons.1 hc' with rfl | hc'
      · exact UInt32.le_trans (hmin d (by simp)) (UInt32.le_of_lt hlt)
      · exact hmin c' hc'
    · obtain ⟨c, hc, heq, hmin⟩ := ih best
      have hdrop : ∀ c', c' ∈ best :: ds → c' ∈ best :: d :: ds := by
        intro c' hc'
        simp only [List.mem_cons] at hc' ⊢
        tauto
      refine ⟨c, hdrop c hc, heq, ?_⟩
      intro c' hc'
      simp only [List.mem_cons] at hc'
      rcases hc' with rfl | rfl | hc'
      · exact hmin c' (by simp)
      · exact UInt32.le_trans (hmin best (by simp)) (UInt32.not_lt.1 hlt)
      · exact hmin c' (by simp [hc'])

section Evict

variable {W : World φ} {s : Service φ} {h : History} {allow : Bool}

/-- Applet ids of records are in upper case, so the two comparisons of `TryRemoveUnusedSharedSession` agree. -/
theorem appletHasNonSharedSessions_eq_false {t : SessionTable} (ht : TableInv t) {id : SessionId} {r : SessionRecord}
    (hr : t.find? id = some r) : appletHasNonSharedSessions t r.appId = false ↔
      ∀ id' r', t.find? id' = some r' → r'.appId = r.appId → r'.shared = true := by
  have hupper : toUpperCase r.appId = r.appId := AppId.toUpperCase_text ⟨r.appId, ht.appId_valid id r hr⟩
  unfold appletHasNonSharedSessions
  rw [hupper, List.any_eq_false]
  constructor
  · intro hnone id' r' hr' happ
    have h' := hnone (id', r') (OrdMap.mem_entries_iff.2 hr')
    simpa [happ] using h'
  · intro hall e he
    have h' := hall e.1 e.2 (OrdMap.mem_entries_iff.1 he)
    simp only [Bool.and_eq_true, decide_eq_true_eq, Bool.not_eq_true', not_and, Bool.not_eq_false]
    exact fun happ => h' happ.symm

theorem mem_unusedSharedSessions {t : SessionTable} (ht : TableInv t) {c : SessionId × UInt32} :
    c ∈ unusedSharedSessions t allow ↔ Eligible t allow c.1 ∧ ∀ r, t.find? c.1 = some r → r.lastUsedTime = c.2 := by
  unfold unusedSharedSessions
  rw [List.mem_map]
  constructor
  · rintro ⟨e, he, rfl⟩
    obtain ⟨hmem, hcond⟩ := List.mem_filter.1 he
    have hr : t.find? e.1 = some e.2 := OrdMap.mem_entries_iff.1 hmem
    simp only [Bool.and_eq_true, Bool.or_eq_true, List.isEmpty_iff, Bool.not_eq_true'] at hcond
    obtain ⟨⟨hnobody, hshared⟩, hallow⟩ := hcond
    refine ⟨⟨e.2, hr, hshared, hnobody, ?_⟩, ?_⟩
    · rwa [appletHasNonSharedSessions_eq_false ht hr] at hallow
    · intro r hr'
      cases hr.symm.trans hr'
      rfl
  · rintro ⟨⟨r, hr, hshared, hnobody, hallow⟩, hstamp⟩
    refine ⟨(c.1, r), List.mem_filter.2 ⟨OrdMap.mem_entries_iff.2 hr, ?_⟩, ?_⟩
    · rw [← appletHasNonSharedSessions_eq_false ht hr] at hallow
      simp [hnobody, hshared, hallow]
    · rw [hstamp r hr]

theorem StampInv.ordered (hs : StampInv s h) (hfew : h.leavings < 2 ^ 32) : StampsOrdered s h := by
  intro id id' r r' hr hr' hid hid'
  have hlt := hs.before id hid
  have hlt' := hs.before id' hid'
  have hnat : r.lastUsedTime.toNat = 1 + h.left id := by
    rw [hs.stamp id r hr hid, UInt32.toNat_ofNat']
    omega
  have hnat' : r'.lastUsedTime.toNat = 1 + h.left id' := by
    rw [hs.stamp id' r' hr' hid', UInt32.toNat_ofNat']
    omega
  constructor
  · intro heq
    apply hs.distinct id id' hid hid'
    rw [heq] at hnat
    omega
  · rw [UInt32.lt_iff_toNat_lt, hnat, hnat']
    omega

theorem Eligible.unused {t : SessionTable} {id : SessionId} (h : Eligible t allow id) : unused t id = true := by
  obtain ⟨r, hr, hshared, hnobody, -⟩ := h
  exact unused_iff.2 ⟨r, hr, hshared, hnobody⟩

/-- With the stamps in order, the scan finds the session whose last owner left first. -/
theorem evictsOldest_of_ordered (ht : TableInv s.sessionList) (hord : StampsOrdered s h) : EvictsOldest W s h allow := by
  -- either nothing is eligible, or the scan finds the oldest
  have hscan : (∀ id, ¬Eligible s.sessionList allow id) ∧ (tryRemoveUnusedSharedSession W allow).exe s = (false, s) ∨
      ∃ id, Oldest s.sessionList h allow id ∧
        (tryRemoveUnusedSharedSession W allow).exe s = (closeInternally W id).exe s := by
    cases hlist : unusedSharedSessions s.sessionList allow with
    | nil =>
      refine Or.inl ⟨fun id hid => ?_, ?_⟩
      · obtain ⟨r, hr, hrest⟩ := hid
        have hmem : (id, r.lastUsedTime) ∈ unusedSharedSessions s.sessionList allow := by
          refine (mem_unusedSharedSessions ht).2 ⟨⟨r, hr, hrest⟩, ?_⟩
          intro r' hr'
          cases hr.symm.trans hr'
          rfl
        rw [hlist] at hmem
        cases hmem
      · simp only [tryRemoveUnusedSharedSession, exe_bind, exe_get, hlist, exe_pure]
    | cons c cs =>
      obtain ⟨d, hd, heq, hmin⟩ := leastRecentlyUsed_spec c cs
      rw [← hlist] at hd hmin
      obtain ⟨hel, hstamp⟩ := (mem_unusedSharedSessions ht).1 hd
      refine Or.inr ⟨d.1, ⟨hel, ?_⟩, ?_⟩
      · intro id' hel' hne
        obtain ⟨r, hr, -⟩ := id hel
        obtain ⟨r', hr', hrest'⟩ := id hel'
        obtain ⟨hinj, hlt⟩ := hord d.1 id' r r' hr hr' hel.unused hel'.unused
        rw [← hlt]
        have hmem : (id', r'.lastUsedTime) ∈ unusedSharedSessions s.sessionList allow := by
          refine (mem_unusedSharedSessions ht).2 ⟨hel', ?_⟩
          intro r₁ hr₁
          cases hr'.symm.trans hr₁
          rfl
        have hle : r.lastUsedTime ≤ r'.lastUsedTime := hstamp r hr ▸ hmin _ hmem
        exact UInt32.lt_of_le_of_ne hle fun heq => hne (hinj heq).symm
      · simp only [tryRemoveUnusedSharedSession, exe_bind, exe_get, hlist, heq]
  have hunique : ∀ id id', Oldest s.sessionList h allow id → Oldest s.sessionList h allow id' → id = id' := by
    intro id id' hid hid'
    by_contra hne
    have hlt := hid.2 id' hid'.1 (Ne.symm hne)
    have hlt' := hid'.2 id hid.1 hne
    omega
  have hclose : ∀ id r, Oldest s.sessionList h allow id → s.sessionList.find? id = some r →
      (tryRemoveUnusedSharedSession W allow).exe s = (closeInternally W id).exe s := by
    intro id r hid hr
    rcases hscan with ⟨hnone, -⟩ | ⟨id', hid', heq⟩
    · exact absurd hid.1 (hnone id)
    · rw [hunique id id' hid hid', heq]
  have hanswer : ∀ id r, Oldest s.sessionList h allow id → s.sessionList.find? id = some r →
      ((tryRemoveUnusedSharedSession W allow).exe s).1 =
        (s.pluginRegistered && ((W.pluginCloseSession r.vmSessionHandle).exe s.env).1 = jhiSuccess) ∧
      ((tryRemoveUnusedSharedSession W allow).exe s).2.sessionList =
        if s.pluginRegistered && closedInVm ((W.pluginCloseSession r.vmSessionHandle).exe s.env).1
        then s.sessionList.erase id else s.sessionList := by
    intro id r hid hr
    rw [hclose id r hid hr]
    have hactive := ht.active id r hr
    cases hreg : s.pluginRegistered with
    | false =>
      rw [closeInternally_unregistered hr hactive hreg]
      exact ⟨rfl, rfl⟩
    | true =>
      obtain ⟨log, heq⟩ := exe_closeInternally (W := W) hr hactive hreg (Prod.eta _).symm
      rw [heq]
      exact ⟨by simp, by simp⟩
  refine ⟨?_, ?_, fun id r hid hr => (hanswer id r hid hr).1, fun id r hid hr => (hanswer id r hid hr).2⟩
  · intro hnone
    rcases hscan with ⟨-, heq⟩ | ⟨id, hid, -⟩
    · exact heq
    · exact absurd hid.1 (hnone id)
  · rintro ⟨id, hid⟩
    rcases hscan with ⟨hnone, -⟩ | ⟨id', hid', -⟩
    · exact absurd hid (hnone id)
    · exact ⟨id', hid'⟩

end Evict

/-- **Least recently used.** Every run goes through reached states, and in every reached state before which shared
sessions lost their last owners fewer than `2^32` times, the stamps are in the order of these moments and
the eviction closes the session whose last owner left first. -/
theorem eviction_least_recently_used (W : World φ) (e : φ) :
    (∀ ops, ∃ h, Reached W e (runOps W ops (freshService e)) h) ∧
    ∀ s h, Reached W e s h → h.leavings < 2 ^ 32 → StampsOrdered s h ∧ ∀ allow, EvictsOldest W s h allow := by
  refine ⟨reached_runOps W e, fun s h hs hfew => ?_⟩
  have hord := hs.stampInv.ordered hfew
  exact ⟨hord, fun allow => evictsOldest_of_ordered hs.serviceInv.table hord⟩

/-- A shared session is opened and loses its owner. -/
def leaveOnce : List Op :=
  [.startUp .beihaiV2 [] OrdMap.empty, .call (.createSession exampleApplet 1 [] ⟨7, 0, 0⟩),
   .call (.closeSession (.replicate 0) ⟨7, 0, 0⟩ false)]

theorem reached_leaveOnce : ∃ h, Reached (World.quiet Unit) () (runOps (World.quiet Unit) leaveOnce (freshService ())) h ∧
    h.leavings < 2 ^ 32 := by
  have hstart : Move (World.quiet Unit) (freshService ()) (runOps (World.quiet Unit) (leaveOnce.take 1) (freshService ())) :=
    .global rfl rfl (.inl rfl)
  have hopen : Move (World.quiet Unit) (runOps (World.quiet Unit) (leaveOnce.take 1) (freshService ()))
      (runOps (World.quiet Unit) (leaveOnce.take 2) (freshService ())) :=
    .step (.opened _ exampleApplet (some [0]) [] 1 ⟨7, 0, 0⟩ rfl rfl fun _ => rfl)
  have hclose : Move (World.quiet Unit) (runOps (World.quiet Unit) (leaveOnce.take 2) (freshService ()))
      (runOps (World.quiet Unit) leaveOnce (freshService ())) := by
    have hr : (runOps (World.quiet Unit) (leaveOnce.take 2) (freshService ())).sessionList.find? (.replicate 0) =
        some (newRecord exampleApplet.text 1 (.replicate 0) 1 ⟨7, 0, 0⟩) := rfl
    exact .step (.quiet (.dropOwner _ hr (p := ⟨7, 0, 0⟩) List.mem_cons_self 1 2 rfl))
  exact ⟨_, ((Reached.start.move hstart).move hopen).move hclose, by decide +kernel⟩

/-- The theorem at that run. -/
theorem eviction_least_recently_used_once : ∃ h,
    Reached (World.quiet Unit) () (runOps (World.quiet Unit) leaveOnce (freshService ())) h ∧ h.leavings < 2 ^ 32 ∧
    StampsOrdered (runOps (World.quiet Unit) leaveOnce (freshService ())) h ∧
    ∀ allow, EvictsOldest (World.quiet Unit) (runOps (World.quiet Unit) leaveOnce (freshService ())) h allow := by
  obtain ⟨h, hs, hfew⟩ := reached_leaveOnce
  exact ⟨h, hs, hfew, (eviction_least_recently_used (World.quiet Unit) ()).2 _ h hs hfew⟩

/-! ### The counter wraps -/

/-- A world that numbers the sessions. -/
def numberingWorld : World UInt8 :=
  { World.quiet UInt8 with generateNewSessionId := fun n => (some (.replicate n), n + 1) }

def sharedRecord (appId : AppId) (id : SessionId) (stamp : UInt32) (owners : List ProcessInfo) : SessionRecord :=
  { newRecord appId.text 1 id 1 ⟨7, 0, 0⟩ with ownersList := owners, lastUsedTime := stamp }

/-- Two shared sessions of two applets. -/
def twoShared (counter stamp stamp' : UInt32) (owners owners' : List ProcessInfo) (log : List LogEntry) : Service UInt8 where
  sessionList := (OrdMap.empty.insert (SessionId.replicate 0) (sharedRecord exampleApplet (.replicate 0) stamp owners)).insert
    (SessionId.replicate 1) (sharedRecord (AppId.replicate 66 rfl) (.replicate 1) stamp' owners')
  sharedSessionLRUCounter := counter
  appletTable := OrdMap.empty
  vmType := .beihaiV2
  pluginRegistered := true
  appletsFolder := []
  env := 2
  log := log

def openBoth : List Op :=
  [.startUp .beihaiV2 [] OrdMap.empty, .call (.createSession exampleApplet 1 [] ⟨7, 0, 0⟩),
   .call (.createSession (AppId.replicate 66 rfl) 1 [] ⟨7, 0, 0⟩)]

/-- The second session loses its owner and gets it back. -/
def leaveAndReturn : List Op :=
  [.call (.closeSession (.replicate 1) ⟨7, 0, 0⟩ false),
   .call (.createSession (AppId.replicate 66 rfl) 1 [] ⟨7, 0, 0⟩)]

/-- The first session loses its owner, and then the second. -/
def closeBoth : List Op :=
  [.call (.closeSession (.replicate 0) ⟨7, 0, 0⟩ false), .call (.closeSession (.replicate 1) ⟨7, 0, 0⟩ false)]

theorem run_openBoth : runOps numberingWorld openBoth (freshService 0) = twoShared 1 0 0 [⟨7, 0, 0⟩] [⟨7, 0, 0⟩] [] := by
  rfl

theorem run_leaveAndReturn (c t t' : UInt32) (l : List LogEntry) : ∃ l',
    runOps numberingWorld leaveAndReturn (twoShared c t t' [⟨7, 0, 0⟩] [⟨7, 0, 0⟩] l) =
      twoShared (c + 1) t c [⟨7, 0, 0⟩] [⟨7, 0, 0⟩] l' :=
  ⟨_, by with_unfolding_all rfl⟩

theorem run_leaveAndReturn_replicate (n : Nat) (c t t' : UInt32) (l : List LogEntry) : ∃ t'' l',
    runOps numberingWorld (List.replicate n leaveAndReturn).flatten (twoShared c t t' [⟨7, 0, 0⟩] [⟨7, 0, 0⟩] l) =
      twoShared (c + UInt32.ofNat n) t t'' [⟨7, 0, 0⟩] [⟨7, 0, 0⟩] l' := by
  induction n generalizing c t' l with
  | zero =>
    refine ⟨t', l, ?_⟩
    have hzero : c + UInt32.ofNat 0 = c := UInt32.add_zero c
    rw [hzero]
    rfl
  | succ n ih =>
    obtain ⟨l₁, hround⟩ := run_leaveAndReturn c t t' l
    obtain ⟨t₂, l₂, hrest⟩ := ih (c + 1) c l₁
    refine ⟨t₂, l₂, ?_⟩
    rw [List.replicate_succ, List.flatten_cons, runOps, List.foldl_append]
    unfold runOps at hround hrest
    rw [hround, hrest, UInt32.ofNat_add, UInt32.add_comm (UInt32.ofNat n), ← UInt32.add_assoc]
    rfl

/-- The first session has owners until the counter is about to wrap. -/
def wrapOps : List Op := openBoth ++ (List.replicate (2 ^ 32 - 2) leaveAndReturn).flatten ++ closeBoth

theorem run_closeBoth (c t t' : UInt32) (l : List LogEntry) :
    runOps numberingWorld closeBoth (twoShared c t t' [⟨7, 0, 0⟩] [⟨7, 0, 0⟩] l) = twoShared (c + 1 + 1) c (c + 1) [] [] l := by
  with_unfolding_all rfl

theorem find?_twoShared (c t t' : UInt32) (o o' : List ProcessInfo) (l : List LogEntry) :
    (twoShared c t t' o o' l).sessionList.find? (.replicate 0) = some (sharedRecord exampleApplet (.replicate 0) t o) ∧
    (twoShared c t t' o o' l).sessionList.find? (.replicate 1) =
      some (sharedRecord (AppId.replicate 66 rfl) (.replicate 1) t' o') :=
  ⟨by with_unfolding_all rfl, by with_unfolding_all rfl⟩

theorem unused_twoShared (c t t' : UInt32) (o o' : List ProcessInfo) (l : List LogEntry) :
    unused (twoShared c t t' o o' l).sessionList (.replicate 0) = o.isEmpty ∧
    unused (twoShared c t t' o o' l).sessionList (.replicate 1) = o'.isEmpty := by
  unfold unused
  rw [(find?_twoShared c t t' o o' l).1, (find?_twoShared c t t' o o' l).2]
  exact ⟨by with_unfolding_all rfl, by with_unfolding_all rfl⟩

theorem reached_closeBoth {c t t' : UInt32} {l : List LogEntry} {h : History}
    (hs : Reached numberingWorld 0 (twoShared c t t' [⟨7, 0, 0⟩] [⟨7, 0, 0⟩] l) h) :
    ∃ h', Reached numberingWorld 0 (twoShared (c + 1 + 1) c (c + 1) [] [] l) h' ∧
      h'.left (.replicate 0) < h'.left (.replicate 1) := by
  have hfirst : Move numberingWorld (twoShared c t t' [⟨7, 0, 0⟩] [⟨7, 0, 0⟩] l)
      (twoShared (c + 1) c t' [] [⟨7, 0, 0⟩] l) := by
    have hstep := QuietStep.dropOwner (W := numberingWorld) _ (find?_twoShared c t t' [⟨7, 0, 0⟩] [⟨7, 0, 0⟩] l).1
      (p := ⟨7, 0, 0⟩) List.mem_cons_self c (c + 1) (by with_unfolding_all rfl)
    exact .step (.quiet hstep)
  have hsecond : Move numberingWorld (twoShared (c + 1) c t' [] [⟨7, 0, 0⟩] l)
      (twoShared (c + 1 + 1) c (c + 1) [] [] l) := by
    have hstep := QuietStep.dropOwner (W := numberingWorld) _ (find?_twoShared (c + 1) c t' [] [⟨7, 0, 0⟩] l).2
      (p := ⟨7, 0, 0⟩) List.mem_cons_self (c + 1) (c + 1 + 1) (by with_unfolding_all rfl)
    exact .step (.quiet hstep)
  refine ⟨_, (hs.move hfirst).move hsecond, ?_⟩
  have hkeys : (twoShared (c + 1) c t' [] [⟨7, 0, 0⟩] l).sessionList.keys = [SessionId.replicate 0, .replicate 1] := by
    with_unfolding_all rfl
  simp [History.tick, leaves, unused_twoShared, hkeys]

/-- After `2^32` leavings the stamps are out of order, and the eviction closes the session whose last owner left last. -/
theorem eviction_after_wrap : ∃ h, Reached numberingWorld 0 (runOps numberingWorld wrapOps (freshService 0)) h ∧
    ¬StampsOrdered (runOps numberingWorld wrapOps (freshService 0)) h ∧
    ¬EvictsOldest numberingWorld (runOps numberingWorld wrapOps (freshService 0)) h true := by
  obtain ⟨t', l, hrun⟩ := run_leaveAndReturn_replicate (2 ^ 32 - 2) 1 0 0 []
  have hcounter : (1 : UInt32) + UInt32.ofNat (2 ^ 32 - 2) = 0xFFFFFFFF := by decide
  have hshape : runOps numberingWorld (openBoth ++ (List.replicate (2 ^ 32 - 2) leaveAndReturn).flatten) (freshService 0) =
      twoShared 0xFFFFFFFF 0 t' [⟨7, 0, 0⟩] [⟨7, 0, 0⟩] l := by
    have hopen := run_openBoth
    unfold runOps at hopen hrun ⊢
    rw [List.foldl_append, hopen, hrun, hcounter]
  have hall : runOps numberingWorld wrapOps (freshService 0) = twoShared 1 0xFFFFFFFF 0 [] [] l := by
    have hclose := run_closeBoth 0xFFFFFFFF 0 t' l
    unfold runOps wrapOps at *
    rw [List.foldl_append, hshape, hclose]
    rfl
  obtain ⟨h₀, hs₀⟩ := reached_runOps numberingWorld 0 (openBoth ++ (List.replicate (2 ^ 32 - 2) leaveAndReturn).flatten)
  rw [hshape] at hs₀
  obtain ⟨h, hs, hleft⟩ := reached_closeBoth hs₀
  rw [hall]
  obtain ⟨hfind, hfind'⟩ := find?_twoShared 1 0xFFFFFFFF 0 [] [] l
  obtain ⟨hunused, hunused'⟩ := unused_twoShared 1 0xFFFFFFFF 0 [] [] l
  refine ⟨h, hs, fun hord => ?_, fun hold => ?_⟩
  · have hlt := (hord _ _ _ _ hfind hfind' hunused hunused').2.2 hleft
    exact absurd hlt (by decide : ¬(0xFFFFFFFF : UInt32) < 0)
  · have holdest : Oldest (twoShared 1 0xFFFFFFFF 0 [] [] l).sessionList h true (.replicate 0) := by
      refine ⟨⟨_, hfind, by with_unfolding_all rfl, rfl, .inl rfl⟩, fun id' hid' hne => ?_⟩
      obtain ⟨r, hr, -⟩ := hid'
      by_cases hid : id' = .replicate 1
      · rw [hid]
        exact hleft
      · unfold twoShared at hr
        rw [OrdMap.find?_insert, if_neg hid, OrdMap.find?_insert, if_neg hne] at hr
        cases hr
    -- the second session goes, and the first stays
    have htable := hold.table _ _ holdest hfind
    have hgone : ((tryRemoveUnusedSharedSession numberingWorld true).exe
        (twoShared 1 0xFFFFFFFF 0 [] [] l)).2.sessionList.find? (.replicate 1) = none := by
      with_unfolding_all rfl
    rw [htable, if_pos (by with_unfolding_all rfl), OrdMap.find?_erase, if_neg (by decide), hfind'] at hgone
    cases hgone

end DalHost

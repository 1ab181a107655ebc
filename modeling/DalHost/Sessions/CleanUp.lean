import DalHost.Sessions.TableInvariant

/-!
# The clean-up of dead owners

`ClearSessionsDeadOwners` and `ClearAbandonedNonSharedSessions` walk the session table while they
change it. For a liveness that does not change meanwhile, what they do is said exactly: which owners
go, which sessions are closed in the VM, in which order, and which records go with them.
-/

namespace DalHost

variable {φ : Type} (W : World φ)

/-! ### Dead owners -/

/-- The record after its dead owners left; the stamp changes when they were the last owners of a
shared session. -/
structure OwnersCleared (dead : ProcessInfo → Bool) (r r' : SessionRecord) : Prop where
  eq : r' = { r with ownersList := r.ownersList.filter fun p => !dead p, lastUsedTime := r'.lastUsedTime }
  stamp : r'.lastUsedTime = r.lastUsedTime ∨
    r.shared = true ∧ r.ownersList ≠ [] ∧ (r.ownersList.filter fun p => !dead p) = []

/-- The table after the dead owners of the sessions in `ids` left. -/
def DeadCleared (dead : ProcessInfo → Bool) (ids : List SessionId) (t t' : SessionTable) : Prop :=
  ∀ id, (t.find? id = none → t'.find? id = none) ∧
    ∀ r, t.find? id = some r → ∃ r', t'.find? id = some r' ∧ (id ∈ ids → OwnersCleared dead r r') ∧ (id ∉ ids → r' = r)

section Dead

variable {W} {dead : ProcessInfo → Bool} (hdead : ∀ p e, ((W.processIsDead p).exe e).1 = dead p)
include hdead

theorem removeDead_eq_filter (ps : List ProcessInfo) (e : φ) :
    ((removeDead W ps).exe e).1 = ps.filter fun p => !dead p := by
  induction ps generalizing e with
  | nil => rfl
  | cons p ps ih =>
    simp only [removeDead, exe_bind, exe_pure, hdead, ih]
    cases hp : dead p
    · rw [List.filter_cons_of_pos (by simp [hp])]
      rfl
    · rw [List.filter_cons_of_neg (by simp [hp])]
      rfl

omit hdead in
theorem length_filter_lt_iff (dead : ProcessInfo → Bool) (ps : List ProcessInfo) :
    (ps.filter fun p => !dead p).length < ps.length ↔ ∃ p ∈ ps, dead p = true := by
  rw [List.length_filter_lt_length_iff_exists]
  simp

omit hdead in
theorem ownersCleared_update {r : SessionRecord} (h : ∃ p ∈ r.ownersList, dead p = true) (counter : UInt32) :
    OwnersCleared dead r
      (updateSessionLastUsage { r with ownersList := r.ownersList.filter fun p => !dead p } counter).1 := by
  unfold updateSessionLastUsage
  split_ifs with hlast
  · refine ⟨rfl, .inr ⟨hlast.2, ?_, List.length_eq_zero_iff.1 hlast.1⟩⟩
    obtain ⟨p, hp, -⟩ := h
    exact List.ne_nil_of_mem hp
  · exact ⟨rfl, .inl rfl⟩

omit hdead in
theorem ownersCleared_self {r : SessionRecord} (h : ¬∃ p ∈ r.ownersList, dead p = true) : OwnersCleared dead r r := by
  have hfilter : (r.ownersList.filter fun p => !dead p) = r.ownersList := by
    rw [List.filter_eq_self]
    intro p hp
    rw [Bool.not_eq_true']
    by_contra hp'
    exact h ⟨p, hp, by simpa using hp'⟩
  exact ⟨by rw [hfilter], .inl rfl⟩

omit hdead in
theorem DeadCleared.of_record {t t' : SessionTable} {id : SessionId} (hother : ∀ k, k ≠ id → t'.find? k = t.find? k)
    (hnone : t.find? id = none → t'.find? id = none)
    (hsome : ∀ r, t.find? id = some r → ∃ r', t'.find? id = some r' ∧ OwnersCleared dead r r') :
    DeadCleared dead [id] t t' := by
  intro k
  by_cases hk : k = id
  · subst hk
    refine ⟨hnone, fun r hr => ?_⟩
    obtain ⟨r', hr', hclear⟩ := hsome r hr
    exact ⟨r', hr', fun _ => hclear, fun h => absurd List.mem_cons_self h⟩
  · rw [hother k hk]
    exact ⟨fun h => h, fun r hr => ⟨r, hr, fun h => absurd (List.mem_singleton.1 h) hk, fun _ => rfl⟩⟩

theorem clearSessionDeadOwners_exact (id : SessionId) (s : Service φ) :
    DeadCleared dead [id] s.sessionList ((clearSessionDeadOwners W id).exe s).2.sessionList ∧
      (((clearSessionDeadOwners W id).exe s).1 = true ↔
        ∃ r, s.sessionList.find? id = some r ∧ ∃ p ∈ r.ownersList, dead p = true) ∧
      ((clearSessionDeadOwners W id).exe s).2.pluginRegistered = s.pluginRegistered := by
  simp only [clearSessionDeadOwners, exe_bind, exe_get]
  cases hr : s.sessionList.find? id with
  | none => exact ⟨.of_record (fun _ _ => rfl) (fun h => h) (fun r hr' => by simp [hr] at hr'), by simp, rfl⟩
  | some r =>
    have hiff := length_filter_lt_iff dead r.ownersList
    simp only [exe_bind, exe_onEnv, exe_ite, exe_pure, removeDead_eq_filter hdead r.ownersList s.env]
    split_ifs with hlt
    · have hgone := hiff.1 hlt
      simp only [setOwners, exe_bind, exe_get, exe_modify]
      refine ⟨.of_record (fun k hk => ?_) (fun h => ?_) (fun r₁ hr₁ => ?_), by simpa using hgone, trivial⟩
      · rw [OrdMap.find?_modify, if_neg hk]
      · rw [hr] at h
        cases h
      · cases hr.symm.trans hr₁
        rw [OrdMap.find?_modify, if_pos rfl, hr]
        exact ⟨_, rfl, ownersCleared_update hgone _⟩
    · rw [hiff] at hlt
      refine ⟨.of_record (fun _ _ => rfl) (fun h => h) (fun r₁ hr₁ => ?_), by simpa using hlt, rfl⟩
      cases hr.symm.trans hr₁
      exact ⟨r, hr, ownersCleared_self hlt⟩

omit hdead in
theorem DeadCleared.find?_of_notMem {ids : List SessionId} {t t' : SessionTable} (h : DeadCleared dead ids t t')
    {id : SessionId} (hid : id ∉ ids) : t'.find? id = t.find? id := by
  cases ht : t.find? id with
  | none => exact (h id).1 ht
  | some r =>
    obtain ⟨r', hr', -, heq⟩ := (h id).2 r ht
    rw [hr', heq hid]

omit hdead in
theorem DeadCleared.cons {id : SessionId} {ids : List SessionId} {t u v : SessionTable} (hid : id ∉ ids)
    (htu : DeadCleared dead [id] t u) (huv : DeadCleared dead ids u v) : DeadCleared dead (id :: ids) t v := by
  intro k
  by_cases hk : k = id
  · subst hk
    rw [huv.find?_of_notMem hid]
    refine ⟨(htu k).1, fun r hr => ?_⟩
    obtain ⟨r', hr', hclear, -⟩ := (htu k).2 r hr
    exact ⟨r', hr', fun _ => hclear List.mem_cons_self, fun h => absurd List.mem_cons_self h⟩
  · rw [← htu.find?_of_notMem (by simpa using hk)]
    refine ⟨(huv k).1, fun r hr => ?_⟩
    obtain ⟨r', hr', hclear⟩ := (huv k).2 r hr
    refine ⟨r', hr', ?_⟩
    rwa [List.mem_cons, or_iff_right hk]

theorem iterate_clearSessionDeadOwners {ids : List SessionId} (hids : ids.Nodup) (s : Service φ) :
    DeadCleared dead ids s.sessionList ((iterateAny (clearSessionDeadOwners W) ids).exe s).2.sessionList ∧
      (((iterateAny (clearSessionDeadOwners W) ids).exe s).1 = true ↔
        ∃ id ∈ ids, ∃ r, s.sessionList.find? id = some r ∧ ∃ p ∈ r.ownersList, dead p = true) ∧
      ((iterateAny (clearSessionDeadOwners W) ids).exe s).2.pluginRegistered = s.pluginRegistered := by
  induction ids generalizing s with
  | nil => exact ⟨fun k => ⟨fun h => h, fun r hr => ⟨r, hr, fun h => by simp at h, fun _ => rfl⟩⟩, by simp [iterateAny], rfl⟩
  | cons id ids ih =>
    obtain ⟨hid, hids⟩ := List.nodup_cons.1 hids
    obtain ⟨hone, hanswer, hreg⟩ := clearSessionDeadOwners_exact hdead id s
    obtain ⟨hrest, hanswer', hreg'⟩ := ih hids ((clearSessionDeadOwners W id).exe s).2
    simp only [iterateAny, exe_bind, exe_pure]
    refine ⟨hone.cons hid hrest, ?_, hreg'.trans hreg⟩
    rw [Bool.or_eq_true, hanswer, hanswer', List.exists_mem_cons_iff]
    refine or_congr Iff.rfl (exists_congr fun k => and_congr_right fun hk => ?_)
    have hne : k ∉ [id] := by
      rw [List.mem_singleton]
      rintro rfl
      exact hid hk
    rw [hone.find?_of_notMem hne]

theorem clearSessionsDeadOwners_exact {s : Service φ} (hs : TableInv s.sessionList) :
    (∀ id, (s.sessionList.find? id = none → ((clearSessionsDeadOwners W).exe s).2.sessionList.find? id = none) ∧
        ∀ r, s.sessionList.find? id = some r →
          ∃ r', ((clearSessionsDeadOwners W).exe s).2.sessionList.find? id = some r' ∧ OwnersCleared dead r r') ∧
      (((clearSessionsDeadOwners W).exe s).1 = true ↔
        ∃ id r, s.sessionList.find? id = some r ∧ ∃ p ∈ r.ownersList, dead p = true) ∧
      ((clearSessionsDeadOwners W).exe s).2.pluginRegistered = s.pluginRegistered := by
  -- the ids in the records are the keys
  have hkeys : (s.sessionList.entries.map fun e => e.2.sessionId) = s.sessionList.entries.map Prod.fst := by
    refine List.map_congr_left fun e he => ?_
    exact hs.key_eq e.1 e.2 (OrdMap.mem_entries_iff.1 he)
  have hmem : ∀ id r, s.sessionList.find? id = some r → id ∈ s.sessionList.entries.map Prod.fst := by
    intro id r hr
    exact List.mem_map.2 ⟨(id, r), OrdMap.mem_entries_iff.2 hr, rfl⟩
  have hloop := iterate_clearSessionDeadOwners hdead (W := W) s.sessionList.nodup_keys s
  simp only [clearSessionsDeadOwners, exe_bind, exe_get, hkeys]
  obtain ⟨hclear, hanswer, hreg⟩ := hloop
  refine ⟨fun id => ⟨(hclear id).1, fun r hr => ?_⟩, ?_, hreg⟩
  · obtain ⟨r', hr', heq, -⟩ := (hclear id).2 r hr
    exact ⟨r', hr', heq (hmem id r hr)⟩
  · rw [hanswer]
    exact ⟨fun ⟨id, _, r, h⟩ => ⟨id, r, h⟩, fun ⟨id, r, hr, h⟩ => ⟨id, hmem id r hr, r, hr, h⟩⟩

end Dead

/-! ### Abandoned sessions -/

/-- What the VM answers when sessions are closed one after the other. -/
def closeAnswers : List VmHandle → φ → List JhiRet
  | [], _ => []
  | h :: hs, e => ((W.pluginCloseSession h).exe e).1 :: closeAnswers hs ((W.pluginCloseSession h).exe e).2

/-- The sessions of a clean-up: private ones without an owner, in the order of their ids. -/
def abandonedSessions (t : SessionTable) : List (SessionId × SessionRecord) :=
  t.entries.filter fun e => e.2.ownersList.isEmpty && !e.2.shared

/-- The VM was asked to close the session and answered `ret`. -/
def CloseAnswered (s : Service φ) (id : SessionId) (ret : JhiRet) : Prop :=
  s.pluginRegistered = true ∧ (id, ret) ∈ ((abandonedSessions s.sessionList).map Prod.fst).zip
    (closeAnswers W ((abandonedSessions s.sessionList).map fun e => e.2.vmSessionHandle) s.env)

section Abandoned

variable {W}

theorem exe_finishClose {s : Service φ} {id : SessionId} (hpres : isSessionPresent s.sessionList id = true) (force : Bool)
    (ret : JhiRet) : (finishClose id force ret).exe s =
      (ret, if closedInVm ret then
          { s with
            sessionList := s.sessionList.erase id
            log := s.log ++ [⟨.removeSession id, s.sessionList, s.appletTable⟩] }
        else s) := by
  have hremove : (remove id).exe s = (true, { s with
      sessionList := s.sessionList.erase id
      log := s.log ++ [⟨.removeSession id, s.sessionList, s.appletTable⟩] }) := by
    simp only [remove, exe_bind, exe_get, hpres, if_true, exe_record, exe_modifySessions, exe_pure]
  simp only [finishClose, exe_ite, exe_pure, exe_bind, hremove, Bool.not_true, Bool.false_and, Bool.false_eq_true, if_false]
  split_ifs <;> rfl

theorem closeBranch_none {t : SessionTable} {id : SessionId} {r : SessionRecord} (hr : t.find? id = some r)
    (hactive : r.state = .active) : closeBranch t id none false = .removal := by
  simp [closeBranch, getSessionInfo, hr, hactive]

theorem exe_closeInternally {s : Service φ} {id : SessionId} {r : SessionRecord} (hr : s.sessionList.find? id = some r)
    (hactive : r.state = .active) (hreg : s.pluginRegistered = true) {ret : JhiRet} {e : φ}
    (hclose : (W.pluginCloseSession r.vmSessionHandle).exe s.env = (ret, e)) :
    ∃ log, (closeInternally W id).exe s = (decide (ret = jhiSuccess), { s with
      env := e
      log := log
      sessionList := if closedInVm ret then s.sessionList.erase id else s.sessionList }) := by
  have hpres : isSessionPresent s.sessionList id = true := OrdMap.contains_iff.2 ⟨r, hr⟩
  have hbranch := closeBranch_none hr hactive
  have hhandle : getVMSessionHandle s.sessionList id = some r.vmSessionHandle := by
    simp [getVMSessionHandle, hr]
  have hend := exe_finishClose (s := { s with env := e }) hpres false ret
  refine ⟨if closedInVm ret then s.log ++ [⟨.removeSession id, s.sessionList, s.appletTable⟩] else s.log, ?_⟩
  simp only [closeInternally, jhisCloseSession, exe_bind, exe_get, hbranch, closeRemoval, hpres, hhandle, hreg,
    Bool.not_true, Bool.and_false, Bool.false_and, Bool.false_eq_true, if_false, if_true, exe_onEnv, pluginClose, hclose,
    exe_pure]
  simp only [hreg] at hend
  rw [hend]
  split_ifs <;> rfl

theorem closeInternally_unregistered {s : Service φ} {id : SessionId} {r : SessionRecord}
    (hr : s.sessionList.find? id = some r) (hactive : r.state = .active) (hreg : s.pluginRegistered = false) :
    (closeInternally W id).exe s = (false, s) := by
  have hpres : isSessionPresent s.sessionList id = true := OrdMap.contains_iff.2 ⟨r, hr⟩
  have hhandle : getVMSessionHandle s.sessionList id = some r.vmSessionHandle := by
    simp [getVMSessionHandle, hr]
  have hclosed : closedInVm jhiNoConnectionToFirmware = false := by decide
  have hne : decide (jhiNoConnectionToFirmware = jhiSuccess) = false := by decide
  simp only [closeInternally, jhisCloseSession, exe_bind, exe_get, closeBranch_none hr hactive, closeRemoval, hpres,
    hhandle, hreg, Bool.not_true, Bool.and_false, Bool.not_false, Bool.false_eq_true, if_false, if_true, finishClose,
    hclosed, exe_pure, hne]

/-- The table without the sessions that the VM closed. -/
structure ClosedRemoved (answers : List (SessionId × JhiRet)) (t t' : SessionTable) : Prop where
  gone : ∀ id ret, (id, ret) ∈ answers → closedInVm ret = true → t'.find? id = none
  kept : ∀ id, (∀ ret, (id, ret) ∈ answers → closedInVm ret = false) → t'.find? id = t.find? id

/-- The abandoned sessions are closed one after the other; each is still there when its turn comes. -/
theorem iterate_closeInternally {es : List (SessionId × SessionRecord)} (hnodup : (es.map Prod.fst).Nodup)
    {s : Service φ} (hes : ∀ e ∈ es, s.sessionList.find? e.1 = some e.2 ∧ e.2.state = .active)
    (hreg : s.pluginRegistered = true) :
    ClosedRemoved ((es.map Prod.fst).zip (closeAnswers W (es.map fun e => e.2.vmSessionHandle) s.env)) s.sessionList
        ((iterateAny (closeInternally W) (es.map Prod.fst)).exe s).2.sessionList ∧
      (((iterateAny (closeInternally W) (es.map Prod.fst)).exe s).1 = true ↔
        jhiSuccess ∈ closeAnswers W (es.map fun e => e.2.vmSessionHandle) s.env) := by
  induction es generalizing s with
  | nil => exact ⟨⟨fun id ret h => by simp at h, fun _ _ => rfl⟩, by simp [iterateAny, closeAnswers]⟩
  | cons e es ih =>
    obtain ⟨hfresh, hnodup⟩ := List.nodup_cons.1 hnodup
    obtain ⟨hr, hactive⟩ := hes e List.mem_cons_self
    obtain ⟨ret, env, hclose⟩ : ∃ ret env, (W.pluginCloseSession e.2.vmSessionHandle).exe s.env = (ret, env) := ⟨_, _, rfl⟩
    obtain ⟨log, heq⟩ := exe_closeInternally (W := W) hr hactive hreg hclose
    have hother : ∀ id, id ≠ e.1 → (if closedInVm ret then s.sessionList.erase e.1 else s.sessionList).find? id =
        s.sessionList.find? id := by
      intro id hid
      split_ifs
      · rw [OrdMap.find?_erase, if_neg hid]
      · rfl
    have hes' : ∀ e' ∈ es, (if closedInVm ret then s.sessionList.erase e.1 else s.sessionList).find? e'.1 = some e'.2 ∧
        e'.2.state = .active := by
      intro e' he'
      have hne : e'.1 ≠ e.1 := fun h => hfresh (List.mem_map.2 ⟨e', he', h⟩)
      rw [hother _ hne]
      exact hes e' (List.mem_cons_of_mem e he')
    obtain ⟨hremoved, hanswer⟩ := ih hnodup (s := { s with
      env := env
      log := log
      sessionList := if closedInVm ret then s.sessionList.erase e.1 else s.sessionList }) hes' hreg
    -- the session just closed is not asked about again
    have hlast : ∀ ret', (e.1, ret') ∉ (es.map Prod.fst).zip (closeAnswers W (es.map fun e => e.2.vmSessionHandle) env) :=
      fun ret' h => hfresh (List.of_mem_zip h).1
    simp only [List.map_cons, iterateAny, exe_bind, exe_pure, heq, closeAnswers, hclose, List.zip_cons_cons]
    refine ⟨⟨fun id ret' hmem hclosed => ?_, fun id hkept => ?_⟩, ?_⟩
    · rcases List.mem_cons.1 hmem with h | h
      · rw [Prod.mk.injEq] at h
        obtain ⟨rfl, rfl⟩ := h
        rw [hremoved.kept e.1 fun ret'' h => absurd h (hlast ret'')]
        simp only [hclosed, if_true]
        rw [OrdMap.find?_erase, if_pos rfl]
      · exact hremoved.gone id ret' h hclosed
    · rw [hremoved.kept id fun ret' h => hkept ret' (List.mem_cons_of_mem _ h)]
      by_cases hid : id = e.1
      · subst hid
        have hopen := hkept ret List.mem_cons_self
        simp only [hopen, Bool.false_eq_true, if_false]
      · exact hother id hid
    · rw [Bool.or_eq_true, hanswer, List.mem_cons, decide_eq_true_eq]
      exact or_congr eq_comm Iff.rfl

theorem iterate_closeInternally_unregistered {es : List (SessionId × SessionRecord)} {s : Service φ}
    (hes : ∀ e ∈ es, s.sessionList.find? e.1 = some e.2 ∧ e.2.state = .active) (hreg : s.pluginRegistered = false) :
    (iterateAny (closeInternally W) (es.map Prod.fst)).exe s = (false, s) := by
  induction es with
  | nil => rfl
  | cons e es ih =>
    obtain ⟨hr, hactive⟩ := hes e List.mem_cons_self
    simp only [List.map_cons, iterateAny, exe_bind, exe_pure, closeInternally_unregistered (W := W) hr hactive hreg,
      ih fun e' he' => hes e' (List.mem_cons_of_mem e he'), Bool.or_false]

theorem length_closeAnswers (hs : List VmHandle) (e : φ) : (closeAnswers W hs e).length = hs.length := by
  induction hs generalizing e with
  | nil => rfl
  | cons h hs ih => simp only [closeAnswers, List.length_cons, ih]

theorem mem_closeAnswers_iff {es : List (SessionId × SessionRecord)} {ret : JhiRet} {e : φ} :
    ret ∈ closeAnswers W (es.map fun e => e.2.vmSessionHandle) e ↔
      ∃ id, (id, ret) ∈ (es.map Prod.fst).zip (closeAnswers W (es.map fun e => e.2.vmSessionHandle) e) := by
  have hlen : (es.map Prod.fst).length = (closeAnswers W (es.map fun e => e.2.vmSessionHandle) e).length := by
    rw [length_closeAnswers, List.length_map, List.length_map]
  constructor
  · intro h
    rw [← List.map_snd_zip hlen.ge] at h
    obtain ⟨p, hp, rfl⟩ := List.mem_map.1 h
    exact ⟨p.1, hp⟩
  · rintro ⟨id, h⟩
    exact (List.of_mem_zip h).2

theorem mem_abandonedSessions {t : SessionTable} {e : SessionId × SessionRecord} :
    e ∈ abandonedSessions t ↔ t.find? e.1 = some e.2 ∧ e.2.ownersList = [] ∧ e.2.shared = false := by
  rw [abandonedSessions, List.mem_filter, OrdMap.mem_entries_iff]
  simp

theorem clearAbandonedNonSharedSessions_exact {s : Service φ} (hactive : ∀ id r, s.sessionList.find? id = some r →
      r.state = .active) :
    (∀ id ret, CloseAnswered W s id ret → closedInVm ret = true →
        ((clearAbandonedNonSharedSessions W).exe s).2.sessionList.find? id = none) ∧
      (∀ id, (∀ ret, CloseAnswered W s id ret → closedInVm ret = false) →
        ((clearAbandonedNonSharedSessions W).exe s).2.sessionList.find? id = s.sessionList.find? id) ∧
      (((clearAbandonedNonSharedSessions W).exe s).1 = true ↔ ∃ id, CloseAnswered W s id jhiSuccess) := by
  have hes : ∀ e ∈ abandonedSessions s.sessionList, s.sessionList.find? e.1 = some e.2 ∧ e.2.state = .active := by
    intro e he
    obtain ⟨hr, -⟩ := mem_abandonedSessions.1 he
    exact ⟨hr, hactive e.1 e.2 hr⟩
  have hnodup : ((abandonedSessions s.sessionList).map Prod.fst).Nodup :=
    (List.filter_sublist.map Prod.fst).nodup s.sessionList.nodup_keys
  have hprog : (clearAbandonedNonSharedSessions W).exe s =
      (iterateAny (closeInternally W) ((abandonedSessions s.sessionList).map Prod.fst)).exe s := rfl
  rw [hprog]
  cases hreg : s.pluginRegistered with
  | false =>
    have hnot : ∀ id ret, ¬CloseAnswered W s id ret := by
      intro id ret h
      have hyes := h.1
      simp [hreg] at hyes
    rw [iterate_closeInternally_unregistered hes hreg]
    exact ⟨fun id ret h => absurd h (hnot id ret), fun _ _ => rfl, by simp [hnot]⟩
  | true =>
    obtain ⟨hremoved, hanswer⟩ := iterate_closeInternally (W := W) hnodup hes hreg
    refine ⟨fun id ret h => hremoved.gone id ret h.2, fun id h => hremoved.kept id fun ret h' => h ret ⟨hreg, h'⟩, ?_⟩
    rw [hanswer, mem_closeAnswers_iff]
    exact exists_congr fun id => ⟨fun h => ⟨hreg, h⟩, fun h => h.2⟩

end Abandoned

/-! ### Both together -/

/-- What the clean-up of the table `t` is to do: `t₁` and `t₂` are the tables after its two parts,
`removed` and `closed` their answers, and `answered` says what the VM was asked and answered. -/
structure CleanUpSpec (dead : ProcessInfo → Bool) (answered : SessionId → JhiRet → Prop) (t t₁ t₂ : SessionTable)
    (removed closed : Bool) : Prop where
  absent : ∀ id, t.find? id = none → t₁.find? id = none
  owners : ∀ id r, t.find? id = some r → ∃ r', t₁.find? id = some r' ∧ OwnersCleared dead r r'
  removed_iff : removed = true ↔ ∃ id r, t.find? id = some r ∧ ∃ p ∈ r.ownersList, dead p = true
  asked : ∀ id ret, answered id ret → ∃ r, t₁.find? id = some r ∧ r.ownersList = [] ∧ r.shared = false
  gone : ∀ id ret, answered id ret → closedInVm ret = true → t₂.find? id = none
  kept : ∀ id, (∀ ret, answered id ret → closedInVm ret = false) → t₂.find? id = t₁.find? id
  spared : ∀ id r, t.find? id = some r → (r.shared = true ∨ ∃ p ∈ r.ownersList, dead p = false) →
    t₂.find? id = t₁.find? id
  closed_iff : closed = true ↔ ∃ id, answered id jhiSuccess

/-- `ClearSessionsDeadOwners` and then `ClearAbandonedNonSharedSessions` do so in the state `s`. -/
def CleansUp (dead : ProcessInfo → Bool) (s : Service φ) : Prop :=
  CleanUpSpec dead (CloseAnswered W ((clearSessionsDeadOwners W).exe s).2) s.sessionList
    ((clearSessionsDeadOwners W).exe s).2.sessionList
    ((clearAbandonedNonSharedSessions W).exe ((clearSessionsDeadOwners W).exe s).2).2.sessionList
    ((clearSessionsDeadOwners W).exe s).1
    ((clearAbandonedNonSharedSessions W).exe ((clearSessionsDeadOwners W).exe s).2).1

/-- **The clean-up is exact.** -/
theorem clean_up_exact (dead : ProcessInfo → Bool) (hdead : ∀ p e, ((W.processIsDead p).exe e).1 = dead p)
    (s : Service φ) (hs : TableInv s.sessionList) : CleansUp W dead s := by
  unfold CleansUp
  obtain ⟨howners, hremoved, -⟩ := clearSessionsDeadOwners_exact hdead hs
  generalize (clearSessionsDeadOwners W).exe s = r₁ at howners hremoved ⊢
  have hactive : ∀ id r, r₁.2.sessionList.find? id = some r → r.state = .active := by
    intro id r hr
    cases ht : s.sessionList.find? id with
    | none =>
      rw [(howners id).1 ht] at hr
      cases hr
    | some r₀ =>
      obtain ⟨r', hr', hcleared⟩ := (howners id).2 r₀ ht
      cases hr'.symm.trans hr
      rw [hcleared.eq]
      exact hs.active id r₀ ht
  obtain ⟨hgone, hkept, hclosed⟩ := clearAbandonedNonSharedSessions_exact (W := W) hactive
  have hasked : ∀ id ret, CloseAnswered W r₁.2 id ret →
      ∃ r, r₁.2.sessionList.find? id = some r ∧ r.ownersList = [] ∧ r.shared = false := by
    intro id ret h
    obtain ⟨e, he, rfl⟩ := List.mem_map.1 (List.of_mem_zip h.2).1
    obtain ⟨hr, hnobody, hprivate⟩ := mem_abandonedSessions.1 he
    exact ⟨e.2, hr, hnobody, hprivate⟩
  refine ⟨fun id => (howners id).1, fun id => (howners id).2, hremoved, hasked, hgone, hkept, ?_, hclosed⟩
  intro id r hr hspared
  refine hkept id fun ret h => ?_
  -- a shared session, or one with a living owner, is not closed
  exfalso
  obtain ⟨r', hr', hnobody, hprivate⟩ := hasked id ret h
  obtain ⟨r'', hr'', hcleared⟩ := (howners id).2 r hr
  cases hr'.symm.trans hr''
  rw [hcleared.eq] at hnobody hprivate
  rcases hspared with hshared | ⟨p, hp, halive⟩
  · change r.shared = false at hprivate
    rw [hshared] at hprivate
    cases hprivate
  · have hmem : p ∈ r.ownersList.filter fun p => !dead p := List.mem_filter.2 ⟨hp, by simp [halive]⟩
    change (r.ownersList.filter fun p => !dead p) = [] at hnobody
    rw [hnobody] at hmem
    cases hmem

/-- The sessions are numbered, and so are their handles in the VM. -/
def livingWorld : World UInt8 :=
  { World.quiet UInt8 with
    generateNewSessionId := fun n => (some (.replicate n), n + 1)
    pluginCreateSession := fun _ _ _ _ n => ((jhiSuccess, n.toUInt64), n) }

/-- Process 7 has died, and the VM does not close the session with the handle 2. -/
def oneDeadWorld : World UInt8 :=
  { livingWorld with
    processIsDead := fun p => pure (p = ⟨7, 0, 0⟩)
    pluginCloseSession := fun h => pure (if h = 2 then jhiInternalError else jhiSuccess) }

/-- Three private sessions, two of them of process 7, and one that it shares with process 8. -/
def fourSessions : List Op :=
  [.startUp .beihaiV2 [] OrdMap.empty, .call (.createSession exampleApplet 0 [] ⟨7, 0, 0⟩),
    .call (.createSession exampleApplet 0 [] ⟨7, 0, 0⟩), .call (.createSession exampleApplet 0 [] ⟨8, 0, 0⟩),
    .call (.createSession exampleApplet 1 [] ⟨7, 0, 0⟩), .call (.createSession exampleApplet 1 [] ⟨8, 0, 0⟩)]

/-- The first session goes, the second one stays without owners. -/
theorem clean_up_exact_oneDead :
    let s := runOps livingWorld fourSessions (freshService 0)
    CleansUp oneDeadWorld (fun p => p = ⟨7, 0, 0⟩) s ∧
      (((clearAbandonedNonSharedSessions oneDeadWorld).exe
        ((clearSessionsDeadOwners oneDeadWorld).exe s).2).2.sessionList.entries.map fun e => (e.1, e.2.ownersList)) =
      [(.replicate 1, []), (.replicate 2, [⟨8, 0, 0⟩]), (.replicate 3, [⟨8, 0, 0⟩])] :=
  ⟨clean_up_exact oneDeadWorld (fun p => p = ⟨7, 0, 0⟩) (fun _ _ => rfl) _
    (serviceInv_runOps livingWorld fourSessions 0).table, by decide +kernel⟩

end DalHost

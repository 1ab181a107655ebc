import DalHost.Client.HandleStates
import DalHost.Lib.Calls
import Mathlib.Data.List.TakeWhile

/-!
# Which handles the client library accepts

The accepted handles are described by the history of the calls alone: an application handle while more initialisations
than deinitialisations followed its creation (`AppDue`), a session handle from its creation until the service reports the
session gone or the application handle is released (`SessionDue`). `handle_state_machine` says that the checks of the library
agree with this description after every sequence of calls.
-/

namespace DalHost

/-! ### Histories -/

def initializations (l : List HandleEvent) : Nat := l.countP fun e => e.initialized.isSome

def deinitializations (l : List HandleEvent) : Nat := l.countP fun e => e.deinitialized

/-- The history since the application handle was created. -/
def sinceCreation (h : Nat) (l : List HandleEvent) : List HandleEvent := l.dropWhile fun e => e.initialized ≠ some h

/-- The application handle was created, and since then there have been more initialisations than deinitialisations at any time. -/
def AppDue (h : Nat) (l : List HandleEvent) : Prop :=
  sinceCreation h l ≠ [] ∧
    ∀ done, done <+: sinceCreation h l → done ≠ [] → deinitializations done < initializations done

/-- The session was created with this application handle, and since then no call ended it. -/
def SessionOpen (h p : Nat) (l : List HandleEvent) : Prop :=
  ∃ before e after, l = before ++ e :: after ∧ e.created = some (h, p) ∧ ∀ e' ∈ after, ¬e'.Ends p

/-- The session is open, and its application handle was not released. -/
def SessionDue (p : Nat) (l : List HandleEvent) : Prop := ∃ h, SessionOpen h p l ∧ AppDue h l

/-! ### Histories that grow -/

section Histories

variable {l : List HandleEvent} {e : HandleEvent} {h p : Nat}

theorem initializations_concat :
    initializations (l ++ [e]) = initializations l + if e.initialized.isSome then 1 else 0 := by
  unfold initializations
  rw [List.countP_append, List.countP_singleton]

theorem deinitializations_concat :
    deinitializations (l ++ [e]) = deinitializations l + if e.deinitialized then 1 else 0 := by
  unfold deinitializations
  rw [List.countP_append, List.countP_singleton]

theorem sinceCreation_eq_nil : sinceCreation h l = [] ↔ ∀ e ∈ l, e.initialized ≠ some h := by
  unfold sinceCreation
  rw [List.dropWhile_eq_nil_iff]
  simp

theorem sinceCreation_concat (hne : sinceCreation h l ≠ []) : sinceCreation h (l ++ [e]) = sinceCreation h l ++ [e] := by
  unfold sinceCreation at hne ⊢
  rw [List.dropWhile_append, if_neg]
  rwa [List.isEmpty_iff]

theorem sinceCreation_first (hnil : sinceCreation h l = []) (he : e.initialized = some h) : sinceCreation h (l ++ [e]) = [e] := by
  unfold sinceCreation at hnil ⊢
  rw [List.dropWhile_append, hnil]
  simp [he]

theorem AppDue.concat (hdue : AppDue h l)
    (hcount : deinitializations (sinceCreation h l ++ [e]) < initializations (sinceCreation h l ++ [e])) : AppDue h (l ++ [e]) := by
  obtain ⟨hne, hall⟩ := hdue
  unfold AppDue
  rw [sinceCreation_concat hne]
  refine ⟨by simp, fun done hdone hnil => ?_⟩
  rcases List.prefix_concat_iff.1 hdone with rfl | hdone
  · exact hcount
  · exact hall done hdone hnil

/-- A handle that is due after a call was due before it, or was created by it. -/
theorem AppDue.of_concat (hdue : AppDue h (l ++ [e])) :
    (AppDue h l ∧ deinitializations (sinceCreation h l ++ [e]) < initializations (sinceCreation h l ++ [e])) ∨
      e.initialized = some h := by
  obtain ⟨hne, hall⟩ := hdue
  by_cases hnil : sinceCreation h l = []
  · refine .inr (Classical.byContradiction fun he => hne ?_)
    rw [sinceCreation_eq_nil] at hnil ⊢
    intro e' he'
    rcases List.mem_append.1 he' with he' | he'
    · exact hnil e' he'
    · rw [List.mem_singleton.1 he']
      exact he
  · rw [sinceCreation_concat hnil] at hall
    refine .inl ⟨⟨hnil, fun done hdone => hall done (hdone.trans (List.prefix_append _ _))⟩, hall _ List.prefix_rfl (by simp)⟩

theorem sessionOpen_concat : SessionOpen h p (l ++ [e]) ↔ e.created = some (h, p) ∨ (SessionOpen h p l ∧ ¬e.Ends p) := by
  constructor
  · rintro ⟨before, e', after, heq, hcreated, hkept⟩
    rcases List.eq_nil_or_concat after with rfl | ⟨after, last, hlast⟩
    · obtain ⟨-, he⟩ := List.append_inj' heq rfl
      cases he
      exact .inl hcreated
    · rw [List.concat_eq_append] at hlast
      subst hlast
      rw [← List.cons_append, ← List.append_assoc] at heq
      obtain ⟨hl, he⟩ := List.append_inj' heq rfl
      cases he
      refine .inr ⟨⟨before, e', after, hl, hcreated, fun x hx => hkept x (List.mem_append_left _ hx)⟩, ?_⟩
      exact hkept _ (List.mem_append_right _ (List.mem_singleton.2 rfl))
  · rintro (hcreated | ⟨⟨before, e', after, rfl, hcreated, hkept⟩, hends⟩)
    · exact ⟨l, e, [], rfl, hcreated, fun _ hx => by cases hx⟩
    · refine ⟨before, e', after ++ [e], by simp, hcreated, fun x hx => ?_⟩
      rcases List.mem_append.1 hx with hx | hx
      · exact hkept x hx
      · rw [List.mem_singleton.1 hx]
        exact hends

end Histories

/-! ### The handles and the history -/

/-- The accepted handles are those that the history describes. -/
structure HistoryInv (T : Option HandleTable) (l : List HandleEvent) : Prop where
  total : initializations l = deinitializations l + T.elim 0 fun t => t.count.toNat
  due : ∀ h, AppDue h l ↔ ∃ t, T = some t ∧ t.ptr = h
  count : ∀ t, T = some t → 0 < t.count.toNat ∧
    initializations (sinceCreation t.ptr l) = deinitializations (sinceCreation t.ptr l) + t.count.toNat
  sessions : ∀ t, T = some t → ∀ p, p ∈ t.sessions ↔ SessionOpen t.ptr p l

section Inv

variable {l : List HandleEvent} {e : HandleEvent} {t : HandleTable}

theorem historyInv_nil : HistoryInv none [] where
  total := rfl
  due h := by
    constructor
    · rintro ⟨hne, -⟩
      exact absurd rfl hne
    · rintro ⟨t, ht, -⟩
      cases ht
  count _ ht := by cases ht
  sessions _ ht := by cases ht

theorem HistoryInv.goOn (hinv : HistoryInv (some t) l) (hinit : e.initialized = none ∨ e.initialized = some t.ptr) (t' : HandleTable)
    (hptr : t'.ptr = t.ptr) (hpos : 0 < t'.count.toNat)
    (hcount : t.count.toNat + (if e.initialized.isSome then 1 else 0) = (if e.deinitialized then 1 else 0) + t'.count.toNat)
    (hsessions : ∀ p, p ∈ t'.sessions ↔ e.created = some (t.ptr, p) ∨ (p ∈ t.sessions ∧ ¬e.Ends p)) :
    HistoryInv (some t') (l ++ [e]) := by
  have hdue : AppDue t.ptr l := (hinv.due t.ptr).2 ⟨t, rfl, rfl⟩
  obtain ⟨-, hsince⟩ := hinv.count t rfl
  have hsince' : initializations (sinceCreation t.ptr l ++ [e]) = deinitializations (sinceCreation t.ptr l ++ [e]) + t'.count.toNat := by
    rw [initializations_concat, deinitializations_concat]
    omega
  refine ⟨?_, fun h => ?_, ?_, ?_⟩
  · have htotal := hinv.total
    rw [initializations_concat, deinitializations_concat]
    simp only [Option.elim_some] at htotal ⊢
    omega
  · constructor
    · intro hdue'
      refine ⟨t', rfl, ?_⟩
      rw [hptr]
      rcases hdue'.of_concat with ⟨hdue', -⟩ | he
      · obtain ⟨u, hu, rfl⟩ := (hinv.due h).1 hdue'
        cases hu
        rfl
      · rcases hinit with hinit | hinit
        · rw [hinit] at he
          cases he
        · rw [hinit] at he
          exact Option.some.inj he
    · rintro ⟨u, hu, rfl⟩
      cases hu
      rw [hptr]
      exact hdue.concat (by omega)
  · rintro _ ⟨⟩
    rw [hptr, sinceCreation_concat hdue.1]
    exact ⟨hpos, hsince'⟩
  · rintro _ ⟨⟩ p
    rw [hptr, sessionOpen_concat, hsessions p, hinv.sessions t rfl p]

theorem historyInv_step {T T' : Option HandleTable} (hinv : HistoryInv T l) (hstep : TableStep e T T')
    (hfew : initializations (l ++ [e]) < deinitializations (l ++ [e]) + 2 ^ 32)
    (hfresh : ∀ h, T = none → e.initialized = some h → ∀ e' ∈ l, e'.initialized ≠ some h ∧ ∀ p, e'.created ≠ some (h, p)) :
    HistoryInv T' (l ++ [e]) := by
  cases hstep with
  | kept _ hinit hdeinit hcreated hends =>
    cases T with
    | none =>
      refine ⟨?_, fun h => ?_, fun _ ht => (by cases ht), fun _ ht => by cases ht⟩
      · rw [initializations_concat, deinitializations_concat, hinit, hdeinit]
        exact hinv.total
      · constructor
        · intro hdue
          rcases hdue.of_concat with ⟨hdue, -⟩ | he
          · exact (hinv.due h).1 hdue
          · rw [hinit] at he
            cases he
        · rintro ⟨u, hu, -⟩
          cases hu
    | some t =>
      refine hinv.goOn (.inl hinit) t rfl (hinv.count t rfl).1 ?_ fun p => ?_
      · rw [hinit, hdeinit]
        simp
      · rw [hcreated]
        simp [hends p]
  | made h hinit hdeinit hcreated hends =>
    have hnew := hfresh h rfl hinit
    have hnil : sinceCreation h l = [] := sinceCreation_eq_nil.2 fun e' he' => (hnew e' he').1
    have hsince := sinceCreation_first hnil hinit
    have hone : initializations [e] = 1 ∧ deinitializations [e] = 0 := by
      unfold initializations deinitializations
      rw [List.countP_singleton, List.countP_singleton, hinit, hdeinit]
      exact ⟨rfl, rfl⟩
    refine ⟨?_, fun h' => ?_, ?_, ?_⟩
    · have htotal := hinv.total
      rw [initializations_concat, deinitializations_concat, hinit, hdeinit, htotal]
      rfl
    · constructor
      · intro hdue
        rcases hdue.of_concat with ⟨hdue, -⟩ | he
        · obtain ⟨u, hu, -⟩ := (hinv.due h').1 hdue
          cases hu
        · rw [hinit] at he
          exact ⟨_, rfl, Option.some.inj he⟩
      · rintro ⟨u, hu, rfl⟩
        cases hu
        unfold AppDue
        rw [hsince]
        refine ⟨by simp, fun done hdone hne => ?_⟩
        rcases List.prefix_cons_iff.1 hdone with hnil | ⟨rest, hrest, hnil⟩
        · exact absurd hnil hne
        rw [hrest, List.prefix_nil.1 hnil]
        rw [hone.1, hone.2]
        exact Nat.one_pos
    · rintro _ ⟨⟩
      rw [hsince, hone.1, hone.2]
      exact ⟨Nat.one_pos, rfl⟩
    · rintro _ ⟨⟩ p
      rw [sessionOpen_concat, hcreated]
      constructor
      · intro hp
        cases hp
      · rintro (hnone | ⟨⟨before, e', after, rfl, hcreated', -⟩, -⟩)
        · cases hnone
        · exact absurd hcreated' ((hnew e' (by simp)).2 p)
  | again t hinit hdeinit hcreated hends =>
    have hcount : (t.count + 1).toNat = t.count.toNat + 1 := by
      have htotal := hinv.total
      rw [initializations_concat, deinitializations_concat, hinit, hdeinit] at hfew
      simp only [Option.elim_some, Option.isSome_some, if_true, Bool.false_eq_true, if_false] at htotal hfew
      rw [UInt32.toNat_add, UInt32.toNat_one, Nat.mod_eq_of_lt (by omega)]
    refine hinv.goOn (.inr hinit) { t with count := t.count + 1 } rfl ?_ ?_ fun p => ?_
    · rw [hcount]
      exact Nat.succ_pos _
    · rw [hinit, hdeinit, hcount]
      simp
    · rw [hcreated]
      simp [hends p]
  | left t hpos hinit hdeinit hcreated hends =>
    have hcount : (t.count - 1).toNat = t.count.toNat - 1 :=
      UInt32.toNat_sub_of_le _ _ (UInt32.le_iff_toNat_le.2 (hinv.count t rfl).1)
    have hpos' : 0 < (t.count - 1).toNat := UInt32.lt_iff_toNat_lt.1 hpos
    refine hinv.goOn (.inl hinit) { t with count := t.count - 1 } rfl hpos' ?_ fun p => ?_
    · rw [hinit, hdeinit]
      simp only [Option.isSome_none, Bool.false_eq_true, if_false, if_true]
      omega
    · rw [hcreated]
      simp [hends p]
  | released t hzero hinit hdeinit hcreated hends =>
    have hone : t.count.toNat = 1 := by
      have hcount : (t.count - 1).toNat = t.count.toNat - 1 :=
        UInt32.toNat_sub_of_le _ _ (UInt32.le_iff_toNat_le.2 (hinv.count t rfl).1)
      rw [hzero] at hcount
      have hpos := (hinv.count t rfl).1
      simp only [UInt32.toNat_zero] at hcount
      omega
    obtain ⟨-, hsince⟩ := hinv.count t rfl
    refine ⟨?_, fun h => ?_, fun _ ht => (by cases ht), fun _ ht => by cases ht⟩
    · have htotal := hinv.total
      rw [initializations_concat, deinitializations_concat, hinit, hdeinit, htotal]
      simp [hone]
    · constructor
      · intro hdue
        rcases hdue.of_concat with ⟨hdue, hlt⟩ | he
        · obtain ⟨u, hu, rfl⟩ := (hinv.due h).1 hdue
          cases hu
          rw [initializations_concat, deinitializations_concat, hinit, hdeinit, hsince, hone] at hlt
          simp at hlt
        · rw [hinit] at he
          cases he
      · rintro ⟨u, hu, -⟩
        cases hu
  | opened t p hinit hdeinit hcreated hends =>
    refine hinv.goOn (.inl hinit) { t with sessions := t.sessions ++ [p] } rfl (hinv.count t rfl).1 ?_ fun q => ?_
    · rw [hinit, hdeinit]
      simp
    · rw [hcreated]
      simp [hends q, or_comm, eq_comm]
  | ended t p hmem hinit hdeinit hcreated hends =>
    refine hinv.goOn (.inl hinit) { t with sessions := t.sessions.filter fun q => q ≠ p } rfl (hinv.count t rfl).1 ?_ fun q => ?_
    · rw [hinit, hdeinit]
      simp
    · rw [hcreated, hends q]
      simp

end Inv

/-! ### Runs -/

/-- The library and the calls so far. -/
structure HandleRun where
  lib : JhiLib
  history : List HandleEvent

namespace HandleRun

/-- Before the first call. -/
def start (memory : Nat → ISessionHandle) : HandleRun := ⟨⟨none, memory, 0, []⟩, []⟩

variable (A : Addresses)

def event (c : JhiCall × LibAnswers) (r : HandleRun) : HandleEvent := ⟨c.1, (c.1.exec A c.2 r.lib).1⟩

def call (c : JhiCall × LibAnswers) (r : HandleRun) : HandleRun := ⟨(c.1.exec A c.2 r.lib).2, r.history ++ [event A c r]⟩

/-- The initialisations that no deinitialisation has answered are fewer than `2^32`. -/
def Few (r : HandleRun) : Prop := initializations r.history < deinitializations r.history + 2 ^ 32

/-- The calls that change the accepted handles: one that creates the application handle or a session handle, one that releases the
application handle, and one that ends a session. -/
def Changes (c : JhiCall × LibAnswers) (r : HandleRun) : Prop :=
  (∃ h, (event A c r).initialized = some h ∧ r.lib.validateJHIhandle h = false) ∨
  ((event A c r).deinitialized = true ∧
    initializations (r.call A c).history = deinitializations (r.call A c).history) ∨
  (event A c r).created ≠ none ∨ ∃ p, (event A c r).Ends p

/-- The accepted handles agree with the history, other calls do not change them, and no struct is freed twice, or freed
without having been allocated, or freed while its handle is accepted. -/
structure Agrees (r : HandleRun) : Prop where
  app : ∀ h, r.lib.validateJHIhandle h = true ↔ AppDue h r.history
  session : ∀ p, r.lib.sessionHandleValid p = true ↔ SessionDue p r.history
  others : ∀ c, ¬r.Changes A c → (∀ h, (r.call A c).lib.validateJHIhandle h = r.lib.validateJHIhandle h) ∧
    ∀ p, (r.call A c).lib.sessionHandleValid p = r.lib.sessionHandleValid p
  freed_once : r.lib.freed.Nodup
  freed_allocated : ∀ p ∈ r.lib.freed, ∃ i < r.lib.allocations, p = A.addr i
  freed_not_accepted : ∀ p ∈ r.lib.freed, r.lib.validateJHIhandle p = false ∧ r.lib.sessionHandleValid p = false

/-- The ledger, the history, and that every application handle of the history has been given out. -/
structure Inv (r : HandleRun) : Prop where
  ledger : Ledger A r.lib
  history : HistoryInv r.lib.table r.history
  known : ∀ e ∈ r.history, ∀ h, (e.initialized = some h ∨ ∃ p, e.created = some (h, p)) → ∃ i < r.lib.allocations, h = A.addr i

variable {A} {r : HandleRun}

theorem inv_start (memory : Nat → ISessionHandle) : (start memory).Inv A where
  ledger := ⟨fun _ ha => (by cases ha), List.nodup_nil, fun _ hp => by cases hp⟩
  history := historyInv_nil
  known _ he := by cases he

/-- The application handle that a call returns or uses was there before or is there now. -/
theorem handle_of_step {e : HandleEvent} {T T' : Option HandleTable} (hstep : TableStep e T T') {h : Nat}
    (he : e.initialized = some h ∨ ∃ p, e.created = some (h, p)) :
    (∃ t, T = some t ∧ t.ptr = h) ∨ ∃ t, T' = some t ∧ t.ptr = h := by
  cases hstep with
  | kept _ hinit _ hcreated => simp [hinit, hcreated] at he
  | made g hinit _ hcreated =>
    simp only [hinit, hcreated, Option.some.injEq, reduceCtorEq, exists_false, or_false] at he
    exact .inr ⟨_, rfl, he⟩
  | again t hinit _ hcreated =>
    simp only [hinit, hcreated, Option.some.injEq, reduceCtorEq, exists_false, or_false] at he
    exact .inl ⟨t, rfl, he⟩
  | left _ _ hinit _ hcreated => simp [hinit, hcreated] at he
  | released _ _ hinit _ hcreated => simp [hinit, hcreated] at he
  | opened t p hinit _ hcreated =>
    simp only [hinit, hcreated, Option.some.injEq, Prod.mk.injEq, reduceCtorEq, false_or] at he
    obtain ⟨_, he, -⟩ := he
    exact .inl ⟨t, rfl, he⟩
  | ended _ _ _ hinit _ hcreated => simp [hinit, hcreated] at he

theorem mem_live_of_table {s : JhiLib} {t : HandleTable} (hs : Ledger A s) (ht : s.table = some t) :
    t.ptr ∈ s.live ∧ ∀ p ∈ t.sessions, p ∈ s.live := by
  cases ha : s.appHandle with
  | none =>
    rw [(table_eq_none_iff hs).2 ha] at ht
    cases ht
  | some a =>
    obtain ⟨l, -, hlive, htable⟩ := hs.handle ha
    rw [htable] at ht
    cases ht
    rw [hlive]
    exact ⟨List.mem_cons_self, fun p hp => List.mem_cons_of_mem _ (List.mem_cons_of_mem _ hp)⟩

theorem ptr_given {s : JhiLib} {t : HandleTable} (hs : Ledger A s) (ht : s.table = some t) :
    ∃ i < s.allocations, t.ptr = A.addr i := hs.given t.ptr (List.mem_append_right _ (mem_live_of_table hs ht).1)

theorem inv_call (c : JhiCall × LibAnswers) (r : HandleRun) (h : r.Inv A) (hfew : (r.call A c).Few) : (r.call A c).Inv A := by
  have hspec : CallSpec A r.lib (event A c r) (r.call A c).lib := exec_spec h.ledger c.1
  refine ⟨hspec.ledger, historyInv_step h.history hspec.step hfew fun g hnone hinit e' he' => ?_, fun e he g hg => ?_⟩
  · -- the new address is of no handle before
    obtain ⟨hg, -⟩ := hspec.fresh g hnone hinit
    have hnew : ¬∃ i < r.lib.allocations, g = A.addr i := by
      rintro ⟨i, hi, heq⟩
      rw [hg] at heq
      rw [A.injective _ _ heq] at hi
      exact Nat.lt_irrefl _ hi
    exact ⟨fun hinit' => hnew (h.known e' he' g (.inl hinit')), fun p hp => hnew (h.known e' he' g (.inr ⟨p, hp⟩))⟩
  · rcases List.mem_append.1 he with he | he
    · obtain ⟨i, hi, heq⟩ := h.known e he g hg
      exact ⟨i, Nat.lt_of_lt_of_le hi hspec.allocations, heq⟩
    · rw [List.mem_singleton.1 he] at hg
      rcases handle_of_step hspec.step hg with ⟨t, ht, rfl⟩ | ⟨t, ht, rfl⟩
      · obtain ⟨i, hi, heq⟩ := ptr_given h.ledger ht
        exact ⟨i, Nat.lt_of_lt_of_le hi hspec.allocations, heq⟩
      · exact ptr_given hspec.ledger ht

theorem same_of_step {e : HandleEvent} {T T' : Option HandleTable} {l : List HandleEvent} (hinv : HistoryInv T l)
    (hstep : TableStep e T T') (hinit : ∀ h, e.initialized = some h → ∃ t, T = some t ∧ t.ptr = h)
    (hdeinit : e.deinitialized = true → initializations (l ++ [e]) ≠ deinitializations (l ++ [e])) (hcreated : e.created = none)
    (hends : ∀ p, ¬e.Ends p) :
    (∀ h, (∃ t, T' = some t ∧ t.ptr = h) ↔ ∃ t, T = some t ∧ t.ptr = h) ∧
      ∀ p, (∃ t, T' = some t ∧ p ∈ t.sessions) ↔ ∃ t, T = some t ∧ p ∈ t.sessions := by
  -- a table with the same pointer and the same sessions
  have hsame : ∀ t t' : HandleTable, t'.ptr = t.ptr → t'.sessions = t.sessions →
      (∀ h, (∃ u, some t' = some u ∧ u.ptr = h) ↔ ∃ u, some t = some u ∧ u.ptr = h) ∧
        ∀ p, (∃ u, some t' = some u ∧ p ∈ u.sessions) ↔ ∃ u, some t = some u ∧ p ∈ u.sessions := by
    intro t t' hptr hsessions
    simp [hptr, hsessions]
  cases hstep with
  | kept => exact ⟨fun _ => Iff.rfl, fun _ => Iff.rfl⟩
  | made h hmade =>
    obtain ⟨t, ht, -⟩ := hinit h hmade
    cases ht
  | again t => exact hsame _ _ rfl rfl
  | left t => exact hsame _ _ rfl rfl
  | released t hzero hnone hdone =>
    refine absurd ?_ (hdeinit hdone)
    obtain ⟨hpos, -⟩ := hinv.count t rfl
    have hcount := UInt32.toNat_sub_of_le t.count 1 (UInt32.le_iff_toNat_le.2 hpos)
    have htotal := hinv.total
    rw [hzero, UInt32.toNat_zero, UInt32.toNat_one] at hcount
    rw [initializations_concat, deinitializations_concat, hnone, hdone, htotal]
    simp only [Option.elim_some, Option.isSome_none, Bool.false_eq_true, if_false, if_true]
    omega
  | opened t p _ _ hopened =>
    rw [hcreated] at hopened
    cases hopened
  | ended t p _ _ _ _ hended => exact absurd ((hended p).2 rfl) (hends p)

theorem Inv.others (h : r.Inv A) (c : JhiCall × LibAnswers) (hc : ¬r.Changes A c) :
    (∀ h, (r.call A c).lib.validateJHIhandle h = r.lib.validateJHIhandle h) ∧
      ∀ p, (r.call A c).lib.sessionHandleValid p = r.lib.sessionHandleValid p := by
  have hspec : CallSpec A r.lib (event A c r) (r.call A c).lib := exec_spec h.ledger c.1
  unfold Changes at hc
  simp only [not_or] at hc
  obtain ⟨hinit, hdeinit, hcreated, hends⟩ := hc
  obtain ⟨hptr, hsessions⟩ := same_of_step h.history hspec.step
    (fun g hg => by
      rw [← validateJHIhandle_iff h.ledger, ← Bool.not_eq_false]
      exact fun hfalse => hinit ⟨g, hg, hfalse⟩)
    (fun hdone heq => hdeinit ⟨hdone, heq⟩) (not_not.1 hcreated) fun p hp => hends ⟨p, hp⟩
  refine ⟨fun g => Bool.eq_iff_iff.2 ?_, fun p => Bool.eq_iff_iff.2 ?_⟩
  · rw [validateJHIhandle_iff hspec.ledger, validateJHIhandle_iff h.ledger]
    exact hptr g
  · rw [sessionHandleValid_iff hspec.ledger, sessionHandleValid_iff h.ledger]
    exact hsessions p

theorem Inv.agrees (h : r.Inv A) : r.Agrees A where
  app g := by
    rw [validateJHIhandle_iff h.ledger]
    exact (h.history.due g).symm
  session p := by
    rw [sessionHandleValid_iff h.ledger]
    constructor
    · rintro ⟨t, ht, hp⟩
      exact ⟨t.ptr, (h.history.sessions t ht p).1 hp, (h.history.due t.ptr).2 ⟨t, ht, rfl⟩⟩
    · rintro ⟨g, hopen, hdue⟩
      obtain ⟨t, ht, rfl⟩ := (h.history.due g).1 hdue
      exact ⟨t, ht, (h.history.sessions t ht p).2 hopen⟩
  others := h.others
  freed_once := (List.nodup_append.1 h.ledger.nodup).1
  freed_allocated p hp := h.ledger.given p (List.mem_append_left _ hp)
  freed_not_accepted p hp := by
    have hnot : p ∉ r.lib.live := fun hlive => (List.nodup_append.1 h.ledger.nodup).2.2 p hp p hlive rfl
    constructor
    · rw [← Bool.not_eq_true, validateJHIhandle_iff h.ledger]
      rintro ⟨t, ht, rfl⟩
      exact hnot (mem_live_of_table h.ledger ht).1
    · rw [← Bool.not_eq_true, sessionHandleValid_iff h.ledger]
      rintro ⟨t, ht, hmem⟩
      exact hnot ((mem_live_of_table h.ledger ht).2 p hmem)

end HandleRun

/-- After every sequence of calls with fewer than `2^32` outstanding initialisations the library accepts exactly the handles that
the history describes. -/
theorem handle_state_machine (A : Addresses) (memory : Nat → ISessionHandle) (calls : List (JhiCall × LibAnswers))
    (hfew : Along (HandleRun.call A) (fun _ r => r.Few) calls (.start memory)) :
    Along (HandleRun.call A) (fun _ r => r.Agrees A) calls (.start memory) := by
  intro done hdone
  have hnever : Never (HandleRun.call A) (fun c r => ¬(r.call A c).Few) done (.start memory) := by
    intro before c hbefore hnot
    refine hnot ?_
    rw [← afterCalls_concat (HandleRun.call A)]
    exact hfew _ (hbefore.trans hdone)
  exact (invariant_of_never (fun c r hr hno => HandleRun.inv_call c r hr (not_not.1 hno)) (HandleRun.inv_start memory) hnever).agrees

theorem HandleRun.length_history (A : Addresses) (calls : List (JhiCall × LibAnswers)) (r : HandleRun) :
    (afterCalls (HandleRun.call A) calls r).history.length = r.history.length + calls.length := by
  induction calls generalizing r with
  | nil => rfl
  | cons c calls ih =>
    rw [afterCalls_cons, ih]
    show (r.history ++ [r.event A c]).length + calls.length = _
    rw [List.length_append, List.length_singleton, List.length_cons]
    omega

theorem HandleRun.along_few (A : Addresses) (memory : Nat → ISessionHandle) {calls : List (JhiCall × LibAnswers)}
    (h : calls.length < 2 ^ 32) : Along (HandleRun.call A) (fun _ r => r.Few) calls (.start memory) := by
  intro done hdone
  have hlength := HandleRun.length_history A done (.start memory)
  have hinits : initializations (afterCalls (HandleRun.call A) done (.start memory)).history ≤ _ := List.countP_le_length
  have hshort := hdone.length_le
  rw [hlength] at hinits
  have hnil : (HandleRun.start memory).history.length = 0 := rfl
  unfold HandleRun.Few
  omega

/-! ### A session that died -/

def countedAddresses : Addresses := ⟨fun i => i + 1, fun _ _ h => Nat.succ.inj h, Nat.succ_ne_zero⟩

/-- Everything succeeds, but a command finds that its applet crashed. -/
def crashingAnswers : LibAnswers where
  allocHandle := true
  allocList := true
  allocNeedToEnd := true
  allocEvent := true
  processInfo := some ⟨7, 0, 0⟩
  uuid := none
  createEvent := true
  createThread := true
  isCreated _ := true
  service request := if request.commandId = .sendAndRecieve then jhiAppletFatal else jhiSuccess
  sessionID := .replicate 0

def emptySession : ISessionHandle := ⟨SessionId.replicate 0, false, false, false, false, 0, ⟨0, 0, 0⟩⟩

/-- An application initialises the library twice, sends a command to a session, and leaves. -/
def crashedSession : List (JhiCall × LibAnswers) :=
  [(.jhiInitialize true, crashingAnswers), (.jhiInitialize true, crashingAnswers),
    (.createSession 1 (some ⟨List.replicate 32 48, by decide⟩) 0 none true, crashingAnswers),
    (.sendAndRecv2 1 3 0 (some (⟨none, 0⟩, ⟨none, 0⟩)), crashingAnswers), (.deinit 1, crashingAnswers), (.deinit 1, crashingAnswers)]

theorem handle_state_machine_crashed :
    crashedSession.length < 2 ^ 32 ∧
    (afterCalls (HandleRun.call countedAddresses) (crashedSession.take 3) (.start fun _ => emptySession)).lib.sessionHandleValid 3 = true ∧
    (afterCalls (HandleRun.call countedAddresses) crashedSession (.start fun _ => emptySession)).lib.freed = [3, 2, 1] ∧
    Along (HandleRun.call countedAddresses) (fun _ r => r.Agrees countedAddresses) crashedSession (.start fun _ => emptySession) :=
  ⟨by decide, by decide +kernel, by decide +kernel,
    handle_state_machine countedAddresses _ crashedSession (HandleRun.along_few _ _ (by decide))⟩

end DalHost

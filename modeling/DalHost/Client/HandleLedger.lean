import DalHost.Client.Handles
import Mathlib.Data.List.Perm.Basic
import Mathlib.Data.List.Nodup

/-!
# What the client library has allocated and freed

`Ledger` is the invariant of the structs: what is in use and what was freed are different addresses, each given out once.
The handles that are accepted are read off it (`validateJHIhandle_iff`, `sessionHandleValid_iff`), and the functions that free
structs keep it.
-/

namespace DalHost

/-! ### Tables and ledgers -/

/-- The handles that are accepted: the application handle with its count, and the session handles. -/
structure HandleTable where
  ptr : Nat
  count : UInt32
  sessions : List Nat

def IHandle.table (a : IHandle) : Option HandleTable := a.sessionsList.map fun l => ⟨a.ptr, a.referenceCount, l.items⟩

/-- The structs that a handle keeps in use. -/
def IHandle.structs (a : IHandle) : List Nat := a.ptr :: (a.sessionsList.elim [] fun l => l.ptr :: l.items)

namespace JhiLib

def table (s : JhiLib) : Option HandleTable := s.appHandle.bind IHandle.table

def live (s : JhiLib) : List Nat := s.appHandle.elim [] IHandle.structs

end JhiLib

structure Ledger (A : Addresses) (s : JhiLib) : Prop where
  shape : ∀ a, s.appHandle = some a → a.sessionsList.isSome = true
  nodup : (s.freed ++ s.live).Nodup
  given : ∀ p ∈ s.freed ++ s.live, ∃ i < s.allocations, p = A.addr i

section Ledger

variable {A : Addresses} {s s' : JhiLib}

theorem Ledger.congr (h : Ledger A s) (happ : s'.appHandle = s.appHandle) (halloc : s.allocations ≤ s'.allocations)
    (hfreed : s'.freed = s.freed) : Ledger A s' := by
  have hlive : s'.live = s.live := by
    unfold JhiLib.live
    rw [happ]
  refine ⟨?_, ?_, ?_⟩
  · rw [happ]
    exact h.shape
  · rw [hfreed, hlive]
    exact h.nodup
  · rw [hfreed, hlive]
    intro p hp
    obtain ⟨i, hi, rfl⟩ := h.given p hp
    exact ⟨i, by omega, rfl⟩

theorem Ledger.perm (h : Ledger A s) (hshape : ∀ a, s'.appHandle = some a → a.sessionsList.isSome = true)
    (halloc : s'.allocations = s.allocations) (hperm : (s'.freed ++ s'.live).Perm (s.freed ++ s.live)) : Ledger A s' := by
  refine ⟨hshape, hperm.nodup_iff.2 h.nodup, fun p hp => ?_⟩
  rw [halloc]
  exact h.given p (hperm.mem_iff.1 hp)

theorem Ledger.next_not_mem (h : Ledger A s) : A.addr s.allocations ∉ s.freed ++ s.live := by
  intro hmem
  obtain ⟨i, hi, heq⟩ := h.given _ hmem
  rw [A.injective _ _ heq] at hi
  omega

theorem Ledger.dealloc (h : Ledger A s) {p i : Nat} (hnew : p ∉ s.freed ++ s.live) (hi : i < s.allocations)
    (hp : p = A.addr i) : Ledger A (s.dealloc p) := by
  have hne : p ≠ 0 := by
    rw [hp]
    exact A.ne_null i
  unfold JhiLib.dealloc
  rw [if_neg hne]
  refine ⟨h.shape, ?_, ?_⟩
  · show (s.freed ++ [p] ++ s.live).Nodup
    rw [List.append_assoc]
    exact List.nodup_middle.2 (List.nodup_cons.2 ⟨hnew, h.nodup⟩)
  · intro q hq
    have hq' : q ∈ s.freed ++ [p] ++ s.live := hq
    rw [List.append_assoc, List.mem_append, List.singleton_append, List.mem_cons] at hq'
    rcases hq' with hq' | rfl | hq'
    · exact h.given q (List.mem_append_left _ hq')
    · exact ⟨i, hi, hp⟩
    · exact h.given q (List.mem_append_right _ hq')

theorem Ledger.handle (h : Ledger A s) {a : IHandle} (ha : s.appHandle = some a) :
    ∃ l, a.sessionsList = some l ∧ s.live = a.ptr :: l.ptr :: l.items ∧ s.table = some ⟨a.ptr, a.referenceCount, l.items⟩ := by
  obtain ⟨l, hl⟩ := Option.isSome_iff_exists.1 (h.shape a ha)
  refine ⟨l, hl, ?_, ?_⟩
  · simp only [JhiLib.live, ha, Option.elim_some, IHandle.structs, hl]
  · simp only [JhiLib.table, ha, Option.bind_some, IHandle.table, hl, Option.map_some]

theorem Ledger.ne_null (h : Ledger A s) {p : Nat} (hp : p ∈ s.live) : p ≠ 0 := by
  obtain ⟨i, -, rfl⟩ := h.given p (List.mem_append_right _ hp)
  exact A.ne_null i

end Ledger

/-! ### The checks -/

section Checks

variable {A : Addresses} {s : JhiLib}

theorem validateJHIhandle_iff (h : Ledger A s) {handle : Nat} :
    s.validateJHIhandle handle = true ↔ ∃ t, s.table = some t ∧ t.ptr = handle := by
  unfold JhiLib.validateJHIhandle
  cases ha : s.appHandle with
  | none => simp [JhiLib.table, ha]
  | some a =>
    obtain ⟨l, -, hlive, htable⟩ := h.handle ha
    have hne := h.ne_null (p := a.ptr) (by rw [hlive]; exact List.mem_cons_self)
    rw [htable]
    simp only [Option.any_some, Bool.and_eq_true, decide_eq_true_eq, Option.some.injEq, exists_eq_left']
    constructor
    · exact And.right
    · rintro rfl
      exact ⟨hne, rfl⟩

theorem sessionHandleValid_iff (h : Ledger A s) {p : Nat} :
    s.sessionHandleValid p = true ↔ ∃ t, s.table = some t ∧ p ∈ t.sessions := by
  unfold JhiLib.sessionHandleValid JhiLib.sessionsList
  cases ha : s.appHandle with
  | none => simp [JhiLib.table, ha]
  | some a =>
    obtain ⟨l, hl, hlive, htable⟩ := h.handle ha
    rw [htable]
    simp only [Option.bind_some, hl, Bool.and_eq_true, decide_eq_true_eq, List.contains_iff_mem, Option.some.injEq,
      exists_eq_left']
    constructor
    · exact And.right
    · exact fun hp => ⟨h.ne_null (by rw [hlive]; simp [hp]), hp⟩

end Checks

/-! ### Changes that no handle sees -/

/-- The handles are the same, and so are the structs that were freed. -/
structure SameHandles (s s' : JhiLib) : Prop where
  appHandle : s'.appHandle = s.appHandle
  allocations : s'.allocations = s.allocations
  freed : s'.freed = s.freed

section Same

variable {A : Addresses} {s s' : JhiLib}

theorem SameHandles.ledger (h : SameHandles s s') (hs : Ledger A s) : Ledger A s' :=
  hs.congr h.appHandle (by rw [h.allocations]) h.freed

theorem SameHandles.table (h : SameHandles s s') : s'.table = s.table := by
  unfold JhiLib.table
  rw [h.appHandle]

theorem SameHandles.sessionsList (h : SameHandles s s') : s'.sessionsList = s.sessionsList := by
  unfold JhiLib.sessionsList
  rw [h.appHandle]

theorem SameHandles.sessionHandleValid (h : SameHandles s s') (p : Nat) : s'.sessionHandleValid p = s.sessionHandleValid p := by
  unfold JhiLib.sessionHandleValid
  rw [h.sessionsList]

theorem SameHandles.trans {s'' : JhiLib} (h : SameHandles s s') (h' : SameHandles s' s'') : SameHandles s s'' :=
  ⟨h'.appHandle.trans h.appHandle, h'.allocations.trans h.allocations, h'.freed.trans h.freed⟩

theorem sameHandles_refl (s : JhiLib) : SameHandles s s := ⟨rfl, rfl, rfl⟩

theorem sameHandles_edit (s : JhiLib) (p : Nat) (f : ISessionHandle → ISessionHandle) : SameHandles s (s.edit p f) := ⟨rfl, rfl, rfl⟩

theorem sameHandles_closeSessionEventThread (ans : LibAnswers) (p : Nat) (s : JhiLib) :
    SameHandles s (s.closeSessionEventThread ans p) := by
  unfold JhiLib.closeSessionEventThread
  split_ifs
  · exact sameHandles_refl s
  · exact sameHandles_edit s p _

theorem sameHandles_closeEvent (ans : LibAnswers) (p : Nat) (s : JhiLib) :
    SameHandles s (if s.hasEvent ans p then s.closeSessionEventThread ans p else s) := by
  split_ifs
  · exact sameHandles_closeSessionEventThread ans p s
  · exact sameHandles_refl s

theorem sameHandles_registerAtService (ans : LibAnswers) (p : Nat) (s : JhiLib) :
    SameHandles s (s.registerAtService ans p).2 := by
  unfold JhiLib.registerAtService
  cases ans.uuid with
  | none =>
    simp only
    split_ifs
    all_goals exact ⟨rfl, rfl, rfl⟩
  | some uuid =>
    simp only
    split_ifs
    all_goals exact ⟨rfl, rfl, rfl⟩

end Same

/-! ### Structs that are freed -/

section Free

variable {A : Addresses} {s : JhiLib} {ans : LibAnswers}

theorem alloc_false : s.alloc A false = (0, s) := rfl

theorem alloc_true : s.alloc A true = (A.addr s.allocations, { s with allocations := s.allocations + 1 }) := rfl

theorem Ledger.alloc_dealloc (h : Ledger A s) {s' : JhiLib} (happ : s'.appHandle = s.appHandle)
    (halloc : s.allocations < s'.allocations) (hfreed : s'.freed = s.freed) : Ledger A (s'.dealloc (A.addr s.allocations)) := by
  have hnew := h.next_not_mem
  have hlive : s'.live = s.live := by
    unfold JhiLib.live
    rw [happ]
  rw [← hfreed, ← hlive] at hnew
  exact (h.congr happ (by omega) hfreed).dealloc hnew halloc rfl

@[simp] theorem dealloc_appHandle (s : JhiLib) (p : Nat) : (s.dealloc p).appHandle = s.appHandle := by
  unfold JhiLib.dealloc
  split_ifs
  · rfl
  · rfl

@[simp] theorem dealloc_allocations (s : JhiLib) (p : Nat) : (s.dealloc p).allocations = s.allocations := by
  unfold JhiLib.dealloc
  split_ifs
  · rfl
  · rfl

theorem dealloc_freed (s : JhiLib) {p : Nat} (hp : p ≠ 0) : (s.dealloc p).freed = s.freed ++ [p] := by
  unfold JhiLib.dealloc
  rw [if_neg hp]

theorem freeSessions_spec (items : List Nat) (hne : ∀ p ∈ items, p ≠ 0) (done : Nat) (s : JhiLib) :
    (JhiLib.freeSessions ans done items s).freed = s.freed ++ items ∧
      (JhiLib.freeSessions ans done items s).allocations = s.allocations := by
  induction items generalizing done s with
  | nil => exact ⟨(List.append_nil _).symm, rfl⟩
  | cons p rest ih =>
    rw [List.forall_mem_cons] at hne
    unfold JhiLib.freeSessions
    have hsame := sameHandles_closeEvent ans p s
    simp only
    generalize (if s.hasEvent ans p then s.closeSessionEventThread ans p else s) = s₁ at hsame ⊢
    obtain ⟨hfreed, halloc⟩ := ih hne.2 (done + 1) ((s₁.dealloc p).setItems (List.replicate (done + 1) 0 ++ rest))
    rw [hfreed, halloc]
    have hset : ∀ (x : JhiLib) (l : List Nat), (x.setItems l).freed = x.freed ∧ (x.setItems l).allocations = x.allocations :=
      fun _ _ => ⟨rfl, rfl⟩
    rw [(hset _ _).1, (hset _ _).2, dealloc_freed _ hne.1, dealloc_allocations, hsame.freed, hsame.allocations,
      List.append_assoc]
    exact ⟨rfl, rfl⟩

theorem release_freed (a : IHandle) (s : JhiLib) {l : SessionsList} (hl : a.sessionsList = some l)
    (hne : ∀ p ∈ a.ptr :: l.ptr :: l.items, p ≠ 0) :
    (JhiLib.release ans a s).freed = s.freed ++ l.items ++ [l.ptr] ++ [a.ptr] ∧
      (JhiLib.release ans a s).allocations = s.allocations := by
  rw [List.forall_mem_cons, List.forall_mem_cons] at hne
  obtain ⟨hfreed, halloc⟩ := @freeSessions_spec ans l.items hne.2.2 0 s
  unfold JhiLib.release
  constructor
  · simp only [hl, dealloc_freed _ hne.1, dealloc_freed _ hne.2.1, hfreed]
  · simp only [hl, dealloc_allocations, halloc]

/-- With the last reference everything is freed. -/
theorem ledger_release (h : Ledger A s) {a : IHandle} (ha : s.appHandle = some a) (count : UInt32) {s₁ : JhiLib}
    (hfreed₁ : s₁.freed = s.freed) (halloc₁ : s₁.allocations = s.allocations) :
    Ledger A (JhiLib.release ans { a with referenceCount := count } s₁) := by
  obtain ⟨l, hl, hlive, -⟩ := h.handle ha
  have hne : ∀ p ∈ a.ptr :: l.ptr :: l.items, p ≠ 0 := fun p hp => h.ne_null (by rw [hlive]; exact hp)
  obtain ⟨hfreed, halloc⟩ := @release_freed ans { a with referenceCount := count } s₁ l hl hne
  refine h.perm (fun _ hnone => by cases hnone) (halloc.trans halloc₁) ?_
  rw [hfreed, hfreed₁, hlive]
  show (s.freed ++ l.items ++ [l.ptr] ++ [a.ptr] ++ []).Perm _
  simp only [List.append_nil, List.append_assoc]
  refine List.Perm.append_left _ ?_
  exact List.perm_append_comm.trans (List.Perm.swap _ _ _)

theorem forget_spec (h : Ledger A s) {t : HandleTable} (ht : s.table = some t) {p : Nat} (hp : p ∈ t.sessions) :
    (s.forget p).1 = true ∧ Ledger A (s.forget p).2 ∧ (s.forget p).2.allocations = s.allocations ∧
      (s.forget p).2.table = some { t with sessions := t.sessions.filter fun q => q ≠ p } := by
  cases ha : s.appHandle with
  | none =>
    simp only [JhiLib.table, ha, Option.bind_none] at ht
    cases ht
  | some a =>
    obtain ⟨l, hl, hlive, htable⟩ := h.handle ha
    rw [htable] at ht
    cases ht
    have hvalid : s.sessionHandleValid p = true := (sessionHandleValid_iff h).2 ⟨_, htable, hp⟩
    have hlist : s.sessionsList = some l := by
      unfold JhiLib.sessionsList
      rw [ha]
      exact hl
    have hne : p ≠ 0 := h.ne_null (by rw [hlive]; simp [show p ∈ l.items from hp])
    have hforget : s.forget p = (true, (s.setItems (l.items.filter fun q => q ≠ p)).dealloc p) := by
      unfold JhiLib.forget JhiLib.removeSessionHandle
      simp only [hvalid, hlist, Bool.not_true, Bool.false_eq_true, if_false]
    have happ : (s.setItems (l.items.filter fun q => q ≠ p)).appHandle =
        some { a with sessionsList := some { l with items := l.items.filter fun q => q ≠ p } } := by
      unfold JhiLib.setItems
      simp only [ha, hl, Option.map_some]
    rw [hforget]
    refine ⟨rfl, h.perm ?_ ?_ ?_, dealloc_allocations _ _, ?_⟩
    · rw [dealloc_appHandle, happ]
      rintro _ ⟨⟩
      rfl
    · rw [dealloc_allocations]
      rfl
    · -- the struct moves from the list to the freed ones
      have hnodup : l.items.Nodup := by
        have hn := h.nodup
        rw [hlive, List.nodup_append] at hn
        exact (List.nodup_cons.1 (List.nodup_cons.1 hn.2.1).2).2
      have hitems : (p :: l.items.filter fun q => q ≠ p).Perm l.items := by
        have herase : l.items.filter (fun q => q ≠ p) = l.items.erase p := by
          rw [hnodup.erase_eq_filter]
          refine List.filter_congr fun q _ => ?_
          simp [bne, beq_eq_decide]
        rw [herase]
        exact (List.perm_cons_erase (show p ∈ l.items from hp)).symm
      rw [dealloc_freed _ hne, hlive]
      simp only [JhiLib.live, dealloc_appHandle, happ, Option.elim_some, IHandle.structs]
      show (s.freed ++ [p] ++ _).Perm _
      rw [List.append_assoc]
      refine List.Perm.append_left _ ?_
      have hfront : (p :: a.ptr :: l.ptr :: l.items.filter fun q => q ≠ p).Perm
          (a.ptr :: l.ptr :: p :: l.items.filter fun q => q ≠ p) := (List.Perm.swap _ _ _).trans ((List.Perm.swap _ _ _).cons _)
      exact hfront.trans ((hitems.cons _).cons _)
    · unfold JhiLib.table
      rw [dealloc_appHandle, happ]
      rfl

theorem forget_of_not_valid {p : Nat} (h : s.sessionHandleValid p = false) : s.forget p = (false, s) := by
  unfold JhiLib.forget JhiLib.removeSessionHandle
  rw [h]
  rfl

end Free

end DalHost

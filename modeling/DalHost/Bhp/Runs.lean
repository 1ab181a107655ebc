import DalHost.Bhp.Answers
import DalHost.Bhp.Sessions

/-!
# Runs of a connection

What the invariants say about every orderly run: nobody is left asleep, a command gets its own
answer, a record that is touched is there, but for a session that the receiver goes on with, and a
session lives as long as somebody is inside.
-/

namespace DalHost

/-- The steps that the receiver has still to take, once the last pass has begun. -/
def RecvThread.remaining : RecvThread → Nat
  | .sweeping rest => 2 * rest.length + 2
  | .erasing _ _ rest => 2 * rest.length + 3
  | .clearing => 1
  | _ => 0

namespace ConnectionItem

variable {τ : Type} [DecidableEq τ] {s : ConnectionItem τ} {t : τ} {n m : Nat}

/-! ### Order can be checked -/

instance NumberInUse.decidable {s : ConnectionItem τ} : Decidable s.NumberInUse :=
  decidable_of_iff (∃ n ∈ List.range (s.drawn + 1), 0 < n ∧
    (s.Live n ∨ s.receiver.handles = some n) ∧
    (2 ^ 32 - 1) ∣ (s.drawn + 1 - n)) <| by
    simp only [NumberInUse, InUse, List.mem_range, Nat.lt_succ_iff]
    exact exists_congr fun n => and_left_comm

instance Idle.decidable {s : ConnectionItem τ} {n : Nat} : Decidable (s.Idle n) :=
  inferInstanceAs (Decidable (_ ∧ _ ∧ _))

/-- Of a record that the map has under a number anything decidable can be checked. -/
instance Found.decidable {m : OrdMap Nat Nat} {q : Nat} {P : Nat → Prop} [DecidablePred P] :
    Decidable (∃ n, m.find? q = some n ∧ P n) :=
  match h : m.find? q with
  | some n =>
    decidable_of_iff (P n) ⟨fun hn => ⟨n, rfl, hn⟩, fun ⟨_, hk, hn⟩ => Option.some.inj hk ▸ hn⟩
  | none => .isFalse fun ⟨_, hk, _⟩ => by cases hk

instance BadHandle.decidable {s : ConnectionItem τ} {q : Nat} : Decidable (s.BadHandle q) :=
  inferInstanceAs (Decidable (∃ _, _ ∧ _))

instance Premature.decidable {s : ConnectionItem τ} {a : BhpResponse} : Decidable (s.Premature a) :=
  inferInstanceAs (Decidable (_ ∧ ∃ _, _ ∧ _))

instance Disorder.decidable (c : BhpMove τ) (s : ConnectionItem τ) : Decidable (Disorder c s) :=
  match c with
  | .begin _ (.openSession _) => inferInstanceAs (Decidable s.NumberInUse)
  | .begin _ .command | .begin _ (.exchange _) => .isFalse id
  | .begin _ (.closeSession ..) | .begin _ (.forceClose _) => .isFalse id
  | .host t _ =>
    match h : (s.thread t).task with
    | .drawing => decidable_of_iff s.NumberInUse (by rw [Disorder, h])
    | .entering q _ => decidable_of_iff (s.BadHandle q) (by rw [Disorder, h])
    | .idle | .locking | .checking | .sending .. | .leaving _ =>
      .isFalse (by rw [Disorder, h]; exact id)
  | .receive (some a) => inferInstanceAs (Decidable (s.Premature a))
  | .receive none | .recv .. | .elsewhere => .isFalse id

instance Disturbs.decidable (c : BhpMove τ) (s : ConnectionItem τ) : Decidable (Disturbs c s) :=
  match c with
  | .host t _ =>
    match h : (s.thread t).task with
    | .entering q _ =>
      decidable_of_iff (∃ n, s.rrmap.find? q = some n ∧ s.receiver.handles = some n)
        (by rw [Disturbs, h])
    | .idle | .drawing | .locking | .checking | .sending .. | .leaving _ =>
      .isFalse (by rw [Disturbs, h]; exact id)
  | .receive (some a) => inferInstanceAs (Decidable (_ ∧ ∃ n, _ ∧ _ ∧ _ ∧ _))
  | .begin .. | .receive none | .recv .. | .elsewhere => .isFalse id

/-- Two threads send commands without data and go to sleep. -/
def commandsAsleep : List (BhpMove Bool) :=
  .begin false .command :: List.replicate 7 (goOn false) ++
    .begin true .command :: List.replicate 7 (goOn true)

/-- The connection breaks instead, and the last pass begins. -/
def commandsCut : List (BhpMove Bool) :=
  commandsAsleep ++ [.receive none, .recv true false, .recv true false]

/-- While one thread sleeps in a session, another one waits for its lock. -/
def sessionShared : List (BhpMove Bool) :=
  sessionAsleep ++ [.begin true (.exchange 1), goOn true, goOn true]

/-- A notice that the session has crashed finds nobody inside; a thread comes in before the record
is filled in. -/
def sessionNotice : List (BhpMove Bool) :=
  sessionAsleep.take 15 ++
    [.receive (some ⟨1, bheAppletCrashed, 0, none⟩), .begin false (.exchange 1), goOn false]

/-- Then the record is filled in, and the thread finds the session dead and leaves it. -/
def sessionGone : List (BhpMove Bool) :=
  sessionNotice ++ .recv true false :: List.replicate 3 (goOn false)

/-! ### Nobody is left asleep -/

/-- Whoever sleeps is signalled, or the receiver is going to signal him, or the firmware owes him an
answer that the receiver will find his record for. -/
theorem awaited_of_run (drawn : Nat) {moves : List (BhpMove τ)}
    (horderly : Never ConnectionItem.step Disorder moves (start drawn)) {rr : Nat}
    (ht : ((afterCalls ConnectionItem.step moves (start drawn)).thread t).task =
      .sending m rr .wait) :
    let s := afterCalls ConnectionItem.step moves (start drawn)
    ∃ e, (s.record m).waitEvent = some e ∧ e.closed = false ∧
      (e.triggered = true ∨ s.receiver.wakes = some m ∨
        (s.record m).outstanding = true ∧ s.rrmap.find? (seqOf m) = some m ∧
          (s.receiver.swept = true → (seqOf m, m) ∈ s.receiver.rest)) :=
  ((sound_of_run drawn horderly).handover.stages t m rr _ ht).safe

theorem awaited_of_sessionShared :
    let s := afterCalls ConnectionItem.step sessionShared (start 0)
    ∃ e, (s.record 1).waitEvent = some e ∧ e.closed = false ∧
      (e.triggered = true ∨ s.receiver.wakes = some 1 ∨
        (s.record 1).outstanding = true ∧ s.rrmap.find? (seqOf 1) = some 1 ∧
          (s.receiver.swept = true → (seqOf 1, 1) ∈ s.receiver.rest)) :=
  have ht : ((afterCalls ConnectionItem.step sessionShared (start 0)).thread false).task =
      .sending 1 1 .wait := by
    decide +kernel
  awaited_of_run 0 (by decide +kernel) ht

/-- The move is one of the receiver's. -/
def BhpMove.byReceiver : BhpMove τ → Bool
  | .recv .. => true
  | _ => false

omit [DecidableEq τ] in
theorem remaining_recvStep (hswept : s.receiver.swept = true) (ok stale : Bool) :
    (s.recvStep ok stale).receiver.swept = true ∧
      (s.recvStep ok stale).receiver.remaining ≤ s.receiver.remaining - 1 := by
  unfold ConnectionItem.recvStep
  cases hr : s.receiver with
  | ended => exact ⟨by rw [hr]; rfl, by rw [hr]; exact Nat.zero_le _⟩
  | sweeping rest =>
    cases rest with
    | nil => exact ⟨rfl, Nat.le_refl _⟩
    | cons p rest =>
      obtain ⟨q, n⟩ := p
      dsimp only
      split
      all_goals
        simp only [setReceiver, RecvThread.swept, RecvThread.remaining, List.length_cons, true_and]
        omega
  | erasing q n rest =>
    simp only [setReceiver, RecvThread.swept, RecvThread.remaining, true_and]
    omega
  | clearing => exact ⟨rfl, Nat.le_refl _⟩
  | _ =>
    rw [hr] at hswept
    cases hswept

omit [DecidableEq τ] in
@[simp] theorem receiver_rrmapRemove (q : Nat) : (s.rrmapRemove q).receiver = s.receiver := by
  unfold rrmapRemove
  split
  · split_ifs <;> rfl
  · rfl

theorem receiver_sendStep {rr : Nat} {c : SendChoice} {stage : SendStage} :
    (s.sendStep t m rr c stage).receiver = s.receiver := by
  cases stage with
  | find =>
    simp only [ConnectionItem.sendStep]
    split <;> rfl
  | lockSend | arm | sendCmd | sendData | wait =>
    simp only [ConnectionItem.sendStep]
    split_ifs <;> rfl
  | giveUp ret => exact receiver_rrmapRemove _
  | returned ret =>
    simp only [ConnectionItem.sendStep, sendReturned]
    split <;> try split_ifs
    all_goals rfl
  | _ => rfl

theorem receiver_hostStep {c : SendChoice} : (s.hostStep t c).receiver = s.receiver := by
  unfold ConnectionItem.hostStep
  split
  · rfl
  · split_ifs
    · rfl
    · unfold sessionEnter
      split
      · rfl
      · dsimp only
        split_ifs <;> rfl
  · split_ifs <;> rfl
  · rfl
  · split_ifs
    · rfl
    · exact receiver_sendStep
  · split_ifs
    · rfl
    · unfold sessionLeave
      dsimp only
      split_ifs <;> rfl
  · rfl

theorem receiver_of_other {c : BhpMove τ} (hc : c.byReceiver = false)
    (hswept : s.receiver.swept = true) :
    (ConnectionItem.step c s).receiver = s.receiver := by
  cases c with
  | recv ok stale => cases hc
  | elsewhere => rfl
  | begin t call =>
    simp only [ConnectionItem.step, ConnectionItem.begin]
    split_ifs
    · cases call <;> rfl
    · rfl
  | receive header =>
    simp only [ConnectionItem.step, ConnectionItem.receive]
    split
    · rename_i hr
      cases (congrArg RecvThread.swept hr).symm.trans hswept
    · rename_i hr
      cases (congrArg RecvThread.swept hr).symm.trans hswept
    · rfl
  | host t c => exact receiver_hostStep

/-- With each of its steps the receiver comes nearer to the end of the pass, and nobody puts it
back. -/
theorem remaining_of_run (moves : List (BhpMove τ)) (hswept : s.receiver.swept = true) :
    (afterCalls ConnectionItem.step moves s).receiver.swept = true ∧
      (afterCalls ConnectionItem.step moves s).receiver.remaining ≤
        s.receiver.remaining - moves.countP BhpMove.byReceiver := by
  induction moves generalizing s with
  | nil => exact ⟨hswept, Nat.le_refl _⟩
  | cons c moves ih =>
    rw [afterCalls_cons, List.countP_cons]
    cases hc : c.byReceiver with
    | false =>
      have hsame := receiver_of_other hc hswept
      obtain ⟨hs, hle⟩ := ih (s := ConnectionItem.step c s) (hsame ▸ hswept)
      rw [hsame] at hle
      exact ⟨hs, by simpa using hle⟩
    | true =>
      cases c with
      | recv ok stale =>
        obtain ⟨hnext, hdown⟩ := remaining_recvStep hswept ok stale
        obtain ⟨hs, hle⟩ := ih (s := ConnectionItem.step (.recv ok stale) s) hnext
        refine ⟨hs, hle.trans ?_⟩
        have hstep : (ConnectionItem.step (.recv ok stale) s).receiver.remaining ≤
            s.receiver.remaining - 1 := hdown
        simp only [if_true]
        omega
      | _ => cases hc

omit [DecidableEq τ] in
theorem ended_of_remaining {r : RecvThread} (hswept : r.swept = true)
    (hnone : r.remaining = 0) : r = .ended := by
  cases r with
  | ended => rfl
  | sweeping rest | erasing q n rest => cases hnone
  | clearing => cases hnone
  | _ => cases hswept

/-- When the connection has ended, whoever sleeps has been signalled: the last pass takes two steps
for each entry of the map and two more, whatever the threads do meanwhile. -/
theorem woken_of_disconnect (drawn : Nat) {before after : List (BhpMove τ)}
    (horderly : Never ConnectionItem.step Disorder (before ++ after) (start drawn))
    {rest : List (Nat × Nat)}
    (hbegun : (afterCalls ConnectionItem.step before (start drawn)).receiver = .sweeping rest)
    (hsteps : 2 * rest.length + 2 ≤ after.countP BhpMove.byReceiver) :
    let s := afterCalls ConnectionItem.step (before ++ after) (start drawn)
    s.receiver = .ended ∧
      ∀ t m rr, (s.thread t).task = .sending m rr .wait →
        (s.record m).waitEvent = some ⟨true, false⟩ := by
  have hswept : (afterCalls ConnectionItem.step before (start drawn)).receiver.swept = true := by
    rw [hbegun]
    rfl
  obtain ⟨hs, hle⟩ := remaining_of_run after hswept
  rw [← afterCalls_append] at hs hle
  have hended :
      (afterCalls ConnectionItem.step (before ++ after) (start drawn)).receiver = .ended := by
    refine ended_of_remaining hs (Nat.eq_zero_of_le_zero (hle.trans ?_))
    rw [hbegun, RecvThread.remaining]
    omega
  refine ⟨hended, fun t m rr ht => ?_⟩
  obtain ⟨e, hevent, hopen, htriggered | hwakes | ⟨-, -, hrest⟩⟩ :=
    ((sound_of_run drawn horderly).handover.stages t m rr _ ht).safe
  · obtain ⟨triggered, closed⟩ := e
    cases htriggered
    cases hopen
    exact hevent
  · cases (congrArg RecvThread.wakes hended).symm.trans hwakes
  · have hin := hrest hs
    rw [view, hended] at hin
    cases hin

theorem woken_of_commandsCut :
    let s :=
      afterCalls ConnectionItem.step (commandsCut ++ List.replicate 6 (.recv true false)) (start 0)
    s.receiver = .ended ∧
      ∀ t m rr, (s.thread t).task = .sending m rr .wait →
        (s.record m).waitEvent = some ⟨true, false⟩ :=
  have hbegun : (afterCalls ConnectionItem.step commandsCut (start 0)).receiver =
      .sweeping [(1, 1), (2, 2)] := by
    decide +kernel
  woken_of_disconnect 0 (by decide +kernel) hbegun (by decide)

/-! ### Everybody gets his own answer -/

/-- In a session it may be something else: the thread came in after the notice, made its event
before the record was filled in, and returns with the code of the notice. -/
example :
    let moves := sessionNotice ++ List.replicate 5 (goOn false) ++
      [.recv true false, .recv true false] ++
      List.replicate 5 (goOn false)
    let s := afterCalls ConnectionItem.step moves (start 0)
    Never ConnectionItem.step Disorder moves (start 0) ∧ (s.record 1).code = bheAppletCrashed ∧
      (s.thread false).task = .sending 1 1 (.returned bhSuccess) ∧ s.answer 1 = none := by
  decide +kernel

/-! ### Nothing is touched that is gone -/

/-- The records that a step reads or writes. What the last pass reads after it has signalled a
record (`RecvThread.erasing`) is not among them: the stack may be gone then on which the record
was. -/
def touched (s : ConnectionItem τ) : BhpMove τ → List Nat
  | .host t _ =>
    match (s.thread t).task, (s.thread t).session with
    | .entering q _, _ => if s.receiver.holdsMap then [] else (s.rrmap.find? q).toList
    | .drawing, some (n, _) | .locking, some (n, _) => [n]
    | .checking, some (n, _) | .leaving _, some (n, _) => [n]
    | .sending m rr stage, _ =>
      match stage with
      | .arm | .failed | .unlock | .wait | .closeEvent | .disarm => [rr]
      | .giveUp _ => if s.receiver.holdsMap then [] else (s.rrmap.find? (seqOf m)).toList
      | .returned _ => [m]
      | _ => []
    | _, _ => []
  | .receive (some a) => if s.receiver = .listening then (s.rrmap.find? a.seq).toList else []
  | .recv .. =>
    match s.receiver with
    | .found _ (some n) | .waking n _ _ | .killing n _ | .sweeping ((_, n) :: _) => [n]
    | _ => []
  | _ => []

/-- The last thread leaves a dead session that the receiver is at. -/
def LastOut (c : BhpMove τ) (s : ConnectionItem τ) : Prop :=
  match c with
  | .host t _ =>
    match (s.thread t).task, (s.thread t).session with
    | .leaving closes, some (n, _) =>
      s.receiver.handles = some n ∧ (s.record n).count = 1 ∧ ((s.record n).killed || closes) = true
    | _, _ => False
  | _ => False

instance LastOut.decidable (c : BhpMove τ) (s : ConnectionItem τ) : Decidable (LastOut c s) :=
  match c with
  | .host t _ =>
    match h : (s.thread t).task, h' : (s.thread t).session with
    | .leaving closes, some (n, _) =>
      decidable_of_iff (s.receiver.handles = some n ∧ (s.record n).count = 1 ∧
        ((s.record n).killed || closes) = true) (by rw [LastOut, h, h'])
    | .leaving _, none => .isFalse (by rw [LastOut, h, h']; exact id)
    | .idle, _ | .drawing, _ | .entering .., _ | .locking, _ | .checking, _ | .sending .., _ =>
      .isFalse (by rw [LastOut, h]; exact id)
  | .begin .. | .receive _ | .recv .. | .elsewhere => .isFalse id

omit [DecidableEq τ] in
/-- What a step touches is there, or it is a session in the receiver's hands. -/
theorem Sound.touched_live {calm : Bool} (h : s.Sound calm) {c : BhpMove τ}
    (hdisorder : ¬s.Disorder c)
    (hn : n ∈ s.touched c) :
    s.Live n ∨ c.byReceiver = true ∧ s.receiver.handles = some n ∧
      (s.record n).isSession = true := by
  cases c with
  | begin t call | elsewhere => cases hn
  | host t c =>
    refine .inl ?_
    rw [touched] at hn
    cases htask : (s.thread t).task with
    | idle => simp [htask] at hn
    | drawing | locking | checking | leaving closes =>
      cases hin : (s.thread t).session with
      | none => simp [htask, hin] at hn
      | some p =>
        obtain ⟨k, role⟩ := p
        simp only [htask, hin, List.mem_singleton] at hn
        exact hn ▸ (h.registry.inside t k role hin).1
    | entering q role =>
      rw [Disorder, htask] at hdisorder
      simp only [htask] at hn
      split_ifs at hn
      · cases hn
      · rw [Option.mem_toList] at hn
        have hissued : s.issued n = true := Bool.not_eq_false _ ▸ fun hk => hdisorder ⟨n, hn, hk⟩
        refine (h.registry.stored q n hn).resolve_right fun hdead => ?_
        cases (h.registry.issued n hissued).2.symm.trans hdead.1
    | sending m rr stage =>
      obtain ⟨rfl, hlive⟩ := h.registry.sent htask
      simp only [htask] at hn
      cases stage with
      | giveUp ret =>
        dsimp only at hn
        split_ifs at hn
        · cases hn
        · rw [Option.mem_toList] at hn
          exact h.handover.mine h.registry htask SendStage.noConfusion hn ▸ hlive
      | arm | failed | unlock | wait | closeEvent | disarm | returned ret =>
        exact List.mem_singleton.1 hn ▸ hlive
      | _ => cases hn
  | receive header =>
    refine .inl ?_
    cases header with
    | none => cases hn
    | some a =>
      rw [touched] at hn
      split_ifs at hn with hlistening
      · rw [Option.mem_toList] at hn
        refine (h.registry.stored _ n hn).resolve_right fun hdead => ?_
        rw [hlistening] at hdead
        cases hdead.2
      · cases hn
  | recv ok stale =>
    -- a command in the receiver's hands is there
    have hhand : ∀ k, s.receiver.handles = some k → k = n →
        s.Live n ∨ true = true ∧ s.receiver.handles = some n ∧ (s.record n).isSession = true := by
      rintro k hk rfl
      cases hsession : (s.record k).isSession with
      | true => exact .inr ⟨rfl, hk, rfl⟩
      | false => exact .inl (h.handover.held k hk (.inr hsession)).1
    rw [touched] at hn
    split at hn
    · rename_i hr
      exact hhand _ (congrArg RecvThread.handles hr) (List.mem_singleton.1 hn).symm
    · rename_i hr
      exact hhand _ (congrArg RecvThread.handles hr) (List.mem_singleton.1 hn).symm
    · rename_i hr
      exact hhand _ (congrArg RecvThread.handles hr) (List.mem_singleton.1 hn).symm
    · rename_i q k rest hr
      exact .inl (List.mem_singleton.1 hn ▸ (h.handover.resting q k
        (by rw [hr]; exact List.mem_cons_self)).2)
    · cases hn

/-! ### What the receiver has in its hands -/

theorem live_sendReturned (h : s.Registry) {rr k : Nat} {ret : BhRet}
    (ht : (s.thread t).task = .sending m rr (.returned ret)) (hk : s.Live k)
    (hkm : k = m → (s.record m).isSession = true) : (s.sendReturned t m ret).Live k := by
  have hshape := h.shaped t
  rw [Shaped, ht] at hshape
  have hkept : ∀ th, ((s.edit m fun r => { r with buffer := none }).setThread t th).Live k :=
    fun th => (record_edit_field s ResponseRecord.freed (fun r => { r with buffer := none })
      (fun _ => rfl) m k).trans hk
  have hgone : (s.record m).isSession = false → ∀ th,
      ((s.edit m fun r => { r with freed := true }).setThread t th).Live k := by
    intro hcommand th
    have hne : k ≠ m := fun heq => by cases (hkm heq).symm.trans hcommand
    rwa [Live, setThread, record_edit_of_ne s _ hne]
  unfold sendReturned
  dsimp only
  cases hin : (s.thread t).session with
  | none =>
    rw [hin] at hshape
    exact hgone hshape.2.2 _
  | some p =>
    obtain ⟨n, role⟩ := p
    rw [hin] at hshape
    cases role with
    | opening retry =>
      dsimp only
      by_cases hne : n ≠ m
      · rw [if_pos hne]
        exact hgone (hshape.2.2.resolve_left fun heq => hne heq.1).1 _
      · rw [if_neg hne]
        split_ifs <;> exact hkept _
    | exchanging => exact hkept _
    | closing sd => exact hk
    | forcing => exact hgone (hshape.2.2.resolve_left fun heq => heq.2 rfl).1 _

theorem live_sendStep (h : s.Registry) {c : SendChoice} {stage : SendStage} {k : Nat}
    (ht : (s.thread t).task = .sending m m stage) (hk : s.Live k)
    (hkm : ∀ ret, stage = .returned ret → k = m → (s.record m).isSession = true) :
    (s.sendStep t m m c stage).Live k := by
  have hedit : ∀ f : ResponseRecord τ → ResponseRecord τ, (∀ r, (f r).freed = r.freed) →
    (s.edit m f).Live k :=
    fun f hf => (record_edit_field s ResponseRecord.freed f hf m k).trans hk
  cases stage with
  | register | unlockFailed ret | unlock => exact hk
  | find =>
    simp only [ConnectionItem.sendStep]
    split <;> exact hk
  | lockSend | wait =>
    simp only [ConnectionItem.sendStep]
    split_ifs <;> exact hk
  | arm =>
    simp only [ConnectionItem.sendStep]
    split_ifs
    · exact hedit
        (fun r => { r with buffer := none, waitEvent := some ⟨false, false⟩, asked := s.log.length })
        fun _ => rfl
    · exact hedit (fun r => { r with buffer := none, waitEvent := none }) fun _ => rfl
  | sendCmd =>
    simp only [ConnectionItem.sendStep]
    split_ifs
    · exact hk
    · exact hedit (fun r => { r with outstanding := true }) fun _ => rfl
    · exact hk
  | sendData =>
    simp only [ConnectionItem.sendStep]
    split_ifs
    · exact hedit (fun r => { r with outstanding := true }) fun _ => rfl
    · exact hk
  | failed | closeEvent =>
    exact hedit
      (fun r => { r with waitEvent := r.waitEvent.map fun e => { e with closed := true } })
      fun _ => rfl
  | disarm => exact hedit (fun r => { r with waitEvent := none }) fun _ => rfl
  | giveUp ret =>
    simp only [ConnectionItem.sendStep, rrmapRemove]
    split
    · split_ifs <;> exact hk
    · exact hk
  | returned ret => exact live_sendReturned h ht hk (hkm ret rfl)

/-- Nobody but the last thread takes a record away from the receiver. -/
theorem Sound.live_hostStep {calm : Bool} (h : s.Sound calm) {c : SendChoice} (hk : s.Live n)
    (hhandles : s.receiver.handles = some n) (hlast : ¬LastOut (.host t c) s) :
    (s.hostStep t c).Live n := by
  have hedit : ∀ (k : Nat) (f : ResponseRecord τ → ResponseRecord τ), (∀ r, (f r).freed = r.freed) →
      (s.edit k f).Live n :=
    fun k f hf => (record_edit_field s ResponseRecord.freed f hf k n).trans hk
  unfold ConnectionItem.hostStep
  cases htask : (s.thread t).task with
  | idle => exact hk
  | drawing =>
    have hne : n ≠ s.drawn + 1 := fun heq => by
      have := (h.registry.hand n hhandles).1
      omega
    exact (congrArg ResponseRecord.freed (Function.update_of_ne hne _ s.record)).trans hk
  | entering q role =>
    dsimp only
    split_ifs
    · exact hk
    · unfold sessionEnter
      split
      · exact hk
      · rename_i k _
        dsimp only
        split_ifs
        · exact hedit k (fun r => { r with count := r.count + 1 }) fun _ => rfl
        · exact hedit k (fun r => { r with count := r.count + 1 }) fun _ => rfl
        · exact hk
  | locking =>
    cases hin : (s.thread t).session with
    | none => exact hk
    | some p =>
      dsimp only
      split_ifs
      · exact hedit p.1 (fun r => { r with sessionLock := some t }) fun _ => rfl
      · exact hk
  | checking =>
    cases hin : (s.thread t).session with
    | none => exact hk
    | some p => exact hk
  | sending m rr stage =>
    obtain ⟨rfl, -⟩ := h.registry.sent htask
    dsimp only
    split_ifs
    · exact hk
    · refine live_sendStep h.registry htask hk fun ret hret heq => ?_
      -- the receiver is not at a command that has returned
      subst hret heq
      by_contra hcommand
      exact ((h.handover.stages t n n _ htask).strict (.inr (Bool.eq_false_iff.2 hcommand))).1.2
        hhandles
  | leaving closes =>
    cases hin : (s.thread t).session with
    | none => exact hk
    | some p =>
      obtain ⟨k, role⟩ := p
      dsimp only
      split_ifs
      · exact hk
      · obtain ⟨hlive, hsession⟩ := h.registry.inside t k role hin
        have hpos := (h.registry.counted k hlive hsession).pos ⟨role, hin⟩
        unfold sessionLeave
        dsimp only
        by_cases hgoes : (s.record k).count - 1 = 0 ∧ ((s.record k).killed || closes) = true
        · rw [if_pos hgoes]
          have hne : n ≠ k := by
            rintro rfl
            rw [LastOut, htask, hin] at hlast
            exact hlast ⟨hhandles, by omega, hgoes.2⟩
          simpa only [Live, destroy, setMap, setThread, edit, Function.update_of_ne hne] using hk
        · rw [if_neg hgoes]
          exact hedit k (fun r => { r with
            count := (s.record k).count - 1
            killed := (s.record k).killed || closes
            sessionLock := if role.locks then none else r.sessionLock }) fun _ => rfl

theorem Sound.hand_live {calm : Bool} (h : s.Sound calm)
    (hhand : ∀ n, s.receiver.handles = some n → s.Live n)
    {c : BhpMove τ} (hlast : ¬LastOut c s)
    (hn : (ConnectionItem.step c s).receiver.handles = some n) :
    (ConnectionItem.step c s).Live n := by
  cases c with
  | begin t call =>
    simp only [ConnectionItem.step, ConnectionItem.begin] at hn ⊢
    split_ifs at hn ⊢
    · cases call with
      | openSession retry =>
        have hne : n ≠ s.drawn + 1 := fun heq => by
          have := (h.registry.hand n hn).1
          omega
        exact (congrArg ResponseRecord.freed (Function.update_of_ne hne _ s.record)).trans
          (hhand n hn)
      | _ => exact hhand n hn
    · exact hhand n hn
  | host t c =>
    have hn' : s.receiver.handles = some n := receiver_hostStep (s := s) ▸ hn
    exact h.live_hostStep (hhand n hn') hn' hlast
  | receive header =>
    by_cases hlistening : s.receiver = .listening
    · cases header with
      | none =>
        simp only [ConnectionItem.step, ConnectionItem.receive, hlistening] at hn
        cases hn
      | some a =>
        have hrecord : (s.rrmapRemove a.seq).record = s.record := by
          unfold rrmapRemove
          split
          · split_ifs <;> rfl
          · rfl
        simp only [ConnectionItem.step, ConnectionItem.receive, hlistening] at hn ⊢
        cases hfound : s.rrmap.find? a.seq with
        | none =>
          rw [hfound] at hn
          cases hn
        | some k =>
          rw [hfound] at hn
          obtain rfl : k = n := Option.some.inj hn
          have hlive : s.Live k := (h.registry.stored _ k hfound).resolve_right fun hdead => by
            cases (congrArg RecvThread.sweeps hlistening).symm.trans hdead.2
          rw [Live, record_edit_self]
          exact (congrArg ResponseRecord.freed (congrFun hrecord k)).trans hlive
    · have hsame : ConnectionItem.step (.receive header) s = s := by
        simp only [ConnectionItem.step, ConnectionItem.receive]
        split
        · exact absurd ‹_› hlistening
        · exact absurd ‹_› hlistening
        · rfl
      rw [hsame] at hn ⊢
      exact hhand n hn
  | recv ok stale =>
    rw [ConnectionItem.step, ConnectionItem.recvStep] at hn ⊢
    cases hr : s.receiver with
    | listening | ended =>
      rw [hr] at hn
      exact hhand n hn
    | found a rr =>
      rw [hr] at hn
      cases rr with
      | none => cases (next_handles _).symm.trans hn
      | some k =>
        obtain rfl : k = n := Option.some.inj hn
        exact (record_edit_field s ResponseRecord.freed (fill a _) (fun _ => rfl) k k).trans
          (hhand k (congrArg RecvThread.handles hr))
    | waking k dead ok' =>
      rw [hr] at hn
      dsimp only at hn ⊢
      cases hevent : (s.record k).waitEvent with
      | some e =>
        rw [hevent] at hn
        cases (next_handles ok').symm.trans hn
      | none =>
        rw [hevent] at hn
        cases dead with
        | true =>
          obtain rfl : k = n := Option.some.inj hn
          exact hhand k (congrArg RecvThread.handles hr)
        | false => cases (next_handles ok').symm.trans hn
    | killing k ok' =>
      rw [hr] at hn
      cases (next_handles _).symm.trans hn
    | sweeping rest =>
      rw [hr] at hn
      cases rest with
      | nil => cases hn
      | cons p rest =>
        dsimp only at hn
        split at hn <;> cases hn
    | _ =>
      rw [hr] at hn
      cases hn
  | elsewhere => exact hhand n hn

/-- What a step touches is there, except that the receiver may go on with a session whose last
thread has given it back. That takes a thread that leaves a dead session while the receiver is at
it. And no event is signalled after it was closed before the last pass, when nobody is disturbed in
his session. -/
theorem touched_live_of_run (drawn : Nat) {moves : List (BhpMove τ)} {c : BhpMove τ}
    (horderly : Never ConnectionItem.step Disorder (moves ++ [c]) (start drawn)) :
    let s := afterCalls ConnectionItem.step moves (start drawn)
    (∀ n ∈ s.touched c,
      s.Live n ∨ c.byReceiver = true ∧ s.receiver.handles = some n ∧
        (s.record n).isSession = true) ∧
    (Never ConnectionItem.step LastOut moves (start drawn) → ∀ n ∈ s.touched c, s.Live n) ∧
    (Never ConnectionItem.step Disturbs moves (start drawn) → s.lateSignal = true →
      s.receiver.swept = true) := by
  have hbefore := horderly.before (List.prefix_append _ _)
  have htouched := fun n hn =>
    (sound_of_run drawn hbefore).touched_live (n := n) (horderly moves c List.prefix_rfl) hn
  refine ⟨htouched, fun hlast n hn => ?_, fun hcalm =>
    (calm_of_run drawn hbefore hcalm).handover.late rfl⟩
  have hhand := invariant_of_never
    (I := fun s : ConnectionItem τ => s.Sound false ∧ ∀ n, s.receiver.handles = some n → s.Live n)
    (fun _ _ h hc => ⟨h.1.step (fun hk => hc (.inl hk)) (fun hk => by cases hk),
      fun n hn => h.1.hand_live h.2 (fun hk => hc (.inr hk)) hn⟩)
    ⟨sound_start false drawn, fun n hn => by cases hn⟩ (hbefore.or hlast)
  exact (htouched n hn).elim id fun hheld => hhand.2 n hheld.2.1

theorem touched_live_of_sessionShared :
    let s := afterCalls ConnectionItem.step sessionShared (start 0)
    (∀ n ∈ s.touched (.receive (some ⟨1, bheAppletCrashed, 0, none⟩)), s.Live n) ∧
      (s.lateSignal = true → s.receiver.swept = true) :=
  have h := @touched_live_of_run Bool _ 0 sessionShared
    (.receive (some ⟨1, bheAppletCrashed, 0, none⟩))
    (by decide +kernel)
  ⟨h.2.1 (by decide +kernel), h.2.2 (by decide +kernel)⟩

/-- It does happen: the receiver goes on with a session whose memory is gone. -/
example : Never ConnectionItem.step Disorder (sessionGone ++ [.recv true false]) (start 0) ∧
    1 ∈ (afterCalls ConnectionItem.step sessionGone (start 0)).touched (.recv true false) ∧
    ¬(afterCalls ConnectionItem.step sessionGone (start 0)).Live 1 := by
  decide +kernel

/-! ### A session lasts as long as somebody is inside -/

/-- The count of a session is the number of the threads inside; while there is one the memory stays,
and a dead session that nobody is inside of is given back, unless a send that failed left its event
behind or the receiver is at it. -/
theorem heads_of_run (drawn : Nat) {moves : List (BhpMove τ)}
    (horderly : Never ConnectionItem.step Disorder moves (start drawn)) :
    let s := afterCalls ConnectionItem.step moves (start drawn)
    (∀ t n, s.Inside n t → s.Live n ∧ (s.record n).isSession = true) ∧
      ∀ n, s.Live n → (s.record n).isSession = true →
        Headcount (s.Inside n) (s.record n).count ∧ (s.record n).count ≤ maxSessionLimit ∧
          ((s.record n).killed = true → (∀ t, ¬s.Inside n t) →
            (s.record n).waitEvent ≠ none ∨ s.receiver.handles = some n) := by
  have h := sound_of_run drawn horderly
  refine ⟨fun t n ⟨role, hin⟩ => h.registry.inside t n role hin, fun n hlive hsession => ?_⟩
  have hheads := h.registry.counted n hlive hsession
  refine ⟨hheads, count_of_run drawn moves n, fun hdead hnobody => ?_⟩
  obtain hcount | hevent | hdoomed := h.handover.killed n hlive hsession hdead
  · exact absurd (hheads.eq_zero_iff.2 hnobody) hcount
  · exact .inl hevent
  · exact .inr (RecvThread.handles_of_dooms hdoomed)

theorem heads_of_sessionShared :
    let s := afterCalls ConnectionItem.step sessionShared (start 0)
    (∀ t n, s.Inside n t → s.Live n ∧ (s.record n).isSession = true) ∧
      ∀ n, s.Live n → (s.record n).isSession = true →
        Headcount (s.Inside n) (s.record n).count ∧ (s.record n).count ≤ maxSessionLimit ∧
          ((s.record n).killed = true → (∀ t, ¬s.Inside n t) →
            (s.record n).waitEvent ≠ none ∨ s.receiver.handles = some n) :=
  heads_of_run 0 (by decide +kernel)

/-- A lock of a session is held by one of the threads inside, and who sends with the session has it,
unless he opens the session; then nobody else is inside. -/
theorem exclusive_of_run (drawn : Nat) {moves : List (BhpMove τ)}
    (horderly : Never ConnectionItem.step Disorder moves (start drawn)) {rr : Nat}
    {stage : SendStage}
    (ht : ((afterCalls ConnectionItem.step moves (start drawn)).thread t).task =
      .sending n rr stage)
    (hsession : ((afterCalls ConnectionItem.step moves (start drawn)).record n).isSession = true) :
    let s := afterCalls ConnectionItem.step moves (start drawn)
    s.Inside n t ∧ ((s.record n).sessionLock = some t ∨ ∀ u, s.Inside n u → u = t) ∧
      ∀ u rr stage, (s.thread u).task = .sending n rr stage → u = t := by
  have h := sound_of_run drawn horderly
  obtain ⟨role, hin, hright⟩ := h.registry.sender_inside ht hsession
  refine ⟨⟨role, hin⟩, hright.symm.imp id fun hopens u ⟨role', hu⟩ => ?_, fun u rr' stage' hu => ?_⟩
  · exact (h.registry.one t u n role role' hin hopens hu).symm
  · exact h.registry.alone u t n rr' rr stage' stage hu ht

theorem exclusive_of_sessionShared :
    let s := afterCalls ConnectionItem.step sessionShared (start 0)
    s.Inside 1 false ∧ ((s.record 1).sessionLock = some false ∨ ∀ u, s.Inside 1 u → u = false) ∧
      ∀ u rr stage, (s.thread u).task = .sending 1 rr stage → u = false :=
  have ht : ((afterCalls ConnectionItem.step sessionShared (start 0)).thread false).task =
      .sending 1 1 .wait := by
    decide +kernel
  exclusive_of_run 0 (by decide +kernel) ht (by decide +kernel)

end ConnectionItem

end DalHost

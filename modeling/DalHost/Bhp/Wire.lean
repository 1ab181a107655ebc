import DalHost.Bhp.Handover

/-!
# Commands on the wire

A command with data goes out in two calls of the transport, and the firmware tells the parts apart
only by their order. The send lock keeps another command from getting in between. Nothing is asked
of the threads, the firmware or the numbers here.
-/

namespace DalHost

/-- A command as it lies on the wire. -/
inductive WireCommand
  | short (m : Nat)
  | long (m : Nat)
  /-- The transport took the head and refused the data. -/
  | broken (m : Nat)

def WireCommand.parts : WireCommand → List WirePart
  | .short m => [.command m false]
  | .long m => [.command m true, .data m]
  | .broken m => [.command m true, .torn m]

/-- Whole commands, and perhaps the head of one that somebody is sending. -/
def Framed (wire : List WirePart) (unfinished : Option Nat) : Prop :=
  ∃ commands : List WireCommand, wire = commands.flatMap WireCommand.parts ++
    (unfinished.map (WirePart.command · true)).toList

theorem Framed.next {wire : List WirePart} (h : Framed wire none) (c : WireCommand) : Framed
    (wire ++ c.parts) none := by
  obtain ⟨commands, rfl⟩ := h
  exact ⟨commands ++ [c], by simp⟩

theorem Framed.head {wire : List WirePart} (h : Framed wire none) (m : Nat) : Framed
    (wire ++ [.command m true]) (some m) := by
  obtain ⟨commands, rfl⟩ := h
  exact ⟨commands, by simp⟩

theorem Framed.finish {wire : List WirePart} {m : Nat} (h : Framed wire (some m)) (p : WirePart)
    (hp : p = .data m ∨ p = .torn m) :
    Framed (wire ++ [p]) none := by
  obtain ⟨commands, rfl⟩ := h
  obtain rfl | rfl := hp
  · exact ⟨commands ++ [.long m], by simp [WireCommand.parts]⟩
  · exact ⟨commands ++ [.broken m], by simp [WireCommand.parts]⟩

/-- The thread is between `mutex_enter(bhm_send)` and `mutex_exit(bhm_send)`. -/
def HostTask.sendLocked : HostTask → Bool
  | .sending _ _ stage => stage.locked
  | _ => false

/-- The command whose data comes next. -/
def HostTask.unfinished : HostTask → Option Nat
  | .sending m _ .sendData => some m
  | _ => none

namespace ConnectionItem

variable {τ : Type} {s s' : ConnectionItem τ} {t : τ}

structure Transmission (s : ConnectionItem τ) : Prop where
  locked : ∀ t, s.sendLock = some t ↔ (s.thread t).task.sendLocked = true
  framed : Framed s.wire (s.sendLock.bind fun t => (s.thread t).task.unfinished)

theorem Transmission.same (h : s.Transmission) (hthread : s'.thread = s.thread)
    (hlock : s'.sendLock = s.sendLock)
    (hwire : s'.wire = s.wire) : s'.Transmission := by
  constructor <;> simp only [hthread, hlock, hwire]
  · exact h.locked
  · exact h.framed

variable [DecidableEq τ]

theorem Transmission.apart (h : s.Transmission) {th : HostThread}
    (hthread : s'.thread = Function.update s.thread t th)
    (hlock : s'.sendLock = s.sendLock) (hwire : s'.wire = s.wire)
    (hbefore : (s.thread t).task.sendLocked = false)
    (hafter : th.task.sendLocked = false) : s'.Transmission := by
  have hholder : s.sendLock ≠ some t := fun hk => by cases hbefore.symm.trans ((h.locked t).1 hk)
  constructor <;> simp only [hthread, hlock, hwire]
  · intro u
    by_cases hu : u = t
    · subst hu
      simp only [Function.update_self, hafter, hholder, Bool.false_eq_true]
    · simp only [Function.update_of_ne hu]
      exact h.locked u
  · have hsame : (s.sendLock.bind fun u => (Function.update s.thread t th u).task.unfinished) =
        s.sendLock.bind fun u => (s.thread u).task.unfinished := by
      cases hs : s.sendLock with
      | none => rfl
      | some u =>
        have hu : u ≠ t := fun heq => hholder (heq ▸ hs)
        simp only [Option.bind_some, Function.update_of_ne hu]
    exact hsame ▸ h.framed

theorem Transmission.hold (h : s.Transmission) {th : HostThread}
    (hthread : s'.thread = Function.update s.thread t th)
    (hbefore : s.sendLock = some t ∨ s.sendLock = none) (hafter : s'.sendLock = some t)
    (hlocked : th.task.sendLocked = true)
    (hwire : Framed s'.wire th.task.unfinished) : s'.Transmission := by
  constructor
  · intro u
    rw [hthread, hafter]
    by_cases hu : u = t
    · subst hu
      simp only [Function.update_self, hlocked]
    · have := h.locked u
      rw [Function.update_of_ne hu]
      grind
  · rw [hthread, hafter, Option.bind_some, Function.update_self]
    exact hwire

theorem Transmission.release (h : s.Transmission) {th : HostThread}
    (hthread : s'.thread = Function.update s.thread t th)
    (hbefore : s.sendLock = some t) (hafter : s'.sendLock = none)
    (hlocked : th.task.sendLocked = false)
    (hwire : Framed s'.wire none) : s'.Transmission := by
  constructor
  · intro u
    rw [hthread, hafter]
    by_cases hu : u = t
    · subst hu
      simp only [Function.update_self, hlocked, reduceCtorEq, Bool.false_eq_true]
    · have := h.locked u
      rw [Function.update_of_ne hu]
      grind
  · rw [hafter]
    exact hwire

omit [DecidableEq τ] in
theorem transmission_start (drawn : Nat) : (start drawn : ConnectionItem τ).Transmission where
  locked t := iff_of_false (fun h => by cases h) (fun h => by cases h)
  framed := ⟨[], rfl⟩

theorem Transmission.sendStep (h : s.Transmission) {m rr : Nat} {stage : SendStage}
    (ht : (s.thread t).task = .sending m rr stage)
    (c : SendChoice) : (s.sendStep t m rr c stage).Transmission := by
  have hlocked : (s.thread t).task.sendLocked = stage.locked := by rw [ht]; rfl
  have hmine : stage.locked = true → s.sendLock = some t := fun hk => (h.locked t).2
    (hlocked.trans hk)
  -- what is on the wire when the lock is held
  have hwire : stage.locked = true → Framed s.wire (HostTask.sending m rr stage).unfinished := by
    intro hk
    have hframed := h.framed
    rwa [hmine hk, Option.bind_some, ht] at hframed
  have hremove : ∀ q, (s.rrmapRemove q).thread = s.thread ∧ (s.rrmapRemove q).sendLock =
    s.sendLock ∧ (s.rrmapRemove q).wire = s.wire := by
    intro q
    unfold rrmapRemove
    split <;> try split_ifs
    all_goals exact ⟨rfl, rfl, rfl⟩
  cases stage with
  | register => exact h.apart rfl rfl rfl hlocked rfl
  | find =>
    simp only [ConnectionItem.sendStep]
    split <;> exact h.apart rfl rfl rfl hlocked rfl
  | lockSend =>
    simp only [ConnectionItem.sendStep]
    split_ifs with hfree
    · have hframed := h.framed
      rw [hfree] at hframed
      exact h.hold rfl (.inr hfree) rfl rfl hframed
    · exact h
  | arm =>
    simp only [ConnectionItem.sendStep]
    split_ifs <;> exact h.hold rfl (.inl (hmine rfl)) (hmine rfl) rfl (hwire rfl)
  | sendCmd =>
    simp only [ConnectionItem.sendStep]
    split_ifs
    · exact h.hold rfl (.inl (hmine rfl)) (hmine rfl) rfl ((hwire rfl).head m)
    · exact h.hold rfl (.inl (hmine rfl)) (hmine rfl) rfl ((hwire rfl).next (.short m))
    · exact h.hold rfl (.inl (hmine rfl)) (hmine rfl) rfl (hwire rfl)
  | sendData =>
    simp only [ConnectionItem.sendStep]
    split_ifs
    · exact h.hold rfl (.inl (hmine rfl)) (hmine rfl) rfl ((hwire rfl).finish _ (.inl rfl))
    · exact h.hold rfl (.inl (hmine rfl)) (hmine rfl) rfl ((hwire rfl).finish _ (.inr rfl))
  | failed => exact h.hold rfl (.inl (hmine rfl)) (hmine rfl) rfl (hwire rfl)
  | giveUp ret =>
    obtain ⟨hthread, hlock, hw⟩ := hremove (seqOf m)
    have hgoes : (s.sendStep t m rr c (.giveUp ret)).thread = Function.update s.thread t
      { s.thread t with task := .sending m rr (.unlockFailed ret) } := by
      simp only [ConnectionItem.sendStep, goto, setThread, hthread]
    exact h.hold hgoes (.inl (hmine rfl)) (hlock.trans (hmine rfl)) rfl (hw ▸ hwire rfl)
  | unlockFailed ret => exact h.release rfl (hmine rfl) rfl rfl (hwire rfl)
  | unlock =>
    refine h.release rfl (hmine rfl) rfl ?_ (hwire rfl)
    dsimp only
    split_ifs <;> rfl
  | wait =>
    simp only [ConnectionItem.sendStep]
    split_ifs
    · exact h
    · exact h.apart rfl rfl rfl hlocked rfl
  | closeEvent | disarm => exact h.apart rfl rfl rfl hlocked rfl
  | returned ret =>
    simp only [ConnectionItem.sendStep, sendReturned]
    split <;> try split_ifs
    all_goals exact h.apart rfl rfl rfl hlocked rfl

theorem Transmission.hostStep (h : s.Transmission) (c : SendChoice) :
    (s.hostStep t c).Transmission := by
  unfold ConnectionItem.hostStep
  cases htask : (s.thread t).task with
  | idle => exact h
  | drawing => exact h.apart rfl rfl rfl (by rw [htask]; rfl) rfl
  | entering q role =>
    dsimp only
    split_ifs
    · exact h
    · unfold sessionEnter
      split
      · exact h.apart rfl rfl rfl (by rw [htask]; rfl) rfl
      · dsimp only
        split_ifs <;> exact h.apart rfl rfl rfl (by rw [htask]; rfl) rfl
  | locking =>
    cases (s.thread t).session with
    | none => exact h
    | some p =>
      dsimp only
      split_ifs
      · exact h.apart rfl rfl rfl (by rw [htask]; rfl) rfl
      · exact h
  | checking =>
    cases (s.thread t).session with
    | none => exact h
    | some p =>
      dsimp only
      split_ifs <;> exact h.apart rfl rfl rfl (by rw [htask]; rfl) rfl
  | sending m rr stage =>
    dsimp only
    split_ifs
    · exact h
    · exact h.sendStep htask c
  | leaving closes =>
    cases (s.thread t).session with
    | none => exact h
    | some p =>
      dsimp only
      split_ifs
      · exact h
      · unfold sessionLeave
        dsimp only
        split_ifs <;> exact h.apart rfl rfl rfl (by rw [htask]; rfl) rfl

theorem Transmission.step (h : s.Transmission) (c : BhpMove τ) :
    (ConnectionItem.step c s).Transmission := by
  cases c with
  | begin t call =>
    simp only [ConnectionItem.step, begin]
    split_ifs with hidle
    · cases call <;> exact h.apart rfl rfl rfl (by rw [hidle]; rfl) rfl
    · exact h
  | host t c => exact h.hostStep c
  | receive header =>
    simp only [ConnectionItem.step, receive]
    split
    · exact h.same rfl rfl rfl
    · have hremove : ∀ q, (s.rrmapRemove q).thread = s.thread ∧ (s.rrmapRemove q).sendLock =
        s.sendLock ∧ (s.rrmapRemove q).wire = s.wire := by
        intro q
        unfold rrmapRemove
        split <;> try split_ifs
        all_goals exact ⟨rfl, rfl, rfl⟩
      split
      all_goals exact h.same (hremove _).1 (hremove _).2.1 (hremove _).2.2
    · exact h
  | recv ok stale =>
    simp only [ConnectionItem.step, recvStep]
    split <;> try split <;> try split_ifs
    all_goals exact h.same rfl rfl rfl
  | elsewhere => exact h.same rfl rfl rfl

/-- Whatever the threads, the firmware and the transport do: the wire holds whole commands, and at
most the head of one more, which is that of the thread that holds the send lock. -/
theorem framed_of_run (drawn : Nat) (moves : List (BhpMove τ)) :
    let s : ConnectionItem τ := afterCalls ConnectionItem.step moves (start drawn)
    Framed s.wire (s.sendLock.bind fun t => (s.thread t).task.unfinished) ∧
      ∀ t m rr, (s.thread t).task = .sending m rr .sendData → s.sendLock = some t := by
  have h : (afterCalls ConnectionItem.step moves (start drawn) : ConnectionItem τ).Transmission :=
    invariant_of_never (I := Transmission) (B := fun _ _ => False) (fun c _ hs _ => hs.step c)
      (transmission_start drawn) fun _ _ _ => id
  exact ⟨h.framed, fun t m rr ht => (h.locked t).2 (by rw [ht]; rfl)⟩

end ConnectionItem

end DalHost

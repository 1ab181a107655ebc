import DalHost.Bhp.Registry

/-!
# Sessions over time

What any sequence of steps can do to a session: it stays dead when it is dead, a dead one takes
nobody in, and never are there more than `MAX_SESSION_LIMIT` threads inside. Nothing is asked of the
threads, the firmware or the numbers here.
-/

namespace DalHost

namespace ConnectionItem

variable {τ : Type} {s s' s'' : ConnectionItem τ} {t : τ} {n : Nat}

/-- The state `s'` comes after `s`, as far as sessions are concerned. -/
structure Evolves (s s' : ConnectionItem τ) : Prop where
  drawn : s.drawn ≤ s'.drawn
  killed : ∀ k, k ≤ s.drawn → (s.record k).killed = true → (s'.record k).killed = true
  inside : ∀ t k, s'.Inside k t → s.Inside k t ∨ s.drawn < k ∨ (s.record k).killed = false
  count : ∀ k, (s'.record k).count ≤ (s.record k).count ∨ (s'.record k).count ≤ maxSessionLimit

namespace Evolves

theorem same (hdrawn : s'.drawn = s.drawn) (hrecord : s'.record = s.record)
    (hsession : ∀ t, (s'.thread t).session = (s.thread t).session) : s.Evolves s' := by
  refine ⟨Nat.le_of_eq hdrawn.symm, fun k _ hk => hrecord ▸ hk, fun t k hk => .inl ?_,
    fun k => .inl (by rw [hrecord])⟩
  rwa [Inside, hsession] at hk

theorem refl : s.Evolves s := same rfl rfl fun _ => rfl

theorem trans (h : s.Evolves s') (h' : s'.Evolves s'') : s.Evolves s'' := by
  refine ⟨h.drawn.trans h'.drawn, fun k hk hdead => h'.killed k (hk.trans h.drawn)
    (h.killed k hk hdead), fun t k hin => ?_, fun k => ?_⟩
  · obtain hin | hnew | halive := h'.inside t k hin
    · exact h.inside t k hin
    · exact .inr (.inl (Nat.lt_of_le_of_lt h.drawn hnew))
    · by_cases hk : k ≤ s.drawn
      · refine .inr (.inr (Bool.eq_false_iff.2 fun hdead => ?_))
        cases halive.symm.trans (h.killed k hk hdead)
      · exact .inr (.inl (Nat.lt_of_not_le hk))
  · have h₁ := h.count k
    have h₂ := h'.count k
    omega

theorem thenSame (h : s.Evolves s') (hdrawn : s''.drawn = s'.drawn)
    (hrecord : s''.record = s'.record)
    (hsession : ∀ t, (s''.thread t).session = (s'.thread t).session) : s.Evolves s'' :=
      h.trans (same hdrawn hrecord hsession)

theorem edit (h : s.Evolves s') {f : ResponseRecord τ → ResponseRecord τ}
    (hkilled : (s'.record n).killed = true → (f (s'.record n)).killed = true)
    (hcount : (f (s'.record n)).count ≤ (s'.record n).count ∨
      (f (s'.record n)).count ≤ maxSessionLimit) : s.Evolves (s'.edit n f) := by
  refine h.trans ⟨Nat.le_refl _, fun k _ hk => ?_, fun t k hk => .inl hk, fun k => ?_⟩ <;>
    by_cases hkn : k = n
  · subst hkn
    simpa only [ConnectionItem.edit, Function.update_self] using hkilled hk
  · simpa only [ConnectionItem.edit, Function.update_of_ne hkn] using hk
  · subst hkn
    simpa only [ConnectionItem.edit, Function.update_self] using hcount
  · simp only [ConnectionItem.edit, Function.update_of_ne hkn, Nat.le_refl, true_or]

theorem keep (h : s.Evolves s') {f : ResponseRecord τ → ResponseRecord τ}
    (hf : ∀ r, (f r).killed = r.killed ∧ (f r).count = r.count) :
    s.Evolves (s'.edit n f) := h.edit (fun hk => (hf _).1.trans hk) (.inl (Nat.le_of_eq (hf _).2))

theorem destroy (h : s.Evolves s') : s.Evolves (s'.destroy n) := by
  have hedit : s.Evolves (s'.edit n fun r => { r with freed := true, sessionLock := none }) :=
    h.keep fun _ => ⟨rfl, rfl⟩
  exact hedit.thenSame rfl rfl fun _ => rfl

theorem rrmapRemove (h : s.Evolves s') (q : Nat) : s.Evolves (s'.rrmapRemove q) := by
  unfold ConnectionItem.rrmapRemove
  split
  · split_ifs
    · exact h
    · exact h.thenSame rfl rfl fun _ => rfl
  · exact h

variable [DecidableEq τ]

theorem goto (h : s.Evolves s') (task : HostTask) : s.Evolves (s'.goto t task) := by
  refine h.thenSame rfl rfl fun u => ?_
  simp only [ConnectionItem.goto, setThread, Function.update_apply]
  split_ifs with hu <;> simp only [hu]

theorem enter (h : s.Evolves s') {th : HostThread} (hth : ∀ k role, th.session = some (k, role) →
    (s'.record k).killed = false ∨ s'.Inside k t) :
    s.Evolves (s'.setThread t th) := by
  refine h.trans ⟨Nat.le_refl _, fun k _ hk => hk, fun u k hk => ?_, fun k => .inl (Nat.le_refl _)⟩
  simp only [Inside, ConnectionItem.setThread, Function.update_apply] at hk
  split_ifs at hk with hu
  · obtain ⟨role, hrole⟩ := hk
    subst hu
    exact (hth k role hrole).elim (.inr ∘ .inr) .inl
  · exact .inl hk

theorem draw {r : ResponseRecord τ} {session : Option (Nat × SessionRole)} (hr : r.count ≤ 1)
    (hsession : session = (s.thread t).session ∨ ∃ role, session = some
      (s.drawn + 1, role)) : s.Evolves (s.draw t r session) := by
  refine ⟨Nat.le_succ _, fun k hk hdead => ?_, fun u k hin => ?_, fun k => ?_⟩
  · have hne : k ≠ s.drawn + 1 := by omega
    simpa only [ConnectionItem.draw, Function.update_of_ne hne] using hdead
  · simp only [Inside, ConnectionItem.draw, Function.update_apply] at hin
    split_ifs at hin with hu
    · subst hu
      obtain ⟨role, hrole⟩ := hin
      obtain rfl | ⟨role', rfl⟩ := hsession
      · exact .inl ⟨role, hrole⟩
      · cases hrole
        exact .inr (.inl (Nat.lt_succ_self _))
    · exact .inl hin
  · by_cases hk : k = s.drawn + 1
    · subst hk
      refine .inr ?_
      simp only [ConnectionItem.draw, Function.update_self]
      exact hr.trans (by decide)
    · simp only [ConnectionItem.draw, Function.update_of_ne hk, Nat.le_refl, true_or]

end Evolves

theorem evolves_recvStep {ok stale : Bool} : s.Evolves (s.recvStep ok stale) := by
  have hsignal : ∀ {s' : ConnectionItem τ} {k : Nat} {e : WaitEvent} {r : RecvThread},
    s.Evolves s' →
      s.Evolves ((s'.signal k e).setReceiver r) := by
    intro s' k e r h
    have hedit : s.Evolves
      (s'.edit k fun r => { r with waitEvent := some { e with triggered := true } }) := h.keep
      fun _ => ⟨rfl, rfl⟩
    exact hedit.thenSame rfl rfl fun _ => rfl
  have hthen : ∀ {s' : ConnectionItem τ} {r : RecvThread}, s.Evolves s' →
    s.Evolves (s'.setReceiver r) :=
    fun h => h.thenSame rfl rfl fun _ => rfl
  unfold recvStep
  split
  · exact .refl
  · exact .refl
  · dsimp only
    split
    · exact hthen .refl
    · refine hthen (.edit .refl (fun hk => ?_) (.inl (Nat.le_refl _)))
      simp only [fill, hk, Bool.true_or]
  · split
    · exact hsignal .refl
    · exact hthen .refl
  · dsimp only
    split_ifs
    · exact hthen (.destroy (.edit .refl (fun _ => rfl) (.inl (Nat.le_refl _))))
    · exact hthen (.edit .refl (fun _ => rfl) (.inl (Nat.le_refl _)))
  · exact Evolves.refl.thenSame rfl rfl fun _ => rfl
  · exact hthen .refl
  · exact hthen .refl
  · rename_i q n rest hreceiver
    have hcomms : s.Evolves
      (s.edit n fun r => { r with code := bpeCommsError, outstanding := false }) := .keep .refl
      fun _ => ⟨rfl, rfl⟩
    dsimp only
    split
    · refine hsignal (.edit hcomms (fun hk => ?_) (.inl (Nat.le_refl _)))
      simp only [hk, Bool.true_or]
    · split_ifs
      · exact hthen (.destroy hcomms)
      · exact hthen hcomms
  · split_ifs
    all_goals first | exact hthen .refl | exact hthen (Evolves.refl.thenSame rfl rfl fun _ => rfl)
  · exact hthen (Evolves.refl.thenSame rfl rfl fun _ => rfl)

variable [DecidableEq τ]

theorem evolves_sendStep {m rr : Nat} {c : SendChoice}
    {stage : SendStage} : s.Evolves (s.sendStep t m rr c stage) := by
  have hgoto : ∀ (s' : ConnectionItem τ) (task : HostTask), s.Evolves s' →
    s.Evolves (s'.goto t task) := fun s' task h => h.goto task
  have hlock : ∀ holder, s.Evolves (s.setSendLock holder) := fun holder =>
    Evolves.refl.thenSame rfl rfl fun _ => rfl
  have hpost : ∀ p, s.Evolves (s.post p) := fun p => Evolves.refl.thenSame rfl rfl fun _ => rfl
  cases stage with
  | register => exact hgoto (s.setMap _) _ (Evolves.refl.thenSame rfl rfl fun _ => rfl)
  | find =>
    simp only [sendStep]
    split <;> exact hgoto s _ .refl
  | lockSend =>
    simp only [sendStep]
    split_ifs
    · exact hgoto _ _ (hlock _)
    · exact .refl
  | arm =>
    simp only [sendStep]
    split_ifs
    all_goals
      apply hgoto
      exact .keep .refl fun _ => ⟨rfl, rfl⟩
  | sendCmd =>
    simp only [sendStep]
    split_ifs <;> apply hgoto
    · exact hpost _
    · exact .keep (hpost _) fun _ => ⟨rfl, rfl⟩
    · exact .refl
  | sendData =>
    simp only [sendStep]
    split_ifs <;> apply hgoto
    · exact .keep (hpost _) fun _ => ⟨rfl, rfl⟩
    · exact hpost _
  | failed | closeEvent | disarm =>
    simp only [sendStep]
    apply hgoto
    exact .keep .refl fun _ => ⟨rfl, rfl⟩
  | giveUp ret => exact hgoto _ _ (.rrmapRemove .refl _)
  | unlockFailed ret | unlock => exact hgoto _ _ (hlock _)
  | wait =>
    simp only [sendStep]
    split_ifs
    · exact .refl
    · exact hgoto _ _ .refl
  | returned ret =>
    simp only [sendStep, sendReturned]
    generalize (if ret = bhSuccess then (s.record m).code else ret) = answer
    split
    · apply hgoto
      exact .keep .refl fun _ => ⟨rfl, rfl⟩
    · rename_i n retry hin
      split_ifs
      · apply hgoto
        exact .keep .refl fun _ => ⟨rfl, rfl⟩
      · apply hgoto
        exact .keep .refl fun _ => ⟨rfl, rfl⟩
      · have hkept : s.Evolves (s.edit m fun r => { r with buffer := none }) := .keep .refl
          fun _ => ⟨rfl, rfl⟩
        refine hkept.enter fun k role hk => .inr ?_
        cases hk
        exact ⟨_, hin⟩
      · apply hgoto
        exact .keep .refl fun _ => ⟨rfl, rfl⟩
    · apply hgoto
      exact .keep .refl fun _ => ⟨rfl, rfl⟩
    · exact hgoto _ _ .refl
    · apply hgoto
      exact .keep .refl fun _ => ⟨rfl, rfl⟩

theorem evolves_hostStep {c : SendChoice} : s.Evolves (s.hostStep t c) := by
  unfold hostStep
  split
  · exact .draw (Nat.zero_le _) (.inl rfl)
  · split_ifs
    · exact .refl
    · unfold sessionEnter
      split
      · exact .goto .refl _
      · rename_i n hfound
        dsimp only
        by_cases hopen : ((s.record n).isSession && !(s.record n).killed &&
          (s.record n).count < maxSessionLimit) = true
        · rw [if_pos hopen]
          simp only [Bool.and_eq_true, Bool.not_eq_true', decide_eq_true_eq] at hopen
          have hcounted : s.Evolves (s.edit n fun r => { r with count := r.count + 1 }) :=
            .edit .refl id (.inr (Nat.succ_le_of_lt hopen.2))
          refine hcounted.enter fun k role hk => .inl ?_
          cases hk
          simp only [edit, Function.update_self, hopen.1.2]
        · rw [if_neg hopen]
          exact .goto .refl _
  · split_ifs
    · refine Evolves.goto ?_ _
      exact .keep .refl fun _ => ⟨rfl, rfl⟩
    · exact .refl
  · exact .goto .refl _
  · split_ifs
    · exact .refl
    · exact evolves_sendStep
  · split_ifs
    · exact .refl
    · unfold sessionLeave
      dsimp only
      have hleft : ∀ (k : Nat) (killed : Bool) (lock : ResponseRecord τ → Option τ)
          (issued : Nat → Bool), ((s.record k).killed = true → killed = true) →
          s.Evolves { (s.edit k fun r =>
            { r with
              count := (s.record k).count - 1
              killed := killed
              sessionLock := lock r }).setThread t ⟨none, .idle⟩ with issued := issued } := by
        intro k killed lock issued hk
        have hout : s.Evolves ((s.edit k fun r =>
            { r with
              count := (s.record k).count - 1
              killed := killed
              sessionLock := lock r }).setThread t ⟨none, .idle⟩) :=
          .enter (.edit .refl hk (.inl (Nat.sub_le _ _))) fun k role hk => by cases hk
        exact hout.thenSame rfl rfl fun _ => rfl
      split_ifs
      all_goals first
        | exact .destroy (hleft _ _ _ _ fun hk => by rw [hk, Bool.true_or])
        | exact hleft _ _ _ _ fun hk => by rw [hk, Bool.true_or]
  · exact .refl

/-- What one step can do to the sessions. -/
theorem evolves_step (c : BhpMove τ) : s.Evolves (step c s) := by
  cases c with
  | begin t call =>
    simp only [step, begin]
    split_ifs
    · cases call with
      | openSession retry => exact .draw (Nat.le_refl _) (.inr ⟨_, rfl⟩)
      | _ => exact .goto .refl _
    · exact .refl
  | host t c => exact evolves_hostStep
  | receive header =>
    simp only [step, receive]
    split
    · exact Evolves.refl.thenSame rfl rfl fun _ => rfl
    · have hgone : ∀ q log r, s.Evolves { s.rrmapRemove q with log := log, receiver := r } :=
        fun q log r =>
        (Evolves.rrmapRemove .refl q).thenSame rfl rfl fun _ => rfl
      split
      · exact .keep (hgone _ _ _) fun _ => ⟨rfl, rfl⟩
      · exact hgone _ _ _
    · exact .refl
  | recv ok stale => exact evolves_recvStep
  | elsewhere =>
    exact ⟨Nat.le_succ _, fun _ _ => id, fun _ _ => .inl, fun _ => .inl (Nat.le_refl _)⟩

theorem evolves_run (moves : List (BhpMove τ)) : s.Evolves (afterCalls step moves s) :=
  invariant_of_never (I := s.Evolves) (B := fun _ _ => False)
    (fun c _ h _ => h.trans (evolves_step c)) .refl fun _ _ _ => id

/-- A session that is closed or has died takes nobody in any more, and stays dead. -/
theorem closed_of_run (moves : List (BhpMove τ)) (hdrawn : n ≤ s.drawn)
    (hdead : (s.record n).killed = true) :
    ((afterCalls step moves s).record n).killed = true ∧ ∀ t, (afterCalls step moves s).Inside n t →
      s.Inside n t := by
  have h := evolves_run (s := s) moves
  refine ⟨h.killed n hdrawn hdead, fun t hin => (h.inside t n hin).resolve_right ?_⟩
  rintro (hnew | halive)
  · omega
  · cases halive.symm.trans hdead

/-- The thread goes on, and the transport takes what it sends. -/
def goOn (t : τ) : BhpMove τ := .host t ⟨true, false⟩

/-- One of two threads opens a session, and is asleep in a command that it sends with it. -/
def sessionAsleep : List (BhpMove Bool) :=
  .begin false (.openSession false) :: List.replicate 6 (goOn false) ++
    [.receive (some ⟨1, 0, 77, none⟩), .recv true false, .recv true false] ++
    List.replicate 5 (goOn false) ++
    .begin false (.exchange 1) :: List.replicate 8 (goOn false)

/-- The applet crashes meanwhile. -/
def sessionCrashed : List (BhpMove Bool) :=
  sessionAsleep ++ [.receive (some ⟨1, bheAppletCrashed, 0, none⟩), .recv true false,
    .recv true false]

/-- The other thread comes when the session is dead and the first one has not left it yet. -/
theorem closed_of_sessionCrashed :
    let s := afterCalls step sessionCrashed (start 0)
    let moves := [.begin true (.exchange 1), goOn true, goOn true, goOn false]
    ((afterCalls step moves s).record 1).killed = true ∧ ∀ t, (afterCalls step moves s).Inside 1 t →
      s.Inside 1 t :=
  closed_of_run _ (by decide +kernel) (by decide +kernel)

theorem count_of_run (drawn : Nat) (moves : List (BhpMove τ)) (n : Nat) :
    ((afterCalls step moves (start drawn : ConnectionItem τ)).record n).count ≤ maxSessionLimit :=
  ((evolves_run moves).count n).elim (fun h => h.trans (Nat.zero_le _)) id

end ConnectionItem

end DalHost

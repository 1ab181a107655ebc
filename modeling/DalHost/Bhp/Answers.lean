import DalHost.Bhp.Disconnect

/-!
# Whose answer it is

A sender that `bh_send_message` returns to with success finds in its record the first response that
came under its number after it made its event, or the error that the last pass left there. The
numbers tell the responses apart, because no two records of a connection have the same. All this is
about the records for which nothing comes but answers (`Tracked`).
-/

namespace DalHost

namespace ConnectionItem

variable {τ : Type} {calm : Bool} {s s' : ConnectionItem τ} {t : τ} {n m k : Nat}

/-- The first response under the number of the record, since its event was created. -/
def answer (s : ConnectionItem τ) (m : Nat) : Option BhpResponse :=
  (s.log.drop (s.record m).asked).find? fun a => a.seq = seqOf m

/-- What the record holds is its answer. -/
inductive Answered (s : ConnectionItem τ) (m : Nat) : Prop
  | firmware (a : BhpResponse) (ok : Bool) (hanswer : s.answer m = some a)
      (hcode : (s.record m).code = if ok then a.code else bpeCommsError)
      (hbuffer : (s.record m).buffer = a.data)
  | disconnected (hswept : s.receiver.swept = true) (hcode : (s.record m).code = bpeCommsError)

/-- What holds of the answer at a stage. -/
def AnswerAt (s : ConnectionItem τ) (m : Nat) : SendStage → Prop
  | .sendCmd | .sendData => (s.record m).asked ≤ s.log.length ∧ s.answer m = none
  | .unlock | .wait =>
    (s.record m).asked ≤ s.log.length ∧ ((s.record m).outstanding = true → s.answer m = none) ∧
      (∀ a, s.receiver = .found a (some m) → s.answer m = some a) ∧
      (∀ dead ok, s.receiver = .waking m dead ok → s.Answered m) ∧
      ∀ e, (s.record m).waitEvent = some e → e.triggered = true → s.Answered m
  | .closeEvent | .disarm => s.Answered m
  | .giveUp ret | .unlockFailed ret => ret ≠ bhSuccess
  | .returned ret => ret = bhSuccess → s.Answered m
  | .register | .find | .lockSend | .arm | .failed => True

def Answers (calm : Bool) (s : ConnectionItem τ) : Prop :=
  ∀ t m rr st, (s.thread t).task = .sending m rr st → s.Tracked calm m → s.AnswerAt m st

/-- Nothing changes that the answer of the record depends on. -/
structure SameAnswer (s s' : ConnectionItem τ) (m : Nat) : Prop where
  asked : (s'.record m).asked = (s.record m).asked
  code : (s'.record m).code = (s.record m).code
  buffer : (s'.record m).buffer = (s.record m).buffer
  outstanding : (s'.record m).outstanding = (s.record m).outstanding
  event : (s'.record m).waitEvent = (s.record m).waitEvent
  session : (s'.record m).isSession = (s.record m).isSession
  log : s'.log = s.log
  receiver : s'.receiver = s.receiver

theorem SameAnswer.of_record (hrecord : s'.record m = s.record m) (hlog : s'.log = s.log)
    (hreceiver : s'.receiver = s.receiver) : s.SameAnswer s' m := by
  constructor <;> first | rw [hrecord] | assumption

theorem SameAnswer.answer (h : s.SameAnswer s' m) : s'.answer m = s.answer m := by
  rw [ConnectionItem.answer, ConnectionItem.answer, h.asked, h.log]

theorem SameAnswer.answered (h : s.SameAnswer s' m) (ha : s.Answered m) : s'.Answered m := by
  cases ha with
  | firmware a ok hanswer hc hb =>
    exact .firmware a ok (h.answer.trans hanswer) (h.code.trans hc) (h.buffer.trans hb)
  | disconnected hswept hc => exact .disconnected (h.receiver ▸ hswept) (h.code.trans hc)

theorem SameAnswer.at (h : s.SameAnswer s' m) {st : SendStage}
    (ha : s.AnswerAt m st) : s'.AnswerAt m st := by
  cases st with
  | sendCmd | sendData => exact ⟨by rw [h.asked, h.log]; exact ha.1, h.answer.trans ha.2⟩
  | unlock | wait =>
    obtain ⟨hlength, hasks, hfound, hwaking, htriggered⟩ := ha
    simp only [AnswerAt, h.answer, h.outstanding, h.receiver, h.event, h.asked, h.log]
    exact ⟨hlength, hasks, hfound, fun dead ok hk => h.answered (hwaking dead ok hk),
      fun e he hk => h.answered (htriggered e he hk)⟩
  | closeEvent | disarm => exact h.answered ha
  | returned ret => exact fun hk => h.answered (ha hk)
  | _ => exact ha

theorem Answers.own (h : s.Answers calm) (hthread : ∀ u, u ≠ t → s'.thread u = s.thread u)
    (hframe : ∀ u k rr st, u ≠ t → (s.thread u).task = .sending k rr st → s.SameAnswer s' k)
    (ht : ∀ k rr st, (s'.thread t).task = .sending k rr st → s'.Tracked calm k → s'.AnswerAt k st) :
    s'.Answers calm := by
  intro u k rr st hu htracked
  by_cases hut : u = t
  · subst hut
    exact ht k rr st hu htracked
  · rw [hthread u hut] at hu
    have hsame := hframe u k rr st hut hu
    rw [Tracked, hsame.session] at htracked
    exact hsame.at (h u k rr st hu htracked)

theorem SameAnswer.update {r : ResponseRecord τ}
    (hrecord : s'.record = Function.update s.record n r)
    (hlog : s'.log = s.log) (hreceiver : s'.receiver = s.receiver)
    (hasked : r.asked = (s.record n).asked)
    (hcode : r.code = (s.record n).code) (hbuffer : r.buffer = (s.record n).buffer)
    (hout : r.outstanding = (s.record n).outstanding)
    (hevent : r.waitEvent = (s.record n).waitEvent)
    (hsession : r.isSession = (s.record n).isSession) (k : Nat) : s.SameAnswer s' k := by
  by_cases hk : k = n
  · subst hk
    constructor <;> first | assumption | rwa [hrecord, Function.update_self]
  · exact .of_record (by rw [hrecord, Function.update_of_ne hk]) hlog hreceiver

theorem Answers.walk (h : s.Answers calm) (hthread : ∀ u, u ≠ t → s'.thread u = s.thread u)
    (hframe : ∀ k, s.SameAnswer s' k ∨ ∀ u rr st, u ≠ t → (s.thread u).task ≠ .sending k rr st)
    (ht : ∀ k rr st, (s'.thread t).task = .sending k rr st → st = .register ∨
      st = .find) : s'.Answers calm := by
  refine h.own hthread (fun u k rr st hut hu => (hframe k).resolve_right
    fun hk => hk u rr st hut hu)
    fun k rr st hk _ => ?_
  obtain rfl | rfl := ht k rr st hk <;> trivial

section Threads

variable [DecidableEq τ]

theorem Answers.stage (h : s.Answers calm) (hs : s.Sound calm) {rr : Nat} {stage st : SendStage}
    (ht : (s.thread t).task = .sending m rr stage) (hthread : s'.thread = s.thread)
    (hframe : ∀ k, k ≠ m → s.SameAnswer s' k) (hsession :
      (s'.record m).isSession = (s.record m).isSession)
    (hat : s.Tracked calm m → s'.AnswerAt m st) : (s'.goto t (.sending m m st)).Answers calm := by
  refine h.own (t := t) (fun u hu => ?_) (fun u k rr st' hut hu => ?_) fun k rr st' hk htracked =>
    ?_
  · rw [goto, thread_setThread_of_ne _ _ hu, hthread]
  · obtain ⟨hasked, hcode, hbuffer, hout, hevent, hsession, hlog, hreceiver⟩ := hframe k
      (hs.registry.sole ht hu hut)
    exact ⟨hasked, hcode, hbuffer, hout, hevent, hsession, hlog, hreceiver⟩
  · rw [goto, thread_setThread_self] at hk
    cases hk
    have hsame : s'.SameAnswer (s'.goto t (.sending m m st)) m := .of_record rfl rfl rfl
    rw [Tracked, hsame.session, hsession] at htracked
    exact hsame.at (hat htracked)

omit [DecidableEq τ] in
theorem AnswerAt.sent (h : s.AnswerAt m .sendCmd) (hup : s.handle = true)
    (hstage : (s.view m).Strict .sendCmd) (wire : List WirePart) :
    AnswerAt { s.edit m fun r => { r with outstanding := true } with wire := wire } m .unlock := by
  have hnone : ∀ a, s.receiver ≠ .found a (some m) := fun a hk => hstage.1.2
    (congrArg RecvThread.handles hk)
  have hidle : ∀ dead ok, s.receiver ≠ .waking m dead ok :=
    fun dead ok hk => hstage.1.2 (congrArg RecvThread.handles hk)
  simp only [AnswerAt, answer, ConnectionItem.edit, Function.update_self] at h ⊢
  refine ⟨h.1, fun _ => h.2, fun a hk => absurd hk (hnone a), fun dead ok hk => absurd hk
    (hidle dead ok),
    fun e he hk => ?_⟩
  cases he.symm.trans (hstage.2 hup)
  cases hk

omit [DecidableEq τ] in
theorem Answered.withEvent (h : s.Answered m) (event : Option WaitEvent) :
    (s.edit m fun r => { r with waitEvent := event }).Answered m := by
  cases h with
  | firmware a ok hanswer hcode hbuffer =>
    refine .firmware a ok ?_ ?_ ?_ <;> simpa only [answer, ConnectionItem.edit,
      Function.update_self]
  | disconnected hswept hcode =>
    exact .disconnected hswept (by simpa only [ConnectionItem.edit, Function.update_self])

theorem Answers.returned (h : s.Answers calm) (hs : s.Sound calm) {rr : Nat} {ret : BhRet}
    (ht : (s.thread t).task = .sending m rr (.returned ret)) :
    (s.sendReturned t m ret).Answers calm := by
  have hmoved : ∀ (f : ResponseRecord τ → ResponseRecord τ) (th : HostThread),
      (∀ k rr st, th.task = .sending k rr st → st = .find) →
      ((s.edit m f).setThread t th).Answers calm := by
    intro f th hth
    refine h.walk (t := t) (fun u hu => thread_setThread_of_ne _ _ hu) (fun k => ?_)
      fun k rr st hk => ?_
    · by_cases hk : k = m
      · exact .inr fun u rr st hut hu => hs.registry.sole ht hu hut hk
      · exact .inl (.of_record (record_edit_of_ne s f hk) rfl rfl)
    · rw [thread_setThread_self] at hk
      exact .inr (hth k rr st hk)
  unfold sendReturned
  dsimp only
  split
  · exact hmoved _ _ fun _ _ _ hk => by cases hk
  · split_ifs
    · exact hmoved _ _ fun _ _ _ hk => by cases hk; rfl
    · exact hmoved _ _ fun _ _ _ hk => by cases hk
    · exact hmoved _ _ fun _ _ _ hk => by cases hk
    · exact hmoved _ _ fun _ _ _ hk => by cases hk
    all_goals exact hmoved _ _ fun _ _ _ hk => by cases hk
  · exact hmoved _ _ fun _ _ _ hk => by cases hk
  · refine h.walk (t := t) (fun u hu => thread_setThread_of_ne _ _ hu)
      (fun k => .inl (.of_record rfl rfl rfl))
      fun k rr st hk => ?_
    rw [goto, thread_setThread_self] at hk
    cases hk
  · exact hmoved _ _ fun _ _ _ hk => by cases hk

theorem Answers.sendStep (h : s.Answers calm) (hs : s.Sound calm) {c : SendChoice}
    {stage : SendStage}
    (ht : (s.thread t).task = .sending m m stage) : (s.sendStep t m m c stage).Answers calm := by
  have hat := h t m m stage ht
  have hstage := (hs.handover.stages t m m _ ht).strict
  cases stage with
  | register => exact h.stage hs ht rfl (fun _ _ => .of_record rfl rfl rfl) rfl fun _ => trivial
  | find =>
    simp only [ConnectionItem.sendStep]
    split
    · rename_i found hfound
      obtain rfl := hs.handover.mine hs.registry ht SendStage.noConfusion hfound
      exact h.stage hs ht rfl (fun _ _ => .of_record rfl rfl rfl) rfl fun _ => trivial
    · exact h.stage hs ht rfl (fun _ _ => .of_record rfl rfl rfl) rfl fun _ hk => by cases hk
  | lockSend =>
    simp only [ConnectionItem.sendStep]
    split_ifs
    · exact h.stage hs ht rfl (fun _ _ => .of_record rfl rfl rfl) rfl fun _ => trivial
    · exact h
  | arm =>
    simp only [ConnectionItem.sendStep]
    split_ifs
    · refine h.stage hs ht rfl (fun k hk => .of_record (Function.update_of_ne hk _ _) rfl rfl) ?_
        fun _ => ?_
      · rw [record_edit_self]
      · simp only [AnswerAt, answer, edit, Function.update_self, List.drop_length, List.find?_nil,
          Nat.le_refl,
          and_self]
    · refine h.stage hs ht rfl (fun k hk => .of_record (Function.update_of_ne hk _ _) rfl rfl) ?_
        fun _ hk => by cases hk
      rw [record_edit_self]
  | sendCmd =>
    simp only [ConnectionItem.sendStep]
    split_ifs with hok hdata
    · exact h.stage hs ht rfl (fun _ _ => .of_record rfl rfl rfl) rfl hat
    · refine h.stage hs ht rfl (fun k hk => .of_record (Function.update_of_ne hk _ _) rfl rfl) ?_
        fun htracked => ?_
      · rw [record_edit_self]
        rfl
      · exact (hat htracked).sent (Bool.and_eq_true _ _ ▸ hok).1 (hstage htracked) _
    · exact h.stage hs ht rfl (fun _ _ => .of_record rfl rfl rfl) rfl fun _ => trivial
  | sendData =>
    simp only [ConnectionItem.sendStep]
    split_ifs with hok
    · refine h.stage hs ht rfl (fun k hk => .of_record (Function.update_of_ne hk _ _) rfl rfl) ?_
        fun htracked => ?_
      · rw [record_edit_self]
        rfl
      · exact (hat htracked).sent (Bool.and_eq_true _ _ ▸ hok).1 (hstage htracked) _
    · exact h.stage hs ht rfl (fun _ _ => .of_record rfl rfl rfl) rfl fun _ => trivial
  | failed =>
    refine h.stage hs ht rfl (fun k hk => .of_record (Function.update_of_ne hk _ _) rfl rfl) ?_
      fun _ hk => by cases hk
    rw [record_edit_self]
  | giveUp ret =>
    have hsame : ∀ k, s.SameAnswer (s.rrmapRemove (seqOf m)) k := by
      intro k
      unfold rrmapRemove
      split
      · split_ifs <;> exact .of_record rfl rfl rfl
      · exact .of_record rfl rfl rfl
    refine h.stage hs ht ?_ (fun k _ => hsame k) (hsame m).session hat
    unfold rrmapRemove
    split
    · split_ifs <;> rfl
    · rfl
  | unlockFailed ret =>
    exact h.stage hs ht rfl (fun _ _ => .of_record rfl rfl rfl) rfl fun htracked hk => absurd hk
      (hat htracked)
  | unlock =>
    have hsame : s.SameAnswer (s.setSendLock none) m := .of_record rfl rfl rfl
    simp only [ConnectionItem.sendStep, if_neg (hs.handover.event_ne_none ht rfl)]
    refine h.stage hs ht rfl (fun _ _ => .of_record rfl rfl rfl) rfl fun htracked => ?_
    exact hsame.at (hat htracked : s.AnswerAt m .wait)
  | wait =>
    simp only [ConnectionItem.sendStep]
    split_ifs with hwait
    · exact h
    · refine h.stage hs ht rfl (fun _ _ => .of_record rfl rfl rfl) rfl fun htracked => ?_
      cases hstage htracked with
      | owed _ hevent | handled _ hevent =>
        exact absurd (by rw [show (s.record m).waitEvent = _ from hevent]; rfl) hwait
      | signalled hevent => exact (hat htracked).2.2.2.2 _ hevent rfl
  | closeEvent =>
    refine h.stage hs ht rfl (fun k hk => .of_record (Function.update_of_ne hk _ _) rfl rfl) ?_
      fun htracked => (hat htracked).withEvent _
    rw [record_edit_self]
  | disarm =>
    refine h.stage hs ht rfl (fun k hk => .of_record (Function.update_of_ne hk _ _) rfl rfl) ?_
      fun htracked _ => (hat htracked).withEvent _
    rw [record_edit_self]
  | returned ret => exact h.returned hs ht

theorem Answers.moved (h : s.Answers calm) (th : HostThread)
    (hthread : s'.thread = Function.update s.thread t th)
    (hframe : ∀ k, s.SameAnswer s' k) (hth : ∀ k rr st, th.task = .sending k rr st → st = .find) :
    s'.Answers calm := by
  refine h.walk (t := t) (fun u hu => ?_) (fun k => .inl (hframe k)) fun k rr st hk => ?_
  · rw [hthread, Function.update_of_ne hu]
  · rw [hthread, Function.update_self] at hk
    exact .inr (hth k rr st hk)

theorem Answers.draw (h : s.Answers calm) (hs : s.Sound calm) (hnumber : ¬s.NumberInUse)
    (r : ResponseRecord τ)
    (session : Option (Nat × SessionRole)) : (s.draw t r session).Answers calm := by
  refine h.walk (t := t) (fun u hu => Function.update_of_ne hu _ _) (fun k => ?_) fun k rr st hk =>
    ?_
  · by_cases hk : k = s.drawn + 1
    · refine .inr fun u rr st _ hu => ?_
      exact (hs.registry.fresh hnumber k (.inl (hs.registry.sent hu).2)).1 hk
    · exact .inl (.of_record (Function.update_of_ne hk _ _) rfl rfl)
  · simp only [ConnectionItem.draw, Function.update_self] at hk
    cases hk
    exact .inl rfl

theorem Answers.hostStep (h : s.Answers calm) (hs : s.Sound calm) {c : SendChoice}
    (hdisorder : ¬s.Disorder (.host t c)) : (s.hostStep t c).Answers calm := by
  unfold ConnectionItem.hostStep
  cases htask : (s.thread t).task with
  | idle => exact h
  | drawing =>
    rw [Disorder, htask] at hdisorder
    exact h.draw hs hdisorder _ _
  | entering q role =>
    dsimp only
    split_ifs
    · exact h
    · unfold sessionEnter
      split
      · exact h.moved _ rfl (fun _ => .of_record rfl rfl rfl) fun _ _ _ hk => by cases hk
      · rename_i n _
        dsimp only
        split_ifs with hopen hlocks
        · exact h.moved _ rfl (SameAnswer.update (n := n) rfl rfl rfl rfl rfl rfl rfl rfl rfl)
            fun _ _ _ hk => by cases hk
        · exact h.moved _ rfl (SameAnswer.update (n := n) rfl rfl rfl rfl rfl rfl rfl rfl rfl)
            fun _ _ _ hk => by cases hk
        · exact h.moved _ rfl (fun _ => .of_record rfl rfl rfl) fun _ _ _ hk => by cases hk
  | locking =>
    cases hin : (s.thread t).session with
    | none => exact h
    | some p =>
      dsimp only
      split_ifs
      · exact h.moved _ rfl (SameAnswer.update (n := p.1) rfl rfl rfl rfl rfl rfl rfl rfl rfl)
          fun _ _ _ hk => by cases hk
      · exact h
  | checking =>
    cases hin : (s.thread t).session with
    | none => exact h
    | some p =>
      refine h.moved _ rfl (fun _ => .of_record rfl rfl rfl) fun k rr st hk => ?_
      dsimp only at hk
      split_ifs at hk
      cases hk
      rfl
  | sending m rr stage =>
    obtain ⟨rfl, -⟩ := hs.registry.sent htask
    dsimp only
    split_ifs
    · exact h
    · exact h.sendStep hs htask
  | leaving closes =>
    cases hin : (s.thread t).session with
    | none => exact h
    | some p =>
      obtain ⟨n, role⟩ := p
      dsimp only
      split_ifs
      · exact h
      · unfold sessionLeave
        dsimp only
        by_cases hgoes : (s.record n).count - 1 = 0 ∧ ((s.record n).killed || closes) = true
        · rw [if_pos hgoes]
          refine h.moved ⟨none, .idle⟩ rfl (SameAnswer.update (n := n)
            (Function.update_idem _ _ _) rfl rfl
            ?_ ?_ ?_ ?_ ?_ ?_) fun _ _ _ hk => by cases hk
          all_goals simp only [ConnectionItem.edit, setThread, Function.update_self]
        · rw [if_neg hgoes]
          exact h.moved ⟨none, .idle⟩ rfl (SameAnswer.update (n := n) rfl rfl rfl rfl rfl rfl rfl
            rfl rfl)
            fun _ _ _ hk => by cases hk

theorem Answers.begin (h : s.Answers calm) (hs : s.Sound calm) {call : HostCall}
    (hnumber : ∀ retry, call = .openSession retry → ¬s.NumberInUse) :
    (s.begin t call).Answers calm := by
  unfold ConnectionItem.begin
  split_ifs
  · cases call with
    | openSession retry => exact h.draw hs (hnumber retry rfl) _ _
    | command | exchange q | closeSession q | forceClose q =>
      exact h.moved _ rfl (fun _ => .of_record rfl rfl rfl) fun _ _ _ hk => by cases hk
  · exact h

end Threads

/-! ### The receiver -/

theorem Answered.mono (h : s.Answered m) (hcode : (s'.record m).code = (s.record m).code)
    (hbuffer : (s'.record m).buffer = (s.record m).buffer)
    (hanswer : ∀ a, s.answer m = some a → s'.answer m = some a)
    (hswept : s.receiver.swept = true → s'.receiver.swept = true) : s'.Answered m := by
  cases h with
  | firmware a ok ha hc hb =>
    exact .firmware a ok (hanswer a ha) (hcode.trans hc) (hbuffer.trans hb)
  | disconnected hs hc => exact .disconnected (hswept hs) (hcode.trans hc)

theorem AnswerAt.pass {st : SendStage} (h : s.AnswerAt m st) (hrecord : s'.record m = s.record m)
    (hlog : s'.log = s.log) (hswept : s.receiver.swept = true → s'.receiver.swept = true)
    (hhandles : s'.receiver.handles ≠ some m) : s'.AnswerAt m st := by
  have hanswer : s'.answer m = s.answer m := by rw [answer, answer, hrecord, hlog]
  have hmono : s.Answered m → s'.Answered m := fun hk =>
    hk.mono (by rw [hrecord]) (by rw [hrecord]) (fun a ha => hanswer.trans ha) hswept
  cases st with
  | sendCmd | sendData => exact ⟨by rw [hrecord, hlog]; exact h.1, hanswer.trans h.2⟩
  | unlock | wait =>
    obtain ⟨hlength, hasks, -, -, htriggered⟩ := h
    refine ⟨by rw [hrecord, hlog]; exact hlength, by rw [hrecord, hanswer]; exact hasks,
      fun a hk => ?_,
      fun dead ok hk => ?_, fun e he hk => ?_⟩
    · exact absurd (congrArg RecvThread.handles hk) hhandles
    · exact absurd (congrArg RecvThread.handles hk) hhandles
    · exact hmono (htriggered e (hrecord ▸ he) hk)
  | closeEvent | disarm => exact hmono h
  | returned ret => exact fun hk => hmono (h hk)
  | _ => exact h

theorem answerAt_iff {st : SendStage} (hst : st.sleeps = true) : s.AnswerAt m st ↔
    s.AnswerAt m .wait := by
  cases st <;> first | exact Iff.rfl | cases hst

theorem AnswerAt.comms {st : SendStage} (h : s.AnswerAt m st)
    (hasked : (s'.record m).asked = (s.record m).asked)
    (hlog : s'.log = s.log) (hout : (s'.record m).outstanding = false)
    (hcode : (s'.record m).code = bpeCommsError) (hswept : s'.receiver.swept = true)
    (hhandles : s'.receiver.handles ≠ some m) : s'.AnswerAt m st := by
  have hanswer : s'.answer m = s.answer m := by rw [answer, answer, hasked, hlog]
  have hdone : s'.Answered m := .disconnected hswept hcode
  cases st with
  | sendCmd | sendData => exact ⟨by rw [hasked, hlog]; exact h.1, hanswer.trans h.2⟩
  | unlock | wait =>
    refine ⟨by rw [hasked, hlog]; exact h.1, fun hk => (by cases hout.symm.trans hk),
      fun a hk => ?_,
      fun dead ok hk => ?_, fun e he hk => hdone⟩
    · exact absurd (congrArg RecvThread.handles hk) hhandles
    · exact absurd (congrArg RecvThread.handles hk) hhandles
  | closeEvent | disarm => exact hdone
  | returned ret => exact fun _ => hdone
  | _ => exact h

section Receive

variable {a : BhpResponse} (hlog : s'.log = s.log ++ [a])
  (hasked : (s'.record m).asked = (s.record m).asked)
include hlog hasked

theorem answer_grow {b : BhpResponse} (h : s.answer m = some b) : s'.answer m = some b := by
  rw [answer, hlog, hasked, List.drop_append, List.find?_append, show List.find? _ _ = _ from h]
  rfl

theorem answer_other (hseq : a.seq ≠ seqOf m) (h : s.answer m = none) : s'.answer m = none := by
  rw [answer, hlog, hasked, List.drop_append, List.find?_append, show List.find? _ _ = _ from h,
    Option.none_or,
    List.find?_eq_none]
  intro b hb
  have hb : b = a := List.mem_singleton.1 (List.drop_subset _ _ hb)
  simpa [hb] using hseq

theorem answer_new (hlength : (s.record m).asked ≤ s.log.length) (hseq : a.seq = seqOf m)
    (h : s.answer m = none) : s'.answer m = some a := by
  rw [answer, hlog, hasked, List.drop_append_of_le_length hlength, List.find?_append,
    show List.find? _ _ = _ from h, Option.none_or]
  simp [hseq]

end Receive

theorem AnswerAt.other (h : s.Sound calm) {a : BhpResponse} (hlistening : s.receiver = .listening)
    {rr : Nat}
    {st : SendStage} (ht : (s.thread t).task = .sending k rr st) (htracked : s.Tracked calm k)
    (hat : s.AnswerAt k st) (hnumber : s.rrmap.find? a.seq ≠ some k)
    (hrecord : s'.record k = s.record k)
    (hlog : s'.log = s.log ++ [a]) (hhandles : s'.receiver.handles ≠ some k) :
    s'.AnswerAt k st := by
  have hup : s.handle = true := by
    rw [h.handover.up, hlistening]
    rfl
  have hstage := h.handover.stages t k rr st ht
  have hasked : (s'.record k).asked = (s.record k).asked := by rw [hrecord]
  have hmono : s.Answered k → s'.Answered k := fun hk =>
    hk.mono (by rw [hrecord]) (by rw [hrecord]) (fun b hb => answer_grow hlog hasked hb)
      fun hswept => by
      cases (congrArg RecvThread.swept hlistening).symm.trans hswept
  have hseq : (s.view k).mapped → a.seq ≠ seqOf k := fun hmapped heq => hnumber (heq ▸ hmapped)
  have hlength : (s.record k).asked ≤ s.log.length → (s'.record k).asked ≤ s'.log.length :=
    fun hk => by
    rw [hrecord, hlog, List.length_append]
    exact Nat.le_add_right_of_le hk
  cases st with
  | sendCmd | sendData =>
    exact ⟨hlength hat.1, answer_other hlog hasked (hseq (hstage.safe.1 hup)) hat.2⟩
  | unlock | wait =>
    refine ⟨hlength hat.1, fun hout => ?_, fun b hk => ?_, fun dead ok hk => ?_, fun e he hk => ?_⟩
    · rw [hrecord] at hout
      cases hstage.strict htracked with
      | owed _ _ hmapped => exact answer_other hlog hasked (hseq hmapped) (hat.2.1 hout)
      | handled _ _ hdone => cases hdone.symm.trans hout
      | signalled _ hquiet => cases hquiet.1.symm.trans hout
    · exact absurd (congrArg RecvThread.handles hk) hhandles
    · exact absurd (congrArg RecvThread.handles hk) hhandles
    · exact hmono (hat.2.2.2.2 e (hrecord ▸ he) hk)
  | closeEvent | disarm => exact hmono hat
  | returned ret => exact fun hk => hmono (hat hk)
  | _ => exact hat

theorem Answers.receive (h : s.Answers calm) (hs : s.Sound calm) {header : Option BhpResponse}
    (hpremature : ∀ a, header = some a → ¬s.Premature a)
    (hcalm : calm = true → ¬s.Disturbs (.receive header)) :
    (s.receive header).Answers calm := by
  unfold ConnectionItem.receive
  split
  · rename_i hlistening
    refine fun u k rr st hu htracked => (h u k rr st hu htracked).pass rfl rfl (fun hk => ?_)
      fun hk => by cases hk
    cases (congrArg RecvThread.swept hlistening).symm.trans hk
  · rename_i a hlistening
    have hremove : (s.rrmapRemove a.seq).record = s.record ∧
      (s.rrmapRemove a.seq).thread = s.thread := by
      unfold rrmapRemove
      split
      · split_ifs <;> exact ⟨rfl, rfl⟩
      · exact ⟨rfl, rfl⟩
    dsimp only
    cases hfound : s.rrmap.find? a.seq with
    | none =>
      intro u k rr st hu htracked
      have hrecord := congrFun hremove.1 k
      replace hu : (s.thread u).task = .sending k rr st := hremove.2 ▸ hu
      replace htracked : s.Tracked calm k :=
        htracked.imp id (congrArg ResponseRecord.isSession hrecord).symm.trans
      refine AnswerAt.other hs hlistening hu htracked (h u k rr st hu htracked)
        (fun hk => ?_) hrecord rfl
        fun hk => by cases hk
      cases hfound.symm.trans hk
    | some n =>
      intro u k rr st hu htracked
      have hrecord : (ConnectionItem.edit { s.rrmapRemove a.seq with
          log := s.log ++ [a], receiver := .found a (some n) } n
            fun r => { r with outstanding := false }).record =
          Function.update s.record n { s.record n with outstanding := false } := by
        simp only [edit, hremove.1]
      replace hu : (s.thread u).task = .sending k rr st := hremove.2 ▸ hu
      rw [Tracked, hrecord] at htracked
      by_cases hk : k = n
      · subst hk
        rw [Function.update_self] at htracked
        have hseq := hs.registry.keyed _ k hfound
        have hstage := hs.handover.stages u k rr st hu
        have hout : (s.record k).outstanding = true :=
          (Sound.owed hlistening hfound (hpremature a rfl) hcalm htracked).resolve_right
            fun hidle =>
            hs.registry.count_ne_zero hu hidle.1 hidle.2.1
        have hsleeps := (hstage.strict htracked).sleeps_of_outstanding hout
        have hat := (answerAt_iff hsleeps).1 (h u k rr st hu htracked)
        have hevent : (s.record k).waitEvent = some ⟨false, false⟩ := by
          cases (RecordView.strict_iff_awaited hsleeps).1 (hstage.strict htracked) with
          | owed _ hevent | handled _ hevent => exact hevent
          | signalled _ hquiet => cases hquiet.1.symm.trans hout
        rw [answerAt_iff hsleeps]
        refine ⟨?_, fun hk => ?_, fun b hk => ?_, fun dead ok hk => (by cases hk), fun e he hk =>
          ?_⟩
        · rw [hrecord, Function.update_self]
          exact hat.1.trans (by simp only [edit, List.length_append, Nat.le_add_right])
        · rw [hrecord, Function.update_self] at hk
          cases hk
        · cases hk
          exact answer_new rfl (by rw [hrecord, Function.update_self]) hat.1
            hseq.symm (hat.2.1 hout)
        · rw [hrecord, Function.update_self] at he
          cases hevent.symm.trans he
          cases hk
      · rw [Function.update_of_ne hk] at htracked
        refine AnswerAt.other hs hlistening hu htracked (h u k rr st hu htracked)
          (fun heq => ?_) ?_ rfl fun heq => ?_
        · exact hk (Option.some.inj (heq.symm.trans hfound))
        · rw [hrecord, Function.update_of_ne hk]
        · exact hk (Option.some.inj heq).symm
  · exact h

theorem Answers.turn (h : s.Answers calm) (n : Nat) (hthread : s'.thread = s.thread)
    (hlog : s'.log = s.log)
    (hother : ∀ k, k ≠ n → s'.record k = s.record k)
    (hsession : (s'.record n).isSession = (s.record n).isSession)
    (hswept : s.receiver.swept = true → s'.receiver.swept = true)
    (hhandles : ∀ k, k ≠ n → s'.receiver.handles ≠ some k)
    (hn : ∀ u rr st, (s.thread u).task = .sending n rr st → s.Tracked calm n → s'.AnswerAt n st) :
    s'.Answers calm := by
  intro u k rr st hu htracked
  rw [hthread] at hu
  by_cases hk : k = n
  · subst hk
    rw [Tracked, hsession] at htracked
    exact hn u rr st hu htracked
  · rw [Tracked, hother k hk] at htracked
    exact (h u k rr st hu htracked).pass (hother k hk) hlog hswept (hhandles k hk)

theorem Answers.pass (h : s.Answers calm) (hthread : s'.thread = s.thread) (hlog : s'.log = s.log)
    (hrecord : s'.record = s.record) (hswept : s.receiver.swept = true → s'.receiver.swept = true)
    (hhandles : s'.receiver.handles = none) : s'.Answers calm := by
  intro u k rr st hu htracked
  rw [hthread] at hu
  rw [Tracked, hrecord] at htracked
  refine (h u k rr st hu htracked).pass (by rw [hrecord]) hlog hswept fun hk => ?_
  cases hhandles.symm.trans hk

theorem Answers.filled (h : s.Answers calm) (hs : s.Sound calm) {a : BhpResponse} {ok : Bool}
    (hreceiver : s.receiver = .found a (some n)) :
    ((s.edit n (fill a ok)).setReceiver (.waking n
      ((s.record n).isSession && sessionDead (if ok then a.code else bpeCommsError)) ok)).Answers
        calm := by
  have hself := record_edit_self s n (fill a ok)
  refine h.turn n rfl rfl (fun k hk => record_edit_of_ne s _ hk) ?_ (fun hk => ?_)
    (fun k hk heq => hk (Option.some.inj heq).symm) fun u rr st hu htracked => ?_
  · exact record_edit_field s ResponseRecord.isSession (fill a ok) (fun _ => rfl) n n
  · cases (congrArg RecvThread.swept hreceiver).symm.trans hk
  · have hsleeps := ((hs.handover.stages u n rr st hu).strict htracked).sleeps_of_handled
      (congrArg RecvThread.handles hreceiver)
    have hat := (answerAt_iff hsleeps).1 (h u n rr st hu htracked)
    have hanswer := hat.2.2.1 a hreceiver
    rw [answerAt_iff hsleeps]
    have hdone : ((s.edit n (fill a ok)).setReceiver (.waking n
        ((s.record n).isSession && sessionDead (if ok then a.code else bpeCommsError)) ok)).Answered
          n := by
      refine .firmware a ok ?_ ?_ ?_
      · rw [answer, setReceiver, hself]
        exact hanswer
      · rw [setReceiver, hself]
        rfl
      · rw [setReceiver, hself]
        rfl
    refine ⟨?_, fun hout => ?_, fun b hk => (by cases hk), fun _ _ _ => hdone, fun _ _ _ => hdone⟩
    · rw [setReceiver, hself]
      exact hat.1
    · rw [setReceiver, hself] at hout
      cases hanswer.symm.trans (hat.2.1 hout)

theorem Answers.signalled (h : s.Answers calm) (hs : s.Sound calm) {dead ok : Bool} {e : WaitEvent}
    (hreceiver : s.receiver = .waking n dead ok) :
    ((s.signal n e).setReceiver (.next ok)).Answers calm := by
  have hself :
    (s.signal n e).record n = { s.record n with waitEvent := some { e with triggered := true } } :=
    record_edit_self s n fun r => { r with waitEvent := some { e with triggered := true } }
  have hcalm : s.receiver.swept = false := congrArg RecvThread.swept hreceiver
  refine h.turn n rfl rfl (fun k hk => Function.update_of_ne hk _ _) ?_ (fun hk => ?_)
    (fun k _ hk => ?_)
    fun u rr st hu htracked => ?_
  · rw [setReceiver, hself]
  · cases hcalm.symm.trans hk
  · cases (next_handles ok).symm.trans hk
  · have hsleeps := ((hs.handover.stages u n rr st hu).strict htracked).sleeps_of_handled
      (congrArg RecvThread.handles hreceiver)
    have hat := (answerAt_iff hsleeps).1 (h u n rr st hu htracked)
    have hanswer : ((s.signal n e).setReceiver (.next ok)).answer n = s.answer n := by
      rw [answer, answer, setReceiver, hself]
      rfl
    have hdone : ((s.signal n e).setReceiver (.next ok)).Answered n := by
      refine (hat.2.2.2.1 dead ok hreceiver).mono ?_ ?_ (fun b hb => hanswer.trans hb) fun hk => ?_
      · rw [setReceiver, hself]
      · rw [setReceiver, hself]
      · cases hcalm.symm.trans hk
    rw [answerAt_iff hsleeps]
    refine ⟨?_, fun hout => ?_, fun b hk => ?_, fun _ _ _ => hdone, fun _ _ _ => hdone⟩
    · rw [setReceiver, hself]
      exact hat.1
    · rw [setReceiver, hself] at hout
      exact hanswer.trans (hat.2.1 hout)
    · cases (next_handles ok).symm.trans (congrArg RecvThread.handles hk)

theorem Answers.recvStep (h : s.Answers calm) (hs : s.Sound calm) {ok stale : Bool} :
    (s.recvStep ok stale).Answers calm := by
  unfold ConnectionItem.recvStep
  split
  · exact h
  · exact h
  · rename_i a rr hreceiver
    dsimp only
    cases rr with
    | none =>
      refine h.pass rfl rfl rfl (fun hk => ?_) (next_handles _)
      cases (congrArg RecvThread.swept hreceiver).symm.trans hk
    | some n => exact h.filled hs hreceiver
  · rename_i n dead ok' hreceiver
    split
    · exact h.signalled hs hreceiver
    · rename_i hevent
      have hnobody : s.Tracked calm n → ∀ u rr st, (s.thread u).task ≠ .sending n rr st :=
        fun htracked u rr st hu => hs.registry.count_ne_zero hu
          (hs.skipped hreceiver hevent htracked).1
          (hs.skipped hreceiver hevent htracked).2.1
      refine h.turn n rfl rfl (fun _ _ => rfl) rfl (fun hk => ?_) (fun k hk heq => ?_)
        fun u rr st hu htracked => absurd hu (hnobody htracked u rr st)
      · cases (congrArg RecvThread.swept hreceiver).symm.trans hk
      · cases dead with
        | true => exact hk (Option.some.inj heq).symm
        | false => cases (next_handles ok').symm.trans heq
  · rename_i n ok' hreceiver
    have hsession := hs.handover.dooms n (congrArg RecvThread.dooms hreceiver)
    have hself := record_edit_self s n fun r => { r with killed := true }
    have hnobody : s.Tracked calm n → ∀ u rr st, (s.thread u).task ≠ .sending n rr st := by
      rintro (hcalm | hcommand) u rr st hu
      · exact hs.registry.count_ne_zero hu hsession (hs.handover.killing n ok' hreceiver hcalm).2.1
      · cases hsession.symm.trans hcommand
    refine h.turn n ?_ ?_ (fun k hk => ?_) ?_ (fun hk => ?_) (fun k _ hk => ?_)
      fun u rr st hu htracked => absurd hu (hnobody htracked u rr st)
    · dsimp only
      split_ifs <;> rfl
    · dsimp only
      split_ifs <;> rfl
    · dsimp only
      split_ifs <;> simp only [destroy, edit, setMap, setReceiver, Function.update_of_ne hk]
    · dsimp only
      split_ifs <;> simp only [destroy, edit, setMap, setReceiver, Function.update_self]
    · cases (congrArg RecvThread.swept hreceiver).symm.trans hk
    · cases (next_handles ok').symm.trans hk
  · rename_i hreceiver
    refine h.pass rfl rfl rfl (fun hk => ?_) rfl
    cases (congrArg RecvThread.swept hreceiver).symm.trans hk
  · exact h.pass rfl rfl rfl (fun _ => rfl) rfl
  · exact h.pass rfl rfl rfl (fun _ => rfl) rfl
  · rename_i q n rest hreceiver
    have hself :=
      record_edit_self s n fun r => { r with code := bpeCommsError, outstanding := false }
    dsimp only
    split
    · refine h.turn n rfl rfl (fun k hk => ?_) ?_ (fun _ => rfl) (fun _ _ hk => by cases hk)
        fun u rr st hu htracked => ?_
      · simp only [signal, edit, setReceiver, Function.update_of_ne hk]
      · simp only [signal, edit, setReceiver, Function.update_self]
      · refine (h u n rr st hu htracked).comms ?_ rfl ?_ ?_ rfl fun hk => by cases hk
        all_goals simp only [signal, edit, setReceiver, Function.update_self]
    · split_ifs with hempty
      · rw [hself, Bool.and_eq_true, decide_eq_true_eq] at hempty
        refine h.turn n rfl rfl (fun k hk => ?_) ?_ (fun _ => rfl) (fun _ _ hk => by cases hk)
          fun u rr st hu _ => ?_
        · simp only [destroy, edit, setMap, setReceiver, Function.update_of_ne hk]
        · simp only [destroy, edit, setMap, setReceiver, Function.update_self]
        · exact absurd hempty.2 (hs.registry.count_ne_zero hu hempty.1)
      · refine h.turn n rfl rfl (fun k hk => Function.update_of_ne hk _ _) ?_ (fun _ => rfl)
          (fun _ _ hk => by cases hk)
          fun u rr st hu htracked => ?_
        · rw [setReceiver, hself]
        · refine (h u n rr st hu htracked).comms ?_ rfl ?_ ?_ rfl fun hk => by cases hk
          all_goals rw [setReceiver, hself]
  · refine h.pass ?_ ?_ ?_ (fun _ => rfl) rfl <;> split_ifs <;> rfl
  · exact h.pass rfl rfl rfl (fun _ => rfl) rfl

theorem Answers.step [DecidableEq τ] (h : s.Answers calm) (hs : s.Sound calm) {c : BhpMove τ}
    (hdisorder : ¬s.Disorder c) (hcalm : calm = true → ¬s.Disturbs c) :
    (ConnectionItem.step c s).Answers calm := by
  cases c with
  | begin t call =>
    refine h.begin hs fun retry heq => ?_
    rw [heq] at hdisorder
    exact hdisorder
  | host t c => exact h.hostStep hs hdisorder
  | receive header =>
    refine h.receive hs (fun a heq => ?_) hcalm
    rw [heq] at hdisorder
    exact hdisorder
  | recv ok stale => exact h.recvStep hs
  | elsewhere =>
    intro u k rr st hu htracked
    have hsame : s.SameAnswer { s with drawn := s.drawn + 1 } k := .of_record rfl rfl rfl
    have hat : s.AnswerAt k st := h u k rr st hu htracked
    exact hsame.at hat

end ConnectionItem

end DalHost

import DalHost.Bhp.Registry

/-!
# The handover of a response

What a sender relies on at each stage, as far as it depends on its own record: whether the record is
in the map, what its event is, whether the firmware owes an answer, and how far the receiver has
come with it (`RecordView`). A step of another thread does not show in this view.

Of a command the firmware says nothing but its answer. Of a session it may say that it is dead at
any time, so that a sender may be woken by something that is not its answer; what the sender can
rely on then is `RecordView.Safe`. When every message for a session is an answer, or comes while
nobody is inside of it and nobody enters, its records are as predictable as those of commands
(`RecordView.Strict`); the invariant is about both, and `calm` says which.
-/

namespace DalHost

/-- The receiver has begun its last pass over the map. -/
def RecvThread.swept : RecvThread → Bool
  | .sweeping _ | .erasing .. | .clearing | .ended => true
  | _ => false

/-- The handle is zero. -/
def RecvThread.down : RecvThread → Bool
  | .closed | .sweeping _ | .erasing .. | .clearing | .ended => true
  | _ => false

/-- The record whose event the receiver is going to signal. -/
def RecvThread.wakes : RecvThread → Option Nat
  | .found _ rr => rr
  | .waking n _ _ => some n
  | _ => none

/-- The session that the receiver knows to be dead. -/
def RecvThread.dooms : RecvThread → Option Nat
  | .waking n true _ | .killing n _ => some n
  | _ => none

theorem RecvThread.down_of_swept {r : RecvThread} (h : r.swept = true) : r.down = true := by
  cases r <;> first | rfl | cases h

theorem RecvThread.rest_of_not_holdsMap {r : RecvThread}
    (h : r.holdsMap = false) : r.rest = [] := by
  cases r <;> first | rfl | cases h

theorem RecvThread.not_erasing {r : RecvThread} (h : r.holdsMap = false) (q n : Nat)
    (rest : List (Nat × Nat)) : r ≠ .erasing q n rest := by
  rintro rfl
  cases h

theorem RecvThread.handles_of_wakes {r : RecvThread} {n : Nat} (h : r.wakes = some n) :
    r.handles = some n := by
  cases r with
  | found a rr => exact h
  | waking k dead ok => exact h
  | _ => cases h

theorem RecvThread.handles_of_dooms {r : RecvThread} {n : Nat} (h : r.dooms = some n) :
    r.handles = some n := by
  cases r with
  | waking k dead ok =>
    cases dead with
    | false => cases h
    | true => exact h
  | killing k ok => exact h
  | _ => cases h

/-- The state as it concerns one record. -/
@[ext]
structure RecordView where
  event : Option WaitEvent
  outstanding : Bool
  isSession : Bool
  /-- The record is in the map under its number. -/
  mapped : Prop
  handle : Bool
  handled : Prop
  /-- The receiver is going to signal the event. -/
  wakes : Prop
  sweeps : Bool
  swept : Bool
  /-- The last pass has not come to it. -/
  resting : Prop

namespace RecordView

def Present (v : RecordView) : Prop := v.handle = true → v.mapped

def Open (v : RecordView) : Prop := ∃ e, v.event = some e ∧ e.closed = false

/-- The event has been signalled, or somebody will do it. -/
def Expected (v : RecordView) : Prop :=
  ∃ e, v.event = some e ∧ e.closed = false ∧ (e.triggered = true ∨ v.wakes ∨
    v.outstanding = true ∧ v.mapped ∧ (v.swept = true → v.resting))

/-- What holds at a stage whatever messages come. -/
def Safe (v : RecordView) : SendStage → Prop
  | .find | .lockSend | .arm => v.Present
  | .sendCmd | .sendData => v.Present ∧ v.Open
  | .unlock | .wait => v.Expected
  | .failed | .closeEvent => v.Open
  | _ => True

/-- The firmware has not been asked, or has answered long ago. -/
def Quiet (v : RecordView) : Prop := v.outstanding = false ∧ ¬v.handled

/-- The record of a command is out of the map, or the last pass is done with it. -/
def Gone (v : RecordView) : Prop := v.isSession = false → v.mapped → v.sweeps = true ∧ ¬v.resting

/-- The answer is owed, or it is in the receiver's hands, or it has been handed over. -/
inductive Awaited (v : RecordView) : Prop
  | owed (h : v.outstanding = true) (hevent : v.event = some ⟨false, false⟩) (hmapped : v.mapped)
      (hhandled : ¬v.handled) (hrest : v.swept = true → v.resting)
  | handled (h : v.wakes) (hevent : v.event = some ⟨false, false⟩) (hdone : v.outstanding = false)
  | signalled (hevent : v.event = some ⟨true, false⟩) (hquiet : v.Quiet) (hgone : v.Gone)

/-- What holds besides when nothing comes but answers. -/
def Strict (v : RecordView) : SendStage → Prop
  | .register | .find | .lockSend | .arm | .failed | .giveUp _ => v.Quiet
  | .sendCmd | .sendData => v.Quiet ∧ (v.handle = true → v.event = some ⟨false, false⟩)
  | .unlock | .wait => v.Awaited
  | .closeEvent | .disarm | .unlockFailed _ | .returned _ => v.Quiet ∧ v.Gone

structure At (v : RecordView) (tracked : Prop) (st : SendStage) : Prop where
  safe : v.Safe st
  strict : tracked → v.Strict st

end RecordView

/-- The stages between `mutex_enter(bhm_send)` and `mutex_exit(bhm_send)`. -/
def SendStage.locked : SendStage → Bool
  | .arm | .sendCmd | .sendData | .failed | .giveUp _ | .unlockFailed _ | .unlock => true
  | _ => false

def SendStage.sleeps : SendStage → Bool
  | .unlock | .wait => true
  | _ => false

namespace RecordView

variable {v : RecordView} {st : SendStage}

theorem Strict.quiet (h : v.Strict st) (hst : st.sleeps = false) : v.Quiet := by
  cases st with
  | register | find | lockSend | arm | failed | giveUp _ => exact h
  | sendCmd | sendData | closeEvent | disarm | unlockFailed _ | returned _ => exact h.1
  | unlock | wait => cases hst

theorem Strict.sleeps_of_outstanding (h : v.Strict st)
    (ho : v.outstanding = true) : st.sleeps = true := by
  by_contra hst
  cases ho.symm.trans (h.quiet (Bool.eq_false_iff.2 hst)).1

theorem Strict.sleeps_of_handled (h : v.Strict st) (ho : v.handled) : st.sleeps = true := by
  by_contra hst
  exact (h.quiet (Bool.eq_false_iff.2 hst)).2 ho

theorem strict_iff_awaited (hst : st.sleeps = true) : v.Strict st ↔ v.Awaited := by
  cases st <;> first | exact Iff.rfl | cases hst

theorem safe_iff_expected (hst : st.sleeps = true) : v.Safe st ↔ v.Expected := by
  cases st <;> first | exact Iff.rfl | cases hst

end RecordView

namespace ConnectionItem

variable {τ : Type}

def view (s : ConnectionItem τ) (m : Nat) : RecordView where
  event := (s.record m).waitEvent
  outstanding := (s.record m).outstanding
  isSession := (s.record m).isSession
  mapped := s.rrmap.find? (seqOf m) = some m
  handle := s.handle
  handled := s.receiver.handles = some m
  wakes := s.receiver.wakes = some m
  sweeps := s.receiver.sweeps
  swept := s.receiver.swept
  resting := (seqOf m, m) ∈ s.receiver.rest

/-- A thread sleeps on the record, or is about to. -/
def Sleeper (s : ConnectionItem τ) (m : Nat) : Prop :=
  ∃ t rr st, (s.thread t).task = .sending m rr st ∧ st.sleeps = true

/-- A session that nobody is inside of. -/
def Idle (s : ConnectionItem τ) (n : Nat) : Prop :=
  (s.record n).isSession = true ∧ (s.record n).count = 0 ∧ (s.record n).waitEvent = none

/-- Nothing comes for the record but answers. -/
def Tracked (s : ConnectionItem τ) (calm : Bool) (n : Nat) : Prop :=
  calm = true ∨ (s.record n).isSession = false

structure Handover (calm : Bool) (s : ConnectionItem τ) : Prop where
  up : s.handle = !s.receiver.down
  stages : ∀ t m rr st, (s.thread t).task = .sending m rr st → (s.view m).At (s.Tracked calm m) st
  own : ∀ m n, s.Live m → s.rrmap.find? (seqOf m) = some n →
    n = m ∨ ∃ t rr, (s.thread t).task = .sending m rr .register
  mapped : ∀ n, s.handle = true → s.Live n → (s.record n).isSession = true →
    s.rrmap.find? (seqOf n) = some n ∨ ∃ t rr, (s.thread t).task = .sending n rr .register
  asked : ∀ m, (s.record m).outstanding = true → s.Tracked calm m → s.Sleeper m
  held : ∀ n, s.receiver.handles = some n → s.Tracked calm n →
    s.Live n ∧ (s.Sleeper n ∨ s.Idle n) ∧
      ((s.record n).isSession = false → s.rrmap.find? (seqOf n) ≠ some n)
  resting : ∀ q n, (q, n) ∈ s.receiver.rest → s.rrmap.find? q = some n ∧ s.Live n
  nodup : (s.receiver.rest.map Prod.fst).Nodup
  erasing : ∀ q n rest, s.receiver = .erasing q n rest →
    q ∉ rest.map Prod.fst ∧ s.rrmap.find? q = some n
  dooms : ∀ n, s.receiver.dooms = some n → (s.record n).isSession = true
  killing : ∀ n ok, s.receiver = .killing n ok → calm = true → s.Idle n
  killed : ∀ n, s.Live n → (s.record n).isSession = true → (s.record n).killed = true →
    (s.record n).count ≠ 0 ∨ (s.record n).waitEvent ≠ none ∨ s.receiver.dooms = some n
  sendLock : ∀ t, s.sendLock = some t ↔
    ∃ m rr st, (s.thread t).task = .sending m rr st ∧ st.locked = true
  late : calm = true → s.lateSignal = true → s.receiver.swept = true

theorem handover_start (calm : Bool) (drawn : Nat) :
    (start drawn : ConnectionItem τ).Handover calm where
  up := rfl
  stages t m rr st h := by cases h
  own m n h := by cases h
  mapped n _ h := by cases h
  asked m h := by cases h
  held n h := by cases h
  resting q n h := by cases h
  nodup := List.nodup_nil
  erasing q n rest h := by cases h
  dooms n h := by cases h
  killing n ok h := by cases h
  killed n h := by cases h
  sendLock t := iff_of_false (fun h => by cases h) (fun ⟨_, _, _, h, _⟩ => by cases h)
  late _ h := by cases h

variable {calm : Bool} {s s' : ConnectionItem τ} {t : τ} {m n : Nat}

theorem Handover.mine (h : s.Handover calm) (hr : s.Registry) {rr : Nat} {st : SendStage}
    (ht : (s.thread t).task = .sending m rr st) (hst : st ≠ .register)
    (hfound : s.rrmap.find? (seqOf m) = some n) : n = m := by
  refine (h.own m n (hr.sent ht).2 hfound).resolve_right ?_
  rintro ⟨u, rr', hu⟩
  obtain rfl := hr.alone u t m rr' rr _ _ hu ht
  rw [ht] at hu
  cases hu
  exact hst rfl

section Blocks

variable (h : s.Handover calm)
include h

theorem Handover.free {r : ResponseRecord τ} (hfreed : r.freed = true)
    (hout : r.outstanding = true → (s.record n).outstanding = true)
    (hsession : r.isSession = (s.record n).isSession)
    (hsender : ∀ t rr st, (s.thread t).task ≠ .sending n rr st)
    (hhandled : s.Tracked calm n → s.receiver.handles ≠ some n)
    (hrest : ∀ q, (q, n) ∉ s.receiver.rest) :
    ({ s with record := Function.update s.record n r } : ConnectionItem τ).Handover calm := by
  have hother : ∀ k, k ≠ n → Function.update s.record n r k = s.record k :=
    fun k hk => Function.update_of_ne hk _ _
  have hsame : ∀ k, (Function.update s.record n r k).isSession = (s.record k).isSession := by
    intro k
    by_cases hk : k = n
    · rw [hk, Function.update_self, hsession]
    · rw [hother k hk]
  have hlive : ∀ k, (Function.update s.record n r k).freed = false → k ≠ n ∧ s.Live k := by
    intro k hk
    have hne : k ≠ n := by
      rintro rfl
      rw [Function.update_self, hfreed] at hk
      cases hk
    rw [hother k hne] at hk
    exact ⟨hne, hk⟩
  constructor <;> try simp only [Tracked, Live, hsame]
  case up => exact h.up
  case stages =>
    intro u k rr st hu
    have hne : k ≠ n := fun heq => hsender u rr st (heq ▸ hu)
    simp only [view, hother k hne]
    exact h.stages u k rr st hu
  case own => exact fun k k' hk => h.own k k' (hlive k hk).2
  case mapped => exact fun k hup hk => h.mapped k hup (hlive k hk).2
  case asked =>
    intro k hk
    by_cases hkn : k = n
    · subst hkn
      rw [Function.update_self] at hk
      exact h.asked k (hout hk)
    · rw [hother k hkn] at hk
      exact h.asked k hk
  case held =>
    intro k hk htracked
    have hne : k ≠ n := fun heq => hhandled (heq ▸ htracked) (heq ▸ hk)
    simp only [Idle, hother k hne]
    exact h.held k hk htracked
  case resting =>
    intro q k hk
    have hne : k ≠ n := fun heq => hrest q (heq ▸ hk)
    simp only [hother k hne]
    exact h.resting q k hk
  case nodup => exact h.nodup
  case erasing => exact h.erasing
  case dooms => exact h.dooms
  case killing =>
    intro k ok hk hcalm
    have hne : k ≠ n := fun heq => hhandled (.inl hcalm) (by rw [hk, ← heq]; rfl)
    simp only [Idle, hother k hne]
    exact h.killing k ok hk hcalm
  case killed =>
    intro k hk
    obtain ⟨hne, hk⟩ := hlive k hk
    simp only [hother k hne]
    exact h.killed k hk
  case sendLock => exact h.sendLock
  case late => exact h.late

theorem Handover.eraseMap {q : Nat} (hrest : ∀ n, (q, n) ∉ s.receiver.rest)
    (herasing : ∀ q n rest, s.receiver ≠ .erasing q n rest)
    (hentry : ∀ n, s.rrmap.find? q = some n → ((s.record n).isSession = true → ¬s.Live n) ∧
      ∀ t rr st, (s.thread t).task = .sending n rr st →
        RecordView.At { s.view n with mapped := False } (s.Tracked calm n) st) :
    (s.setMap (s.rrmap.erase q)).Handover calm := by
  constructor <;> try simp only [setMap, OrdMap.find?_erase]
  case up => exact h.up
  case stages =>
    intro u k rr st hu
    have hat := h.stages u k rr st hu
    by_cases hk : seqOf k = q
    · have hview : view { s with rrmap := s.rrmap.erase q }
        k = { s.view k with mapped := False } := by
        simp only [view, OrdMap.find?_erase, if_pos hk, reduceCtorEq]
      rw [hview]
      by_cases hfound : s.rrmap.find? q = some k
      · exact (hentry k hfound).2 u rr st hu
      · have hsame : s.view k = { s.view k with mapped := False } := by
          simp only [view, hk, hfound]
        exact hsame ▸ hat
    · have hview : view { s with rrmap := s.rrmap.erase q } k = s.view k := by
        simp only [view, OrdMap.find?_erase, if_neg hk]
      exact hview ▸ hat
  case own =>
    intro k k' hk hfound
    split_ifs at hfound
    exact h.own k k' hk hfound
  case mapped =>
    intro k hup hlive hsession
    refine (h.mapped k hup hlive hsession).imp (fun hfound => ?_) id
    have hk : seqOf k ≠ q := fun hk => (hentry k (hk ▸ hfound)).1 hsession hlive
    rw [if_neg hk, hfound]
  case asked => exact h.asked
  case held =>
    intro k hk htracked
    obtain ⟨hlive, hwho, hgone⟩ := h.held k hk htracked
    refine ⟨hlive, hwho, fun hcommand hfound => ?_⟩
    split_ifs at hfound
    exact hgone hcommand hfound
  case resting =>
    intro q' k hk
    have hq : q' ≠ q := fun heq => hrest k (heq ▸ hk)
    rw [if_neg hq]
    exact h.resting q' k hk
  case nodup => exact h.nodup
  case erasing => exact fun q' k rest hk => absurd hk (herasing q' k rest)
  case dooms => exact h.dooms
  case killing => exact h.killing
  case killed => exact h.killed
  case sendLock => exact h.sendLock
  case late => exact h.late

omit h in
theorem Handover.bury (h : s'.Handover calm) (hr : s.Registry)
    (hmap : s'.rrmap = s.rrmap) (hdead : ¬s'.Live n) (hlive : ∀ k, s'.Live k → s.Live k)
    (hsent : ∀ u k rr st, (s'.thread u).task = .sending k rr st →
      (s.thread u).task = .sending k rr st)
    (hsender : ∀ u rr st, (s.thread u).task ≠ .sending n rr st)
    (hnumber : ∀ k, s.Live k → seqOf k = seqOf n → k = n)
    (hrest : ∀ k, (seqOf n, k) ∉ s'.receiver.rest)
    (herasing : ∀ q n rest, s'.receiver ≠ .erasing q n rest) :
    (s'.setMap (s'.rrmap.erase (seqOf n))).Handover calm := by
  refine h.eraseMap hrest herasing fun k hk => ?_
  rw [hmap] at hk
  have hsame : s.Live k → k = n := fun hk' => hnumber k hk' (hr.keyed _ k hk)
  refine ⟨fun _ hk' => hdead (hsame (hlive k hk') ▸ hk'), fun u rr st hu => ?_⟩
  have hu' := hsent u k rr st hu
  exact absurd (hsame (hr.sent hu').2 ▸ hu') (hsender u rr st)

theorem Handover.registerMap (hr : s.Registry) (hholds : s.receiver.holdsMap = false) {rr : Nat}
    (ht : (s.thread t).task = .sending m rr .register) :
    (s.setMap ((s.rrmap.erase (seqOf m)).insert (seqOf m) m)).Handover calm := by
  have hrest := RecvThread.rest_of_not_holdsMap hholds
  have hlive := (hr.sent ht).2
  have hapart : ∀ k, s.Live k → k ≠ m → seqOf k ≠ seqOf m :=
    fun k hk hne heq => hne (hr.distinct k m hk hlive heq)
  constructor <;> try simp only [setMap, find?_register]
  case up => exact h.up
  case stages =>
    intro u k rr' st hu
    have hat := h.stages u k rr' st hu
    by_cases hk : k = m
    · -- the record itself is not looked up before
      subst hk
      obtain rfl := hr.alone u t k rr' rr st .register hu ht
      rw [ht] at hu
      cases hu
      exact ⟨trivial, hat.strict⟩
    · have hview : view { s with rrmap := (s.rrmap.erase (seqOf m)).insert (seqOf m) m } k =
          s.view k := by
        simp only [view, find?_register, if_neg (hapart k (hr.sent hu).2 hk)]
      exact hview ▸ hat
  case own =>
    intro k k' hk hfound
    by_cases hkm : k = m
    · rw [if_pos (by rw [hkm])] at hfound
      exact .inl ((Option.some.inj hfound).symm.trans hkm.symm)
    · rw [if_neg (hapart k hk hkm)] at hfound
      exact h.own k k' hk hfound
  case mapped =>
    intro k hup hk hsession
    by_cases hkm : k = m
    · exact .inl (by rw [hkm, if_pos rfl])
    · rw [if_neg (hapart k hk hkm)]
      exact h.mapped k hup hk hsession
  case asked => exact h.asked
  case held =>
    intro k hk htracked
    have hkm : k ≠ m := by
      rintro rfl
      exact ((h.stages t k rr _ ht).strict htracked).2 hk
    obtain ⟨hklive, hwho, hgone⟩ := h.held k hk htracked
    rw [if_neg (hapart k hklive hkm)]
    exact ⟨hklive, hwho, hgone⟩
  case resting => exact fun q k hk => by simp [hrest] at hk
  case nodup => exact h.nodup
  case erasing => exact fun q k rest hk => absurd hk (RecvThread.not_erasing hholds q k rest)
  case dooms => exact h.dooms
  case killing => exact h.killing
  case killed => exact h.killed
  case sendLock => exact h.sendLock
  case late => exact h.late

variable [DecidableEq τ]

theorem Handover.thread (th : HostThread) (hthread : s'.thread = Function.update s.thread t th)
    (hmap : s'.rrmap = s.rrmap) (hreceiver : s'.receiver = s.receiver)
    (hhandle : s'.handle = s.handle)
    (hlate : s'.lateSignal = s.lateSignal)
    -- the records
    (hlive : ∀ k, s'.Live k → s.Live k ∨ ∃ rr, th.task = .sending k rr .register)
    (hsession : ∀ k, s.InUse k → (s'.record k).isSession = (s.record k).isSession)
    (hrest : ∀ q k, (q, k) ∈ s.receiver.rest → s'.Live k)
    (hkilled : ∀ k, s'.Live k → (s'.record k).isSession = true → (s'.record k).killed = true →
      (s'.record k).count ≠ 0 ∨ (s'.record k).waitEvent ≠ none ∨ s.receiver.dooms = some k)
    (hkilling : ∀ k ok, s.receiver = .killing k ok → calm = true → s'.Idle k)
    -- the thread
    (hregistered : ∀ k rr, (s.thread t).task = .sending k rr .register →
      s.rrmap.find? (seqOf k) = some k)
    (hstage : ∀ k rr st, th.task = .sending k rr st → (s'.view k).At (s'.Tracked calm k) st)
    (hview : ∀ u k rr st, u ≠ t → (s.thread u).task = .sending k rr st → s'.view k = s.view k)
    (hasked : ∀ k, (s'.record k).outstanding = true → s'.Tracked calm k → s'.Sleeper k)
    (hheld : ∀ k, s.receiver.handles = some k → s'.Tracked calm k → s'.Live k ∧
      (s'.Sleeper k ∨ s'.Idle k))
    (hlock : ∀ u, s'.sendLock = some u ↔
      ∃ m rr st, (s'.thread u).task = .sending m rr st ∧ st.locked = true) : s'.Handover calm := by
  have hself : s'.thread t = th := by rw [hthread, Function.update_self]
  have hother : ∀ u, u ≠ t → s'.thread u = s.thread u := fun u hu =>
    by rw [hthread, Function.update_of_ne hu]
  -- who was to register a record is still, or has done it
  have hkeep : ∀ k, (∃ u rr, (s.thread u).task = .sending k rr .register) →
      s.rrmap.find? (seqOf k) = some k ∨ ∃ u rr, (s'.thread u).task = .sending k rr .register := by
    rintro k ⟨u, rr, hu⟩
    by_cases hut : u = t
    · exact .inl (hregistered k rr (hut ▸ hu))
    · exact .inr ⟨u, rr, by rw [hother u hut, hu]⟩
  constructor
  case up => rw [hhandle, hreceiver, h.up]
  case stages =>
    intro u k rr st hu
    by_cases hut : u = t
    · rw [hut, hself] at hu
      exact hstage k rr st hu
    · rw [hother u hut] at hu
      have hsame := hview u k rr st hut hu
      rw [hsame, Tracked, show (s'.record k).isSession = (s.record k).isSession from
        congrArg RecordView.isSession hsame]
      exact h.stages u k rr st hu
  case own =>
    rw [hmap]
    intro k k' hk hfound
    obtain hk | ⟨rr, hk⟩ := hlive k hk
    · refine (h.own k k' hk hfound).elim .inl fun hregister => ?_
      exact (hkeep k hregister).imp (fun hmine => Option.some.inj (hfound.symm.trans hmine)) id
    · exact .inr ⟨t, rr, by rw [hself, hk]⟩
  case mapped =>
    rw [hhandle, hmap]
    intro k hup hk hses
    obtain hk | ⟨rr, hk⟩ := hlive k hk
    · rw [hsession k (.inl hk)] at hses
      exact (h.mapped k hup hk hses).elim .inl (hkeep k)
    · exact .inr ⟨t, rr, by rw [hself, hk]⟩
  case asked => exact hasked
  case held =>
    rw [hmap, hreceiver]
    intro k hk htracked
    have hsame := hsession k (.inr hk)
    refine ⟨(hheld k hk htracked).1, (hheld k hk htracked).2, fun hcommand => ?_⟩
    rw [Tracked, hsame] at htracked
    exact (h.held k hk htracked).2.2 (hsame ▸ hcommand)
  case resting =>
    rw [hmap, hreceiver]
    exact fun q k hk => ⟨(h.resting q k hk).1, hrest q k hk⟩
  case nodup => exact hreceiver ▸ h.nodup
  case erasing =>
    rw [hmap, hreceiver]
    exact h.erasing
  case dooms =>
    rw [hreceiver]
    exact fun k hk => (hsession k (.inr (RecvThread.handles_of_dooms hk))).trans (h.dooms k hk)
  case killing =>
    rw [hreceiver]
    exact hkilling
  case killed =>
    rw [hreceiver]
    exact hkilled
  case sendLock => exact hlock
  case late =>
    rw [hlate, hreceiver]
    exact h.late

end Blocks

/-! ### The steps of a sender -/

variable [DecidableEq τ]

theorem holder_iff {f : τ → HostThread} {holder holder' : Option τ} {rr rr' : Nat}
    {st st' : SendStage} {th : HostThread}
    (h : ∀ u, holder = some u ↔ ∃ m rr st, (f u).task = .sending m rr st ∧ st.locked = true)
    (ht : (f t).task = .sending m rr st) (hth : th.task = .sending m rr' st')
    (hlock : holder' = holder ∧ st'.locked = st.locked ∨
      holder = none ∧ holder' = some t ∧ st'.locked = true ∨
      st.locked = true ∧ holder' = none ∧ st'.locked = false) (u : τ) :
    holder' = some u ↔ ∃ m rr st, (Function.update f t th u).task = .sending m rr st ∧
      st.locked = true := by
  have hmine : holder = some t ↔ st.locked = true := by
    refine (h t).trans ⟨?_, fun hlocked => ⟨m, rr, st, ht, hlocked⟩⟩
    rintro ⟨m', rr', st', hst, hlocked⟩
    rw [ht] at hst
    cases hst
    exact hlocked
  by_cases hut : u = t
  · subst hut
    rw [Function.update_self]
    have hnow : (∃ m rr st, th.task = .sending m rr st ∧ st.locked = true) ↔ st'.locked = true := by
      refine ⟨?_, fun hlocked => ⟨m, rr', st', hth, hlocked⟩⟩
      rintro ⟨m', rr', st', hst, hlocked⟩
      rw [hth] at hst
      cases hst
      exact hlocked
    rw [hnow]
    obtain ⟨rfl, hsame⟩ | ⟨-, rfl, htaken⟩ | ⟨-, rfl, hgiven⟩ := hlock
    · rw [hsame, hmine]
    · exact iff_of_true rfl htaken
    · exact iff_of_false (fun hk => by cases hk) (by rw [hgiven]; exact Bool.noConfusion)
  · rw [Function.update_of_ne hut, ← h u]
    obtain ⟨rfl, -⟩ | ⟨rfl, rfl, -⟩ | ⟨hlocked, rfl, -⟩ := hlock
    · exact Iff.rfl
    · exact iff_of_false (fun hk => hut (Option.some.inj hk).symm) (fun hk => by cases hk)
    · refine iff_of_false (fun hk => by cases hk) fun hk => hut ?_
      exact Option.some.inj (hk.symm.trans (hmine.2 hlocked))

section Send

variable {rr rr' : Nat} {st st' : SendStage} (h : s.Handover calm) (hr : s.Registry)
include h hr

theorem Handover.advance (ht : (s.thread t).task = .sending m rr st)
    (hregistered : st = .register → s.rrmap.find? (seqOf m) = some m)
    (hthread : s'.thread = Function.update s.thread t
      { s.thread t with task := .sending m rr' st' })
    (hmap : s'.rrmap = s.rrmap) (hreceiver : s'.receiver = s.receiver)
    (hhandle : s'.handle = s.handle)
    (hlate : s'.lateSignal = s.lateSignal) (hother : ∀ k, k ≠ m → s'.record k = s.record k)
    (hfreed : (s'.record m).freed = (s.record m).freed)
    (hsession : (s'.record m).isSession = (s.record m).isSession)
    (hcount : (s'.record m).count = (s.record m).count)
    (hat : (s'.view m).At (s.Tracked calm m) st')
    (hlock : s'.sendLock = s.sendLock ∧ st'.locked = st.locked ∨
      s.sendLock = none ∧ s'.sendLock = some t ∧ st'.locked = true ∨
      st.locked = true ∧ s'.sendLock = none ∧ st'.locked = false) : s'.Handover calm := by
  have hself : s'.thread t = { s.thread t with task := .sending m rr' st' } := by
    rw [hthread, Function.update_self]
  have hsame : ∀ k, (s'.record k).isSession = (s.record k).isSession := by
    intro k
    by_cases hk : k = m
    · rw [hk, hsession]
    · rw [hother k hk]
  have hlive : ∀ k, s'.Live k ↔ s.Live k := by
    intro k
    by_cases hk : k = m
    · rw [hk, Live, hfreed]
    · rw [Live, hother k hk]
  have hsleeper : ∀ k, k ≠ m → s.Sleeper k → s'.Sleeper k := by
    rintro k hk ⟨u, rr'', st'', hu, hsleeps⟩
    have hut : u ≠ t := by
      rintro rfl
      rw [ht] at hu
      cases hu
      exact hk rfl
    exact ⟨u, rr'', st'', by rw [hthread, Function.update_of_ne hut, hu], hsleeps⟩
  have hidle : ∀ k, s.Idle k → s'.Idle k := by
    intro k hk
    have hkm : k ≠ m := by
      rintro rfl
      exact hr.count_ne_zero ht hk.1 hk.2.1
    rwa [Idle, hother k hkm]
  refine h.thread _ hthread hmap hreceiver hhandle hlate (fun k hk => .inl ((hlive k).1 hk))
    (fun k _ => hsame k)
    (fun q k hk => (hlive k).2 (h.resting q k hk).2) (fun k hk hses hdead => ?_)
    (fun k ok hk hcalm => hidle k (h.killing k ok hk hcalm)) (fun k rr'' hk => ?_)
    (fun k rr'' st'' hk => ?_)
    (fun u k rr'' st'' hut hu => ?_) (fun k hk htracked => ?_) (fun k hk htracked => ?_) fun u => ?_
  · by_cases hkm : k = m
    · subst hkm
      exact .inl (hcount ▸ hr.count_ne_zero ht (hsession ▸ hses))
    · rw [hother k hkm] at hses hdead ⊢
      exact h.killed k ((hlive k).1 hk) hses hdead
  · rw [ht] at hk
    cases hk
    exact hregistered rfl
  · cases hk
    rw [Tracked, hsession]
    exact hat
  · have hkm := hr.sole ht hu hut
    simp only [view, hother k hkm, hmap, hhandle, hreceiver]
  · rw [Tracked, hsame] at htracked
    by_cases hkm : k = m
    · subst hkm
      exact ⟨t, rr', st', by rw [hself], (hat.strict htracked).sleeps_of_outstanding hk⟩
    · rw [hother k hkm] at hk
      exact hsleeper k hkm (h.asked k hk htracked)
  · rw [Tracked, hsame] at htracked
    obtain ⟨hlive', hwho, -⟩ := h.held k hk htracked
    refine ⟨(hlive k).2 hlive', ?_⟩
    by_cases hkm : k = m
    · subst hkm
      refine .inl ⟨t, rr', st', by rw [hself], (hat.strict htracked).sleeps_of_handled ?_⟩
      show s'.receiver.handles = some k
      rw [hreceiver, hk]
    · exact hwho.imp (hsleeper k hkm) (hidle k)
  · rw [hthread]
    exact holder_iff h.sendLock ht rfl hlock u

theorem Handover.advanceEdit (ht : (s.thread t).task = .sending m rr st) (hst : st ≠ .register)
    (f : ResponseRecord τ → ResponseRecord τ) (wire : List WirePart)
    (hfreed : ∀ r, (f r).freed = r.freed)
    (hsession : ∀ r, (f r).isSession = r.isSession) (hcount : ∀ r, (f r).count = r.count)
    (hat : RecordView.At { s.view m with
      event := (f (s.record m)).waitEvent
      outstanding := (f (s.record m)).outstanding } (s.Tracked calm m) st')
    (hlock : st'.locked = st.locked) :
    (ConnectionItem.goto { s.edit m f with wire := wire } t
      (.sending m rr' st')).Handover calm := by
  have hrecord : (ConnectionItem.goto { s.edit m f with wire := wire } t
    (.sending m rr' st')).record m =
    f (s.record m) := Function.update_self _ _ _
  refine h.advance hr ht (fun hk => absurd hk hst) rfl rfl rfl rfl rfl
    (fun k hk => Function.update_of_ne hk _ _)
    ?_ ?_ ?_ ?_ (.inl ⟨rfl, hlock⟩)
  · rw [hrecord, hfreed]
  · rw [hrecord, hsession]
  · rw [hrecord, hcount]
  · have hview :
        (ConnectionItem.goto { s.edit m f with wire := wire } t (.sending m rr' st')).view m =
          { s.view m with
            event := (f (s.record m)).waitEvent
            outstanding := (f (s.record m)).outstanding } := by
      simp only [view, hrecord, hsession]
      rfl
    rw [hview]
    exact hat

variable {c : SendChoice}

theorem Handover.find (ht : (s.thread t).task = .sending m m .find) :
    (s.sendStep t m m c .find).Handover calm := by
  have hat := h.stages t m m _ ht
  simp only [sendStep]
  split
  · rename_i found hfound
    obtain rfl := h.mine hr ht SendStage.noConfusion hfound
    exact h.advance hr ht (fun hk => by cases hk) rfl rfl rfl rfl rfl (fun _ _ => rfl) rfl rfl rfl
      ⟨hat.safe, hat.strict⟩ (.inl ⟨rfl, rfl⟩)
  · rename_i hnone
    refine h.advance hr ht (fun hk => by cases hk) rfl rfl rfl rfl rfl (fun _ _ => rfl) rfl rfl rfl
      ⟨trivial, fun htracked => ⟨hat.strict htracked, fun _ hmapped => ?_⟩⟩ (.inl ⟨rfl, rfl⟩)
    cases hnone.symm.trans hmapped

theorem Handover.lockSend (ht : (s.thread t).task = .sending m m .lockSend) :
    (s.sendStep t m m c .lockSend).Handover calm := by
  have hat := h.stages t m m _ ht
  simp only [sendStep]
  split_ifs with hfree
  · exact h.advance hr ht (fun hk => by cases hk) rfl rfl rfl rfl rfl (fun _ _ => rfl) rfl rfl rfl
      ⟨hat.safe, hat.strict⟩ (.inr (.inl ⟨hfree, rfl, rfl⟩))
  · exact h

theorem Handover.arm (ht : (s.thread t).task = .sending m m .arm) :
    (s.sendStep t m m c .arm).Handover calm := by
  have hat := h.stages t m m _ ht
  simp only [sendStep]
  split_ifs with hok
  · exact h.advanceEdit hr ht SendStage.noConfusion
      (fun r => { r with buffer := none, waitEvent := some ⟨false, false⟩, asked := s.log.length })
        s.wire
      (fun _ => rfl) (fun _ => rfl) (fun _ => rfl)
      ⟨⟨hat.safe, _, rfl, rfl⟩, fun htracked => ⟨hat.strict htracked, fun _ => rfl⟩⟩ rfl
  · exact h.advanceEdit hr ht SendStage.noConfusion (fun r =>
      { r with buffer := none, waitEvent := none }) s.wire
      (fun _ => rfl) (fun _ => rfl) (fun _ => rfl) ⟨trivial, hat.strict⟩ rfl

theorem Handover.sent (hup : s.handle = true) (ht : (s.thread t).task = .sending m rr st)
    (hst : st = .sendCmd ∨ st = .sendData) (wire : List WirePart) :
    (ConnectionItem.goto { s.edit m fun r => { r with outstanding := true } with wire := wire } t
      (.sending m rr .unlock)).Handover calm := by
  have hat : (s.view m).At (s.Tracked calm m) .sendCmd := by
    have hstage := h.stages t m rr _ ht
    obtain rfl | rfl := hst <;> exact ⟨hstage.safe, hstage.strict⟩
  obtain ⟨hpresent, e, hevent, hopen⟩ := hat.safe
  have hrest : s.receiver.swept = true → (seqOf m, m) ∈ s.receiver.rest := fun hswept => by
    have hdown := h.up
    rw [hup, RecvThread.down_of_swept hswept] at hdown
    cases hdown
  refine h.advanceEdit hr ht ?_ (fun r => { r with outstanding := true }) wire (fun _ => rfl)
    (fun _ => rfl)
    (fun _ => rfl) ⟨⟨e, hevent, hopen, .inr (.inr ⟨rfl, hpresent hup, hrest⟩)⟩, fun htracked => ?_⟩
      ?_
  · obtain rfl | rfl := hst <;> exact SendStage.noConfusion
  · obtain ⟨hquiet, harmed⟩ := hat.strict htracked
    exact .owed rfl (harmed hup) (hpresent hup) hquiet.2 hrest
  · obtain rfl | rfl := hst <;> rfl

theorem Handover.sendCmd (ht : (s.thread t).task = .sending m m .sendCmd) :
    (s.sendStep t m m c .sendCmd).Handover calm := by
  have hat := h.stages t m m _ ht
  simp only [sendStep]
  split_ifs with hok hdata
  · exact h.advance hr ht (fun hk => by cases hk) rfl rfl rfl rfl rfl (fun _ _ => rfl) rfl rfl rfl
      ⟨hat.safe, hat.strict⟩ (.inl ⟨rfl, rfl⟩)
  · exact h.sent hr (Bool.and_eq_true _ _ ▸ hok).1 ht (.inl rfl) _
  · exact h.advance hr ht (fun hk => by cases hk) rfl rfl rfl rfl rfl (fun _ _ => rfl) rfl rfl rfl
      ⟨hat.safe.2, fun htracked => (hat.strict htracked).1⟩ (.inl ⟨rfl, rfl⟩)

theorem Handover.sendData (ht : (s.thread t).task = .sending m m .sendData) :
    (s.sendStep t m m c .sendData).Handover calm := by
  have hat := h.stages t m m _ ht
  simp only [sendStep]
  split_ifs with hok
  · exact h.sent hr (Bool.and_eq_true _ _ ▸ hok).1 ht (.inr rfl) _
  · exact h.advance hr ht (fun hk => by cases hk) rfl rfl rfl rfl rfl (fun _ _ => rfl) rfl rfl rfl
      ⟨hat.safe.2, fun htracked => (hat.strict htracked).1⟩ (.inl ⟨rfl, rfl⟩)

theorem Handover.failed (ht : (s.thread t).task = .sending m m .failed) :
    (s.sendStep t m m c .failed).Handover calm := by
  have hat := h.stages t m m _ ht
  exact h.advanceEdit hr ht SendStage.noConfusion
    (fun r => { r with waitEvent := r.waitEvent.map fun e => { e with closed := true } }) s.wire
    (fun _ => rfl) (fun _ => rfl) (fun _ => rfl) ⟨trivial, hat.strict⟩ rfl

theorem Handover.unlockFailed {ret : BhRet} (ht : (s.thread t).task = .sending m m
    (.unlockFailed ret)) :
    (s.sendStep t m m c (.unlockFailed ret)).Handover calm := by
  have hat := h.stages t m m _ ht
  exact h.advance hr ht (fun hk => by cases hk) rfl rfl rfl rfl rfl (fun _ _ => rfl) rfl rfl rfl
    ⟨trivial, hat.strict⟩ (.inr (.inr ⟨rfl, rfl, rfl⟩))

omit hr [DecidableEq τ] in
theorem Handover.event_ne_none (ht : (s.thread t).task = .sending m rr st)
    (hsleeps : st.sleeps = true) :
    (s.record m).waitEvent ≠ none := by
  obtain ⟨e, hevent, -⟩ := (RecordView.safe_iff_expected hsleeps).1 (h.stages t m rr _ ht).safe
  rw [show (s.record m).waitEvent = some e from hevent]
  exact Option.some_ne_none e

theorem Handover.unlock (ht : (s.thread t).task = .sending m m .unlock) :
    (s.sendStep t m m c .unlock).Handover calm := by
  have hat := h.stages t m m _ ht
  simp only [sendStep, if_neg (h.event_ne_none ht rfl)]
  exact h.advance hr ht (fun hk => by cases hk) rfl rfl rfl rfl rfl (fun _ _ => rfl) rfl rfl rfl
    ⟨hat.safe, hat.strict⟩ (.inr (.inr ⟨rfl, rfl, rfl⟩))

theorem Handover.wait (ht : (s.thread t).task = .sending m m .wait) :
    (s.sendStep t m m c .wait).Handover calm := by
  have hat := h.stages t m m _ ht
  simp only [sendStep]
  split_ifs with hwait
  · exact h
  · obtain ⟨e, hevent, hopen, -⟩ := hat.safe
    refine h.advance hr ht (fun hk => by cases hk) rfl rfl rfl rfl rfl (fun _ _ => rfl) rfl rfl rfl
      ⟨⟨e, hevent, hopen⟩, fun htracked => ?_⟩ (.inl ⟨rfl, rfl⟩)
    cases hat.strict htracked with
    | owed _ hevent | handled _ hevent =>
      exact absurd (by rw [show (s.record m).waitEvent = _ from hevent]; rfl) hwait
    | signalled _ hquiet hgone => exact ⟨hquiet, hgone⟩

theorem Handover.closeEvent (ht : (s.thread t).task = .sending m m .closeEvent) :
    (s.sendStep t m m c .closeEvent).Handover calm := by
  have hat := h.stages t m m _ ht
  exact h.advanceEdit hr ht SendStage.noConfusion
    (fun r => { r with waitEvent := r.waitEvent.map fun e => { e with closed := true } }) s.wire
    (fun _ => rfl) (fun _ => rfl) (fun _ => rfl) ⟨trivial, hat.strict⟩ rfl

theorem Handover.disarm (ht : (s.thread t).task = .sending m m .disarm) :
    (s.sendStep t m m c .disarm).Handover calm := by
  have hat := h.stages t m m _ ht
  exact h.advanceEdit hr ht SendStage.noConfusion (fun r => { r with waitEvent := none }) s.wire
    (fun _ => rfl) (fun _ => rfl) (fun _ => rfl) ⟨trivial, hat.strict⟩ rfl

theorem Handover.register (hholds : s.receiver.holdsMap = false)
    (ht : (s.thread t).task = .sending m rr .register) :
    ((s.setMap ((s.rrmap.erase (seqOf m)).insert (seqOf m) m)).goto t
      (.sending m m .find)).Handover calm := by
  have hmap := h.registerMap hr hholds ht
  have hmapped : ((s.rrmap.erase (seqOf m)).insert (seqOf m) m).find? (seqOf m) = some m := by
    rw [find?_register, if_pos rfl]
  exact hmap.advance (hr.registerMap (hr.sent ht).2) ht (fun _ => hmapped) rfl rfl rfl rfl rfl
    (fun _ _ => rfl)
    rfl rfl rfl ⟨fun _ => hmapped, (h.stages t m rr _ ht).strict⟩ (.inl ⟨rfl, rfl⟩)

end Send

/-! ### The other steps of a thread -/

theorem holder_update {f : τ → HostThread} {holder : Option τ} {th : HostThread}
    (h : ∀ u, holder = some u ↔ ∃ m rr st, (f u).task = .sending m rr st ∧ st.locked = true)
    (hbefore : ∀ m rr st, (f t).task = .sending m rr st → st.locked = false)
    (hafter : ∀ m rr st, th.task = .sending m rr st → st.locked = false) (u : τ) :
    holder = some u ↔ ∃ m rr st, (Function.update f t th u).task = .sending m rr st ∧
      st.locked = true := by
  refine (h u).trans ?_
  by_cases hut : u = t
  · subst hut
    rw [Function.update_self]
    refine iff_of_false ?_ ?_ <;> rintro ⟨m, rr, st, hst, hlocked⟩
    · cases hlocked.symm.trans (hbefore m rr st hst)
    · cases hlocked.symm.trans (hafter m rr st hst)
  · rw [Function.update_of_ne hut]

/-- A thread goes from one function to the next; if it ends a call of `bh_send_message`, then with
its last stage, and if it begins one, then with a record that is in the map. -/
theorem Handover.move (h : s.Handover calm) (th : HostThread)
    (hthread : s'.thread = Function.update s.thread t th)
    (hmap : s'.rrmap = s.rrmap) (hreceiver : s'.receiver = s.receiver)
    (hhandle : s'.handle = s.handle)
    (hlate : s'.lateSignal = s.lateSignal) (hsendLock : s'.sendLock = s.sendLock)
    (hview : ∀ k, s'.view k = s.view k) (hlive : ∀ k, s'.Live k → s.Live k)
    (hends : ∀ k rr st, (s.thread t).task = .sending k rr st → ∃ ret, st = .returned ret)
    (hbegins : ∀ k rr st, th.task = .sending k rr st → st = .find ∧
      (s.view k).At (s.Tracked calm k) .find)
    (hkilled : ∀ k, s'.Live k → (s'.record k).isSession = true → (s'.record k).killed = true →
      (s'.record k).count ≠ 0 ∨ (s'.record k).waitEvent ≠ none ∨ s.receiver.dooms = some k)
    (hheld : ∀ k, s.receiver.handles = some k → s.Tracked calm k → s'.Live k ∧
      (s.Idle k → s'.Idle k))
    (hrest : ∀ q k, (q, k) ∈ s.receiver.rest → s'.Live k) : s'.Handover calm := by
  have hsession : ∀ k, (s'.record k).isSession = (s.record k).isSession :=
    fun k => congrArg RecordView.isSession (hview k)
  have hsleeper : ∀ k, s.Sleeper k → s'.Sleeper k := by
    rintro k ⟨u, rr, st, hu, hsleeps⟩
    have hut : u ≠ t := by
      rintro rfl
      obtain ⟨ret, rfl⟩ := hends k rr st hu
      cases hsleeps
    exact ⟨u, rr, st, by rw [hthread, Function.update_of_ne hut, hu], hsleeps⟩
  refine h.thread _ hthread hmap hreceiver hhandle hlate (fun k hk => .inl (hlive k hk))
    (fun k _ => hsession k) hrest
    hkilled (fun k ok hk hcalm => ?_) (fun k rr hk => ?_) (fun k rr st hk => ?_)
      (fun _ k _ _ _ _ => hview k)
    (fun k hk htracked => ?_) (fun k hk htracked => ?_) fun u => ?_
  · exact (hheld k (by rw [hk]; rfl) (.inl hcalm)).2 (h.killing k ok hk hcalm)
  · obtain ⟨ret, hret⟩ := hends k rr _ hk
    cases hret
  · obtain ⟨rfl, hat⟩ := hbegins k rr st hk
    rw [hview, Tracked, hsession]
    exact hat
  · rw [Tracked, hsession] at htracked
    exact hsleeper k (h.asked k ((congrArg RecordView.outstanding (hview k)).symm.trans hk)
      htracked)
  · rw [Tracked, hsession] at htracked
    exact ⟨(hheld k hk htracked).1, (h.held k hk htracked).2.1.imp (hsleeper k)
      (hheld k hk htracked).2⟩
  · rw [hsendLock, hthread]
    refine holder_update h.sendLock (fun m rr st hst => ?_) (fun m rr st hst => ?_) u
    · obtain ⟨ret, rfl⟩ := hends m rr st hst
      rfl
    · rw [(hbegins m rr st hst).1]
      rfl

theorem Handover.moveEdit (h : s.Handover calm) (th : HostThread)
    (f : ResponseRecord τ → ResponseRecord τ)
    (issued : Nat → Bool) (hfreed : ∀ r, (f r).freed = r.freed)
    (hevent : ∀ r, (f r).waitEvent = r.waitEvent)
    (hasked : ∀ r, (f r).outstanding = r.outstanding)
    (hsession : ∀ r, (f r).isSession = r.isSession)
    (hends : ∀ k rr st, (s.thread t).task = .sending k rr st → ∃ ret, st = .returned ret)
    (hbegins : ∀ k rr st, th.task = .sending k rr st → st = .find ∧
      (s.view k).At (s.Tracked calm k) .find)
    (hkilled : s.Live n → (s.record n).isSession = true → (f (s.record n)).killed = true →
      (f (s.record n)).count ≠ 0 ∨ (s.record n).waitEvent ≠ none ∨ s.receiver.dooms = some n)
    (hidle : s.receiver.handles = some n → s.Tracked calm n → (s.record n).count = 0 →
      (f (s.record n)).count = 0) :
    ({ (s.edit n f).setThread t th with issued := issued } : ConnectionItem τ).Handover calm := by
  have hother : ∀ k, k ≠ n → (s.edit n f).record k = s.record k := fun k hk =>
    record_edit_of_ne s f hk
  have hself := record_edit_self s n f
  have hlive : ∀ k, ((s.edit n f).record k).freed = (s.record k).freed :=
    record_edit_field s ResponseRecord.freed f hfreed n
  have hview : ∀ k, (s.edit n f).view k = s.view k := fun k => by
    simp only [view, record_edit_field s ResponseRecord.waitEvent f hevent,
      record_edit_field s ResponseRecord.outstanding f hasked,
        record_edit_field s ResponseRecord.isSession f hsession]
    rfl
  refine h.move th rfl rfl rfl rfl rfl rfl hview (fun k hk => (hlive k).symm.trans hk) hends hbegins
    (fun k hk hses hdead => ?_) (fun k hk htracked => ⟨(hlive k).trans (h.held k hk htracked).1,
      fun hk' => ?_⟩)
    fun q k hk => (hlive k).trans (h.resting q k hk).2
  · simp only [Live, setThread, hlive] at hk
    by_cases hkn : k = n
    · subst hkn
      simp only [setThread, hself, hsession, hevent] at hses hdead ⊢
      exact hkilled hk hses hdead
    · simp only [setThread, hother k hkn] at hses hdead ⊢
      exact h.killed k hk hses hdead
  · by_cases hkn : k = n
    · subst hkn
      simp only [Idle, setThread, hself, hsession, hevent]
      exact ⟨hk'.1, hidle hk htracked hk'.2.1, hk'.2.2⟩
    · simp only [Idle, setThread, hother k hkn]
      exact hk'

theorem Handover.draw (h : s.Handover calm) (hr : s.Registry) (hnumber : ¬s.NumberInUse)
    (hidle : ∀ k rr st, (s.thread t).task ≠ .sending k rr st) {r : ResponseRecord τ}
    {session : Option (Nat × SessionRole)} (hr' : r = .ofCommand ∨ r = .ofSession) :
    (s.draw t r session).Handover calm := by
  obtain ⟨hout, hkilled⟩ : r.outstanding = false ∧ r.killed = false := by
    obtain rfl | rfl := hr' <;> exact ⟨rfl, rfl⟩
  have hfresh := fun k hk => (hr.fresh hnumber k hk).1
  have hself : (s.draw t r session).record (s.drawn + 1) = r := Function.update_self _ _ _
  have hother : ∀ k, k ≠ s.drawn + 1 → (s.draw t r session).record k = s.record k :=
    fun k hk => Function.update_of_ne hk _ _
  have hsleeper : ∀ k, s.Sleeper k → (s.draw t r session).Sleeper k := by
    rintro k ⟨u, rr, st, hu, hsleeps⟩
    have hut : u ≠ t := by
      rintro rfl
      exact hidle k rr st hu
    refine ⟨u, rr, st, ?_, hsleeps⟩
    simp only [ConnectionItem.draw, Function.update_of_ne hut, hu]
  refine h.thread ⟨session, .sending (s.drawn + 1) (s.drawn + 1) .register⟩ rfl rfl rfl rfl rfl
    (fun k hk => ?_) (fun k hk => ?_) (fun q k hk => ?_) (fun k hk hses hdead => ?_)
    (fun k ok hk hcalm => ?_)
    (fun k rr hk => absurd hk (hidle k rr _)) (fun k rr st hk => ?_) (fun u k rr st hut hu => ?_)
    (fun k hk htracked => ?_) (fun k hk htracked => ?_) fun u => ?_
  · by_cases hkn : k = s.drawn + 1
    · exact .inr ⟨s.drawn + 1, by rw [hkn]⟩
    · rw [Live, hother k hkn] at hk
      exact .inl hk
  · rw [hother k (hfresh k hk)]
  · have hlive := (h.resting q k hk).2
    rw [Live, hother k (hfresh k (.inl hlive))]
    exact hlive
  · have hkn : k ≠ s.drawn + 1 := by
      rintro rfl
      rw [hself, hkilled] at hdead
      cases hdead
    rw [Live, hother k hkn] at hk
    rw [hother k hkn] at hses hdead ⊢
    exact h.killed k hk hses hdead
  · have hkn := hfresh k (.inr (by rw [hk]; rfl))
    rw [Idle, hother k hkn]
    exact h.killing k ok hk hcalm
  · cases hk
    refine ⟨trivial, fun _ => ⟨?_, fun hhandled => ?_⟩⟩
    · show ((s.draw t r session).record (s.drawn + 1)).outstanding = false
      rw [hself, hout]
    · exact hfresh (s.drawn + 1) (.inr hhandled) rfl
  · have hkn := hfresh k (.inl (hr.sent hu).2)
    simp only [view, hother k hkn]
    rfl
  · have hkn : k ≠ s.drawn + 1 := by
      rintro rfl
      rw [hself, hout] at hk
      cases hk
    rw [hother k hkn] at hk
    rw [Tracked, hother k hkn] at htracked
    exact hsleeper k (h.asked k hk htracked)
  · have hkn := hfresh k (.inr hk)
    rw [Tracked, hother k hkn] at htracked
    rw [Live, Idle, hother k hkn]
    obtain ⟨hlive, hwho, -⟩ := h.held k hk htracked
    exact ⟨hlive, hwho.imp (hsleeper k) id⟩
  · refine holder_update h.sendLock (fun m rr st hst => absurd hst (hidle m rr st))
      (fun m rr st hst => ?_) u
    cases hst
    rfl

end ConnectionItem

end DalHost

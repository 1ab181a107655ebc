import DalHost.Bhp.Steps

/-!
# The receiver

What the receiver does with one record leaves the others alone (`Handover.turn`). While it has a
session in its hands, threads come and go there, and the last of them may give its memory back.
-/

namespace DalHost

namespace RecordView

variable {v : RecordView} {st : SendStage}

theorem Safe.found (h : v.Safe st) (mapped : Prop)
    (hmapped : st.sleeps = false → v.mapped → mapped) :
    Safe { v with outstanding := false, mapped := mapped, handled := True, wakes := True } st := by
  cases st with
  | find | lockSend | arm => exact fun hup => hmapped rfl (h hup)
  | sendCmd | sendData => exact ⟨fun hup => hmapped rfl (h.1 hup), h.2⟩
  | unlock | wait =>
    obtain ⟨e, hevent, hopen, -⟩ := h
    exact ⟨e, hevent, hopen, .inr (.inl trivial)⟩
  | _ => exact h

theorem Awaited.found (h : v.Awaited) (hout : v.outstanding = true) (mapped : Prop) :
    Awaited { v with outstanding := false, mapped := mapped, handled := True, wakes := True } := by
  cases h with
  | owed _ hevent => exact .handled trivial hevent rfl
  | handled _ _ hdone => cases hdone.symm.trans hout
  | signalled _ hquiet => cases hquiet.1.symm.trans hout

theorem Safe.signal (h : v.Safe st) (outstanding : Bool) (handled wakes resting : Prop) :
    Safe { v with
      event := v.event.map fun e => { e with triggered := true }
      outstanding := outstanding
      handled := handled
      wakes := wakes
      resting := resting } st := by
  have hopen : v.Open → ∃ e, (v.event.map fun e => { e with triggered := true }) = some e ∧
    e.closed = false ∧
      e.triggered = true := by
    rintro ⟨e, hevent, hclosed⟩
    exact ⟨{ e with triggered := true }, by rw [hevent]; rfl, hclosed, rfl⟩
  cases st with
  | sendCmd | sendData =>
    obtain ⟨e, hevent, hclosed, -⟩ := hopen h.2
    exact ⟨h.1, e, hevent, hclosed⟩
  | failed | closeEvent =>
    obtain ⟨e, hevent, hclosed, -⟩ := hopen h
    exact ⟨e, hevent, hclosed⟩
  | unlock | wait =>
    obtain ⟨e, hevent, hclosed, -⟩ := h
    obtain ⟨e', hevent', hclosed', htriggered⟩ := hopen ⟨e, hevent, hclosed⟩
    exact ⟨e', hevent', hclosed', .inl htriggered⟩
  | _ => exact h

theorem Safe.skip (h : v.Safe st) (hevent : v.wakes → v.event = none) (handled : Prop) :
    Safe { v with handled := handled, wakes := False } st := by
  cases st with
  | unlock | wait =>
    obtain ⟨e, he, hopen, htriggered | hwakes | howed⟩ := h
    · exact ⟨e, he, hopen, .inl htriggered⟩
    · cases (hevent hwakes).symm.trans he
    · exact ⟨e, he, hopen, .inr (.inr howed)⟩
  | _ => exact h

end RecordView

namespace ConnectionItem

variable {τ : Type} {calm : Bool} {s s' : ConnectionItem τ} {t : τ} {n m : Nat}

/-- The receiver goes on with one record: the state is `s` before and `s'` after. -/
structure Turn (calm : Bool) (s s' : ConnectionItem τ) (n : Nat) : Prop where
  thread : s'.thread = s.thread := by rfl
  sendLock : s'.sendLock = s.sendLock := by rfl
  handle : s'.handle = s.handle := by rfl
  down : s'.receiver.down = s.receiver.down
  sweeps : s'.receiver.sweeps = s.receiver.sweeps
  swept : s'.receiver.swept = s.receiver.swept
  other : ∀ k, k ≠ n → s'.record k = s.record k
  live : s'.Live n → s.Live n
  session : (s'.record n).isSession = (s.record n).isSession
  count : (s'.record n).count = (s.record n).count
  asked : (s'.record n).outstanding = true → (s.record n).outstanding = true
  before : ∀ k, k ≠ n → s.receiver.handles ≠ some k
  after : ∀ k, k ≠ n → s'.receiver.handles ≠ some k
  found : ∀ q k, s'.rrmap.find? q = some k → s.rrmap.find? q = some k
  kept : ∀ q k, k ≠ n → s.rrmap.find? q = some k → s'.rrmap.find? q = some k
  mapped : s.Live n → (s.record n).isSession = true → s.rrmap.find? (seqOf n) = some n →
    s'.rrmap.find? (seqOf n) = some n
  rest : ∀ q k, (q, k) ∈ s'.receiver.rest ↔ (q, k) ∈ s.receiver.rest ∧ k ≠ n
  nodup : (s'.receiver.rest.map Prod.fst).Nodup
  erasing : ∀ q k rest, s'.receiver = .erasing q k rest →
    q ∉ rest.map Prod.fst ∧ s'.rrmap.find? q = some k
  stages : ∀ t rr st, (s.thread t).task = .sending n rr st → (s'.view n).At (s.Tracked calm n) st
  held : s'.receiver.handles = some n → s.Tracked calm n →
    s'.Live n ∧ (s.Sleeper n ∨ s'.Idle n) ∧
      ((s.record n).isSession = false → s'.rrmap.find? (seqOf n) ≠ some n)
  dooms : s'.receiver.dooms = some n → (s.record n).isSession = true
  killing : ∀ k ok, s'.receiver = .killing k ok → calm = true → s'.Idle k
  late : calm = true → s'.lateSignal = true → s'.receiver.swept = true
  killed : s'.Live n → (s.record n).isSession = true → (s'.record n).killed = true →
    (s.record n).count ≠ 0 ∨ (s'.record n).waitEvent ≠ none ∨ s'.receiver.dooms = some n

theorem Handover.turn (h : s.Handover calm) (c : s.Turn calm s' n) : s'.Handover calm := by
  have hlive : ∀ k, s'.Live k → s.Live k := by
    intro k hk
    by_cases hkn : k = n
    · subst hkn
      exact c.live hk
    · rwa [Live, c.other k hkn] at hk
  have hsession : ∀ k, (s'.record k).isSession = (s.record k).isSession := by
    intro k
    by_cases hkn : k = n
    · rw [hkn, c.session]
    · rw [c.other k hkn]
  have hview : ∀ k, k ≠ n → s'.view k = s.view k := by
    intro k hk
    have hmapped : (s'.rrmap.find? (seqOf k) = some k) = (s.rrmap.find? (seqOf k) = some k) :=
      propext ⟨c.found _ _, c.kept _ _ hk⟩
    have hresting : ((seqOf k, k) ∈ s'.receiver.rest) = ((seqOf k, k) ∈ s.receiver.rest) := by
      rw [c.rest]
      exact propext (and_iff_left hk)
    have hhandled : (s'.receiver.handles = some k) = (s.receiver.handles = some k) :=
      propext (iff_of_false (c.after k hk) (c.before k hk))
    have hwakes : (s'.receiver.wakes = some k) = (s.receiver.wakes = some k) :=
      propext (iff_of_false (fun hw => c.after k hk (RecvThread.handles_of_wakes hw))
        fun hw => c.before k hk (RecvThread.handles_of_wakes hw))
    simp only [view, c.other k hk, c.handle, c.sweeps, c.swept, hmapped, hresting, hhandled, hwakes]
  have hsleeper : ∀ k, s.Sleeper k → s'.Sleeper k := by
    intro k hk
    rwa [Sleeper, c.thread]
  constructor
  case up => rw [c.handle, c.down, h.up]
  case stages =>
    intro u k rr st hu
    rw [c.thread] at hu
    rw [Tracked, hsession]
    by_cases hk : k = n
    · subst hk
      exact c.stages u rr st hu
    · exact hview k hk ▸ h.stages u k rr st hu
  case own =>
    rw [c.thread]
    exact fun k k' hk hfound => h.own k k' (hlive k hk) (c.found _ _ hfound)
  case mapped =>
    rw [c.thread, c.handle]
    intro k hup hk hses
    rw [hsession] at hses
    refine (h.mapped k hup (hlive k hk) hses).imp (fun hfound => ?_) id
    by_cases hkn : k = n
    · subst hkn
      exact c.mapped (hlive k hk) hses hfound
    · exact c.kept _ _ hkn hfound
  case asked =>
    intro k hk htracked
    rw [Tracked, hsession] at htracked
    refine hsleeper k (h.asked k ?_ htracked)
    by_cases hkn : k = n
    · subst hkn
      exact c.asked hk
    · rwa [c.other k hkn] at hk
  case held =>
    intro k hk htracked
    rw [Tracked, hsession] at htracked
    by_cases hkn : k = n
    · subst hkn
      obtain ⟨hk', hwho, hgone⟩ := c.held hk htracked
      rw [hsession]
      exact ⟨hk', hwho.imp (hsleeper k) id, hgone⟩
    · exact absurd hk (c.after k hkn)
  case resting =>
    intro q k hk
    obtain ⟨hk', hne⟩ := (c.rest q k).1 hk
    refine ⟨c.kept q k hne (h.resting q k hk').1, ?_⟩
    rw [Live, c.other k hne]
    exact (h.resting q k hk').2
  case nodup => exact c.nodup
  case erasing => exact c.erasing
  case dooms =>
    intro k hk
    by_cases hkn : k = n
    · subst hkn
      exact (hsession k).trans (c.dooms hk)
    · exact absurd (RecvThread.handles_of_dooms hk) (c.after k hkn)
  case killing => exact c.killing
  case killed =>
    intro k hk hses hdead
    rw [hsession] at hses
    by_cases hkn : k = n
    · subst hkn
      rw [c.count]
      exact c.killed hk hses hdead
    · rw [Live, c.other k hkn] at hk
      rw [c.other k hkn] at hdead ⊢
      refine (h.killed k hk hses hdead).imp id (Or.imp id fun hdoomed => ?_)
      exact absurd (RecvThread.handles_of_dooms hdoomed) (c.before k hkn)
  case sendLock =>
    rw [c.thread, c.sendLock]
    exact h.sendLock
  case late => exact c.late

theorem busy_of_handles {r : RecvThread} (h : r.handles = some n) :
    r.down = false ∧ r.sweeps = false ∧ r.swept = false ∧ r.rest = [] ∧ r.holdsMap = false := by
  cases r <;> first | exact ⟨rfl, rfl, rfl, rfl, rfl⟩ | cases h

theorem next_handles (ok : Bool) : (RecvThread.next ok).handles = none := by
  cases ok <;> rfl

theorem next_idle (ok : Bool) : (RecvThread.next ok).down = false ∧
    (RecvThread.next ok).sweeps = false ∧
    (RecvThread.next ok).swept = false ∧ (RecvThread.next ok).rest = [] ∧
    (RecvThread.next ok).holdsMap = false := by
  cases ok <;> exact ⟨rfl, rfl, rfl, rfl, rfl⟩

theorem view_next (s' : ConnectionItem τ) {ok : Bool} (hbusy : s.receiver.handles = some n)
    (hnext : s'.receiver = .next ok)
    (hhandle : s'.handle = s.handle) (hmap : s'.rrmap = s.rrmap)
    (hasked : (s'.record n).outstanding = (s.record n).outstanding)
    (hsession : (s'.record n).isSession = (s.record n).isSession) :
    s'.view n =
      { s.view n with event := (s'.record n).waitEvent, handled := False, wakes := False } := by
  obtain ⟨-, hsweeps, hswept, hrest, -⟩ := busy_of_handles hbusy
  obtain ⟨-, hsweeps', hswept', hrest', -⟩ := next_idle ok
  have hnone : s'.receiver.handles = none := hnext ▸ next_handles ok
  refine RecordView.ext rfl hasked hsession ?_ hhandle (eq_false fun hk => ?_)
    (eq_false fun hk => ?_) ?_ ?_ ?_
  · simp only [view, hmap]
  · cases hnone.symm.trans hk
  · cases hnone.symm.trans (RecvThread.handles_of_wakes hk)
  · simp only [view, hnext, hsweeps, hsweeps']
  · simp only [view, hnext, hswept, hswept']
  · simp only [view, hnext, hrest, hrest']

theorem Turn.busy (hbusy : s.receiver.handles = some n)
    (hnext : s'.receiver.handles = some n ∨ ∃ ok, s'.receiver = .next ok)
    (hthread : s'.thread = s.thread)
    (hsendLock : s'.sendLock = s.sendLock) (hhandle : s'.handle = s.handle)
    (hmap : s'.rrmap = s.rrmap)
    (hother : ∀ k, k ≠ n → s'.record k = s.record k) (hlive : s'.Live n → s.Live n)
    (hsession : (s'.record n).isSession = (s.record n).isSession)
    (hcount : (s'.record n).count = (s.record n).count)
    (hasked : (s'.record n).outstanding = (s.record n).outstanding)
    (hstages : ∀ t rr st, (s.thread t).task = .sending n rr st →
      (s'.view n).At (s.Tracked calm n) st)
    (hheld : s'.receiver.handles = some n → s.Tracked calm n → s'.Live n ∧
      (s.Sleeper n ∨ s'.Idle n) ∧
      ((s.record n).isSession = false → s'.rrmap.find? (seqOf n) ≠ some n))
    (hdooms : s'.receiver.dooms = some n → (s.record n).isSession = true)
    (hkilling : ∀ k ok, s'.receiver = .killing k ok → calm = true → s'.Idle k)
    (hlate : calm = true → s'.lateSignal = false)
    (hkilled : s'.Live n → (s.record n).isSession = true → (s'.record n).killed = true →
      (s.record n).count ≠ 0 ∨ (s'.record n).waitEvent ≠ none ∨ s'.receiver.dooms = some n) :
    s.Turn calm s' n := by
  obtain ⟨hdown, hsweeps, hswept, hrest, -⟩ := busy_of_handles hbusy
  obtain ⟨hdown', hsweeps', hswept', hrest', hholds⟩ : s'.receiver.down = false ∧
    s'.receiver.sweeps = false ∧
      s'.receiver.swept = false ∧ s'.receiver.rest = [] ∧ s'.receiver.holdsMap = false := by
    obtain hnext | ⟨ok, hnext⟩ := hnext
    · exact busy_of_handles hnext
    · exact hnext ▸ next_idle ok
  constructor
  case thread => exact hthread
  case sendLock => exact hsendLock
  case handle => exact hhandle
  case down => rw [hdown, hdown']
  case sweeps => rw [hsweeps, hsweeps']
  case swept => rw [hswept, hswept']
  case other => exact hother
  case live => exact hlive
  case session => exact hsession
  case count => exact hcount
  case asked => exact fun hk => hasked ▸ hk
  case before => exact fun k hk heq => hk (Option.some.inj (heq.symm.trans hbusy))
  case after =>
    intro k hk heq
    obtain hnext | ⟨ok, hnext⟩ := hnext
    · exact hk (Option.some.inj (heq.symm.trans hnext))
    · cases (next_handles ok).symm.trans (hnext ▸ heq)
  case found => exact fun q k hk => hmap ▸ hk
  case kept => exact fun q k _ hk => hmap ▸ hk
  case mapped => exact fun _ _ hk => hmap ▸ hk
  case rest =>
    intro q k
    rw [hrest, hrest']
    exact iff_of_false List.not_mem_nil fun hk => List.not_mem_nil hk.1
  case nodup =>
    rw [hrest']
    exact List.nodup_nil
  case erasing => exact fun q k rest hk => absurd hk (RecvThread.not_erasing hholds q k rest)
  case stages => exact hstages
  case held => exact hheld
  case dooms => exact hdooms
  case killing => exact hkilling
  case late => exact fun hcalm hk => by cases (hlate hcalm).symm.trans hk
  case killed => exact hkilled

namespace Sound

variable (h : s.Sound calm)
include h

theorem pass {r : RecvThread} (log : List BhpResponse) (hdown : r.down = s.receiver.down)
    (hsweeps : r.sweeps = s.receiver.sweeps) (hswept : r.swept = s.receiver.swept)
    (hbefore : s.receiver.handles = none) (hafter : r.handles = none)
    (hrest : r.rest = s.receiver.rest)
    (herasing : ∀ q k rest, r ≠ .erasing q k rest) :
    ({ s with receiver := r, log := log } : ConnectionItem τ).Sound calm := by
  have hnone : ∀ n, r.handles ≠ some n := fun n hn => by cases hafter.symm.trans hn
  have hnone' : ∀ n, s.receiver.handles ≠ some n := fun n hn => by cases hbefore.symm.trans hn
  refine ⟨h.registry.congr rfl rfl rfl rfl (fun hk => hsweeps ▸ hk)
    (fun n hn => absurd hn (hnone n))
    (fun _ => rfl) (fun _ => rfl) (fun _ => rfl) fun _ => rfl, ?_⟩
  have hview : ∀ k,
      ({ s with receiver := r, log := log } : ConnectionItem τ).view k = s.view k := by
    intro k
    have hhandled : (r.handles = some k) = (s.receiver.handles = some k) :=
      propext (iff_of_false (hnone k) (hnone' k))
    have hwakes : (r.wakes = some k) = (s.receiver.wakes = some k) :=
      propext (iff_of_false (fun hw => hnone k (RecvThread.handles_of_wakes hw))
        fun hw => hnone' k (RecvThread.handles_of_wakes hw))
    simp only [view, hsweeps, hswept, hhandled, hwakes, hrest]
  have hh := h.handover
  constructor
  case up => exact hh.up.trans (by rw [← hdown])
  case stages => exact fun u k rr st hu => (hview k).symm ▸ hh.stages u k rr st hu
  case own => exact hh.own
  case mapped => exact hh.mapped
  case asked => exact hh.asked
  case held => exact fun k hk => absurd hk (hnone k)
  case resting =>
    rw [hrest]
    exact hh.resting
  case nodup =>
    rw [hrest]
    exact hh.nodup
  case erasing => exact fun q k rest hk => absurd hk (herasing q k rest)
  case dooms => exact fun k hk => absurd (RecvThread.handles_of_dooms hk) (hnone k)
  case killing => exact fun k ok hk => absurd (congrArg RecvThread.handles hk) (hnone k)
  case killed =>
    intro k hk hses hdead
    refine (hh.killed k hk hses hdead).imp id (Or.imp id fun hdoomed => ?_)
    exact absurd (RecvThread.handles_of_dooms hdoomed) (hnone' k)
  case sendLock => exact hh.sendLock
  case late => exact fun hcalm hlate => hswept ▸ hh.late hcalm hlate

omit h in
/-- What comes was owed, or nobody is concerned. -/
theorem owed {a : BhpResponse} (hlistening : s.receiver = .listening)
    (hfound : s.rrmap.find? a.seq = some n)
    (hpremature : ¬s.Premature a) (hcalm : calm = true → ¬s.Disturbs (.receive (some a)))
    (htracked : s.Tracked calm n) : (s.record n).outstanding = true ∨ s.Idle n := by
  by_contra hno
  rw [not_or, Bool.not_eq_true] at hno
  cases hsession : (s.record n).isSession with
  | false => exact hpremature ⟨hlistening, n, hfound, hsession, hno.1⟩
  | true =>
    obtain hcalm' | hcommand := htracked
    · exact hcalm hcalm' ⟨hlistening, n, hfound, hsession, hno.1, hno.2⟩
    · cases hsession.symm.trans hcommand

theorem receiveFound {a : BhpResponse} (hlistening : s.receiver = .listening)
    (hfound : s.rrmap.find? a.seq = some n) (hpremature : ¬s.Premature a)
    (hcalm : calm = true → ¬s.Disturbs (.receive (some a))) :
    (ConnectionItem.edit
      { s.rrmapRemove a.seq with log := s.log ++ [a], receiver := .found a (some n) } n
      fun r => { r with outstanding := false }).Sound calm := by
  have hkey := h.registry.keyed _ n hfound
  have hsweeps : s.receiver.sweeps = false := by
    rw [hlistening]
    rfl
  have hlive : s.Live n := (h.registry.stored _ n hfound).resolve_right fun hdead => by
    cases hsweeps.symm.trans hdead.2
  have hnone : ∀ k, s.receiver.handles ≠ some k := fun k hk => by
    rw [hlistening] at hk
    cases hk
  have hlate : calm = true → s.lateSignal = false := fun hcalm' => Bool.eq_false_iff.2 fun hk => by
    cases (congrArg RecvThread.swept hlistening).symm.trans (h.handover.late hcalm' hk)
  have hwho := owed hlistening hfound hpremature hcalm
  have hasked : s.Tracked calm n → ∀ u rr st, (s.thread u).task = .sending n rr st →
      (s.record n).outstanding = true := fun htracked u rr st hu =>
    (hwho htracked).resolve_right fun hidle => h.registry.count_ne_zero hu hidle.1 hidle.2.1
  -- what happens to the map
  obtain ⟨rrmap, hrrmap, hsub, hkept, hsession, hcommand⟩ : ∃ rrmap,
    s.rrmapRemove a.seq = s.setMap rrmap ∧
      (∀ q k, rrmap.find? q = some k → s.rrmap.find? q = some k) ∧
      (∀ q k, k ≠ n → s.rrmap.find? q = some k → rrmap.find? q = some k) ∧
      ((s.record n).isSession = true → rrmap = s.rrmap) ∧
      ((s.record n).isSession = false → rrmap.find? a.seq = none) := by
    unfold rrmapRemove
    rw [hfound]
    dsimp only
    split_ifs with hsession
    · exact ⟨s.rrmap, rfl, fun _ _ => id, fun _ _ _ => id, fun _ => rfl,
        fun hcommand => by cases hcommand.symm.trans hsession⟩
    · refine ⟨s.rrmap.erase a.seq, rfl, fun q k hk => ?_, fun q k hkn hk => ?_,
        fun hk => absurd hk hsession,
        fun _ => by rw [OrdMap.find?_erase, if_pos rfl]⟩
      · rw [OrdMap.find?_erase] at hk
        split_ifs at hk
        exact hk
      · have hq : q ≠ a.seq := by
          rintro rfl
          exact hkn (Option.some.inj (hk.symm.trans hfound))
        rw [OrdMap.find?_erase, if_neg hq, hk]
  have hremove : (s.rrmapRemove a.seq).Registry := h.registry.rrmapRemove a.seq
  rw [hrrmap] at hremove ⊢
  have hself :=
    record_edit_self { s.setMap rrmap with log := s.log ++ [a], receiver := .found a (some n) } n
    fun r => { r with outstanding := false }
  refine ⟨?_, h.handover.turn (n := n) ?_⟩
  · have htake : ((s.setMap rrmap).setReceiver (.found a (some n))).Registry :=
      hremove.take hsweeps fun k hk => Option.some.inj hk ▸ hlive
    have hlog : ({ s.setMap rrmap with log := s.log ++ [a], receiver := .found a (some n) } :
        ConnectionItem τ).Registry :=
      htake.congr rfl rfl rfl rfl id (fun _ => id) (fun _ => rfl) (fun _ => rfl) (fun _ => rfl)
        fun _ => rfl
    exact hlog.edit (fun _ => rfl) (fun _ => rfl) (fun _ => rfl) fun _ => rfl
  constructor
  case thread | sendLock | handle => rfl
  case down | sweeps | swept =>
    rw [hlistening]
    rfl
  case other => exact fun k hk => record_edit_of_ne _ _ hk
  case live => exact fun _ => hlive
  case session => rw [hself]; rfl
  case count => rw [hself]; rfl
  case asked =>
    rw [hself]
    exact fun hk => by cases hk
  case before => exact fun k _ => hnone k
  case after => exact fun k hk heq => hk (Option.some.inj heq).symm
  case found => exact hsub
  case kept => exact hkept
  case mapped => exact fun _ hk => hsession hk ▸ id
  case rest =>
    intro q k
    rw [hlistening]
    exact iff_of_false List.not_mem_nil fun hk => List.not_mem_nil hk.1
  case nodup => exact List.nodup_nil
  case erasing => exact fun q k rest hk => by cases hk
  case stages =>
    intro u rr st hu
    have hat := h.handover.stages u n rr st hu
    have hview : (ConnectionItem.edit { s.setMap rrmap with
        log := s.log ++ [a], receiver := .found a (some n) } n
          fun r => { r with outstanding := false }).view n =
        { s.view n with
          outstanding := false
          mapped := rrmap.find? (seqOf n) = some n
          handled := True
          wakes := True } := by
      have hfield := fun (α : Type) (g : ResponseRecord τ → α) hg => record_edit_field
        { s.setMap rrmap with log := s.log ++ [a], receiver := .found a (some n) } g
        (fun r => { r with outstanding := false }) hg n n
      exact RecordView.ext (hfield _ ResponseRecord.waitEvent fun _ => rfl)
        (congrArg ResponseRecord.outstanding hself)
        (hfield _ ResponseRecord.isSession fun _ => rfl) rfl rfl (eq_true rfl) (eq_true rfl)
        (congrArg RecvThread.sweeps hlistening).symm (congrArg RecvThread.swept hlistening).symm
        (congrArg (fun r => (seqOf n, n) ∈ RecvThread.rest r) hlistening).symm
    rw [hview]
    refine ⟨hat.safe.found _ fun hsleeps hmapped => ?_, fun htracked => ?_⟩
    · cases hses : (s.record n).isSession with
      | true =>
        rw [hsession hses]
        exact hmapped
      | false =>
        have hout := hasked (.inr hses) u rr st hu
        cases hsleeps.symm.trans ((hat.strict (.inr hses)).sleeps_of_outstanding hout)
    · have hout := hasked htracked u rr st hu
      have hsleeps := (hat.strict htracked).sleeps_of_outstanding hout
      exact (RecordView.strict_iff_awaited hsleeps).2
        (((RecordView.strict_iff_awaited hsleeps).1 (hat.strict htracked)).found hout _)
  case held =>
    intro _ htracked
    refine ⟨?_, ?_, fun hk hmapped => ?_⟩
    · rw [Live, hself]
      exact hlive
    · refine (hwho htracked).imp (fun hout => h.handover.asked n hout htracked) fun hidle => ?_
      rw [Idle, hself]
      exact hidle
    · rw [hkey] at hmapped
      cases (hcommand hk).symm.trans hmapped
  case dooms => exact fun hk => by cases hk
  case killing => exact fun k ok hk => by cases hk
  case late => exact fun hcalm' hk => by cases (hlate hcalm').symm.trans hk
  case killed =>
    intro _ hses hdead
    rw [hself] at hdead ⊢
    refine (h.handover.killed n hlive hses hdead).imp id (Or.imp id fun hdoomed => ?_)
    exact absurd (RecvThread.handles_of_dooms hdoomed) (hnone n)

theorem receive {header : Option BhpResponse} (hpremature : ∀ a, header = some a → ¬s.Premature a)
    (hcalm : calm = true → ¬s.Disturbs (.receive header)) : (s.receive header).Sound calm := by
  unfold ConnectionItem.receive
  split
  · rename_i hlistening
    refine h.pass s.log ?_ ?_ ?_ ?_ rfl ?_ fun _ _ _ => RecvThread.noConfusion
    all_goals
      rw [hlistening]
      rfl
  · rename_i a hlistening
    dsimp only
    cases hfound : s.rrmap.find? a.seq with
    | none =>
      have hsame : s.rrmapRemove a.seq = s := by rw [rrmapRemove, hfound]
      rw [hsame]
      refine h.pass (s.log ++ [a]) ?_ ?_ ?_ ?_ rfl ?_ fun _ _ _ => RecvThread.noConfusion
      all_goals
        rw [hlistening]
        rfl
    | some n => exact h.receiveFound hlistening hfound (hpremature a rfl) hcalm
  · exact h

theorem in_time (hhandles : s.receiver.handles = some n) : calm = true → s.lateSignal = false :=
  fun hcalm => Bool.eq_false_iff.2 fun hk => by
    cases (busy_of_handles hhandles).2.2.1.symm.trans (h.handover.late hcalm hk)

theorem filled {a : BhpResponse} {ok : Bool} (hreceiver : s.receiver = .found a (some n)) :
    ((s.edit n (fill a ok)).setReceiver (.waking n
      ((s.record n).isSession && sessionDead (if ok then a.code else bpeCommsError)) ok)).Sound
        calm := by
  have hhandles : s.receiver.handles = some n := by
    rw [hreceiver]
    rfl
  have hself := record_edit_self s n (fill a ok)
  refine ⟨?_, h.handover.turn (n := n) (Turn.busy hhandles (.inl rfl) rfl rfl rfl rfl
    (fun k hk => record_edit_of_ne s _ hk) ?_ ?_ ?_ ?_ ?_ ?_ ?_ ?_ ?_ ?_)⟩
  · have hedit := h.registry.edit (n := n) (f := fill a ok) (fun _ => rfl) (fun _ => rfl)
      (fun _ => rfl) fun _ => rfl
    refine hedit.setReceiver (fun hk => ?_) fun k hk => hhandles.trans hk
    cases (busy_of_handles hhandles).2.1.symm.trans hk
  · exact fun hk => (record_edit_field s ResponseRecord.freed (fill a ok)
      (fun _ => rfl) n n).symm.trans hk
  · exact record_edit_field s ResponseRecord.isSession (fill a ok) (fun _ => rfl) n n
  · exact record_edit_field s ResponseRecord.count (fill a ok) (fun _ => rfl) n n
  · exact record_edit_field s ResponseRecord.outstanding (fill a ok) (fun _ => rfl) n n
  · intro u rr st hu
    have hview : ((s.edit n (fill a ok)).setReceiver (.waking n
        ((s.record n).isSession && sessionDead (if ok then a.code else bpeCommsError)) ok)).view
          n = s.view n :=
      RecordView.ext (record_edit_field s ResponseRecord.waitEvent (fill a ok) (fun _ => rfl) n n)
        (record_edit_field s ResponseRecord.outstanding (fill a ok) (fun _ => rfl) n n)
        (record_edit_field s ResponseRecord.isSession (fill a ok) (fun _ => rfl) n n) rfl rfl
        (congrArg (fun r => RecvThread.handles r = some n) hreceiver).symm
        (congrArg (fun r => RecvThread.wakes r = some n) hreceiver).symm
        (congrArg RecvThread.sweeps hreceiver).symm (congrArg RecvThread.swept hreceiver).symm
        (congrArg (fun r => (seqOf n, n) ∈ RecvThread.rest r) hreceiver).symm
    exact hview ▸ h.handover.stages u n rr st hu
  · intro _ htracked
    obtain ⟨hlive, hwho, hgone⟩ := h.handover.held n hhandles htracked
    refine ⟨(record_edit_field s ResponseRecord.freed (fill a ok) (fun _ => rfl) n n).trans hlive,
      hwho.imp id fun hidle => ?_, hgone⟩
    rw [Idle, setReceiver, hself]
    exact hidle
  · intro hdooms
    by_contra hcommand
    rw [Bool.eq_false_iff.2 hcommand] at hdooms
    cases hdooms
  · exact fun k ok hk => by cases hk
  · exact h.in_time hhandles
  · intro hlive hses hdead
    replace hlive : s.Live n := (record_edit_field s ResponseRecord.freed (fill a ok)
      (fun _ => rfl) n n).symm.trans hlive
    rw [setReceiver, hself] at hdead ⊢
    simp only [fill, hses, Bool.true_and, Bool.or_eq_true] at hdead
    obtain hold | hnew := hdead
    · refine (h.handover.killed n hlive hses hold).imp id (Or.imp id fun hdoomed => ?_)
      rw [hreceiver] at hdoomed
      cases hdoomed
    · refine .inr (.inr ?_)
      rw [hses, hnew]
      rfl

theorem skipped {dead ok : Bool} (hreceiver : s.receiver = .waking n dead ok)
    (hevent : (s.record n).waitEvent = none) (htracked : s.Tracked calm n) : s.Idle n := by
  have hhandles : s.receiver.handles = some n := by
    rw [hreceiver]
    rfl
  refine (h.handover.held n hhandles htracked).2.1.resolve_left ?_
  rintro ⟨u, rr, st, hu, hsleeps⟩
  exact h.handover.event_ne_none hu hsleeps hevent

theorem signalled {dead ok : Bool} {e : WaitEvent} (hreceiver : s.receiver = .waking n dead ok)
    (hevent : (s.record n).waitEvent = some e) :
    ((s.signal n e).setReceiver (.next ok)).Sound calm := by
  have hhandles : s.receiver.handles = some n := by
    rw [hreceiver]
    rfl
  obtain ⟨-, hsweeps, -, hrest, -⟩ := busy_of_handles hhandles
  have hself :
    (s.signal n e).record n = { s.record n with waitEvent := some { e with triggered := true } } :=
    record_edit_self s n fun r => { r with waitEvent := some { e with triggered := true } }
  -- the event of a record for which nothing comes but answers
  have hnew : s.Tracked calm n → e = ⟨false, false⟩ ∧ (s.record n).outstanding = false := by
    intro htracked
    obtain ⟨u, rr, st, hu, hsleeps⟩ := (h.handover.held n hhandles htracked).2.1.resolve_right
      fun hidle => by
      cases hevent.symm.trans hidle.2.2
    cases (RecordView.strict_iff_awaited hsleeps).1
      ((h.handover.stages u n rr st hu).strict htracked) with
    | owed _ _ _ hk => exact absurd hhandles hk
    | signalled _ hk => exact absurd hhandles hk.2
    | handled _ hevent' hdone => exact ⟨Option.some.inj (hevent.symm.trans hevent'), hdone⟩
  refine ⟨?_, h.handover.turn (n := n) (Turn.busy hhandles (.inr ⟨ok, rfl⟩) rfl rfl rfl rfl
    (fun k hk => Function.update_of_ne hk _ _) ?_ ?_ ?_ ?_ ?_ ?_ ?_ ?_ ?_ ?_)⟩
  · have hedit := h.registry.edit (n := n) (f := fun r =>
      { r with waitEvent := some { e with triggered := true } })
      (fun _ => rfl) (fun _ => rfl) (fun _ => rfl) fun _ => rfl
    refine hedit.congr rfl rfl rfl rfl (fun hk => ?_) (fun k hk => ?_) (fun _ => rfl) (fun _ => rfl)
      (fun _ => rfl)
      fun _ => rfl
    · cases hsweeps.symm.trans hk
    · cases (next_handles ok).symm.trans hk
  · rw [setReceiver, Live, hself]
    exact id
  · rw [setReceiver, hself]
  · rw [setReceiver, hself]
  · rw [setReceiver, hself]
  · intro u rr st hu
    have hat := h.handover.stages u n rr st hu
    have hview := view_next ((s.signal n e).setReceiver (.next ok)) hhandles rfl rfl rfl
      (by rw [setReceiver, hself])
      (by rw [setReceiver, hself])
    have hwoken : ((s.signal n e).record n).waitEvent = (s.view n).event.map
      fun e => { e with triggered := true } := by
      rw [hself, show (s.view n).event = some e from hevent]
      rfl
    rw [hview, setReceiver, hwoken]
    refine ⟨hat.safe.signal _ _ _ _, fun htracked => ?_⟩
    obtain ⟨rfl, hdone⟩ := hnew htracked
    have hsleeps := (hat.strict htracked).sleeps_of_handled hhandles
    refine (RecordView.strict_iff_awaited hsleeps).2
      (.signalled ?_ ⟨hdone, id⟩ fun hcommand hmapped => ?_)
    · rw [show (s.view n).event = some ⟨false, false⟩ from hevent]
      rfl
    · exact absurd hmapped ((h.handover.held n hhandles htracked).2.2 hcommand)
  · exact fun hk => by cases (next_handles ok).symm.trans hk
  · exact fun hk => by cases (next_handles ok).symm.trans (RecvThread.handles_of_dooms hk)
  · exact fun k ok' hk => by cases (next_handles ok).symm.trans (congrArg RecvThread.handles hk)
  · intro hcalm
    obtain ⟨rfl, -⟩ := hnew (.inl hcalm)
    show (s.lateSignal || false) = false
    rw [h.in_time hhandles hcalm]
    rfl
  · intro _ _ _
    refine .inr (.inl ?_)
    rw [setReceiver, hself]
    exact Option.some_ne_none _

theorem spared {dead ok : Bool} (hreceiver : s.receiver = .waking n dead ok)
    (hevent : (s.record n).waitEvent = none) (hdead : dead = false) :
    (s.setReceiver (.next ok)).Sound calm := by
  have hhandles : s.receiver.handles = some n := by
    rw [hreceiver]
    rfl
  obtain ⟨-, hsweeps, -⟩ := busy_of_handles hhandles
  have hnone : ∀ k, (s.setReceiver (.next ok)).receiver.handles ≠ some k := fun k hk => by
    cases (next_handles ok).symm.trans hk
  refine ⟨h.registry.setReceiver (fun hk => by cases hsweeps.symm.trans hk) fun k hk => absurd hk
    (hnone k),
    h.handover.turn (n := n) (Turn.busy hhandles (.inr ⟨ok, rfl⟩) rfl rfl rfl rfl
      (fun _ _ => rfl) id rfl rfl rfl
    (fun u rr st hu => ?_) (fun hk => absurd hk (hnone n))
    (fun hk => absurd (RecvThread.handles_of_dooms hk) (hnone n))
    (fun k ok' hk => absurd (congrArg RecvThread.handles hk) (hnone k)) (h.in_time hhandles)
    fun hlive hses hkilled => ?_)⟩
  · have hat := h.handover.stages u n rr st hu
    have hview := view_next (s.setReceiver (.next ok)) hhandles rfl rfl rfl rfl rfl
    rw [hview]
    refine ⟨hat.safe.skip (fun _ => hevent) _, fun htracked => ?_⟩
    exact absurd (h.skipped hreceiver hevent htracked).2.1
      (h.registry.count_ne_zero hu (h.skipped hreceiver hevent htracked).1)
  · refine (h.handover.killed n hlive hses hkilled).imp id (Or.imp id fun hdoomed => ?_)
    rw [hreceiver, hdead] at hdoomed
    cases hdoomed

theorem doomed {ok : Bool} (hreceiver : s.receiver = .waking n true ok)
    (hevent : (s.record n).waitEvent = none) :
    (s.setReceiver (.killing n ok)).Sound calm := by
  have hhandles : s.receiver.handles = some n := by
    rw [hreceiver]
    rfl
  obtain ⟨-, hsweeps, hswept, hrest, -⟩ := busy_of_handles hhandles
  have hnobody : s.Tracked calm n → ∀ u rr st, (s.thread u).task ≠ .sending n rr st :=
    fun htracked u rr st hu =>
    h.registry.count_ne_zero hu (h.skipped hreceiver hevent htracked).1
      (h.skipped hreceiver hevent htracked).2.1
  refine ⟨h.registry.setReceiver (fun hk => by cases hsweeps.symm.trans hk)
    fun k hk => hhandles.trans hk,
    h.handover.turn (n := n) (Turn.busy hhandles (.inl rfl) rfl rfl rfl rfl
      (fun _ _ => rfl) id rfl rfl rfl
    (fun u rr st hu => ?_) (fun _ htracked => ?_) (fun _ => ?_) (fun k ok' hk hcalm => ?_)
    (h.in_time hhandles)
    fun _ _ _ => .inr (.inr rfl))⟩
  · have hview : (s.setReceiver (.killing n ok)).view n =
        { s.view n with handled := (s.view n).handled, wakes := False } :=
      RecordView.ext rfl rfl rfl rfl rfl (propext (iff_of_true rfl hhandles))
        (eq_false fun hk => by cases hk)
        hsweeps.symm hswept.symm (congrArg (fun rest => (seqOf n, n) ∈ rest) hrest).symm
    rw [hview]
    exact ⟨(h.handover.stages u n rr st hu).safe.skip (fun _ => hevent) _, fun htracked => absurd hu
      (hnobody htracked u rr st)⟩
  · obtain ⟨hlive, -, hgone⟩ := h.handover.held n hhandles htracked
    exact ⟨hlive, .inr (h.skipped hreceiver hevent htracked), hgone⟩
  · exact h.handover.dooms n (by rw [hreceiver]; rfl)
  · cases hk
    exact h.skipped hreceiver hevent (.inl hcalm)

theorem killing {ok : Bool} (hreceiver : s.receiver = .killing n ok) :
    ((if ((s.edit n fun r => { r with killed := true }).record n).count = 0 then
      (s.edit n fun r => { r with killed := true }).destroy n
      else s.edit n fun r => { r with killed := true }).setReceiver (.next ok)).Sound calm := by
  have hhandles : s.receiver.handles = some n := by
    rw [hreceiver]
    rfl
  obtain ⟨-, hsweeps, -, hrest, -⟩ := busy_of_handles hhandles
  have hsession := h.handover.dooms n (by rw [hreceiver]; rfl)
  have hself := record_edit_self s n fun r => { r with killed := true }
  have hcount : ((s.edit n fun r => { r with killed := true }).record n).count =
    (s.record n).count := by rw [hself]
  have hedit := h.registry.edit (n := n) (f := fun r => { r with killed := true }) (fun _ => rfl)
    (fun _ => rfl)
    (fun _ => rfl) fun _ => rfl
  have hnone : ∀ k, (RecvThread.next ok).handles ≠ some k := fun k hk => by
    cases (next_handles ok).symm.trans hk
  have hnext : ((s.edit n fun r => { r with killed := true }).setReceiver (.next ok)).Registry :=
    hedit.setReceiver (fun hk => by cases hsweeps.symm.trans hk) fun k hk => absurd hk (hnone k)
  -- whoever sends with the session relies on nothing that the receiver does here
  have hstrict : s.Tracked calm n → (s.record n).count = 0 := by
    rintro (hcalm | hcommand)
    · exact (h.handover.killing n ok hreceiver hcalm).2.1
    · cases hsession.symm.trans hcommand
  rw [hcount]
  split_ifs with hzero
  · -- nobody is inside, also if the last one has given the session back
    have hnobody : ∀ u, ¬s.Inside n u := fun u ⟨role, hu⟩ =>
      ((h.registry.counted n (h.registry.inside u n role hu).1 hsession).pos ⟨role, hu⟩).ne' hzero
    have hsender : ∀ u rr st, (s.thread u).task ≠ .sending n rr st := fun u rr st hu =>
      h.registry.count_ne_zero hu hsession hzero
    have hdestroyed := hnext.destroy (n := n) (by rw [setReceiver, hself]; exact hsession) hnobody
    refine ⟨hdestroyed, ?_⟩
    have hfreed :
      ((s.edit n fun r => { r with killed := true, freed := true, sessionLock := none }).setReceiver
        (.next ok)).Handover calm := by
      have hgone :=
        record_edit_self s n fun r => { r with killed := true, freed := true, sessionLock := none }
      refine h.handover.turn (n := n) (Turn.busy hhandles (.inr ⟨ok, rfl⟩) rfl rfl rfl rfl
        (fun k hk => Function.update_of_ne hk _ _) (fun hk => ?_) ?_ ?_ ?_
        (fun u rr st hu => absurd hu (hsender u rr st))
        (fun hk => absurd hk (hnone n)) (fun hk => absurd (RecvThread.handles_of_dooms hk)
          (hnone n))
        (fun k ok' hk => absurd (congrArg RecvThread.handles hk) (hnone k)) (h.in_time hhandles)
          fun hk => ?_)
      · rw [Live, setReceiver, hgone] at hk
        cases hk
      · rw [setReceiver, hgone]
      · rw [setReceiver, hgone]
      · rw [setReceiver, hgone]
      · rw [Live, setReceiver, hgone] at hk
        cases hk
    have hburied := hfreed.bury h.registry rfl (n := n) ?_ (fun k hk => ?_)
      (fun _ _ _ _ => id) hsender
      (h.registry.hand n hhandles).2 (fun k hk => ?_)
      (RecvThread.not_erasing (next_idle ok).2.2.2.2)
    · simp only [ConnectionItem.destroy, ConnectionItem.edit, Function.update_self,
        Function.update_idem]
      exact hburied
    · rw [Live, setReceiver, record_edit_self]
      exact Bool.noConfusion
    · by_cases hkn : k = n
      · rw [hkn, Live, setReceiver, record_edit_self] at hk
        cases hk
      · rwa [Live, setReceiver, record_edit_of_ne s _ hkn] at hk
    · rw [setReceiver, (next_idle ok).2.2.2.1] at hk
      cases hk
  · refine ⟨hnext, h.handover.turn (n := n) (Turn.busy hhandles (.inr ⟨ok, rfl⟩) rfl rfl rfl rfl
      (fun k hk => Function.update_of_ne hk _ _) ?_ ?_ ?_ ?_ (fun u rr st hu => ?_)
      (fun hk => absurd hk (hnone n))
      (fun hk => absurd (RecvThread.handles_of_dooms hk) (hnone n))
      (fun k ok' hk => absurd (congrArg RecvThread.handles hk) (hnone k)) (h.in_time hhandles)
      fun _ _ _ => .inl hzero)⟩
    · rw [Live, setReceiver, hself]
      exact id
    · rw [setReceiver, hself]
    · rw [setReceiver, hself]
    · rw [setReceiver, hself]
    · have hat := h.handover.stages u n rr st hu
      have hview := view_next ((s.edit n fun r => { r with killed := true }).setReceiver (.next ok))
        hhandles rfl
        rfl rfl (by rw [setReceiver, hself]) (by rw [setReceiver, hself])
      rw [hview, setReceiver, hself]
      refine ⟨hat.safe.skip (fun hwakes => ?_) _, fun htracked => absurd (hstrict htracked) hzero⟩
      cases (congrArg RecvThread.wakes hreceiver).symm.trans hwakes

end Sound

end ConnectionItem

end DalHost

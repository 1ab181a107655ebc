import DalHost.Bhp.Handover

/-!
# The steps of a thread

Every orderly step of a thread keeps the registry of the records and the handover of the responses;
the calm one as well, unless a session is entered that the receiver is just at.
-/

namespace DalHost

namespace ConnectionItem

variable {τ : Type} {calm : Bool} {s : ConnectionItem τ} {t : τ} {n m : Nat}

/-- A session is entered that the receiver is at, or the firmware says what is not the answer to a
command of a session that somebody is inside of or a failed send has left its event in. -/
def Disturbs (c : BhpMove τ) (s : ConnectionItem τ) : Prop :=
  match c with
  | .host t _ =>
    match (s.thread t).task with
    | .entering q _ => ∃ n, s.rrmap.find? q = some n ∧ s.receiver.handles = some n
    | _ => False
  | .receive (some a) =>
    s.receiver = .listening ∧ ∃ n, s.rrmap.find? a.seq = some n ∧ (s.record n).isSession = true ∧
      (s.record n).outstanding = false ∧ ¬s.Idle n
  | _ => False

/-- The invariant of a connection. -/
structure Sound (calm : Bool) (s : ConnectionItem τ) : Prop where
  registry : s.Registry
  handover : s.Handover calm

theorem sound_start (calm : Bool) (drawn : Nat) : (start drawn : ConnectionItem τ).Sound calm :=
  ⟨registry_start drawn, handover_start calm drawn⟩

namespace Sound

variable [DecidableEq τ] (h : s.Sound calm)
include h

theorem walk {task : HostTask} (hshape : s.Shaped { s.thread t with task := task })
    (hends : ∀ k rr st, (s.thread t).task ≠ .sending k rr st)
    (hbegins : ∀ k rr st, task ≠ .sending k rr st)
    (hlock : ∀ n role, (s.thread t).session = some (n, role) → role.locks = true →
      (s.thread t).task ≠ .locking ∧ task ≠ .locking) : (s.goto t task).Sound calm where
  registry := h.registry.goto hshape (fun k rr st hk => absurd hk (hbegins k rr st)) hlock
  handover :=
    h.handover.move _ rfl rfl rfl rfl rfl rfl (fun _ => rfl) (fun _ => id)
      (fun k rr st hk => absurd hk (hends k rr st)) (fun k rr st hk => absurd hk (hbegins k rr st))
      h.handover.killed (fun k hk htracked => ⟨(h.handover.held k hk htracked).1, id⟩)
      fun q k hk => (h.handover.resting q k hk).2

theorem begin {call : HostCall} (hnumber : ∀ retry, call = .openSession retry → ¬s.NumberInUse) :
    (s.begin t call).Sound calm := by
  unfold ConnectionItem.begin
  split_ifs with ht
  · have hidle : ∀ k rr st, (s.thread t).task ≠ .sending k rr st := fun k rr st hk => by
      rw [ht] at hk
      cases hk
    have hout : ∀ n role, (s.thread t).session ≠ some (n, role) := fun n role hn => by
      rw [ht] at hn
      cases hn
    cases call with
    | command =>
      refine h.walk ?_ hidle (fun _ _ _ => HostTask.noConfusion) fun n role hn => absurd hn
        (hout n role)
      rw [ht]
      trivial
    | openSession retry =>
      have hn := hnumber retry rfl
      exact ⟨h.registry.drawSession hn ht retry, h.handover.draw h.registry hn hidle (.inr rfl)⟩
    | exchange q | closeSession q | forceClose q =>
      refine h.walk ?_ hidle (fun _ _ _ => HostTask.noConfusion) fun n role hn => absurd hn
        (hout n role)
      rw [ht]
      exact ⟨rfl, rfl⟩
  · exact h

theorem drawing (ht : (s.thread t).task = .drawing) (hnumber : ¬s.NumberInUse) :
    (s.draw t .ofCommand (s.thread t).session).Sound calm :=
  ⟨h.registry.drawCommand hnumber ht,
    h.handover.draw h.registry hnumber (fun _ _ _ => by rw [ht]; exact HostTask.noConfusion)
      (.inl rfl)⟩

theorem entering {q : Nat} {role : SessionRole} (ht : (s.thread t).task = .entering q role)
    (hhandle : ¬s.BadHandle q)
    (hcalm : calm = true → ∀ n, s.rrmap.find? q = some n → s.receiver.handles ≠ some n) :
    (s.sessionEnter t q role).Sound calm := by
  have hout : (s.thread t).session = none := by
    have hshape := h.registry.shaped t
    rw [Shaped, ht] at hshape
    exact hshape.1
  have hidle : ∀ k rr st, (s.thread t).task ≠ .sending k rr st := fun k rr st hk => by
    rw [ht] at hk
    cases hk
  have hgone : (s.goto t .idle).Sound calm := by
    refine h.walk hout hidle (fun _ _ _ => HostTask.noConfusion) fun n role hn => ?_
    cases hout.symm.trans hn
  unfold sessionEnter
  split
  · exact hgone
  · rename_i n hfound
    have hissued : s.issued n = true :=
      Bool.not_eq_false _ ▸ fun hk => hhandle ⟨n, hfound, hk⟩
    obtain ⟨-, hsession⟩ := h.registry.issued n hissued
    have hlive : s.Live n := (h.registry.stored q n hfound).resolve_right fun hdead => by
      cases hsession.symm.trans hdead.1
    dsimp only
    by_cases hopen : ((s.record n).isSession && !(s.record n).killed &&
      (s.record n).count < maxSessionLimit) = true
    · rw [if_pos hopen]
      refine ⟨h.registry.enter ht hlive hsession hissued, ?_⟩
      refine h.handover.moveEdit _ (fun r => { r with count := r.count + 1 }) s.issued (fun _ =>
        rfl) (fun _ => rfl)
        (fun _ => rfl) (fun _ => rfl) (fun k rr st hk => absurd hk (hidle k rr st))
        (fun k rr st hk => ?_)
        (fun _ _ _ => .inl (Nat.succ_ne_zero _)) fun hhandled htracked => ?_
      · split_ifs at hk
      · obtain hcalm' | hcommand := htracked
        · exact absurd hhandled (hcalm hcalm' n hfound)
        · cases hsession.symm.trans hcommand
    · rw [if_neg hopen]
      exact hgone

theorem locking {role : SessionRole} (ht : s.thread t = ⟨some (n, role), .locking⟩)
    (hfree : (s.record n).sessionLock = none) :
    ((s.edit n fun r => { r with sessionLock := some t }).goto t .checking).Sound calm := by
  refine ⟨h.registry.lock ht hfree, ?_⟩
  exact h.handover.moveEdit _ (fun r => { r with sessionLock := some t }) s.issued (fun _ => rfl)
    (fun _ => rfl)
    (fun _ => rfl) (fun _ => rfl) (fun k rr st hk => by rw [ht] at hk; cases hk)
    (fun k rr st hk => by cases hk)
    (h.handover.killed n) fun _ _ hcount => hcount

omit [DecidableEq τ] in
theorem nobody_sends {role : SessionRole} (ht : (s.thread t).session = some (n, role))
    (hright : role.opens = true ∨ (s.record n).sessionLock = some t)
    (htask : ∀ rr st, (s.thread t).task ≠ .sending n rr st) :
    ∀ u rr st, (s.thread u).task ≠ .sending n rr st := by
  intro u rr st hu
  have hsession := (h.registry.inside t n role ht).2
  obtain ⟨role', hin, hright'⟩ := h.registry.sender_inside hu hsession
  have heq : u = t := by
    obtain hopens | hlock := hright
    · exact (h.registry.one t u n role role' ht hopens hin).symm
    · obtain hopens | hlock' := hright'
      · exact h.registry.one u t n role' role hin hopens ht
      · exact Option.some.inj (hlock'.symm.trans hlock)
  exact htask rr st (heq ▸ hu)

omit [DecidableEq τ] in
theorem at_find {role : SessionRole} (ht : (s.thread t).session = some (n, role))
    (hnobody : ∀ u rr st, (s.thread u).task ≠ .sending n rr st) :
    (s.view n).At (s.Tracked calm n) .find := by
  obtain ⟨hlive, hsession⟩ := h.registry.inside t n role ht
  have hcount := (h.registry.counted n hlive hsession).pos ⟨role, ht⟩
  have hawake : ¬s.Sleeper n := fun ⟨u, rr, st, hu, _⟩ => hnobody u rr st hu
  refine ⟨fun hup => ?_, fun htracked => ⟨?_, fun hhandled => ?_⟩⟩
  · exact (h.handover.mapped n hup hlive hsession).resolve_right fun ⟨u, rr, hu⟩ =>
      hnobody u rr _ hu
  · exact Bool.eq_false_iff.2 fun hk => hawake (h.handover.asked n hk htracked)
  · obtain hsleeper | hidle := (h.handover.held n hhandled htracked).2.1
    · exact hawake hsleeper
    · exact hcount.ne' hidle.2.1

theorem beginFind {role : SessionRole} (ht : (s.thread t).session = some (n, role))
    (hright : role.opens = true ∨ (s.record n).sessionLock = some t)
    (htask : ∀ k rr st, (s.thread t).task ≠ .sending k rr st)
    (hlocking : (s.thread t).task ≠ .locking)
    (hrole : role ≠ .forcing) : (s.goto t (.sending n n .find)).Sound calm := by
  have hnobody := h.nobody_sends ht hright (htask n)
  have hat := h.at_find ht hnobody
  obtain ⟨hlive, hsession⟩ := h.registry.inside t n role ht
  refine ⟨h.registry.goto ?_ ?_ fun _ _ _ _ => ⟨hlocking, HostTask.noConfusion⟩, ?_⟩
  · rw [Shaped, ht]
    exact ⟨rfl, hlive, .inl ⟨rfl, hrole⟩⟩
  · intro k rr st hk u rr' st' hu
    cases hk
    exact absurd hu (hnobody u rr' st')
  · refine h.handover.move _ rfl rfl rfl rfl rfl rfl (fun _ => rfl) (fun _ => id)
      (fun k rr st hk => absurd hk (htask k rr st)) (fun k rr st hk => ?_) h.handover.killed
      (fun k hk htracked => ⟨(h.handover.held k hk htracked).1, id⟩)
        fun q k hk => (h.handover.resting q k hk).2
    cases hk
    exact ⟨rfl, hat⟩

theorem checking {role : SessionRole} (ht : s.thread t = ⟨some (n, role), .checking⟩) :
    (s.goto t (if (s.record n).killed then .leaving false else .sending n n .find)).Sound calm := by
  have hin : (s.thread t).session = some (n, role) := by rw [ht]
  have htask : ∀ k rr st, (s.thread t).task ≠ .sending k rr st := fun k rr st hk => by
    rw [ht] at hk
    cases hk
  have hlocking : (s.thread t).task ≠ .locking := fun hk => by
    rw [ht] at hk
    cases hk
  have hlocks : role.locks = true := by
    have hshape := h.registry.shaped t
    rwa [ht] at hshape
  split_ifs with hkilled
  · refine h.walk ?_ htask (fun _ _ _ => HostTask.noConfusion) fun _ _ _ _ =>
      ⟨hlocking, HostTask.noConfusion⟩
    rw [Shaped, hin]
    trivial
  · refine h.beginFind hin (.inr ?_) htask hlocking (by rintro rfl; cases hlocks)
    exact (h.registry.locked n t).2 ⟨role, hin, hlocks, hlocking⟩

theorem commandOver {rr : Nat} {ret : BhRet}
    (ht : (s.thread t).task = .sending m rr (.returned ret))
    (hcommand : (s.record m).isSession = false) {task : HostTask}
    (htask : (s.thread t).session = none ∧ task = .idle ∨
      ∃ n role, (s.thread t).session = some (n, role) ∧
        (task = .leaving true ∨ role.opens = true ∧ task = .sending n n .find)) :
    ((s.edit m fun r => { r with freed := true }).goto t task).Sound calm := by
  obtain ⟨hquiet, hgone⟩ := (h.handover.stages t m rr _ ht).strict (.inr hcommand)
  refine ⟨h.registry.returned ht hcommand (fun hfound => (hgone hcommand hfound).1) htask, ?_⟩
  have hnew : ∀ k rr st, task = .sending k rr st → k ≠ m ∧ st = .find ∧
    (s.view k).At (s.Tracked calm k) .find := by
    intro k rr' st hk
    obtain ⟨-, rfl⟩ | ⟨n, role, hin, rfl | ⟨hopens, rfl⟩⟩ := htask
    · cases hk
    · cases hk
    · cases hk
      have hkm : k ≠ m := by
        rintro rfl
        cases hcommand.symm.trans (h.registry.inside t k role hin).2
      refine ⟨hkm, rfl, h.at_find hin (h.nobody_sends hin (.inl hopens) fun rr'' st hk => ?_)⟩
      rw [ht] at hk
      cases hk
      exact hkm rfl
  have hgoto : (s.goto t task).Handover calm := by
    refine h.handover.move _ rfl rfl rfl rfl rfl rfl (fun _ => rfl) (fun _ => id)
      (fun k rr' st hk => ?_)
      (fun k rr' st hk => (hnew k rr' st hk).2) h.handover.killed
      (fun k hk htracked => ⟨(h.handover.held k hk htracked).1, id⟩)
        fun q k hk => (h.handover.resting q k hk).2
    rw [ht] at hk
    cases hk
    exact ⟨ret, rfl⟩
  refine hgoto.free (n := m) (r := { s.record m with freed := true }) rfl id rfl
    (fun u rr' st hu => ?_)
    (fun _ => hquiet.2) fun q hq => ?_
  · by_cases hut : u = t
    · rw [hut, goto, thread_setThread_self] at hu
      exact (hnew m rr' st hu).1 rfl
    · rw [goto, thread_setThread_of_ne _ _ hut] at hu
      exact h.registry.sole ht hu hut rfl
  · -- the last pass is done with a command that has been answered
    have hfound := (h.handover.resting q m hq).1
    have hkey := h.registry.keyed q m hfound
    rw [← hkey] at hfound hq
    exact (hgone hcommand hfound).2 hq

theorem callOver {rr : Nat} {ret : BhRet} (ht : (s.thread t).task = .sending m rr (.returned ret))
    (th : HostThread)
    (hth : ∀ k rr st, th.task ≠ .sending k rr st) (hregistry : (s.setThread t th).Registry)
    (buffer : Option Bytes) :
    ((s.edit m fun r => { r with buffer := buffer }).setThread t th).Sound calm := by
  have hedit := hregistry.edit (n := m) (f := fun r => { r with buffer := buffer }) (fun _ => rfl)
    (fun _ => rfl)
    (fun _ => rfl) fun _ => rfl
  refine ⟨hedit, ?_⟩
  refine h.handover.moveEdit th (fun r => { r with buffer := buffer }) s.issued (fun _ => rfl)
    (fun _ => rfl)
    (fun _ => rfl) (fun _ => rfl) (fun k rr' st hk => ?_)
    (fun k rr st hk => absurd hk (hth k rr st))
    (h.handover.killed m) fun _ _ hcount => hcount
  rw [ht] at hk
  cases hk
  exact ⟨ret, rfl⟩

theorem returned {rr : Nat} {ret : BhRet} (ht : (s.thread t).task = .sending m rr (.returned ret)) :
    (s.sendReturned t m ret).Sound calm := by
  have hshape := h.registry.shaped t
  rw [Shaped, ht] at hshape
  -- the function goes on to leave the session
  have hleaves : ∀ closes buffer, (∃ p, (s.thread t).session = some p) →
      ((s.edit m fun r => { r with buffer := buffer }).goto t (.leaving closes)).Sound calm := by
    intro closes buffer hinside
    obtain ⟨p, hin⟩ := hinside
    refine h.callOver ht _ (fun _ _ _ => HostTask.noConfusion)
      (h.registry.goto ?_ (fun _ _ _ hk => by cases hk) ?_) buffer
    · rw [Shaped, hin]
      trivial
    · exact fun _ _ _ _ => ⟨by rw [ht]; exact HostTask.noConfusion, HostTask.noConfusion⟩
  unfold sendReturned
  dsimp only
  cases hin : (s.thread t).session with
  | none =>
    rw [hin] at hshape
    exact h.commandOver ht hshape.2.2 (.inl ⟨hin, rfl⟩)
  | some p =>
    obtain ⟨n, role⟩ := p
    rw [hin] at hshape
    cases role with
    | opening retry =>
      dsimp only
      by_cases hne : n ≠ m
      · rw [if_pos hne]
        refine h.commandOver ht (hshape.2.2.resolve_left fun heq => hne heq.1).1
          (.inr ⟨n, _, hin, ?_⟩)
        split_ifs
        all_goals first | exact .inr ⟨rfl, rfl⟩ | exact .inl rfl
      · rw [if_neg hne]
        split_ifs
        all_goals first
          | exact h.callOver ht _ (fun _ _ _ => HostTask.noConfusion) (h.registry.retry hin) none
          | exact hleaves _ none ⟨_, hin⟩
    | exchanging => exact hleaves _ none ⟨_, hin⟩
    | closing sd =>
      have hsame := hleaves (sd || (if (s.record m).killed = true ∧
        (s.record m).code ≠ bheWdTimeout then
        bheUncaughtException else if ret = bhSuccess then (s.record m).code else ret) ≠
          bheIacExistInternalSession)
        (s.record m).buffer ⟨_, hin⟩
      rwa [ConnectionItem.edit, Function.update_eq_self] at hsame
    | forcing =>
      exact h.commandOver ht (hshape.2.2.resolve_left fun heq => heq.2 rfl).1
        (.inr ⟨n, _, hin, .inl rfl⟩)

theorem registering {rr : Nat} (ht : (s.thread t).task = .sending m rr .register)
    (hholds : s.receiver.holdsMap = false) :
    ((s.setMap ((s.rrmap.erase (seqOf m)).insert (seqOf m) m)).goto t
      (.sending m m .find)).Sound calm :=
  ⟨(h.registry.registerMap (h.registry.sent ht).2).stage ht .find,
    h.handover.register h.registry hholds ht⟩

theorem givesUp {ret : BhRet} (ht : (s.thread t).task = .sending m m (.giveUp ret))
    (hholds : s.receiver.holdsMap = false) :
    ((s.rrmapRemove (seqOf m)).goto t (.sending m m (.unlockFailed ret))).Sound calm := by
  have hat := h.handover.stages t m m _ ht
  have hrest := RecvThread.rest_of_not_holdsMap hholds
  have htask : ((s.rrmapRemove (seqOf m)).thread t).task = .sending m m (.giveUp ret) := by
    unfold rrmapRemove
    split
    · split_ifs <;> exact ht
    · exact ht
  refine ⟨(h.registry.rrmapRemove (seqOf m)).stage htask (.unlockFailed ret), ?_⟩
  -- the record is not looked for any more
  have hstays : ((s.record m).isSession = false → s.rrmap.find? (seqOf m) ≠ some m) →
      (s.goto t (.sending m m (.unlockFailed ret))).Handover calm := by
    intro hgone
    exact h.handover.advance h.registry ht (fun hk => by cases hk) rfl rfl rfl rfl rfl
      (fun _ _ => rfl) rfl rfl rfl
      ⟨trivial, fun htracked => ⟨hat.strict htracked, fun hcommand hmapped => absurd hmapped
        (hgone hcommand)⟩⟩
      (.inl ⟨rfl, rfl⟩)
  unfold rrmapRemove
  split
  · rename_i n hfound
    obtain rfl := h.handover.mine h.registry ht SendStage.noConfusion hfound
    split_ifs with hsession
    · exact hstays fun hcommand => by cases hcommand.symm.trans hsession
    · have herased : (s.setMap (s.rrmap.erase (seqOf n))).Handover calm := by
        refine h.handover.eraseMap (fun k hk => ?_) (RecvThread.not_erasing hholds) fun k hk => ?_
        · rw [hrest] at hk
          cases hk
        · obtain rfl := Option.some.inj (hfound.symm.trans hk)
          refine ⟨fun hk => absurd hk hsession, fun u rr st hu => ?_⟩
          obtain rfl := h.registry.alone u t n _ _ _ _ hu ht
          rw [ht] at hu
          cases hu
          exact ⟨trivial, hat.strict⟩
      refine herased.advance (h.registry.eraseMap _) ht (fun hk => by cases hk) rfl rfl rfl rfl rfl
        (fun _ _ => rfl)
        rfl rfl rfl ⟨trivial, fun htracked => ⟨hat.strict htracked, fun _ hmapped => ?_⟩⟩
          (.inl ⟨rfl, rfl⟩)
      simp only [view, goto, setThread, setMap, OrdMap.find?_erase, reduceCtorEq,
        if_true] at hmapped
  · rename_i hnone
    exact hstays fun _ hmapped => by cases hnone.symm.trans hmapped

theorem leaving {role : SessionRole} {closes : Bool}
    (ht : s.thread t = ⟨some (n, role), .leaving closes⟩)
    (hholds : s.receiver.holdsMap = false) : (s.sessionLeave t n role closes).Sound calm := by
  have hin : (s.thread t).session = some (n, role) := by rw [ht]
  obtain ⟨hlive, hsession⟩ := h.registry.inside t n role hin
  have hrest := RecvThread.rest_of_not_holdsMap hholds
  have hends : ∀ k rr st, (s.thread t).task ≠ .sending k rr st := fun k rr st hk => by
    rw [ht] at hk
    cases hk
  have hregistry := h.registry.leave ht ((s.record n).killed || closes)
  unfold sessionLeave
  dsimp only at hregistry ⊢
  by_cases hgoes : (s.record n).count - 1 = 0 ∧ ((s.record n).killed || closes) = true
  · rw [if_pos hgoes]
    -- nobody else is inside
    have halone : ∀ u, s.Inside n u → u = t := fun u hu =>
      (h.registry.counted n hlive hsession).eq_of_le_one (Nat.le_of_sub_eq_zero hgoes.1) hu
        ⟨role, hin⟩
    have hnobody : ∀ u, ¬(s.setThread t ⟨none, .idle⟩).Inside n u := by
      rintro u ⟨role', hu⟩
      by_cases hut : u = t
      · rw [hut, thread_setThread_self] at hu
        cases hu
      · rw [thread_setThread_of_ne _ _ hut] at hu
        exact hut (halone u ⟨role', hu⟩)
    have hsender : ∀ u rr st, (s.thread u).task ≠ .sending n rr st := by
      intro u rr st hu
      obtain ⟨role', hu', -⟩ := h.registry.sender_inside hu hsession
      obtain rfl := halone u ⟨role', hu'⟩
      exact hends n rr st hu
    refine ⟨hregistry.destroy ?_ hnobody, ?_⟩
    · rw [setThread, record_edit_self]
      exact hsession
    have hout : ({ s.setThread t ⟨none, .idle⟩ with
        issued := if role.opens && !closes then Function.update s.issued n true else s.issued } :
          ConnectionItem τ).Handover calm :=
      h.handover.move _ rfl rfl rfl rfl rfl rfl (fun _ => rfl) (fun _ => id)
        (fun k rr st hk => absurd hk (hends k rr st))
        (fun k rr st hk => by cases hk) h.handover.killed
        (fun k hk htracked => ⟨(h.handover.held k hk htracked).1, id⟩)
          fun q k hk => (h.handover.resting q k hk).2
    have hbefore : ∀ u k rr st, ((s.setThread t ⟨none, .idle⟩).thread u).task = .sending k rr st →
        (s.thread u).task = .sending k rr st := by
      intro u k rr st hu
      by_cases hut : u = t
      · rw [hut, thread_setThread_self] at hu
        cases hu
      · rwa [thread_setThread_of_ne _ _ hut] at hu
    have hnorest : ∀ q k, (q, k) ∉ s.receiver.rest := fun q k hk => by
      rw [hrest] at hk
      cases hk
    have hfreed := hout.free (n := n) (r := { s.record n with
        count := (s.record n).count - 1
        killed := (s.record n).killed || closes
        freed := true
        sessionLock := none }) rfl id rfl (fun u rr st hu => hsender u rr st (hbefore u n rr st hu))
          (fun htracked hhandled => ?_) fun q => hnorest q n
    · have hburied := hfreed.bury h.registry rfl (n := n) ?_ (fun k hk => ?_) hbefore hsender
        (fun k hk => h.registry.distinct k n hk hlive) (hnorest _) (RecvThread.not_erasing hholds)
      · simp only [ConnectionItem.destroy, ConnectionItem.edit, setThread, Function.update_self,
          Function.update_idem]
        exact hburied
      · simp only [Live, Function.update_self]
        exact Bool.noConfusion
      · by_cases heq : k = n
        · exact heq ▸ hlive
        · exact (congrArg ResponseRecord.freed (Function.update_of_ne heq _ s.record)).symm.trans hk
    · -- whom the receiver is at is not alone with this thread
      obtain ⟨u, rr, st, hu, -⟩ | hidle := (h.handover.held n hhandled htracked).2.1
      · exact hsender u rr st hu
      · exact ((h.registry.counted n hlive hsession).pos ⟨role, hin⟩).ne' hidle.2.1
  · rw [if_neg hgoes]
    refine ⟨hregistry, ?_⟩
    refine h.handover.moveEdit _ (fun r => { r with
        count := (s.record n).count - 1
        killed := (s.record n).killed || closes
        sessionLock := if role.locks then none else r.sessionLock }) _ (fun _ => rfl) (fun _ => rfl)
          (fun _ => rfl)
      (fun _ => rfl) (fun k rr st hk => absurd hk (hends k rr st)) (fun k rr st hk => by cases hk)
      (fun _ _ hdead => .inl fun hzero => hgoes ⟨hzero, hdead⟩) fun _ _ hcount => ?_
    dsimp only
    rw [hcount]

theorem sending {c : SendChoice} {stage : SendStage} (ht : (s.thread t).task = .sending m m stage)
    (hmap : stage.inMap = true → s.receiver.holdsMap = false) :
    (s.sendStep t m m c stage).Sound calm := by
  have hr := h.registry
  have hh := h.handover
  have hpost : ∀ p, (s.post p).Registry := fun p =>
    hr.congr rfl rfl rfl rfl id (fun _ => id) (fun _ => rfl) (fun _ => rfl) (fun _ => rfl)
      fun _ => rfl
  have hlock : ∀ holder, (s.setSendLock holder).Registry := fun holder =>
    hr.congr rfl rfl rfl rfl id (fun _ => id) (fun _ => rfl) (fun _ => rfl) (fun _ => rfl)
      fun _ => rfl
  cases stage with
  | register => exact h.registering ht (hmap rfl)
  | giveUp ret => exact h.givesUp ht (hmap rfl)
  | returned ret => exact h.returned ht
  | find =>
    refine ⟨?_, hh.find hr ht⟩
    simp only [sendStep]
    split
    · rename_i found hfound
      obtain rfl := hh.mine hr ht SendStage.noConfusion hfound
      exact hr.stage ht _
    · exact hr.stage ht _
  | lockSend =>
    refine ⟨?_, hh.lockSend hr ht⟩
    simp only [sendStep]
    split_ifs
    · exact (hlock (some t)).stage ht _
    · exact hr
  | arm =>
    refine ⟨?_, hh.arm hr ht⟩
    simp only [sendStep]
    split_ifs
    all_goals refine Registry.stage (hr.edit ?_ ?_ ?_ ?_) ht _ <;> exact fun _ => rfl
  | sendCmd =>
    refine ⟨?_, hh.sendCmd hr ht⟩
    simp only [sendStep]
    split_ifs
    · exact (hpost (.command m true)).stage ht _
    · refine Registry.stage ((hpost (.command m false)).edit ?_ ?_ ?_ ?_) ht _ <;> exact
        fun _ => rfl
    · exact hr.stage ht _
  | sendData =>
    refine ⟨?_, hh.sendData hr ht⟩
    simp only [sendStep]
    split_ifs
    · refine Registry.stage ((hpost (.data m)).edit ?_ ?_ ?_ ?_) ht _ <;> exact fun _ => rfl
    · exact (hpost (.torn m)).stage ht _
  | failed =>
    refine ⟨?_, hh.failed hr ht⟩
    refine Registry.stage (hr.edit ?_ ?_ ?_ ?_) ht _ <;> exact fun _ => rfl
  | unlockFailed ret => exact ⟨(hlock none).stage ht _, hh.unlockFailed hr ht⟩
  | unlock => exact ⟨(hlock none).stage ht _, hh.unlock hr ht⟩
  | wait =>
    refine ⟨?_, hh.wait hr ht⟩
    simp only [sendStep]
    split_ifs
    · exact hr
    · exact hr.stage ht _
  | closeEvent =>
    refine ⟨?_, hh.closeEvent hr ht⟩
    refine Registry.stage (hr.edit ?_ ?_ ?_ ?_) ht _ <;> exact fun _ => rfl
  | disarm =>
    refine ⟨?_, hh.disarm hr ht⟩
    refine Registry.stage (hr.edit ?_ ?_ ?_ ?_) ht _ <;> exact fun _ => rfl

theorem hostStep {c : SendChoice} (hdisorder : ¬s.Disorder (.host t c))
    (hcalm : calm = true → ¬s.Disturbs (.host t c)) : (s.hostStep t c).Sound calm := by
  unfold ConnectionItem.hostStep
  cases htask : (s.thread t).task with
  | idle => exact h
  | drawing =>
    rw [Disorder, htask] at hdisorder
    exact h.drawing htask hdisorder
  | entering q role =>
    rw [Disorder, htask] at hdisorder
    dsimp only
    split_ifs
    · exact h
    · refine h.entering htask hdisorder fun hcalm' n hfound hhandled => hcalm hcalm' ?_
      rw [Disturbs, htask]
      exact ⟨n, hfound, hhandled⟩
  | locking =>
    cases hin : (s.thread t).session with
    | none => exact h
    | some p =>
      obtain ⟨n, role⟩ := p
      have ht : s.thread t = ⟨some (n, role), .locking⟩ := by rw [← htask, ← hin]
      dsimp only
      split_ifs with hfree
      · exact h.locking ht hfree
      · exact h
  | checking =>
    cases hin : (s.thread t).session with
    | none => exact h
    | some p =>
      obtain ⟨n, role⟩ := p
      have ht : s.thread t = ⟨some (n, role), .checking⟩ := by rw [← htask, ← hin]
      exact h.checking ht
  | sending m rr stage =>
    obtain ⟨rfl, -⟩ := h.registry.sent htask
    dsimp only
    split_ifs with hmap
    · exact h
    · refine h.sending htask fun hin => ?_
      rw [hin, Bool.true_and] at hmap
      exact Bool.eq_false_iff.2 hmap
  | leaving closes =>
    cases hin : (s.thread t).session with
    | none => exact h
    | some p =>
      dsimp only
      split_ifs with hholds
      · exact h
      · exact h.leaving (by rw [← htask, ← hin]) (Bool.eq_false_iff.2 hholds)

end Sound

end ConnectionItem

end DalHost

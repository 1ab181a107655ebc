import DalHost.Bhp.Receiver

/-!
# The end of a connection

The handle goes first, so that nothing more is sent; then the receiver goes over the map, gives
every sender that it finds an error for an answer, and empties the map. A sender that it does not
find has had its answer before.
-/

namespace DalHost

namespace RecordView

variable {v : RecordView} {st : SendStage}

theorem Safe.shut (h : v.Safe st) : Safe { v with handle := false } st := by
  cases st with
  | find | lockSend | arm => exact fun hk => by cases hk
  | sendCmd | sendData => exact ⟨fun hk => (by cases hk), h.2⟩
  | _ => exact h

theorem Strict.shut (h : v.Strict st) : Strict { v with handle := false } st := by
  cases st with
  | sendCmd | sendData => exact ⟨h.1, fun hk => by cases hk⟩
  | unlock | wait =>
    cases h with
    | owed hasked hevent hmapped hhandled hrest => exact .owed hasked hevent hmapped hhandled hrest
    | handled hhandled hevent hdone => exact .handled hhandled hevent hdone
    | signalled hevent hquiet hgone => exact .signalled hevent hquiet hgone
  | _ => exact h

theorem At.shut {tracked : Prop} (h : v.At tracked st) : At { v with handle := false } tracked st :=
  ⟨h.safe.shut, fun htracked => (h.strict htracked).shut⟩

theorem Safe.sweep
    (h : v.Safe st) : Safe { v with sweeps := true, swept := true, resting := v.mapped } st := by
  cases st with
  | unlock | wait =>
    obtain ⟨e, hevent, hopen, htriggered | hwakes | ⟨hout, hmapped, -⟩⟩ := h
    · exact ⟨e, hevent, hopen, .inl htriggered⟩
    · exact ⟨e, hevent, hopen, .inr (.inl hwakes)⟩
    · exact ⟨e, hevent, hopen, .inr (.inr ⟨hout, hmapped, fun _ => hmapped⟩)⟩
  | _ => exact h

theorem Strict.sweep (h : v.Strict st) (hsweeps : v.sweeps = false) :
    Strict { v with sweeps := true, swept := true, resting := v.mapped } st := by
  have hgone : v.Gone → Gone { v with sweeps := true, swept := true, resting := v.mapped } := by
    intro hk hcommand hmapped
    cases hsweeps.symm.trans (hk hcommand hmapped).1
  cases st with
  | closeEvent | disarm | unlockFailed _ | returned _ => exact ⟨h.1, hgone h.2⟩
  | unlock | wait =>
    cases h with
    | owed hasked hevent hmapped hhandled _ =>
      exact .owed hasked hevent hmapped hhandled fun _ => hmapped
    | handled hhandled hevent hdone => exact .handled hhandled hevent hdone
    | signalled hevent hquiet hk => exact .signalled hevent hquiet (hgone hk)
  | _ => exact h

theorem At.sweep {tracked : Prop} (h : v.At tracked st) (hsweeps : v.sweeps = false) :
    At { v with sweeps := true, swept := true, resting := v.mapped } tracked st :=
  ⟨h.safe.sweep, fun htracked => (h.strict htracked).sweep hsweeps⟩

theorem At.visit {tracked : Prop} (h : v.At tracked st) (hhandle : v.handle = false)
    (hsweeps : v.sweeps = true)
    (hhandled : ¬v.handled) :
    At { v with
      event := v.event.map fun e => { e with triggered := true }
      outstanding := false
      resting := False } tracked st := by
  refine ⟨h.safe.signal false v.handled v.wakes False, fun htracked => ?_⟩
  have hk := h.strict htracked
  have hgone : Gone { v with
      event := v.event.map fun e => { e with triggered := true }
      outstanding := false
      resting := False } :=
    fun _ _ => ⟨hsweeps, id⟩
  cases st with
  | register | find | lockSend | arm | failed | giveUp _ => exact ⟨rfl, hhandled⟩
  | sendCmd | sendData => exact ⟨⟨rfl, hhandled⟩, fun hup => by cases hhandle.symm.trans hup⟩
  | closeEvent | disarm | unlockFailed _ | returned _ => exact ⟨⟨rfl, hhandled⟩, hgone⟩
  | unlock | wait =>
    refine Awaited.signalled ?_ ⟨rfl, hhandled⟩ hgone
    cases hk with
    | owed _ hevent | handled _ hevent | signalled hevent =>
      rw [hevent]
      rfl

theorem At.forget {tracked : Prop} (h : v.At tracked st) (hhandle : v.handle = false)
    (hswept : v.swept = true)
    (hrest : ¬v.resting) (mapped : Prop) (sweeps : Bool)
    (hmapped : mapped → v.mapped ∧ sweeps = v.sweeps) :
    At { v with sweeps := sweeps, mapped := mapped } tracked st := by
  have hpresent : Present { v with sweeps := sweeps, mapped := mapped } := fun hk => by
    cases hhandle.symm.trans hk
  have hgone : v.Gone → Gone { v with sweeps := sweeps, mapped := mapped } := by
    intro hk hcommand hm
    obtain ⟨hbefore, rfl⟩ := hmapped hm
    exact hk hcommand hbefore
  have hsafe := h.safe
  refine ⟨?_, fun htracked => ?_⟩
  · cases st with
    | find | lockSend | arm => exact hpresent
    | sendCmd | sendData => exact ⟨hpresent, hsafe.2⟩
    | unlock | wait =>
      obtain ⟨e, hevent, hopen, htriggered | hwakes | ⟨-, -, hresting⟩⟩ := hsafe
      · exact ⟨e, hevent, hopen, .inl htriggered⟩
      · exact ⟨e, hevent, hopen, .inr (.inl hwakes)⟩
      · exact absurd (hresting hswept) hrest
    | _ => exact hsafe
  · have hk := h.strict htracked
    cases st with
    | closeEvent | disarm | unlockFailed _ | returned _ => exact ⟨hk.1, hgone hk.2⟩
    | unlock | wait =>
      cases hk with
      | owed _ _ _ _ hresting => exact absurd (hresting hswept) hrest
      | handled hhandled hevent hdone => exact .handled hhandled hevent hdone
      | signalled hevent hquiet hk => exact .signalled hevent hquiet (hgone hk)
    | _ => exact hk

end RecordView

namespace ConnectionItem

namespace Sound

variable {τ : Type} {calm : Bool} {s : ConnectionItem τ} {n : Nat} (h : s.Sound calm)
include h

theorem shut (hreceiver : s.receiver = .closing) :
    ({ s with handle := false, receiver := .closed } : ConnectionItem τ).Sound calm := by
  have hh := h.handover
  refine ⟨?_, ?_⟩
  · refine h.registry.congr rfl rfl rfl rfl (fun hk => ?_) (fun n hk => by cases hk) (fun _ => rfl)
      (fun _ => rfl)
      (fun _ => rfl) fun _ => rfl
    cases (congrArg RecvThread.sweeps hreceiver).symm.trans hk
  have hview : ∀ k, ({ s with handle := false, receiver := .closed } : ConnectionItem τ).view k =
      { s.view k with handle := false } := by
    intro k
    rw [view, view, hreceiver]
    rfl
  constructor
  case up => rfl
  case stages => exact fun u k rr st hu => hview k ▸ (hh.stages u k rr st hu).shut
  case own => exact hh.own
  case mapped => exact fun k hk => by cases hk
  case asked => exact hh.asked
  case held => exact fun k hk => by cases hk
  case resting => exact fun q k hk => by cases hk
  case nodup => exact List.nodup_nil
  case erasing => exact fun q k rest hk => by cases hk
  case dooms => exact fun k hk => by cases hk
  case killing => exact fun k ok hk => by cases hk
  case killed =>
    intro k hk hses hdead
    refine (hh.killed k hk hses hdead).imp id (Or.imp id fun hdoomed => ?_)
    cases (congrArg RecvThread.dooms hreceiver).symm.trans hdoomed
  case sendLock => exact hh.sendLock
  case late =>
    exact fun hcalm hlate =>
      by cases (congrArg RecvThread.swept hreceiver).symm.trans (hh.late hcalm hlate)

theorem sweep (hreceiver : s.receiver = .closed) :
    (s.setReceiver (.sweeping s.rrmap.entries)).Sound calm := by
  have hh := h.handover
  have hsweeps : s.receiver.sweeps = false := by
    rw [hreceiver]
    rfl
  refine ⟨h.registry.setReceiver (fun hk => by cases hsweeps.symm.trans hk)
    (fun n hk => by cases hk), ?_⟩
  have hview : ∀ k, (s.setReceiver (.sweeping s.rrmap.entries)).view k =
      { s.view k with sweeps := true, swept := true, resting := (s.view k).mapped } := by
    intro k
    refine RecordView.ext rfl rfl rfl rfl rfl ?_ ?_ rfl rfl (propext OrdMap.mem_entries_iff)
    · exact (congrArg (fun r => RecvThread.handles r = some k) hreceiver).symm
    · exact (congrArg (fun r => RecvThread.wakes r = some k) hreceiver).symm
  have hlive : ∀ q k, s.rrmap.find? q = some k → s.Live k := by
    intro q k hk
    refine (h.registry.stored q k hk).resolve_right fun hdead => ?_
    cases hsweeps.symm.trans hdead.2
  constructor
  case up =>
    rw [setReceiver, hh.up, hreceiver]
    rfl
  case stages => exact fun u k rr st hu => hview k ▸ (hh.stages u k rr st hu).sweep hsweeps
  case own => exact hh.own
  case mapped => exact hh.mapped
  case asked => exact hh.asked
  case held => exact fun k hk => by cases hk
  case resting =>
    exact fun q k hk => ⟨OrdMap.mem_entries_iff.1 hk, hlive q k (OrdMap.mem_entries_iff.1 hk)⟩
  case nodup => exact s.rrmap.nodup_keys
  case erasing => exact fun q k rest hk => by cases hk
  case dooms => exact fun k hk => by cases hk
  case killing => exact fun k ok hk => by cases hk
  case killed =>
    intro k hk hses hdead
    refine (hh.killed k hk hses hdead).imp id (Or.imp id fun hdoomed => ?_)
    cases (congrArg RecvThread.dooms hreceiver).symm.trans hdoomed
  case sendLock => exact hh.sendLock
  case late => exact fun _ _ => rfl

theorem clear (hreceiver : s.receiver = .clearing) :
    ((s.setMap OrdMap.empty).setReceiver .ended).Sound calm := by
  have hh := h.handover
  have hhandle : s.handle = false := by
    rw [hh.up, hreceiver]
    rfl
  refine ⟨h.registry.emptyMap .ended rfl, ?_⟩
  have hview : ∀ k, ((s.setMap OrdMap.empty).setReceiver .ended).view k =
      { s.view k with sweeps := false, mapped := False } := by
    intro k
    refine RecordView.ext rfl rfl rfl (eq_false fun hk => by cases hk) rfl ?_ ?_ rfl ?_ ?_
    · exact (congrArg (fun r => RecvThread.handles r = some k) hreceiver).symm
    · exact (congrArg (fun r => RecvThread.wakes r = some k) hreceiver).symm
    · exact (congrArg RecvThread.swept hreceiver).symm
    · exact (congrArg (fun r => (seqOf k, k) ∈ RecvThread.rest r) hreceiver).symm
  constructor
  case up => exact hhandle
  case stages =>
    intro u k rr st hu
    rw [hview k]
    refine (hh.stages u k rr st hu).forget hhandle (congrArg RecvThread.swept hreceiver)
      (fun hk => ?_) False false
      False.elim
    cases (congrArg (fun r => (seqOf k, k) ∈ RecvThread.rest r) hreceiver).mp hk
  case own => exact fun m k _ hk => by cases hk
  case mapped => exact fun k hk => by cases hhandle.symm.trans hk
  case asked => exact hh.asked
  case held => exact fun k hk => by cases hk
  case resting => exact fun q k hk => by cases hk
  case nodup => exact List.nodup_nil
  case erasing => exact fun q k rest hk => by cases hk
  case dooms => exact fun k hk => by cases hk
  case killing => exact fun k ok hk => by cases hk
  case killed =>
    intro k hk hses hdead
    refine (hh.killed k hk hses hdead).imp id (Or.imp id fun hdoomed => ?_)
    cases (congrArg RecvThread.dooms hreceiver).symm.trans hdoomed
  case sendLock => exact hh.sendLock
  case late => exact fun _ _ => rfl

theorem visit {s' : ConnectionItem τ} {q : Nat} {rest : List (Nat × Nat)}
    (hreceiver : s.receiver = .sweeping ((q, n) :: rest))
    (hnext : s'.receiver = .sweeping rest ∨ s'.receiver = .erasing q n rest)
    (hthread : s'.thread = s.thread)
    (hsendLock : s'.sendLock = s.sendLock) (hhandle : s'.handle = s.handle)
    (hmap : s'.rrmap = s.rrmap)
    (hother : ∀ k, k ≠ n → s'.record k = s.record k)
    (hsession : (s'.record n).isSession = (s.record n).isSession)
    (hcount : (s'.record n).count = (s.record n).count) (hdone : (s'.record n).outstanding = false)
    (hevent : (s'.record n).waitEvent = (s.record n).waitEvent.map
      fun e => { e with triggered := true })
    (hkilled : s'.Live n → (s.record n).isSession = true → (s'.record n).killed = true →
      (s.record n).count ≠ 0 ∨ (s'.record n).waitEvent ≠ none) : s.Turn calm s' n := by
  have hhandle' : s.handle = false := by
    rw [h.handover.up, hreceiver]
    rfl
  obtain ⟨hfound, hlive⟩ := h.handover.resting q n (by rw [hreceiver]; exact List.mem_cons_self)
  have hkey := h.registry.keyed q n hfound
  have hnodup := h.handover.nodup
  rw [hreceiver, RecvThread.rest, List.map_cons, List.nodup_cons] at hnodup
  obtain ⟨hrest, hhandles, hdown, hsweeps, hswept⟩ : s'.receiver.rest = rest ∧
    s'.receiver.handles = none ∧
      s'.receiver.down = true ∧ s'.receiver.sweeps = true ∧ s'.receiver.swept = true := by
    obtain hnext | hnext := hnext <;> rw [hnext] <;> exact ⟨rfl, rfl, rfl, rfl, rfl⟩
  have hnone : ∀ k, s'.receiver.handles ≠ some k := fun k hk => by cases hhandles.symm.trans hk
  have hnone' : ∀ k, s.receiver.handles ≠ some k := fun k hk => by
    cases (congrArg RecvThread.handles hreceiver).symm.trans hk
  have hgone : ∀ q' k, (q', k) ∈ rest → k ≠ n := by
    rintro q' k hk rfl
    obtain ⟨hfound',
      -⟩ := h.handover.resting q' k (by rw [hreceiver]; exact List.mem_cons_of_mem _ hk)
    have hq : q' = q := (h.registry.keyed q' k hfound').symm.trans hkey
    exact hnodup.1 (hq ▸ List.mem_map_of_mem hk)
  constructor
  case thread => exact hthread
  case sendLock => exact hsendLock
  case handle => exact hhandle
  case down =>
    rw [hdown, hreceiver]
    rfl
  case sweeps =>
    rw [hsweeps, hreceiver]
    rfl
  case swept =>
    rw [hswept, hreceiver]
    rfl
  case other => exact hother
  case live => exact fun _ => hlive
  case session => exact hsession
  case count => exact hcount
  case asked => exact fun hk => by cases hdone.symm.trans hk
  case before => exact fun k _ => hnone' k
  case after => exact fun k _ => hnone k
  case found => exact fun q k hk => hmap ▸ hk
  case kept => exact fun q k _ hk => hmap ▸ hk
  case mapped => exact fun _ _ hk => hmap ▸ hk
  case rest =>
    intro q' k
    rw [hrest, hreceiver, RecvThread.rest, List.mem_cons]
    refine ⟨fun hk => ⟨.inr hk, hgone q' k hk⟩, fun ⟨hk, hne⟩ => hk.resolve_left fun heq => hne ?_⟩
    exact congrArg Prod.snd heq
  case nodup => exact hrest ▸ hnodup.2
  case erasing =>
    intro q' k rest' hk
    obtain hnext | hnext := hnext <;> rw [hnext] at hk <;> cases hk
    exact ⟨hnodup.1, hmap ▸ hfound⟩
  case stages =>
    intro u rr st hu
    have hat := (h.handover.stages u n rr st hu).visit hhandle'
      (congrArg RecvThread.sweeps hreceiver) (hnone' n)
    have hview : s'.view n = { s.view n with
        event := (s.view n).event.map fun e => { e with triggered := true }
        outstanding := false
        resting := False } := by
      refine RecordView.ext hevent hdone hsession ?_ hhandle
        (propext (iff_of_false (hnone n) (hnone' n))) ?_ ?_ ?_
        (eq_false fun hk => ?_)
      · simp only [view, hmap]
      · exact propext (iff_of_false (fun hw => hnone n (RecvThread.handles_of_wakes hw))
          fun hw => hnone' n (RecvThread.handles_of_wakes hw))
      · exact hsweeps.trans (congrArg RecvThread.sweeps hreceiver).symm
      · exact hswept.trans (congrArg RecvThread.swept hreceiver).symm
      · exact hgone _ _ (hrest ▸ hk : (seqOf n, n) ∈ rest) rfl
    exact hview ▸ hat
  case held => exact fun hk => absurd hk (hnone n)
  case dooms => exact fun hk => absurd (RecvThread.handles_of_dooms hk) (hnone n)
  case killing => exact fun k ok hk => absurd (congrArg RecvThread.handles hk) (hnone k)
  case late => exact fun _ _ => hswept
  case killed => exact fun hk hses hdead => (hkilled hk hses hdead).imp id .inl

theorem sweepNext {q : Nat} {rest : List (Nat × Nat)}
    (hreceiver : s.receiver = .sweeping ((q, n) :: rest))
    (ok stale : Bool) : (s.recvStep ok stale).Sound calm := by
  obtain ⟨hfound, hlive⟩ := h.handover.resting q n (by rw [hreceiver]; exact List.mem_cons_self)
  have hkey := h.registry.keyed q n hfound
  have hnodup := h.handover.nodup
  rw [hreceiver, RecvThread.rest, List.map_cons, List.nodup_cons] at hnodup
  have hself := record_edit_self s n fun r => { r with code := bpeCommsError, outstanding := false }
  have hevent :
    ((s.edit n fun r => { r with code := bpeCommsError, outstanding := false }).record n).waitEvent =
    (s.record n).waitEvent := by rw [hself]
  have hedit := h.registry.edit (n := n) (f := fun r =>
    { r with code := bpeCommsError, outstanding := false })
    (fun _ => rfl) (fun _ => rfl) (fun _ => rfl) fun _ => rfl
  unfold recvStep
  rw [hreceiver]
  dsimp only
  rw [hevent]
  cases hwaits : (s.record n).waitEvent with
  | some e =>
    have hkilled := hedit.edit (n := n) (f := fun r => { r with killed := r.killed || r.isSession })
      (fun _ => rfl)
      (fun _ => rfl) (fun _ => rfl) fun _ => rfl
    have hsignal := hkilled.edit (n := n) (f := fun r =>
      { r with waitEvent := some { e with triggered := true } })
      (fun _ => rfl) (fun _ => rfl) (fun _ => rfl) fun _ => rfl
    refine ⟨hsignal.congr rfl rfl rfl rfl (fun _ => rfl) (fun k hk => by cases hk) (fun _ => rfl)
      (fun _ => rfl)
      (fun _ => rfl) fun _ => rfl, ?_⟩
    refine h.handover.turn (n := n) (h.visit hreceiver (.inr rfl) rfl rfl rfl rfl
      (fun k hk => ?_) ?_ ?_ ?_ ?_ ?_)
    · simp only [edit, signal, setReceiver, Function.update_of_ne hk]
    · simp only [edit, signal, setReceiver, Function.update_self]
    · simp only [edit, signal, setReceiver, Function.update_self]
    · simp only [edit, signal, setReceiver, Function.update_self]
    · simp only [edit, signal, setReceiver, Function.update_self, hwaits, Option.map_some]
    · simp only [edit, signal, setReceiver, Function.update_self]
      exact fun _ _ _ => .inr (Option.some_ne_none _)
  | none =>
    dsimp only
    have hsweeping :
      ((s.edit n fun r => { r with code := bpeCommsError, outstanding := false }).setReceiver
        (.sweeping rest)).Registry := hedit.setReceiver (fun _ => rfl) fun k hk => by cases hk
    have hturn : s.Turn
      calm ((s.edit n fun r => { r with code := bpeCommsError, outstanding := false }).setReceiver
        (.sweeping rest)) n := by
      refine h.visit hreceiver (.inl rfl) rfl rfl rfl rfl (fun k hk => Function.update_of_ne hk _ _)
        ?_ ?_ ?_ ?_ ?_
      · rw [setReceiver, hself]
      · rw [setReceiver, hself]
      · rw [setReceiver, hself]
      · rw [setReceiver, hself, hwaits]
        rfl
      · rw [setReceiver, hself]
        intro _ hses hdead
        refine (h.handover.killed n hlive hses hdead).imp id fun hk => hk.resolve_right
          fun hdoomed => ?_
        cases (congrArg RecvThread.dooms hreceiver).symm.trans hdoomed
    split_ifs with hempty
    · -- nobody is inside of the session
      rw [hself, Bool.and_eq_true, decide_eq_true_eq] at hempty
      obtain ⟨hsession, hzero⟩ := hempty
      have hnobody : ∀ u, ¬s.Inside n u := (h.registry.counted n hlive hsession).eq_zero_iff.1 hzero
      have hgone := record_edit_self s n fun r =>
        { r with code := bpeCommsError, outstanding := false, freed := true, sessionLock := none }
      have hdestroyed := hsweeping.destroy (n := n) (by rw [setReceiver, hself]; exact hsession)
        hnobody
      refine ⟨hdestroyed, ?_⟩
      have hfreed : ((s.edit n fun r =>
          { r with
            code := bpeCommsError
            outstanding := false
            freed := true
            sessionLock := none }).setReceiver (.sweeping rest)).Handover calm := by
        refine h.handover.turn (n := n) (h.visit hreceiver (.inl rfl) rfl rfl rfl rfl
          (fun k hk => Function.update_of_ne hk _ _) ?_ ?_ ?_ ?_
          fun hk => ?_)
        · rw [setReceiver, hgone]
        · rw [setReceiver, hgone]
        · rw [setReceiver, hgone]
        · rw [setReceiver, hgone, hwaits]
          rfl
        · rw [Live, setReceiver, hgone] at hk
          cases hk
      have hburied := hfreed.bury h.registry rfl (n := n) ?_ (fun k hk => ?_) (fun _ _ _ _ => id)
        (fun u rr st hu => h.registry.count_ne_zero hu hsession hzero)
        (fun k hk => h.registry.distinct k n hk hlive)
        (fun k hk => ?_) fun _ _ _ => RecvThread.noConfusion
      · simp only [ConnectionItem.destroy, ConnectionItem.edit, Function.update_self,
          Function.update_idem]
        exact hburied
      · rw [Live, setReceiver, hgone]
        exact Bool.noConfusion
      · by_cases hkn : k = n
        · rw [hkn]
          exact hlive
        · rwa [Live, setReceiver, record_edit_of_ne s _ hkn] at hk
      · have hin : (seqOf n, k) ∈ rest := hk
        rw [hkey] at hin
        exact hnodup.1 (List.mem_map.2 ⟨(q, k), hin, rfl⟩)
    · exact ⟨hsweeping, h.handover.turn hturn⟩

theorem eraseNext {q : Nat} {rest : List (Nat × Nat)} (hreceiver : s.receiver = .erasing q n rest)
    (ok stale : Bool) : (s.recvStep ok stale).Sound calm := by
  have hhandle : s.handle = false := by
    rw [h.handover.up, hreceiver]
    rfl
  obtain ⟨hq, hfound⟩ := h.handover.erasing q n rest hreceiver
  have hkey := h.registry.keyed q n hfound
  have hnodup := h.handover.nodup
  have hnone : ∀ k, s.receiver.handles ≠ some k := fun k hk => by
    cases (congrArg RecvThread.handles hreceiver).symm.trans hk
  have hrest : ∀ q' k, (q', k) ∈ rest → k ≠ n := by
    rintro q' k hk rfl
    obtain ⟨hfound', -⟩ := h.handover.resting q' k (by rw [hreceiver]; exact hk)
    have hsame : q' = q := (h.registry.keyed q' k hfound').symm.trans hkey
    exact hq (hsame ▸ List.mem_map_of_mem (f := Prod.fst) hk)
  have hturn : ∀ m : OrdMap Nat Nat, (∀ q' k, m.find? q' = some k → s.rrmap.find? q' = some k) →
      (∀ q' k, k ≠ n → s.rrmap.find? q' = some k → m.find? q' = some k) →
      (s.Live n → (s.record n).isSession = true → s.rrmap.find? (seqOf n) = some n → m.find?
        (seqOf n) = some n) →
      ((s.setMap m).setReceiver (.sweeping rest)).Handover calm := by
    intro m hsub hkept hmapped
    refine h.handover.turn (n := n) ?_
    constructor
    case thread | sendLock | handle | session | count => rfl
    case down | sweeps | swept =>
      rw [hreceiver]
      rfl
    case other => exact fun _ _ => rfl
    case live | asked => exact id
    case before => exact fun k _ => hnone k
    case after => exact fun k _ hk => by cases hk
    case found => exact hsub
    case kept => exact hkept
    case mapped => exact hmapped
    case rest =>
      intro q' k
      rw [hreceiver]
      exact ⟨fun hk => ⟨hk, hrest q' k hk⟩, And.left⟩
    case nodup => rwa [hreceiver] at hnodup
    case erasing => exact fun q k rest hk => by cases hk
    case stages =>
      intro u rr st hu
      have hat := (h.handover.stages u n rr st hu).forget hhandle
        (congrArg RecvThread.swept hreceiver)
        (fun hk => ?_) (m.find? (seqOf n) = some n) true fun hk => ⟨hsub _ _ hk, ?_⟩
      · have hview : ((s.setMap m).setReceiver (.sweeping rest)).view n =
            { s.view n with sweeps := true, mapped := m.find? (seqOf n) = some n } := by
          refine RecordView.ext rfl rfl rfl rfl rfl ?_ ?_ rfl ?_ ?_
          · exact (congrArg (fun r => RecvThread.handles r = some n) hreceiver).symm
          · exact (congrArg (fun r => RecvThread.wakes r = some n) hreceiver).symm
          · exact (congrArg RecvThread.swept hreceiver).symm
          · exact (congrArg (fun r => (seqOf n, n) ∈ RecvThread.rest r) hreceiver).symm
        exact hview ▸ hat
      · exact hrest _ n ((congrArg (fun r => (seqOf n, n) ∈ RecvThread.rest r) hreceiver).mp hk) rfl
      · exact (congrArg RecvThread.sweeps hreceiver).symm
    case held => exact fun hk => by cases hk
    case dooms => exact fun hk => by cases hk
    case killing => exact fun k ok hk => by cases hk
    case late => exact fun _ _ => rfl
    case killed =>
      intro hk hses hdead
      refine (h.handover.killed n hk hses hdead).imp id (Or.imp id fun hdoomed => ?_)
      cases (congrArg RecvThread.dooms hreceiver).symm.trans hdoomed
  unfold recvStep
  rw [hreceiver]
  dsimp only
  by_cases hstays : (if (s.record n).freed then stale else (s.record n).isSession) = true
  · rw [if_pos hstays]
    refine ⟨h.registry.setReceiver (fun _ => rfl) (fun k hk => by cases hk), ?_⟩
    exact hturn s.rrmap (fun _ _ => id) (fun _ _ _ => id) fun _ _ => id
  · rw [if_neg hstays]
    refine ⟨(h.registry.eraseMap q).setReceiver (fun _ => rfl) (fun k hk => by cases hk), ?_⟩
    refine hturn (s.rrmap.erase q) (fun q' k hk => ?_) (fun q' k hk hfound' => ?_) fun hk hses => ?_
    · rw [OrdMap.find?_erase] at hk
      split_ifs at hk
      exact hk
    · have hne : q' ≠ q := fun heq => hk (Option.some.inj ((heq ▸ hfound').symm.trans hfound))
      rw [OrdMap.find?_erase, if_neg hne, hfound']
    · exact absurd (by rw [show (s.record n).freed = false from hk, hses]; rfl) hstays

theorem recvStep {ok stale : Bool} : (s.recvStep ok stale).Sound calm := by
  cases hreceiver : s.receiver with
  | listening | ended =>
    unfold ConnectionItem.recvStep
    rw [hreceiver]
    exact h
  | found a rr =>
    unfold ConnectionItem.recvStep
    rw [hreceiver]
    cases rr with
    | none =>
      obtain ⟨hdown, hsweeps, hswept, hrest, hholds⟩ := next_idle (ok || a.data.isNone)
      refine h.pass s.log (hdown.trans ?_) (hsweeps.trans ?_) (hswept.trans ?_) ?_ (next_handles _)
        (hrest.trans ?_)
        (RecvThread.not_erasing hholds)
      all_goals
        rw [hreceiver]
        rfl
    | some n => exact h.filled hreceiver
  | waking n dead ok' =>
    unfold ConnectionItem.recvStep
    rw [hreceiver]
    dsimp only
    cases hevent : (s.record n).waitEvent with
    | some e => exact h.signalled hreceiver hevent
    | none =>
      cases dead with
      | true => exact h.doomed hreceiver hevent
      | false => exact h.spared hreceiver hevent rfl
  | killing n ok' =>
    unfold ConnectionItem.recvStep
    rw [hreceiver]
    exact h.killing hreceiver
  | closing =>
    unfold ConnectionItem.recvStep
    rw [hreceiver]
    exact h.shut hreceiver
  | closed =>
    unfold ConnectionItem.recvStep
    rw [hreceiver]
    exact h.sweep hreceiver
  | sweeping rest =>
    cases rest with
    | nil =>
      unfold ConnectionItem.recvStep
      rw [hreceiver]
      refine h.pass s.log ?_ ?_ ?_ ?_ rfl ?_ fun _ _ _ => RecvThread.noConfusion
      all_goals
        rw [hreceiver]
        rfl
    | cons p rest => exact h.sweepNext hreceiver ok stale
  | erasing q n rest => exact h.eraseNext hreceiver ok stale
  | clearing =>
    unfold ConnectionItem.recvStep
    rw [hreceiver]
    exact h.clear hreceiver

theorem elsewhere : ({ s with drawn := s.drawn + 1 } : ConnectionItem τ).Sound calm := by
  obtain ⟨born, distinct, hand, keyed, stored, shaped, alone, inside, counted, locked, opener, one,
    issued⟩ :=
    h.registry
  obtain ⟨up, stages, own, mapped, asked, held, resting, nodup, erasing, dooms, killing, killed,
    sendLock, late⟩ :=
    h.handover
  exact ⟨⟨fun n hn => Nat.le_succ_of_le (born n hn), distinct,
      fun n hn => ⟨Nat.le_succ_of_le (hand n hn).1, (hand n hn).2⟩, keyed, stored, shaped, alone,
        inside, counted,
      locked, opener, one, fun n hn => ⟨Nat.le_succ_of_le (issued n hn).1, (issued n hn).2⟩⟩,
    ⟨up, stages, own, mapped, asked, held, resting, nodup, erasing, dooms, killing, killed,
      sendLock, late⟩⟩

/-- Every orderly step keeps the invariant, and the calm one if it disturbs nobody. -/
theorem step [DecidableEq τ] {c : BhpMove τ} (hdisorder : ¬s.Disorder c)
    (hcalm : calm = true → ¬s.Disturbs c) :
    (ConnectionItem.step c s).Sound calm := by
  cases c with
  | begin t call =>
    refine h.begin fun retry heq => ?_
    rw [heq] at hdisorder
    exact hdisorder
  | host t c => exact h.hostStep hdisorder hcalm
  | receive header =>
    refine h.receive (fun a heq => ?_) hcalm
    rw [heq] at hdisorder
    exact hdisorder
  | recv ok stale => exact h.recvStep
  | elsewhere => exact h.elsewhere

end Sound

variable {τ : Type} [DecidableEq τ]

/-- What holds of every connection, after any orderly steps of any threads. -/
theorem sound_of_run (drawn : Nat) {moves : List (BhpMove τ)}
    (horderly : Never ConnectionItem.step Disorder moves (start drawn)) :
    (afterCalls ConnectionItem.step moves (start drawn)).Sound false :=
  invariant_of_never (I := Sound false) (fun _ _ h hc => h.step hc fun hcalm => by cases hcalm)
    (sound_start false drawn) horderly

/-- And after steps that disturb nobody besides. -/
theorem calm_of_run (drawn : Nat) {moves : List (BhpMove τ)}
    (horderly : Never ConnectionItem.step Disorder moves (start drawn))
    (hcalm : Never ConnectionItem.step Disturbs moves (start drawn)) :
    (afterCalls ConnectionItem.step moves (start drawn)).Sound true :=
  invariant_of_never (I := Sound true) (fun _ _ h hc => h.step (fun hk => hc (.inl hk))
    fun _ hk => hc (.inr hk))
    (sound_start true drawn) (horderly.or hcalm)

end ConnectionItem

end DalHost

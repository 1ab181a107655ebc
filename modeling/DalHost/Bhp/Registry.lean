import DalHost.Bhp.Numbers
import DalHost.Lib.Headcount
import DalHost.Lib.Calls
import Mathlib.Tactic.SplitIfs

/-!
# The records of a connection

Who may touch a record, and when it goes. The record of a command belongs to the thread that made
it; a session belongs to the thread that opens it, and after that to whoever holds its lock. The
count of a session is the number of threads inside, so that its memory stays as long as anybody is.

Three things are asked of the others (`Disorder`). A number that is drawn is not in use. A session
is entered by a handle that the plugin has got. And the firmware does not answer a command before it
has all of it; of a session it may say something at any time.
-/

namespace DalHost

/-- The last pass over the map has begun and the map is not yet empty. -/
def RecvThread.sweeps : RecvThread → Bool
  | .sweeping _ | .erasing .. | .clearing => true
  | _ => false

/-- What the pass has still to visit. -/
def RecvThread.rest : RecvThread → List (Nat × Nat)
  | .sweeping rest | .erasing _ _ rest => rest
  | _ => []

namespace ConnectionItem

variable {τ : Type}

/-- What the map has under the number is not a session whose handle has been given out. -/
def BadHandle (s : ConnectionItem τ) (q : Nat) : Prop :=
  ∃ n, s.rrmap.find? q = some n ∧ s.issued n = false

/-- A message for a command of which the firmware has not got all, or has no more. -/
def Premature (s : ConnectionItem τ) (a : BhpResponse) : Prop :=
  s.receiver = .listening ∧ ∃ n, s.rrmap.find? a.seq = some n ∧ (s.record n).isSession = false ∧
    (s.record n).outstanding = false

/-- What is asked of the numbers, of the plugin and of the firmware is not given. -/
def Disorder (c : BhpMove τ) (s : ConnectionItem τ) : Prop :=
  match c with
  | .begin _ (.openSession _) => s.NumberInUse
  | .host t _ =>
    match (s.thread t).task with
    | .drawing => s.NumberInUse
    | .entering q _ => s.BadHandle q
    | _ => False
  | .receive (some a) => s.Premature a
  | _ => False

/-! ### Threads and records -/

section Updates

variable (s : ConnectionItem τ)

theorem record_edit_self (n : Nat) (f : ResponseRecord τ → ResponseRecord τ) :
    (s.edit n f).record n = f (s.record n) := Function.update_self _ _ _

theorem record_edit_of_ne {k n : Nat} (f : ResponseRecord τ → ResponseRecord τ) (hk : k ≠ n) :
    (s.edit n f).record k = s.record k := Function.update_of_ne hk _ _

theorem record_edit_field {α : Type} (g : ResponseRecord τ → α)
    (f : ResponseRecord τ → ResponseRecord τ)
    (hf : ∀ r, g (f r) = g r) (n k : Nat) : g ((s.edit n f).record k) = g (s.record k) := by
  by_cases hk : k = n
  · rw [hk, record_edit_self, hf]
  · rw [record_edit_of_ne s f hk]

variable [DecidableEq τ] {t u : τ}

theorem thread_setThread_self (th : HostThread) : (s.setThread t th).thread t = th :=
    Function.update_self _ _ _

theorem thread_setThread_of_ne (th : HostThread) (hu : u ≠ t) :
    (s.setThread t th).thread u = s.thread u :=
  Function.update_of_ne hu _ _

end Updates

/-! ### The invariant -/

abbrev Inside (s : ConnectionItem τ) (n : Nat) (t : τ) : Prop :=
  ∃ role, (s.thread t).session = some (n, role)

/-- The thread holds the session's lock. -/
abbrev Locks (s : ConnectionItem τ) (n : Nat) (t : τ) : Prop :=
  ∃ role, (s.thread t).session = some (n, role) ∧ role.locks = true ∧ (s.thread t).task ≠ .locking

/-- Where the thread stands fits the session it is inside of. -/
def Shaped (s : ConnectionItem τ) (th : HostThread) : Prop :=
  match th.task, th.session with
  | .idle, session => session = none
  | .entering _ role, session => session = none ∧ role.opens = false
  | .drawing, none => True
  | .drawing, some (_, role) => role.locks = false
  | .locking, some (_, role) | .checking, some (_, role) => role.locks = true
  | .sending m rr _, none => rr = m ∧ s.Live m ∧ (s.record m).isSession = false
  | .sending m rr _, some (n, role) =>
    rr = m ∧ s.Live m ∧
      (n = m ∧ role ≠ .forcing ∨ (s.record m).isSession = false ∧ role.locks = false)
  | .leaving _, some _ => True
  | _, _ => False

theorem Shaped.congr {s s' : ConnectionItem τ} {th : HostThread} (h : s.Shaped th)
    (hkept : ∀ m rr st, th.task = .sending m rr st →
      s'.Live m ∧ (s'.record m).isSession = (s.record m).isSession) : s'.Shaped th := by
  obtain ⟨session, task⟩ := th
  cases task with
  | sending m rr st =>
    obtain ⟨hlive, hsession⟩ := hkept m rr st rfl
    cases session with
    | none => exact ⟨h.1, hlive, hsession.trans h.2.2⟩
    | some p =>
      exact ⟨h.1, hlive, h.2.2.imp id fun hcommand => ⟨hsession.trans hcommand.1, hcommand.2⟩⟩
  | _ => cases session <;> exact h

theorem Shaped.stage {s : ConnectionItem τ} {th : HostThread} (h : s.Shaped th) {m rr : Nat}
    {st : SendStage} (ht : th.task = .sending m rr st) (st' : SendStage) :
    s.Shaped { th with task := .sending m m st' } := by
  obtain ⟨session, task⟩ := th
  obtain rfl : task = .sending m rr st := ht
  cases session with
  | none => exact ⟨rfl, h.2⟩
  | some p => exact ⟨rfl, h.2⟩

theorem Shaped.sent {s : ConnectionItem τ} {th : HostThread} (h : s.Shaped th) {m rr : Nat}
    {st : SendStage}
    (ht : th.task = .sending m rr st) : rr = m ∧ s.Live m := by
  obtain ⟨session, task⟩ := th
  obtain rfl : task = .sending m rr st := ht
  cases session with
  | none => exact ⟨h.1, h.2.1⟩
  | some p => exact ⟨h.1, h.2.1⟩

structure Registry (s : ConnectionItem τ) : Prop where
  born : ∀ n, s.Live n → n ≤ s.drawn
  distinct : ∀ m n, s.Live m → s.Live n → seqOf m = seqOf n → m = n
  /-- Nor has another record the number of the one in the receiver's hands. -/
  hand : ∀ n, s.receiver.handles = some n →
    n ≤ s.drawn ∧ ∀ k, s.Live k → seqOf k = seqOf n → k = n
  keyed : ∀ q n, s.rrmap.find? q = some n → seqOf n = q
  stored : ∀ q n, s.rrmap.find? q = some n →
    s.Live n ∨ (s.record n).isSession = false ∧ s.receiver.sweeps = true
  shaped : ∀ t, s.Shaped (s.thread t)
  alone : ∀ t u m rr rr' st st', (s.thread t).task = .sending m rr st →
    (s.thread u).task = .sending m rr' st' → t = u
  inside : ∀ t n role, (s.thread t).session = some (n, role) →
    s.Live n ∧ (s.record n).isSession = true
  counted : ∀ n, s.Live n → (s.record n).isSession = true →
    Headcount (s.Inside n) (s.record n).count
  locked : ∀ n t, (s.record n).sessionLock = some t ↔ s.Locks n t
  opener : ∀ t n role, (s.thread t).session = some (n, role) → s.issued n = !role.opens
  one : ∀ t u n role role', (s.thread t).session = some (n, role) → role.opens = true →
    (s.thread u).session = some (n, role') → t = u
  issued : ∀ n, s.issued n = true → n ≤ s.drawn ∧ (s.record n).isSession = true

theorem registry_start (drawn : Nat) : (start drawn : ConnectionItem τ).Registry where
  born n h := by cases h
  distinct m n h := by cases h
  hand n h := by cases h
  keyed q n h := by cases h
  stored q n h := by cases h
  shaped t := rfl
  alone t u m rr rr' st st' h := by cases h
  inside t n role h := by cases h
  counted n h := by cases h
  locked n t := iff_of_false (fun h => by cases h) (fun ⟨role, hrole, _⟩ => by cases hrole)
  opener t n role h := by cases h
  one t u n role role' h := by cases h
  issued n h := by cases h

/-! ### What it says -/

section Facts

variable {s : ConnectionItem τ} {t : τ} {m n rr : Nat} {st : SendStage} (h : s.Registry)
include h

theorem Registry.sent (ht : (s.thread t).task = .sending m rr st) : rr = m ∧ s.Live m :=
    (h.shaped t).sent ht

theorem Registry.sole (ht : (s.thread t).task = .sending m rr st) {u : τ} {k rr' : Nat}
    {st' : SendStage}
    (hu : (s.thread u).task = .sending k rr' st') (hne : u ≠ t) : k ≠ m := by
  rintro rfl
  exact hne (h.alone u t k rr' rr st' st hu ht)

/-- Who sends with the record of a session is inside of it, and holds its lock unless he opens
it. -/
theorem Registry.sender_inside (ht : (s.thread t).task = .sending n rr st)
    (hsession : (s.record n).isSession = true) :
    ∃ role, (s.thread t).session = some (n, role) ∧
      (role.opens = true ∨ (s.record n).sessionLock = some t) := by
  have hshape := h.shaped t
  rw [Shaped, ht] at hshape
  cases hin : (s.thread t).session with
  | none =>
    rw [hin] at hshape
    cases hsession.symm.trans hshape.2.2
  | some p =>
    obtain ⟨k, role⟩ := p
    rw [hin] at hshape
    obtain ⟨-, -, ⟨rfl, hforcing⟩ | ⟨hcommand, -⟩⟩ := hshape
    · refine ⟨role, rfl, ?_⟩
      cases role with
      | opening retry => exact .inl rfl
      | exchanging | closing sd =>
        exact .inr ((h.locked k t).2 ⟨_, hin, rfl, by rw [ht]; exact HostTask.noConfusion⟩)
      | forcing => exact absurd rfl hforcing
    · cases hsession.symm.trans hcommand

theorem Registry.only {role : SessionRole} (ht : (s.thread t).session = some (n, role))
    (hopens : role.opens = true) {u : τ} (hu : u ≠ t) : ¬s.Inside n u :=
  fun ⟨role', hin⟩ => hu (h.one t u n role role' ht hopens hin).symm

theorem Registry.count_ne_zero (ht : (s.thread t).task = .sending n rr st)
    (hsession : (s.record n).isSession = true) : (s.record n).count ≠ 0 := by
  obtain ⟨role, hrole, -⟩ := h.sender_inside ht hsession
  exact ((h.counted n (h.inside t n role hrole).1 hsession).pos ⟨role, hrole⟩).ne'

/-- What the next number comes to name is new to everybody. -/
theorem Registry.fresh (hnumber : ¬s.NumberInUse) :
    ∀ k, s.InUse k → k ≠ s.drawn + 1 ∧ seqOf k ≠ seqOf (s.drawn + 1) := by
  intro k huse
  have hborn : k ≤ s.drawn := huse.elim (h.born k) fun hk => (h.hand k hk).1
  exact ⟨by omega, fun heq => hnumber (numberInUse_iff.2 ⟨k, hborn, huse, heq⟩)⟩

end Facts

/-! ### What the steps are made of -/

section Blocks

variable {s s' : ConnectionItem τ} (h : s.Registry)
include h

theorem Registry.congr (hdrawn : s'.drawn = s.drawn) (hmap : s'.rrmap = s.rrmap)
    (hissued : s'.issued = s.issued) (hthread : s'.thread = s.thread)
    (hsweeps : s.receiver.sweeps = true → s'.receiver.sweeps = true)
    (hhandles : ∀ n, s'.receiver.handles = some n → s.receiver.handles = some n)
    (hfreed : ∀ n, (s'.record n).freed = (s.record n).freed)
    (hsession : ∀ n, (s'.record n).isSession = (s.record n).isSession)
    (hcount : ∀ n, (s'.record n).count = (s.record n).count)
    (hlock : ∀ n, (s'.record n).sessionLock = (s.record n).sessionLock) : s'.Registry := by
  constructor <;> simp only [Live, Locks, hdrawn, hmap, hissued, hthread, hfreed, hsession, hcount,
    hlock]
  case born => exact h.born
  case distinct => exact h.distinct
  case hand => exact fun n hn => h.hand n (hhandles n hn)
  case keyed => exact h.keyed
  case stored =>
    exact fun q n hn => (h.stored q n hn).imp id fun hdead => ⟨hdead.1, hsweeps hdead.2⟩
  case shaped =>
    intro t
    have ht := h.shaped t
    simp only [Shaped, Live, hfreed, hsession] at ht ⊢
    exact ht
  case alone => exact h.alone
  case inside => exact h.inside
  case counted =>
    intro n hlive hses
    refine (h.counted n hlive hses).congr fun u => ?_
    rw [Inside, Inside, hthread]
  case locked => exact h.locked
  case opener => exact h.opener
  case one => exact h.one
  case issued => exact h.issued

theorem Registry.setReceiver {r : RecvThread} (hsweeps : s.receiver.sweeps = true → r.sweeps = true)
    (hhandles : ∀ n, r.handles = some n → s.receiver.handles = some n) :
    (s.setReceiver r).Registry :=
  h.congr rfl rfl rfl rfl hsweeps hhandles (fun _ => rfl) (fun _ => rfl) (fun _ => rfl) fun _ => rfl

theorem Registry.take {r : RecvThread} (hsweeps : s.receiver.sweeps = false)
    (hhandles : ∀ n, r.handles = some n → s.Live n) : (s.setReceiver r).Registry := by
  refine ⟨h.born, h.distinct, fun n hn => ?_, h.keyed, fun q n hn => ?_, h.shaped, h.alone,
    h.inside, h.counted,
    h.locked, h.opener, h.one, h.issued⟩
  · exact ⟨h.born n (hhandles n hn), fun k hk => h.distinct k n hk (hhandles n hn)⟩
  · exact (h.stored q n hn).imp id fun hdead => by cases hsweeps.symm.trans hdead.2

variable {t : τ} {n : Nat}

theorem Registry.edit {f : ResponseRecord τ → ResponseRecord τ}
    (hfreed : ∀ r, (f r).freed = r.freed)
    (hsession : ∀ r, (f r).isSession = r.isSession) (hcount : ∀ r, (f r).count = r.count)
    (hlock : ∀ r, (f r).sessionLock = r.sessionLock) : (s.edit n f).Registry := by
  exact h.congr rfl rfl rfl rfl id (fun _ => id) (record_edit_field s ResponseRecord.freed f hfreed
    n)
    (record_edit_field s ResponseRecord.isSession f hsession n)
    (record_edit_field s ResponseRecord.count f hcount n)
    (record_edit_field s ResponseRecord.sessionLock f hlock n)

theorem Registry.eraseMap (q : Nat) : (s.setMap (s.rrmap.erase q)).Registry := by
  obtain ⟨born, distinct, hand, keyed, stored, shaped, alone, inside, counted, locked, opener, one,
    issued⟩ := h
  have hsub : ∀ q' k, (s.rrmap.erase q).find? q' = some k → s.rrmap.find? q' = some k := by
    intro q' k hk
    rw [OrdMap.find?_erase] at hk
    split_ifs at hk
    exact hk
  exact ⟨born, distinct, hand, fun q' k hk => keyed q' k (hsub q' k hk),
    fun q' k hk => stored q' k (hsub q' k hk), shaped, alone, inside, counted, locked, opener, one,
      issued⟩

omit h in
theorem find?_register (q : Nat) : ((s.rrmap.erase (seqOf n)).insert (seqOf n) n).find? q =
    if q = seqOf n then some n else s.rrmap.find? q := by
  rw [OrdMap.find?_insert, OrdMap.find?_erase, OrdMap.find?_erase, if_pos rfl]
  split_ifs <;> rfl

theorem Registry.registerMap (hlive : s.Live n) :
    (s.setMap ((s.rrmap.erase (seqOf n)).insert (seqOf n) n)).Registry := by
  obtain ⟨born, distinct, hand, keyed, stored, shaped, alone, inside, counted, locked, opener, one,
    issued⟩ := h
  refine ⟨born, distinct, hand, ?_, ?_, shaped, alone, inside, counted, locked, opener, one,
    issued⟩ <;>
    intro q k hk <;> simp only [setMap, find?_register] at hk <;> split_ifs at hk with hq
  · rw [hq, ← Option.some.inj hk]
  · exact keyed q k hk
  · exact .inl (Option.some.inj hk ▸ hlive)
  · exact stored q k hk

theorem Registry.emptyMap (r : RecvThread) (hhandles : r.handles = none) :
    ((s.setMap OrdMap.empty).setReceiver r).Registry := by
  obtain ⟨born, distinct, hand, keyed, stored, shaped, alone, inside, counted, locked, opener, one,
    issued⟩ := h
  refine ⟨born, distinct, fun k hk => ?_, fun q k hk => ?_, fun q k hk => ?_, shaped, alone, inside,
    counted, locked, opener, one, issued⟩
  · cases hhandles.symm.trans hk
  · cases hk
  · cases hk

theorem Registry.rrmapRemove (q : Nat) : (s.rrmapRemove q).Registry := by
  unfold ConnectionItem.rrmapRemove
  split
  · split_ifs
    · exact h
    · exact h.eraseMap q
  · exact h

/-- The memory of a record goes that nobody uses any more, and that the map does not have, unless it
is the record of a command in the last pass. -/
theorem Registry.free (hsender : ∀ u rr st, (s.thread u).task ≠ .sending n rr st)
    (hnobody : ∀ u, ¬s.Inside n u)
    (hmap : ∀ q, s.rrmap.find? q = some n → (s.record n).isSession = false ∧
      s.receiver.sweeps = true)
    {r : ResponseRecord τ} (hfreed : r.freed = true)
    (hsession : r.isSession = (s.record n).isSession)
    (hlock : r.sessionLock = none) :
    ({ s with record := Function.update s.record n r } : ConnectionItem τ).Registry := by
  have hother : ∀ k, k ≠ n → Function.update s.record n r k = s.record k :=
    fun k hk => Function.update_of_ne hk _ _
  have hlive : ∀ k, (Function.update s.record n r k).freed = false → k ≠ n ∧ s.Live k := by
    intro k hk
    have hne : k ≠ n := by
      rintro rfl
      rw [Function.update_self, hfreed] at hk
      cases hk
    rw [hother k hne] at hk
    exact ⟨hne, hk⟩
  have hsame : ∀ k, (Function.update s.record n r k).isSession = (s.record k).isSession := by
    intro k
    by_cases hk : k = n
    · rw [hk, Function.update_self, hsession]
    · rw [hother k hk]
  constructor
  case born => exact fun k hk => h.born k (hlive k hk).2
  case distinct => exact fun k k' hk hk' => h.distinct k k' (hlive k hk).2 (hlive k' hk').2
  case hand =>
    exact fun k hk => ⟨(h.hand k hk).1, fun k' hk' => (h.hand k hk).2 k' (hlive k' hk').2⟩
  case keyed => exact h.keyed
  case stored =>
    intro q k hk
    by_cases hkn : k = n
    · refine .inr ?_
      rw [hsame, hkn]
      exact hmap q (hkn ▸ hk)
    · simp only [Live, hother k hkn]
      exact h.stored q k hk
  case shaped =>
    refine fun u => (h.shaped u).congr fun m rr st hu => ?_
    have hne : m ≠ n := fun heq => hsender u rr st (heq ▸ hu)
    simp only [Live, hother m hne]
    exact ⟨(h.sent hu).2, trivial⟩
  case alone => exact h.alone
  case inside =>
    intro u k role hu
    have hne : k ≠ n := fun heq => hnobody u ⟨role, heq ▸ hu⟩
    simp only [Live, hother k hne]
    exact h.inside u k role hu
  case counted =>
    intro k hk hses
    obtain ⟨hne, hk⟩ := hlive k hk
    simp only [hother k hne] at hses ⊢
    exact h.counted k hk hses
  case locked =>
    intro k u
    by_cases hkn : k = n
    · subst hkn
      simp only [Function.update_self, hlock]
      exact iff_of_false (fun hk => by cases hk) fun ⟨role, hin, _⟩ => hnobody u ⟨role, hin⟩
    · simp only [hother k hkn]
      exact h.locked k u
  case opener => exact h.opener
  case one => exact h.one
  case issued => exact fun k hk => ⟨(h.issued k hk).1, (hsame k).trans (h.issued k hk).2⟩

theorem Registry.destroy (hsession : (s.record n).isSession = true) (hnobody : ∀ u, ¬s.Inside n u) :
    (s.destroy n).Registry := by
  refine (h.eraseMap (seqOf n)).free (n := n) (fun u rr st hu => ?_) hnobody
    (fun q hq => ?_) rfl rfl rfl
  · obtain ⟨role, hin, -⟩ := h.sender_inside hu hsession
    exact hnobody u ⟨role, hin⟩
  · -- the entry of the session is gone
    simp only [setMap, OrdMap.find?_erase] at hq
    split_ifs at hq with hkey
    exact absurd (h.keyed q n hq).symm hkey

theorem Registry.made (hnumber : ¬s.NumberInUse) {r : ResponseRecord τ} (hfreed : r.freed = false)
    (hcount : r.count = 0) (hlock : r.sessionLock = none) :
    ({ s with drawn := s.drawn + 1, record := Function.update s.record (s.drawn + 1) r } :
      ConnectionItem τ).Registry := by
  have hfresh := h.fresh hnumber
  have hold : ∀ k, s.InUse k → Function.update s.record (s.drawn + 1) r k = s.record k :=
    fun k hk => Function.update_of_ne (hfresh k hk).1 _ _
  -- whatever is there now is the new record or was there before
  have hsplit : ∀ k, (Function.update s.record (s.drawn + 1) r k).freed = false →
      k = s.drawn + 1 ∨ s.Live k := by
    intro k hk
    by_cases hkn : k = s.drawn + 1
    · exact .inl hkn
    · rw [Function.update_of_ne hkn] at hk
      exact .inr hk
  have hnobody : ∀ u, ¬s.Inside (s.drawn + 1) u :=
    fun u ⟨role, hu⟩ => (hfresh _ (.inl (h.inside u _ role hu).1)).1 rfl
  constructor
  case born =>
    exact fun k hk => (hsplit k hk).elim (fun hkn => hkn.le)
      fun hk => Nat.le_succ_of_le (h.born k hk)
  case distinct =>
    intro k k' hk hk' heq
    obtain hnew | hk := hsplit k hk <;> obtain hnew' | hk' := hsplit k' hk'
    · exact hnew.trans hnew'.symm
    · exact absurd (hnew ▸ heq.symm) (hfresh k' (.inl hk')).2
    · exact absurd (hnew' ▸ heq) (hfresh k (.inl hk)).2
    · exact h.distinct k k' hk hk' heq
  case hand =>
    intro k hk
    refine ⟨Nat.le_succ_of_le (h.hand k hk).1, fun k' hk' heq => ?_⟩
    obtain hnew | hk' := hsplit k' hk'
    · exact absurd (hnew ▸ heq.symm) (hfresh k (.inr hk)).2
    · exact (h.hand k hk).2 k' hk' heq
  case keyed => exact h.keyed
  case stored =>
    intro q k hk
    by_cases hkn : k = s.drawn + 1
    · refine .inl ?_
      simp only [Live, hkn, Function.update_self, hfreed]
    · simp only [Live, Function.update_of_ne hkn]
      exact h.stored q k hk
  case shaped =>
    refine fun u => (h.shaped u).congr fun m rr st hu => ?_
    have hlive := (h.sent hu).2
    simp only [Live, hold m (.inl hlive)]
    exact ⟨hlive, trivial⟩
  case alone => exact h.alone
  case inside =>
    intro u k role hu
    have hin := h.inside u k role hu
    simp only [Live, hold k (.inl hin.1)]
    exact hin
  case counted =>
    intro k hk hses
    obtain rfl | hk := hsplit k hk
    · simp only [Function.update_self, hcount]
      exact Headcount.empty hnobody
    · simp only [hold k (.inl hk)] at hses ⊢
      exact h.counted k hk hses
  case locked =>
    intro k u
    by_cases hkn : k = s.drawn + 1
    · subst hkn
      simp only [Function.update_self, hlock]
      exact iff_of_false (fun hk => by cases hk) fun ⟨role, hin, _⟩ => hnobody u ⟨role, hin⟩
    · simp only [Function.update_of_ne hkn]
      exact h.locked k u
  case opener => exact h.opener
  case one => exact h.one
  case issued =>
    intro k hk
    have hborn := h.issued k hk
    have hkn : k ≠ s.drawn + 1 := by omega
    simp only [Function.update_of_ne hkn]
    exact ⟨Nat.le_succ_of_le hborn.1, hborn.2⟩

variable [DecidableEq τ]

/-- A thread does something with a record that stays: the thread is `th` then, the record `r`. -/
def act (s : ConnectionItem τ) (t : τ) (th : HostThread) (n : Nat) (r : ResponseRecord τ)
    (issued : Nat → Bool) : ConnectionItem τ :=
  { (s.setThread t th).edit n fun _ => r with issued := issued }

theorem Registry.act (th : HostThread) {r : ResponseRecord τ} {issued : Nat → Bool}
    (hfreed : r.freed = (s.record n).freed) (hsession : r.isSession = (s.record n).isSession)
    (hshaped : s.Shaped th)
    (halone : ∀ m rr st, th.task = .sending m rr st →
      ∀ u rr' st', (s.thread u).task = .sending m rr' st' → u = t)
    -- who is inside of what
    (hinside : ∀ k role, th.session = some (k, role) → s.Live k ∧ (s.record k).isSession = true ∧
      issued k = !role.opens ∧ ∀ u role', u ≠ t → (s.thread u).session = some (k, role') →
        role.opens = false ∧ role'.opens = false)
    (hcounted : s.Live n → (s.record n).isSession = true →
      Headcount ((s.setThread t th).Inside n) r.count)
    (hsame : ∀ k, k ≠ n → ((∃ role, th.session = some (k, role)) ↔ s.Inside k t))
    -- who holds the locks
    (hlocked : ∀ u, r.sessionLock = some u ↔ (s.setThread t th).Locks n u)
    (hlocks : ∀ k, k ≠ n → ((s.setThread t th).Locks k t ↔ s.Locks k t))
    (hissued : ∀ k, issued k = s.issued k ∨ s.Live k ∧ (s.record k).isSession = true ∧
      ∀ u, u ≠ t → ¬s.Inside k u) : (s.act t th n r issued).Registry := by
  have hrecord : (s.act t th n r issued).record n = r := Function.update_self _ _ _
  have hother : ∀ k, k ≠ n → (s.act t th n r issued).record k = s.record k :=
    fun k hk => Function.update_of_ne hk _ _
  have hfreed' : ∀ k, ((s.act t th n r issued).record k).freed = (s.record k).freed := by
    intro k
    by_cases hk : k = n
    · rw [hk, hrecord, hfreed]
    · rw [hother k hk]
  have hsession' : ∀ k, ((s.act t th n r issued).record k).isSession = (s.record k).isSession := by
    intro k
    by_cases hk : k = n
    · rw [hk, hrecord, hsession]
    · rw [hother k hk]
  have hthread : ∀ u, u ≠ t → (s.act t th n r issued).thread u = s.thread u :=
    fun u hu => Function.update_of_ne hu _ _
  have hself : (s.act t th n r issued).thread t = th := Function.update_self _ _ _
  constructor <;> try simp only [Live, hfreed', hsession']
  case born => exact h.born
  case distinct => exact h.distinct
  case hand => exact h.hand
  case keyed => exact h.keyed
  case stored => exact h.stored
  case shaped =>
    intro u
    have hu : s.Shaped ((s.act t th n r issued).thread u) := by
      by_cases hut : u = t
      · rw [hut, hself]
        exact hshaped
      · rw [hthread u hut]
        exact h.shaped u
    exact hu.congr fun m rr st hk => ⟨(hfreed' m).trans (hu.sent hk).2, hsession' m⟩
  case alone =>
    intro u v m rr rr' st st' hu hv
    by_cases hut : u = t <;> by_cases hvt : v = t
    · exact hut.trans hvt.symm
    · rw [hut, hself] at hu
      rw [hthread v hvt] at hv
      exact absurd (halone m rr st hu v rr' st' hv) hvt
    · rw [hvt, hself] at hv
      rw [hthread u hut] at hu
      exact absurd (halone m rr' st' hv u rr st hu) hut
    · rw [hthread u hut] at hu
      rw [hthread v hvt] at hv
      exact h.alone u v m rr rr' st st' hu hv
  case inside =>
    intro u k role hu
    by_cases hut : u = t
    · rw [hut, hself] at hu
      exact ⟨(hinside k role hu).1, (hinside k role hu).2.1⟩
    · rw [hthread u hut] at hu
      exact h.inside u k role hu
  case counted =>
    intro k hlive hses
    by_cases hkn : k = n
    · subst hkn
      rw [hrecord]
      exact hcounted hlive hses
    · rw [hother k hkn]
      refine (h.counted k hlive hses).congr fun u => ?_
      by_cases hut : u = t
      · rw [hut, Inside, hself]
        exact hsame k hkn
      · rw [Inside, Inside, hthread u hut]
  case locked =>
    intro k u
    by_cases hkn : k = n
    · subst hkn
      rw [hrecord]
      exact hlocked u
    · rw [hother k hkn]
      refine (h.locked k u).trans ?_
      by_cases hut : u = t
      · rw [hut]
        exact (hlocks k hkn).symm
      · rw [Locks, Locks, hthread u hut]
  case opener =>
    intro u k role hu
    by_cases hut : u = t
    · rw [hut, hself] at hu
      exact (hinside k role hu).2.2.1
    · rw [hthread u hut] at hu
      obtain hk | hk := hissued k
      · exact hk.trans (h.opener u k role hu)
      · exact absurd ⟨role, hu⟩ (hk.2.2 u hut)
  case one =>
    intro u v k role role' hu hopens hv
    by_cases hut : u = t <;> by_cases hvt : v = t
    · exact hut.trans hvt.symm
    · rw [hut, hself] at hu
      rw [hthread v hvt] at hv
      cases hopens.symm.trans ((hinside k role hu).2.2.2 v role' hvt hv).1
    · rw [hvt, hself] at hv
      rw [hthread u hut] at hu
      cases hopens.symm.trans ((hinside k role' hv).2.2.2 u role hut hu).2
    · rw [hthread u hut] at hu
      rw [hthread v hvt] at hv
      exact h.one u v k role role' hu hopens hv
  case issued =>
    intro k hk
    obtain hsame | hnew := hissued k
    · exact h.issued k (hsame ▸ hk)
    · exact ⟨h.born k hnew.1, hnew.2.1⟩

theorem Registry.same {th : HostThread} (hshaped : s.Shaped th)
    (halone : ∀ m rr st, th.task = .sending m rr st →
      ∀ u rr' st', (s.thread u).task = .sending m rr' st' → u = t)
    (hrole : ∀ k role, th.session = some (k, role) →
      ∃ role', (s.thread t).session = some (k, role') ∧ role'.opens = role.opens)
    (hinside : ∀ k, s.Inside k t → ∃ role, th.session = some (k, role))
    (hlocks : ∀ k, (s.setThread t th).Locks k t ↔ s.Locks k t) : (s.setThread t th).Registry := by
  have hin : ∀ k u, (s.setThread t th).Inside k u ↔ s.Inside k u := by
    intro k u
    by_cases hu : u = t
    · rw [hu, Inside, thread_setThread_self]
      refine ⟨fun ⟨role, hk⟩ => ?_, hinside k⟩
      obtain ⟨role', hk', -⟩ := hrole k role hk
      exact ⟨role', hk'⟩
    · rw [Inside, Inside, thread_setThread_of_ne s th hu]
  have hact : s.act t th 0 (s.record 0) s.issued = s.setThread t th := by
    simp only [ConnectionItem.act, ConnectionItem.edit, setThread, Function.update_eq_self]
  rw [← hact]
  refine h.act th rfl rfl hshaped halone (fun k role hk => ?_) (fun hlive hses => ?_)
    (fun k _ => ?_) (fun u => ?_)
    (fun k _ => hlocks k) fun k => .inl rfl
  · obtain ⟨role', hk', hopens⟩ := hrole k role hk
    refine ⟨(h.inside t k role' hk').1, (h.inside t k role' hk').2, hopens ▸ h.opener t k role' hk',
      ?_⟩
    intro u role'' hu hk''
    exact ⟨Bool.eq_false_iff.2 fun ho => h.only hk' (hopens.trans ho) hu ⟨role'', hk''⟩,
      Bool.eq_false_iff.2 fun ho => h.only hk'' ho (Ne.symm hu) ⟨role', hk'⟩⟩
  · exact (h.counted 0 hlive hses).congr (hin 0)
  · rw [← thread_setThread_self s th]
    exact hin k t
  · refine (h.locked 0 u).trans ?_
    by_cases hu : u = t
    · rw [hu]
      exact (hlocks 0).symm
    · rw [Locks, Locks, thread_setThread_of_ne s th hu]

theorem Registry.goto {task : HostTask} (hshaped : s.Shaped { s.thread t with task := task })
    (halone : ∀ m rr st, task = .sending m rr st →
      ∀ u rr' st', (s.thread u).task = .sending m rr' st' → u = t)
    (hlocking : ∀ n role, (s.thread t).session = some (n, role) → role.locks = true →
      (s.thread t).task ≠ .locking ∧ task ≠ .locking) : (s.goto t task).Registry := by
  refine h.same hshaped halone (fun k role hk => ⟨role, hk, rfl⟩) (fun k hk => hk) fun k => ?_
  rw [Locks, thread_setThread_self]
  refine exists_congr fun role => and_congr_right fun hrole => and_congr_right fun hlocks => ?_
  exact iff_of_true (hlocking k role hrole hlocks).2 (hlocking k role hrole hlocks).1

theorem Registry.stage {m rr : Nat} {st : SendStage} (ht : (s.thread t).task = .sending m rr st)
    (st' : SendStage) : (s.goto t (.sending m m st')).Registry := by
  refine h.goto ((h.shaped t).stage ht st') ?_ fun n role _ _ => ?_
  · intro k rr' st₁ hk u rr₁ st₂ hu
    cases hk
    exact h.alone u t m _ _ _ _ hu ht
  · rw [ht]
    exact ⟨HostTask.noConfusion, HostTask.noConfusion⟩

/-- The package of a session that is being opened is downloaded; there is no second download. -/
theorem Registry.retry {retry : Bool} (ht : (s.thread t).session = some (n, .opening retry)) :
    (s.setThread t ⟨some (n, .opening false), .drawing⟩).Registry := by
  refine h.same rfl (fun m rr st hk => by cases hk) (fun k role hk => ?_) (fun k ⟨role, hk⟩ => ?_)
    fun k => ?_
  · cases hk
    exact ⟨.opening retry, ht, rfl⟩
  · cases hk.symm.trans ht
    exact ⟨.opening false, rfl⟩
  · -- who opens a session holds no lock
    refine iff_of_false ?_ ?_ <;> rintro ⟨role, hrole, hlocks, -⟩
    · rw [thread_setThread_self] at hrole
      cases hrole
      cases hlocks
    · cases hrole.symm.trans ht
      cases hlocks

theorem Registry.drawCommand (hnumber : ¬s.NumberInUse) (ht : (s.thread t).task = .drawing) :
    (s.draw t .ofCommand (s.thread t).session).Registry := by
  have hmade := h.made hnumber (r := .ofCommand) rfl rfl rfl
  have hself : Function.update s.record (s.drawn + 1) ResponseRecord.ofCommand (s.drawn + 1) =
      .ofCommand := Function.update_self _ _ _
  have hshape := h.shaped t
  refine Registry.goto hmade (t := t) ?_ ?_ ?_
  · rw [Shaped, ht] at hshape
    cases hin : (s.thread t).session with
    | none =>
      simp only [Shaped, Live, hin, hself]
      exact ⟨trivial, rfl, rfl⟩
    | some p =>
      rw [hin] at hshape
      simp only [Shaped, Live, hin, hself]
      exact ⟨trivial, rfl, .inr ⟨rfl, hshape⟩⟩
  · intro m rr st hm u rr' st' hu
    cases hm
    exact absurd rfl (h.fresh hnumber _ (.inl (h.sent hu).2)).1
  · intro n role hin hlocks
    rw [Shaped, ht, show (s.thread t).session = some (n, role) from hin] at hshape
    cases hlocks.symm.trans hshape

theorem Registry.drawSession (hnumber : ¬s.NumberInUse) (ht : s.thread t = ⟨none, .idle⟩)
    (retry : Bool) :
    (s.draw t .ofSession (some (s.drawn + 1, .opening retry))).Registry := by
  have hfresh := h.fresh hnumber
  have hnobody : ∀ u, ¬s.Inside (s.drawn + 1) u :=
    fun u ⟨role, hu⟩ => (hfresh _ (.inl (h.inside u _ role hu).1)).1 rfl
  have hissued : s.issued (s.drawn + 1) = false :=
    Bool.eq_false_iff.2 fun hk => by have := (h.issued _ hk).1; omega
  have hself : Function.update s.record (s.drawn + 1)
      { ResponseRecord.ofSession with count := 0 } (s.drawn + 1) =
      { ResponseRecord.ofSession with count := 0 } := Function.update_self _ _ _
  have hact : s.draw t .ofSession (some (s.drawn + 1, .opening retry)) = ConnectionItem.act
      { s with
        drawn := s.drawn + 1
        record := Function.update s.record (s.drawn + 1) { ResponseRecord.ofSession with count := 0 } }
      t ⟨some (s.drawn + 1, .opening retry), .sending (s.drawn + 1) (s.drawn + 1) .register⟩
      (s.drawn + 1) .ofSession s.issued := by
    simp only [ConnectionItem.act, ConnectionItem.edit, setThread, ConnectionItem.draw,
      Function.update_idem]
  rw [hact]
  refine (h.made hnumber rfl rfl rfl).act _ ?_ ?_ ?_ (fun m rr st hm u rr' st' hu => ?_)
    (fun k role hk => ?_)
    (fun _ _ => ?_) (fun k hk => ?_) (fun u => ?_) (fun k hk => ?_) fun k => .inl rfl
  · exact (congrArg ResponseRecord.freed hself).symm
  · exact (congrArg ResponseRecord.isSession hself).symm
  · simp only [Shaped, Live, hself]
    exact ⟨trivial, rfl, .inl ⟨trivial, SessionRole.noConfusion⟩⟩
  · cases hm
    exact absurd rfl (hfresh _ (.inl (h.sent hu).2)).1
  · cases hk
    simp only [Live, hself]
    exact ⟨rfl, rfl, hissued, fun u role' _ hu => absurd ⟨role', hu⟩ (hnobody u)⟩
  · refine Headcount.single (t := t) fun u => ?_
    by_cases hu : u = t
    · rw [hu, Inside, thread_setThread_self]
      exact iff_of_true ⟨_, rfl⟩ rfl
    · rw [Inside, thread_setThread_of_ne _ _ hu]
      exact iff_of_false (hnobody u) hu
  · refine iff_of_false (fun ⟨role, hin⟩ => ?_) fun ⟨role, hin⟩ => ?_
    · cases hin
      exact hk rfl
    · rw [show (s.thread t).session = none by rw [ht]] at hin
      cases hin
  · refine iff_of_false (fun hk => by cases hk) ?_
    rintro ⟨role, hin, hlocks, -⟩
    by_cases hu : u = t
    · rw [hu, thread_setThread_self] at hin
      cases hin
      cases hlocks
    · rw [thread_setThread_of_ne _ _ hu] at hin
      exact hnobody u ⟨role, hin⟩
  · refine iff_of_false ?_ ?_ <;> rintro ⟨role, hin, -⟩
    · rw [thread_setThread_self] at hin
      cases hin
      exact hk rfl
    · rw [show (s.thread t).session = none by rw [ht]] at hin
      cases hin

theorem Registry.enter {role : SessionRole} {q : Nat} (ht : (s.thread t).task = .entering q role)
    (hlive : s.Live n) (hsession : (s.record n).isSession = true) (hissued : s.issued n = true) :
    ((s.edit n fun r => { r with count := r.count + 1 }).setThread t
      ⟨some (n, role), if role.locks then .locking else .drawing⟩).Registry := by
  obtain ⟨hout, hrole⟩ : (s.thread t).session = none ∧ role.opens = false := by
    have hshape := h.shaped t
    rwa [Shaped, ht] at hshape
  refine h.act _ (r := { s.record n with count := (s.record n).count + 1 }) rfl rfl ?_
    (fun m rr st hm => ?_)
    (fun k role' hk => ?_) (fun _ _ => ?_) (fun k hk => ?_) (fun u => ?_) (fun k hk => ?_)
      fun k => .inl rfl
  · cases hlocks : role.locks <;> exact hlocks
  · split_ifs at hm
  · cases hk
    refine ⟨hlive, hsession, hissued.trans (by rw [hrole]; rfl), fun u role' _ hu => ⟨hrole, ?_⟩⟩
    rw [← Bool.not_eq_true', ← h.opener u n role' hu, hissued]
  · refine (h.counted n hlive hsession).enter (t := t)
      (fun ⟨role', hin⟩ => by cases hout.symm.trans hin) fun u => ?_
    by_cases hu : u = t
    · rw [hu, Inside, thread_setThread_self]
      exact iff_of_true ⟨_, rfl⟩ (.inl rfl)
    · rw [Inside, thread_setThread_of_ne _ _ hu]
      exact (or_iff_right hu).symm
  · refine iff_of_false (fun ⟨role', hin⟩ => ?_) fun ⟨role', hin⟩ => ?_
    · cases hin
      exact hk rfl
    · cases hout.symm.trans hin
  · refine (h.locked n u).trans ?_
    by_cases hu : u = t
    · rw [hu]
      refine iff_of_false (fun ⟨role', hin, _⟩ => by cases hout.symm.trans hin) ?_
      rintro ⟨role', hin, hlocks, htask⟩
      rw [thread_setThread_self] at hin htask
      cases hin
      exact htask (if_pos hlocks)
    · rw [Locks, Locks, thread_setThread_of_ne _ _ hu]
  · refine iff_of_false ?_ ?_ <;> rintro ⟨role', hin, -⟩
    · rw [thread_setThread_self] at hin
      cases hin
      exact hk rfl
    · cases hout.symm.trans hin

theorem Registry.lock {role : SessionRole} (ht : s.thread t = ⟨some (n, role), .locking⟩)
    (hfree : (s.record n).sessionLock = none) :
    ((s.edit n fun r => { r with sessionLock := some t }).goto t .checking).Registry := by
  have hin : (s.thread t).session = some (n, role) := by rw [ht]
  have hlocks : role.locks = true := by
    have hshape := h.shaped t
    rwa [Shaped, ht] at hshape
  refine h.act { s.thread t with task := .checking }
    (r := { s.record n with sessionLock := some t }) rfl rfl ?_
    (fun m rr st hm => by cases hm) (fun k role' hk => ?_) (fun hlive hsession => ?_)
    (fun k hk => Iff.rfl) (fun u => ?_)
    (fun k hk => ?_) fun k => .inl rfl
  · rw [Shaped, hin]
    exact hlocks
  · have hk' := h.inside t k role' hk
    refine ⟨hk'.1, hk'.2, h.opener t k role' hk, fun u role'' hu hk'' => ?_⟩
    exact ⟨Bool.eq_false_iff.2 fun ho => h.only hk ho hu ⟨role'', hk''⟩,
      Bool.eq_false_iff.2 fun ho => h.only hk'' ho (Ne.symm hu) ⟨role', hk⟩⟩
  · refine (h.counted n hlive hsession).congr fun u => ?_
    by_cases hu : u = t
    · rw [hu, Inside, thread_setThread_self]
    · rw [Inside, Inside, thread_setThread_of_ne _ _ hu]
  · by_cases hu : u = t
    · rw [hu, Locks, thread_setThread_self]
      exact iff_of_true rfl ⟨role, hin, hlocks, HostTask.noConfusion⟩
    · rw [Locks, thread_setThread_of_ne _ _ hu]
      refine iff_of_false (fun hk => hu (Option.some.inj hk).symm) fun hk => ?_
      cases hfree.symm.trans ((h.locked n u).2 hk)
  · refine iff_of_false ?_ ?_ <;> rintro ⟨role', hin', -⟩
    · rw [thread_setThread_self] at hin'
      cases hin.symm.trans hin'
      exact hk rfl
    · cases hin.symm.trans hin'
      exact hk rfl

theorem Registry.leave {role : SessionRole} {closes : Bool}
    (ht : s.thread t = ⟨some (n, role), .leaving closes⟩)
    (killed : Bool) :
    ({ (s.edit n fun r => { r with
        count := (s.record n).count - 1
        killed := killed
        sessionLock := if role.locks then none else r.sessionLock }).setThread t ⟨none, .idle⟩ with
      issued := if role.opens && !closes then Function.update s.issued n true else s.issued } :
        ConnectionItem τ).Registry := by
  have hin : (s.thread t).session = some (n, role) := by rw [ht]
  obtain ⟨hlive, hsession⟩ := h.inside t n role hin
  refine h.act _ (r := { s.record n with
      count := (s.record n).count - 1
      killed := killed
      sessionLock := if role.locks then none else (s.record n).sessionLock }) rfl rfl rfl
    (fun m rr st hm => by cases hm) (fun k role' hk => by cases hk) (fun _ _ => ?_) (fun k hk => ?_)
    (fun u => ?_)
    (fun k hk => ?_) fun k => ?_
  · refine (h.counted n hlive hsession).leave (t := t) ⟨role, hin⟩ fun u => ?_
    by_cases hu : u = t
    · rw [hu, Inside, thread_setThread_self]
      exact iff_of_false (fun ⟨_, hk⟩ => by cases hk) fun hk => hk.1 rfl
    · rw [Inside, thread_setThread_of_ne _ _ hu]
      exact (and_iff_right hu).symm
  · refine iff_of_false (fun ⟨_, hk'⟩ => by cases hk') fun ⟨role', hk'⟩ => ?_
    cases hin.symm.trans hk'
    exact hk rfl
  · by_cases hu : u = t
    · rw [hu, Locks, thread_setThread_self]
      refine iff_of_false (fun hk => ?_) fun ⟨_, hk, _⟩ => by cases hk
      dsimp only at hk
      split_ifs at hk with hlocks
      obtain ⟨role', hin', hlocks', -⟩ := (h.locked n t).1 hk
      cases hin.symm.trans hin'
      exact hlocks hlocks'
    · rw [Locks, thread_setThread_of_ne _ _ hu]
      dsimp only
      split_ifs with hlocks
      · -- the lock was this thread's
        have hmine := (h.locked n t).2 ⟨role, hin, hlocks, by rw [ht]; exact HostTask.noConfusion⟩
        refine iff_of_false (fun hk => by cases hk) fun hk => hu ?_
        exact Option.some.inj (((h.locked n u).2 hk).symm.trans hmine)
      · exact h.locked n u
  · refine iff_of_false ?_ ?_ <;> rintro ⟨role', hin', -⟩
    · rw [thread_setThread_self] at hin'
      cases hin'
    · cases hin.symm.trans hin'
      exact hk rfl
  · split_ifs with hgiven
    · by_cases hk : k = n
      · subst hk
        exact .inr ⟨hlive, hsession, fun u hu => h.only hin
          (by simpa using (Bool.and_eq_true _ _ ▸ hgiven).1) hu⟩
      · exact .inl (Function.update_of_ne hk _ _)
    · exact .inl rfl

theorem Registry.returned {m rr : Nat} {st : SendStage} (ht : (s.thread t).task = .sending m rr st)
    (hcommand : (s.record m).isSession = false)
    (hmap : s.rrmap.find? (seqOf m) = some m → s.receiver.sweeps = true) {task : HostTask}
    (htask : (s.thread t).session = none ∧ task = .idle ∨
      ∃ n role, (s.thread t).session = some (n, role) ∧
        (task = .leaving true ∨ role.opens = true ∧ task = .sending n n .find)) :
    ((s.edit m fun r => { r with freed := true }).goto t task).Registry := by
  have houtside : ∀ u, ¬s.Inside m u := fun u ⟨role, hu⟩ =>
    by cases hcommand.symm.trans (h.inside u m role hu).2
  have hunlocked : (s.record m).sessionLock = none :=
    Option.eq_none_iff_forall_ne_some.2 fun u hu => by
      obtain ⟨role, hin, -⟩ := (h.locked m u).1 hu
      exact houtside u ⟨role, hin⟩
  have hgoto : (s.goto t task).Registry := by
    refine h.goto ?_ (fun m' rr' st' hm u rr'' st'' hu => ?_) fun _ _ _ _ =>
      ⟨by rw [ht]; exact HostTask.noConfusion, ?_⟩
    · obtain ⟨hout, rfl⟩ | ⟨k, role', hin, rfl | ⟨hopens, rfl⟩⟩ := htask
      · exact hout
      · rw [Shaped, hin]
        trivial
      · rw [Shaped, hin]
        exact ⟨rfl, (h.inside t k role' hin).1, .inl ⟨rfl, by rintro rfl; cases hopens⟩⟩
    · obtain ⟨-, rfl⟩ | ⟨k, role', hin, rfl | ⟨hopens, rfl⟩⟩ := htask
      · cases hm
      · cases hm
      · cases hm
        obtain ⟨role'', hin', -⟩ := h.sender_inside hu (h.inside t _ role' hin).2
        exact (h.one t u _ role' role'' hin hopens hin').symm
    · obtain ⟨-, rfl⟩ | ⟨k, role', hin, rfl | ⟨hopens, rfl⟩⟩ := htask <;> exact HostTask.noConfusion
  refine hgoto.free (n := m) (fun u rr' st' hu => ?_) (fun u ⟨role, hu⟩ => ?_)
    (fun q hq => ?_) rfl rfl hunlocked
  · by_cases hut : u = t
    · rw [hut, ConnectionItem.goto, thread_setThread_self] at hu
      obtain ⟨-, rfl⟩ | ⟨k, role', hin, rfl | ⟨hopens, rfl⟩⟩ := htask
      · cases hu
      · cases hu
      · cases hu
        exact houtside t ⟨role', hin⟩
    · rw [ConnectionItem.goto, thread_setThread_of_ne _ _ hut] at hu
      exact h.sole ht hu hut rfl
  · by_cases hut : u = t
    · rw [hut, ConnectionItem.goto, thread_setThread_self] at hu
      exact houtside t ⟨role, hu⟩
    · rw [ConnectionItem.goto, thread_setThread_of_ne _ _ hut] at hu
      exact houtside u ⟨role, hu⟩
  · exact ⟨hcommand, hmap ((h.keyed q m hq).symm ▸ hq)⟩

end Blocks

end ConnectionItem

end DalHost

import Mathlib.Data.List.TakeDrop
import Mathlib.Tactic.SplitIfs

/-!
# Draining a mailbox

`MBReadAllMessages` checks the mail slot, reads what is there, and checks again until the slot is empty or the array
is full. Its inner loop compares the number of all messages read so far with the number that this round has to read,
so a round after the first one reads too few of them. Once such a round begins the slot is never empty again and the
array never full: the function returns exactly when it needs one round.

A system call on the slot finds what arrived before it. A schedule says what arrives before each of them, so messages
may come in at any time while the function runs.
-/

namespace DalHost

/-! ### The mail slot -/

inductive MBMode
  | read
  | write
  deriving DecidableEq

/-- `MB_RETURN_STATUS`, what the functions that read return of it. -/
inductive MBStatus
  | ok
  | notOpen
  | invalidMode
  | readErr
  | illegalMsgCount
  | noPendingMessages
  deriving DecidableEq

structure MailBox where
  /-- The handle is not `NULL`. -/
  isOpen : Bool
  mode : MBMode

/-- The messages that wait in the slot, and those that arrive before each of the next system calls. -/
structure MailSlot (μ : Type) where
  pending : List μ
  schedule : List (List μ)

section Draining

variable {μ : Type}

namespace MailSlot

/-- All messages, in the order in which they arrive. -/
def all (slot : MailSlot μ) : List μ := slot.pending ++ slot.schedule.flatten

/-- The slot as the next system call finds it. -/
def arrive (slot : MailSlot μ) : MailSlot μ := ⟨slot.pending ++ slot.schedule.headD [], slot.schedule.tail⟩

end MailSlot

/-- `MBCheckMail`; `GetMailslotInfo` does not fail on an open slot. -/
def mbCheckMail (mailBox : MailBox) (slot : MailSlot μ) : Except MBStatus (Nat × MailSlot μ) :=
  if mailBox.isOpen = false then .error .notOpen
  else if mailBox.mode ≠ .read then .error .invalidMode
  else .ok (slot.arrive.pending.length, slot.arrive)

/-- `MBReadNextMessage`. The status of the check is not looked at: where it failed, `msgCount` has the value it had
on the stack, and `ReadFile` fails on the handle. -/
def mbReadNextMessage (mailBox : MailBox) (stack : Nat) (slot : MailSlot μ) : Except MBStatus (μ × MailSlot μ) :=
  if mailBox.mode ≠ .read then .error .invalidMode
  else
    match mbCheckMail mailBox slot with
    | .error _ => .error (if stack = 0 then .noPendingMessages else .readErr)
    | .ok (msgCount, slot) =>
      if msgCount = 0 then .error .noPendingMessages
      else
        match slot.arrive.pending with
        | [] => .error .readErr
        | message :: rest => .ok (message, ⟨rest, slot.arrive.schedule⟩)

/-- The variables of `MBReadAllMessages`, and the slot. -/
structure DrainState (μ : Type) where
  slot : MailSlot μ
  /-- `messages`, as far as it is filled. -/
  messages : List μ
  readMsgCount : Nat
  msgCount : Nat

/-- The loop that reads the messages of a round, `left` times. An error is a return of the function. -/
def readRound (mailBox : MailBox) (stack : Nat) : Nat → DrainState μ → Except (MBStatus × DrainState μ) (DrainState μ)
  | 0, r => .ok r
  | left + 1, r =>
    match mbReadNextMessage mailBox stack r.slot with
    | .error status => .error (status, r)
    | .ok (message, slot) =>
      readRound mailBox stack left
        { r with slot := slot, messages := r.messages ++ [message], readMsgCount := r.readMsgCount + 1 }

/-- One turn of `while (1)`. An error is a return of the function. -/
def drainTurn (mailBox : MailBox) (stack maxMsgCount : Nat) (r : DrainState μ) :
    Except (MBStatus × DrainState μ) (DrainState μ) :=
  match mbCheckMail mailBox r.slot with
  | .error _ => .error (.readErr, r)
  | .ok (msgCount, slot) =>
    let r := { r with slot := slot, msgCount := msgCount }
    if msgCount = 0 then .error (if r.readMsgCount = 0 then .noPendingMessages else .ok, r)
    else if maxMsgCount = r.readMsgCount then .error (.ok, r)
    else
      let msgToRead := min (maxMsgCount - r.readMsgCount) msgCount
      if msgToRead = 0 then .error (.ok, r)
      -- the count of all messages so far against the size of this round
      else readRound mailBox stack (msgToRead - r.readMsgCount) r

def drainTurns (mailBox : MailBox) (stack maxMsgCount : Nat) : Nat → DrainState μ → Option (MBStatus × DrainState μ)
  | 0, _ => none
  | fuel + 1, r =>
    match drainTurn mailBox stack maxMsgCount r with
    | .error returned => some returned
    | .ok r => drainTurns mailBox stack maxMsgCount fuel r

/-- `MBReadAllMessages`; `none` where it has not returned after `fuel` turns. -/
def mbReadAllMessages (fuel : Nat) (mailBox : MailBox) (stack maxMsgCount : Nat) (slot : MailSlot μ) :
    Option (MBStatus × DrainState μ) :=
  let r : DrainState μ := ⟨slot, [], 0, stack⟩
  if mailBox.mode ≠ .read then some (.invalidMode, r)
  else if maxMsgCount = 0 then some (.illegalMsgCount, r)
  else drainTurns mailBox stack maxMsgCount fuel r

/-! ### What one turn does -/

variable {mailBox : MailBox} {stack maxMsgCount : Nat}

theorem mbCheckMail_open (hopen : mailBox.isOpen = true) (hmode : mailBox.mode = .read) (slot : MailSlot μ) :
    mbCheckMail mailBox slot = .ok (slot.arrive.pending.length, slot.arrive) := by
  simp [mbCheckMail, hopen, hmode]

theorem mbReadNextMessage_cons (hopen : mailBox.isOpen = true) (hmode : mailBox.mode = .read) (message : μ)
    (rest : List μ) (schedule : List (List μ)) :
    mbReadNextMessage mailBox stack ⟨message :: rest, schedule⟩ =
      .ok (message, ⟨rest ++ (schedule.take 2).flatten, schedule.drop 2⟩) := by
  have hcheck := mbCheckMail_open hopen hmode (⟨message :: rest, schedule⟩ : MailSlot μ)
  rcases schedule with _ | ⟨first, _ | ⟨second, later⟩⟩ <;>
    simp [mbReadNextMessage, hmode, hcheck, MailSlot.arrive]

theorem readRound_eq (hopen : mailBox.isOpen = true) (hmode : mailBox.mode = .read) (left : Nat) (r : DrainState μ)
    (hleft : left ≤ r.slot.pending.length) :
    readRound mailBox stack left r = .ok
      { r with
        slot := ⟨r.slot.pending.drop left ++ (r.slot.schedule.take (2 * left)).flatten, r.slot.schedule.drop (2 * left)⟩
        messages := r.messages ++ r.slot.pending.take left
        readMsgCount := r.readMsgCount + left } := by
  induction left generalizing r with
  | zero => simp [readRound]
  | succ left ih =>
    obtain ⟨⟨pending, schedule⟩, messages, readMsgCount, msgCount⟩ := r
    cases pending with
    | nil => exact absurd hleft (Nat.not_succ_le_zero left)
    | cons message rest =>
      have hrest : left ≤ rest.length := Nat.le_of_succ_le_succ hleft
      have htwice : 2 * (left + 1) = 2 + 2 * left := by omega
      rw [readRound, mbReadNextMessage_cons hopen hmode]
      dsimp only
      rw [ih _ (by simp; omega)]
      simp [List.drop_append_of_le_length hrest, List.take_append_of_le_length hrest, htwice, List.take_add,
        Nat.add_comm, Nat.add_left_comm]

theorem drainTurn_reads (hopen : mailBox.isOpen = true) (hmode : mailBox.mode = .read) (r : DrainState μ)
    (hpending : r.slot.arrive.pending ≠ []) (hroom : r.readMsgCount < maxMsgCount) :
    drainTurn mailBox stack maxMsgCount r =
      readRound mailBox stack
        (min (maxMsgCount - r.readMsgCount) r.slot.arrive.pending.length - r.readMsgCount)
        { r with slot := r.slot.arrive, msgCount := r.slot.arrive.pending.length } := by
  have hlength : 0 < r.slot.arrive.pending.length := List.length_pos_iff.2 hpending
  simp only [drainTurn, mbCheckMail_open hopen hmode]
  rw [if_neg (by omega), if_neg (by omega), if_neg (by omega)]

theorem drainTurn_empty (hopen : mailBox.isOpen = true) (hmode : mailBox.mode = .read) (r : DrainState μ)
    (hpending : r.slot.arrive.pending = []) :
    drainTurn mailBox stack maxMsgCount r =
      .error (if r.readMsgCount = 0 then .noPendingMessages else .ok, { r with slot := r.slot.arrive, msgCount := 0 }) := by
  simp [drainTurn, mbCheckMail_open hopen hmode, hpending]

theorem drainTurn_full (hopen : mailBox.isOpen = true) (hmode : mailBox.mode = .read) (r : DrainState μ)
    (hpending : r.slot.arrive.pending ≠ []) (hfull : r.readMsgCount = maxMsgCount) :
    drainTurn mailBox stack maxMsgCount r =
      .error (.ok, { r with slot := r.slot.arrive, msgCount := r.slot.arrive.pending.length }) := by
  have hlength : r.slot.arrive.pending.length ≠ 0 := fun h => hpending (List.length_eq_zero_iff.1 h)
  simp [drainTurn, mbCheckMail_open hopen hmode, hlength, hfull]

/-! ### The rounds after the first -/

/-- A round has been read, the array has room, and more messages are pending. -/
def DrainState.Late (maxMsgCount : Nat) (r : DrainState μ) : Prop :=
  0 < r.readMsgCount ∧ r.readMsgCount < maxMsgCount ∧ r.slot.arrive.pending ≠ []

theorem MailSlot.arrive_pending_ne_nil {slot : MailSlot μ} (h : slot.pending ≠ []) : slot.arrive.pending ≠ [] := by
  simp [MailSlot.arrive, h]

/-- A late round stays behind: it leaves at least as many messages as had been read before it, or reads none. -/
theorem DrainState.Late.turn (stack : Nat) (hopen : mailBox.isOpen = true) (hmode : mailBox.mode = .read) {r : DrainState μ}
    (h : r.Late maxMsgCount) : ∃ r', drainTurn mailBox stack maxMsgCount r = .ok r' ∧ r'.Late maxMsgCount := by
  obtain ⟨hread, hroom, hpending⟩ := h
  have hlength : 0 < r.slot.arrive.pending.length := List.length_pos_iff.2 hpending
  rw [drainTurn_reads hopen hmode r hpending hroom]
  rw [readRound_eq hopen hmode _ _ (by dsimp only; omega)]
  refine ⟨_, rfl, ?_, ?_, ?_⟩
  · dsimp only
    omega
  · dsimp only
    omega
  · apply MailSlot.arrive_pending_ne_nil
    apply List.append_ne_nil_of_left_ne_nil
    apply List.ne_nil_of_length_pos
    rw [List.length_drop]
    dsimp only
    omega

theorem DrainState.Late.turns (hopen : mailBox.isOpen = true) (hmode : mailBox.mode = .read) (fuel : Nat)
    {r : DrainState μ} (h : r.Late maxMsgCount) : drainTurns mailBox stack maxMsgCount fuel r = none := by
  induction fuel generalizing r with
  | zero => rfl
  | succ fuel ih =>
    obtain ⟨r', hturn, hlate⟩ := h.turn stack hopen hmode
    rw [drainTurns, hturn]
    exact ih hlate

/-! ### When it returns -/

/-- `MBReadAllMessages` returns; it has stored the first messages in their order, and it says that all went well only
where the array is full or its last check found nothing. -/
def DrainsMailBox (mailBox : MailBox) (stack maxMsgCount : Nat) (slot : MailSlot μ) : Prop :=
  ∃ fuel status r, mbReadAllMessages fuel mailBox stack maxMsgCount slot = some (status, r) ∧
    r.messages.length = r.readMsgCount ∧ r.messages = slot.all.take r.readMsgCount ∧ r.readMsgCount ≤ maxMsgCount ∧
    (status = .ok → r.readMsgCount = maxMsgCount ∨ r.msgCount = 0)

/-- The messages that the first check finds. -/
def MailSlot.first (slot : MailSlot μ) : List μ := slot.arrive.pending

/-- The messages that arrive between the first check and the second one. -/
def MailSlot.meanwhile (slot : MailSlot μ) : List μ := (slot.arrive.schedule.take (2 * slot.first.length + 1)).flatten

/-- The first check finds nothing, or enough to fill the array, or all there is until the second check. -/
def OneRound (mailBox : MailBox) (maxMsgCount : Nat) (slot : MailSlot μ) : Prop :=
  mailBox.mode = .read → mailBox.isOpen = true →
    slot.first = [] ∨ maxMsgCount ≤ slot.first.length ∨ slot.meanwhile = []

theorem MailSlot.all_arrive (slot : MailSlot μ) : slot.arrive.all = slot.all := by
  obtain ⟨pending, _ | ⟨batch, later⟩⟩ := slot <;> simp [MailSlot.all, MailSlot.arrive]

theorem MailSlot.take_all (slot : MailSlot μ) {n : Nat} (hn : n ≤ slot.first.length) :
    slot.all.take n = slot.first.take n := by
  rw [← slot.all_arrive]
  exact List.take_append_of_le_length hn

/-- The variables after the first round. -/
def afterFirst (maxMsgCount : Nat) (slot : MailSlot μ) : DrainState μ :=
  let n := min maxMsgCount slot.first.length
  { slot := ⟨slot.first.drop n ++ (slot.arrive.schedule.take (2 * n)).flatten, slot.arrive.schedule.drop (2 * n)⟩
    messages := slot.first.take n
    readMsgCount := n
    msgCount := slot.first.length }

theorem drainTurn_first (hopen : mailBox.isOpen = true) (hmode : mailBox.mode = .read) (hmax : 0 < maxMsgCount)
    {slot : MailSlot μ} (hfirst : slot.first ≠ []) :
    drainTurn mailBox stack maxMsgCount ⟨slot, [], 0, stack⟩ = .ok (afterFirst maxMsgCount slot) := by
  rw [drainTurn_reads hopen hmode ⟨slot, [], 0, stack⟩ hfirst hmax, readRound_eq hopen hmode _ _ (by dsimp only; omega)]
  simp [afterFirst, MailSlot.first]

theorem afterFirst_pending (maxMsgCount : Nat) (slot : MailSlot μ) :
    (afterFirst maxMsgCount slot).slot.arrive.pending =
      slot.first.drop maxMsgCount ++
        (slot.arrive.schedule.take (2 * min maxMsgCount slot.first.length + 1)).flatten := by
  have hdrop : slot.first.drop (min maxMsgCount slot.first.length) = slot.first.drop maxMsgCount := by
    rcases Nat.le_total maxMsgCount slot.first.length with h | h
    · rw [Nat.min_eq_left h]
    · rw [Nat.min_eq_right h, List.drop_length, List.drop_eq_nil_of_le h]
  simp only [afterFirst, MailSlot.arrive, hdrop, List.append_assoc, List.take_add, List.flatten_append]
  cases (slot.schedule.tail.drop (2 * min maxMsgCount slot.first.length)) <;> simp

theorem drainTurn_second (stack : Nat) (hopen : mailBox.isOpen = true) (hmode : mailBox.mode = .read)
    {slot : MailSlot μ} (hmax : 0 < maxMsgCount) (hfirst : slot.first ≠ [])
    (hround : maxMsgCount ≤ slot.first.length ∨ slot.meanwhile = []) :
    ∃ r, drainTurn mailBox stack maxMsgCount (afterFirst maxMsgCount slot) = .error (.ok, r) ∧
      r.messages = (afterFirst maxMsgCount slot).messages ∧
      r.readMsgCount = (afterFirst maxMsgCount slot).readMsgCount ∧
      (r.readMsgCount = maxMsgCount ∨ r.msgCount = 0) := by
  have hread : (afterFirst maxMsgCount slot).readMsgCount ≠ 0 := by
    have hlength := List.length_pos_iff.2 hfirst
    show min maxMsgCount slot.first.length ≠ 0
    omega
  by_cases hpending : (afterFirst maxMsgCount slot).slot.arrive.pending = []
  · rw [drainTurn_empty hopen hmode _ hpending, if_neg hread]
    exact ⟨_, rfl, rfl, rfl, Or.inr rfl⟩
  · have hfull : (afterFirst maxMsgCount slot).readMsgCount = maxMsgCount := by
      rcases Nat.lt_or_ge slot.first.length maxMsgCount with hlt | hge
      · rcases hround with hle | hnone
        · omega
        · -- nothing was left and nothing came in
          refine absurd ?_ hpending
          rw [afterFirst_pending, Nat.min_eq_right (Nat.le_of_lt hlt), List.drop_eq_nil_of_le (Nat.le_of_lt hlt)]
          exact hnone
      · exact Nat.min_eq_left hge
    rw [drainTurn_full hopen hmode _ hpending hfull]
    exact ⟨_, rfl, rfl, rfl, Or.inl hfull⟩

theorem mbReadAllMessages_turns (hmode : mailBox.mode = .read) (hmax : 0 < maxMsgCount) (fuel : Nat) (slot : MailSlot μ) :
    mbReadAllMessages fuel mailBox stack maxMsgCount slot =
      drainTurns mailBox stack maxMsgCount fuel ⟨slot, [], 0, stack⟩ := by
  have hne : maxMsgCount ≠ 0 := by omega
  simp [mbReadAllMessages, hmode, hne]

/-- A second round has no end. -/
theorem mbReadAllMessages_eq_none (hopen : mailBox.isOpen = true) (hmode : mailBox.mode = .read) {slot : MailSlot μ}
    (hfirst : slot.first ≠ []) (hroom : slot.first.length < maxMsgCount) (hlate : slot.meanwhile ≠ []) (fuel : Nat) :
    mbReadAllMessages fuel mailBox stack maxMsgCount slot = none := by
  have hlength := List.length_pos_iff.2 hfirst
  have hstuck : (afterFirst maxMsgCount slot).Late maxMsgCount := by
    refine ⟨?_, ?_, ?_⟩
    · show 0 < min maxMsgCount slot.first.length
      omega
    · show min maxMsgCount slot.first.length < maxMsgCount
      omega
    · rw [afterFirst_pending, Nat.min_eq_right (Nat.le_of_lt hroom)]
      exact List.append_ne_nil_of_right_ne_nil _ hlate
  rw [mbReadAllMessages_turns hmode (by omega)]
  cases fuel with
  | zero => rfl
  | succ fuel =>
    rw [drainTurns, drainTurn_first hopen hmode (by omega) hfirst]
    exact hstuck.turns hopen hmode fuel

theorem drainsMailBox_of_round (stack : Nat) (hopen : mailBox.isOpen = true) (hmode : mailBox.mode = .read)
    (hmax : 0 < maxMsgCount) {slot : MailSlot μ} (hfirst : slot.first ≠ [])
    (hround : maxMsgCount ≤ slot.first.length ∨ slot.meanwhile = []) : DrainsMailBox mailBox stack maxMsgCount slot := by
  obtain ⟨r, hsecond, hmessages, hcount, hok⟩ := drainTurn_second stack hopen hmode hmax hfirst hround
  refine ⟨2, .ok, r, ?_, ?_, ?_, ?_, fun _ => hok⟩
  · rw [mbReadAllMessages_turns hmode hmax, drainTurns, drainTurn_first hopen hmode hmax hfirst]
    dsimp only
    rw [drainTurns, hsecond]
  · rw [hmessages, hcount]
    simp [afterFirst]
  · rw [hmessages, hcount]
    exact (slot.take_all (Nat.min_le_right _ _)).symm
  · rw [hcount]
    exact Nat.min_le_left _ _

/-- `MBReadAllMessages` does what it is for exactly when it needs one round. In every other case it never returns. -/
theorem drainsMailBox_iff (mailBox : MailBox) (stack maxMsgCount : Nat) (slot : MailSlot μ) :
    DrainsMailBox mailBox stack maxMsgCount slot ↔ OneRound mailBox maxMsgCount slot := by
  constructor
  · rintro ⟨fuel, status, r, hreturns, -⟩ hmode hopen
    by_cases hfirst : slot.first = []
    · exact Or.inl hfirst
    by_cases hroom : slot.first.length < maxMsgCount
    · refine Or.inr (Or.inr (Classical.byContradiction fun hlate => ?_))
      rw [mbReadAllMessages_eq_none hopen hmode hfirst hroom hlate] at hreturns
      cases hreturns
    · exact Or.inr (Or.inl (Nat.le_of_not_lt hroom))
  · intro hround
    by_cases hmode : mailBox.mode = .read
    · by_cases hmax : 0 < maxMsgCount
      · cases hopen : mailBox.isOpen with
        | false =>
          refine ⟨1, .readErr, ⟨slot, [], 0, stack⟩, ?_, rfl, rfl, Nat.zero_le _, nofun⟩
          rw [mbReadAllMessages_turns hmode hmax]
          simp [drainTurns, drainTurn, mbCheckMail, hopen]
        | true =>
          by_cases hfirst : slot.first = []
          · refine ⟨1, .noPendingMessages, ⟨slot.arrive, [], 0, 0⟩, ?_, rfl, rfl, Nat.zero_le _, nofun⟩
            rw [mbReadAllMessages_turns hmode hmax, drainTurns, drainTurn_empty hopen hmode ⟨slot, [], 0, stack⟩ hfirst]
            rfl
          · exact drainsMailBox_of_round stack hopen hmode hmax hfirst ((hround hmode hopen).resolve_left hfirst)
      · refine ⟨0, .illegalMsgCount, ⟨slot, [], 0, stack⟩, ?_, rfl, rfl, Nat.zero_le _, nofun⟩
        have hzero : maxMsgCount = 0 := by omega
        simp [mbReadAllMessages, hmode, hzero]
    · refine ⟨0, .invalidMode, ⟨slot, [], 0, stack⟩, ?_, rfl, rfl, Nat.zero_le _, nofun⟩
      simp [mbReadAllMessages, hmode]

/-- There is room for ten messages and three are there; while they are read a fourth one arrives. -/
def fourthMessage : MailSlot Nat := ⟨[1, 2, 3], [[], [], [4]]⟩

theorem fourth_message_never_read : ¬DrainsMailBox ⟨true, .read⟩ 0 10 fourthMessage := by
  rintro ⟨fuel, status, r, hreturns, -⟩
  rw [mbReadAllMessages_eq_none rfl rfl (by decide) (by decide) (by decide)] at hreturns
  cases hreturns

end Draining

end DalHost

import DalHost.Lib.Buffer

/-!
# Decoders with logged accesses

A decoder reads fields of a buffer, checks them and stops at the first check that fails. `Scan`
keeps, beside the answer, the list of what the decoder did: the spans it read, the unsigned
subtractions it made and the amounts it copied out. `SafeOn n m x` says that on the buffer `m` all
of this is in order: reads stay below `n`, no subtraction wraps, no copy exceeds its destination.
The rules of `SafeOn` are equivalences, so a proof about a decoder rewrites its text from top to
bottom and is left with arithmetic.
-/

namespace DalHost

/-- What a decoder does. -/
inductive Access
  /-- `len` bytes at `off`. -/
  | read (off len : Nat)
  /-- The unsigned subtraction `a - b`. -/
  | sub (a b : Nat)
  /-- A copy of `len` bytes into a destination of `capacity` bytes. -/
  | copy (len capacity : Nat)
  deriving DecidableEq

/-- The access is in order, for a buffer of `n` bytes. -/
def Access.Ok (n : Nat) : Access → Prop
  | .read off len => len = 0 ∨ off + len ≤ n
  | .sub a b => b ≤ a
  | .copy len capacity => len ≤ capacity

/-- A decoder that answers an `α` or stops with an `ε`. -/
def Scan (ε α : Type) : Type := (Nat → UInt8) → Except ε α × List Access

namespace Scan

variable {ε α β : Type}

/-- What the decoder answers on a buffer. -/
def answer (x : Scan ε α) (m : Nat → UInt8) : Except ε α := (x m).1

/-- What the decoder does on a buffer. -/
def accesses (x : Scan ε α) (m : Nat → UInt8) : List Access := (x m).2

instance : Monad (Scan ε) where
  pure a := fun _ => (.ok a, [])
  bind x f := fun m =>
    match (x m).1 with
    | .error e => (.error e, (x m).2)
    | .ok a => ((f a m).1, (x m).2 ++ (f a m).2)

/-! ### Operations -/

/-- Stop. -/
def fail (e : ε) : Scan ε α := fun _ => (.error e, [])

/-- Stop with `e` unless `c` holds. -/
def check (c : Prop) [Decidable c] (e : ε) : Scan ε Unit := if c then pure () else fail e

/-- Make an access that answers nothing. -/
def note (a : Access) : Scan ε Unit := fun _ => (.ok (), [a])

def bytes (off len : Nat) : Scan ε (List UInt8) := fun m => (.ok (slice m off len), [.read off len])

def u8 (off : Nat) : Scan ε UInt8 := fun m => (.ok (m off), [.read off 1])

def u32 (off : Nat) : Scan ε UInt32 := fun m => (.ok (u32At m off), [.read off 4])

def u64 (off : Nat) : Scan ε UInt64 := fun m => (.ok (u64At m off), [.read off 8])

/-! ### Answers -/

section Answers

variable (m : Nat → UInt8)

@[simp] theorem answer_pure (a : α) : (pure a : Scan ε α).answer m = .ok a := rfl

@[simp] theorem answer_fail (e : ε) : (fail e : Scan ε α).answer m = .error e := rfl

@[simp] theorem answer_note (a : Access) : (note a : Scan ε Unit).answer m = .ok () := rfl

@[simp] theorem answer_bytes (off len : Nat) : (bytes off len : Scan ε _).answer m = .ok (slice m off len) := rfl

@[simp] theorem answer_u8 (off : Nat) : (u8 off : Scan ε _).answer m = .ok (m off) := rfl

@[simp] theorem answer_u32 (off : Nat) : (u32 off : Scan ε _).answer m = .ok (u32At m off) := rfl

@[simp] theorem answer_u64 (off : Nat) : (u64 off : Scan ε _).answer m = .ok (u64At m off) := rfl

theorem answer_bind (x : Scan ε α) (f : α → Scan ε β) :
    (x >>= f).answer m = match x.answer m with
      | .error e => .error e
      | .ok a => (f a).answer m := by
  change (match (x m).1 with
    | .error e => (.error e, (x m).2)
    | .ok a => ((f a m).1, (x m).2 ++ (f a m).2) : Except ε β × List Access).1 = _
  unfold answer
  cases (x m).1 <;> rfl

theorem answer_ite (c : Prop) [Decidable c] (x y : Scan ε α) :
    (if c then x else y).answer m = if c then x.answer m else y.answer m := by
  split <;> rfl

theorem answer_check (c : Prop) [Decidable c] (e : ε) :
    (check c e).answer m = if c then .ok () else .error e := answer_ite m c _ _

theorem answer_bind_of_ok {x : Scan ε α} {a : α} (h : x.answer m = .ok a) (f : α → Scan ε β) :
    (x >>= f).answer m = (f a).answer m := by
  rw [answer_bind, h]

theorem answer_check_bind {c : Prop} [Decidable c] {e : ε} (h : c) (f : Unit → Scan ε β) :
    (check c e >>= f).answer m = (f ()).answer m :=
  answer_bind_of_ok m (by rw [answer_check, if_pos h]) f

theorem answer_check_bind_of_not {c : Prop} [Decidable c] {e : ε} (h : ¬c) (f : Unit → Scan ε β) :
    (check c e >>= f).answer m = .error e := by
  rw [answer_bind, answer_check, if_neg h]

theorem answer_bind_eq_ok {x : Scan ε α} {f : α → Scan ε β} {b : β} :
    (x >>= f).answer m = .ok b ↔ ∃ a, x.answer m = .ok a ∧ (f a).answer m = .ok b := by
  rw [answer_bind]
  cases h : x.answer m <;> simp

theorem answer_check_eq_ok {c : Prop} [Decidable c] {e : ε} {u : Unit} : (check c e).answer m = .ok u ↔ c := by
  rw [answer_check]
  split_ifs with h <;> simp [h]

theorem answer_check_bind_eq_ok {c : Prop} [Decidable c] {e : ε} {f : Unit → Scan ε β} {b : β} :
    (check c e >>= f).answer m = .ok b ↔ c ∧ (f ()).answer m = .ok b := by
  rw [answer_bind_eq_ok]
  simp only [answer_check_eq_ok]
  exact ⟨fun ⟨_, h⟩ => h, fun h => ⟨(), h⟩⟩

theorem answer_u8_bind (off : Nat) (f : UInt8 → Scan ε β) : (u8 off >>= f).answer m = (f (m off)).answer m :=
  answer_bind_of_ok m (answer_u8 m off) f

theorem answer_u32_bind (off : Nat) (f : UInt32 → Scan ε β) :
    (u32 off >>= f).answer m = (f (u32At m off)).answer m :=
  answer_bind_of_ok m (answer_u32 m off) f

theorem answer_u64_bind (off : Nat) (f : UInt64 → Scan ε β) :
    (u64 off >>= f).answer m = (f (u64At m off)).answer m :=
  answer_bind_of_ok m (answer_u64 m off) f

theorem answer_bytes_bind (off len : Nat) (f : List UInt8 → Scan ε β) :
    (bytes off len >>= f).answer m = (f (slice m off len)).answer m :=
  answer_bind_of_ok m (answer_bytes m off len) f

end Answers

/-! ### Failures -/

/-- Whatever the buffer, a decoder that stops does so with an `ε` in `P`. -/
def Fails (P : ε → Prop) (x : Scan ε α) : Prop := ∀ m e, x.answer m = .error e → P e

section Fails

variable {P : ε → Prop}

theorem fails_pure (a : α) : Fails P (pure a : Scan ε α) := fun _ _ h => nomatch h

theorem fails_fail {e : ε} (h : P e) : Fails P (fail e : Scan ε α) := fun _ _ he => Except.error.inj he ▸ h

theorem fails_check_of_not {c : Prop} [Decidable c] {e : ε} (h : ¬c → P e) : Fails P (check c e) := by
  unfold check
  split_ifs with hc
  · exact fails_pure ()
  · exact fails_fail (h hc)

theorem fails_check {c : Prop} [Decidable c] {e : ε} (h : P e) : Fails P (check c e) :=
  fails_check_of_not fun _ => h

theorem fails_note (a : Access) : Fails P (note a : Scan ε Unit) := fun _ _ h => nomatch h

theorem fails_bytes (off len : Nat) : Fails P (bytes off len) := fun _ _ h => nomatch h

theorem fails_u8 (off : Nat) : Fails P (u8 off) := fun _ _ h => nomatch h

theorem fails_u32 (off : Nat) : Fails P (u32 off) := fun _ _ h => nomatch h

theorem fails_u64 (off : Nat) : Fails P (u64 off) := fun _ _ h => nomatch h

theorem fails_bind {x : Scan ε α} {f : α → Scan ε β} (hx : Fails P x) (hf : ∀ a, Fails P (f a)) :
    Fails P (x >>= f) := by
  intro m e h
  rw [answer_bind] at h
  cases hxm : x.answer m with
  | error e' =>
    simp only [hxm, Except.error.injEq] at h
    exact h ▸ hx m e' hxm
  | ok a =>
    simp only [hxm] at h
    exact hf a m e h

end Fails

/-! ### What is answered -/

/-- Whatever the buffer, an answer is in `P`. -/
def Returns (P : α → Prop) (x : Scan ε α) : Prop := ∀ m a, x.answer m = .ok a → P a

section Returns

variable {P : β → Prop}

theorem returns_pure {b : β} (h : P b) : Returns P (pure b : Scan ε β) := fun _ _ hb => Except.ok.inj hb ▸ h

theorem returns_bind {x : Scan ε α} {f : α → Scan ε β} (h : ∀ a, Returns P (f a)) : Returns P (x >>= f) := by
  intro m b hb
  obtain ⟨a, -, ha⟩ := (answer_bind_eq_ok m).1 hb
  exact h a m b ha

theorem returns_check_bind {c : Prop} [Decidable c] {e : ε} {f : Unit → Scan ε β} (h : c → Returns P (f ())) :
    Returns P (check c e >>= f) := by
  intro m b hb
  obtain ⟨hc, hf⟩ := (answer_check_bind_eq_ok m).1 hb
  exact h hc m b hf

end Returns

/-! ### Safety -/

theorem accesses_bind (m : Nat → UInt8) (x : Scan ε α) (f : α → Scan ε β) :
    (x >>= f).accesses m = match x.answer m with
    | .error _ => x.accesses m
    | .ok a => x.accesses m ++ (f a).accesses m := by
  change (match (x m).1 with
    | .error e => (.error e, (x m).2)
    | .ok a => ((f a m).1, (x m).2 ++ (f a m).2) : Except ε β × List Access).2 = _
  unfold answer accesses
  cases (x m).1 <;> rfl

/-- On the buffer `m`, of which `n` bytes are the decoder's, every access is in order. -/
def SafeOn (n : Nat) (m : Nat → UInt8) (x : Scan ε α) : Prop := ∀ a ∈ x.accesses m, a.Ok n

section Safety

variable (n : Nat) (m : Nat → UInt8)

@[simp] theorem safeOn_pure (a : α) : SafeOn n m (pure a : Scan ε α) := fun _ h => absurd h List.not_mem_nil

@[simp] theorem safeOn_fail (e : ε) : SafeOn n m (fail e : Scan ε α) := fun _ h => absurd h List.not_mem_nil

theorem safeOn_single {x : Scan ε α} {a : Access} (h : x.accesses m = [a]) : SafeOn n m x ↔ a.Ok n := by
  simp [SafeOn, h]

@[simp] theorem safeOn_note (a : Access) : SafeOn n m (note a : Scan ε Unit) ↔ a.Ok n := safeOn_single n m rfl

@[simp] theorem safeOn_bytes (off len : Nat) :
    SafeOn n m (bytes off len : Scan ε _) ↔ (Access.read off len).Ok n := safeOn_single n m rfl

@[simp] theorem safeOn_u8 (off : Nat) : SafeOn n m (u8 off : Scan ε _) ↔ off + 1 ≤ n := by
  simp [safeOn_single n m (rfl : (u8 off : Scan ε _).accesses m = _), Access.Ok]

@[simp] theorem safeOn_u32 (off : Nat) : SafeOn n m (u32 off : Scan ε _) ↔ off + 4 ≤ n := by
  simp [safeOn_single n m (rfl : (u32 off : Scan ε _).accesses m = _), Access.Ok]

@[simp] theorem safeOn_u64 (off : Nat) : SafeOn n m (u64 off : Scan ε _) ↔ off + 8 ≤ n := by
  simp [safeOn_single n m (rfl : (u64 off : Scan ε _).accesses m = _), Access.Ok]

@[simp] theorem safeOn_check (c : Prop) [Decidable c] (e : ε) : SafeOn n m (check c e) := by
  unfold check
  split_ifs
  · exact safeOn_pure n m ()
  · exact safeOn_fail n m e

theorem safeOn_ite (c : Prop) [Decidable c] (x y : Scan ε α) :
    SafeOn n m (if c then x else y) ↔ (c → SafeOn n m x) ∧ (¬c → SafeOn n m y) := by
  split_ifs with h <;> simp [h]

theorem safeOn_bind (x : Scan ε α) (f : α → Scan ε β) :
    SafeOn n m (x >>= f) ↔ SafeOn n m x ∧ ∀ a, x.answer m = .ok a → SafeOn n m (f a) := by
  unfold SafeOn
  rw [accesses_bind]
  cases h : x.answer m with
  | error e => simp
  | ok a => simp only [List.forall_mem_append, Except.ok.injEq, forall_eq']

theorem safeOn_check_bind (c : Prop) [Decidable c] (e : ε) (f : Unit → Scan ε β) :
    SafeOn n m (check c e >>= f) ↔ (c → SafeOn n m (f ())) := by
  rw [safeOn_bind]
  simp only [safeOn_check, answer_check_eq_ok, true_and]
  exact ⟨fun h hc => h () hc, fun h _ hc => h hc⟩

theorem safeOn_bind_of_ok {x : Scan ε α} {a : α} (h : x.answer m = .ok a) (f : α → Scan ε β) :
    SafeOn n m (x >>= f) ↔ SafeOn n m x ∧ SafeOn n m (f a) := by
  rw [safeOn_bind, h]
  simp

theorem safeOn_u8_bind (off : Nat) (f : UInt8 → Scan ε β) :
    SafeOn n m (u8 off >>= f) ↔ off + 1 ≤ n ∧ SafeOn n m (f (m off)) := by
  rw [safeOn_bind_of_ok n m (answer_u8 m off), safeOn_u8]

theorem safeOn_u32_bind (off : Nat) (f : UInt32 → Scan ε β) :
    SafeOn n m (u32 off >>= f) ↔ off + 4 ≤ n ∧ SafeOn n m (f (u32At m off)) := by
  rw [safeOn_bind_of_ok n m (answer_u32 m off), safeOn_u32]

theorem safeOn_u64_bind (off : Nat) (f : UInt64 → Scan ε β) :
    SafeOn n m (u64 off >>= f) ↔ off + 8 ≤ n ∧ SafeOn n m (f (u64At m off)) := by
  rw [safeOn_bind_of_ok n m (answer_u64 m off), safeOn_u64]

theorem safeOn_bytes_bind (off len : Nat) (f : List UInt8 → Scan ε β) :
    SafeOn n m (bytes off len >>= f) ↔ (len = 0 ∨ off + len ≤ n) ∧ SafeOn n m (f (slice m off len)) := by
  rw [safeOn_bind_of_ok n m (answer_bytes m off len), safeOn_bytes]
  rfl

end Safety

/-! ### What a decoder does, in one statement -/

/-- On the buffer `m` the decoder answers `ans`, and all its accesses satisfy `P`. -/
structure Does (P : Access → Prop) (m : Nat → UInt8) (x : Scan ε α) (ans : Except ε α) : Prop where
  answer : x.answer m = ans
  accesses : ∀ a ∈ x.accesses m, P a

section Does

variable {P : Access → Prop} {m : Nat → UInt8}

theorem does_pure (a : α) : Does P m (pure a : Scan ε α) (.ok a) := ⟨rfl, fun _ h => absurd h List.not_mem_nil⟩

theorem does_u32 {off : Nat} (h : P (.read off 4)) : Does P m (u32 off : Scan ε _) (.ok (u32At m off)) := by
  refine ⟨rfl, fun a ha => ?_⟩
  rw [List.mem_singleton.1 ha]
  exact h

theorem does_check (c : Prop) [Decidable c] (e : ε) : Does P m (check c e) (if c then .ok () else .error e) := by
  refine ⟨answer_check m c e, fun a ha => ?_⟩
  unfold check at ha
  split_ifs at ha <;> exact absurd ha List.not_mem_nil

theorem Does.bind {x : Scan ε α} {f : α → Scan ε β} {a : α} {ans : Except ε β} (hx : Does P m x (.ok a))
    (hf : Does P m (f a) ans) : Does P m (x >>= f) ans := by
  refine ⟨?_, ?_⟩
  · rw [answer_bind, hx.answer]
    exact hf.answer
  · rw [accesses_bind, hx.answer]
    intro b hb
    obtain hb | hb := List.mem_append.1 hb
    · exact hx.accesses b hb
    · exact hf.accesses b hb

theorem Does.bind_error {x : Scan ε α} {f : α → Scan ε β} {e : ε} (hx : Does P m x (.error e)) :
    Does P m (x >>= f) (.error e) := by
  refine ⟨?_, ?_⟩
  · rw [answer_bind, hx.answer]
  · rw [accesses_bind, hx.answer]
    exact hx.accesses

theorem Does.weaken {Q : Access → Prop} {x : Scan ε α} {ans : Except ε α} (h : Does P m x ans) (hPQ : ∀ a, P a → Q a) :
    Does Q m x ans := ⟨h.answer, fun a ha => hPQ a (h.accesses a ha)⟩

end Does

end Scan

end DalHost

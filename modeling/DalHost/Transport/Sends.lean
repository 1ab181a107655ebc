import DalHost.Lib.ChunkedSend
import DalHost.Transport.TeeLib

/-!
# The sends of the transports

`TEELIB_Send`, `DAL_Device_Send` and `SOCK_Send` hand a buffer to `TeeWrite`, `write` and `send` until all of it is
taken. The three loops differ in what they ask for and in what they make of the count that is reported. Only
`DAL_Device_Send` gives up when nothing was taken; the other two go on for ever with a primitive that takes nothing.
`SOCK_Send` passes the rest of the length through an `int`: with 64-bit sizes a rest of two gigabytes or more asks for
far more than the buffer has.
-/

namespace DalHost

/-! ### The loops -/

/-- An `int`, given by its 32 bits, as a `size_t`. -/
def PtrWidth.sizeOfInt (w : PtrWidth) (x : Nat) : Nat :=
  let bits := x % 0x100000000
  if bits < 0x80000000 then bits else w.modulus - 0x100000000 + bits

/-- The greatest `ssize_t`. -/
def PtrWidth.ssizeMax (w : PtrWidth) : Nat := w.modulus / 2 - 1

/-- The loop of `TEELIB_Send`. -/
def teelibLoop (clientMtu length : Nat) : SendLoop where
  request total := min (length - total) clientMtu
  most total := min (length - total) clientMtu
  advance total count := some (total + count)

def dalDeviceMtu : Nat := 4096

/-- The loop of `DAL_Device_Send`: a count of zero is an error. -/
def dalDeviceLoop (length : Nat) : SendLoop where
  request total := min (length - total) dalDeviceMtu
  most total := min (length - total) dalDeviceMtu
  advance total count := if count = 0 then none else some (total + count)

/-- The loop of `SOCK_Send`, with `SocketSend` in it: the rest and the count go through an `int`. -/
def sockLoop (w : PtrWidth) (length : Nat) : SendLoop where
  request total := w.sizeOfInt (length - total)
  most total := min (w.sizeOfInt (length - total)) w.ssizeMax
  advance total count := some ((total + w.sizeOfInt count) % w.modulus)

/-! ### The functions -/

/-- The checks before the loop, in all three; `buffer` says whether the pointer is there. -/
def checkSend (w : PtrWidth) (initialized : Option Bool) (handle : Nat) (buffer : Bool) : Option TeeCommStatus :=
  match initialized with
  | none => some .invalidParams
  | some initialized =>
    if handle = w.invalidHandleValue ∨ buffer = false then some .invalidParams
    else if initialized = false then some .notInitialized
    else none

/-- The loop and the status that the function returns after it. -/
def SendLoop.send (l : SendLoop) (memory : Nat → UInt8) (length : UInt32) (offers : Nat → Option Nat) (fuel : Nat) :
    Option (TeeCommStatus × SendState UInt8) :=
  (l.run length.toNat memory offers fuel .start).map fun r => (if r.1 then .success else .internalError, r.2)

/-- `TEELIB_Send`. -/
def teelibSend {ι : Type} (w : PtrWidth) (pInterface : Option ι) (handle : Nat) (buffer : Bool) (s : TeeState ι)
    (memory : Nat → UInt8) (length : UInt32) (offers : Nat → Option Nat) (fuel : Nat) :
    Option (TeeCommStatus × SendState UInt8) :=
  match checkSend w (pInterface.map s.initialized) handle buffer with
  | some status => some (status, .start)
  | none =>
    match getClientByHandle w handle s.context with
    | none => some (.internalError, .start)
    | some client => (teelibLoop client.maxMsgLen length.toNat).send memory length offers fuel

/-- `DAL_Device_Send`. -/
def dalDeviceSend (w : PtrWidth) (initialized : Option Bool) (handle : Nat) (buffer : Bool) (memory : Nat → UInt8)
    (length : UInt32) (offers : Nat → Option Nat) (fuel : Nat) : Option (TeeCommStatus × SendState UInt8) :=
  match checkSend w initialized handle buffer with
  | some status => some (status, .start)
  | none => (dalDeviceLoop length.toNat).send memory length offers fuel

/-- `SOCK_Send`. -/
def sockSend (w : PtrWidth) (initialized : Option Bool) (handle : Nat) (buffer : Bool) (memory : Nat → UInt8)
    (length : UInt32) (offers : Nat → Option Nat) (fuel : Nat) : Option (TeeCommStatus × SendState UInt8) :=
  match checkSend w initialized handle buffer with
  | some status => some (status, .start)
  | none => (sockLoop w length.toNat).send memory length offers fuel

/-! ### Exact sends -/

/-- The function returns; on success the whole buffer was taken, on an error a proper part of it; no request is larger
than the bound. -/
def SendsExactly (bound : Option Nat) (memory : Nat → UInt8) (length : UInt32)
    (send : Nat → Option (TeeCommStatus × SendState UInt8)) : Prop :=
  ∃ fuel status s, send fuel = some (status, s) ∧
    (status = .success → s.accepted = bytesAt memory 0 length.toNat) ∧
    (status ≠ .success → s.accepted <+: bytesAt memory 0 length.toNat ∧ s.accepted ≠ bytesAt memory 0 length.toNat) ∧
    ∀ b ∈ bound, ∀ r ∈ s.requests, r ≤ b

section Exact

variable {bound : Option Nat} {memory : Nat → UInt8} {length : UInt32} {offers : Nat → Option Nat}

theorem sendsExactly_refused {status : TeeCommStatus} (hstatus : status ≠ .success) :
    SendsExactly bound memory length (fun _ => some (status, .start)) ↔ 0 < length.toNat := by
  constructor
  · rintro ⟨_, _, _, hsend, -, herror, -⟩
    cases hsend
    refine Nat.pos_of_ne_zero fun hzero => (herror hstatus).2 ?_
    rw [hzero]
    rfl
  · intro hpos
    exact ⟨0, status, .start, rfl, fun h => absurd h hstatus, fun _ => bytesAt_proper memory hpos, fun _ _ _ hr => nomatch hr⟩

theorem sendsExactly_loop (memory : Nat → UInt8) (offers : Nat → Option Nat) {l : SendLoop}
    (hbound : ∀ b ∈ bound, ∀ t, l.request t ≤ b) :
    SendsExactly bound memory length (l.send memory length offers) ↔ l.Sends length.toNat memory offers := by
  constructor
  · rintro ⟨fuel, status, s, hsend, hsuccess, herror, -⟩
    obtain ⟨⟨ok, s⟩, hrun, heq⟩ := Option.map_eq_some_iff.1 hsend
    cases heq
    refine ⟨fuel, ok, s, hrun, ?_, ?_⟩
    · rintro rfl
      exact hsuccess rfl
    · rintro rfl
      exact herror nofun
  · rintro ⟨fuel, ok, s, hrun, htrue, hfalse⟩
    have hsend : l.send memory length offers fuel = some (if ok then .success else .internalError, s) := by
      simp only [SendLoop.send, hrun, Option.map_some]
    refine ⟨fuel, _, s, hsend, ?_, ?_, fun b hb => SendLoop.run_requests (hbound b hb) hrun⟩
    · cases ok with
      | true => exact fun _ => htrue rfl
      | false => nofun
    · cases ok with
      | true => exact fun h => absurd rfl h
      | false => exact fun _ => hfalse rfl

end Exact

/-! ### The turns of the loops -/

theorem teelibLoop_steady (clientMtu length total offer : Nat) :
    (teelibLoop clientMtu length).Steady length clientMtu total offer := by
  refine ⟨?_, _, rfl, Or.inl rfl⟩
  show min offer (min (length - total) clientMtu) = _
  omega

theorem dalDeviceLoop_steady {length total offer : Nat} (htotal : total < length) (hoffer : 0 < offer) :
    (dalDeviceLoop length).Steady length dalDeviceMtu total offer := by
  have hmtu : dalDeviceMtu = 4096 := rfl
  have hmost : (dalDeviceLoop length).most total = min (length - total) dalDeviceMtu := rfl
  refine ⟨?_, total + min offer ((dalDeviceLoop length).most total), ?_, Or.inl rfl⟩
  · rw [hmost]
    omega
  · apply if_neg
    rw [hmost]
    omega

section Socket

variable {w : PtrWidth} {total offer : Nat}

theorem sizeOfInt_of_lt (w : PtrWidth) {x : Nat} (h : x < 0x80000000) : w.sizeOfInt x = x := by
  have hbits : x % 0x100000000 = x := by omega
  rw [PtrWidth.sizeOfInt, hbits]
  exact if_pos h

theorem sizeOfInt_of_ge (w : PtrWidth) {x : Nat} (h : 0x80000000 ≤ x) (hlt : x < 0x100000000) :
    w.sizeOfInt x = w.modulus - 0x100000000 + x := by
  have hbits : x % 0x100000000 = x := by omega
  rw [PtrWidth.sizeOfInt, hbits]
  exact if_neg (by omega)

/-- What `send` reports, if it is an `int` or the whole rest where the rest is none. -/
theorem sockLoop_count {length : Nat} (hlength : length < 0x100000000) (htotal : total < length)
    (hfits : w = .w64 → 0x80000000 ≤ length - total → offer < 0x80000000 ∨ total + offer = length) {count : Nat}
    (hcount : count = min offer ((sockLoop w length).most total)) :
    count = min (min offer w.ssizeMax) (length - total) ∧ (count < 0x80000000 ∨ w = .w64 ∧ total + count = length) := by
  have hmost : (sockLoop w length).most total = min (w.sizeOfInt (length - total)) w.ssizeMax := rfl
  rw [hmost] at hcount
  rcases Nat.lt_or_ge (length - total) 0x80000000 with hrest | hrest
  · rw [sizeOfInt_of_lt w hrest] at hcount
    omega
  · rw [sizeOfInt_of_ge w hrest (by omega)] at hcount
    cases w with
    | w32 =>
      have hmax : PtrWidth.w32.ssizeMax = 0x7FFFFFFF := rfl
      rw [PtrWidth.modulus] at hcount
      omega
    | w64 =>
      have hmax : PtrWidth.w64.ssizeMax = 0x7FFFFFFFFFFFFFFF := rfl
      have hoffer := hfits rfl hrest
      rw [PtrWidth.modulus] at hcount
      refine ⟨by omega, ?_⟩
      rcases hoffer with hlt | hall
      · exact Or.inl (by omega)
      · exact Or.inr ⟨rfl, by omega⟩

theorem sockLoop_steady {length : Nat} (hlength : length < 0x100000000) (htotal : total < length)
    (hfits : w = .w64 → 0x80000000 ≤ length - total → offer < 0x80000000 ∨ total + offer = length) :
    (sockLoop w length).Steady length w.ssizeMax total offer := by
  unfold SendLoop.Steady
  generalize hcount : min offer ((sockLoop w length).most total) = count
  obtain ⟨htook, hint⟩ := sockLoop_count hlength htotal hfits hcount.symm
  refine ⟨htook, (total + w.sizeOfInt count) % w.modulus, rfl, ?_⟩
  rcases hint with hlt | ⟨rfl, hall⟩
  · have hmodulus : 0x100000000 ≤ w.modulus := by cases w <;> decide
    rw [sizeOfInt_of_lt w hlt]
    exact Or.inl (Nat.mod_eq_of_lt (by omega))
  · rcases Nat.lt_or_ge count 0x80000000 with hlt | hge
    · rw [sizeOfInt_of_lt _ hlt, PtrWidth.modulus]
      omega
    · rw [sizeOfInt_of_ge _ hge (by omega), PtrWidth.modulus]
      omega

/-- With 64-bit sizes: while the rest is no `int`, the primitive takes an `int` or the whole rest. -/
def RestFits (w : PtrWidth) (length : Nat) (offers : Nat → Option Nat) : Prop :=
  w = .w64 → ∀ k offer, (∀ i, i < k → offers i ≠ none) → offered w.ssizeMax offers k + 0x80000000 ≤ length →
    offers k = some offer → offer < 0x80000000 ∨ offered w.ssizeMax offers k + offer = length

theorem sockLoop_alwaysSteady {length : Nat} {offers : Nat → Option Nat} (hlength : length < 0x100000000)
    (h : RestFits w length offers) : (sockLoop w length).AlwaysSteady w.ssizeMax length offers := by
  intro k offer hbefore hlt hoffer
  apply sockLoop_steady hlength hlt
  intro hw hrest
  exact h hw k offer hbefore (by omega) hoffer

theorem restFits_of_sends {length : Nat} {memory : Nat → UInt8} {offers : Nat → Option Nat} (hlength : length < 0x100000000)
    (h : (sockLoop w length).Sends length memory offers) : RestFits w length offers := by
  rintro rfl k
  induction k using Nat.strongRecOn with
  | ind k ih =>
    intro offer hbefore hrest hoffer
    have hmax : PtrWidth.w64.ssizeMax = 0x7FFFFFFFFFFFFFFF := rfl
    refine Classical.byContradiction fun hbad => ?_
    -- up to here all turns were steady
    have hturns : ∀ i, i < k → offered PtrWidth.w64.ssizeMax offers i < length ∧ ∃ offer, offers i = some offer ∧
        (sockLoop .w64 length).Steady length PtrWidth.w64.ssizeMax (offered PtrWidth.w64.ssizeMax offers i) offer := by
      intro i hi
      have hle := offered_mono PtrWidth.w64.ssizeMax offers (Nat.le_of_lt hi)
      obtain ⟨offer, hoffer⟩ := Option.ne_none_iff_exists'.1 (hbefore i hi)
      refine ⟨by omega, offer, hoffer, sockLoop_steady hlength (by omega) fun _ _ => ?_⟩
      exact ih i hi offer (fun j hj => hbefore j (by omega)) (by omega) hoffer
    obtain ⟨s, hs⟩ := SendLoop.exists_reaches memory hturns
    have htotal : s.total = offered PtrWidth.w64.ssizeMax offers k := hs.total.resolve_right fun h => absurd h.2 (by omega)
    have haccepted : s.accepted.length = s.total := by
      rw [hs.accepted, length_bytesAt]
      omega
    obtain ⟨fuel, ok, s', hrun, hle, htrue⟩ := h.length_accepted
    have hmost : (sockLoop .w64 length).most s.total = 0x7FFFFFFFFFFFFFFF := by
      show min (PtrWidth.w64.sizeOfInt (length - s.total)) PtrWidth.w64.ssizeMax = _
      rw [sizeOfInt_of_ge _ (by omega) (by omega), PtrWidth.modulus]
      omega
    have hlater := SendLoop.run_le (show fuel ≤ k + (fuel + 1) by omega) hrun
    rw [hs.run, SendLoop.run, if_neg (by omega), hs.calls, hoffer] at hlater
    dsimp only at hlater
    have hadvance : ∀ count, (sockLoop .w64 length).advance s.total count =
        some ((s.total + PtrWidth.w64.sizeOfInt count) % PtrWidth.w64.modulus) := fun _ => rfl
    rw [hmost, hadvance] at hlater
    dsimp only at hlater
    have htook : ∀ total, (s.took (sockLoop .w64 length) memory (min offer 0x7FFFFFFFFFFFFFFF) total).accepted.length =
        s.total + min offer 0x7FFFFFFFFFFFFFFF := by
      intro total
      rw [SendState.took, List.length_append, length_bytesAt, haccepted]
    rcases Nat.lt_or_ge length (s.total + offer) with hmore | hless
    · -- bytes behind the buffer are taken
      have hlast := SendLoop.run_mono hlater (Nat.le_of_eq (htook _).symm)
      omega
    · -- the count turns negative and ends the loop
      have hcount : min offer 0x7FFFFFFFFFFFFFFF = offer := by omega
      have hend : length ≤ (s.total + PtrWidth.w64.sizeOfInt (min offer 0x7FFFFFFFFFFFFFFF)) % PtrWidth.w64.modulus := by
        rw [hcount, sizeOfInt_of_ge _ (by omega) (by omega), PtrWidth.modulus]
        omega
      cases fuel with
      | zero => cases hlater
      | succ fuel =>
        rw [SendLoop.run_done] at hlater
        · cases hlater
          have hall := htrue rfl
          rw [htook] at hall
          omega
        · exact hend

end Socket

/-! ### When the sends are exact -/

section Sends

variable {ι : Type} (w : PtrWidth) (handle : Nat) (buffer : Bool) (memory : Nat → UInt8) (length : UInt32)
  (offers : Nat → Option Nat)

/-- The client that `TEELIB_Send` writes to. -/
def sendTarget (pInterface : Option ι) (s : TeeState ι) : Option TeeClient :=
  if checkSend w (pInterface.map s.initialized) handle buffer = none then getClientByHandle w handle s.context else none

/-- A call of `TEELIB_Send` that is refused has something to send; with a client, `TeeWrite` makes progress. -/
def TeelibProgress (pInterface : Option ι) (s : TeeState ι) : Prop :=
  (sendTarget w handle buffer pInterface s = none → 0 < length.toNat) ∧
    ∀ client, sendTarget w handle buffer pInterface s = some client → Progress client.maxMsgLen length.toNat offers

/-- A call of `DAL_Device_Send` that is refused has something to send. -/
def DalDeviceProgress (initialized : Option Bool) : Prop :=
  checkSend w initialized handle buffer ≠ none → 0 < length.toNat

/-- A call of `SOCK_Send` that is refused has something to send; else `send` makes progress, in counts that fit. -/
def SockProgress (initialized : Option Bool) : Prop :=
  (checkSend w initialized handle buffer ≠ none → 0 < length.toNat) ∧
    (checkSend w initialized handle buffer = none →
      Progress w.ssizeMax length.toNat offers ∧ RestFits w length.toNat offers)

theorem checkSend_ne_success (initialized : Option Bool) :
    checkSend w initialized handle buffer ≠ some .success := by
  unfold checkSend
  cases initialized with
  | none => nofun
  | some initialized =>
    dsimp only
    split_ifs <;> nofun

theorem teelibSend_exact_iff (pInterface : Option ι) (s : TeeState ι) :
    SendsExactly ((sendTarget w handle buffer pInterface s).map TeeClient.maxMsgLen) memory length
        (teelibSend w pInterface handle buffer s memory length offers) ↔
      TeelibProgress w handle buffer length offers pInterface s := by
  unfold TeelibProgress sendTarget teelibSend
  have hne := checkSend_ne_success w handle buffer (pInterface.map s.initialized)
  cases hcheck : checkSend w (pInterface.map s.initialized) handle buffer with
  | some status =>
    rw [hcheck] at hne
    rw [if_neg nofun]
    simpa using sendsExactly_refused fun h => hne (congrArg some h)
  | none =>
    rw [if_pos rfl]
    cases hclient : getClientByHandle w handle s.context with
    | none =>
      have hstatus : TeeCommStatus.internalError ≠ .success := nofun
      simpa using sendsExactly_refused hstatus
    | some client =>
      have hbound : ∀ b ∈ (some client).map TeeClient.maxMsgLen, ∀ t,
          (teelibLoop client.maxMsgLen length.toNat).request t ≤ b := by
        rintro b hb t
        cases hb
        exact Nat.min_le_right _ _
      have hsteady : (teelibLoop client.maxMsgLen length.toNat).AlwaysSteady client.maxMsgLen length.toNat offers :=
        fun _ _ _ _ _ => teelibLoop_steady _ _ _ _
      have hiff := (sendsExactly_loop memory offers hbound).trans
        ⟨SendLoop.progress_of_sends hsteady, SendLoop.sends_of_progress hsteady⟩
      simpa using hiff

theorem dalDeviceSend_exact_iff (initialized : Option Bool) :
    SendsExactly (some dalDeviceMtu) memory length
        (dalDeviceSend w initialized handle buffer memory length offers) ↔
      DalDeviceProgress w handle buffer length initialized := by
  unfold DalDeviceProgress dalDeviceSend
  have hne := checkSend_ne_success w handle buffer initialized
  cases hcheck : checkSend w initialized handle buffer with
  | some status =>
    rw [hcheck] at hne
    simpa using sendsExactly_refused fun h => hne (congrArg some h)
  | none =>
    have hbound : ∀ b ∈ some dalDeviceMtu, ∀ t, (dalDeviceLoop length.toNat).request t ≤ b := by
      rintro b hb t
      cases hb
      exact Nat.min_le_right _ _
    have hsends : (dalDeviceLoop length.toNat).Sends length.toNat memory offers :=
      SendLoop.sends_of_positive (show 0 < dalDeviceMtu by decide) (fun _ _ => dalDeviceLoop_steady) fun _ => rfl
    simpa using (sendsExactly_loop memory offers hbound).2 hsends

theorem sockSend_exact_iff (initialized : Option Bool) :
    SendsExactly none memory length (sockSend w initialized handle buffer memory length offers) ↔
      SockProgress w handle buffer length offers initialized := by
  unfold SockProgress sockSend
  have hne := checkSend_ne_success w handle buffer initialized
  have hlength : length.toNat < 0x100000000 := length.toNat_lt
  cases hcheck : checkSend w initialized handle buffer with
  | some status =>
    rw [hcheck] at hne
    simpa using sendsExactly_refused fun h => hne (congrArg some h)
  | none =>
    have hbound : ∀ b ∈ (none : Option Nat), ∀ t, (sockLoop w length.toNat).request t ≤ b := nofun
    have hiff : (sockLoop w length.toNat).Sends length.toNat memory offers ↔
        Progress w.ssizeMax length.toNat offers ∧ RestFits w length.toNat offers := by
      constructor
      · intro hsends
        have hfits := restFits_of_sends hlength hsends
        exact ⟨SendLoop.progress_of_sends (sockLoop_alwaysSteady hlength hfits) hsends, hfits⟩
      · rintro ⟨hprogress, hfits⟩
        exact SendLoop.sends_of_progress (sockLoop_alwaysSteady hlength hfits) hprogress
    simpa using (sendsExactly_loop memory offers hbound).trans hiff

/-- The sends are exact and end: `DAL_Device_Send` always, the other two if their primitive makes progress. -/
theorem chunked_sends_iff (pInterface : Option ι) (s : TeeState ι) (initialized : Option Bool) :
    (SendsExactly ((sendTarget w handle buffer pInterface s).map TeeClient.maxMsgLen) memory length
        (teelibSend w pInterface handle buffer s memory length offers) ↔
      TeelibProgress w handle buffer length offers pInterface s) ∧
    (SendsExactly (some dalDeviceMtu) memory length
        (dalDeviceSend w initialized handle buffer memory length offers) ↔
      DalDeviceProgress w handle buffer length initialized) ∧
    (SendsExactly none memory length (sockSend w initialized handle buffer memory length offers) ↔
      SockProgress w handle buffer length offers initialized) :=
  ⟨teelibSend_exact_iff w handle buffer memory length offers pInterface s,
    dalDeviceSend_exact_iff w handle buffer memory length offers initialized,
    sockSend_exact_iff w handle buffer memory length offers initialized⟩

end Sends

/-- A process with one client, which takes messages of up to 4096 bytes. -/
def oneTeeClient : TeeState Unit :=
  ((TeeOp.connect (some ()) 10001 true true ⟨true, true, true, 4096, true⟩).exec .w64
    ((TeeOp.setup (some ()) true).exec .w64 .start))

/-- Every call succeeds and takes nothing. -/
def takesNothing (_ : Nat) : Option Nat := some 0

theorem not_progress_takesNothing (cap : Nat) : ¬Progress cap 1 takesNothing := by
  have hnone : ∀ k, offered cap takesNothing k = 0 := by
    intro k
    induction k with
    | zero => rfl
    | succ k ih =>
      rw [offered, ih]
      exact Nat.zero_min cap
  rintro ⟨k, hfails | hall⟩
  · cases hfails
  · rw [hnone k] at hall
    cases hall

theorem sends_never_return :
    ¬SendsExactly (some 4096) (fun _ => 7) 1 (teelibSend .w64 (some ()) 1 true oneTeeClient (fun _ => 7) 1 takesNothing) ∧
      ¬SendsExactly none (fun _ => 7) 1 (sockSend .w64 (some true) 1 true (fun _ => 7) 1 takesNothing) := by
  constructor
  · intro hsends
    obtain ⟨client, hclient, hmtu⟩ : ∃ client, sendTarget .w64 1 true (some ()) oneTeeClient = some client ∧
        client.maxMsgLen = 4096 := ⟨_, rfl, rfl⟩
    have hiff := teelibSend_exact_iff .w64 1 true (fun _ => 7) 1 takesNothing (some ()) oneTeeClient
    rw [hclient, Option.map_some, hmtu] at hiff
    exact not_progress_takesNothing _ ((hiff.1 hsends).2 client hclient)
  · intro hsends
    have hprogress := (sockSend_exact_iff .w64 1 true (fun _ => 7) 1 takesNothing (some true)).1 hsends
    exact not_progress_takesNothing _ (hprogress.2 (by decide)).1

end DalHost

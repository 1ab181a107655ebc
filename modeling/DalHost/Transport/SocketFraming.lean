import DalHost.Transport.Sockets

/-!
# Framing on the socket

However the kernel splits the two streams, the server hands the request to `processCommand` once and as
a whole, and the client returns the response as a whole; where a stream breaks off, nothing is handed on.
Invariants say how far each side has come in its two loops (`ClientOk`, `ServerOk`), and the streams
are prefixes of the two frames. There is one exception: a response of exactly the size limit, which the
server sends and the client refuses.
-/

namespace DalHost

open Relation (ReflTransGen)

/-! ### Sizes -/

theorem sizeOfBytes_le32 (x : UInt32) : sizeOfBytes (le32 x) = x := by
  unfold sizeOfBytes le32
  rw [ofLe_leBytes, Nat.mod_eq_of_lt (by simpa using x.toNat_lt), UInt32.ofNat_toNat]

theorem le32_sizeOfBytes {buffer : Bytes} (h : buffer.length = 4) : le32 (sizeOfBytes buffer) = buffer := by
  have hlt := ofLe_lt buffer
  rw [h] at hlt
  unfold sizeOfBytes le32
  rw [UInt32.toNat_ofNat', Nat.mod_eq_of_lt (by omega), ← h]
  exact leBytes_ofLe buffer

theorem length_frame (bytes : Bytes) : (frame bytes).length = 4 + bytes.length := by
  rw [frame, List.length_append, length_le32]

theorem toNat_length {bytes : Bytes} (h : bytes.length ≤ jhiMaxTransportDataSize) :
    (UInt32.ofNat bytes.length).toNat = bytes.length := by
  unfold jhiMaxTransportDataSize at h
  exact UInt32.toNat_ofNat_of_lt' (by omega : _ < 2 ^ 32)

theorem eq_of_append_take_frame {bytes size rest : Bytes} (hsize : size.length = 4) (h : size ++ rest <+: frame bytes) :
    size = le32 (UInt32.ofNat bytes.length) ∧ rest <+: bytes := by
  obtain ⟨tail, htail⟩ := h
  unfold frame at htail
  rw [List.append_assoc] at htail
  have hinj := List.append_inj htail (by rw [hsize, length_le32])
  exact ⟨hinj.1, tail, hinj.2⟩

/-! ### Both sides -/

/-- Where the client is, and what it has written and read. -/
def ClientOk (input : Bytes) (written read : Bytes) : ClientPc → Prop
  | .sendSize sent => sent < 4 ∧ written = (le32 (UInt32.ofNat input.length)).take sent ∧ read = []
  | .sendBody sent => sent < input.length ∧ written = le32 (UInt32.ofNat input.length) ++ input.take sent ∧ read = []
  | .recvSize buffer => buffer.length < 4 ∧ written = frame input ∧ read = buffer
  | .recvBody size buffer => buffer.length < size.toNat ∧ written = frame input ∧ read = le32 size ++ buffer ∧
      ClientPc.accepts size = true
  | .returned none => written <+: frame input
  | .returned (some output) => written = frame input ∧ ∃ size : UInt32, size.toNat = output.length ∧
      read = le32 size ++ output ∧ ClientPc.accepts size = true

/-- Where the server is, what it has read and written, and its calls of `processCommand`. -/
def ServerOk (processCommand : Bytes → Bytes) (input : Bytes) (read written : Bytes) (calls : List Bytes) :
    ServerPc → Prop
  | .recvSize buffer => buffer.length < 4 ∧ read = buffer ∧ written = [] ∧ calls = []
  | .recvBody size buffer => buffer.length < size.toNat ∧ read = le32 size ++ buffer ∧ written = [] ∧ calls = []
  | .sendSize output sent => output = processCommand input ∧ sent < 4 ∧ read = frame input ∧ calls = [input] ∧
      written = (le32 (UInt32.ofNat output.length)).take sent
  | .sendBody output sent => output = processCommand input ∧ sent < output.length ∧ read = frame input ∧
      calls = [input] ∧ written = le32 (UInt32.ofNat output.length) ++ output.take sent
  | .closed => calls = [] ∧ written = [] ∨ calls = [input] ∧ read = frame input ∧ written <+: frame (processCommand input)

section Sides

variable {processCommand : Bytes → Bytes} {input written read : Bytes} {calls : List Bytes}

theorem ClientOk.written_frame {pc : ClientPc} (h : ClientOk input written read pc) : written <+: frame input := by
  cases pc with
  | sendSize sent =>
    rw [h.2.1]
    exact (List.take_prefix _ _).trans (List.prefix_append _ _)
  | sendBody sent =>
    rw [h.2.1]
    exact (List.prefix_append_right_inj _).2 (List.take_prefix _ _)
  | recvSize buffer => exact h.2.1 ▸ List.prefix_rfl
  | recvBody size buffer => exact h.2.1 ▸ List.prefix_rfl
  | returned output =>
    cases output with
    | none => exact h
    | some output => exact h.1 ▸ List.prefix_rfl

theorem ServerOk.written_frame {pc : ServerPc} (h : ServerOk processCommand input read written calls pc) :
    written <+: frame (processCommand input) := by
  cases pc with
  | recvSize buffer => exact h.2.2.1 ▸ List.nil_prefix
  | recvBody size buffer => exact h.2.2.1 ▸ List.nil_prefix
  | sendSize output sent =>
    obtain ⟨rfl, -, -, -, rfl⟩ := h
    exact (List.take_prefix _ _).trans (List.prefix_append _ _)
  | sendBody output sent =>
    obtain ⟨rfl, -, -, -, rfl⟩ := h
    exact (List.prefix_append_right_inj _).2 (List.take_prefix _ _)
  | closed =>
    rcases h with ⟨-, rfl⟩ | ⟨-, -, h⟩
    · exact List.nil_prefix
    · exact h

theorem ClientOk.sent {pc : ClientPc} (h : ClientOk input written read pc) {k : Nat} (hpos : 1 ≤ k)
    (hle : k ≤ (pc.toSend input).length) (hne : input ≠ []) :
    ClientOk input (written ++ (pc.toSend input).take k) read (pc.sent input k) := by
  have hlen := List.length_pos_iff.2 hne
  cases pc with
  | sendSize sent =>
    obtain ⟨hlt, rfl, rfl⟩ := h
    simp only [ClientPc.toSend] at hle ⊢
    rw [List.length_drop, length_le32] at hle
    have htake : (le32 (UInt32.ofNat input.length)).take sent ++ ((le32 (UInt32.ofNat input.length)).drop sent).take k =
        (le32 (UInt32.ofNat input.length)).take (sent + k) := List.take_add.symm
    rw [htake]
    simp only [ClientPc.sent]
    split_ifs with hdone
    · refine ⟨hlen, ?_, rfl⟩
      rw [hdone, List.take_zero, List.append_nil, List.take_of_length_le (by simp)]
    · exact ⟨by omega, rfl, rfl⟩
  | sendBody sent =>
    obtain ⟨hlt, rfl, rfl⟩ := h
    simp only [ClientPc.toSend] at hle ⊢
    rw [List.length_drop] at hle
    rw [List.append_assoc, ← List.take_add]
    simp only [ClientPc.sent]
    split_ifs with hdone
    · refine ⟨by simp, ?_, rfl⟩
      rw [hdone, List.take_length]
      rfl
    · exact ⟨by omega, rfl, rfl⟩
  | recvSize buffer | recvBody size buffer | returned output =>
    simp only [ClientPc.toSend, List.length_nil] at hle
    omega

theorem ClientOk.got {pc : ClientPc} (h : ClientOk input written read pc) {chunk : Bytes} (hpos : 1 ≤ chunk.length)
    (hle : chunk.length ≤ pc.toRecv) : ClientOk input written (read ++ chunk) (pc.got chunk) := by
  cases pc with
  | recvSize buffer =>
    obtain ⟨hlt, rfl, rfl⟩ := h
    simp only [ClientPc.toRecv] at hle
    simp only [ClientPc.got]
    split_ifs with hdone hok
    · -- the size is complete
      have hsize := le32_sizeOfBytes hdone
      refine ⟨?_, rfl, ?_, hok⟩
      · unfold ClientPc.accepts at hok
        simp only [decide_eq_true_eq] at hok
        unfold sizeofJhiResponse at hok
        rw [List.length_nil]
        omega
      · rw [hsize, List.append_nil]
    · exact List.prefix_rfl
    · refine ⟨?_, rfl, rfl⟩
      rw [List.length_append] at hdone ⊢
      omega
  | recvBody size buffer =>
    obtain ⟨hlt, rfl, rfl, hok⟩ := h
    simp only [ClientPc.toRecv] at hle
    simp only [ClientPc.got]
    split_ifs with hdone
    · exact ⟨rfl, size, hdone.symm, by rw [List.append_assoc], hok⟩
    · refine ⟨?_, rfl, by rw [List.append_assoc], hok⟩
      rw [List.length_append] at hdone ⊢
      omega
  | sendSize sent | sendBody sent | returned output =>
    simp only [ClientPc.toRecv] at hle
    omega

theorem ServerOk.sent {pc : ServerPc} (h : ServerOk processCommand input read written calls pc) {k : Nat}
    (hle : k ≤ pc.toSend.length) :
    ServerOk processCommand input read (written ++ pc.toSend.take k) calls (pc.sent k) := by
  cases pc with
  | sendSize output sent =>
    obtain ⟨rfl, hlt, rfl, rfl, rfl⟩ := h
    simp only [ServerPc.toSend] at hle ⊢
    rw [List.length_drop, length_le32] at hle
    rw [← List.take_add]
    simp only [ServerPc.sent]
    split_ifs with hdone hmore
    · refine ⟨rfl, hmore, rfl, rfl, ?_⟩
      rw [hdone, List.take_zero, List.append_nil, List.take_of_length_le (by simp)]
    · refine Or.inr ⟨rfl, rfl, ?_⟩
      exact (List.take_prefix _ _).trans (List.prefix_append _ _)
    · exact ⟨rfl, by omega, rfl, rfl, rfl⟩
  | sendBody output sent =>
    obtain ⟨rfl, hlt, rfl, rfl, rfl⟩ := h
    simp only [ServerPc.toSend] at hle ⊢
    rw [List.length_drop] at hle
    rw [List.append_assoc, ← List.take_add]
    simp only [ServerPc.sent]
    split_ifs with hdone
    · refine Or.inr ⟨rfl, rfl, ?_⟩
      exact (List.prefix_append_right_inj _).2 (List.take_prefix _ _)
    · exact ⟨rfl, by omega, rfl, rfl, rfl⟩
  | recvSize buffer | recvBody size buffer | closed =>
    simp only [ServerPc.toSend, List.take_nil, List.append_nil]
    exact h

theorem ServerOk.got {pc : ServerPc} (h : ServerOk processCommand input read written calls pc) {chunk : Bytes}
    (hpos : 1 ≤ chunk.length) (hle : chunk.length ≤ pc.toRecv) (hread : read ++ chunk <+: frame input)
    (hmax : input.length ≤ jhiMaxTransportDataSize) :
    ServerOk processCommand input (read ++ chunk) written (calls ++ pc.handed chunk) (pc.got processCommand chunk) := by
  cases pc with
  | recvSize buffer =>
    obtain ⟨hlt, rfl, rfl, rfl⟩ := h
    simp only [ServerPc.toRecv] at hle
    simp only [ServerPc.got, ServerPc.handed, List.append_nil]
    split_ifs with hdone hok
    · have hsize := le32_sizeOfBytes hdone
      refine ⟨?_, ?_, rfl, rfl⟩
      · unfold ServerPc.accepts sizeofJhiCommand at hok
        simp only [decide_eq_true_eq] at hok
        rw [List.length_nil]
        omega
      · rw [hsize, List.append_nil]
    · exact Or.inl ⟨rfl, rfl⟩
    · refine ⟨?_, rfl, rfl, rfl⟩
      rw [List.length_append] at hdone ⊢
      omega
  | recvBody size buffer =>
    obtain ⟨hlt, rfl, rfl, rfl⟩ := h
    simp only [ServerPc.toRecv] at hle
    simp only [ServerPc.got, ServerPc.handed, List.nil_append]
    rw [List.append_assoc] at hread ⊢
    split_ifs with hdone
    · -- all of the body is there
      obtain ⟨hsize, hbody⟩ := eq_of_append_take_frame (length_le32 size) hread
      have hsize' : size.toNat = input.length := by
        rw [← sizeOfBytes_le32 size, hsize, sizeOfBytes_le32, toNat_length hmax]
      have hinput : buffer ++ chunk = input := hbody.eq_of_length (hdone.trans hsize')
      rw [hinput]
      exact ⟨rfl, by omega, by rw [hsize]; rfl, rfl, rfl⟩
    · refine ⟨?_, rfl, rfl, rfl⟩
      rw [List.length_append] at hdone ⊢
      omega
  | sendSize output sent | sendBody output sent | closed =>
    simp only [ServerPc.toRecv] at hle
    omega

/-! ### What the places say -/

theorem ClientOk.of_send {pc : ClientPc} (h : ClientOk input written read pc) (hsend : pc.toSend input ≠ []) :
    written.length < (frame input).length := by
  rw [length_frame]
  cases pc with
  | sendSize sent =>
    obtain ⟨hlt, rfl, rfl⟩ := h
    rw [List.length_take, length_le32]
    omega
  | sendBody sent =>
    obtain ⟨hlt, rfl, rfl⟩ := h
    rw [List.length_append, length_le32, List.length_take]
    omega
  | recvSize buffer | recvBody size buffer | returned output => exact absurd rfl hsend

theorem ClientOk.of_recv {pc : ClientPc} (h : ClientOk input written read pc) (hrecv : 1 ≤ pc.toRecv) :
    written = frame input := by
  cases pc with
  | recvSize buffer => exact h.2.1
  | recvBody size buffer => exact h.2.1
  | sendSize sent | sendBody sent | returned output =>
    simp only [ClientPc.toRecv] at hrecv
    omega

theorem ClientOk.not_whole {pc : ClientPc} (h : ClientOk input written read pc) (hrecv : 1 ≤ pc.toRecv) {output : Bytes}
    (hmax : output.length ≤ jhiMaxTransportDataSize) : read ≠ frame output := by
  intro hwhole
  cases pc with
  | recvSize buffer =>
    obtain ⟨hlt, -, rfl⟩ := h
    rw [hwhole, length_frame] at hlt
    omega
  | recvBody size buffer =>
    obtain ⟨hlt, -, rfl, -⟩ := h
    have hinj := List.append_inj hwhole (by rw [length_le32, length_le32])
    have hsize : size.toNat = output.length := by
      rw [← sizeOfBytes_le32 size, hinj.1, sizeOfBytes_le32, toNat_length hmax]
    rw [hinj.2] at hlt
    omega
  | sendSize sent | sendBody sent | returned output =>
    simp only [ClientPc.toRecv] at hrecv
    omega

theorem ClientOk.returned_some {output response : Bytes} (h : ClientOk input written read (.returned (some output)))
    (hread : read <+: frame response) (hmax : response.length ≤ jhiMaxTransportDataSize) :
    output = response ∧ read = frame response ∧ response.length < jhiMaxTransportDataSize := by
  obtain ⟨-, size, hsize, rfl, hok⟩ := h
  obtain ⟨hsize', hbody⟩ := eq_of_append_take_frame (length_le32 size) hread
  have hlen : size.toNat = response.length := by
    rw [← sizeOfBytes_le32 size, hsize', sizeOfBytes_le32, toNat_length hmax]
  have heq : output = response := hbody.eq_of_length (hsize.symm.trans hlen)
  unfold ClientPc.accepts at hok
  simp only [decide_eq_true_eq] at hok
  refine ⟨heq, ?_, by omega⟩
  rw [hsize', heq]
  rfl

theorem ServerOk.calls_cases {pc : ServerPc} (h : ServerOk processCommand input read written calls pc) :
    calls = [] ∧ written = [] ∨ calls = [input] ∧ read = frame input := by
  cases pc with
  | recvSize buffer => exact Or.inl ⟨h.2.2.2, h.2.2.1⟩
  | recvBody size buffer => exact Or.inl ⟨h.2.2.2, h.2.2.1⟩
  | sendSize output sent => exact Or.inr ⟨h.2.2.2.1, h.2.2.1⟩
  | sendBody output sent => exact Or.inr ⟨h.2.2.2.1, h.2.2.1⟩
  | closed =>
    rcases h with h | ⟨hcalls, hread, -⟩
    · exact Or.inl h
    · exact Or.inr ⟨hcalls, hread⟩

theorem ServerOk.of_recv {pc : ServerPc} (h : ServerOk processCommand input read written calls pc) (hrecv : 1 ≤ pc.toRecv) :
    calls = [] ∧ written = [] := by
  cases pc with
  | recvSize buffer => exact ⟨h.2.2.2, h.2.2.1⟩
  | recvBody size buffer => exact ⟨h.2.2.2, h.2.2.1⟩
  | sendSize output sent | sendBody output sent | closed =>
    simp only [ServerPc.toRecv] at hrecv
    omega

theorem ServerOk.of_send {pc : ServerPc} (h : ServerOk processCommand input read written calls pc) (hsend : pc.toSend ≠ []) :
    calls = [input] ∧ read = frame input ∧ written.length < (frame (processCommand input)).length := by
  rw [length_frame]
  cases pc with
  | sendSize output sent =>
    obtain ⟨rfl, hlt, hread, hcalls, rfl⟩ := h
    refine ⟨hcalls, hread, ?_⟩
    rw [List.length_take, length_le32]
    omega
  | sendBody output sent =>
    obtain ⟨rfl, hlt, hread, hcalls, rfl⟩ := h
    refine ⟨hcalls, hread, ?_⟩
    rw [List.length_append, length_le32, List.length_take]
    omega
  | recvSize buffer | recvBody size buffer | closed => exact absurd rfl hsend

end Sides

/-! ### The connection -/

/-- A request of a size that both sides allow. -/
def FitsRequest (input : Bytes) : Prop := sizeofJhiCommand ≤ input.length ∧ input.length ≤ jhiMaxTransportDataSize

/-- A response up to the limit. -/
def FitsResponse (output : Bytes) : Prop := sizeofJhiResponse ≤ output.length ∧ output.length ≤ jhiMaxTransportDataSize

instance (input : Bytes) : Decidable (FitsRequest input) := inferInstanceAs (Decidable (_ ∧ _))
instance (output : Bytes) : Decidable (FitsResponse output) := inferInstanceAs (Decidable (_ ∧ _))

/-- How an unbroken connection ends. -/
structure Unbroken (processCommand : Bytes → Bytes) (input : Bytes) (s : SocketState) : Prop where
  server : s.server = .closed →
    s.calls = [input] ∧ (s.down.written = frame (processCommand input) ∨ s.client = .returned none)
  client : s.client = .returned none → s.calls = [input] ∧ jhiMaxTransportDataSize ≤ (processCommand input).length

structure SocketInv (processCommand : Bytes → Bytes) (input : Bytes) (s : SocketState) : Prop where
  up : s.up.Sound
  down : s.down.Sound
  client : ClientOk input s.up.written s.down.read s.client
  server : ServerOk processCommand input s.up.read s.down.written s.calls s.server
  upLost : s.up.broken = true → (s.up.read ++ s.up.inFlight).length < (frame input).length
  downLost : s.down.broken = true → (s.down.read ++ s.down.inFlight).length < (frame (processCommand input)).length
  unbroken : s.up.broken = false → s.down.broken = false → Unbroken processCommand input s

section Inv

variable {processCommand : Bytes → Bytes} {input : Bytes} {s t : SocketState}

theorem socketInv_start : SocketInv processCommand input .start where
  up := Pipe.sound_empty
  down := Pipe.sound_empty
  client := ⟨by decide, rfl, rfl⟩
  server := ⟨by decide, rfl, rfl, rfl⟩
  upLost := fun h => absurd h (by decide)
  downLost := fun h => absurd h (by decide)
  unbroken := fun _ _ => ⟨fun h => absurd h (by simp [SocketState.start]), fun h => absurd h (by simp [SocketState.start])⟩

theorem SocketInv.upRead (h : SocketInv processCommand input s) : s.up.read <+: frame input :=
  h.up.read_arrived.trans h.client.written_frame

theorem SocketInv.downRead (h : SocketInv processCommand input s) : s.down.read <+: frame (processCommand input) :=
  h.down.read_arrived.trans h.server.written_frame

theorem SocketInv.not_sending (h : SocketInv processCommand input s) (hcalls : s.calls = [input]) :
    s.client.toSend input = [] := by
  by_contra hsend
  rcases h.server.calls_cases with ⟨hnone, -⟩ | ⟨-, hread⟩
  · rw [hnone] at hcalls
    cases hcalls
  · have hlt := h.client.of_send hsend
    have hle := h.up.read_arrived.length_le
    rw [hread] at hle
    omega

theorem SocketInv.not_closed (h : SocketInv processCommand input s) (hup : s.up.broken = false) (hdown : s.down.broken = false)
    (hmax : (processCommand input).length ≤ jhiMaxTransportDataSize) (hrecv : 1 ≤ s.client.toRecv)
    (hempty : s.down.inFlight = []) : s.server ≠ .closed := by
  intro hclosed
  rcases ((h.unbroken hup hdown).server hclosed).2 with hwritten | hclient
  · have hread := h.down.whole hdown
    rw [hempty, List.append_nil, hwritten] at hread
    exact h.client.not_whole hrecv hmax hread
  · rw [hclient] at hrecv
    simp only [ClientPc.toRecv] at hrecv
    omega

theorem socketInv_clientSend (h : SocketInv processCommand input s) (hne : input ≠ []) {k : Nat} (hpos : 1 ≤ k)
    (hle : k ≤ (s.client.toSend input).length) : SocketInv processCommand input
      { s with client := s.client.sent input k, up := s.up.write ((s.client.toSend input).take k) } := by
  have hsend : s.client.toSend input ≠ [] := by
    intro hnil
    rw [hnil, List.length_nil] at hle
    omega
  refine ⟨h.up.write _, h.down, h.client.sent hpos hle hne, h.server, fun hb => ?_, h.downLost, fun hb hb' => ⟨?_, ?_⟩⟩
  · have hbroken : s.up.broken = true := hb
    simp only [Pipe.write, hbroken, if_true]
    exact h.upLost hbroken
  · intro hclosed
    have hcalls := ((h.unbroken hb hb').server hclosed).1
    exact absurd (h.not_sending hcalls) hsend
  · intro hreturned
    dsimp only at hreturned
    cases hpc : s.client with
    | sendSize sent =>
      rw [hpc] at hreturned
      simp only [ClientPc.sent] at hreturned
      split_ifs at hreturned
    | sendBody sent =>
      rw [hpc] at hreturned
      simp only [ClientPc.sent] at hreturned
      split_ifs at hreturned
    | recvSize buffer | recvBody size buffer | returned output =>
      rw [hpc] at hsend
      exact absurd rfl hsend

theorem socketInv_clientRecv (h : SocketInv processCommand input s) (hout : FitsResponse (processCommand input)) {k : Nat}
    (hpos : 1 ≤ k) (hle : k ≤ s.client.toRecv) (havail : k ≤ s.down.inFlight.length) : SocketInv processCommand input
      { s with client := s.client.got (s.down.inFlight.take k), down := s.down.take k } := by
  have hlen : (s.down.inFlight.take k).length = k := by rw [List.length_take, Nat.min_eq_left havail]
  have hread : (s.down.take k).read <+: frame (processCommand input) :=
    (h.down.take k).read_arrived.trans h.server.written_frame
  refine ⟨h.up, h.down.take k, h.client.got (by omega) (by omega), h.server, h.upLost, fun hb => ?_,
    fun hb hb' => ⟨fun hclosed => ?_, fun hreturned => ?_⟩⟩
  · rw [Pipe.arrived_take]
    exact h.downLost hb
  · obtain ⟨hcalls, hend⟩ := (h.unbroken hb hb').server hclosed
    refine ⟨hcalls, ?_⟩
    rcases hend with hwritten | hclient
    · exact Or.inl hwritten
    · rw [hclient] at hle
      simp only [ClientPc.toRecv] at hle
      omega
  · dsimp only at hreturned
    have hwritten : s.down.written ≠ [] := by
      intro hnil
      have hnothing := h.down.arrived
      rw [hnil, List.prefix_nil, List.append_eq_nil_iff] at hnothing
      rw [hnothing.2, List.length_nil] at havail
      omega
    have hcalls : s.calls = [input] := by
      rcases h.server.calls_cases with ⟨-, hnil⟩ | ⟨hcalls, -⟩
      · exact absurd hnil hwritten
      · exact hcalls
    refine ⟨hcalls, ?_⟩
    cases hpc : s.client with
    | recvSize buffer =>
      rw [hpc] at hreturned
      simp only [ClientPc.got] at hreturned
      split_ifs at hreturned with hdone hok
      -- the size that the client refuses is the size of the response
      have hbuffer : s.down.read = buffer := by
        have hclient := h.client
        rw [hpc] at hclient
        exact hclient.2.2
      have hread' : buffer ++ s.down.inFlight.take k ++ [] <+: frame (processCommand input) := by
        rw [List.append_nil, ← hbuffer]
        exact hread
      have hsize := (eq_of_append_take_frame hdone hread').1
      rw [hsize, sizeOfBytes_le32] at hok
      unfold ClientPc.accepts at hok
      rw [toNat_length hout.2] at hok
      simp only [decide_eq_true_eq, not_and, not_lt] at hok
      exact hok hout.1
    | recvBody size buffer =>
      rw [hpc] at hreturned
      simp only [ClientPc.got] at hreturned
      split_ifs at hreturned
      cases hreturned
    | sendSize sent | sendBody sent | returned output =>
      rw [hpc] at hle
      simp only [ClientPc.toRecv] at hle
      omega

theorem socketInv_serverSend (h : SocketInv processCommand input s) (hout : FitsResponse (processCommand input)) {k : Nat}
    (hpos : 1 ≤ k) (hle : k ≤ s.server.toSend.length) : SocketInv processCommand input
      { s with server := s.server.sent k, down := s.down.write (s.server.toSend.take k) } := by
  have hsend : s.server.toSend ≠ [] := by
    intro hnil
    rw [hnil, List.length_nil] at hle
    omega
  have hcalls := (h.server.of_send hsend).1
  refine ⟨h.up, h.down.write _, h.client, h.server.sent hle, h.upLost, fun hb => ?_, fun hb hb' => ⟨?_, ?_⟩⟩
  · have hbroken : s.down.broken = true := hb
    simp only [Pipe.write, hbroken, if_true]
    exact h.downLost hbroken
  · intro hclosed
    refine ⟨hcalls, Or.inl ?_⟩
    dsimp only at hclosed ⊢
    have hserver := h.server
    cases hpc : s.server with
    | sendSize output sent =>
      rw [hpc] at hclosed hserver
      simp only [ServerPc.sent] at hclosed
      split_ifs at hclosed with hdone hempty
      -- a response is not empty
      obtain ⟨rfl, -⟩ := hserver
      have hlen := hout.1
      unfold sizeofJhiResponse at hlen
      omega
    | sendBody output sent =>
      rw [hpc] at hclosed hserver
      simp only [ServerPc.sent] at hclosed
      split_ifs at hclosed with hdone
      obtain ⟨rfl, -, -, -, hwritten⟩ := hserver
      simp only [Pipe.write, ServerPc.toSend]
      rw [hwritten, List.append_assoc, ← List.take_add, hdone, List.take_length]
      rfl
    | recvSize buffer | recvBody size buffer | closed =>
      rw [hpc] at hsend
      exact absurd rfl hsend
  · exact (h.unbroken hb hb').client

theorem socketInv_serverRecv (h : SocketInv processCommand input s) (hin : FitsRequest input) {k : Nat} (hpos : 1 ≤ k)
    (hle : k ≤ s.server.toRecv) (havail : k ≤ s.up.inFlight.length) : SocketInv processCommand input
      { s with
        server := s.server.got processCommand (s.up.inFlight.take k)
        up := s.up.take k
        calls := s.calls ++ s.server.handed (s.up.inFlight.take k) } := by
  have hlen : (s.up.inFlight.take k).length = k := by rw [List.length_take, Nat.min_eq_left havail]
  have hread : s.up.read ++ s.up.inFlight.take k <+: frame input :=
    (h.up.take k).read_arrived.trans h.client.written_frame
  have hnone := (h.server.of_recv (by omega)).1
  refine ⟨h.up.take k, h.down, h.client, h.server.got (by omega) (by omega) hread hin.2, fun hb => ?_, h.downLost,
    fun hb hb' => ⟨fun hclosed => ?_, fun hreturned => ?_⟩⟩
  · rw [Pipe.arrived_take]
    exact h.upLost hb
  · -- the size is that of the request, which the server takes
    exfalso
    dsimp only at hclosed
    have hserver := h.server
    cases hpc : s.server with
    | recvSize buffer =>
      rw [hpc] at hclosed hserver
      simp only [ServerPc.got] at hclosed
      split_ifs at hclosed with hdone hok
      have hread' : buffer ++ s.up.inFlight.take k ++ [] <+: frame input := by
        rw [List.append_nil, ← hserver.2.1]
        exact hread
      have hsize := (eq_of_append_take_frame hdone hread').1
      rw [hsize, sizeOfBytes_le32] at hok
      unfold ServerPc.accepts at hok
      rw [toNat_length hin.2] at hok
      simp only [decide_eq_true_eq] at hok
      exact hok hin
    | recvBody size buffer =>
      rw [hpc] at hclosed
      simp only [ServerPc.got] at hclosed
      split_ifs at hclosed
    | sendSize output sent | sendBody output sent | closed =>
      rw [hpc] at hle
      simp only [ServerPc.toRecv] at hle
      omega
  · have hcalls := ((h.unbroken hb hb').client hreturned).1
    rw [hnone] at hcalls
    cases hcalls

/-- Every step keeps the invariant. -/
theorem socketInv_step (hin : FitsRequest input) (hout : FitsResponse (processCommand input))
    (hst : SocketStep processCommand input s t) (h : SocketInv processCommand input s) : SocketInv processCommand input t := by
  have hne : input ≠ [] := by
    intro hnil
    rw [hnil] at hin
    exact absurd hin.1 (by decide)
  cases hst with
  | clientSend k hpos hle => exact socketInv_clientSend h hne hpos hle
  | clientRecv k hpos hle havail => exact socketInv_clientRecv h hout hpos hle havail
  | serverSend k hpos hle => exact socketInv_serverSend h hout hpos hle
  | serverRecv k hpos hle havail => exact socketInv_serverRecv h hin hpos hle havail
  | clientSendFails hsend hbad =>
    refine ⟨h.up, h.down, h.client.written_frame, h.server, h.upLost, h.downLost, fun hb hb' => ?_⟩
    exfalso
    rcases hbad with hbad | hclosed
    · exact absurd (hb.symm.trans hbad) (by decide)
    · exact hsend (h.not_sending ((h.unbroken hb hb').server hclosed).1)
  | clientRecvFails hrecv hempty hbad =>
    refine ⟨h.up, h.down, h.client.written_frame, h.server, h.upLost, h.downLost, fun hb hb' => ?_⟩
    exfalso
    rcases hbad with hbad | hclosed
    · exact absurd (hb'.symm.trans hbad) (by decide)
    · exact h.not_closed hb hb' hout.2 hrecv hempty hclosed
  | serverSendFails hsend hbad =>
    obtain ⟨hcalls, hread, hlt⟩ := h.server.of_send hsend
    refine ⟨h.up, h.down, h.client, Or.inr ⟨hcalls, hread, h.server.written_frame⟩, h.upLost, h.downLost,
      fun hb hb' => ⟨fun _ => ⟨hcalls, Or.inr ?_⟩, (h.unbroken hb hb').client⟩⟩
    rcases hbad with hbad | hreturned
    · exact absurd (hb'.symm.trans hbad) (by decide)
    · -- a client with a result has read everything
      cases hpc : s.client with
      | returned output =>
        cases output with
        | none => rfl
        | some output =>
          have hclient := h.client
          rw [hpc] at hclient
          have hwhole := (hclient.returned_some h.downRead hout.2).2.1
          have hle := h.down.read_arrived.length_le
          rw [hwhole] at hle
          omega
      | sendSize sent | sendBody sent | recvSize buffer | recvBody size buffer =>
        rw [hpc] at hreturned
        cases hreturned
  | serverRecvFails hrecv hempty hbad =>
    obtain ⟨hcalls, hwritten⟩ := h.server.of_recv hrecv
    refine ⟨h.up, h.down, h.client, Or.inl ⟨hcalls, hwritten⟩, h.upLost, h.downLost, fun hb hb' => ?_⟩
    exfalso
    rcases hbad with hbad | hreturned
    · exact absurd (hb.symm.trans hbad) (by decide)
    · cases hpc : s.client with
      | returned output =>
        cases output with
        | none =>
          have hcalls' := ((h.unbroken hb hb').client hpc).1
          rw [hcalls] at hcalls'
          cases hcalls'
        | some output =>
          have hclient := h.client
          rw [hpc] at hclient
          have hwhole := (hclient.returned_some h.downRead hout.2).2.1
          have hle := h.down.read_arrived.length_le
          rw [hwhole, hwritten, length_frame, List.length_nil] at hle
          omega
      | sendSize sent | sendBody sent | recvSize buffer | recvBody size buffer =>
        rw [hpc] at hreturned
        cases hreturned
  | breakUp k hopen hwhole hlost =>
    exact ⟨h.up.sever k, h.down, h.client, h.server, fun _ => hlost, h.downLost, fun hb _ => absurd hb (by simp [Pipe.sever])⟩
  | breakDown k hopen hwhole hlost =>
    exact ⟨h.up, h.down.sever k, h.client, h.server, h.upLost, fun _ => hlost, fun _ hb => absurd hb (by simp [Pipe.sever])⟩

theorem SocketReaches.inv (hin : FitsRequest input) (hout : FitsResponse (processCommand input))
    (hs : SocketReaches processCommand input s) : SocketInv processCommand input s :=
  invariant_of_run (I := SocketInv processCommand input) (fun _ _ hst h => socketInv_step hin hout hst h) hs socketInv_start

/-! ### Progress -/

theorem ServerOk.not_whole {read written : Bytes} {calls : List Bytes} {pc : ServerPc}
    (h : ServerOk processCommand input read written calls pc) (hrecv : 1 ≤ pc.toRecv) (hin : FitsRequest input) :
    read ≠ frame input := by
  intro hwhole
  cases pc with
  | recvSize buffer =>
    obtain ⟨hlt, rfl, -⟩ := h
    rw [hwhole, length_frame] at hlt
    omega
  | recvBody size buffer =>
    obtain ⟨hlt, rfl, -⟩ := h
    have hinj := List.append_inj hwhole (by rw [length_le32, length_le32])
    have hsize : size.toNat = input.length := by
      rw [← sizeOfBytes_le32 size, hinj.1, sizeOfBytes_le32, toNat_length hin.2]
    rw [hinj.2] at hlt
    omega
  | sendSize output sent | sendBody output sent | closed =>
    simp only [ServerPc.toRecv] at hrecv
    omega

theorem ClientOk.place {written read : Bytes} {pc : ClientPc} (h : ClientOk input written read pc) :
    1 ≤ (pc.toSend input).length ∨ 1 ≤ pc.toRecv ∨ ∃ output, pc = .returned output := by
  cases pc with
  | sendSize sent =>
    left
    have hlt := h.1
    simp only [ClientPc.toSend, List.length_drop, length_le32]
    omega
  | sendBody sent =>
    left
    have hlt := h.1
    simp only [ClientPc.toSend, List.length_drop]
    omega
  | recvSize buffer =>
    have hlt := h.1
    simp only [ClientPc.toRecv]
    omega
  | recvBody size buffer =>
    have hlt := h.1
    simp only [ClientPc.toRecv]
    omega
  | returned output => exact Or.inr (Or.inr ⟨output, rfl⟩)

theorem ServerOk.place {read written : Bytes} {calls : List Bytes} {pc : ServerPc}
    (h : ServerOk processCommand input read written calls pc) : 1 ≤ pc.toSend.length ∨ 1 ≤ pc.toRecv ∨ pc = .closed := by
  cases pc with
  | recvSize buffer =>
    have hlt := h.1
    simp only [ServerPc.toRecv]
    omega
  | recvBody size buffer =>
    have hlt := h.1
    simp only [ServerPc.toRecv]
    omega
  | sendSize output sent =>
    left
    have hlt := h.2.1
    simp only [ServerPc.toSend, List.length_drop, length_le32]
    omega
  | sendBody output sent =>
    left
    have hlt := h.2.1
    simp only [ServerPc.toSend, List.length_drop]
    omega
  | closed => exact Or.inr (Or.inr rfl)

/-- A step that breaks nothing. -/
def WholeStep (processCommand : Bytes → Bytes) (input : Bytes) (s t : SocketState) : Prop :=
  SocketStep processCommand input s t ∧ t.up.broken = s.up.broken ∧ t.down.broken = s.down.broken

theorem server_progress (h : SocketInv processCommand input s) (hin : FitsRequest input) (hopen : s.server ≠ .closed)
    (hclient : s.up.written = frame input ∨ s.client.isReturned = true) : ∃ t, WholeStep processCommand input s t := by
  rcases h.server.place with hsend | hrecv | hclosed
  · exact ⟨_, .serverSend s 1 le_rfl hsend, rfl, rfl⟩
  · by_cases hempty : s.up.inFlight = []
    · by_cases hbad : s.up.broken = true ∨ s.client.isReturned = true
      · exact ⟨_, .serverRecvFails s hrecv hempty hbad, rfl, rfl⟩
      · -- everything has arrived, and the server would not wait
        rw [not_or, Bool.not_eq_true] at hbad
        have hread := h.up.whole hbad.1
        rw [hempty, List.append_nil, hclient.resolve_right hbad.2] at hread
        exact absurd hread (h.server.not_whole hrecv hin)
    · have hlen := List.length_pos_iff.2 hempty
      exact ⟨_, .serverRecv s 1 le_rfl hrecv hlen, rfl, rfl⟩
  · exact absurd hclosed hopen

theorem socket_progress (h : SocketInv processCommand input s) (hin : FitsRequest input)
    (hmore : ¬s.Over) : ∃ t, WholeStep processCommand input s t := by
  rcases h.client.place with hsend | hrecv | ⟨output, hreturned⟩
  · exact ⟨_, .clientSend s 1 le_rfl hsend, rfl, rfl⟩
  · by_cases hempty : s.down.inFlight = []
    · by_cases hbad : s.down.broken = true ∨ s.server = .closed
      · exact ⟨_, .clientRecvFails s hrecv hempty hbad, rfl, rfl⟩
      · rw [not_or] at hbad
        exact server_progress h hin hbad.2 (Or.inl (h.client.of_recv hrecv))
    · have hlen := List.length_pos_iff.2 hempty
      exact ⟨_, .clientRecv s 1 le_rfl hrecv hlen, rfl, rfl⟩
  · have hdone : s.client.isReturned = true := by rw [hreturned]; rfl
    exact server_progress h hin (fun hclosed => hmore ⟨hdone, hclosed⟩) (Or.inr hdone)

/-- What is left to do. -/
def work (processCommand : Bytes → Bytes) (input : Bytes) (s : SocketState) : Nat :=
  ((frame input).length - s.up.written.length) + ((frame input).length - s.up.read.length) +
  ((frame (processCommand input)).length - s.down.written.length) +
  ((frame (processCommand input)).length - s.down.read.length) +
  (!s.client.isReturned).toNat + (!s.server.isClosed).toNat + (!s.up.broken).toNat + (!s.down.broken).toNat

theorem ClientPc.not_returned (pc : ClientPc) (input : Bytes) (h : 1 ≤ (pc.toSend input).length ∨ 1 ≤ pc.toRecv) : pc.isReturned = false := by
  cases pc with
  | returned output =>
    simp only [ClientPc.toSend, ClientPc.toRecv, List.length_nil] at h
    omega
  | sendSize sent | sendBody sent | recvSize buffer | recvBody size buffer => rfl

theorem ServerPc.not_closed (pc : ServerPc) (h : 1 ≤ pc.toSend.length ∨ 1 ≤ pc.toRecv) : pc.isClosed = false := by
  cases pc with
  | closed =>
    simp only [ServerPc.toSend, ServerPc.toRecv, List.length_nil] at h
    omega
  | sendSize output sent | sendBody output sent | recvSize buffer | recvBody size buffer => rfl

/-- Every step takes a byte on its way, ends a side or breaks a direction. -/
theorem work_lt (hst : SocketStep processCommand input s t) (ht : SocketInv processCommand input t) :
    work processCommand input t < work processCommand input s := by
  have hup := ht.client.written_frame.length_le
  have hupRead := ht.upRead.length_le
  have hdown := ht.server.written_frame.length_le
  have hdownRead := ht.downRead.length_le
  have hreturned : (ClientPc.returned none).isReturned = true := rfl
  have hclosed : ServerPc.closed.isClosed = true := rfl
  cases hst with
  | clientSend k hpos hle =>
    have hpc := ClientPc.not_returned s.client input (.inl (by omega))
    have hk : ((s.client.toSend input).take k).length = k := by rw [List.length_take, Nat.min_eq_left hle]
    simp only [Pipe.write, List.length_append, hk] at hup
    simp only [work, Pipe.write, List.length_append, hk, hpc]
    have hflag := Bool.toNat_le (!(s.client.sent input k).isReturned)
    simp only [Bool.not_false, Bool.toNat_true]
    omega
  | clientRecv k hpos hle havail =>
    have hpc := ClientPc.not_returned s.client input (.inr (by omega))
    have hk : (s.down.inFlight.take k).length = k := by rw [List.length_take, Nat.min_eq_left havail]
    simp only [Pipe.take, List.length_append, hk] at hdownRead
    simp only [work, Pipe.take, List.length_append, hk, hpc]
    have hflag := Bool.toNat_le (!(s.client.got (s.down.inFlight.take k)).isReturned)
    simp only [Bool.not_false, Bool.toNat_true]
    omega
  | serverSend k hpos hle =>
    have hpc := ServerPc.not_closed s.server (.inl (by omega))
    have hk : (s.server.toSend.take k).length = k := by rw [List.length_take, Nat.min_eq_left hle]
    simp only [Pipe.write, List.length_append, hk] at hdown
    simp only [work, Pipe.write, List.length_append, hk, hpc]
    have hflag := Bool.toNat_le (!(s.server.sent k).isClosed)
    simp only [Bool.not_false, Bool.toNat_true]
    omega
  | serverRecv k hpos hle havail =>
    have hpc := ServerPc.not_closed s.server (.inr (by omega))
    have hk : (s.up.inFlight.take k).length = k := by rw [List.length_take, Nat.min_eq_left havail]
    simp only [Pipe.take, List.length_append, hk] at hupRead
    simp only [work, Pipe.take, List.length_append, hk, hpc]
    have hflag := Bool.toNat_le (!(s.server.got processCommand (s.up.inFlight.take k)).isClosed)
    simp only [Bool.not_false, Bool.toNat_true]
    omega
  | clientSendFails hsend hbad =>
    have hpc := ClientPc.not_returned s.client input (.inl (List.length_pos_iff.2 hsend))
    simp only [work, hpc, hreturned, Bool.not_false, Bool.not_true, Bool.toNat_true, Bool.toNat_false]
    omega
  | clientRecvFails hrecv hempty hbad =>
    have hpc := ClientPc.not_returned s.client input (.inr hrecv)
    simp only [work, hpc, hreturned, Bool.not_false, Bool.not_true, Bool.toNat_true, Bool.toNat_false]
    omega
  | serverSendFails hsend hbad =>
    have hpc := ServerPc.not_closed s.server (.inl (List.length_pos_iff.2 hsend))
    simp only [work, hpc, hclosed, Bool.not_false, Bool.not_true, Bool.toNat_true, Bool.toNat_false]
    omega
  | serverRecvFails hrecv hempty hbad =>
    have hpc := ServerPc.not_closed s.server (.inr hrecv)
    simp only [work, hpc, hclosed, Bool.not_false, Bool.not_true, Bool.toNat_true, Bool.toNat_false]
    omega
  | breakUp k hopen hwhole hlost =>
    simp only [work, Pipe.sever, hwhole, Bool.not_false, Bool.not_true, Bool.toNat_true, Bool.toNat_false]
    omega
  | breakDown k hopen hwhole hlost =>
    simp only [work, Pipe.sever, hwhole, Bool.not_false, Bool.not_true, Bool.toNat_true, Bool.toNat_false]
    omega

end Inv

/-! ### Framing -/

/-- What the framing promises of one request, over everything that can happen to it. -/
structure Framing (processCommand : Bytes → Bytes) (input : Bytes) : Prop where
  once : ∀ s, SocketReaches processCommand input s → s.calls = [] ∨ s.calls = [input]
  requestCut : ∀ s, SocketReaches processCommand input s → s.up.broken = true → s.calls = []
  responseCut : ∀ s, SocketReaches processCommand input s → s.down.broken = true →
    ∀ output, s.client ≠ .returned (some output)
  response : ∀ s output, SocketReaches processCommand input s → s.client = .returned (some output) →
    output = processCommand input
  ends : ∀ f : Nat → SocketState, f 0 = .start → ¬∀ i, SocketStep processCommand input (f i) (f (i + 1))
  ended : ∀ s, SocketReaches processCommand input s → Terminal (SocketStep processCommand input) s →
    s.Over
  complete : ∀ s, SocketReaches processCommand input s → Terminal (SocketStep processCommand input) s →
    s.up.broken = false → s.down.broken = false →
    s.calls = [input] ∧ s.client = .returned (some (processCommand input))

theorem reaches_of_wholeRun {processCommand : Bytes → Bytes} {input : Bytes} {s : SocketState}
    (h : ReflTransGen (WholeStep processCommand input) .start s) : SocketReaches processCommand input s := by
  induction h with
  | refl => exact .refl
  | tail _ hst ih => exact ih.tail hst.1

theorem terminal_of_over {processCommand : Bytes → Bytes} {input : Bytes} {s : SocketState} (h : s.Over) :
    Terminal (SocketStep processCommand input) s := by
  obtain ⟨hreturned, hclosed⟩ := h
  have hsend : (s.client.toSend input).length = 0 := by
    by_contra hne
    exact absurd (ClientPc.not_returned s.client input (.inl (by omega))) (by simp [hreturned])
  have hrecv : s.client.toRecv = 0 := by
    by_contra hne
    exact absurd (ClientPc.not_returned s.client input (.inr (by omega))) (by simp [hreturned])
  intro t hst
  cases hst with
  | clientSend k hpos hle => omega
  | clientSendFails hne hbad => exact hne (List.length_eq_zero_iff.1 hsend)
  | clientRecv k hpos hle havail => omega
  | clientRecvFails hpos hempty hbad => omega
  | serverSend k hpos hle =>
    simp only [hclosed, ServerPc.toSend, List.length_nil] at hle
    omega
  | serverSendFails hne hbad =>
    rw [hclosed] at hne
    exact hne rfl
  | serverRecv k hpos hle havail =>
    simp only [hclosed, ServerPc.toRecv] at hle
    omega
  | serverRecvFails hpos hempty hbad =>
    simp only [hclosed, ServerPc.toRecv] at hpos
    omega
  | breakUp k hopen hwhole hlost => exact hopen ⟨hreturned, hclosed⟩
  | breakDown k hopen hwhole hlost => exact hopen ⟨hreturned, hclosed⟩

section Framing

variable {processCommand : Bytes → Bytes} {input : Bytes} (hin : FitsRequest input)
  (hout : FitsResponse (processCommand input))

include hin hout

theorem terminal_ended {s : SocketState} (hs : SocketReaches processCommand input s)
    (hend : Terminal (SocketStep processCommand input) s) : s.Over := by
  by_contra hmore
  obtain ⟨t, hst, -⟩ := socket_progress (hs.inv hin hout) hin hmore
  exact hend t hst

/-- An unbroken connection can be run to its end. -/
theorem exists_whole_run : ∃ s, SocketReaches processCommand input s ∧ Terminal (SocketStep processCommand input) s ∧
    s.up.broken = false ∧ s.down.broken = false := by
  have hstep : ∀ s t, WholeStep processCommand input s t →
      (SocketInv processCommand input s ∧ s.up.broken = false ∧ s.down.broken = false) →
      SocketInv processCommand input t ∧ t.up.broken = false ∧ t.down.broken = false := by
    rintro s t ⟨hst, hup, hdown⟩ ⟨hinv, hup', hdown'⟩
    exact ⟨socketInv_step hin hout hst hinv, hup.trans hup', hdown.trans hdown'⟩
  obtain ⟨s, hrun, hend⟩ := exists_terminal hstep (work processCommand input)
    (fun s t hst hs => work_lt hst.1 (hstep s t hst hs).1) .start ⟨socketInv_start, rfl, rfl⟩
  obtain ⟨hinv, hup, hdown⟩ := invariant_of_run hstep hrun ⟨socketInv_start, rfl, rfl⟩
  refine ⟨s, reaches_of_wholeRun hrun, ?_, hup, hdown⟩
  have hover : s.Over := by
    by_contra hmore
    obtain ⟨t, hst⟩ := socket_progress hinv hin hmore
    exact hend t hst
  exact terminal_of_over hover

theorem whole_run_ends {s : SocketState} (hs : SocketReaches processCommand input s)
    (hend : Terminal (SocketStep processCommand input) s) (hup : s.up.broken = false) (hdown : s.down.broken = false) :
    s.calls = [input] ∧ (s.client = .returned (some (processCommand input)) ↔
      (processCommand input).length < jhiMaxTransportDataSize) := by
  have hinv := hs.inv hin hout
  obtain ⟨hreturned, hclosed⟩ := terminal_ended hin hout hs hend
  refine ⟨((hinv.unbroken hup hdown).server hclosed).1, ?_⟩
  have hclient := hinv.client
  cases hpc : s.client with
  | returned output =>
    cases output with
    | none =>
      have hmax := ((hinv.unbroken hup hdown).client hpc).2
      constructor
      · intro h
        cases h
      · intro h
        omega
    | some output =>
      rw [hpc] at hclient
      obtain ⟨rfl, -, hlt⟩ := hclient.returned_some hinv.downRead hout.2
      exact iff_of_true rfl hlt
  | sendSize sent | sendBody sent | recvSize buffer | recvBody size buffer =>
    rw [hpc] at hreturned
    cases hreturned

/-- **Framing.** For a request and a response within the limits, all that the framing promises holds, however the
kernel splits the streams and wherever they break, if and only if the response is shorter than the limit. -/
theorem socket_framing_iff : Framing processCommand input ↔
    (processCommand input).length < jhiMaxTransportDataSize := by
  constructor
  · intro h
    obtain ⟨s, hs, hend, hup, hdown⟩ := exists_whole_run hin hout
    exact (whole_run_ends hin hout hs hend hup hdown).2.1 (h.complete s hs hend hup hdown).2
  · intro hlt
    refine ⟨fun s hs => ?_, fun s hs hb => ?_, fun s hs hb output hpc => ?_, fun s output hs hpc => ?_, fun f h0 hrun => ?_,
      fun s hs hend => terminal_ended hin hout hs hend, fun s hs hend hup hdown => ?_⟩
    · rcases (hs.inv hin hout).server.calls_cases with ⟨hcalls, -⟩ | ⟨hcalls, -⟩
      · exact Or.inl hcalls
      · exact Or.inr hcalls
    · have hinv := hs.inv hin hout
      rcases hinv.server.calls_cases with ⟨hcalls, -⟩ | ⟨-, hread⟩
      · exact hcalls
      · have hlost := hinv.upLost hb
        rw [hread, List.length_append] at hlost
        omega
    · have hinv := hs.inv hin hout
      have hclient := hinv.client
      rw [hpc] at hclient
      have hread := (hclient.returned_some hinv.downRead hout.2).2.1
      have hlost := hinv.downLost hb
      rw [hread, List.length_append] at hlost
      omega
    · have hinv := hs.inv hin hout
      have hclient := hinv.client
      rw [hpc] at hclient
      exact (hclient.returned_some hinv.downRead hout.2).1
    · refine no_infinite_run (I := SocketInv processCommand input) (fun _ _ hst h => socketInv_step hin hout hst h)
        (work processCommand input) (fun _ _ hst h => work_lt hst (socketInv_step hin hout hst h)) f ?_ hrun
      rw [h0]
      exact socketInv_start
    · obtain ⟨hcalls, hclient⟩ := whole_run_ends hin hout hs hend hup hdown
      exact ⟨hcalls, hclient.2 hlt⟩

end Framing

/-- The smallest request and the smallest response. -/
theorem socket_framing_iff_smallest : FitsRequest (List.replicate 6 0) ∧ FitsResponse (List.replicate 9 0) ∧
    (Framing (fun _ => List.replicate 9 0) (List.replicate 6 0) ↔ 9 < jhiMaxTransportDataSize) :=
  ⟨by decide, by decide, @socket_framing_iff (fun _ => List.replicate 9 0) (List.replicate 6 0) (by decide) (by decide)⟩

/-- The server sends a response of the size of the limit, and the client refuses it. -/
theorem socket_framing_at_limit : FitsRequest (List.replicate 6 0) ∧
    FitsResponse (List.replicate jhiMaxTransportDataSize 0) ∧
    ¬Framing (fun _ => List.replicate jhiMaxTransportDataSize 0) (List.replicate 6 0) := by
  have hin : FitsRequest (List.replicate 6 0) := by decide
  have hout : FitsResponse (List.replicate jhiMaxTransportDataSize 0) := by
    unfold FitsResponse
    rw [List.length_replicate]
    decide
  refine ⟨hin, hout, fun h => ?_⟩
  obtain ⟨s, hs, hend, hup, hdown⟩ :=
    @exists_whole_run (fun _ => List.replicate jhiMaxTransportDataSize 0) (List.replicate 6 0) hin hout
  have hlt := (@whole_run_ends (fun _ => List.replicate jhiMaxTransportDataSize 0) (List.replicate 6 0) hin hout s hs hend
    hup hdown).2.1 (h.complete s hs hend hup hdown).2
  rw [List.length_replicate] at hlt
  omega

end DalHost

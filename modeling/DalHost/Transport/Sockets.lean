import DalHost.Common.Layout
import DalHost.Lib.Buffer
import DalHost.Lib.Pipe
import DalHost.Lib.Runs

/-!
# Requests and responses over a socket

`CommandsClientSocketsLinux::Invoke` and `ClientSessionThread` with the connection between them. A
place in the code of either side is a loop of `blockedSend` or `blockedRecv` and how far it has come;
one step is one call of `send` or `recv`, for as many bytes as the kernel likes, and the code up to the
next such call. Sizes are at most a few megabytes here, where `int` and `uint32_t` do not differ.
-/

namespace DalHost

/-- The four bytes of a size as they were received. -/
def sizeOfBytes (buffer : Bytes) : UInt32 := UInt32.ofNat (ofLe buffer)

/-- The size and the bytes that follow it. -/
def frame (bytes : Bytes) : Bytes := le32 (UInt32.ofNat bytes.length) ++ bytes

/-- Where `Invoke` is. -/
inductive ClientPc
  | sendSize (bytesSent : Nat)
  | sendBody (bytesSent : Nat)
  | recvSize (buffer : Bytes)
  | recvBody (size : UInt32) (buffer : Bytes)
  /-- `Invoke` has returned, and the caller closes the socket; `none` stands for `false`. -/
  | returned (output : Option Bytes)

/-- Where `ClientSessionThread` is. -/
inductive ServerPc
  | recvSize (buffer : Bytes)
  | recvBody (size : UInt32) (buffer : Bytes)
  | sendSize (output : Bytes) (bytesSent : Nat)
  | sendBody (output : Bytes) (bytesSent : Nat)
  /-- The socket is closed. -/
  | closed

/-! ### The client -/

namespace ClientPc

/-- What the current loop still has to send. -/
def toSend (input : Bytes) : ClientPc → Bytes
  | sendSize bytesSent => (le32 (UInt32.ofNat input.length)).drop bytesSent
  | sendBody bytesSent => input.drop bytesSent
  | _ => []

/-- How many bytes the current loop still waits for. -/
def toRecv : ClientPc → Nat
  | recvSize buffer => 4 - buffer.length
  | recvBody size buffer => size.toNat - buffer.length
  | _ => 0

/-- After `send` took `count` bytes. -/
def sent (input : Bytes) (count : Nat) : ClientPc → ClientPc
  | sendSize bytesSent => if bytesSent + count = 4 then sendBody 0 else sendSize (bytesSent + count)
  | sendBody bytesSent => if bytesSent + count = input.length then recvSize [] else sendBody (bytesSent + count)
  | pc => pc

/-- The client takes responses shorter than the limit. -/
def accepts (size : UInt32) : Bool := sizeofJhiResponse ≤ size.toNat ∧ size.toNat < jhiMaxTransportDataSize

/-- After `recv` brought `chunk`. -/
def got (chunk : Bytes) : ClientPc → ClientPc
  | recvSize buffer =>
    if (buffer ++ chunk).length = 4 then
      if accepts (sizeOfBytes (buffer ++ chunk)) then recvBody (sizeOfBytes (buffer ++ chunk)) [] else returned none
    else recvSize (buffer ++ chunk)
  | recvBody size buffer =>
    if (buffer ++ chunk).length = size.toNat then returned (some (buffer ++ chunk)) else recvBody size (buffer ++ chunk)
  | pc => pc

def isReturned : ClientPc → Bool
  | returned _ => true
  | _ => false

end ClientPc

/-! ### The server -/

namespace ServerPc

def toSend : ServerPc → Bytes
  | sendSize output bytesSent => (le32 (UInt32.ofNat output.length)).drop bytesSent
  | sendBody output bytesSent => output.drop bytesSent
  | _ => []

def toRecv : ServerPc → Nat
  | recvSize buffer => 4 - buffer.length
  | recvBody size buffer => size.toNat - buffer.length
  | _ => 0

def sent (count : Nat) : ServerPc → ServerPc
  | sendSize output bytesSent =>
    if bytesSent + count = 4 then
      if 0 < output.length then sendBody output 0 else closed
    else sendSize output (bytesSent + count)
  | sendBody output bytesSent =>
    if bytesSent + count = output.length then closed else sendBody output (bytesSent + count)
  | pc => pc

/-- The server takes requests up to the limit. -/
def accepts (size : UInt32) : Bool := sizeofJhiCommand ≤ size.toNat ∧ size.toNat ≤ jhiMaxTransportDataSize

/-- After `recv` brought `chunk`; a whole request goes to `processCommand`. -/
def got (processCommand : Bytes → Bytes) (chunk : Bytes) : ServerPc → ServerPc
  | recvSize buffer =>
    if (buffer ++ chunk).length = 4 then
      if accepts (sizeOfBytes (buffer ++ chunk)) then recvBody (sizeOfBytes (buffer ++ chunk)) [] else closed
    else recvSize (buffer ++ chunk)
  | recvBody size buffer =>
    if (buffer ++ chunk).length = size.toNat then sendSize (processCommand (buffer ++ chunk)) 0
    else recvBody size (buffer ++ chunk)
  | pc => pc

def isClosed : ServerPc → Bool
  | closed => true
  | _ => false

/-- The commands that `got` hands to `processCommand`. -/
def handed (chunk : Bytes) : ServerPc → List Bytes
  | recvBody size buffer => if (buffer ++ chunk).length = size.toNat then [buffer ++ chunk] else []
  | _ => []

end ServerPc

/-! ### The connection -/

structure SocketState where
  client : ClientPc
  server : ServerPc
  /-- From the client to the server. -/
  up : Pipe UInt8
  down : Pipe UInt8
  /-- The calls of `processCommand`, with their input. -/
  calls : List Bytes

/-- Both sides have closed the socket. -/
def SocketState.Over (s : SocketState) : Prop := s.client.isReturned = true ∧ s.server = .closed

def SocketState.start : SocketState := ⟨.sendSize 0, .recvSize [], .empty, .empty, []⟩

section Step

variable (processCommand : Bytes → Bytes) (input : Bytes)

/-- One call of `send` or `recv` on one side, or the loss of what is under way in one direction. A call
fails only if its direction is broken or the other side has closed the socket, a `recv` only when there
is nothing left to read. A direction of an open connection breaks before its last byte has arrived. -/
inductive SocketStep : SocketState → SocketState → Prop
  | clientSend (s : SocketState) (k : Nat) (hpos : 1 ≤ k) (hle : k ≤ (s.client.toSend input).length) :
      SocketStep s { s with client := s.client.sent input k, up := s.up.write ((s.client.toSend input).take k) }
  | clientSendFails (s : SocketState) (hsend : s.client.toSend input ≠ [])
      (hbad : s.up.broken = true ∨ s.server = .closed) : SocketStep s { s with client := .returned none }
  | clientRecv (s : SocketState) (k : Nat) (hpos : 1 ≤ k) (hle : k ≤ s.client.toRecv) (havail : k ≤ s.down.inFlight.length) :
      SocketStep s { s with client := s.client.got (s.down.inFlight.take k), down := s.down.take k }
  | clientRecvFails (s : SocketState) (hrecv : 1 ≤ s.client.toRecv) (hempty : s.down.inFlight = [])
      (hbad : s.down.broken = true ∨ s.server = .closed) : SocketStep s { s with client := .returned none }
  | serverSend (s : SocketState) (k : Nat) (hpos : 1 ≤ k) (hle : k ≤ s.server.toSend.length) :
      SocketStep s { s with server := s.server.sent k, down := s.down.write (s.server.toSend.take k) }
  | serverSendFails (s : SocketState) (hsend : s.server.toSend ≠ [])
      (hbad : s.down.broken = true ∨ s.client.isReturned = true) : SocketStep s { s with server := .closed }
  | serverRecv (s : SocketState) (k : Nat) (hpos : 1 ≤ k) (hle : k ≤ s.server.toRecv) (havail : k ≤ s.up.inFlight.length) :
      SocketStep s { s with
        server := s.server.got processCommand (s.up.inFlight.take k)
        up := s.up.take k
        calls := s.calls ++ s.server.handed (s.up.inFlight.take k) }
  | serverRecvFails (s : SocketState) (hrecv : 1 ≤ s.server.toRecv) (hempty : s.up.inFlight = [])
      (hbad : s.up.broken = true ∨ s.client.isReturned = true) : SocketStep s { s with server := .closed }
  | breakUp (s : SocketState) (k : Nat) (hopen : ¬s.Over) (hwhole : s.up.broken = false)
      (hlost : (s.up.read ++ s.up.inFlight.take k).length < (frame input).length) :
      SocketStep s { s with up := s.up.sever k }
  | breakDown (s : SocketState) (k : Nat) (hopen : ¬s.Over) (hwhole : s.down.broken = false)
      (hlost : (s.down.read ++ s.down.inFlight.take k).length < (frame (processCommand input)).length) :
      SocketStep s { s with down := s.down.sever k }

/-- What can happen to one request. -/
def SocketReaches : SocketState → Prop := Relation.ReflTransGen (SocketStep processCommand input) .start

end Step

end DalHost

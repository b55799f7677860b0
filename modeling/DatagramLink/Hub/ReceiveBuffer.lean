import DatagramLink.Hub

/-!
# The receive buffer

A hub receives all datagrams into one buffer.  A receive overwrites the front of it and answers how
many bytes it wrote; behind them lies what earlier, longer datagrams left.  The polls of
`DatagramLink.Hub` go without a buffer: they take each datagram from where it waits.
-/

namespace DatagramLink

/-- The buffer that every datagram is received into. -/
structure ReceiveBuffer where
  bytes : ByteArray
  size_eq : bytes.size = receiveBufferSize

namespace ReceiveBuffer

/-- A buffer that nothing was received into. -/
def blank : ReceiveBuffer :=
  ⟨⟨Array.replicate receiveBufferSize 0⟩, Array.size_replicate⟩

/-- Writes as much of a datagram as there is room for over the front of the buffer. -/
def overwrite (b : ReceiveBuffer) (datagram : ByteArray) : ReceiveBuffer where
  bytes := Hub.received datagram ++ b.bytes.extract (Hub.received datagram).size receiveBufferSize
  size_eq := by
    simp only [Hub.received, ByteArray.size_append, ByteArray.size_extract, b.size_eq]
    omega

/-- The first bytes of the buffer. -/
def front (b : ReceiveBuffer) (length : Nat) : ByteArray := b.bytes.extract 0 length

end ReceiveBuffer

/-- What one receive answers. -/
inductive Reception where
  /-- A datagram came; this many bytes of it are in the buffer. -/
  | datagram (length : Nat) (source : Endpoint)
  /-- Nothing waits. -/
  | nothing
  | failure (reason : String)

/-- Receives what comes next, without waiting for it. -/
def Socket.receive (s : Socket) (b : ReceiveBuffer) : Reception × Socket × ReceiveBuffer :=
  match s.inbound with
  | [] => (.nothing, s, b)
  | .failure reason :: rest => (.failure reason, { s with inbound := rest }, b)
  | .datagram bytes source :: rest =>
    (.datagram (min bytes.size receiveBufferSize) source, { s with inbound := rest },
      b.overwrite bytes)

/-- Whatever comes is gone from the queue. -/
theorem Socket.length_receive {s rest : Socket} {b filled : ReceiveBuffer} {length : Nat}
    {source : Endpoint} (h : s.receive b = (.datagram length source, rest, filled)) :
    rest.inbound.length < s.inbound.length := by
  unfold receive at h
  split at h
  · cases h
  · cases h
  · next bytes source' later hinbound =>
    cases h
    rw [hinbound]
    exact Nat.lt_succ_self _

namespace Hub

/-- Receives into the buffer until a datagram leaves room in it, or none comes. -/
def receiveInto (h : Hub) (side : Side) (b : ReceiveBuffer) : Poll × Hub × ReceiveBuffer :=
  match _hreceive : h.socket.receive b with
  | (.nothing, socket, b) => (⟨none, []⟩, { h with socket }, b)
  | (.failure reason, socket, b) =>
    (⟨none, [.warn s!"Failed to receive packet: {reason}"]⟩, { h with socket }, b)
  | (.datagram length source, socket, b) =>
    if receiveBufferSize ≤ length then
      match receiveInto { h with socket } side b with
      | (poll, h, b) =>
        ({ poll with records := .warn s!"Oversize packet from {source}" :: poll.records }, h, b)
    else
      (⟨some (.remote source, b.front length),
          receivedRecords h.settings side (b.front length) source⟩,
        { h with socket }, b)
termination_by h.socket.inbound.length
decreasing_by exact Socket.length_receive _hreceive

/-- Takes the next datagram for a side: from its ring, else through the buffer. -/
def pollInto (h : Hub) (side : Side) (b : ReceiveBuffer) : Poll × Hub × ReceiveBuffer :=
  match h.pollRing side with
  | (some bytes, h) => (⟨some (.loopback, bytes), []⟩, h, b)
  | (none, h) => h.receiveInto side b

/-- Polls a number of times, with the same buffer. -/
def pollsInto (h : Hub) (side : Side) (b : ReceiveBuffer) : Nat → List Poll × Hub × ReceiveBuffer
  | 0 => ([], h, b)
  | count + 1 =>
    match h.pollInto side b with
    | (poll, h, b) =>
      match h.pollsInto side b count with
      | (polls, h, b) => (poll :: polls, h, b)

/-- Polls a number of times. -/
def polls (h : Hub) (side : Side) : Nat → List Poll × Hub
  | 0 => ([], h)
  | count + 1 =>
    match h.poll side with
    | (poll, h) =>
      match h.polls side count with
      | (polls, h) => (poll :: polls, h)

end Hub
end DatagramLink

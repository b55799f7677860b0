import DatagramLink.Address
import DatagramLink.Bytes

/-!
# Delay line

Simulated latency: datagrams wait until their release time.  What is due leaves in the order in
which it was queued, and what is not due keeps its order, so a datagram with a longer delay is
overtaken by its successors.
-/

namespace DatagramLink

/-- A point in time, in nanoseconds. -/
abbrev Instant := Int

/-- The nanoseconds in a number of milliseconds. -/
def milliseconds (count : Nat) : Nat := count * 1000000

/-- The nanoseconds in a number of seconds. -/
def seconds (count : Nat) : Nat := count * 1000000000

/-- A datagram and its destination. -/
structure Datagram where
  bytes : ByteArray
  target : Endpoint
  deriving DecidableEq

/-- A datagram that may leave at its release time. -/
structure Held where
  release : Instant
  datagram : Datagram
  deriving DecidableEq

/-- The datagrams that wait, in the order in which they were queued. -/
structure DelayLine where
  held : List Held := []
  deriving DecidableEq

namespace DelayLine

def empty : DelayLine := {}

def length (line : DelayLine) : Nat := line.held.length

def isEmpty (line : DelayLine) : Bool := line.held.isEmpty

/-- Queues a datagram for `delay` nanoseconds from `now`. -/
def push (line : DelayLine) (datagram : Datagram) (delay : Nat) (now : Instant) : DelayLine :=
  ⟨line.held ++ [⟨now + delay, datagram⟩]⟩

def isDue (now : Instant) (h : Held) : Bool := h.release ≤ now

def release (line : DelayLine) (now : Instant) : List Held × DelayLine :=
  (line.held.filter (isDue now), ⟨line.held.filter (!isDue now ·)⟩)

end DelayLine
end DatagramLink

import DatagramLink.Journal
import DatagramLink.Socket

/-!
# Frames

Both programs are loops of frames.  A frame finds the time and what has arrived; nothing else of the
world enters a loop, and a loop that is given no more frames was interrupted.
-/

namespace DatagramLink

/-- One turn of a frame loop: when it happens and what has arrived since the turn before.  Whatever
is sent in it counts as sent at that time. -/
structure Frame where
  now : Instant
  /-- When a server finds out how long a client was silent, for each of its clients. -/
  checked : Nat → Instant := fun _ => now
  /-- Milliseconds of the calendar clock, which stamps probes. -/
  clock : UInt64 := 0
  arrivals : List Arrival := []

/-- The line that reports the end of a loop by interruption. -/
def interruptedRecord : Record := .info "Received Ctrl+C, shutting down"

end DatagramLink

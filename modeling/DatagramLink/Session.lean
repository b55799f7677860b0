import DatagramLink.Client.Frame
import DatagramLink.Server.Frame

/-!
# Sessions

A client and a server that share one hub, as when a server runs in the process of its own player.
They take turns: a round is a frame of the client and then a frame of the server.
-/

namespace DatagramLink

/-- A client, a server and the hub between them. -/
structure Session where
  client : Client
  server : Server
  hub : Hub

namespace Session

def clientTick (s : Session) (now : Instant) (clock : UInt64) : Attempt Session :=
  (s.client.tick s.hub now clock).map fun (client, hub) => { s with client, hub }

def serverTick (s : Session) (now : Instant) (checked : Nat → Instant) : Attempt Session :=
  (s.server.tick s.hub now checked).map fun (server, hub) => { s with server, hub }

def round (s : Session) (now : Instant) (checked : Nat → Instant) (clock : UInt64) :
    Attempt Session :=
  (s.clientTick now clock).andThen fun s => s.serverTick now checked

/-- Runs at most `limit` rounds, and none behind one that leaves no probe unanswered: the number of
rounds begun, and the session after them. -/
def settle (now : Instant) (checked : Nat → Instant) (clock : UInt64) :
    Nat → Session → Attempt (Nat × Session)
  | 0, s => .done (0, s)
  | limit + 1, s =>
    match s.round now checked clock with
    | ⟨s, some fault⟩ => .stopped (1, s) fault
    | ⟨s, none⟩ =>
      if s.client.inFlight.isEmpty then
        .done (1, s)
      else
        (settle now checked clock limit s).map fun (count, s) => (count + 1, s)

end Session
end DatagramLink

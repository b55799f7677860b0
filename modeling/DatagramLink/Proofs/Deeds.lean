import DatagramLink.Proofs.ClientHistory

/-!
# Runs on a hub of one's own

Whoever embeds a client or a server calls it, and in between something happens to its hub:
a datagram arrives, a receive is going to fail, or the other side takes what it was sent.  A
run is any list of such deeds, up to the first fault.
-/

namespace DatagramLink

namespace Hub

/-- What can happen to the hub of a side. -/
inductive Incident where
  /-- A datagram arrives: over loopback in the side's ring, else at the socket. -/
  | arrive (source : Address) (bytes : ByteArray)
  /-- A receive is going to fail. -/
  | failReceive (reason : String)
  /-- The other side takes all that waits for it in its ring. -/
  | collect

def meet (h : Hub) (side : Side) : Incident → Hub
  | .arrive .loopback bytes => h.setRing side ((h.ringOf side).push bytes)
  | .arrive (.remote endpoint) bytes => h.deliver [.datagram bytes endpoint]
  | .failReceive reason => h.deliver [.failure reason]
  | .collect => (h.takeRing side.peer).2

end Hub

/-! ## Clients -/

namespace Client

/-- What can happen to a client and its hub. -/
inductive Deed where
  | connect (now : Instant)
  | requestInfo (now : Instant)
  | sendProbe (size : Nat) (clock : UInt64)
  | tick (now : Instant) (clock : UInt64)
  | disconnect (now : Instant)
  | meet (incident : Hub.Incident)

def perform (x : Client × Hub) : Deed → Attempt (Client × Hub)
  | .connect now => x.1.connect x.2 now
  | .requestInfo now => (x.1.requestInfo x.2 now).map fun h => (x.1, h)
  | .sendProbe size clock =>
      match x.1.sendProbe size clock with
      | .ok (_, after) => .done (after, x.2)
      | .error fault => .stopped x fault
  | .tick now clock => x.1.tick x.2 now clock
  | .disconnect now => x.1.disconnect x.2 now
  | .meet incident => .done (x.1, x.2.meet .client incident)

/-- A run, up to the first fault. -/
def performAll (x : Client × Hub) (deeds : List Deed) : Attempt (Client × Hub) :=
  Attempt.forEach perform deeds x

theorem History.perform {server : Address} {qport : UInt16} {x : Client × Hub}
    (hhistory : History server qport x.1) (deed : Deed) :
    History server qport (perform x deed).reached.1 := by
  cases deed with
  | connect now => exact hhistory.connect x.2 now
  | requestInfo now => exact hhistory
  | sendProbe size clock =>
      simp only [Client.perform]
      cases hsend : x.1.sendProbe size clock with
      | error fault => exact hhistory
      | ok sent => exact History.sendProbe hhistory hsend
  | tick now clock => exact hhistory.tick x.2 now clock
  | disconnect now => exact hhistory.disconnect x.2 now
  | meet incident => exact hhistory

end Client

/-! ## Servers -/

namespace Server

/-- What can happen to a server and its hub. -/
inductive Deed where
  | tick (now : Instant) (checked : Nat → Instant)
  /-- The clients are gone through in another order from now on, by a rank of each. -/
  | reorder (rank : Nat → Nat)
  | meet (incident : Hub.Incident)

/-- The table in the order of a rank. -/
def reorder (s : Server) (rank : Nat → Nat) : Server :=
  { s with
    roster :=
      { s.roster with
        peers := s.roster.peers.mergeSort fun p q => decide (rank p.id ≤ rank q.id) } }

def perform (x : Server × Hub) : Deed → Attempt (Server × Hub)
  | .tick now checked => x.1.tick x.2 now checked
  | .reorder rank => .done (x.1.reorder rank, x.2)
  | .meet incident => .done (x.1, x.2.meet .server incident)

/-- A run, up to the first fault. -/
def performAll (x : Server × Hub) (deeds : List Deed) : Attempt (Server × Hub) :=
  Attempt.forEach perform deeds x

end Server
end DatagramLink

import DatagramLink.DelayLine

/-!
# Sockets

A socket as a transport sees it: datagrams and failures wait to be received, and every datagram
offered for sending is either accepted or refused.  Nothing ever blocks.
-/

namespace DatagramLink

/-- What a receive finds. -/
inductive Arrival where
  | datagram (bytes : ByteArray) (source : Endpoint)
  /-- The receive fails, for this reason. -/
  | failure (reason : String)

/-- A datagram that was offered for sending. -/
structure Offer where
  datagram : Datagram
  /-- Why it was refused, if it was. -/
  refusal : Option String := none
  deriving DecidableEq

/-- A socket.  `refusal n target` is the reason why offer number `n`, bound for `target`, is
refused, if it is. -/
structure Socket where
  /-- Where the socket is bound; nothing when a transport has no socket. -/
  address : Option Endpoint
  /-- What receives will find, in order. -/
  inbound : List Arrival := []
  /-- The offers so far, in order. -/
  offers : Array Offer := #[]
  refusal : Nat → Endpoint → Option String := fun _ _ => none

namespace Socket

/-- Why a transport without a socket can neither send nor name its address. -/
def absentReason : String := "transport has no socket"

/-- The stand-in of a transport that only knows loopback. -/
def absent : Socket := { address := none, refusal := fun _ _ => some absentReason }

def bound (address : Endpoint) : Socket := { address := some address }

/-- Where the socket is bound, or the reason why it is nowhere. -/
def localAddress (s : Socket) : Except String Endpoint :=
  match s.address with
  | some endpoint => .ok endpoint
  | none => .error absentReason

/-- Offers a datagram; a refusal comes with its reason. -/
def send (s : Socket) (d : Datagram) : Option String × Socket :=
  (s.refusal s.offers.size d.target,
    { s with offers := s.offers.push ⟨d, s.refusal s.offers.size d.target⟩ })

/-- The datagrams that were accepted, in order. -/
def accepted (s : Socket) : Array Datagram :=
  (s.offers.filter (·.refusal.isNone)).map (·.datagram)

def clear (s : Socket) : Socket := { s with offers := #[] }

/-- Adds what later receives find.  Nothing arrives where no socket is bound. -/
def deliver (s : Socket) (arrivals : List Arrival) : Socket :=
  match s.address with
  | some _ => { s with inbound := s.inbound ++ arrivals }
  | none => s

end Socket
end DatagramLink

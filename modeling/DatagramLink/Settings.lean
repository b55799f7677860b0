import DatagramLink.Address

/-!
# Settings of a transport

What whoever embeds a transport may tune.  Delays are in milliseconds.
-/

namespace DatagramLink

/-- How many consecutive ports are tried when a socket is bound. -/
def maxPortTries : Nat := 10

/-- The tunables of a transport. -/
structure Settings where
  /-- Interface that the socket is bound to. -/
  ip : String := "0.0.0.0"
  /-- First port to try; zero leaves the choice to the system. -/
  port : UInt16 := Address.defaultPort
  /-- The client's identifier in every header from client to server. -/
  qport : UInt16
  /-- Artificial delay of what a client sends. -/
  clientDelay : Nat := 0
  /-- Artificial delay of what a server sends. -/
  serverDelay : Nat := 0
  /-- Upper limit of a random extra delay per datagram. -/
  jitter : Nat := 0
  /-- Percentage of the datagrams for the socket that get lost on purpose. -/
  lossPercent : Float32 := 0
  /-- Report every datagram sent and received. -/
  showPackets : Bool := false
  /-- Report every datagram that a channel discards. -/
  showDrops : Bool := false

namespace Settings

/-- The delay of what a side sends. -/
def delay (s : Settings) : Side → Nat
  | .client => s.clientDelay
  | .server => s.serverDelay

/-- Whether what a side sends waits in the delay line. -/
def simulatesLatency (s : Settings) (side : Side) : Bool :=
  0 < s.delay side || 0 < s.jitter

def simulatesLoss (s : Settings) : Bool := (0 : Float32) < s.lossPercent

/-- The last of the ports that are tried: none but the first when the system chooses it. -/
def lastPort (s : Settings) : Nat :=
  if s.port = 0 then 0 else min (s.port.toNat + (maxPortTries - 1)) 0xFFFF

/-- Whether two settings agree in every field, with percentages compared as numbers. -/
def agrees (a b : Settings) : Bool :=
  a.ip == b.ip && a.port == b.port && a.qport == b.qport && a.clientDelay == b.clientDelay &&
    a.serverDelay == b.serverDelay && a.jitter == b.jitter && a.lossPercent == b.lossPercent &&
    a.showPackets == b.showPackets && a.showDrops == b.showDrops

end Settings
end DatagramLink

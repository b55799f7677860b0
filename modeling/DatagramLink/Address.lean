import Std.Net.Addr

/-!
# Addresses

Who a datagram comes from or goes to: the other side of the same process, or an endpoint on the
network.  The text forms are in `Address.Text`.
-/

namespace DatagramLink

open Std.Net

/-- The two sides of a session. -/
inductive Side where
  | client
  | server
  deriving DecidableEq, Repr

def Side.peer : Side → Side
  | .client => .server
  | .server => .client

@[simp] theorem Side.peer_peer (side : Side) : side.peer.peer = side := by
  cases side <;> rfl

/-- A host and port on the network.  An IPv6 host may be qualified by the scope, the number of the
interface, that a link-local address is meant on; zero means none. -/
inductive Endpoint where
  | v4 (host : IPv4Addr) (port : UInt16)
  | v6 (host : IPv6Addr) (scope : UInt32) (port : UInt16)
  deriving DecidableEq

/-- The host, without port and scope. -/
def Endpoint.host : Endpoint → IPAddr
  | .v4 host _ => .v4 host
  | .v6 host _ _ => .v6 host

def Endpoint.port : Endpoint → UInt16
  | .v4 _ port => port
  | .v6 _ _ port => port

/-- A port on a host, without scope. -/
def Endpoint.ofHost (host : IPAddr) (port : UInt16) : Endpoint :=
  match host with
  | .v4 host => .v4 host port
  | .v6 host => .v6 host 0 port

/-- A peer of a session. -/
inductive Address where
  /-- The other side in the same process. -/
  | loopback
  /-- An endpoint on the network. -/
  | remote (endpoint : Endpoint)
  deriving DecidableEq

namespace Address

/-- The port that an address without one means. -/
def defaultPort : UInt16 := 27960

/-- Whether two addresses name the same host; ports and scopes do not matter. -/
def sameHost : Address → Address → Bool
  | .loopback, .loopback => true
  | .remote a, .remote b => a.host == b.host
  | _, _ => false

/-- The address that stands for "none": port 0 on the unspecified IPv4 host. -/
def unspecified : Address := .remote (.v4 ⟨#v[0, 0, 0, 0]⟩ 0)

instance : Inhabited Address := ⟨unspecified⟩

@[simp] theorem sameHost_self (a : Address) : a.sameHost a = true := by
  cases a <;> simp [sameHost]

theorem sameHost_comm (a b : Address) : a.sameHost b = b.sameHost a := by
  cases a <;> cases b <;> simp [sameHost, Bool.beq_comm]

end Address
end DatagramLink

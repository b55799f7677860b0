import DatagramLink.Hub
import DatagramLink.Text.Quoted

/-!
# Opening a hub on a network

A hub is bound to the first port that can be had, from the one that its settings name on, so that
several programs can share a host.  Port zero leaves the choice to the system.
-/

namespace DatagramLink

/-- No port could be had. -/
structure BindError where
  ip : String
  firstPort : Nat
  lastPort : Nat
  deriving DecidableEq, Repr

namespace BindError

def message (e : BindError) : String :=
  s!"could not bind {e.ip} on ports {e.firstPort}..={e.lastPort}"

/-- The error with the names of its parts. -/
def detail (e : BindError) : String :=
  "Bind \x7b ip: " ++ Text.quote e.ip ++
    s!", first_port: {e.firstPort}, last_port: {e.lastPort} " ++ "\x7d"

end BindError

namespace Settings

/-- The ports that are tried, in order. -/
def ports (s : Settings) : List Nat := List.range' s.port.toNat (s.lastPort - s.port.toNat + 1)

/-- Where the socket is to be bound with one of the ports. -/
def bindText (s : Settings) (port : Nat) : String := s!"{s.ip}:{port}"

/-- The error when no port could be had. -/
def bindError (s : Settings) : BindError := ⟨s.ip, s.port.toNat, s.lastPort⟩

end Settings

namespace Hub

def ofSocket (settings : Settings) (dice : Dice) (address : Endpoint) : Hub :=
  { settings, dice, socket := .bound address }

/-- Tries places in order until one can be had.  An attempt yields a socket and where it is bound,
or the reason of its failure. -/
def openAny {m : Type → Type} [Monad m] {α : Type}
    (attempt : String → m (Except String (α × Endpoint))) :
    List String → List Record → m (Option (α × Endpoint) × List Record)
  | [], records => return (none, records)
  | place :: rest, records => do
    match ← attempt place with
    | .ok (socket, address) =>
      return (some (socket, address), records ++ [.info s!"Opened UDP socket on {address}"])
    | .error reason =>
      openAny attempt rest (records ++ [.warn s!"Failed to bind {place}: {reason}"])

/-- Opens a hub: the socket that goes with it and the hub, or the error. -/
def openFirst {m : Type → Type} [Monad m] {α : Type} (settings : Settings) (dice : Dice)
    (attempt : String → m (Except String (α × Endpoint))) :
    m (Except BindError (α × Hub) × List Record) := do
  let (opened, records) ← openAny attempt (settings.ports.map settings.bindText) []
  match opened with
  | none => return (.error settings.bindError, records)
  | some (socket, address) =>
    return (.ok (socket, (ofSocket settings dice address).report records), records)

end Hub
end DatagramLink

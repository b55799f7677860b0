import DatagramLink.Program
import DatagramLink.Server.Frame

/-!
# The server program

Serves clients until it is interrupted.
-/

namespace DatagramLink
namespace ServerProgram

/-- The options of the server program. -/
structure Options where
  host : String := "0.0.0.0"
  port : Nat := Address.defaultPort.toNat
  tickRate : Nat := 50
  maxClients : Nat := 16
  hostname : String := "netchan echo server"
  fragmentsPerTick : Nat := defaultFragmentsPerTick
  /-- Seconds. -/
  timeout : Nat := defaultClientTimeout / seconds 1
  simulation : Program.Simulation := {}

def options : List (CommandLine.Opt Options) := [
  { long := "host", short := some 'H', action := .value fun text o =>
      some { o with host := text } },
  { long := "port", short := some 'p', action := .value fun text o =>
      (Program.small? 0xFFFF text).map fun port => { o with port } },
  { long := "tick-rate", short := some 't', action := .value fun text o =>
      (Program.small? 0xFFFFFFFF text).map fun tickRate => { o with tickRate } },
  { long := "max-clients", short := some 'm', action := .value fun text o =>
      (Program.word? text).map fun maxClients => { o with maxClients } },
  { long := "hostname", action := .value fun text o => some { o with hostname := text } },
  { long := "fragments-per-tick", action := .value fun text o =>
      (Program.word? text).map fun fragmentsPerTick => { o with fragmentsPerTick } },
  { long := "timeout", action := .value fun text o =>
      (Program.word? text).map fun timeout => { o with timeout } }] ++
  Program.simulationOptions fun f o => { o with simulation := f o.simulation }

namespace Options

/-- The settings of the hub.  A server does not use the qport. -/
def settings (o : Options) (qport : UInt16) : Settings where
  ip := o.host
  port := UInt16.ofNat o.port
  qport := qport
  serverDelay := o.simulation.delay
  jitter := o.simulation.jitter
  lossPercent := o.simulation.lossPercent
  showPackets := o.simulation.showPackets
  showDrops := o.simulation.showDrops

def server (o : Options) : Server :=
  ((Server.new o.hostname o.maxClients).withFragmentsPerTick o.fragmentsPerTick).withClientTimeout
    (seconds o.timeout)

def period (o : Options) : Nat := Program.framePeriod o.tickRate

end Options

def start (arguments : List String) : Except Outcome Options :=
  match CommandLine.read options {} arguments with
  | .error stop => .error (Program.stopped "server" stop)
  | .ok o => .ok o

/-- The end when no port could be had. -/
def notBound (e : BindError) : Outcome := Program.failure e.detail

/-- How the program ends before it serves, if it does. -/
def failedStart? {α : Type} (arguments : List String)
    (attempt : String → Id (Except String (α × Endpoint))) : Option Outcome :=
  match start arguments with
  | .error outcome => some outcome
  | .ok o =>
    match (Hub.openFirst (o.settings 0) .plain attempt).1 with
    | .error e => some (notBound e)
    | .ok _ => none

end ServerProgram
end DatagramLink

import DatagramLink.Client.Frame
import DatagramLink.Program

/-!
# The client program

Sends probes of several sizes to a server, waits for the echoes and prints what became of them.
-/

namespace DatagramLink
namespace ClientProgram

/-- The options of the client program. -/
structure Options where
  server : String := "127.0.0.1:27960"
  sizes : List Nat := []
  count : Nat := 10
  tickRate : Nat := 50
  /-- Seconds. -/
  timeout : Nat := 30
  qport : Option UInt16 := none
  simulation : Program.Simulation := {}

/-- The sizes of probes when none are given. -/
def defaultSizes : List Nat := [64, 1390, 1391, 2600, 5000, 65536]

/-- A list of sizes with commas between them. -/
def sizes? (text : String) : Option (List Nat) :=
  ((text.splitToList (· == ',')).map Program.word?).mapM id

def options : List (CommandLine.Opt Options) := [
  { long := "server", short := some 's', action := .value fun text o =>
      some { o with server := text } },
  { long := "sizes", repeats := true, action := .value fun text o =>
      (sizes? text).map fun sizes => { o with sizes := o.sizes ++ sizes } },
  { long := "count", short := some 'c', action := .value fun text o =>
      (Program.word? text).map fun count => { o with count } },
  { long := "tick-rate", short := some 't', action := .value fun text o =>
      (Program.small? 0xFFFFFFFF text).map fun tickRate => { o with tickRate } },
  { long := "timeout", action := .value fun text o =>
      (Program.word? text).map fun timeout => { o with timeout } },
  { long := "qport", short := some 'q', action := .value fun text o =>
      (Program.small? 0xFFFF text).map fun qport =>
        { o with qport := some (UInt16.ofNat qport) } }] ++
  Program.simulationOptions fun f o => { o with simulation := f o.simulation }

namespace Options

/-- The settings of the hub; `qport` is used when none was given. -/
def settings (o : Options) (qport : UInt16) : Settings where
  port := 0
  qport := o.qport.getD qport
  clientDelay := o.simulation.delay
  jitter := o.simulation.jitter
  lossPercent := o.simulation.lossPercent
  showPackets := o.simulation.showPackets
  showDrops := o.simulation.showDrops

def plan (o : Options) : Client.Plan where
  sizes := if o.sizes.isEmpty then defaultSizes else o.sizes
  count := o.count
  period := Program.framePeriod o.tickRate
  timeout := seconds o.timeout

end Options

/-- Reads the command line and the server's address. -/
def start (arguments : List String) : Except Outcome (Options × Address) :=
  match CommandLine.read options {} arguments with
  | .error stop => .error (Program.stopped "client" stop)
  | .ok o =>
    match Address.parse o.server with
    | .error _ => .error (Program.failure "AddrParseError(Ip)")
    | .ok server => .ok (o, server)

/-- The line that sums up a run. -/
def summary (s : ProbeStats) : String :=
  s!"sent {s.sent} echoed {s.echoed} corrupted {s.corrupted} lost {s.lost} " ++
    s!"({s.bytesEchoed} bytes, last rtt {s.lastRoundTrip}ms, max rtt {s.maxRoundTrip}ms)\n"

def finished (s : ProbeStats) : Outcome := { exit := 0, stdout := summary s }

/-- The whole program on a socket bound to `address`, in the frames that are given. -/
def run (arguments : List String) (qport : UInt16) (address : Endpoint)
    (frames : Client.Plan → List Frame) : Outcome :=
  match start arguments with
  | .error outcome => outcome
  | .ok (o, server) =>
    match (Client.new server (o.settings qport).qport).run
        (.ofSocket (o.settings qport) .plain address) o.plan 0 (frames o.plan) with
    | .error _ => Program.fault
    | .ok (_, c, _) => finished c.stats

end ClientProgram
end DatagramLink

import DatagramLink.Program.Client
import DatagramLink.Program.Server
import Std.Async.DNS
import Std.Async.Signal
import Std.Async.UDP
import Std.Time.DateTime.Timestamp

/-!
# Entry point

`client` and `server`, named by the first argument, run over a real socket.  What they do is decided
by frames; this module only tells the time, moves datagrams and prints.
-/

namespace DatagramLink
namespace Main

open Std (Net.SocketAddress)
open Std.Async (UDP.Socket Signal.Waiter AsyncTask)

/-! ## Sockets -/

/-- An endpoint as the system takes it.  The system does not take scopes. -/
def toSystem : Endpoint → Net.SocketAddress
  | .v4 host port => .v4 ⟨host, port⟩
  | .v6 host _ port => .v6 ⟨host, port⟩

/-- An endpoint as the system gives it. -/
def ofSystem : Net.SocketAddress → Endpoint
  | .v4 ⟨host, port⟩ => .v4 host port
  | .v6 ⟨host, port⟩ => .v6 host 0 port

/-- Finds the endpoint that a host and a port name. -/
def resolve (place : String) : IO Endpoint := do
  match Endpoint.parse place with
  | .ok endpoint => return endpoint
  | .error _ =>
    match place.splitToList (· == ':') |>.reverse with
    | port :: host =>
      let hosts ← (Std.Async.DNS.getAddrInfo (":".intercalate host.reverse) port).block
      match hosts[0]?, Text.unsigned? 0xFFFF port with
      | some address, some port => return Endpoint.ofHost address (UInt16.ofNat port)
      | _, _ => throw (IO.userError "invalid socket address")
    | [] => throw (IO.userError "invalid socket address")

def bind (place : String) : IO (Except String (UDP.Socket × Endpoint)) := do
  try
    let endpoint ← resolve place
    let socket ← UDP.Socket.mk
    socket.bind (toSystem endpoint)
    return .ok (socket, ofSystem (← socket.getSockName))
  catch e => return .error (toString e)

/-- Collects what a socket receives. -/
partial def listen (socket : UDP.Socket) (arrivals : IO.Ref (Array Arrival)) : IO Unit := do
  let arrival ← try
      match ← (socket.recv (UInt64.ofNat receiveBufferSize)).block with
      | (bytes, some source) => pure (.datagram bytes (ofSystem source))
      | (_, none) => pure (.failure "datagram without a sender")
    catch e => pure (.failure (toString e))
  arrivals.modify (·.push arrival)
  listen socket arrivals

/-- The world around a frame loop. -/
structure World where
  socket : UDP.Socket
  arrivals : IO.Ref (Array Arrival)
  interruption : AsyncTask Int
  /-- Whether a record of this level is printed. -/
  isShown : Level → Bool

def World.start (socket : UDP.Socket) (isShown : Level → Bool) : IO World := do
  let arrivals ← IO.mkRef #[]
  discard (IO.asTask (listen socket arrivals) .dedicated)
  let interruption ← (← Signal.Waiter.mk .sigint false).wait
  return { socket, arrivals, interruption, isShown }

def print (isShown : Level → Bool) (records : Array Record) : IO Unit :=
  (records.filter (isShown ·.level)).forM fun record => IO.eprintln record.render

/-- Sends what a hub's socket accepted and prints what the hub reported. -/
def World.settle (w : World) (h : Hub) : IO Hub := do
  print w.isShown h.journal
  for d in h.socket.accepted do
    try
      (w.socket.send d.bytes (some (toSystem d.target))).block
    catch e => print w.isShown #[.warn s!"Failed to send packet to {d.target}: {e}"]
  return h.clear

def World.frame (w : World) : IO Frame := do
  let arrivals ← w.arrivals.modifyGet fun found => (found, #[])
  let clock ← Std.Time.Timestamp.now
  return { now := Int.ofNat (← IO.monoNanosNow), arrivals := arrivals.toList
           clock := UInt64.ofNat clock.toMillisecondsSinceUnixEpoch.val.toNat }

/-- Waits until a period after a frame has passed. -/
def waitUntilNext (period : Nat) (frame : Frame) : IO Unit := do
  let now := Int.ofNat (← IO.monoNanosNow)
  let rest := (frame.now + Int.ofNat period - now).toNat
  IO.sleep (UInt32.ofNat (rest / milliseconds 1 + 1))

/-! ## Programs -/

def shownLevels (filter : Option String) : Level → Bool :=
  (filter.elim {} fun text => (Filter.read text).2).shows

/-- Prints what a program has to say at its end. -/
def finish (outcome : Outcome) : IO UInt32 := do
  IO.print outcome.stdout
  IO.eprint outcome.stderr
  return UInt32.ofNat outcome.exit

def randomWord : IO Nat := return Bytes.toNat (← IO.getRandomBytes 8)

/-- Runs frames of a client until one of them ends the run. -/
partial def clientFrames (w : World) (plan : Client.Plan) (start : Instant) (p : Client.Progress) :
    IO (Except Fault (Instant × Client.Progress)) := do
  let frame ← w.frame
  if ← IO.hasFinished w.interruption then
    return .ok (frame.now, { p with hub := p.hub.report [interruptedRecord] })
  match Client.frame p plan start frame with
  | .error fault => return .error fault
  | .ok (ending, p) =>
    let p := { p with hub := ← w.settle p.hub }
    if ending.isSome then
      return .ok (frame.now, p)
    waitUntilNext plan.period frame
    clientFrames w plan start p

def runClient (isShown : Level → Bool) (arguments : List String) : IO Outcome := do
  match ClientProgram.start arguments with
  | .error outcome => return outcome
  | .ok (o, server) =>
    let settings := o.settings (UInt16.ofNat (← randomWord))
    let dice := Dice.ofSeed (UInt64.ofNat (← randomWord))
    match ← Hub.openFirst settings dice bind with
    | (.error e, records) =>
      print isShown records.toArray
      return Program.failure e.detail
    | (.ok (socket, hub), _) =>
      let w ← World.start socket isShown
      let start := Int.ofNat (← IO.monoNanosNow)
      let .ok p := (Client.new server settings.qport).begin hub o.plan start | return Program.fault
      let p := { p with hub := ← w.settle p.hub }
      let .ok (now, p) ← clientFrames w o.plan start p | return Program.fault
      let .ok (client, hub) := p.client.finish p.hub now | return Program.fault
      discard (w.settle hub)
      return ClientProgram.finished client.stats

/-- Runs frames of a server until it is interrupted. -/
partial def serverFrames (w : World) (period ticks : Nat) (s : Server) (h : Hub) : IO Outcome := do
  let frame ← w.frame
  if ← IO.hasFinished w.interruption then
    print w.isShown #[interruptedRecord]
    return { exit := 0 }
  match s.frame h (ticks + 1) frame with
  | .error _ => return Program.fault
  | .ok (s, h) =>
    let h ← w.settle h
    waitUntilNext period frame
    serverFrames w period (ticks + 1) s h

def runServer (isShown : Level → Bool) (arguments : List String) : IO Outcome := do
  match ServerProgram.start arguments with
  | .error outcome => return outcome
  | .ok o =>
    let dice := Dice.ofSeed (UInt64.ofNat (← randomWord))
    match ← Hub.openFirst (o.settings 0) dice bind with
    | (.error e, records) =>
      print isShown records.toArray
      return ServerProgram.notBound e
    | (.ok (socket, hub), _) =>
      if o.period = 0 then
        return Program.fault
      let w ← World.start socket isShown
      serverFrames w o.period 0 o.server (← w.settle (Server.announce hub))

end Main
end DatagramLink

/-- Runs the program that the first argument names. -/
def main (arguments : List String) : IO UInt32 := do
  let wanted ← IO.getEnv "RUST_LOG"
  let isShown := DatagramLink.Main.shownLevels wanted
  IO.eprint (DatagramLink.Program.preamble wanted)
  match arguments with
  | "client" :: rest => DatagramLink.Main.finish (← DatagramLink.Main.runClient isShown rest)
  | "server" :: rest => DatagramLink.Main.finish (← DatagramLink.Main.runServer isShown rest)
  | _ => DatagramLink.Main.finish { exit := 2, stderr := "Usage: client|server [OPTIONS]\n" }

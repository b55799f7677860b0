import DatagramLink.Channel.Exchange
import DatagramLink.Handshake
import DatagramLink.Message

/-!
# Clients

A client asks a server for a connection, sends probes over its channel, and checks that every probe
comes back as it left.  Lost probes are not sent again.

Handling a datagram changes the client and reports; it never sends.
-/

namespace DatagramLink

/-- How far a connection is. -/
inductive Phase where
  | disconnected
  | connecting
  | connected (id : UInt32)
  deriving DecidableEq, Repr

/-- What became of the probes so far. -/
structure ProbeStats where
  sent : Nat := 0
  /-- Came back as they left. -/
  echoed : Nat := 0
  /-- Came back with another payload. -/
  corrupted : Nat := 0
  /-- Were unanswered when the client left. -/
  lost : Nat := 0
  /-- Payload bytes of the echoed probes. -/
  bytesEchoed : Nat := 0
  /-- Milliseconds. -/
  lastRoundTrip : Nat := 0
  /-- Milliseconds. -/
  maxRoundTrip : Nat := 0
  deriving DecidableEq, Repr

namespace ProbeStats

def countSent (s : ProbeStats) : ProbeStats := { s with sent := s.sent + 1 }

def countEcho (s : ProbeStats) (size roundTrip : Nat) : ProbeStats :=
  { s with
    echoed := s.echoed + 1
    bytesEchoed := s.bytesEchoed + size
    lastRoundTrip := roundTrip
    maxRoundTrip := max s.maxRoundTrip roundTrip }

def countCorrupted (s : ProbeStats) : ProbeStats := { s with corrupted := s.corrupted + 1 }

def countLost (s : ProbeStats) (count : Nat) : ProbeStats := { s with lost := s.lost + count }

end ProbeStats

/-- A probe that was not answered yet. -/
structure Probe where
  id : UInt32
  /-- Number of payload bytes. -/
  size : Nat
  deriving DecidableEq, Repr

/-- A client of an echo server. -/
structure Client where
  server : Address
  qport : UInt16
  phase : Phase := .disconnected
  channel : Option Channel := none
  /-- When the last request for a connection was sent. -/
  lastConnect : Option Instant := none
  /-- Messages that wait for the channel. -/
  queue : List ByteArray := []
  fragmentsPerTick : Nat := 8
  inFlight : List Probe := []
  nextProbe : UInt32 := 1
  stats : ProbeStats := {}
  /-- The last answer to a request for information. -/
  serverInfo : Option Command := none
  /-- The last text that the server sent for the user. -/
  lastPrint : Option String := none

namespace Client

/-- A client that has not asked for a connection yet. -/
def new (server : Address) (qport : UInt16) : Client := { server, qport }

/-- Sets how many datagrams the client may send in a frame, at least one. -/
def withFragmentsPerTick (c : Client) (count : Nat) : Client :=
  { c with fragmentsPerTick := max count 1 }

/-- The identifier that the server gave, while connected. -/
def id? (c : Client) : Option UInt32 :=
  match c.phase with
  | .connected id => some id
  | _ => none

def isConnected (c : Client) : Bool := c.id?.isSome

/-! ## Probes -/

def await (c : Client) (probe : Probe) : Client :=
  { c with
    inFlight := c.inFlight.filter (·.id != probe.id) ++ [probe]
    stats := c.stats.countSent }

/-- Queues a probe with `size` bytes of payload, stamped with the clock; not while unconnected. -/
def sendProbe (c : Client) (size : Nat) (clock : UInt64) :
    Except Fault (Option UInt32 × Client) :=
  if ¬ c.isConnected then
    .ok (none, c)
  else if maxPayloadSize < size then
    .error .payloadTooLong
  else
    .ok (some c.nextProbe,
      { c.await ⟨c.nextProbe, size⟩ with
        nextProbe := c.nextProbe + 1
        queue := c.queue ++
          [Message.encode (.probe c.nextProbe clock (probePayload c.nextProbe size))] })

/-- Whether a payload is the one of a probe. -/
def answers (probe : Probe) (payload : ByteArray) : Bool :=
  payload.size == probe.size && payload == probePayload probe.id probe.size

/-- Counts the echo of a probe that is no longer awaited. -/
def countEcho (c : Client) (probe : Probe) (payload : ByteArray) (roundTrip : Nat) :
    List Record × Client :=
  if answers probe payload then
    ([.debug s!"Probe {probe.id} ({probe.size} bytes) echoed in {roundTrip}ms"],
      { c with stats := c.stats.countEcho probe.size roundTrip })
  else
    ([.warn s!"Probe {probe.id} came back corrupted"], { c with stats := c.stats.countCorrupted })

/-- Handles an echo.  The time between its stamp and the clock is the round trip; a stamp that lies
in the future counts as none. -/
def handleEcho (c : Client) (id : UInt32) (timestamp : UInt64) (payload : ByteArray)
    (clock : UInt64) : List Record × Client :=
  match c.inFlight.find? (·.id == id) with
  | none => ([.debug s!"Echo for unknown probe {id}"], c)
  | some probe =>
    { c with inFlight := c.inFlight.filter (·.id != id) }.countEcho probe payload
      (clock.toNat - timestamp.toNat)

/-! ## Handling datagrams -/

/-- Handles an answer to a request for a connection. -/
def handleConnected (c : Client) (showDrops : Bool) (command : Command) : List Record × Client :=
  if c.phase = .connecting then
    match (command.arg? 0).bind (Text.unsigned? 0xFFFFFFFF) with
    | none => ([.warn s!"Malformed connect response: {command}"], c)
    | some id =>
      ([.info s!"Connected! Client ID: {id}"],
        { c with
          phase := .connected (UInt32.ofNat id)
          channel := some { side := .client, remote := c.server, qport := c.qport, showDrops } })
  else
    ([.debug "Duplicate connect response, ignoring"], c)

/-- Handles a connectionless command of the server. -/
def handleCommand (c : Client) (showDrops : Bool) (command : Command) : List Record × Client :=
  match command.name with
  | "connectResponse" => c.handleConnected showDrops command
  | "infoResponse" => ([.info s!"Server info: {command}"], { c with serverInfo := some command })
  | "print" =>
    ([.info ("Server: " ++ " ".intercalate command.args)],
      { c with lastPrint := some (" ".intercalate command.args) })
  | name => ([.debug s!"Unknown connectionless command '{name}'"], c)

/-- Handles a complete message of the channel. -/
def handleMessage (c : Client) (message : ByteArray) (clock : UInt64) : List Record × Client :=
  match Message.decode message with
  | .ok (.echo id timestamp payload) => c.handleEcho id timestamp payload clock
  | .ok (.disconnect reason) =>
    ([.warn s!"Disconnected: {reason}"], { c with phase := .disconnected, channel := none })
  | .ok (.probe _ _ _) => ([.warn "Unexpected probe from server"], c)
  | .error e => ([.warn s!"Failed to deserialize message from server: {e.message}"], c)

def handleSequenced (c : Client) (channel : Channel) (source : Address) (datagram : ByteArray)
    (clock : UInt64) : List Record × Client :=
  match channel.receive source (.ofBytes datagram) with
  | (receipt, channel) =>
    match receipt.message? with
    | none => (receipt.records, { c with channel := some channel })
    | some message =>
      match { c with channel := some channel }.handleMessage message clock with
      | (records, c) => (receipt.records ++ records, c)

/-- Handles one datagram.  Connectionless ones count only from the server's own address. -/
def handle (c : Client) (showDrops : Bool) (source : Address) (datagram : ByteArray)
    (clock : UInt64) : List Record × Client :=
  if isConnectionless datagram then
    if source == c.server then
      match Command.ofDatagram? datagram with
      | none => ([], c)
      | some command => c.handleCommand showDrops command
    else
      ([.debug s!"{source}: connectionless packet from unknown address"], c)
  else
    match c.channel with
    | none => ([.debug s!"{source}: sequenced packet while not connected"], c)
    | some channel =>
      { c with channel := none }.handleSequenced channel source datagram clock

end Client
end DatagramLink

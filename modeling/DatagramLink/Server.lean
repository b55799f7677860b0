import DatagramLink.Handshake
import DatagramLink.Message
import DatagramLink.Roster

/-!
# Servers

An echo server.  Clients ask for a connection with a connectionless command and then send probes
over their channels; every probe is queued to go back as it came.

Handling a datagram changes the server and yields a response: what there is to report, and at most
one connectionless answer to the sender.
-/

namespace DatagramLink

/-- Datagrams that each client may send in a frame, unless stated otherwise. -/
def defaultFragmentsPerTick : Nat := 8

/-- Nanoseconds of silence after which a client is dropped, unless stated otherwise. -/
def defaultClientTimeout : Nat := seconds 30

/-! ## Handling datagrams -/

/-- An echo server. -/
structure Server where
  /-- Reported to requests for information. -/
  hostname : String
  roster : Roster
  fragmentsPerTick : Nat := defaultFragmentsPerTick
  /-- Nanoseconds of silence after which a client is dropped. -/
  clientTimeout : Nat := defaultClientTimeout
  /-- Number of probes answered. -/
  echoed : Nat := 0

/-- What a server does about a datagram, its own state apart: it reports, and it may answer the
sender with a connectionless command. -/
structure Response where
  records : List Record := []
  reply : Option Command := none
  deriving DecidableEq

namespace Server

def new (hostname : String) (maxClients : Nat) : Server :=
  { hostname, roster := { capacity := maxClients } }

/-- Sets how many datagrams each client may send in a frame, at least one. -/
def withFragmentsPerTick (s : Server) (count : Nat) : Server :=
  { s with fragmentsPerTick := max count 1 }

/-- Sets how many nanoseconds a client may be silent. -/
def withClientTimeout (s : Server) (timeout : Nat) : Server := { s with clientTimeout := timeout }

/-- What a request for a connection asks for: a qport and, if it can be read, a version. -/
def connectArguments? (command : Command) : Option (UInt16 × Option Nat) := do
  let qport ← (command.arg? 0).bind (Text.unsigned? 0xFFFF)
  return (UInt16.ofNat qport, (command.arg? 1).bind (Text.unsigned? 0xFFFFFFFF))

/-- Removes the client that asks for a new connection, if it has one. -/
def dropExisting (r : Roster) (source : Address) (qport : UInt16) : List Record × Roster :=
  match r.find? source qport with
  | none => ([], r)
  | some peer =>
    match r.remove peer.id with
    | (records, r) => (.info s!"Client {peer.id} reconnecting" :: records, r)

/-- Gives a new connection to the sender of a request. -/
def welcome (s : Server) (showDrops : Bool) (source : Address) (qport : UInt16) (now : Instant) :
    Response × Server :=
  match dropExisting s.roster source qport with
  | (records, roster) =>
    match roster.add source qport showDrops now with
    | (some (id, record), roster) =>
      (⟨records ++ [record], some (connectResponse id)⟩, { s with roster })
    | (none, roster) =>
      (⟨records ++ [.warn s!"Rejected {source}: server full"],
          some (printNotice "Server is full")⟩,
        { s with roster })

def handleConnect (s : Server) (showDrops : Bool) (source : Address) (command : Command)
    (now : Instant) : Response × Server :=
  match connectArguments? command with
  | none => ({ reply := some (printNotice "Bad connect request") }, s)
  | some (qport, version) =>
    if version = some protocolVersion then
      s.welcome showDrops source qport now
    else
      ({ reply := some (printNotice s!"Server uses protocol version {protocolVersion}") }, s)

/-- Handles a notice that the sender leaves. -/
def handleLeave (s : Server) (source : Address) : Response × Server :=
  match s.roster.findAt? source with
  | none => ({}, s)
  | some peer =>
    match s.roster.remove peer.id with
    | (records, roster) => ({ records }, { s with roster })

def handleCommand (s : Server) (showDrops : Bool) (source : Address) (command : Command)
    (now : Instant) : Response × Server :=
  match command.name with
  | "getinfo" =>
    ({ reply := some (infoResponse s.hostname s.roster.length s.roster.capacity) }, s)
  | "connect" => s.handleConnect showDrops source command now
  | "disconnect" => s.handleLeave source
  | name =>
    ({ records := [.debug s!"{source}: bad connectionless packet '{name}'"] }, s)

def handleProbe (s : Server) (client : Nat) (id : UInt32) (timestamp : UInt64)
    (payload : ByteArray) : Response × Server :=
  match s.roster.modify (·.id == client)
      (·.enqueue (Message.encode (.echo id timestamp payload))) with
  | (records, roster) =>
    ({ records :=
        .debug s!"Client {client}: probe {id} ({payload.size} bytes)" :: records.getD [] },
      { s with roster, echoed := s.echoed + 1 })

/-- Handles a complete message of a client. -/
def handleMessage (s : Server) (client : Nat) (message : ByteArray) : Response × Server :=
  match Message.decode message with
  | .ok (.probe id timestamp payload) => s.handleProbe client id timestamp payload
  | .ok (.disconnect reason) =>
    match s.roster.remove client with
    | (records, roster) =>
      ({ records := .info s!"Client {client} left: {reason}" :: records }, { s with roster })
  | .ok (.echo _ _ _) => ({ records := [.warn s!"Client {client} sent an echo, ignoring"] }, s)
  | .error e =>
    ({ records := [.warn s!"Failed to deserialize message from client {client}: {e.message}"] }, s)

/-- Handles a datagram of a channel: the client with its host and qport takes it. -/
def handleSequenced (s : Server) (source : Address) (qport : UInt16) (datagram : ByteArray)
    (now : Instant) : Response × Server :=
  match s.roster.modify (·.owns source qport)
      (fun peer => match peer.receive source datagram now with
        | (receipt, peer) => ((peer.id, receipt), peer)) with
  | (none, roster) =>
    ({ records := [.debug s!"{source}: sequenced packet without connection"] }, { s with roster })
  | (some (client, receipt), roster) =>
    match receipt.message? with
    | none => ({ records := receipt.records }, { s with roster })
    | some message =>
      match { s with roster }.handleMessage client message with
      | (response, s) => ({ response with records := receipt.records ++ response.records }, s)

/-- Handles one datagram.  A connectionless one is a command; another one goes to the channel of the
client with its host and qport. -/
def handle (s : Server) (showDrops : Bool) (source : Address) (datagram : ByteArray)
    (now : Instant) : Response × Server :=
  if isConnectionless datagram then
    match Command.ofDatagram? datagram with
    | none => ({ records := [.debug s!"{source}: empty connectionless packet"] }, s)
    | some command =>
      match s.handleCommand showDrops source command now with
      | (response, s) =>
        ({ response with
            records := .debug s!"{source}: connectionless {command}" :: response.records }, s)
  else
    match peekQport datagram with
    | none =>
      ({ records := [.debug s!"{source}: runt packet ({datagram.size} bytes)"] }, s)
    | some qport => s.handleSequenced source qport datagram now

end Server
end DatagramLink

import DatagramLink.Client
import DatagramLink.Server
import DatagramLink.Proofs.CommandText

/-!
# Handshakes

What either side makes of a handshake datagram of the other.  A request makes the
server give a new connection to its sender, and the response that carries the identifier
connects a client that is still connecting and no other one.
-/

namespace DatagramLink

/-! ## Requests -/

namespace Server

theorem connectArguments?_connectRequest (qport : UInt16) :
    connectArguments? (connectRequest qport) = some (qport, some protocolVersion) := by
  have hqport : Text.unsigned? 0xFFFF (toString qport) = some qport.toNat :=
    Text.unsigned?_toString (Nat.le_of_lt_succ qport.toNat_lt)
  have hversion : Text.unsigned? 0xFFFFFFFF (toString protocolVersion) =
      some protocolVersion :=
    Text.unsigned?_toString (by decide)
  have hfirst : (connectRequest qport).arg? 0 = some (toString qport) := rfl
  have hsecond : (connectRequest qport).arg? 1 = some (toString protocolVersion) := rfl
  rw [connectArguments?, hfirst, hsecond, Option.bind_some, Option.bind_some, hqport,
    hversion]
  simp

theorem handleCommand_connectRequest
    (s : Server) (showDrops : Bool) (source : Address) (qport : UInt16) (now : Instant) :
    s.handleCommand showDrops source (connectRequest qport) now =
      s.welcome showDrops source qport now := by
  have hrequest : s.handleCommand showDrops source (connectRequest qport) now =
      s.handleConnect showDrops source (connectRequest qport) now := rfl
  rw [hrequest, handleConnect, connectArguments?_connectRequest]
  exact if_pos rfl

theorem handle_connectRequest
    (s : Server) (showDrops : Bool) (source : Address) (qport : UInt16) (now : Instant) :
    ∃ records,
      s.handle showDrops source (connectRequest qport).toDatagram now =
        ({ (s.welcome showDrops source qport now).1 with records },
          (s.welcome showDrops source qport now).2) := by
  have hconnectionless : isConnectionless (connectRequest qport).toDatagram = true :=
    Header.isConnectionless_connectionless _
  refine ⟨(s.handle showDrops source (connectRequest qport).toDatagram now).1.records, ?_⟩
  simp only [handle, hconnectionless, if_true,
    Command.ofDatagram?_toDatagram (Command.printable_connectRequest qport),
    handleCommand_connectRequest]

end Server

/-! ## Responses -/

namespace Client

theorem handle_connectResponse_eq
    (c : Client) (showDrops : Bool) (id : Nat) (clock : UInt64) :
    c.handle showDrops c.server (connectResponse id).toDatagram clock =
      c.handleConnected showDrops (connectResponse id) := by
  have hconnectionless : isConnectionless (connectResponse id).toDatagram = true :=
    Header.isConnectionless_connectionless _
  have hsource : (c.server == c.server) = true := beq_self_eq_true _
  have hcommand : c.handleCommand showDrops (connectResponse id) =
      c.handleConnected showDrops (connectResponse id) := rfl
  simp only [handle, hconnectionless, if_true, hsource,
    Command.ofDatagram?_toDatagram (Command.printable_connectResponse id), hcommand]

theorem handle_connectResponse
    {c : Client} (hconnecting : c.phase = .connecting) (showDrops : Bool) {id : Nat}
    (hid : id ≤ 0xFFFFFFFF) (clock : UInt64) :
    ∃ records,
      c.handle showDrops c.server (connectResponse id).toDatagram clock =
        (records,
          { c with
            phase := .connected (UInt32.ofNat id)
            channel := some
              { side := .client, remote := c.server, qport := c.qport, showDrops } }) := by
  have hnumber : ((connectResponse id).arg? 0).bind (Text.unsigned? 0xFFFFFFFF) =
      some id :=
    Text.unsigned?_toString hid
  refine ⟨(c.handle showDrops c.server (connectResponse id).toDatagram clock).1, ?_⟩
  rw [handle_connectResponse_eq]
  simp only [handleConnected, hconnecting, if_true, hnumber]

end Client
end DatagramLink

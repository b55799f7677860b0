import DatagramLink.Proofs.Leaving

/-!
# Whom a datagram concerns

A datagram names a client by a qport, which stands in its header or is the first argument
of a request for a connection, and by the host that it comes from.  Handling it leaves the
entries of all other clients as they are, whatever the datagram holds.  If it names nobody
in the table, it changes nothing at all, unless it is a request that is granted.

Only a notice that the sender leaves names nobody and may still remove an entry.
-/

namespace DatagramLink

def namedQport? (datagram : ByteArray) : Option UInt16 :=
  if isConnectionless datagram then
    match Command.ofDatagram? datagram with
    | none => none
    | some command =>
      if command.name = "connect" then
        ((command.arg? 0).bind (Text.unsigned? 0xFFFF)).map UInt16.ofNat
      else
        none
  else
    peekQport datagram

def AsksToLeave (datagram : ByteArray) : Prop :=
  isConnectionless datagram = true ∧
    ∃ command, Command.ofDatagram? datagram = some command ∧ command.name = "disconnect"

/-- The client has the host that a datagram comes from and the qport that it names. -/
def Peer.IsNamedBy (p : Peer) (source : Address) (datagram : ByteArray) : Prop :=
  ∃ qport, namedQport? datagram = some qport ∧ p.owns source qport = true

variable {datagram : ByteArray} {qport : UInt16} {source : Address}

theorem namedQport?_of_sequenced (hsequenced : isConnectionless datagram = false) :
    namedQport? datagram = peekQport datagram := by
  simp [namedQport?, hsequenced]

theorem namedQport?_of_connect {command : Command} {version : Option Nat}
    (hconnectionless : isConnectionless datagram = true)
    (hcommand : Command.ofDatagram? datagram = some command)
    (hname : command.name = "connect")
    (harguments : Server.connectArguments? command = some (qport, version)) :
    namedQport? datagram = some qport := by
  cases hfirst : (command.arg? 0).bind (Text.unsigned? 0xFFFF) with
  | none => simp [Server.connectArguments?, hfirst] at harguments
  | some number =>
      simp [Server.connectArguments?, hfirst] at harguments
      simp [namedQport?, hconnectionless, hcommand, hname, hfirst, harguments.1]

theorem Peer.isNamedBy_congr {p q : Peer} (hidentity : q.identity = p.identity) :
    q.IsNamedBy source datagram ↔ p.IsNamedBy source datagram := by
  simp only [IsNamedBy, owns_iff, hidentity]

namespace Server

variable {s after : Server} {showDrops : Bool} {now : Instant} {reply : Option Command}
  {p : Peer}

theorem isNamedBy_newcomer (hnamed : namedQport? datagram = some qport) :
    (s.roster.newcomer source qport showDrops now).IsNamedBy source datagram := by
  refine ⟨qport, hnamed, ?_⟩
  simp [Roster.newcomer, Roster.newChannel, Peer.owns]

theorem isNamedBy_owner (hsequenced : isConnectionless datagram = false)
    (hqport : peekQport datagram = some qport) (howns : p.owns source qport = true) :
    p.IsNamedBy source datagram := by
  refine ⟨qport, ?_, howns⟩
  rw [namedQport?_of_sequenced hsequenced, hqport]

/-- The tables before and after agree on everyone whom the datagram does not name. -/
theorem Handles.mem_iff (hhandles : s.Handles showDrops source datagram now reply after)
    (hstays : ¬ AsksToLeave datagram) (hother : ¬ p.IsNamedBy source datagram) :
    p ∈ after.roster.peers ↔ p ∈ s.roster.peers := by
  have hne : ∀ {q q' : Peer}, q.IsNamedBy source datagram → q'.identity = q.identity →
      p ≠ q' := by
    rintro q q' hnamed hidentity rfl
    exact hother ((Peer.isNamedBy_congr hidentity).mpr hnamed)
  cases hhandles with
  | unmoved hno => exact Iff.rfl
  | @welcomed command qport hconnectionless hcommand hname harguments hroom =>
      have hnamed := namedQport?_of_connect hconnectionless hcommand hname harguments
      have hnew : p ≠ s.roster.newcomer source qport showDrops now :=
        hne (isNamedBy_newcomer hnamed) rfl
      have hnot : p.owns source qport = false := by
        rw [Bool.eq_false_iff]
        intro howns
        exact hother ⟨qport, hnamed, howns⟩
      simp [hnew, hnot]
  | left hconnectionless hcommand hname hpeers hat =>
      exact absurd ⟨hconnectionless, _, hcommand, hname⟩ hstays
  | heard hsequenced hqport hpeers howns =>
      have howner := isNamedBy_owner hsequenced hqport howns
      rw [hpeers]
      exact mem_replace_iff (hne howner rfl) (hne howner (Peer.identity_receive _ _ _ _))
  | probed hsequenced hqport hpeers howns hmessage hdecode =>
      have howner := isNamedBy_owner hsequenced hqport howns
      rw [hpeers]
      apply mem_replace_iff (hne howner rfl)
      apply hne howner
      rw [Peer.identity_enqueue, Peer.identity_receive]
  | parted hsequenced hqport hpeers howns hmessage hdecode =>
      rw [hpeers]
      exact mem_remove_iff (hne (isNamedBy_owner hsequenced hqport howns) rfl)

variable {hostname : String} {capacity : Nat} {answers : List Command}

end Server
end DatagramLink

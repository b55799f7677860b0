import DatagramLink.Server.Frame
import DatagramLink.Proofs.ClientHistory
import DatagramLink.Proofs.ServerSteps

/-!
# Requests for a connection

A request for a connection is granted or turned away, and nothing in between is left
behind.  The server drops the sender's old entry before it knows whether there is room for
a new one.  That is safe because no table holds more than its capacity and no request has
two owners: without an owner's entry there is always room.
-/

namespace DatagramLink
namespace Server

/-! ## What is asked for -/

/-- A request that a server can grant: it starts with a qport and the protocol's version. -/
structure Requests (command : Command) (qport : UInt16) : Prop where
  qport : (command.arg? 0).bind (Text.unsigned? 0xFFFF) = some qport.toNat
  version : (command.arg? 1).bind (Text.unsigned? 0xFFFFFFFF) = some protocolVersion

theorem Requests.qport_unique {command : Command} {qport other : UInt16}
    (hrequests : Requests command qport) (hother : Requests command other) :
    other = qport := by
  have hsame := hrequests.qport.symm.trans hother.qport
  rw [Option.some.injEq] at hsame
  exact (UInt16.toNat_inj.mp hsame).symm

section
variable {s : Server} {showDrops : Bool} {source : Address} {command : Command} {now : Instant}

end

/-- The next identifier was never given out. -/
theorem Orderly.connectResponse_not_mem {capacity : Nat} {answers : List Command} {s : Server}
    (horderly : Orderly capacity answers s) :
    connectResponse s.roster.nextId ∉ answers := by
  intro hmem
  have hgiven : connectResponse s.roster.nextId ∈ answers.filter isAcceptance :=
    List.mem_filter.mpr ⟨hmem, rfl⟩
  rw [horderly.answers, acceptances] at hgiven
  obtain ⟨id, hid, hsame⟩ := List.mem_map.mp hgiven
  rw [connectResponse_injective hsame, List.mem_range'_1] at hid
  have hfirst := horderly.sound.first
  omega

end Server

/-! ## What becomes of it -/

/-- The entry of a client that only just connected: its channel sent and received nothing,
and nothing is queued. -/
structure Peer.Fresh (p : Peer) (id : Nat) (source : Address) (qport : UInt16) : Prop where
  id : p.id = id
  side : p.channel.side = .server
  remote : p.channel.remote = source
  qport : p.channel.qport = qport
  outgoing : p.channel.outgoing.sequence = 1
  unsent : p.channel.outgoing.unsent = none
  incoming : p.channel.incoming.sequence = 0
  assembly : p.channel.incoming.assembly = .idle
  queue : p.queue = []

namespace Server

/-- The sender gets a new entry in the place of its old one, and its identifier. -/
structure Grants (s : Server) (source : Address) (command : Command) (qport : UInt16)
    (reply : Command) (after : Server) : Prop where
  request : Requests command qport
  reply : reply = connectResponse s.roster.nextId
  unused : ∀ p ∈ s.roster.peers, p.id < s.roster.nextId
  owner : (s.roster.peers.filter (·.owns source qport)).length ≤ 1
  table : ∃ p : Peer, p.Fresh s.roster.nextId source qport ∧
    after = { s with roster :=
      { s.roster with
        peers := s.roster.peers.filter (!·.owns source qport) ++ [p]
        nextId := s.roster.nextId + 1 } }

/-- What a request for a connection comes to, when the server gave `answers` before. -/
structure ConnectOutcome (capacity : Nat) (answers : List Command) (s : Server)
    (source : Address) (command : Command) (reply : Command) (after : Server) : Prop where
  settled : (∃ text, reply = printNotice text) ∧ after = s ∨
    ∃ qport, s.Grants source command qport reply after ∧ reply ∉ answers
  refused_iff : ∀ qport, Requests command qport →
    ((∃ text, reply = printNotice text) ↔
      (∀ p ∈ s.roster.peers, p.owns source qport = false) ∧ capacity ≤ s.roster.length)
  kept : ∀ p ∈ s.roster.peers, p ∈ after.roster.peers ∨
    ∃ qport, p.owns source qport = true ∧
      ∃ q ∈ after.roster.peers, q.Fresh s.roster.nextId source qport

variable {hostname : String} {capacity : Nat} {answers : List Command} {s : Server}

theorem ConnectOutcome.granted (horderly : Orderly capacity answers s) (source : Address)
    {command : Command} {qport : UInt16} (hrequests : Requests command qport)
    (hroom : (s.roster.peers.filter (!·.owns source qport)).length < s.roster.capacity)
    {p : Peer} (hfresh : p.Fresh s.roster.nextId source qport) :
    ConnectOutcome capacity answers s source command (connectResponse s.roster.nextId)
      { s with roster :=
        { s.roster with
          peers := s.roster.peers.filter (!·.owns source qport) ++ [p]
          nextId := s.roster.nextId + 1 } } where
  settled := Or.inr ⟨qport,
    { request := hrequests
      reply := rfl
      unused := fun q hq =>
        (horderly.sound.issued q.identity (List.mem_map_of_mem hq)).2.1
      owner := horderly.sound.length_owners_le source qport
      table := ⟨p, hfresh, rfl⟩ },
    horderly.connectResponse_not_mem⟩
  refused_iff := by
    intro other hother
    obtain rfl := hrequests.qport_unique hother
    rw [← horderly.capacity, ← horderly.sound.full_iff]
    constructor
    · rintro ⟨text, htext⟩
      exact absurd (congrArg Command.name htext) (by decide : "connectResponse" ≠ "print")
    · intro hfull
      exact absurd hroom (Nat.not_lt.mpr hfull)
  kept := by
    intro q hq
    cases howns : q.owns source qport with
    | false =>
        refine Or.inl (List.mem_append_left _ (List.mem_filter.mpr ⟨hq, ?_⟩))
        rw [howns]
        rfl
    | true =>
        exact Or.inr ⟨qport, howns, p, List.mem_append_right _ (List.mem_singleton_self p),
          hfresh⟩

end Server
end DatagramLink

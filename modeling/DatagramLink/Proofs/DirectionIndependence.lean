import DatagramLink.Proofs.ChannelInvariant
import DatagramLink.Proofs.DeliveryCondition
import DatagramLink.Proofs.SendingIndependence

/-!
# The two directions of a channel

Calls that send and calls that receive share one channel and come in any order.  Each kind
has its half of the channel: its own calls read and change nothing else of it that shows,
and the other kind's calls leave it alone.  `Channel.Half` is that statement for one call.
From it follows that the calls of one kind do in a mixed run what they do without the
others, also where a message is half sent while another one is half received.

What is sent names the peer's address, which receiving may change on a server's end.  So
the bytes alone belong to the sending half there, and the whole dispatches on a client's
end.
-/

namespace DatagramLink
namespace Channel

/-! ## Calls and what is seen of them -/

def Call.sends : Call → Bool
  | .transmit _ | .transmitNext => true
  | .receive _ _ => false

/-- What a sending call puts out: a datagram, or none when nothing is unsent.  A message
that is started too early is refused. -/
def emission? (c : Channel) : Call → Option (Except Fault (Option Dispatch))
  | .transmit message => some ((c.transmit message).map fun sent => some sent.1)
  | .transmitNext => some (c.transmitNext.map Prod.fst)
  | .receive _ _ => none

/-- A sending call's bytes, without their destination. -/
def emittedBytes? (c : Channel) (call : Call) : Option (Except Fault (Option ByteArray)) :=
  (c.emission? call).map (Except.map (Option.map Dispatch.bytes))

/-- What a receiving call gives back, and the receiving half behind it. -/
structure Intake where
  receipt : Receipt
  incoming : Incoming
  remote : Address

def intake? (c : Channel) : Call → Option Intake
  | .receive source datagram =>
      match c.receive source (.ofBytes datagram) with
      | (receipt, after) => some ⟨receipt, after.incoming, after.remote⟩
  | .transmit _ | .transmitNext => none

/-- What is seen of the calls of a run, in order. -/
def seen {α : Type} (look : Channel → Call → Option α) (c : Channel) : List Call → List α
  | [] => []
  | call :: rest => (look c call).toList ++ seen look (c.perform call) rest

/-! ## Halves -/

/-- The calls that `uses` names see and change a channel, of those that `among` names, only
by its `view`, and the other calls leave the view alone and show nothing. -/
structure Half {α : Type} (among : Channel → Prop) (uses : Call → Bool)
    (view : Channel → Channel) (look : Channel → Call → Option α) : Prop where
  keeps : ∀ c call, among c → among (c.perform call)
  own : ∀ c call, uses call = true →
    view ((view c).perform call) = view (c.perform call) ∧ look (view c) call = look c call
  other : ∀ c call, among c → uses call = false →
    view (c.perform call) = view c ∧ look c call = none

/-- A run is seen by one half as the run of that half's calls alone. -/
theorem Half.run_filter {α : Type} {among : Channel → Prop} {uses : Call → Bool}
    {view : Channel → Channel} {look : Channel → Call → Option α}
    (hhalf : Half among uses view look) {c d : Channel} (hc : among c)
    (hview : view d = view c) (calls : List Call) :
    c.seen look calls = d.seen look (calls.filter uses) ∧
      view (c.run calls) = view (d.run (calls.filter uses)) := by
  induction calls generalizing c d with
  | nil => exact ⟨rfl, hview.symm⟩
  | cons call rest ih =>
      cases huses : uses call with
      | true =>
          obtain ⟨hafter, hlook⟩ := hhalf.own c call huses
          obtain ⟨hafter', hlook'⟩ := hhalf.own d call huses
          rw [hview] at hafter' hlook'
          obtain ⟨hseen, hrun⟩ := ih (hhalf.keeps c call hc) (hafter'.symm.trans hafter)
          rw [List.filter_cons_of_pos huses]
          refine ⟨?_, hrun⟩
          rw [seen, seen, ← hlook, ← hlook', hseen]
      | false =>
          obtain ⟨hafter, hnothing⟩ := hhalf.other c call hc huses
          obtain ⟨hseen, hrun⟩ := ih (hhalf.keeps c call hc) (hview.trans hafter.symm)
          rw [List.filter_cons_of_neg (by simp [huses])]
          refine ⟨?_, hrun⟩
          rw [seen, hnothing, ← hseen]
          rfl

/-! ## Sending does not look at what was received -/

/-- The channel with another receiving half. -/
def withReceiving (c : Channel) (remote : Address) (incoming : Incoming) : Channel :=
  { c with remote, incoming }

/-- Two attempts to send that are refused alike, or that put out the same bytes and leave
channels that differ in the receiving half. -/
inductive SendsBytesAs {α β : Type} (bytes : α → β) (remote : Address) (incoming : Incoming) :
    Except Fault (α × Channel) → Except Fault (α × Channel) → Prop
  | refused (fault : Fault) :
      SendsBytesAs bytes remote incoming (.error fault) (.error fault)
  | sent {out out' : α} (after : Channel) (hbytes : bytes out' = bytes out) :
      SendsBytesAs bytes remote incoming (.ok (out, after))
        (.ok (out', after.withReceiving remote incoming))

section
variable (c : Channel) (remote : Address) (incoming : Incoming)

theorem sendFragment_withReceiving (u : Unsent) :
    SendsBytesAs Dispatch.bytes remote incoming (c.sendFragment u)
      ((c.withReceiving remote incoming).sendFragment u) := by
  have hheader : (c.withReceiving remote incoming).header (some u.nextFragment) =
      c.header (some u.nextFragment) := rfl
  have hadvance : (c.withReceiving remote incoming).advance u =
      (c.advance u).withReceiving remote incoming := by
    unfold advance
    cases u.next? <;> rfl
  unfold sendFragment
  rw [hheader, hadvance]
  cases (c.header (some u.nextFragment)).encode with
  | error fault => exact .refused fault
  | ok bytes => exact .sent _ rfl

theorem transmit_withReceiving (message : ByteArray) :
    SendsBytesAs Dispatch.bytes remote incoming (c.transmit message)
      ((c.withReceiving remote incoming).transmit message) := by
  have hbusy : (c.withReceiving remote incoming).isBusy = c.isBusy := rfl
  have hheader : (c.withReceiving remote incoming).header none = c.header none := rfl
  unfold transmit
  rw [hbusy]
  split
  · exact .refused _
  · split
    · exact c.sendFragment_withReceiving remote incoming ⟨message, 0⟩
    · unfold sendWhole
      rw [hheader]
      cases (c.header none).encode with
      | error fault => exact .refused fault
      | ok bytes => exact .sent c.finishMessage rfl

theorem transmitNext_withReceiving :
    SendsBytesAs (Option.map Dispatch.bytes) remote incoming c.transmitNext
      (c.withReceiving remote incoming).transmitNext := by
  have hunsent : (c.withReceiving remote incoming).outgoing = c.outgoing := rfl
  unfold transmitNext
  rw [hunsent]
  cases c.outgoing.unsent with
  | none => exact .sent c rfl
  | some u =>
      have hsame := c.sendFragment_withReceiving remote incoming u
      simp only
      generalize c.sendFragment u = sent at hsame
      generalize (c.withReceiving remote incoming).sendFragment u = sent' at hsame
      cases hsame with
      | refused fault => exact .refused fault
      | sent after hbytes => exact .sent after (congrArg some hbytes)

end

theorem transmitNext_withIncoming (c : Channel) (incoming : Incoming) :
    (c.withIncoming incoming).transmitNext =
      c.transmitNext.map fun (d?, after) => (d?, after.withIncoming incoming) := by
  have hunsent : (c.withIncoming incoming).outgoing = c.outgoing := rfl
  unfold transmitNext
  rw [hunsent]
  cases c.outgoing.unsent with
  | none => rfl
  | some u =>
      simp only [c.sendFragment_withIncoming incoming u]
      cases c.sendFragment u <;> rfl

/-- What receiving leaves of the sending half. -/
theorem receive_withReceiving (c : Channel) (source : Address) (datagram : ByteArray)
    (remote : Address) (incoming : Incoming) :
    (c.receive source (.ofBytes datagram)).2.withReceiving remote incoming =
      c.withReceiving remote incoming := by
  obtain ⟨remote', incoming', hframe, -⟩ := c.receive_frame source datagram
  rw [hframe]
  rfl

/-- The bytes of what is sent, on any channel. -/
theorem half_sending :
    Half (fun _ => True) Call.sends (fun c => c.withReceiving .loopback {}) emittedBytes? where
  keeps := fun _ _ _ => trivial
  own := by
    intro c call hsends
    cases call with
    | transmit message =>
        have hsame := c.transmit_withReceiving .loopback {} message
        simp only [perform, emittedBytes?, emission?]
        generalize c.transmit message = sent at hsame
        generalize (c.withReceiving .loopback {}).transmit message = sent' at hsame
        cases hsame with
        | refused fault => exact ⟨rfl, rfl⟩
        | sent after hbytes => exact ⟨rfl, by simp [Except.map, hbytes]⟩
    | transmitNext =>
        have hsame := c.transmitNext_withReceiving .loopback {}
        simp only [perform, emittedBytes?, emission?]
        generalize c.transmitNext = sent at hsame
        generalize (c.withReceiving .loopback {}).transmitNext = sent' at hsame
        cases hsame with
        | refused fault => exact ⟨rfl, rfl⟩
        | sent after hbytes => exact ⟨rfl, by simp [Except.map, hbytes]⟩
    | receive source datagram => cases hsends
  other := by
    intro c call _ hreceives
    cases call with
    | transmit message => cases hreceives
    | transmitNext => cases hreceives
    | receive source datagram =>
        exact ⟨c.receive_withReceiving source datagram .loopback {}, rfl⟩

/-- A sending call changes only the sending half. -/
theorem frame_perform (c : Channel) {call : Call} (hsends : call.sends = true) :
    ∃ outgoing, c.perform call = { c with outgoing } := by
  cases call with
  | transmit message =>
      simp only [perform]
      split
      · next heq => exact frame_of_transmit heq
      · exact ⟨c.outgoing, rfl⟩
  | transmitNext =>
      simp only [perform]
      split
      · next heq => exact frame_of_transmitNext heq
      · exact ⟨c.outgoing, rfl⟩
  | receive source datagram => cases hsends

theorem side_perform (c : Channel) (call : Call) : (c.perform call).side = c.side := by
  cases hsends : call.sends with
  | true =>
      obtain ⟨outgoing, hframe⟩ := c.frame_perform hsends
      rw [hframe]
  | false =>
      cases call with
      | transmit message => cases hsends
      | transmitNext => cases hsends
      | receive source datagram => exact (c.receive_keeps source datagram).1

/-- What is sent with where it goes, on a client's end. -/
theorem half_sending_client :
    Half (fun c => c.side = .client) Call.sends (fun c => c.withIncoming {}) emission? where
  keeps := fun c call hside => (c.side_perform call).trans hside
  own := by
    intro c call hsends
    cases call with
    | transmit message =>
        simp only [perform, emission?, c.transmit_withIncoming {} message]
        cases c.transmit message <;> exact ⟨rfl, rfl⟩
    | transmitNext =>
        simp only [perform, emission?, c.transmitNext_withIncoming {}]
        cases c.transmitNext <;> exact ⟨rfl, rfl⟩
    | receive source datagram => cases hsends
  other := by
    intro c call hside hreceives
    cases call with
    | transmit message => cases hreceives
    | transmitNext => cases hreceives
    | receive source datagram =>
        have hremote := remote_receive_client hside source datagram
        obtain ⟨remote, incoming, hframe, -⟩ := c.receive_frame source datagram
        rw [hframe] at hremote
        refine ⟨?_, rfl⟩
        simp only [perform, hframe]
        rw [show remote = c.remote from hremote]
        rfl

/-! ## Receiving does not look at what is sent -/

/-- The channel with another sending half. -/
def withOutgoing (c : Channel) (outgoing : Outgoing) : Channel := { c with outgoing }

section
variable (c : Channel) (outgoing : Outgoing) (source : Address) (sequence : UInt32)
  (cursor : Cursor)

theorem abandon_withOutgoing :
    (c.withOutgoing outgoing).abandon sequence =
      Prod.map id (·.withOutgoing outgoing) (c.abandon sequence) := by
  have hincoming : (c.withOutgoing outgoing).incoming = c.incoming := rfl
  unfold abandon
  rw [hincoming]
  cases c.incoming.assembly <;> rfl

theorem receiveWhole_withOutgoing :
    (c.withOutgoing outgoing).receiveWhole source sequence cursor =
      Prod.map id (·.withOutgoing outgoing) (c.receiveWhole source sequence cursor) := by
  unfold receiveWhole
  rw [abandon_withOutgoing]
  rfl

theorem gather_withOutgoing :
    (c.withOutgoing outgoing).gather sequence =
      Prod.map id (·.withOutgoing outgoing) (c.gather sequence) := by
  have hincoming : (c.withOutgoing outgoing).incoming = c.incoming := rfl
  unfold gather
  rw [hincoming, abandon_withOutgoing]
  split <;> rfl

theorem appendFragment_withOutgoing (fragment : Fragment) :
    (c.withOutgoing outgoing).appendFragment source sequence fragment cursor =
      Prod.map id (·.withOutgoing outgoing)
        (c.appendFragment source sequence fragment cursor) := by
  have hincoming : (c.withOutgoing outgoing).incoming = c.incoming := rfl
  unfold appendFragment
  rw [hincoming]
  split
  · rfl
  · split
    · rfl
    · split
      · rfl
      · unfold settle
        split <;> rfl

theorem receiveFragment_withOutgoing (fragment : Fragment) :
    (c.withOutgoing outgoing).receiveFragment source sequence fragment cursor =
      Prod.map id (·.withOutgoing outgoing)
        (c.receiveFragment source sequence fragment cursor) := by
  have hincoming : (c.withOutgoing outgoing).incoming = c.incoming := rfl
  unfold receiveFragment
  rw [hincoming, gather_withOutgoing]
  split
  · rfl
  · simp only [Prod.map, appendFragment_withOutgoing]
    rfl

theorem receive_withOutgoing (datagram : Cursor) :
    (c.withOutgoing outgoing).receive source datagram =
      Prod.map id (·.withOutgoing outgoing) (c.receive source datagram) := by
  have hside : (c.withOutgoing outgoing).side = c.side := rfl
  have hrefusal : ∀ header, (c.withOutgoing outgoing).refusal? source header =
      c.refusal? source header := fun _ => rfl
  unfold receive
  rw [hside]
  split
  · rfl
  · split
    · rfl
    · rw [hrefusal]
      split
      · rfl
      · split
        · exact c.receiveWhole_withOutgoing outgoing source _ _
        · exact c.receiveFragment_withOutgoing outgoing source _ _ _

end

theorem half_receiving :
    Half (fun _ => True) (fun call => !call.sends) (fun c => c.withOutgoing {}) intake? where
  keeps := fun _ _ _ => trivial
  own := by
    intro c call hreceives
    cases call with
    | transmit message => cases hreceives
    | transmitNext => cases hreceives
    | receive source datagram =>
        simp only [perform, intake?, c.receive_withOutgoing {} source (.ofBytes datagram)]
        exact ⟨rfl, rfl⟩
  other := by
    intro c call _ huses
    have hsends : call.sends = true := by simpa using huses
    obtain ⟨outgoing, hframe⟩ := c.frame_perform hsends
    refine ⟨by rw [hframe]; rfl, ?_⟩
    cases call with
    | transmit message => rfl
    | transmitNext => rfl
    | receive source datagram => cases hsends

/-! ## Interleaved runs -/

/-- However sending and receiving calls are interleaved, each kind does what it does
without the other: the sending calls put out the same bytes, on a client's end to the same
destinations, and the receiving calls give the same receipts and go through the same
states.  Behind the run each half is where its own calls alone bring it. -/
theorem directions_apart (c : Channel) (calls : List Call) :
    c.seen emittedBytes? calls = c.seen emittedBytes? (calls.filter Call.sends) ∧
      (c.side = .client →
        c.seen emission? calls = c.seen emission? (calls.filter Call.sends)) ∧
      c.seen intake? calls = c.seen intake? (calls.filter fun call => !call.sends) ∧
      (c.run calls).outgoing = (c.run (calls.filter Call.sends)).outgoing ∧
      (c.run calls).incoming = (c.run (calls.filter fun call => !call.sends)).incoming ∧
      (c.run calls).remote = (c.run (calls.filter fun call => !call.sends)).remote := by
  obtain ⟨hbytes, houtgoing⟩ := half_sending.run_filter (c := c) trivial rfl calls
  obtain ⟨hintakes, hreceiving⟩ := half_receiving.run_filter (c := c) trivial rfl calls
  refine ⟨hbytes, ?_, hintakes, (congrArg Channel.outgoing houtgoing :),
    (congrArg Channel.incoming hreceiving :), (congrArg Channel.remote hreceiving :)⟩
  intro hside
  exact (half_sending_client.run_filter hside rfl calls).1

theorem run_singleton (c : Channel) (call : Call) : c.run [call] = c.perform call := rfl

/-- A long message is begun with a full fragment. -/
theorem unsent_perform_transmit {c : Channel} {message : ByteArray}
    (hsendable : Sequence.Sendable c.outgoing.sequence) (hidle : c.isBusy = false)
    (hlong : maxUnfragmentedSize < message.size) :
    (c.perform (.transmit message)).outgoing.unsent = some ⟨message, fragmentSize⟩ := by
  have hshort : fragmentSize ≤ maxUnfragmentedSize := by decide
  have hlength : Unsent.nextLength ⟨message, 0⟩ = fragmentSize :=
    Nat.min_eq_left (hshort.trans hlong.le)
  have hnext : Unsent.next? ⟨message, 0⟩ = some ⟨message, fragmentSize⟩ := by
    rw [Unsent.next?, Unsent.nextStop, hlength, if_neg (Nat.lt_irrefl _), Nat.zero_add]
  have hsend : c.transmit message = c.sendFragment ⟨message, 0⟩ := by
    rw [transmit, hidle, if_neg Bool.false_ne_true, if_pos hlong]
  rw [perform, hsend, sendFragment_eq hsendable, advance, hnext]

/-- The first fragment of a reply comes between the two of a request.  Both messages are half done
then, and each goes on as it does without the other one. -/
theorem directions_apart_between_fragments :
    let c := setup .client .loopback 7 false
    let request := Bytes.fill 81 2000
    let reply := Bytes.fill 65 1400
    let first := Call.receive .loopback (Packet.fragment none 1 ⟨reply, 0⟩).bytes
    c.side = .client ∧
      (c.run [.transmit request, first]).outgoing.unsent = some ⟨request, fragmentSize⟩ ∧
      (c.run [.transmit request, first]).incoming.assembly =
        .gathering 1 (reply.extract 0 fragmentSize) ∧
      c.seen emission? [.transmit request, first, .transmitNext] =
        c.seen emission? [.transmit request, .transmitNext] ∧
      c.seen intake? [.transmit request, first, .transmitNext] = c.seen intake? [first] := by
  intro c request reply first
  have hrequest : request.size = 2000 := Bytes.size_generate 2000 _
  have hreply : reply.size = 1400 := Bytes.size_generate 1400 _
  clear_value request reply
  have hstarted : (c.perform (.transmit request)).outgoing.unsent = some ⟨request, fragmentSize⟩ :=
    unsent_perform_transmit (by decide) rfl (by rw [hrequest]; decide)
  have hfirst : first = .receive c.remote (Packet.fragment c.peerStamp 1 ⟨reply, 0⟩).bytes := rfl
  have hgathered : c.perform first = c.gathering 1 (reply.extract 0 fragmentSize) {} := by
    rw [hfirst, perform]
    exact receive_first_fragment (by decide) (by decide) (Option.some_ne_none 1).symm
      (by rw [hreply]; decide) (by rw [hreply]; decide)
  have hsends : [.transmit request, first].filter Call.sends = [.transmit request] := rfl
  have hreceives : [.transmit request, first].filter (fun call => !call.sends) = [first] := rfl
  obtain ⟨-, -, -, houtgoing, hincoming, -⟩ := directions_apart c [.transmit request, first]
  obtain ⟨-, hemitted, htaken, -⟩ :=
    directions_apart c [.transmit request, first, .transmitNext]
  rw [hsends] at houtgoing
  rw [hreceives] at hincoming
  refine ⟨rfl, ?_, ?_, hemitted rfl, htaken⟩
  · rw [houtgoing, run_singleton, hstarted]
  · rw [hincoming, run_singleton, hgathered]
    rfl

end Channel
end DatagramLink

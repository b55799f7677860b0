import DatagramLink.Channel.Exchange
import DatagramLink.Proofs.ReceiptCases

/-!
# What calls leave of a channel

Receiving leaves the sending direction alone, and of what names the other end it changes
at most the port.  Sending changes nothing but the sending direction, also where a fault
stops it.
-/

namespace DatagramLink

open Std.Net

/-! ## Hosts -/

/-- The host of an address; loopback has none. -/
def Address.host? : Address → Option IPAddr
  | .loopback => none
  | .remote endpoint => some endpoint.host

theorem Address.sameHost_iff (a b : Address) : a.sameHost b = true ↔ a.host? = b.host? := by
  cases a <;> cases b <;> simp [sameHost, host?]

namespace Channel

theorem host_of_recognizes {c : Channel} {source : Address}
    (hrecognizes : c.recognizes source = true) :
    source.host? = c.remote.host? := by
  simp only [recognizes, Bool.or_eq_true, beq_iff_eq, Bool.and_eq_true] at hrecognizes
  rcases hrecognizes with hsame | ⟨-, hhost⟩
  · rw [hsame]
  · exact (Address.sameHost_iff _ _).mp hhost

/-- Receiving changes only the receiving direction and the peer's address, which becomes
the source of a complete message that the channel recognizes. -/
theorem receive_frame (c : Channel) (source : Address) (datagram : ByteArray) :
    ∃ remote incoming,
      (c.receive source (.ofBytes datagram)).2 = { c with remote, incoming } ∧
        (remote = c.remote ∨ remote = source ∧ c.recognizes source = true) := by
  obtain ⟨verdict, message?, after, -, -, hafter, hreceives⟩ := c.receives source datagram
  rw [hafter]
  cases hreceives with
  | ignored hconnectionless => exact ⟨c.remote, c.incoming, rfl, Or.inl rfl⟩
  | dropped hsequenced hdrops => exact ⟨c.remote, _, rfl, Or.inl rfl⟩
  | whole htakes hwhole => exact ⟨source, _, rfl, Or.inr ⟨rfl, htakes.recognized⟩⟩
  | misplaced htakes hfragment hlegal hmisplaced =>
      exact ⟨c.remote, _, rfl, Or.inl rfl⟩
  | added htakes hfragment hlegal hcontinues hmore =>
      exact ⟨c.remote, _, rfl, Or.inl rfl⟩
  | completed htakes hfragment hlegal hcontinues hlast =>
      exact ⟨source, _, rfl, Or.inr ⟨rfl, htakes.recognized⟩⟩

/-- Receiving keeps the sending direction and all that names the other end but its
port. -/
theorem receive_keeps (c : Channel) (source : Address) (datagram : ByteArray) :
    (c.receive source (.ofBytes datagram)).2.side = c.side ∧
      (c.receive source (.ofBytes datagram)).2.qport = c.qport ∧
      (c.receive source (.ofBytes datagram)).2.remote.host? = c.remote.host? ∧
      (c.receive source (.ofBytes datagram)).2.outgoing = c.outgoing := by
  obtain ⟨remote, incoming, hframe, hremote⟩ := c.receive_frame source datagram
  rw [hframe]
  refine ⟨rfl, rfl, ?_, rfl⟩
  rcases hremote with rfl | ⟨rfl, hrecognizes⟩
  · rfl
  · exact host_of_recognizes hrecognizes

/-- A client's end never follows a changed port. -/
theorem remote_receive_client {c : Channel} (hside : c.side = .client) (source : Address)
    (datagram : ByteArray) :
    (c.receive source (.ofBytes datagram)).2.remote = c.remote := by
  obtain ⟨remote, incoming, hframe, hremote⟩ := c.receive_frame source datagram
  rw [hframe]
  rcases hremote with rfl | ⟨rfl, hrecognizes⟩
  · rfl
  · simpa [recognizes, hside] using hrecognizes

/-! ## Sending changes only the sending direction -/

theorem frame_of_sendFragment {c after : Channel} {u : Unsent} {d : Dispatch}
    (hsend : c.sendFragment u = .ok (d, after)) :
    ∃ outgoing, after = { c with outgoing } := by
  unfold sendFragment at hsend
  cases hencode : (c.header (some u.nextFragment)).encode with
  | error fault =>
      rw [hencode] at hsend
      cases hsend
  | ok bytes =>
      rw [hencode] at hsend
      cases hsend
      unfold advance
      cases u.next? with
      | none => exact ⟨_, rfl⟩
      | some rest => exact ⟨_, rfl⟩

theorem frame_of_transmit {c after : Channel} {message : ByteArray} {d : Dispatch}
    (hsend : c.transmit message = .ok (d, after)) :
    ∃ outgoing, after = { c with outgoing } := by
  unfold transmit at hsend
  split at hsend
  · cases hsend
  · split at hsend
    · exact frame_of_sendFragment hsend
    · unfold sendWhole at hsend
      cases hencode : (c.header none).encode with
      | error fault =>
          rw [hencode] at hsend
          cases hsend
      | ok bytes =>
          rw [hencode] at hsend
          cases hsend
          exact ⟨_, rfl⟩

theorem frame_of_transmitNext {c after : Channel} {d? : Option Dispatch}
    (hsend : c.transmitNext = .ok (d?, after)) :
    ∃ outgoing, after = { c with outgoing } := by
  unfold transmitNext at hsend
  split at hsend
  · cases hsend
    exact ⟨c.outgoing, rfl⟩
  · next u heq =>
      cases hfragment : c.sendFragment u with
      | error fault =>
          rw [hfragment] at hsend
          cases hsend
      | ok sent =>
          rw [hfragment] at hsend
          cases hsend
          exact frame_of_sendFragment hfragment

theorem frame_of_pump {c : Channel} {queue : List ByteArray} {budget : Nat}
    {pumped : Pumped} (hpump : c.pump queue budget = .ok pumped) :
    ∃ outgoing, pumped.channel = { c with outgoing } := by
  induction budget generalizing c queue pumped with
  | zero =>
      cases hpump
      exact ⟨c.outgoing, rfl⟩
  | succ budget ih =>
      -- both sending branches go on from a channel that differs in its sending direction
      have hstep : ∀ {after : Channel} {rest : List ByteArray} {d : Dispatch},
          (∃ outgoing, after = { c with outgoing }) →
          (do
            let more ← after.pump rest budget
            return { more with dispatches := d :: more.dispatches } :
              Except Fault Pumped) = .ok pumped →
          ∃ outgoing, pumped.channel = { c with outgoing } := by
        rintro _ rest d ⟨outgoing, rfl⟩ hrest
        cases hmore : pump { c with outgoing } rest budget with
        | error fault =>
            rw [hmore] at hrest
            cases hrest
        | ok more =>
            rw [hmore] at hrest
            cases hrest
            obtain ⟨outgoing', hframe⟩ := ih hmore
            exact ⟨outgoing', hframe⟩
      unfold pump at hpump
      split at hpump
      · next u heq =>
          cases hsend : c.sendFragment u with
          | error fault =>
              rw [hsend] at hpump
              cases hpump
          | ok sent =>
              rw [hsend] at hpump
              exact hstep (frame_of_sendFragment hsend) hpump
      · next message rest heq =>
          cases hsend : c.transmit message with
          | error fault =>
              rw [hsend] at hpump
              cases hpump
          | ok sent =>
              rw [hsend] at hpump
              exact hstep (frame_of_transmit hsend) hpump
      · cases hpump
        exact ⟨c.outgoing, rfl⟩

theorem frame_prepared (c : Channel) (queue : List ByteArray) :
    ∃ outgoing, (c.prepared queue).1 = { c with outgoing } := by
  unfold prepared
  split
  · split
    · exact ⟨_, rfl⟩
    · exact ⟨_, rfl⟩
  · exact ⟨c.outgoing, rfl⟩

/-- Shipping changes only the sending direction, also when a fault stops it. -/
theorem frame_ship (c : Channel) (h : Hub) (queue : List ByteArray) (budget : Nat)
    (now : Instant) :
    ∃ outgoing, (c.ship h queue budget now).reached.channel = { c with outgoing } := by
  unfold ship
  cases hpump : c.pump queue budget with
  | error fault => exact ⟨c.outgoing, rfl⟩
  | ok pumped =>
      simp only
      split
      · exact frame_of_pump hpump
      · next count reached fault heq =>
          simp only [interrupted]
          cases hagain : c.pump queue count with
          | error fault => exact ⟨c.outgoing, rfl⟩
          | ok part =>
              obtain ⟨outgoing, hframe⟩ := frame_of_pump hagain
              obtain ⟨outgoing', hprepared⟩ := part.channel.frame_prepared part.queue
              refine ⟨outgoing', hprepared.trans ?_⟩
              rw [hframe]

end Channel

end DatagramLink

import DatagramLink.Opening
import DatagramLink.Channel.Exchange
import DatagramLink.Proofs.ChannelFrame
import DatagramLink.Proofs.FrameLoops

/-!
# Traffic between hosts

A hub between two hosts never invents datagrams.  What leaves it was given to it by its
own side, at once or out of the delay line, and what a poll finds is what the network
delivered.  So a property of all datagrams that a side tells, or hears, is kept by
everything that the hub does (`Hub.Traffic`), whatever is lost or delayed on purpose.
-/

namespace DatagramLink
namespace Hub

/-- What the hub of a side on the network holds: nothing over loopback, only datagrams
to send that the side `tells`, and only received ones that it `hears`. -/
structure Traffic (h : Hub) (side : Side) (tells : ByteArray → Prop)
    (hears : Endpoint → ByteArray → Prop) : Prop where
  ring : (h.ringOf side).unread = []
  held : ∀ x ∈ h.delayed.held, tells x.datagram.bytes
  offered : ∀ o ∈ h.socket.offers, tells o.datagram.bytes
  inbound : ∀ source bytes, .datagram bytes source ∈ h.socket.inbound → hears source bytes

variable {h : Hub} {side : Side} {tells tells' : ByteArray → Prop}
  {hears hears' : Endpoint → ByteArray → Prop}

theorem traffic_ofSocket (settings : Settings) (dice : Dice) (address : Endpoint) :
    (ofSocket settings dice address).Traffic side tells hears where
  ring := by cases side <;> rfl
  held := by simp [ofSocket, DelayLine.empty]
  offered := by simp [ofSocket, Socket.bound]
  inbound := by simp [ofSocket, Socket.bound]

theorem Traffic.mono (htraffic : h.Traffic side tells hears)
    (htells : ∀ bytes, tells bytes → tells' bytes)
    (hhears : ∀ source bytes, hears source bytes → hears' source bytes) :
    h.Traffic side tells' hears' where
  ring := htraffic.ring
  held := fun x hx => htells _ (htraffic.held x hx)
  offered := fun o ho => htells _ (htraffic.offered o ho)
  inbound := fun source bytes hmem => hhears _ _ (htraffic.inbound source bytes hmem)

/-! ## Sending -/

theorem Traffic.report (htraffic : h.Traffic side tells hears) (records : List Record) :
    (h.report records).Traffic side tells hears :=
  ⟨htraffic.ring, htraffic.held, htraffic.offered, htraffic.inbound⟩

theorem Traffic.reportIf (htraffic : h.Traffic side tells hears) (shown : Bool)
    (record : Record) :
    (h.reportIf shown record).Traffic side tells hears := by
  unfold Hub.reportIf
  split
  · exact htraffic.report [record]
  · exact htraffic

theorem Traffic.rollLoss (htraffic : h.Traffic side tells hears) :
    h.rollLoss.2.Traffic side tells hears := by
  unfold Hub.rollLoss
  split
  · exact ⟨htraffic.ring, htraffic.held, htraffic.offered, htraffic.inbound⟩
  · exact htraffic

theorem Traffic.rollDelay (htraffic : h.Traffic side tells hears) (sender : Side) :
    (h.rollDelay sender).2.Traffic side tells hears := by
  unfold Hub.rollDelay
  split
  · exact ⟨htraffic.ring, htraffic.held, htraffic.offered, htraffic.inbound⟩
  · exact htraffic

theorem Traffic.offer (htraffic : h.Traffic side tells hears) {d : Datagram}
    (htells : tells d.bytes) (attempt : String) :
    (h.offer d attempt).Traffic side tells hears := by
  have hsent : ({ h with socket := (h.socket.send d).2 } : Hub).Traffic side tells hears := by
    refine ⟨htraffic.ring, htraffic.held, ?_, htraffic.inbound⟩
    intro o ho
    simp only [Socket.send, Array.mem_push] at ho
    rcases ho with ho | rfl
    · exact htraffic.offered o ho
    · exact htells
  unfold Hub.offer
  cases hsend : h.socket.send d with
  | mk refusal socket =>
      rw [hsend] at hsent
      cases refusal with
      | none => exact hsent
      | some reason => exact hsent.report _

theorem Traffic.hold (htraffic : h.Traffic side tells hears) {d : Datagram}
    (htells : tells d.bytes) (sender : Side) (now : Instant) :
    (h.hold sender d now).reached.Traffic side tells hears := by
  have hrolled := htraffic.rollDelay sender
  unfold Hub.hold
  cases hroll : h.rollDelay sender with
  | mk delay rolled =>
      rw [hroll] at hrolled
      cases delay with
      | none => exact hrolled
      | some delay =>
          refine ⟨hrolled.ring, ?_, hrolled.offered, hrolled.inbound⟩
          intro x hx
          rcases List.mem_append.mp hx with hx | hx
          · exact hrolled.held x hx
          · rw [List.mem_singleton.mp hx]
            exact htells

theorem Traffic.sendRemote (htraffic : h.Traffic side tells hears) {d : Datagram}
    (htells : tells d.bytes) (sender : Side) (now : Instant) :
    (h.sendRemote sender d now).reached.Traffic side tells hears := by
  have hrolled := htraffic.rollLoss
  unfold Hub.sendRemote
  cases hroll : h.rollLoss with
  | mk lost rolled =>
      rw [hroll] at hrolled
      cases lost with
      | true => exact hrolled.reportIf _ _
      | false =>
          simp only
          split
          · exact hrolled.hold htells sender now
          · exact hrolled.offer htells _

theorem Traffic.send (htraffic : h.Traffic side tells hears) {bytes : ByteArray}
    (htells : tells bytes) (sender : Side) (target : Endpoint) (now : Instant) :
    (h.send sender bytes (.remote target) now).reached.Traffic side tells hears :=
  (htraffic.reportIf _ _).sendRemote htells sender now

theorem Traffic.dispatchAll (htraffic : h.Traffic side tells hears) {sent : List Dispatch}
    (htells : ∀ d ∈ sent, tells d.bytes ∧ ∃ target, d.target = .remote target)
    (now : Instant) :
    (h.dispatchAll sent now).reached.2.Traffic side tells hears := by
  induction sent generalizing h with
  | nil => exact htraffic
  | cons d sent ih =>
      obtain ⟨hbytes, target, htarget⟩ := htells d List.mem_cons_self
      have hfirst : (h.dispatch d now).reached.Traffic side tells hears := by
        rw [Hub.dispatch, htarget]
        exact (htraffic.report _).send hbytes d.side target now
      have hrest := ih hfirst fun e he => htells e (List.mem_cons_of_mem _ he)
      rw [Hub.dispatchAll]
      cases hdispatch : h.dispatch d now with
      | mk after fault =>
          rw [hdispatch] at hfirst hrest
          cases fault with
          | none => exact hrest
          | some fault => exact hfirst

theorem Traffic.flush (htraffic : h.Traffic side tells hears) (now : Instant) :
    (h.flush now).2.Traffic side tells hears := by
  have hfold : ∀ (due : List Held) {g : Hub}, g.Traffic side tells hears →
      (∀ x ∈ due, tells x.datagram.bytes) →
      (due.foldl (fun g x => g.offer x.datagram "flush delayed packet") g).Traffic side
        tells hears := by
    intro due
    induction due with
    | nil => exact fun htraffic _ => htraffic
    | cons x due ih =>
        intro g hg hdue
        exact ih (hg.offer (hdue x List.mem_cons_self) _)
          fun y hy => hdue y (List.mem_cons_of_mem _ hy)
  have hleft : ({ h with delayed := (h.delayed.release now).2 } : Hub).Traffic side tells
      hears := by
    refine ⟨htraffic.ring, ?_, htraffic.offered, htraffic.inbound⟩
    intro x hx
    exact htraffic.held x ((List.mem_filter.mp hx).1)
  apply hfold _ hleft
  intro x hx
  exact htraffic.held x ((List.mem_filter.mp hx).1)

/-! ## Polling -/

theorem received_of_fits {bytes : ByteArray}
    (hfits : ¬ receiveBufferSize ≤ (received bytes).size) :
    received bytes = bytes := by
  rw [received, ByteArray.size_extract] at hfits
  have hlong : receiveBufferSize = max receiveBufferSize bytes.size := by
    omega
  rw [received, hlong]
  exact ByteArray.extract_zero_max_size

/-- What is taken from the inbound queue was in it, and so was everything that stays. -/
theorem pollInbound_spec (settings : Settings) (side : Side) (inbound : List Arrival) :
    (∀ x ∈ (pollInbound settings side inbound).2, x ∈ inbound) ∧
      ∀ source bytes, (pollInbound settings side inbound).1.found = some (source, bytes) →
        ∃ endpoint, source = .remote endpoint ∧ .datagram bytes endpoint ∈ inbound := by
  induction inbound with
  | nil => simp [pollInbound]
  | cons arrival inbound ih =>
      cases arrival with
      | failure reason =>
          constructor
          · intro x hx
            exact List.mem_cons_of_mem _ hx
          · simp [pollInbound]
      | datagram bytes endpoint =>
          by_cases hfull : receiveBufferSize ≤ (received bytes).size
          · simp only [pollInbound, if_pos hfull]
            constructor
            · intro x hx
              exact List.mem_cons_of_mem _ (ih.1 x hx)
            · intro source found hfound
              obtain ⟨sender, hsource, hmem⟩ := ih.2 source found hfound
              exact ⟨sender, hsource, List.mem_cons_of_mem _ hmem⟩
          · simp only [pollInbound, if_neg hfull]
            constructor
            · intro x hx
              exact List.mem_cons_of_mem _ hx
            · intro source found hfound
              rw [received_of_fits hfull] at hfound
              cases hfound
              exact ⟨endpoint, rfl, List.mem_cons_self⟩

theorem Traffic.poll (htraffic : h.Traffic side tells hears) :
    (h.poll side).2.Traffic side tells hears ∧
      ∀ source bytes, (h.poll side).1.found = some (source, bytes) →
        ∃ endpoint, source = .remote endpoint ∧ hears endpoint bytes := by
  have hring : h.pollRing side = (none, h) := by
    rw [pollRing, Ring.pop_of_unread_eq_nil htraffic.ring]
    cases side <;> rfl
  have hpoll : h.poll side = h.pollSocket side := by
    rw [Hub.poll, hring]
  obtain ⟨hleft, hfound⟩ := pollInbound_spec h.settings side h.socket.inbound
  rw [hpoll]
  constructor
  · refine ⟨htraffic.ring, htraffic.held, htraffic.offered, ?_⟩
    intro source bytes hmem
    exact htraffic.inbound source bytes (hleft _ hmem)
  · intro source bytes hsome
    obtain ⟨endpoint, hsource, hmem⟩ := hfound source bytes hsome
    exact ⟨endpoint, hsource, htraffic.inbound endpoint bytes hmem⟩

theorem Traffic.drain (htraffic : h.Traffic side tells hears) :
    (h.drain side).2.Traffic side tells hears ∧
      ∀ poll ∈ (h.drain side).1, ∀ source bytes, poll.found = some (source, bytes) →
        ∃ endpoint, source = .remote endpoint ∧ hears endpoint bytes := by
  induction hwaiting : h.waiting side using Nat.strong_induction_on generalizing h with
  | _ waiting ih =>
      obtain ⟨hrest, hfound⟩ := htraffic.poll
      cases hpoll : h.poll side with
      | mk poll rest =>
          rw [hpoll] at hrest hfound
          cases hsome : poll.found.isSome with
          | false =>
              have hnone : poll.found = none := by simpa using hsome
              rw [drain_of_none hpoll hnone]
              refine ⟨hrest, ?_⟩
              intro other hother source bytes hother'
              rw [List.mem_singleton.mp hother] at hother'
              exact hfound source bytes hother'
          | true =>
              have hless := h.waiting_poll side (by rw [hpoll]; exact hsome)
              rw [hpoll, hwaiting] at hless
              obtain ⟨hlast, hlater⟩ := ih _ hless hrest rfl
              rw [drain_of_some hpoll hsome]
              refine ⟨hlast, ?_⟩
              intro other hother source bytes hother'
              rcases List.mem_cons.mp hother with rfl | hother
              · exact hfound source bytes hother'
              · exact hlater other hother source bytes hother'

theorem Traffic.deliver (htraffic : h.Traffic side tells hears) {arrivals : List Arrival}
    (hhears : ∀ source bytes, .datagram bytes source ∈ arrivals → hears source bytes) :
    (h.deliver arrivals).Traffic side tells hears := by
  refine ⟨htraffic.ring, htraffic.held, ?_, ?_⟩
  · unfold Hub.deliver Socket.deliver
    cases h.socket.address <;> exact htraffic.offered
  · intro source bytes hmem
    unfold Hub.deliver Socket.deliver at hmem
    cases haddress : h.socket.address with
    | none =>
        rw [haddress] at hmem
        exact htraffic.inbound source bytes hmem
    | some address =>
        rw [haddress] at hmem
        rcases List.mem_append.mp hmem with hmem | hmem
        · exact htraffic.inbound source bytes hmem
        · exact hhears source bytes hmem

end Hub

/-! ## Channels on a network -/

namespace Channel

/-- What receiving leaves of a channel: everything but its receiving direction and its
peer's address, which stays or becomes the source. -/
structure Follows (c : Channel) (source : Address) (after : Channel) : Prop where
  frame : ∃ remote incoming, after = { c with remote, incoming }
  remote : after.remote = c.remote ∨ after.remote = source

theorem follows_receive (c : Channel) (source : Address) (datagram : ByteArray) :
    c.Follows source (c.receive source (.ofBytes datagram)).2 := by
  obtain ⟨remote, incoming, hframe, hremote⟩ := c.receive_frame source datagram
  rw [hframe]
  exact ⟨⟨remote, incoming, rfl⟩, hremote.imp_right And.left⟩

structure Reaches (c : Channel) (peer : Endpoint) : Prop where
  remote : c.remote = .remote peer
  aligned : c.Aligned

section
variable {c : Channel} {peer : Endpoint} {side : Side} {tells : ByteArray → Prop}
  {hears : Endpoint → ByteArray → Prop} {h : Hub}

theorem Reaches.receive (hreaches : c.Reaches peer) (datagram : ByteArray) :
    (c.receive (.remote peer) (.ofBytes datagram)).2.Reaches peer := by
  have hfollows := c.follows_receive (.remote peer) datagram
  obtain ⟨remote, incoming, hframe⟩ := hfollows.frame
  constructor
  · rcases hfollows.remote with hkept | hsource
    · rw [hkept]
      exact hreaches.remote
    · exact hsource
  · rw [hframe]
    exact ⟨hreaches.aligned.sendable, hreaches.aligned.unsent⟩

theorem sendable_of_mem_pending (hsendable : Sequence.Sendable c.outgoing.sequence)
    {queue : List ByteArray} {p : Packet} (hp : p ∈ c.pending queue) :
    Sequence.Sendable p.header.sequence := by
  have hstream : ∀ {sequence messages}, Sequence.Sendable sequence →
      p ∈ Packet.stream c.stamp sequence messages →
        Sequence.Sendable p.header.sequence := by
    intro sequence messages hfirst hmem
    obtain ⟨i, message, -, hmessage⟩ := Packet.exists_of_mem_stream hmem
    rw [Packet.sequence_of_mem hmessage]
    cases i with
    | zero => exact hfirst
    | succ i => exact Sequence.next_sendable _
  cases hunsent : c.outgoing.unsent with
  | none =>
      simp only [pending, hunsent] at hp
      exact hstream hsendable hp
  | some u =>
      simp only [pending, hunsent, List.mem_append] at hp
      rcases hp with hp | hp
      · obtain ⟨i, -, rfl⟩ := List.mem_map.mp hp
        exact hsendable
      · exact hstream (Sequence.next_sendable _) hp

/-- Nothing that a channel sends looks like a connectionless datagram. -/
theorem Sending.sequenced {queue rest : List ByteArray} {sent : List Dispatch}
    {after : Channel} (hsending : c.Sending queue sent after rest) (haligned : c.Aligned) :
    ∀ d ∈ sent, isConnectionless d.bytes = false := by
  intro d hd
  obtain ⟨packets, hbytes, hpending⟩ := hsending.pending
  have hmem : d.bytes ∈ packets.map Packet.bytes := by
    rw [← hbytes]
    exact List.mem_map_of_mem hd
  obtain ⟨p, hp, hpacket⟩ := List.mem_map.mp hmem
  have hpart : p ∈ c.pending (queue ++ []) := by
    rw [hpending []]
    exact List.mem_append_left _ hp
  rw [← hpacket]
  exact Header.isConnectionless_bytes_append
    (sendable_of_mem_pending haligned.sendable hpart) p.payload

/-- A hub that stops in the middle of a share leaves a channel that can go on. -/
theorem interrupted_spec (haligned : c.Aligned) (queue : List ByteArray) (count : Nat) :
    ∃ outgoing, (c.interrupted queue count).1 = { c with outgoing } ∧
      (c.interrupted queue count).1.Aligned := by
  obtain ⟨pumped, hpump, hsending, -, -⟩ := pump_spec haligned queue count
  obtain ⟨outgoing, hframe⟩ := hsending.frame
  have hready := hsending.aligned
  simp only [interrupted, hpump]
  unfold prepared
  cases hunsent : pumped.channel.outgoing.unsent with
  | some u => exact ⟨outgoing, hframe, hready⟩
  | none =>
      cases pumped.queue with
      | nil => exact ⟨outgoing, hframe, hready⟩
      | cons message rest =>
          simp only
          split
          · refine ⟨_, by rw [hframe], hready.sendable, ?_⟩
            intro u hu
            cases hu
            exact ⟨0, Nat.zero_le _, rfl⟩
          · refine ⟨_, by rw [hframe, finishMessage], aligned_finishMessage _⟩

theorem aligned_ship (haligned : c.Aligned) (h : Hub) (queue : List ByteArray)
    (budget : Nat) (now : Instant) :
    (c.ship h queue budget now).reached.channel.Aligned := by
  obtain ⟨pumped, hpump, hsending, -, -⟩ := pump_spec haligned queue budget
  unfold ship
  rw [hpump]
  simp only
  split
  · exact hsending.aligned
  · next count reached fault heq =>
      obtain ⟨outgoing, hframe, hready⟩ := interrupted_spec haligned queue count
      exact hready

/-- Whatever the hub does with a share, the channel stays ready and its datagrams are
sequenced ones. -/
theorem Reaches.ship (hreaches : c.Reaches peer) (htraffic : h.Traffic side tells hears)
    (htells : ∀ bytes, isConnectionless bytes = false → tells bytes)
    (queue : List ByteArray) (budget : Nat) (now : Instant) :
    (∃ outgoing, (c.ship h queue budget now).reached.channel = { c with outgoing }) ∧
      (c.ship h queue budget now).reached.channel.Reaches peer ∧
      (c.ship h queue budget now).reached.hub.Traffic side tells hears := by
  obtain ⟨outgoing, hframe⟩ := c.frame_ship h queue budget now
  refine ⟨⟨outgoing, hframe⟩, ⟨?_, aligned_ship hreaches.aligned h queue budget now⟩, ?_⟩
  · rw [hframe]
    exact hreaches.remote
  · obtain ⟨pumped, hpump, hsending, -, -⟩ := pump_spec hreaches.aligned queue budget
    have hsent : ∀ d ∈ pumped.dispatches,
        tells d.bytes ∧ ∃ target, d.target = .remote target := by
      intro d hd
      refine ⟨htells _ (hsending.sequenced hreaches.aligned d hd), peer, ?_⟩
      rw [(hsending.addressed d hd).2]
      exact hreaches.remote
    have hdispatched := htraffic.dispatchAll hsent now
    unfold Channel.ship
    rw [hpump]
    simp only
    cases hdispatch : h.dispatchAll pumped.dispatches now with
    | mk reached fault =>
        rw [hdispatch] at hdispatched
        cases fault with
        | none => exact hdispatched
        | some fault => exact hdispatched

end

end Channel
end DatagramLink

import DatagramLink.Session
import DatagramLink.Proofs.ChannelSafety
import DatagramLink.Proofs.EchoExchange
import DatagramLink.Proofs.FrameLoops
import DatagramLink.Proofs.Handshaking

/-!
# Echo sessions

A client and a server on one loopback hub, from the handshake to the last echo.

What ends a session is a count.  The datagrams that the client still has to send and
those of the echoes that are still to be sent add up to the work that is left, and
every turn lowers it: a client with datagrams left sends at least one, and once it has
none left the server has all probes and sends at least one echo datagram.  Rings never
overflow because each is read completely before the other side sends its next share.
-/

namespace DatagramLink

/-- A share of at least one datagram leaves less behind, unless nothing was left. -/
theorem Channel.length_pending_of_share
    {c d : Channel} {queue rest : List ByteArray} {sent : List Dispatch}
    {packets : List Packet} {budget : Nat}
    (hbytes : sent.map Dispatch.bytes = packets.map Packet.bytes)
    (hpending : c.pending queue = packets ++ d.pending rest) (hbudget : 1 ≤ budget)
    (hstop : sent.length < budget → d.isBusy = false ∧ rest = []) :
    (d.pending rest).length ≤ (c.pending queue).length - 1 := by
  have hcount := congrArg List.length hbytes
  rw [List.length_map, List.length_map] at hcount
  by_cases hshort : sent.length < budget
  · obtain ⟨hidle, hrest⟩ := hstop hshort
    rw [hrest, pending_of_idle hidle]
    exact Nat.zero_le _
  · rw [hpending, List.length_append]
    omega

theorem Roster.pump_single
    {r : Roster} {peer : Peer} (hpeers : r.peers = [peer]) {h : Hub} {budget : Nat}
    {now : Instant} {shipment : Shipment}
    (hship : peer.channel.ship h peer.queue budget now = .done shipment) :
    r.pump h budget now =
      .done
        ({ r with peers :=
            [{ peer with channel := shipment.channel, queue := shipment.queue }] },
          shipment.hub) := by
  have hpeer : peer.pump h budget now =
      .done ({ peer with channel := shipment.channel, queue := shipment.queue },
        shipment.hub) := by
    rw [Peer.pump, hship]
    rfl
  rw [pump, hpeers, pumpPeers, hpeer]
  rfl

namespace Exchange
namespace Describes

variable {e : Exchange} {samples : List Sample} {c : Client} {s : Server} {h : Hub}

/-! ## Frames of the client -/

theorem client_handles
    (hdescribes : e.Describes samples c s) (h : Hub) (clock : UInt64) :
    ∃ c' journal channel answered echoing,
      (e.toClient.map fun p => (⟨some (.loopback, p.bytes), []⟩ : Hub.Poll)).foldl
          (Client.handlePoll clock) (c, h) = (c', { h with journal }) ∧
        Describes { e with channel, toClient := [], answered, echoing } samples c' s ∧
        (∀ queue, channel.pending queue = e.channel.pending queue) ∧
        c'.queue = c.queue ∧ c'.fragmentsPerTick = c.fragmentsPerTick := by
  induction hflying : e.toClient generalizing e c h with
  | nil =>
      refine ⟨c, h.journal, e.channel, e.answered, e.echoing, rfl, ?_, fun _ => rfl,
        rfl, rfl⟩
      rw [← hflying]
      exact hdescribes
  | cons p rest ih =>
      obtain ⟨records, c₁, channel, answered, echoing, hhandle, hnext, hpending, hqueue,
        hshare⟩ := hdescribes.client_handle hflying h.settings.showDrops clock
      obtain ⟨c', journal, channel', answered', echoing', hrest, hlast, hpending', hqueue',
        hshare'⟩ := ih hnext (h.report ([] ++ records)) rfl
      refine ⟨c', journal, channel', answered', echoing', ?_, hlast, ?_,
        hqueue'.trans hqueue, hshare'.trans hshare⟩
      · rw [List.map_cons, List.foldl_cons]
        simp only [Client.handlePoll, hhandle]
        exact hrest
      · intro queue
        rw [hpending', hpending]

theorem client_receiveAll
    (hdescribes : e.Describes samples c s)
    (hcarries : h.Carries (e.toServer.map Packet.bytes) (e.toClient.map Packet.bytes))
    (clock : UInt64) :
    ∃ c' hub channel answered echoing,
      c.receiveAll h clock = (c', hub) ∧
        Describes { e with channel, toClient := [], answered, echoing } samples c' s ∧
        hub.Carries (e.toServer.map Packet.bytes) [] ∧
        (∀ queue, channel.pending queue = e.channel.pending queue) ∧
        c'.queue = c.queue ∧ c'.fragmentsPerTick = c.fragmentsPerTick := by
  obtain ⟨ring, hdrain, hempty⟩ := Hub.drain_of_holds hcarries.toClient hcarries.inbound
  rw [List.map_map] at hdrain
  obtain ⟨c', journal, channel, answered, echoing, hhandles, hnext, hpending, hqueue,
    hshare⟩ := hdescribes.client_handles (h.setRing .client ring) clock
  have hread := hcarries.setRing_client hempty
  refine ⟨c',
    Hub.report { h.setRing .client ring with journal } [], channel, answered, echoing, ?_,
    hnext, ?_, hpending, hqueue, hshare⟩
  · rw [Client.receiveAll, hdrain]
    simp only [List.foldl_append]
    have hfold : ((e.toClient.map
          ((fun datagram => (⟨some (.loopback, datagram), []⟩ : Hub.Poll)) ∘ Packet.bytes))
        ).foldl (Client.handlePoll clock) (c, h.setRing .client ring) =
          (c', { h.setRing .client ring with journal }) := hhandles
    rw [hfold]
    rfl
  · exact ⟨hread.toServer, hread.toClient, hread.inbound, hread.delayed⟩

theorem not_needsResend (hdescribes : e.Describes samples c s) (now : Instant) :
    c.needsResend now = false := by
  have hconnected := hdescribes.connected
  unfold Client.needsResend
  cases hphase : c.phase with
  | disconnected => rfl
  | connected id => rfl
  | connecting => simp [Client.isConnected, Client.id?, hphase] at hconnected

/-- A frame of the client reads its ring and sends a share of its probes. -/
theorem client_tick
    (hdescribes : e.Describes samples c s) (hread : e.toServer = [])
    (hcarries : h.Carries [] (e.toClient.map Packet.bytes))
    (hshare : 1 ≤ c.fragmentsPerTick) (hfits : c.fragmentsPerTick ≤ ringSize)
    (now : Instant) (clock : UInt64) :
    ∃ c' hub e',
      c.tick h now clock = .done (c', hub) ∧
        Describes e' samples c' s ∧
        hub.Carries (e'.toServer.map Packet.bytes) [] ∧
        e'.toClient = [] ∧ e'.peer = e.peer ∧ e'.replies = e.replies ∧
        (e'.channel.pending c'.queue).length ≤ (e.channel.pending c.queue).length - 1 ∧
        c'.fragmentsPerTick = c.fragmentsPerTick := by
  have hempty : e.toServer.map Packet.bytes = [] := by
    rw [hread]
    rfl
  rw [← hempty] at hcarries
  obtain ⟨c₁, hub₁, channel, answered, echoing, hreceive, hnext, hreads, hpending, hqueue,
    hkept⟩ := hdescribes.client_receiveAll hcarries clock
  rw [hempty] at hreads
  have hring : (hub₁.ringOf channel.side.peer).Holds [] := by
    rw [hnext.side]
    exact hreads.toServer
  obtain ⟨sent, shipment, hship, hsending, hstop, hsent, hown, hnetwork⟩ :=
    Channel.ship_loopback hnext.clientAligned hnext.clientRemote hring
      (show [].length + c.fragmentsPerTick ≤ ringSize by simpa using hfits) c₁.queue now
  obtain ⟨packets, hbytes, hleft, hlast⟩ := hnext.client_sending hsending
  have hcarried : shipment.hub.Carries (packets.map Packet.bytes) [] := by
    rw [hnext.side] at hsent hown
    rw [List.nil_append, hbytes] at hsent
    exact hreads.client_sent hsent hown hnetwork
  have hpump : c₁.pump hub₁ now =
      .done ({ c₁ with channel := some shipment.channel, queue := shipment.queue },
        shipment.hub) := by
    rw [Client.pump, hnext.clientChannel, hkept]
    simp only [hship, Attempt.map_done]
  have hresend : c₁.resendConnect hub₁ now = .done (c₁, hub₁) := by
    rw [Client.resendConnect, hnext.not_needsResend now]
    rfl
  refine ⟨{ c₁ with channel := some shipment.channel, queue := shipment.queue },
    shipment.hub, _, ?_, hlast, ?_, rfl, rfl, rfl, ?_, hkept⟩
  · rw [Client.tick, hreceive]
    simp only [hresend, Attempt.done_andThen, hpump, Hub.flush_of_empty hcarried.delayed]
  · rw [hread]
    exact hcarried
  · have hless := Channel.length_pending_of_share hbytes hleft hshare hstop
    rw [hpending, hqueue] at hless
    exact hless

/-! ## Frames of the server -/

/-- A server reads its ring completely.  What it has to answer stays what it was: probes
that came are now echoes in its queue. -/
theorem server_receiveAll
    (hdescribes : e.Describes samples c s)
    (hcarries : h.Carries (e.toServer.map Packet.bytes) (e.toClient.map Packet.bytes))
    (now : Instant) :
    ∃ s' hub peer served going,
      s.receiveAll h now = .done (s', hub) ∧
        Describes { e with peer, toServer := [], served, going } samples c s' ∧
        hub.Carries [] (e.toClient.map Packet.bytes) ∧
        peer.channel.pending (peer.queue ++ going.map Sample.echo) = e.replies ∧
        (peer.lastSeen = e.peer.lastSeen ∨ peer.lastSeen = now) ∧
        s'.fragmentsPerTick = s.fragmentsPerTick ∧ s'.clientTimeout = s.clientTimeout := by
  induction hflying : e.toServer generalizing e s h with
  | nil =>
      rw [hflying] at hcarries
      refine ⟨s, h.report [], e.peer, e.served, e.going, ?_, ?_, hcarries.report [], rfl,
        Or.inl rfl, rfl, rfl⟩
      · exact Server.receiveAll_of_none
          (Hub.poll_of_empty hcarries.toServer hcarries.inbound)
      · rw [← hflying]
        exact hdescribes
  | cons p rest ih =>
      rw [hflying, List.map_cons] at hcarries
      obtain ⟨ring, hpoll, hring⟩ := Hub.poll_of_holds hcarries.toServer
      obtain ⟨records, s₁, peer, served, going, hhandle, hnext, hreplies, hseen, hshare,
        htimeout⟩ := hdescribes.server_handle hflying h.settings.showDrops now
      have hserve : s.serveDatagram ((h.setRing .server ring).report []) .loopback p.bytes
            now =
          .done (s₁, ((h.setRing .server ring).report []).report records) := by
        rw [Server.serveDatagram]
        have hsame : s.handle ((h.setRing .server ring).report []).settings.showDrops
            .loopback p.bytes now = ({ records }, s₁) := hhandle
        rw [hsame]
        rfl
      have hleft := ((hcarries.setRing_server hring).report []).report records
      obtain ⟨s', hub, peer', served', going', hreceive, hlast, hcarried, hreplies', hseen',
        hshare', htimeout'⟩ := ih hnext hleft rfl
      refine ⟨s', hub, peer', served', going', ?_, hlast, hcarried,
        hreplies'.trans hreplies, ?_, hshare'.trans hshare, htimeout'.trans htimeout⟩
      · rw [Server.receiveAll_of_some hpoll hserve]
        exact hreceive
      · rcases hseen' with hkept | hnow
        · rw [hkept]
          exact hseen
        · exact Or.inr hnow

/-- A frame of the server reads its ring and sends a share of its echoes.  Once the
client has sent everything, the share is not empty unless nothing is left. -/
theorem server_work
    (hdescribes : e.Describes samples c s) (hread : e.toClient = [])
    (hcarries : h.Carries (e.toServer.map Packet.bytes) [])
    (hshare : 1 ≤ s.fragmentsPerTick) (hfits : s.fragmentsPerTick ≤ ringSize)
    (now : Instant) :
    ∃ s' hub e',
      s.work h now = .done (s', hub) ∧
        Describes e' samples c s' ∧
        hub.Carries [] (e'.toClient.map Packet.bytes) ∧
        e'.toServer = [] ∧ e'.channel = e.channel ∧
        e'.replies.length ≤ e.replies.length ∧
        (e.channel.pending c.queue = [] → e'.replies.length ≤ e.replies.length - 1) ∧
        (e.replies = [] → e'.toClient = []) ∧
        (e'.peer.lastSeen = e.peer.lastSeen ∨ e'.peer.lastSeen = now) ∧
        s'.fragmentsPerTick = s.fragmentsPerTick ∧ s'.clientTimeout = s.clientTimeout := by
  have hempty : e.toClient.map Packet.bytes = [] := by
    rw [hread]
    rfl
  rw [← hempty] at hcarries
  obtain ⟨s₁, hub₁, peer, served, going, hreceive, hnext, hreads, hreplies, hseen, hkept,
    htimeout⟩ := hdescribes.server_receiveAll hcarries now
  rw [hempty] at hreads
  have hserverSide : peer.channel.side = .server := by
    rw [hnext.ends.side, hnext.side]
    rfl
  have hring : (hub₁.ringOf peer.channel.side.peer).Holds [] := by
    rw [hserverSide]
    exact hreads.toClient
  obtain ⟨sent, shipment, hship, hsending, hstop, hsent, hown, hnetwork⟩ :=
    Channel.ship_loopback hnext.serverAligned hnext.serverRemote hring
      (show [].length + s.fragmentsPerTick ≤ ringSize by simpa using hfits) peer.queue now
  obtain ⟨packets, hbytes, hleft, hlast⟩ := hnext.server_sending hsending
  have hcarried : shipment.hub.Carries [] (packets.map Packet.bytes) := by
    rw [hserverSide] at hsent hown
    rw [List.nil_append, hbytes] at hsent
    exact hreads.server_sent hsent hown hnetwork
  have hsplit : e.replies = packets ++
      shipment.channel.pending (shipment.queue ++ going.map Sample.echo) :=
    hreplies.symm.trans hleft
  have hpump : s₁.pump hub₁ now =
      .done
        ({ s₁ with roster := { s₁.roster with peers :=
            [{ peer with channel := shipment.channel, queue := shipment.queue }] } },
          shipment.hub) := by
    rw [Server.pump, hkept, Roster.pump_single hnext.peers hship]
    rfl
  refine ⟨_, shipment.hub, _, ?_, hlast, ?_, rfl, rfl, ?_, ?_, ?_, hseen, hkept,
    htimeout⟩
  · rw [Server.work, hreceive, Attempt.done_andThen]
    exact hpump
  · rw [hread]
    exact hcarried
  · rw [hsplit, List.length_append]
    exact Nat.le_add_left _ _
  · intro hsentAll
    -- every probe has come, so nothing joins the queue any more
    have hgoing : going = [] := by
      have hprobes := hnext.probesLeft
      simp only [hsentAll, List.nil_append, List.filterMap_nil] at hprobes
      exact List.map_eq_nil_iff.mp hprobes.symm
    subst hgoing
    have hbare : e.replies = peer.channel.pending peer.queue := by
      rw [← hreplies, List.map_nil, List.append_nil]
    have hrest : peer.channel.pending peer.queue =
        packets ++ shipment.channel.pending shipment.queue := by
      rw [← hbare, hsplit, List.map_nil, List.append_nil]
    have hless := Channel.length_pending_of_share hbytes hrest hshare hstop
    rw [← hbare] at hless
    simpa only [replies, List.map_nil, List.append_nil] using hless
  · intro hnone
    rw [hnone] at hsplit
    rw [hread, List.nil_append]
    exact (List.append_eq_nil_iff.mp hsplit.symm).1

end Describes

/-- The datagrams that are still to be sent, in either direction. -/
def work (e : Exchange) (c : Client) : Nat :=
  (e.channel.pending c.queue).length + e.replies.length

end Exchange

namespace Session

/-- When the frames of a turn run, and the client's clock. -/
structure Turn where
  clientNow : Instant
  clock : UInt64
  serverNow : Instant
  /-- When the server finds out how long its clients were silent. -/
  checked : Nat → Instant

/-- A frame of the client and then one of the server. -/
def turn (x : Session) (t : Turn) : Attempt Session :=
  (x.clientTick t.clientNow t.clock).andThen fun x =>
    x.serverTick t.serverNow t.checked

def play (turns : List Turn) (x : Session) : Attempt Session :=
  .forEach turn turns x

def silent (x : Session) (now : Instant) (checked : Nat → Instant) : List Nat :=
  x.server.silent x.hub now checked

/-- No client is silent for too long in any of the turns. -/
def Patient : List Turn → Session → Prop
  | [], _ => True
  | t :: rest, x =>
      (x.clientTick t.clientNow t.clock).reached.silent t.serverNow t.checked = [] ∧
        Patient rest (x.turn t).reached

/-! ## Turns -/

/-- A session in the middle of its probes. -/
structure Echoing (e : Exchange) (samples : List Sample) (x : Session) : Prop where
  knows : e.Describes samples x.client x.server
  carries : x.hub.Carries (e.toServer.map Packet.bytes) (e.toClient.map Packet.bytes)
  clientShare : 1 ≤ x.client.fragmentsPerTick ∧ x.client.fragmentsPerTick ≤ ringSize
  serverShare : 1 ≤ x.server.fragmentsPerTick ∧ x.server.fragmentsPerTick ≤ ringSize

section
variable {e : Exchange} {samples : List Sample} {x : Session}

theorem Echoing.clientTick
    (hechoing : x.Echoing e samples) (hread : e.toServer = []) (now : Instant)
    (clock : UInt64) :
    ∃ y e',
      x.clientTick now clock = .done y ∧ y.Echoing e' samples ∧
        e'.toClient = [] ∧ e'.peer = e.peer ∧ e'.replies = e.replies ∧
        (e'.channel.pending y.client.queue).length ≤
          (e.channel.pending x.client.queue).length - 1 ∧
        y.server = x.server := by
  have hcarries := hechoing.carries
  rw [hread, List.map_nil] at hcarries
  obtain ⟨c, hub, e', htick, hknows, hcarries', hempty, hpeer, hreplies, hless, hshare⟩ :=
    hechoing.knows.client_tick hread hcarries hechoing.clientShare.1
      hechoing.clientShare.2 now clock
  refine ⟨{ x with client := c, hub }, e', ?_, ⟨hknows, ?_, ?_, hechoing.serverShare⟩,
    hempty, hpeer, hreplies, hless, rfl⟩
  · rw [Session.clientTick, htick]
    rfl
  · rw [hempty]
    exact hcarries'
  · rw [hshare]
    exact hechoing.clientShare

/-- What the server does up to the point where it looks for silent clients.  If it finds
none, its frame ends there. -/
theorem Echoing.serverTick
    (hechoing : x.Echoing e samples) (hread : e.toClient = []) (now : Instant)
    (checked : Nat → Instant) :
    ∃ y e',
      (x.silent now checked = [] → x.serverTick now checked = .done y) ∧
        y.Echoing e' samples ∧
        (checked e'.peer.id - e'.peer.lastSeen ≤ x.server.clientTimeout →
          x.silent now checked = []) ∧
        e'.toServer = [] ∧ e'.channel = e.channel ∧ y.client = x.client ∧
        e'.replies.length ≤ e.replies.length ∧
        (e.channel.pending x.client.queue = [] →
          e'.replies.length ≤ e.replies.length - 1) ∧
        (e.replies = [] → e'.toClient = []) ∧
        (e'.peer.lastSeen = e.peer.lastSeen ∨ e'.peer.lastSeen = now) ∧
        y.server.clientTimeout = x.server.clientTimeout := by
  have hcarries := hechoing.carries
  rw [hread, List.map_nil] at hcarries
  obtain ⟨s, hub, e', hwork, hknows, hcarries', hempty, hchannel, hle, hless, hlast, hseen,
    hshare, htimeout⟩ :=
    hechoing.knows.server_work hread hcarries hechoing.serverShare.1
      hechoing.serverShare.2 now
  refine ⟨{ x with server := s, hub := hub.report [] }, e', ?_,
    ⟨hknows, ?_, hechoing.clientShare, ?_⟩, ?_, hempty, hchannel, rfl, hle, hless, hlast,
    hseen, htimeout⟩
  · intro hpatient
    rw [Session.serverTick,
      Server.tick_of_work hwork htimeout hpatient hcarries'.delayed]
    rfl
  · rw [hempty]
    exact hcarries'.report []
  · rw [hshare]
    exact hechoing.serverShare
  · intro hprompt
    have hpresent : e'.peer.isOverdue x.server.clientTimeout checked = false := by
      simpa [Peer.isOverdue, Peer.isTimedOut] using hprompt
    rw [silent, Server.silent, hwork]
    simp [Attempt.done, Roster.timedOut, hknows.peers, hpresent]

/-- A turn in which nobody is dropped lowers the work that is left, and when none is
left the client's ring stays empty. -/
theorem Echoing.turn
    (hechoing : x.Echoing e samples) (hread : e.toServer = []) {t : Turn}
    (hpatient : (x.clientTick t.clientNow t.clock).reached.silent t.serverNow t.checked = []) :
    ∃ y e',
      x.turn t = .done y ∧ y.Echoing e' samples ∧ e'.toServer = [] ∧
        e'.work y.client ≤ e.work x.client - 1 ∧
        (e.work x.client = 0 → e'.toClient = []) := by
  obtain ⟨mid, e₁, hclient, hmid, hempty, -, hreplies, hless, -⟩ :=
    hechoing.clientTick hread t.clientNow t.clock
  rw [hclient] at hpatient
  obtain ⟨y, e', hserver, hlast, -, hread', hchannel, hsame, hle, hless', hnone, -, -⟩ :=
    hmid.serverTick hempty t.serverNow t.checked
  refine ⟨y, e', ?_, hlast, hread', ?_, ?_⟩
  · rw [Session.turn, hclient, Attempt.done_andThen]
    exact hserver hpatient
  · simp only [Exchange.work, hchannel, hsame]
    rw [hreplies] at hle hless'
    by_cases hsent : e₁.channel.pending mid.client.queue = []
    · have hdrop := hless' hsent
      rw [hsent, List.length_nil]
      omega
    · have hsome := List.length_pos_iff.mpr hsent
      omega
  · intro hdone
    apply hnone
    rw [hreplies]
    unfold Exchange.work at hdone
    exact List.length_eq_zero_iff.mp (by omega)

/-- Turns that outnumber the work that is left empty the session.  One that is empty
stays so. -/
theorem Echoing.play
    (hechoing : x.Echoing e samples) (hread : e.toServer = []) {turns : List Turn}
    (hpatient : Patient turns x)
    (henough : e.work x.client < turns.length ∨ e.work x.client = 0 ∧ e.toClient = []) :
    ∃ y e',
      x.play turns = .done y ∧ y.Echoing e' samples ∧
        e'.toServer = [] ∧ e'.toClient = [] ∧ e'.work y.client = 0 := by
  induction turns generalizing e x with
  | nil =>
      rcases henough with hless | ⟨hdone, hempty⟩
      · exact absurd hless (Nat.not_lt_zero _)
      · exact ⟨x, e, rfl, hechoing, hread, hempty, hdone⟩
  | cons t turns ih =>
      obtain ⟨hnow, hlater⟩ := hpatient
      obtain ⟨mid, e₁, hturn, hmid, hread₁, hless, hnone⟩ := hechoing.turn hread hnow
      rw [hturn] at hlater
      rw [List.length_cons] at henough
      have henough₁ : e₁.work mid.client < turns.length ∨
          e₁.work mid.client = 0 ∧ e₁.toClient = [] := by
        by_cases hdone : e.work x.client = 0
        · exact Or.inr ⟨by omega, hnone hdone⟩
        · exact Or.inl (by omega)
      obtain ⟨y, e', hplay, hlast⟩ := ih hmid hread₁ hlater henough₁
      refine ⟨y, e', ?_, hlast⟩
      rw [Session.play, Attempt.forEach, hturn]
      exact hplay

/-- When nothing is under way, every probe was answered. -/
theorem Echoing.all_answered
    (hechoing : x.Echoing e samples) (hread : e.toServer = []) (hempty : e.toClient = [])
    (hdone : e.work x.client = 0) :
    e.answered = samples ∧ e.echoing = [] ∧ e.served = samples := by
  have hpending : e.channel.pending x.client.queue = [] := by
    unfold Exchange.work at hdone
    exact List.length_eq_zero_iff.mp (by omega)
  have hreplies : e.replies = [] := by
    unfold Exchange.work at hdone
    exact List.length_eq_zero_iff.mp (by omega)
  have hprobes := hechoing.knows.probesLeft
  have hechoes := hechoing.knows.echoesLeft
  rw [hread, hpending, List.append_nil, List.filterMap_nil] at hprobes
  rw [hempty, hreplies, List.append_nil, List.filterMap_nil] at hechoes
  have hgoing := List.map_eq_nil_iff.mp hprobes.symm
  have hnone := List.map_eq_nil_iff.mp hechoes.symm
  have hanswered := hechoing.knows.answeredCut
  have hserved := hechoing.knows.servedCut
  rw [hnone, List.append_nil] at hanswered
  rw [hgoing, List.append_nil] at hserved
  exact ⟨hanswered.symm, hnone, hserved.symm⟩

theorem Echoing.patient
    (hechoing : x.Echoing e samples) (hread : e.toServer = []) {start : Instant}
    (hseen : start ≤ e.peer.lastSeen) {turns : List Turn}
    (hprompt : ∀ t ∈ turns,
      start ≤ t.serverNow ∧ ∀ id, t.checked id ≤ start + x.server.clientTimeout) :
    Patient turns x := by
  induction turns generalizing e x with
  | nil => trivial
  | cons t turns ih =>
      obtain ⟨mid, e₁, hclient, hmid, hempty, hpeer, -, -, hserver⟩ :=
        hechoing.clientTick hread t.clientNow t.clock
      obtain ⟨y, e', hserverTick, hlast, hpatient, hread', -, -, -, -, -, hseen',
        htimeout⟩ := hmid.serverTick hempty t.serverNow t.checked
      obtain ⟨hlow, hhigh⟩ := hprompt t List.mem_cons_self
      have hstill : start ≤ e'.peer.lastSeen := by
        rcases hseen' with hkept | hnow
        · rw [hkept, hpeer]
          exact hseen
        · rw [hnow]
          exact hlow
      have hnone : mid.silent t.serverNow t.checked = [] := by
        apply hpatient
        rw [hserver]
        have hwindow : t.checked e'.peer.id - e'.peer.lastSeen ≤
            t.checked e'.peer.id - start :=
          Int.sub_le_sub_left hstill _
        have hshort : t.checked e'.peer.id - start ≤ x.server.clientTimeout :=
          Int.sub_left_le_of_le_add (hhigh e'.peer.id)
        exact Int.le_trans hwindow hshort
      have hturn : x.turn t = .done y := by
        rw [Session.turn, hclient, Attempt.done_andThen]
        exact hserverTick hnone
      constructor
      · rw [hclient]
        exact hnone
      · rw [hturn]
        apply ih hlast hread' hstill
        intro t' ht'
        have hwithin := hprompt t' (List.mem_cons_of_mem _ ht')
        change start ≤ t'.serverNow ∧ ∀ id, t'.checked id ≤ start + y.server.clientTimeout
        rw [htimeout, hserver]
        exact hwithin

end

/-! ## Joining -/

structure Options where
  settings : Settings
  qport : UInt16
  clientShare : Nat
  hostname : String
  capacity : Nat
  serverShare : Nat
  clientTimeout : Nat

namespace Options

def client (o : Options) : Client :=
  (Client.new .loopback o.qport).withFragmentsPerTick o.clientShare

def server (o : Options) : Server :=
  ((Server.new o.hostname o.capacity).withFragmentsPerTick o.serverShare).withClientTimeout
    o.clientTimeout

def start (o : Options) : Session := ⟨o.client, o.server, .loopbackOnly o.settings⟩

/-- Both shares are at least one datagram and fit into a ring, and there is room for a
client. -/
structure Admissible (o : Options) : Prop where
  clientShare : 1 ≤ o.clientShare ∧ o.clientShare ≤ ringSize
  serverShare : 1 ≤ o.serverShare ∧ o.serverShare ≤ ringSize
  capacity : 1 ≤ o.capacity

def asking (o : Options) (asked : Instant) : Client :=
  { o.client with phase := .connecting, lastConnect := some asked }

/-- The client as its server has taken it in. -/
def peer (o : Options) (taken : Instant) : Peer where
  id := 1
  channel := Roster.newChannel .loopback o.qport o.settings.showDrops
  lastSeen := taken

def welcoming (o : Options) (taken : Instant) : Server :=
  { o.server with roster :=
      { o.server.roster with peers := [o.peer taken], nextId := 2 } }

def clientEnd (o : Options) : Channel where
  side := .client
  remote := .loopback
  qport := o.qport
  showDrops := o.settings.showDrops

def joined (o : Options) (asked : Instant) : Client :=
  { o.asking asked with phase := .connected 1, channel := some o.clientEnd }

end Options

def connect (x : Session) (now : Instant) : Attempt Session :=
  (x.client.connect x.hub now).map fun (client, hub) => { x with client, hub }

/-- The handshake: a request, a frame of the server and a frame of the client. -/
def join (x : Session) (asked taken : Instant) (checked : Nat → Instant)
    (answered : Instant) (clock : UInt64) : Attempt Session :=
  ((x.connect asked).andThen fun x => x.serverTick taken checked).andThen fun x =>
    x.clientTick answered clock

section
variable (o : Options) {h : Hub}

theorem connect_start (asked : Instant) :
    ∃ hub, o.start.connect asked = .done ⟨o.asking asked, o.server, hub⟩ ∧
      hub.Carries [(connectRequest o.qport).toDatagram] [] ∧
      hub.settings = o.settings := by
  let announced := Hub.report (.loopbackOnly o.settings)
    [.info s!"Connecting to {Address.loopback}..."]
  have hcarries : announced.Carries [] [] :=
    (Hub.carries_loopbackOnly o.settings).report _
  obtain ⟨hub, hsend, hpushed, hkept, hnetwork⟩ :=
    announced.send_loopback .client (connectRequest o.qport).toDatagram asked
  have hring : (hub.ringOf .server).Holds [(connectRequest o.qport).toDatagram] := by
    change hub.ringOf .server = _ at hpushed
    rw [hpushed]
    exact hcarries.toServer.push (by decide) _
  refine ⟨hub, ?_, hcarries.client_sent hring hkept hnetwork, hnetwork.settings⟩
  have hconnect : o.client.connect (.loopbackOnly o.settings) asked =
      .done (o.asking asked, hub) := by
    have hsent : announced.sendText .client (connectRequest o.qport).render .loopback asked =
        .done hub := hsend
    have hrequest : o.client.connect (.loopbackOnly o.settings) asked =
        Client.sendConnect { o.client with phase := .connecting } announced asked := rfl
    have hself : ({ o.client with phase := .connecting } : Client).server = .loopback := rfl
    have hport : ({ o.client with phase := .connecting } : Client).qport = o.qport := rfl
    rw [hrequest, Client.sendConnect, hself, hport, hsent]
    rfl
  rw [Session.connect]
  change (o.client.connect (.loopbackOnly o.settings) asked).map _ = _
  rw [hconnect]
  rfl

theorem welcome_start (hcapacity : 1 ≤ o.capacity) (taken : Instant) :
    ∃ records,
      o.server.welcome o.settings.showDrops .loopback o.qport taken =
        ({ records, reply := some (connectResponse 1) }, o.welcoming taken) := by
  have hroom : ¬ o.server.roster.capacity ≤ o.server.roster.length :=
    Nat.not_le.mpr hcapacity
  refine ⟨(o.server.welcome o.settings.showDrops .loopback o.qport taken).1.records, ?_⟩
  have hnobody : Server.dropExisting o.server.roster .loopback o.qport =
      ([], o.server.roster) := rfl
  simp only [Server.welcome, hnobody, Roster.add, if_neg hroom]
  rfl

theorem work_start (hcapacity : 1 ≤ o.capacity) {taken : Instant}
    (hcarries : h.Carries [(connectRequest o.qport).toDatagram] [])
    (hsettings : h.settings = o.settings) :
    ∃ hub, o.server.work h taken = .done (o.welcoming taken, hub) ∧
      hub.Carries [] [(connectResponse 1).toDatagram] ∧ hub.settings = o.settings := by
  obtain ⟨ring, hpoll, hring⟩ := Hub.poll_of_holds hcarries.toServer
  obtain ⟨records, hhandle⟩ :=
    o.server.handle_connectRequest o.settings.showDrops .loopback o.qport taken
  obtain ⟨welcomed, hwelcome⟩ := welcome_start o hcapacity taken
  rw [hwelcome] at hhandle
  have hread := ((hcarries.setRing_server hring).report []).report records
  obtain ⟨hub, hsend, hpushed, hkept, hnetwork⟩ :=
    (((h.setRing .server ring).report []).report records).send_loopback .server
      (connectResponse 1).toDatagram taken
  have hserve : o.server.serveDatagram ((h.setRing .server ring).report []) .loopback
        (connectRequest o.qport).toDatagram taken =
      .done (o.welcoming taken, hub) := by
    have hsame : o.server.handle ((h.setRing .server ring).report []).settings.showDrops
        .loopback (connectRequest o.qport).toDatagram taken =
          ({ records, reply := some (connectResponse 1) }, o.welcoming taken) := by
      change o.server.handle h.settings.showDrops _ _ _ = _
      rw [hsettings]
      exact hhandle
    have hsent : (((h.setRing .server ring).report []).report records).sendText .server
        (connectResponse 1).render .loopback taken = .done hub := hsend
    simp only [Server.serveDatagram, hsame, Server.respond, hsent, Attempt.map_done]
  have hanswer : (hub.ringOf .client).Holds [(connectResponse 1).toDatagram] := by
    change hub.ringOf .client = _ at hpushed
    rw [hpushed]
    exact hread.toClient.push (by decide) _
  have hcarried := hread.server_sent hanswer hkept hnetwork
  have hquiet := Hub.poll_of_empty hcarried.toServer hcarried.inbound
  have hpump : (o.welcoming taken).pump (hub.report []) taken =
      .done (o.welcoming taken, hub.report []) := by
    have hpeers : (o.welcoming taken).roster.peers = [o.peer taken] := rfl
    rw [Server.pump, Roster.pump_single hpeers (Channel.ship_idle rfl _ _ _)]
    rfl
  refine ⟨hub.report [], ?_, hcarried.report [], ?_⟩
  · rw [Server.work, Server.receiveAll_of_some hpoll hserve,
      Server.receiveAll_of_none hquiet, Attempt.done_andThen]
    exact hpump
  · change hub.settings = _
    rw [hnetwork.settings]
    exact hsettings

theorem tick_asking
    (hcarries : h.Carries [] [(connectResponse 1).toDatagram])
    (hsettings : h.settings = o.settings) (asked now : Instant) (clock : UInt64) :
    ∃ hub, (o.asking asked).tick h now clock = .done (o.joined asked, hub) ∧
      hub.Carries [] [] := by
  obtain ⟨ring, hdrain, hempty⟩ := Hub.drain_of_holds hcarries.toClient hcarries.inbound
  have hphase : (o.asking asked).phase = .connecting := rfl
  obtain ⟨records, hhandle⟩ :=
    Client.handle_connectResponse hphase o.settings.showDrops
      (show 1 ≤ 0xFFFFFFFF by decide) clock
  have hread := ((hcarries.setRing_client hempty).report ([] ++ records)).report []
  refine ⟨((h.setRing .client ring).report ([] ++ records)).report [], ?_, hread⟩
  have hreceive : (o.asking asked).receiveAll h clock =
      (o.joined asked, ((h.setRing .client ring).report ([] ++ records)).report []) := by
    have hsame : (o.asking asked).handle (h.setRing .client ring).settings.showDrops
        .loopback (connectResponse 1).toDatagram clock = (records, o.joined asked) := by
      change (o.asking asked).handle h.settings.showDrops _ _ _ = _
      rw [hsettings]
      exact hhandle
    rw [Client.receiveAll, hdrain]
    simp only [List.map_cons, List.map_nil, List.cons_append, List.nil_append,
      List.foldl_cons, List.foldl_nil, Client.handlePoll, hsame]
  have hpump : ∀ hub, (o.joined asked).pump hub now = .done (o.joined asked, hub) := by
    intro hub
    have hship := Channel.ship_idle (c := o.clientEnd) rfl hub
      (o.joined asked).fragmentsPerTick now
    have hempty : (o.joined asked).pump hub now =
        (o.clientEnd.ship hub [] (o.joined asked).fragmentsPerTick now).map fun s =>
          ({ o.joined asked with channel := some s.channel, queue := s.queue }, s.hub) := rfl
    rw [hempty, hship]
    rfl
  rw [Client.tick, hreceive]
  have hresend : ∀ hub, (o.joined asked).resendConnect hub now =
      .done (o.joined asked, hub) := fun _ => rfl
  simp only [hresend, Attempt.done_andThen, hpump, Hub.flush_of_empty hread.delayed]

/-- The handshake connects the client, unless it takes longer than the server's timeout. -/
theorem join_start (hcapacity : 1 ≤ o.capacity) {asked taken : Instant}
    {checked : Nat → Instant}
    (hpatient : (o.start.connect asked).reached.silent taken checked = [])
    (answered : Instant) (clock : UInt64) :
    ∃ hub, o.start.join asked taken checked answered clock =
        .done ⟨o.joined asked, o.welcoming taken, hub⟩ ∧
      hub.Carries [] [] := by
  obtain ⟨hub, hconnect, hcarries, hsettings⟩ := connect_start o asked
  obtain ⟨hub₁, hwork, hcarries₁, hsettings₁⟩ := work_start o hcapacity hcarries hsettings
  obtain ⟨hub₂, htick, hcarries₂⟩ := tick_asking o (hcarries₁.report []) hsettings₁ asked
    answered clock
  rw [hconnect] at hpatient
  have hserver : (Session.mk (o.asking asked) o.server hub).serverTick taken checked =
      .done ⟨o.asking asked, o.welcoming taken, hub₁.report []⟩ := by
    have hframe := Server.tick_of_work hwork rfl hpatient hcarries₁.delayed
    rw [Session.serverTick, hframe]
    rfl
  refine ⟨hub₂, ?_, hcarries₂⟩
  rw [join, hconnect, Attempt.done_andThen, hserver, Attempt.done_andThen,
    Session.clientTick, htick]
  rfl

end

/-! ## From the handshake to the last echo -/

def sendProbes (x : Session) (probes : List (Nat × UInt64)) : Except Fault Session :=
  (x.client.sendProbes probes).map fun client => { x with client }

/-- The exchange before the first turn: everything is in the client's queue. -/
def Options.exchange (o : Options) (taken : Instant) (samples : List Sample) :
    Exchange where
  channel := o.clientEnd
  peer := o.peer taken
  toServer := []
  toClient := []
  answered := []
  echoing := samples
  served := []
  going := samples

section
variable (o : Options) {probes : List (Nat × UInt64)}

theorem paired_probes (taken : Instant) :
    Channel.Paired o.clientEnd (o.peer taken).channel 0 :=
  ⟨⟨rfl, rfl⟩, Or.inl rfl, rfl, rfl, rfl, rfl⟩

theorem paired_echoes (taken : Instant) :
    Channel.Paired (o.peer taken).channel o.clientEnd 0 :=
  ⟨⟨rfl, rfl⟩, Or.inl rfl, rfl, rfl, rfl, rfl⟩

theorem map_size_samples (probes : List (Nat × UInt64)) :
    (Sample.series 1 probes).map (fun x => 24 + x.size) =
      probes.map fun probe => 24 + probe.1 := by
  have hsizes := congrArg (List.map (24 + ·)) (Sample.map_size_series 1 probes)
  rw [List.map_map, List.map_map] at hsizes
  exact hsizes

theorem describes_start
    (hcount : probes.length ≤ maxQueuedMessages)
    (hsizes : ∀ probe ∈ probes, 24 + probe.1 ≤ maxMessageSize)
    (htotal : (probes.map fun probe => 24 + probe.1).sum ≤ maxQueuedBytes)
    (asked taken : Instant) (nextProbe : UInt32) :
    (o.exchange taken (Sample.series 1 probes)).Describes (Sample.series 1 probes)
      { o.joined asked with
        inFlight := (Sample.series 1 probes).map Sample.awaited
        stats := { sent := probes.length }
        nextProbe
        queue := (Sample.series 1 probes).map Sample.probe }
      (o.welcoming taken) := by
  have hlengths : ∀ x ∈ Sample.series 1 probes, 24 + x.size ≤ maxMessageSize := by
    intro x hx
    have hmem : x.size ∈ probes.map Prod.fst := by
      rw [← Sample.map_size_series 1 probes]
      exact List.mem_map_of_mem hx
    obtain ⟨probe, hprobe, hsize⟩ := List.mem_map.mp hmem
    rw [← hsize]
    exact hsizes probe hprobe
  have hprobes : ∀ message ∈ (Sample.series 1 probes).map Sample.probe,
      message.size ≤ maxMessageSize := by
    intro message hmessage
    obtain ⟨x, hx, rfl⟩ := List.mem_map.mp hmessage
    rw [Sample.size_probe]
    exact hlengths x hx
  have hechoes : ∀ message ∈ (Sample.series 1 probes).map Sample.echo,
      message.size ≤ maxMessageSize := by
    intro message hmessage
    obtain ⟨x, hx, rfl⟩ := List.mem_map.mp hmessage
    rw [Sample.size_echo]
    exact hlengths x hx
  have hlimit : maxQueuedMessages ≤ 2 ^ 32 := by decide
  exact
    { connected := rfl
      clientChannel := rfl
      peers := rfl
      side := rfl
      ends := ⟨rfl, rfl⟩
      clientRemote := rfl
      serverRemote := rfl
      clientAligned := (paired_probes o taken).aligned
      serverAligned := (paired_echoes o taken).aligned
      sizes := hlengths
      distinct := Sample.nodup_series (Nat.le_trans hcount hlimit)
      count := by
        rw [Sample.length_series]
        exact hcount
      total := by
        rw [map_size_samples]
        exact htotal
      answeredCut := rfl
      servedCut := rfl
      probes := (paired_probes o taken).expects hprobes
      probesLeft := Channel.completes_pending (paired_probes o taken).aligned _
      echoes := (paired_echoes o taken).expects hechoes
      echoesLeft := Channel.completes_pending (paired_echoes o taken).aligned _
      inFlight := rfl
      sent := (Sample.length_series 1 probes).symm
      echoed := rfl
      corrupted := rfl
      bytesEchoed := rfl
      serverEchoed := rfl
      delivered := rfl
      dropped := rfl }

theorem work_start_eq (probes : List (Nat × UInt64)) (asked taken : Instant) (nextProbe : UInt32) :
    (o.exchange taken (Sample.series 1 probes)).work
        { o.joined asked with
          inFlight := (Sample.series 1 probes).map Sample.awaited
          stats := { sent := probes.length }
          nextProbe
          queue := (Sample.series 1 probes).map Sample.probe } =
      2 * (probes.map fun probe => Channel.datagramCount (24 + probe.1)).sum := by
  have hcounts : (Sample.series 1 probes).map (fun x => Channel.datagramCount (24 + x.size)) =
      probes.map fun probe => Channel.datagramCount (24 + probe.1) := by
    have hmap := congrArg (List.map Channel.datagramCount) (map_size_samples probes)
    rw [List.map_map, List.map_map] at hmap
    exact hmap
  have hprobes : (o.clientEnd.pending ((Sample.series 1 probes).map Sample.probe)).length =
      (probes.map fun probe => Channel.datagramCount (24 + probe.1)).sum := by
    rw [Channel.pending_of_idle rfl, Packet.length_stream, List.map_map, ← hcounts]
    simp only [Function.comp_def, Sample.size_probe]
  have hechoes : ((o.peer taken).channel.pending
        ((Sample.series 1 probes).map Sample.echo)).length =
      (probes.map fun probe => Channel.datagramCount (24 + probe.1)).sum := by
    rw [Channel.pending_of_idle rfl, Packet.length_stream, List.map_map, ← hcounts]
    simp only [Function.comp_def, Sample.size_echo]
  have hsum := congrArg₂ (· + ·) hprobes hechoes
  rw [← Nat.two_mul] at hsum
  exact hsum

theorem sendProbes_joined
    (hadmissible : o.Admissible) (hcount : probes.length ≤ maxQueuedMessages)
    (hsizes : ∀ probe ∈ probes, 24 + probe.1 ≤ maxMessageSize)
    (htotal : (probes.map fun probe => 24 + probe.1).sum ≤ maxQueuedBytes)
    (asked taken : Instant) {hub : Hub} (hcarries : hub.Carries [] []) :
    ∃ asking,
      Session.sendProbes ⟨o.joined asked, o.welcoming taken, hub⟩ probes = .ok asking ∧
        asking.Echoing (o.exchange taken (Sample.series 1 probes))
          (Sample.series 1 probes) ∧
        (o.exchange taken (Sample.series 1 probes)).work asking.client =
          2 * (probes.map fun probe => Channel.datagramCount (24 + probe.1)).sum ∧
        asking.server = o.welcoming taken := by
  have hpayloads : ∀ probe ∈ probes, probe.1 ≤ maxPayloadSize := by
    intro probe hprobe
    have hsize := hsizes probe hprobe
    have hlimit : maxMessageSize ≤ maxPayloadSize := by decide
    omega
  have hlimit : maxQueuedMessages ≤ 2 ^ 32 := by decide
  obtain ⟨nextProbe, hsend⟩ := Client.sendProbes_eq (c := o.joined asked) rfl hpayloads
    (Sample.nodup_series (Nat.le_trans hcount hlimit))
  have hknows := describes_start o hcount hsizes htotal asked taken nextProbe
  have hwork := work_start_eq o probes asked taken nextProbe
  have hqueued : (o.joined asked).sendProbes probes =
      .ok { o.joined asked with
        inFlight := (Sample.series 1 probes).map Sample.awaited
        stats := { sent := probes.length }
        nextProbe
        queue := (Sample.series 1 probes).map Sample.probe } := by
    rw [hsend]
    have hnone : (o.joined asked).stats.sent + probes.length = probes.length :=
      Nat.zero_add _
    rw [hnone]
    rfl
  refine ⟨_, congrArg (Except.map _) hqueued, ⟨hknows, hcarries, ?_, ?_⟩, hwork, rfl⟩
  · have hshare : (o.joined asked).fragmentsPerTick = max o.clientShare 1 := rfl
    have hbounds := hadmissible.clientShare
    change 1 ≤ (o.joined asked).fragmentsPerTick ∧ (o.joined asked).fragmentsPerTick ≤ _
    rw [hshare]
    omega
  · have hshare : (o.welcoming taken).fragmentsPerTick = max o.serverShare 1 := rfl
    have hbounds := hadmissible.serverShare
    change 1 ≤ (o.welcoming taken).fragmentsPerTick ∧ (o.welcoming taken).fragmentsPerTick ≤ _
    rw [hshare]
    omega

end

/-- A session over loopback connects, and every series of probes that fits into the
server's queue comes back intact, each once, within two turns for each of its datagrams
and two more. -/
theorem echoes_every_probe
    {o : Options} (hadmissible : o.Admissible) {asked taken : Instant}
    {checked : Nat → Instant}
    (hpatient : (o.start.connect asked).reached.silent taken checked = [])
    (answered : Instant) (clock : UInt64) :
    ∃ joined,
      o.start.join asked taken checked answered clock = .done joined ∧
      joined.client.isConnected = true ∧
      ∀ probes : List (Nat × UInt64),
        probes.length ≤ maxQueuedMessages →
        (∀ probe ∈ probes, 24 + probe.1 ≤ maxMessageSize) →
        (probes.map fun probe => 24 + probe.1).sum ≤ maxQueuedBytes →
        ∃ asking,
          joined.sendProbes probes = .ok asking ∧
          ∀ turns : List Turn,
            turns.length =
              2 * (probes.map fun probe => Channel.datagramCount (24 + probe.1)).sum + 2 →
            Patient turns asking →
            ∃ final channel,
              asking.play turns = .done final ∧
              final.client.stats.sent = probes.length ∧
              final.client.stats.echoed = probes.length ∧
              final.client.stats.corrupted = 0 ∧
              final.client.stats.bytesEchoed = (probes.map Prod.fst).sum ∧
              final.client.inFlight = [] ∧
              final.server.echoed = probes.length ∧
              final.client.channel = some channel ∧
              channel.incoming.tally.dropped = 0 ∧
              channel.incoming.tally.delivered = probes.length := by
  obtain ⟨hub, hjoin, hcarries⟩ :=
    join_start o hadmissible.capacity hpatient answered clock
  refine ⟨_, hjoin, rfl, ?_⟩
  intro probes hcount hsizes htotal
  obtain ⟨asking, hsend, hechoing, hwork, -⟩ :=
    sendProbes_joined o hadmissible hcount hsizes htotal asked taken hcarries
  refine ⟨asking, hsend, ?_⟩
  intro turns hturns hpatience
  have henough : (o.exchange taken (Sample.series 1 probes)).work asking.client <
      turns.length := by
    omega
  obtain ⟨final, e, hplay, hlast, hread, hempty, hdone⟩ :=
    hechoing.play rfl hpatience (Or.inl henough)
  obtain ⟨hanswered, hnone, hserved⟩ := hlast.all_answered hread hempty hdone
  have hlength := Sample.length_series 1 probes
  refine ⟨final, e.channel, hplay, ?_, ?_, hlast.knows.corrupted, ?_, ?_, ?_,
    hlast.knows.clientChannel, hlast.knows.dropped, ?_⟩
  · rw [hlast.knows.sent, hlength]
  · rw [hlast.knows.echoed, hanswered, hlength]
  · rw [hlast.knows.bytesEchoed, hanswered, Sample.map_size_series]
  · rw [hlast.knows.inFlight, hnone]
    rfl
  · rw [hlast.knows.serverEchoed, hserved, hlength]
  · rw [hlast.knows.delivered, hanswered, hlength]

/-- Two probes, one of them split: three datagrams each way, with shares of one. -/
theorem echoes_split_probe :
    let o : Options := ⟨{ qport := 7 }, 7, 1, "echo", 1, 1, defaultClientTimeout⟩
    ∃ joined asking final,
      o.start.join 0 0 (fun _ => 0) 0 0 = .done joined ∧
      joined.client.isConnected = true ∧
      joined.sendProbes [(0, 5), (2000, 6)] = .ok asking ∧
      asking.play (List.replicate 8 ⟨1, 7, 2, fun _ => 2⟩) = .done final ∧
      final.client.stats.echoed = 2 ∧ final.client.stats.bytesEchoed = 2000 ∧
      final.server.echoed = 2 := by
  intro o
  have hadmissible : o.Admissible := ⟨by decide, by decide, by decide⟩
  obtain ⟨hub, hconnect, hcarries, hsettings⟩ := connect_start o 0
  obtain ⟨hub₁, hwork, -⟩ := work_start o hadmissible.capacity hcarries hsettings
  have hpatient : (o.start.connect 0).reached.silent 0 (fun _ => 0) = [] := by
    rw [hconnect]
    change (o.server.work hub 0).reached.1.roster.timedOut _ (fun _ => 0) = []
    rw [hwork]
    rfl
  have hcount : [((0 : Nat), (5 : UInt64)), (2000, 6)].length ≤ maxQueuedMessages := by
    decide
  have hsizes : ∀ probe ∈ [((0 : Nat), (5 : UInt64)), (2000, 6)],
      24 + probe.1 ≤ maxMessageSize := by
    decide
  have htotal : ([((0 : Nat), (5 : UInt64)), (2000, 6)].map
      fun probe => 24 + probe.1).sum ≤ maxQueuedBytes := by
    decide
  obtain ⟨joined, hjoin, hconnected, hprobes⟩ := echoes_every_probe hadmissible hpatient 0 0
  obtain ⟨asking, hsend, hturns⟩ := hprobes _ hcount hsizes htotal
  obtain ⟨hub₂, hjoin', hcarries₂⟩ := join_start o hadmissible.capacity hpatient 0 0
  have hsame : joined = ⟨o.joined 0, o.welcoming 0, hub₂⟩ := by
    rw [hjoin'] at hjoin
    cases hjoin
    rfl
  obtain ⟨asking', hsend', hechoing, -, hserver⟩ :=
    sendProbes_joined o hadmissible hcount hsizes htotal 0 0 hcarries₂
  have hasking : asking = asking' := by
    rw [hsame, hsend'] at hsend
    cases hsend
    rfl
  have hpatience : Patient (List.replicate 8 ⟨1, 7, 2, fun _ => 2⟩) asking := by
    rw [hasking]
    apply hechoing.patient rfl (Int.le_refl 0)
    intro t ht
    rw [List.eq_of_mem_replicate ht, hserver]
    have hshort : (2 : Int) ≤ 0 + defaultClientTimeout := by decide
    exact ⟨by decide, fun _ => hshort⟩
  obtain ⟨final, channel, hplay, -, hechoed, -, hbytes, -, hserved, -⟩ :=
    hturns _ (by decide) hpatience
  exact ⟨joined, asking, final, hjoin, hconnected, hsend, hplay, hechoed, hbytes, hserved⟩

end Session
end DatagramLink

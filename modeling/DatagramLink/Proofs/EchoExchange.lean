import DatagramLink.Client
import DatagramLink.Server
import DatagramLink.Proofs.MessageCodec
import DatagramLink.Proofs.Reassembly

/-!
# Probes and echoes under way

A client's probes are answered one after another, so at any moment the list of all
probes is cut at two places: what the server has served, and what the client has got
back.  Both cuts only move on, and whatever lies between them is in the channels'
datagrams.

`Exchange.Describes` says so about a client and a server, apart from the hub.  Each of
the four things that either side does keeps it: handling a datagram moves a cut, and
sending moves datagrams from what is pending to what is in flight.
-/

namespace DatagramLink

/-! ## Samples -/

structure Sample where
  id : UInt32
  timestamp : UInt64
  size : Nat

namespace Sample

def payload (x : Sample) : ByteArray := probePayload x.id x.size

def probe (x : Sample) : ByteArray :=
  Message.encode (.probe x.id x.timestamp x.payload)

def echo (x : Sample) : ByteArray :=
  Message.encode (.echo x.id x.timestamp x.payload)

def awaited (x : Sample) : Probe := ⟨x.id, x.size⟩

@[simp] theorem size_probe (x : Sample) : x.probe.size = 24 + x.size := by
  rw [probe, Message.size_encode_probe, payload, size_probePayload]

@[simp] theorem size_echo (x : Sample) : x.echo.size = 24 + x.size := by
  rw [echo, Message.size_encode_echo, payload, size_probePayload]

theorem payload_in_memory {x : Sample} (hsize : 24 + x.size ≤ maxMessageSize) :
    x.payload.size < 2 ^ 64 := by
  have hlimit : maxMessageSize = 8388608 := rfl
  rw [payload, size_probePayload]
  omega

theorem decode_probe {x : Sample} (hsize : 24 + x.size ≤ maxMessageSize) :
    Message.decode x.probe = .ok (.probe x.id x.timestamp x.payload) :=
  Message.decode_encode _ (payload_in_memory hsize)

theorem decode_echo {x : Sample} (hsize : 24 + x.size ≤ maxMessageSize) :
    Message.decode x.echo = .ok (.echo x.id x.timestamp x.payload) :=
  Message.decode_encode _ (payload_in_memory hsize)

theorem answers_awaited (x : Sample) : Client.answers x.awaited x.payload = true := by
  simp [Client.answers, awaited, payload]

/-! ## Series -/

/-- The probes that a client makes one after another, each with its payload size and the
time on the client's clock. -/
def series (first : UInt32) : List (Nat × UInt64) → List Sample
  | [] => []
  | (size, clock) :: rest => ⟨first, clock, size⟩ :: series (first + 1) rest

theorem map_size_series (first : UInt32) (probes : List (Nat × UInt64)) :
    (series first probes).map size = probes.map Prod.fst := by
  induction probes generalizing first with
  | nil => rfl
  | cons probe probes ih => simp [series, ih]

theorem length_series (first : UInt32) (probes : List (Nat × UInt64)) :
    (series first probes).length = probes.length := by
  have hlength := congrArg List.length (map_size_series first probes)
  simpa using hlength

theorem exists_id_of_mem_series
    {first : UInt32} {probes : List (Nat × UInt64)} {x : Sample}
    (hx : x ∈ series first probes) :
    ∃ i < probes.length, x.id = first + UInt32.ofNat i := by
  induction probes generalizing first with
  | nil => simp [series] at hx
  | cons probe probes ih =>
      rcases List.mem_cons.mp hx with rfl | hx
      · exact ⟨0, Nat.succ_pos _, by simp⟩
      · obtain ⟨i, hi, hid⟩ := ih hx
        refine ⟨i + 1, Nat.succ_lt_succ hi, ?_⟩
        rw [hid, UInt32.ofNat_add, UInt32.add_assoc, UInt32.add_comm 1]
        rfl

/-- Identifiers do not repeat within a series that does not exhaust them. -/
theorem nodup_series
    {first : UInt32} {probes : List (Nat × UInt64)} (hcount : probes.length ≤ 2 ^ 32) :
    ((series first probes).map id).Nodup := by
  induction probes generalizing first with
  | nil => exact List.nodup_nil
  | cons probe probes ih =>
      rw [List.length_cons] at hcount
      rw [series, List.map_cons, List.nodup_cons]
      constructor
      · intro hmem
        obtain ⟨x, hx, hfirst⟩ := List.mem_map.mp hmem
        obtain ⟨i, hi, hid⟩ := exists_id_of_mem_series hx
        have hsame : first = first + 1 + UInt32.ofNat i := hfirst.symm.trans hid
        have hvalue := congrArg UInt32.toNat hsame
        rw [UInt32.toNat_add, UInt32.toNat_add, UInt32.toNat_ofNat'] at hvalue
        have hone : (1 : UInt32).toNat = 1 := rfl
        have hbound := first.toNat_lt
        omega
      · exact ih (by omega)

end Sample

/-! ## Asking -/

namespace Client

def sendProbes : List (Nat × UInt64) → Client → Except Fault Client
  | [], c => .ok c
  | (size, clock) :: rest, c =>
      match c.sendProbe size clock with
      | .error fault => .error fault
      | .ok (_, c) => sendProbes rest c

theorem sendProbe_eq
    {c : Client} (hconnected : c.isConnected = true) {size : Nat}
    (hsize : size ≤ maxPayloadSize)
    (hfresh : ∀ probe ∈ c.inFlight, ¬ probe.id = c.nextProbe) (clock : UInt64) :
    c.sendProbe size clock =
      .ok (some c.nextProbe,
        { c with
          inFlight := c.inFlight ++ [Sample.awaited ⟨c.nextProbe, clock, size⟩]
          stats := { c.stats with sent := c.stats.sent + 1 }
          nextProbe := c.nextProbe + 1
          queue := c.queue ++ [Sample.probe ⟨c.nextProbe, clock, size⟩] }) := by
  have hkept : c.inFlight.filter (·.id != c.nextProbe) = c.inFlight := by
    rw [List.filter_eq_self]
    intro probe hprobe
    simpa using hfresh probe hprobe
  simp only [sendProbe, hconnected, not_true_eq_false, if_false, Nat.not_lt.mpr hsize,
    await, hkept]
  rfl

/-- Every probe of a series is queued and awaited. -/
theorem sendProbes_eq
    {c : Client} (hconnected : c.isConnected = true) {probes : List (Nat × UInt64)}
    (hsizes : ∀ probe ∈ probes, probe.1 ≤ maxPayloadSize)
    (hdistinct : (c.inFlight.map Probe.id ++
      (Sample.series c.nextProbe probes).map Sample.id).Nodup) :
    ∃ nextProbe,
      c.sendProbes probes =
        .ok
          { c with
            inFlight := c.inFlight ++ (Sample.series c.nextProbe probes).map Sample.awaited
            stats := { c.stats with sent := c.stats.sent + probes.length }
            nextProbe
            queue := c.queue ++ (Sample.series c.nextProbe probes).map Sample.probe } := by
  induction probes generalizing c with
  | nil =>
      refine ⟨c.nextProbe, ?_⟩
      simp [sendProbes, Sample.series]
  | cons probe probes ih =>
      obtain ⟨size, clock⟩ := probe
      rw [Sample.series, List.map_cons] at hdistinct
      have hfresh : ∀ probe ∈ c.inFlight, ¬ probe.id = c.nextProbe := by
        intro probe hprobe heq
        have hapart := (List.nodup_append.mp hdistinct).2.2 probe.id
          (List.mem_map_of_mem hprobe) c.nextProbe List.mem_cons_self
        exact hapart heq
      have hsend := sendProbe_eq hconnected
        (hsizes (size, clock) List.mem_cons_self) hfresh clock
      obtain ⟨nextProbe, hrest⟩ := ih
        (c := { c with
          inFlight := c.inFlight ++ [Sample.awaited ⟨c.nextProbe, clock, size⟩]
          stats := { c.stats with sent := c.stats.sent + 1 }
          nextProbe := c.nextProbe + 1
          queue := c.queue ++ [Sample.probe ⟨c.nextProbe, clock, size⟩] })
        hconnected (fun probe hprobe => hsizes probe (List.mem_cons_of_mem _ hprobe))
        (by simpa [Sample.awaited] using hdistinct)
      refine ⟨nextProbe, ?_⟩
      rw [sendProbes, hsend]
      simp only [hrest, Sample.series, List.map_cons, List.append_assoc, List.cons_append,
        List.nil_append, List.length_cons]
      rw [show c.stats.sent + 1 + probes.length = c.stats.sent + (probes.length + 1) by omega]

end Client

/-! ## Reply queues -/

namespace MessageQueue

theorem totalSize_cons (message : ByteArray) (queue : List ByteArray) :
    totalSize (message :: queue) = message.size + totalSize queue := rfl

theorem totalSize_le_of_sublist {queue all : List ByteArray} (hsub : queue.Sublist all) :
    totalSize queue ≤ totalSize all := by
  induction hsub with
  | slnil => exact Nat.le_refl _
  | cons message hsub ih =>
      rw [totalSize_cons]
      omega
  | cons_cons message hsub ih =>
      rw [totalSize_cons, totalSize_cons]
      omega

theorem totalSize_echoes (samples : List Sample) :
    totalSize (samples.map Sample.echo) = (samples.map fun x => 24 + x.size).sum := by
  induction samples with
  | nil => rfl
  | cons x samples ih =>
      rw [List.map_cons, totalSize_cons, ih, Sample.size_echo, List.map_cons, List.sum_cons]

theorem trim_of_fits {queue : List ByteArray} (hcount : queue.length ≤ maxQueuedMessages)
    (htotal : totalSize queue ≤ maxQueuedBytes) :
    trim queue = ([], queue) := by
  cases queue with
  | nil => rfl
  | cons oldest rest =>
      have hfits : ¬ Overfull (oldest :: rest) := by
        intro hover
        rcases hover.2 with hlong | hlarge
        · omega
        · omega
      rw [trim, if_neg hfits]

end MessageQueue

/-! ## Echoes -/

theorem Client.handleEcho_oldest
    {c : Client} {x : Sample} {later : List Sample}
    (hflight : c.inFlight = (x :: later).map Sample.awaited)
    (hfresh : ∀ y ∈ later, ¬ y.id = x.id) (clock : UInt64) :
    ∃ records roundTrip,
      c.handleEcho x.id x.timestamp x.payload clock =
        (records,
          { c with
            inFlight := later.map Sample.awaited
            stats := c.stats.countEcho x.size roundTrip }) := by
  have hfind : c.inFlight.find? (·.id == x.id) = some x.awaited := by
    rw [hflight, List.map_cons]
    exact List.find?_cons_of_pos (by simp [Sample.awaited])
  have hrest : c.inFlight.filter (·.id != x.id) = later.map Sample.awaited := by
    rw [hflight, List.map_cons, List.filter_cons_of_neg (by simp [Sample.awaited]),
      List.filter_eq_self]
    intro probe hprobe
    obtain ⟨y, hy, rfl⟩ := List.mem_map.mp hprobe
    simpa [Sample.awaited] using hfresh y hy
  refine ⟨(c.handleEcho x.id x.timestamp x.payload clock).1,
    clock.toNat - x.timestamp.toNat, ?_⟩
  rw [handleEcho, hfind]
  simp only [hrest, countEcho, x.answers_awaited, if_true]
  rfl

/-! ## Rosters of one client -/

theorem Roster.modify_single
    {r : Roster} {peer : Peer} (hpeers : r.peers = [peer]) (test : Peer → Bool)
    (htest : test peer = true) {α : Type} (step : Peer → α × Peer) :
    r.modify test step =
      (some (step peer).1, { r with peers := [(step peer).2] }) := by
  simp only [modify, hpeers, modifyFirst, htest, if_true]

def Peer.heard (peer : Peer) (receipt : Receipt) (incoming : Incoming) (now : Instant) :
    Peer :=
  { peer with
    channel := { peer.channel with incoming }
    lastSeen := if receipt.isDelivered then now else peer.lastSeen }

theorem Peer.receive_eq
    {peer : Peer} {source : Address} {datagram : ByteArray} {receipt : Receipt}
    {incoming : Incoming}
    (hreceive : peer.channel.receive source (.ofBytes datagram) =
      (receipt, { peer.channel with incoming }))
    (now : Instant) :
    peer.receive source datagram now = (receipt, peer.heard receipt incoming now) := by
  simp only [Peer.receive, hreceive, Peer.heard]
  split <;> rfl

theorem Peer.lastSeen_heard (peer : Peer) (receipt : Receipt) (incoming : Incoming)
    (now : Instant) :
    (peer.heard receipt incoming now).lastSeen = peer.lastSeen ∨
      (peer.heard receipt incoming now).lastSeen = now := by
  unfold Peer.heard
  cases receipt.isDelivered with
  | true => exact Or.inr rfl
  | false => exact Or.inl rfl

theorem Peer.enqueue_of_fits
    {peer : Peer} {message : ByteArray}
    (hcount : (peer.queue ++ [message]).length ≤ maxQueuedMessages)
    (htotal : MessageQueue.totalSize (peer.queue ++ [message]) ≤ maxQueuedBytes) :
    peer.enqueue message = ([], { peer with queue := peer.queue ++ [message] }) := by
  rw [enqueue, MessageQueue.trim_of_fits hcount htotal]
  rfl

theorem Server.handleMessage_probe
    {s : Server} {peer : Peer} (hpeers : s.roster.peers = [peer]) {x : Sample}
    (hsize : 24 + x.size ≤ maxMessageSize)
    (hcount : (peer.queue ++ [x.echo]).length ≤ maxQueuedMessages)
    (htotal : MessageQueue.totalSize (peer.queue ++ [x.echo]) ≤ maxQueuedBytes) :
    ∃ records,
      s.handleMessage peer.id x.probe =
        ({ records },
          { s with
            roster :=
              { s.roster with peers := [{ peer with queue := peer.queue ++ [x.echo] }] }
            echoed := s.echoed + 1 }) := by
  have hmodify := Roster.modify_single hpeers (·.id == peer.id) (beq_self_eq_true _)
    (·.enqueue x.echo)
  rw [Peer.enqueue_of_fits hcount htotal] at hmodify
  refine ⟨(s.handleMessage peer.id x.probe).1.records, ?_⟩
  simp only [handleMessage, Sample.decode_probe hsize, handleProbe]
  rw [show Message.encode (.echo x.id x.timestamp x.payload) = x.echo from rfl, hmodify]

/-! ## Exchanges -/

/-- Where everything is that belongs to the probes of a client. -/
structure Exchange where
  channel : Channel
  peer : Peer
  /-- The datagrams on their way to the server. -/
  toServer : List Packet
  /-- The datagrams on their way to the client. -/
  toClient : List Packet
  answered : List Sample
  echoing : List Sample
  served : List Sample
  going : List Sample

namespace Exchange

/-- The datagrams of the echoes that the server still has to send, now or once their
probes have come. -/
def replies (e : Exchange) : List Packet :=
  e.peer.channel.pending (e.peer.queue ++ e.going.map Sample.echo)

/-- What the client and the server know of an exchange. -/
structure Describes (e : Exchange) (samples : List Sample) (c : Client) (s : Server) :
    Prop where
  connected : c.isConnected = true
  clientChannel : c.channel = some e.channel
  peers : s.roster.peers = [e.peer]
  side : e.channel.side = .client
  ends : Channel.Matches e.channel e.peer.channel
  clientRemote : e.channel.remote = .loopback
  serverRemote : e.peer.channel.remote = .loopback
  clientAligned : e.channel.Aligned
  serverAligned : e.peer.channel.Aligned
  sizes : ∀ x ∈ samples, 24 + x.size ≤ maxMessageSize
  distinct : (samples.map Sample.id).Nodup
  count : samples.length ≤ maxQueuedMessages
  total : (samples.map fun x => 24 + x.size).sum ≤ maxQueuedBytes
  answeredCut : samples = e.answered ++ e.echoing
  servedCut : samples = e.served ++ e.going
  probes : e.peer.channel.Expects (e.toServer ++ e.channel.pending c.queue)
  probesLeft : (e.toServer ++ e.channel.pending c.queue).filterMap Packet.completes =
    e.going.map Sample.probe
  echoes : e.channel.Expects (e.toClient ++ e.replies)
  echoesLeft : (e.toClient ++ e.replies).filterMap Packet.completes =
    e.echoing.map Sample.echo
  inFlight : c.inFlight = e.echoing.map Sample.awaited
  sent : c.stats.sent = samples.length
  echoed : c.stats.echoed = e.answered.length
  corrupted : c.stats.corrupted = 0
  bytesEchoed : c.stats.bytesEchoed = (e.answered.map Sample.size).sum
  serverEchoed : s.echoed = e.served.length
  delivered : e.channel.incoming.tally.delivered = e.answered.length
  dropped : e.channel.incoming.tally.dropped = 0

section
variable {e : Exchange} {samples : List Sample} {c : Client} {s : Server}

/-! ## Receiving -/

theorem Describes.next_fresh
    (hdescribes : e.Describes samples c s) {x : Sample} {echoing : List Sample}
    (hechoing : e.echoing = x :: echoing) :
    ∀ y ∈ echoing, ¬ y.id = x.id := by
  intro y hy heq
  have hdistinct := hdescribes.distinct
  rw [hdescribes.answeredCut, hechoing, List.map_append, List.map_cons,
    List.nodup_append] at hdistinct
  have htail := (List.nodup_cons.mp hdistinct.2.1).1
  exact htail (heq ▸ List.mem_map_of_mem hy)

/-- The client handles the next datagram of the server.  An echo that it completes is
the one of the oldest unanswered probe. -/
theorem Describes.client_handle
    (hdescribes : e.Describes samples c s) {p : Packet} {rest : List Packet}
    (harrives : e.toClient = p :: rest) (showDrops : Bool) (clock : UInt64) :
    ∃ records c' channel answered echoing,
      c.handle showDrops .loopback p.bytes clock = (records, c') ∧
        Describes { e with channel, toClient := rest, answered, echoing } samples c' s ∧
        (∀ queue, channel.pending queue = e.channel.pending queue) ∧
        c'.queue = c.queue ∧ c'.fragmentsPerTick = c.fragmentsPerTick := by
  have hechoes := hdescribes.echoes
  rw [harrives, List.cons_append] at hechoes
  obtain ⟨receipt, incoming, hreceive, hcompletes, hadvanced, hexpects⟩ := hechoes.receive
  have hheader := (hechoes.header List.mem_cons_self).1
  have hchannel : isConnectionless p.bytes = false :=
    Header.isConnectionless_bytes_append hheader p.payload
  have hloopback : e.channel.receive .loopback (.ofBytes p.bytes) =
      (receipt, { e.channel with incoming }) := by
    rw [← hdescribes.clientRemote]
    exact hreceive
  have hhandle : c.handle showDrops .loopback p.bytes clock =
      { c with channel := none }.handleSequenced e.channel .loopback p.bytes clock := by
    rw [Client.handle, hchannel, hdescribes.clientChannel]
    rfl
  have hleft := hdescribes.echoesLeft
  rw [harrives, List.cons_append, List.filterMap_cons] at hleft
  have htally := hadvanced.tally
  cases hcase : p.completes with
  | none =>
      rw [hcase] at hcompletes hleft htally
      refine ⟨receipt.records, { c with channel := some { e.channel with incoming } },
        { e.channel with incoming }, e.answered, e.echoing, ?_, ?_, fun _ => rfl, rfl, rfl⟩
      · rw [hhandle, Client.handleSequenced, hloopback]
        simp only [hcompletes]
      · exact
          { hdescribes with
            clientChannel := rfl
            ends := ⟨hdescribes.ends.side, hdescribes.ends.qport⟩
            clientAligned := ⟨hdescribes.clientAligned.sendable,
              hdescribes.clientAligned.unsent⟩
            echoes := hexpects
            echoesLeft := hleft
            delivered := by
              rw [htally]
              exact hdescribes.delivered
            dropped := by
              rw [htally]
              exact hdescribes.dropped }
  | some message =>
      rw [hcase] at hcompletes hleft htally
      cases hechoing : e.echoing with
      | nil => simp [hechoing] at hleft
      | cons x echoing =>
          rw [hechoing, List.map_cons, List.cons.injEq] at hleft
          obtain ⟨rfl, hleft⟩ := hleft
          have hcut := hdescribes.answeredCut
          rw [hechoing] at hcut
          have hsize : 24 + x.size ≤ maxMessageSize := by
            apply hdescribes.sizes
            rw [hcut]
            simp
          have hflight : ({ c with channel := some { e.channel with incoming } } :
              Client).inFlight = (x :: echoing).map Sample.awaited := by
            rw [← hechoing]
            exact hdescribes.inFlight
          obtain ⟨records, roundTrip, hecho⟩ :=
            Client.handleEcho_oldest hflight (hdescribes.next_fresh hechoing) clock
          refine ⟨receipt.records ++ records,
            { c with
              channel := some { e.channel with incoming }
              inFlight := echoing.map Sample.awaited
              stats := c.stats.countEcho x.size roundTrip },
            { e.channel with incoming }, e.answered ++ [x], echoing, ?_, ?_,
            fun _ => rfl, rfl, rfl⟩
          · rw [hhandle, Client.handleSequenced, hloopback]
            simp only [hcompletes, Client.handleMessage, Sample.decode_echo hsize, hecho]
          · exact
              { hdescribes with
                clientChannel := rfl
                ends := ⟨hdescribes.ends.side, hdescribes.ends.qport⟩
                clientAligned := ⟨hdescribes.clientAligned.sendable,
                  hdescribes.clientAligned.unsent⟩
                answeredCut := by
                  rw [hcut, List.append_assoc]
                  rfl
                echoes := hexpects
                echoesLeft := hleft
                inFlight := rfl
                echoed := by
                  rw [List.length_append, List.length_singleton, ← hdescribes.echoed]
                  rfl
                bytesEchoed := by
                  rw [List.map_append, List.sum_append, ← hdescribes.bytesEchoed]
                  simp [ProbeStats.countEcho]
                delivered := by
                  rw [htally, List.length_append, List.length_singleton,
                    ← hdescribes.delivered]
                  rfl
                dropped := by
                  rw [htally]
                  rfl }

theorem Describes.queue_sublist
    (hdescribes : e.Describes samples c s) :
    (e.peer.queue ++ e.going.map Sample.echo).Sublist (samples.map Sample.echo) := by
  have hleft := hdescribes.echoesLeft
  rw [List.filterMap_append, replies,
    Channel.completes_pending hdescribes.serverAligned] at hleft
  have hpart : (e.peer.queue ++ e.going.map Sample.echo).Sublist
      (e.echoing.map Sample.echo) := by
    rw [← hleft]
    exact (List.sublist_append_right _ _).trans (List.sublist_append_right _ _)
  rw [hdescribes.answeredCut, List.map_append]
  exact hpart.trans (List.sublist_append_right _ _)

theorem Describes.queue_fits
    (hdescribes : e.Describes samples c s) {x : Sample} {going : List Sample}
    (hgoing : e.going = x :: going) :
    (e.peer.queue ++ [x.echo]).length ≤ maxQueuedMessages ∧
      MessageQueue.totalSize (e.peer.queue ++ [x.echo]) ≤ maxQueuedBytes := by
  have hpart : (e.peer.queue ++ [x.echo]).Sublist (samples.map Sample.echo) := by
    have hall := hdescribes.queue_sublist
    rw [hgoing, List.map_cons] at hall
    refine List.Sublist.trans ?_ hall
    exact (List.singleton_sublist.mpr List.mem_cons_self).append_left e.peer.queue
  constructor
  · have hlength := hpart.length_le
    rw [List.length_map] at hlength
    exact Nat.le_trans hlength hdescribes.count
  · have hsum := MessageQueue.totalSize_le_of_sublist hpart
    rw [MessageQueue.totalSize_echoes] at hsum
    exact Nat.le_trans hsum hdescribes.total

theorem Describes.server_receives
    (hdescribes : e.Describes samples c s) {p : Packet} {rest : List Packet}
    (harrives : e.toServer = p :: rest) (showDrops : Bool) (now : Instant) :
    ∃ (receipt : Receipt) (incoming : Incoming),
      s.handle showDrops .loopback p.bytes now =
          (match receipt.message? with
          | none =>
              ({ records := receipt.records },
                { s with roster :=
                  { s.roster with peers := [e.peer.heard receipt incoming now] } })
          | some message =>
              match Server.handleMessage
                  { s with roster :=
                    { s.roster with peers := [e.peer.heard receipt incoming now] } }
                  (e.peer.heard receipt incoming now).id message with
              | (response, s) =>
                  ({ response with records := receipt.records ++ response.records }, s)) ∧
        receipt.message? = p.completes ∧
        Channel.Expects { e.peer.channel with incoming }
          (rest ++ e.channel.pending c.queue) := by
  have hprobes := hdescribes.probes
  rw [harrives, List.cons_append] at hprobes
  obtain ⟨receipt, incoming, hreceive, hcompletes, -, hexpects⟩ := hprobes.receive
  obtain ⟨hsendable, hstamp⟩ := hprobes.header List.mem_cons_self
  have hserverSide : e.peer.channel.side = .server := by
    rw [hdescribes.ends.side, hdescribes.side]
    rfl
  have hqport : p.header.qport = some e.peer.channel.qport := by
    rw [hstamp, Channel.peerStamp, hserverSide]
  have hchannel : isConnectionless p.bytes = false :=
    Header.isConnectionless_bytes_append hsendable p.payload
  have hpeek : peekQport p.bytes = some e.peer.channel.qport :=
    Header.peekQport_bytes_append hchannel hqport
  have howns : e.peer.owns .loopback e.peer.channel.qport = true := by
    rw [Peer.owns, hdescribes.serverRemote]
    simp
  have hloopback : e.peer.channel.receive .loopback (.ofBytes p.bytes) =
      (receipt, { e.peer.channel with incoming }) := by
    rw [← hdescribes.serverRemote]
    exact hreceive
  have hmodify {α : Type} (step : Peer → α × Peer) :=
    Roster.modify_single hdescribes.peers (·.owns .loopback e.peer.channel.qport) howns step
  have hheard := Peer.receive_eq hloopback now
  refine ⟨receipt, incoming, ?_, hcompletes, hexpects⟩
  have hhandle : s.handle showDrops .loopback p.bytes now =
      s.handleSequenced .loopback e.peer.channel.qport p.bytes now := by
    rw [Server.handle, hchannel, hpeek]
    rfl
  cases hmessage : receipt.message? with
  | none => simp only [hhandle, Server.handleSequenced, hmodify, hheard, hmessage]
  | some message => simp only [hhandle, Server.handleSequenced, hmodify, hheard, hmessage]

/-- The server handles the next datagram of the client and answers nothing at once.  A
probe that it completes is the oldest unserved one, and its echo is queued. -/
theorem Describes.server_handle
    (hdescribes : e.Describes samples c s) {p : Packet} {rest : List Packet}
    (harrives : e.toServer = p :: rest) (showDrops : Bool) (now : Instant) :
    ∃ records s' peer served going,
      s.handle showDrops .loopback p.bytes now = ({ records }, s') ∧
        Describes { e with peer, toServer := rest, served, going } samples c s' ∧
        peer.channel.pending (peer.queue ++ going.map Sample.echo) = e.replies ∧
        (peer.lastSeen = e.peer.lastSeen ∨ peer.lastSeen = now) ∧
        s'.fragmentsPerTick = s.fragmentsPerTick ∧
        s'.clientTimeout = s.clientTimeout := by
  obtain ⟨receipt, incoming, hhandle, hcompletes, hexpects⟩ :=
    hdescribes.server_receives harrives showDrops now
  have hseen := e.peer.lastSeen_heard receipt incoming now
  have hleft := hdescribes.probesLeft
  rw [harrives, List.cons_append, List.filterMap_cons] at hleft
  cases hcase : p.completes with
  | none =>
      rw [hcase] at hcompletes hleft
      rw [hcompletes] at hhandle
      refine ⟨receipt.records, _, e.peer.heard receipt incoming now, e.served, e.going,
        hhandle, ?_, rfl, hseen, rfl, rfl⟩
      exact
        { hdescribes with
          peers := rfl
          ends := ⟨hdescribes.ends.side, hdescribes.ends.qport⟩
          serverAligned := ⟨hdescribes.serverAligned.sendable,
            hdescribes.serverAligned.unsent⟩
          probes := hexpects
          probesLeft := hleft }
  | some message =>
      rw [hcase] at hcompletes hleft
      rw [hcompletes] at hhandle
      cases hgoing : e.going with
      | nil => simp [hgoing] at hleft
      | cons x going =>
          rw [hgoing, List.map_cons, List.cons.injEq] at hleft
          obtain ⟨rfl, hleft⟩ := hleft
          have hcut := hdescribes.servedCut
          rw [hgoing] at hcut
          have hsize : 24 + x.size ≤ maxMessageSize := by
            apply hdescribes.sizes
            rw [hcut]
            simp
          obtain ⟨hcount, htotal⟩ := hdescribes.queue_fits hgoing
          obtain ⟨records, hmessage⟩ := Server.handleMessage_probe
            (s := { s with roster :=
              { s.roster with peers := [e.peer.heard receipt incoming now] } })
            rfl hsize hcount htotal
          simp only [hmessage] at hhandle
          have hreplies : e.replies = e.peer.channel.pending
              (e.peer.queue ++ [x.echo] ++ going.map Sample.echo) := by
            rw [replies, hgoing, List.append_assoc]
            rfl
          refine ⟨receipt.records ++ records, _,
            { e.peer.heard receipt incoming now with queue := e.peer.queue ++ [x.echo] },
            e.served ++ [x], going, hhandle, ?_, hreplies.symm, hseen, rfl, rfl⟩
          exact
            { hdescribes with
              peers := rfl
              ends := ⟨hdescribes.ends.side, hdescribes.ends.qport⟩
              serverAligned := ⟨hdescribes.serverAligned.sendable,
                hdescribes.serverAligned.unsent⟩
              servedCut := by
                rw [hcut, List.append_assoc]
                rfl
              probes := hexpects
              probesLeft := hleft
              echoes := by
                have hechoes := hdescribes.echoes
                rw [hreplies] at hechoes
                exact hechoes
              echoesLeft := by
                have hechoesLeft := hdescribes.echoesLeft
                rw [hreplies] at hechoesLeft
                exact hechoesLeft
              serverEchoed := by
                rw [List.length_append, List.length_singleton, ← hdescribes.serverEchoed] }

/-! ## Sending -/

theorem Describes.client_sending
    (hdescribes : e.Describes samples c s) {sent : List Dispatch} {channel : Channel}
    {queue : List ByteArray} (hsending : e.channel.Sending c.queue sent channel queue) :
    ∃ packets : List Packet,
      sent.map Dispatch.bytes = packets.map Packet.bytes ∧
        e.channel.pending c.queue = packets ++ channel.pending queue ∧
        Describes { e with channel, toServer := e.toServer ++ packets } samples
          { c with channel := some channel, queue } s := by
  obtain ⟨outgoing, rfl⟩ := hsending.frame
  obtain ⟨packets, hbytes, hmore⟩ := hsending.pending
  have hpending := hmore []
  rw [List.append_nil, List.append_nil] at hpending
  refine ⟨packets, hbytes, hpending, ?_⟩
  exact
    { hdescribes with
      clientChannel := rfl
      ends := ⟨hdescribes.ends.side, hdescribes.ends.qport⟩
      clientAligned := hsending.aligned
      probes := by
        rw [List.append_assoc, ← hpending]
        exact hdescribes.probes
      probesLeft := by
        rw [List.append_assoc, ← hpending]
        exact hdescribes.probesLeft
      echoes := hdescribes.echoes.with_outgoing outgoing }

theorem Describes.server_sending
    (hdescribes : e.Describes samples c s) {sent : List Dispatch} {channel : Channel}
    {queue : List ByteArray}
    (hsending : e.peer.channel.Sending e.peer.queue sent channel queue) :
    ∃ packets : List Packet,
      sent.map Dispatch.bytes = packets.map Packet.bytes ∧
        e.replies =
          packets ++ channel.pending (queue ++ e.going.map Sample.echo) ∧
        Describes
          { e with peer := { e.peer with channel, queue }, toClient := e.toClient ++ packets }
          samples c
          { s with roster :=
              { s.roster with peers := [{ e.peer with channel, queue }] } } := by
  obtain ⟨outgoing, rfl⟩ := hsending.frame
  obtain ⟨packets, hbytes, hmore⟩ := hsending.pending
  have hreplies : e.replies = packets ++
      Channel.pending { e.peer.channel with outgoing }
        (queue ++ e.going.map Sample.echo) :=
    hmore _
  refine ⟨packets, hbytes, hreplies, ?_⟩
  exact
    { hdescribes with
      peers := rfl
      ends := ⟨hdescribes.ends.side, hdescribes.ends.qport⟩
      serverAligned := hsending.aligned
      probes := hdescribes.probes.with_outgoing outgoing
      echoes := by
        have hechoes := hdescribes.echoes
        rw [hreplies, ← List.append_assoc] at hechoes
        exact hechoes
      echoesLeft := by
        have hleft := hdescribes.echoesLeft
        rw [hreplies, ← List.append_assoc] at hleft
        exact hleft }

end

end Exchange
end DatagramLink

import DatagramLink.Proofs.Leaving
import DatagramLink.Proofs.ProbeLedger
import DatagramLink.Proofs.SendingFaults

/-!
# What an ended session leaves behind

A session ends when the client leaves or when its server sends it away with a farewell over
the channel.  A client that leaves forgets what it had queued and what it awaited, and
nothing of it is ever sent again.  A client that is sent away forgets neither: it keeps
both until it leaves, and when it connects again instead, the new channel sends what the
old one did not.

A frame is taken apart for this into what it hears, asks and sends, so that the last thing
that happened can be named.
-/

namespace DatagramLink

/-! ## What waits to be sent -/

/-- The packets that a message is sent in: the whole of it, or a fragment. -/
inductive Packet.CutFrom (message : ByteArray) : Packet → Prop
  | whole (stamp : Option UInt16) (sequence : UInt32) :
      CutFrom message (.whole stamp sequence message)
  | fragment (stamp : Option UInt16) (sequence : UInt32) (start : Nat) :
      CutFrom message (.fragment stamp sequence ⟨message, start⟩)

namespace Channel

variable {c : Channel}

/-- The message whose fragments are unsent, if there is one. -/
def started (c : Channel) : List ByteArray := (c.outgoing.unsent.map Unsent.message).toList

theorem started_eq_nil (hidle : c.outgoing.unsent = none) : c.started = [] := by
  rw [started, hidle]
  rfl

theorem exists_cutFrom_of_mem_pending {queue : List ByteArray} {p : Packet}
    (hp : p ∈ c.pending queue) :
    ∃ message ∈ c.started ++ queue, p.CutFrom message := by
  have hstream : ∀ {sequence}, p ∈ Packet.stream c.stamp sequence queue →
      ∃ message ∈ c.started ++ queue, p.CutFrom message := by
    intro sequence hp
    obtain ⟨i, message, hmessage, hmem⟩ := Packet.exists_of_mem_stream hp
    refine ⟨message, List.mem_append_right _ (List.mem_of_getElem? hmessage), ?_⟩
    rcases Packet.mem_ofMessage.mp hmem with ⟨-, rfl⟩ | ⟨-, k, -, rfl⟩
    · exact .whole _ _
    · exact .fragment _ _ _
  cases hunsent : c.outgoing.unsent with
  | none =>
      simp only [pending, hunsent] at hp
      exact hstream hp
  | some u =>
      simp only [pending, hunsent] at hp
      rcases List.mem_append.mp hp with hfragment | hp
      · obtain ⟨k, -, rfl⟩ := List.mem_map.mp hfragment
        have hstarted : u.message ∈ c.started := by
          simp [started, hunsent]
        exact ⟨u.message, List.mem_append_left _ hstarted, .fragment _ _ _⟩
      · exact hstream hp

/-- Sending takes messages from the front. -/
theorem Sending.waiting_suffix {queue rest : List ByteArray} {sent : List Dispatch}
    {after : Channel} (hsending : c.Sending queue sent after rest) (haligned : c.Aligned) :
    after.started ++ rest <:+ c.started ++ queue := by
  obtain ⟨packets, -, hpending⟩ := hsending.pending
  have hall := congrArg (List.filterMap Packet.completes) (hpending [])
  rw [List.append_nil, List.append_nil, List.filterMap_append, completes_pending haligned,
    completes_pending hsending.aligned] at hall
  exact ⟨_, hall.symm⟩

theorem prepared_waiting_suffix (c : Channel) (queue : List ByteArray) :
    (c.prepared queue).1.started ++ (c.prepared queue).2 <:+ c.started ++ queue := by
  unfold prepared
  cases hunsent : c.outgoing.unsent with
  | some u => exact List.suffix_refl _
  | none =>
      cases queue with
      | nil => exact List.suffix_refl _
      | cons message rest =>
          rw [started_eq_nil hunsent]
          simp only
          split
          · exact List.suffix_refl _
          · exact List.suffix_cons message rest

theorem ship_waiting_suffix (haligned : c.Aligned) (h : Hub) (queue : List ByteArray) (budget : Nat)
    (now : Instant) :
    (c.ship h queue budget now).reached.channel.started ++
        (c.ship h queue budget now).reached.queue <:+ c.started ++ queue := by
  obtain ⟨pumped, hpump, hsending, -⟩ := pump_spec haligned queue budget
  unfold ship
  rw [hpump]
  simp only
  split
  · exact hsending.waiting_suffix haligned
  · next count reached fault heq =>
      obtain ⟨part, hpart, hsent, -⟩ := pump_spec haligned queue count
      simp only [interrupted, hpart]
      exact (part.channel.prepared_waiting_suffix part.queue).trans (hsent.waiting_suffix haligned)

/-- What a pump puts out is what the hub is handed. -/
theorem hub_ship {queue : List ByteArray} {budget : Nat} {pumped : Pumped}
    (hpump : c.pump queue budget = .ok pumped) (h : Hub) (now : Instant) :
    (c.ship h queue budget now).reached.hub =
      (h.dispatchAll pumped.dispatches now).reached.2 := by
  unfold ship
  rw [hpump]
  simp only
  split
  · next heq =>
      rw [heq]
      rfl
  · next heq =>
      rw [heq]
      rfl

/-- A share larger than what is pending sends all of it. -/
theorem ship_loopback_all (haligned : c.Aligned) (htarget : c.remote = .loopback) {h : Hub}
    (hempty : (h.ringOf c.side.peer).Holds []) {queue : List ByteArray} {budget : Nat}
    (hfew : (c.pending queue).length < budget) (hroom : budget ≤ ringSize) (now : Instant) :
    ((c.ship h queue budget now).reached.hub.ringOf c.side.peer).Holds
      ((c.pending queue).map Packet.bytes) := by
  have hfits : ([] : List ByteArray).length + budget ≤ ringSize := by
    rw [List.length_nil, Nat.zero_add]
    exact hroom
  obtain ⟨sent, shipment, hship, hsending, hstop, hholds, -⟩ :=
    ship_loopback haligned htarget hempty hfits queue now
  obtain ⟨packets, hpackets, hpending⟩ := hsending.pending
  have hless : sent.length < budget := by
    have hcount := congrArg List.length (hpending [])
    have hlength := congrArg List.length hpackets
    simp only [List.append_nil, List.length_map, List.length_append] at hcount hlength
    omega
  obtain ⟨hidle, hqueue⟩ := hstop hless
  rw [hqueue] at hsending
  rw [hsending.bytes_of_done hidle, List.nil_append] at hholds
  rw [hship]
  exact hholds

end Channel

/-- A hub that is handed dispatches sends them in order, up to one that it may stop at. -/
theorem Hub.Hands.dispatchAll {side : Side} {target : Address} {now : Instant} {h g : Hub}
    {before : List ByteArray} (hhands : Hub.Hands side target now h before g)
    {dispatches : List Dispatch}
    (haddressed : ∀ d ∈ dispatches, d.side = side ∧ d.target = target) :
    ∃ sent, sent <+: dispatches.map Dispatch.bytes ∧
      Hub.Hands side target now h (before ++ sent) (g.dispatchAll dispatches now).reached.2 := by
  induction dispatches generalizing g before with
  | nil =>
      refine ⟨[], List.prefix_refl _, ?_⟩
      rw [List.append_nil]
      exact hhands
  | cons d dispatches ih =>
      obtain ⟨hside, htarget⟩ := haddressed d List.mem_cons_self
      have hfirst :
          Hub.Hands side target now h (before ++ [d.bytes]) (g.dispatch d now).reached := by
        rw [Hub.dispatch, hside, htarget]
        exact .send d.bytes (.report [d.note] hhands)
      cases hdispatch : g.dispatch d now with
      | mk between fault =>
          rw [hdispatch] at hfirst
          cases fault with
          | some fault =>
              refine ⟨[d.bytes], ⟨dispatches.map Dispatch.bytes, rfl⟩, ?_⟩
              simp only [Hub.dispatchAll, hdispatch]
              exact hfirst
          | none =>
              obtain ⟨sent, ⟨unsent, hsent⟩, hrest⟩ :=
                ih hfirst fun e he => haddressed e (List.mem_cons_of_mem d he)
              refine ⟨d.bytes :: sent, ⟨unsent, congrArg (List.cons d.bytes) hsent⟩, ?_⟩
              simp only [Hub.dispatchAll, hdispatch]
              rw [List.append_cons]
              exact hrest

namespace Client

variable {c : Client} {server : Address} {qport : UInt16}

/-- The messages of which a datagram may still be sent, in order. -/
def waiting (c : Client) : List ByteArray := c.channel.elim [] Channel.started ++ c.queue

/-- What a client pumps are packets of the messages that wait. -/
theorem Steady.pump_hands (hsteady : Steady server qport c) (h : Hub) (now : Instant) :
    ∃ sent, Hub.Hands .client server now h sent (c.pump h now).reached.2 ∧
      ∀ bytes ∈ sent, ∃ message ∈ c.waiting, ∃ p : Packet, p.CutFrom message ∧
        p.bytes = bytes := by
  unfold Client.pump waiting
  cases hchannel : c.channel with
  | none => exact ⟨[], .nothing, by simp⟩
  | some channel =>
      have hend := hsteady.channel channel hchannel
      obtain ⟨pumped, hpump, hsending, -⟩ :=
        Channel.pump_spec hend.aligned c.queue c.fragmentsPerTick
      have haddressed : ∀ d ∈ pumped.dispatches, d.side = .client ∧ d.target = server := by
        rw [← hend.side, ← hsteady.server, ← hend.remote]
        exact hsending.addressed
      have hnothing : Hub.Hands .client server now h [] h := .nothing
      obtain ⟨sent, ⟨unsent, hsent⟩, hhands⟩ := hnothing.dispatchAll haddressed
      refine ⟨sent, ?_, ?_⟩
      · change Hub.Hands .client server now h sent
          (channel.ship h c.queue c.fragmentsPerTick now).reached.hub
        rw [Channel.hub_ship hpump]
        exact hhands
      · intro bytes hbytes
        obtain ⟨packets, hpackets, hpending⟩ := hsending.pending
        have hmem : bytes ∈ packets.map Packet.bytes := by
          rw [← hpackets, ← hsent]
          exact List.mem_append_left _ hbytes
        obtain ⟨p, hp, hbytes⟩ := List.mem_map.mp hmem
        have hwaits : p ∈ channel.pending c.queue := by
          rw [← List.append_nil c.queue, hpending]
          exact List.mem_append_left _ hp
        obtain ⟨message, hmessage, hcut⟩ := Channel.exists_cutFrom_of_mem_pending hwaits
        exact ⟨message, hmessage, p, hcut, hbytes⟩

/-! ## Events -/

/-- What a client does and what happens to it. -/
inductive Event where
  | withFragmentsPerTick (count : Nat)
  | connect (h : Hub) (now : Instant)
  | sendProbe (size : Nat) (clock : UInt64)
  | hear (showDrops : Bool) (source : Address) (datagram : ByteArray) (clock : UInt64)
  | askAgain (h : Hub) (now : Instant)
  | pump (h : Hub) (now : Instant)
  | disconnect (h : Hub) (now : Instant)

/-- Whether an event is none by which the client starts or leaves a session. -/
def Event.isPassive : Event → Bool
  | .connect _ _ | .disconnect _ _ => false
  | _ => true

/-- The client after an event.  One that a fault stops leaves the client that it reached. -/
def meet (c : Client) : Event → Client
  | .withFragmentsPerTick count => c.withFragmentsPerTick count
  | .connect h now => (c.connect h now).reached.1
  | .sendProbe size clock =>
      match c.sendProbe size clock with
      | .ok (_, after) => after
      | .error _ => c
  | .hear showDrops source datagram clock => (c.handle showDrops source datagram clock).2
  | .askAgain h now => (c.sendConnect h now).reached.1
  | .pump h now => (c.pump h now).reached.1
  | .disconnect h now => (c.disconnect h now).reached.1

def course (c : Client) (events : List Event) : Client := events.foldl meet c

/-- What an event queues: the message of a probe that is asked for. -/
def queued (c : Client) : Event → List ByteArray
  | .sendProbe size clock => (c.meet (.sendProbe size clock)).queue.drop c.queue.length
  | _ => []

/-- All that is queued in the course of events. -/
def queuedBy (c : Client) : List Event → List ByteArray
  | [] => []
  | event :: rest => c.queued event ++ (c.meet event).queuedBy rest

theorem course_snoc (c : Client) (events : List Event) (event : Event) :
    c.course (events ++ [event]) = (c.course events).meet event :=
  List.foldl_concat ..

/-- All that may come about comes about by events. -/
theorem History.exists_course (hhistory : History server qport c) :
    ∃ events, (Client.new server qport).course events = c := by
  let P : Client → Prop := fun c => ∃ events, (Client.new server qport).course events = c
  have hnext : ∀ {c : Client} (event : Event), P c → P (c.meet event) := by
    rintro c event ⟨events, rfl⟩
    exact ⟨events ++ [event], course_snoc _ _ _⟩
  induction hhistory with
  | new => exact ⟨[], rfl⟩
  | withFragmentsPerTick count hhistory ih => exact hnext (.withFragmentsPerTick count) ih
  | connect h now hhistory ih => exact hnext (.connect h now) ih
  | @sendProbe c after size clock id? hhistory hsend ih =>
      have hmeet : c.meet (.sendProbe size clock) = after := by
        simp only [meet, hsend]
      rw [← hmeet]
      exact hnext (.sendProbe size clock) ih
  | tick h now clock hhistory ih =>
      have hreceived := receiveAll_keeps (P := P)
        (fun showDrops source datagram clock hkept =>
          hnext (.hear showDrops source datagram clock) hkept) ih h clock
      exact tick_keeps (P := P) hreceived (fun h hkept => hnext (.askAgain h now) hkept)
        fun h hkept => hnext (.pump h now) hkept
  | disconnect h now hhistory ih => exact hnext (.disconnect h now) ih

/-! ## One event -/

theorem sendConnect_reached (c : Client) (h : Hub) (now : Instant) :
    ∃ lastConnect, (c.sendConnect h now).reached.1 = { c with lastConnect } := by
  unfold sendConnect
  split
  · exact ⟨_, rfl⟩
  · exact ⟨c.lastConnect, rfl⟩

theorem meet_connect (c : Client) (h : Hub) (now : Instant) :
    ∃ lastConnect, c.meet (.connect h now) = { c with phase := .connecting, lastConnect } :=
  sendConnect_reached { c with phase := .connecting } _ now

theorem sendProbe_cases (c : Client) (size : Nat) (clock : UInt64) :
    c.meet (.sendProbe size clock) = c ∨
      c.isConnected = true ∧ ∃ message, c.meet (.sendProbe size clock) =
        { c.await ⟨c.nextProbe, size⟩ with
          nextProbe := c.nextProbe + 1
          queue := c.queue ++ [message] } := by
  simp only [meet]
  by_cases hconnected : c.isConnected = true
  · by_cases hsize : maxPayloadSize < size
    · left
      simp only [sendProbe, hconnected, hsize, not_true_eq_false, if_false, if_true]
    · right
      refine ⟨hconnected,
        Message.encode (.probe c.nextProbe clock (probePayload c.nextProbe size)), ?_⟩
      simp only [sendProbe, hconnected, hsize, not_true_eq_false, if_false]
  · left
    simp only [sendProbe, hconnected, if_true, Bool.false_eq_true, not_false_eq_true]

/-- What is heard over the channel leaves the client as it was but for its count of
probes, unless it is a farewell. -/
theorem handleMessage_cases (c : Client) (message : ByteArray) (clock : UInt64) :
    (∃ inFlight stats, (c.handleMessage message clock).2 = { c with inFlight, stats }) ∨
      ∃ reason, Message.decode message = .ok (.disconnect reason) ∧
        (c.handleMessage message clock).2 = { c with phase := .disconnected, channel := none } := by
  unfold handleMessage
  cases hdecode : Message.decode message with
  | error e => exact .inl ⟨c.inFlight, c.stats, rfl⟩
  | ok heard =>
      cases heard with
      | probe id timestamp payload => exact .inl ⟨c.inFlight, c.stats, rfl⟩
      | disconnect reason => exact .inr ⟨reason, rfl, rfl⟩
      | echo id timestamp payload =>
          left
          simp only [handleEcho]
          split
          · exact ⟨c.inFlight, c.stats, rfl⟩
          · unfold countEcho
            split <;> exact ⟨_, _, rfl⟩

/-- What handling a datagram does to a client. -/
inductive Handled (c : Client) (source : Address) (datagram : ByteArray) : Client → Prop
  /-- It is ignored or answers a question. -/
  | noted (serverInfo : Option Command) (lastPrint : Option String) :
      Handled c source datagram { c with serverInfo, lastPrint }
  /-- It grants the connection. -/
  | welcomed (id : UInt32) (showDrops : Bool) :
      Handled c source datagram { c with
        phase := .connected id
        channel := some { side := .client, remote := c.server, qport := c.qport, showDrops } }
  /-- It comes over the channel and does not end the session. -/
  | received {channel after : Channel} (hchannel : c.channel = some channel)
      (houtgoing : after.outgoing = channel.outgoing) (inFlight : List Probe)
      (stats : ProbeStats) :
      Handled c source datagram { c with channel := some after, inFlight, stats }
  /-- It completes a farewell. -/
  | dismissed {reason : String}
      (hheard : c.heard? source datagram = some (.disconnect reason)) :
      Handled c source datagram { c with phase := .disconnected, channel := none }

theorem handled (c : Client) (showDrops : Bool) (source : Address) (datagram : ByteArray)
    (clock : UInt64) :
    Handled c source datagram (c.handle showDrops source datagram clock).2 := by
  unfold handle
  by_cases hconnectionless : isConnectionless datagram = true
  · rw [if_pos hconnectionless]
    split
    · cases Command.ofDatagram? datagram with
      | none => exact .noted c.serverInfo c.lastPrint
      | some command =>
          simp only [handleCommand, handleConnected]
          split
          · split
            · split
              · exact .noted c.serverInfo c.lastPrint
              · exact .welcomed _ _
            · exact .noted c.serverInfo c.lastPrint
          · exact .noted _ c.lastPrint
          · exact .noted c.serverInfo _
          · exact .noted c.serverInfo c.lastPrint
    · exact .noted c.serverInfo c.lastPrint
  · rw [if_neg hconnectionless]
    cases hchannel : c.channel with
    | none => exact .noted c.serverInfo c.lastPrint
    | some channel =>
        obtain ⟨-, -, -, houtgoing⟩ := channel.receive_keeps source datagram
        have hheard : c.heard? source datagram =
            (channel.receive source (.ofBytes datagram)).1.message?.bind fun message =>
              (Message.decode message).toOption := by
          rw [heard?, if_neg hconnectionless, hchannel]
          rfl
        cases hreceive : channel.receive source (.ofBytes datagram) with
        | mk receipt after =>
            rw [hreceive] at houtgoing hheard
            simp only [handleSequenced, hreceive]
            cases hmessage : receipt.message? with
            | none => exact .received hchannel houtgoing c.inFlight c.stats
            | some message =>
                rw [hmessage] at hheard
                rcases handleMessage_cases { c with channel := some after } message clock with
                  ⟨inFlight, stats, heq⟩ | ⟨reason, hdecode, heq⟩
                · simp only [heq]
                  exact .received hchannel houtgoing inFlight stats
                · simp only [heq]
                  rw [Option.bind_some, hdecode] at hheard
                  exact .dismissed hheard

theorem Handled.waiting_suffix {source : Address} {datagram : ByteArray} {after : Client}
    (hhandled : c.Handled source datagram after) :
    after.waiting <:+ c.waiting := by
  cases hhandled with
  | noted serverInfo lastPrint => exact List.suffix_refl _
  | welcomed id showDrops => exact List.suffix_append _ _
  | @received channel after hchannel houtgoing inFlight stats =>
      simp only [waiting, hchannel, Option.elim, Channel.started, houtgoing]
      exact List.suffix_refl _
  | dismissed hheard => exact List.suffix_append _ _

/-! ## Courses -/

theorem Steady.meet (hsteady : Steady server qport c) (event : Event) :
    Steady server qport (c.meet event) := by
  cases event with
  | withFragmentsPerTick count => exact ⟨hsteady.server, hsteady.qport, hsteady.channel⟩
  | connect h now =>
      have hstarted : Steady server qport { c with phase := .connecting } :=
        ⟨hsteady.server, hsteady.qport, hsteady.channel⟩
      exact hstarted.sendConnect _ now
  | sendProbe size clock =>
      rcases c.sendProbe_cases size clock with heq | ⟨-, message, heq⟩
      · rw [heq]
        exact hsteady
      · rw [heq]
        exact ⟨hsteady.server, hsteady.qport, hsteady.channel⟩
  | hear showDrops source datagram clock => exact hsteady.handle showDrops source datagram clock
  | askAgain h now => exact hsteady.sendConnect h now
  | pump h now => exact hsteady.pump h now
  | disconnect h now => exact hsteady.disconnect h now

theorem Tied.meet (htied : c.Tied) (event : Event) : (c.meet event).Tied := by
  cases event with
  | withFragmentsPerTick count => exact htied.congr rfl rfl
  | connect h now => exact (Tied.of_connecting rfl).sendConnect _ now
  | sendProbe size clock =>
      rcases c.sendProbe_cases size clock with heq | ⟨-, message, heq⟩
      · rw [heq]
        exact htied
      · rw [heq]
        exact htied.congr rfl rfl
  | hear showDrops source datagram clock => exact htied.handle showDrops source datagram clock
  | askAgain h now => exact htied.sendConnect h now
  | pump h now => exact htied.pump h now
  | disconnect h now => exact htied.disconnect h now

/-- What every event keeps, a course of events keeps. -/
theorem course_keeps {P : Client → Prop}
    (hmeet : ∀ {c : Client} (event : Event), P c → P (c.meet event)) (hkept : P c)
    (events : List Event) :
    P (c.course events) := by
  induction events generalizing c with
  | nil => exact hkept
  | cons event events ih => exact ih (hmeet event hkept)

theorem Steady.course (hsteady : Steady server qport c) (events : List Event) :
    Steady server qport (c.course events) :=
  course_keeps (fun event hsteady => hsteady.meet event) hsteady events

theorem Tied.course (htied : c.Tied) (events : List Event) : (c.course events).Tied :=
  course_keeps (fun event htied => htied.meet event) htied events

theorem Steady.pump_suffix (hsteady : Steady server qport c) (h : Hub) (now : Instant) :
    (c.pump h now).reached.1.waiting <:+ c.waiting := by
  unfold Client.pump
  cases hchannel : c.channel with
  | none => exact List.suffix_refl _
  | some channel =>
      have hwaiting : c.waiting = channel.started ++ c.queue := by
        rw [waiting, hchannel]
        rfl
      rw [hwaiting]
      exact Channel.ship_waiting_suffix (hsteady.channel channel hchannel).aligned h c.queue
        c.fragmentsPerTick now

/-- What waits while a client leaves is what waited before it. -/
theorem Steady.sendFarewell_suffix (hsteady : Steady server qport c) (h : Hub)
    (now : Instant) :
    (c.sendFarewell h now).reached.1.waiting <:+ c.waiting := by
  unfold Client.sendFarewell
  cases hchannel : c.channel with
  | none => exact List.suffix_refl _
  | some channel =>
      simp only
      cases hbusy : channel.isBusy with
      | true => exact List.suffix_refl _
      | false =>
          have hend := hsteady.channel channel hchannel
          obtain ⟨hfinish, -⟩ := Channel.shipAll_whole hend.aligned hbusy farewell_fits h now
          change (channel.shipAll h farewell.encode now).reached.channel.started ++ c.queue <:+ _
          rw [hfinish, Channel.started_eq_nil rfl]
          exact List.suffix_append _ _

/-- An event brings nothing back that no longer waits. -/
theorem Steady.meet_suffix (hsteady : Steady server qport c) (event : Event) :
    (c.meet event).waiting <:+ c.waiting ++ c.queued event := by
  have hquiet : ∀ {after : Client}, after.waiting <:+ c.waiting →
      after.waiting <:+ c.waiting ++ [] := by
    intro after hsuffix
    rw [List.append_nil]
    exact hsuffix
  cases event with
  | withFragmentsPerTick count => exact hquiet (List.suffix_refl _)
  | connect h now =>
      obtain ⟨lastConnect, hmeet⟩ := c.meet_connect h now
      rw [hmeet]
      exact hquiet (List.suffix_refl _)
  | sendProbe size clock =>
      rcases c.sendProbe_cases size clock with heq | ⟨-, message, heq⟩
      · rw [queued, heq, List.drop_length]
        exact hquiet (List.suffix_refl _)
      · rw [queued, heq]
        simp only [List.drop_left]
        change c.channel.elim [] Channel.started ++ (c.queue ++ [message]) <:+ _
        rw [← List.append_assoc]
        exact List.suffix_refl _
  | hear showDrops source datagram clock =>
      apply hquiet
      exact (c.handled showDrops source datagram clock).waiting_suffix
  | askAgain h now =>
      obtain ⟨lastConnect, heq⟩ := c.sendConnect_reached h now
      have hmeet : c.meet (.askAgain h now) = { c with lastConnect } := heq
      rw [hmeet]
      exact hquiet (List.suffix_refl _)
  | pump h now =>
      apply hquiet
      exact hsteady.pump_suffix h now
  | disconnect h now =>
      apply hquiet
      change (c.disconnect h now).reached.1.waiting <:+ _
      rcases c.disconnect_reached h now with ⟨-, heq⟩ | ⟨-, heq⟩
      · rw [heq]
        exact List.nil_suffix
      · rw [heq]
        exact hsteady.sendFarewell_suffix h now

/-- What waits after events waited before or was queued by them. -/
theorem Steady.course_suffix (hsteady : Steady server qport c) (events : List Event) :
    (c.course events).waiting <:+ c.waiting ++ c.queuedBy events := by
  induction events generalizing c with
  | nil =>
      rw [queuedBy, List.append_nil]
      exact List.suffix_refl _
  | cons event events ih =>
      obtain ⟨taken, htaken⟩ := hsteady.meet_suffix event
      refine (ih (hsteady.meet event)).trans ⟨taken, ?_⟩
      rw [queuedBy, ← List.append_assoc, htaken, List.append_assoc]

/-! ## Ends -/

/-- A client that its server sent away in the course of events: it neither connected nor
left since, and what it had queued and awaited then is as it was. -/
def Dismissed (start : Client) (events : List Event) : Prop :=
  ∃ before showDrops source datagram clock after reason,
    events = before ++ .hear showDrops source datagram clock :: after ∧
      (∀ event ∈ after, event.isPassive = true) ∧
      (start.course before).heard? source datagram = some (.disconnect reason) ∧
      (start.course events).queue = (start.course before).queue ∧
      (start.course events).inFlight = (start.course before).inFlight

theorem Dismissed.of_hear {start : Client} {before : List Event} {source : Address}
    {datagram : ByteArray} {reason : String}
    (hheard : (start.course before).heard? source datagram = some (.disconnect reason))
    (showDrops : Bool) (clock : UInt64)
    (hqueue : ((start.course before).handle showDrops source datagram clock).2.queue =
      (start.course before).queue)
    (hawaited : ((start.course before).handle showDrops source datagram clock).2.inFlight =
      (start.course before).inFlight) :
    Dismissed start (before ++ [.hear showDrops source datagram clock]) := by
  refine ⟨before, showDrops, source, datagram, clock, [], reason, rfl, by simp, hheard, ?_, ?_⟩
  · rw [course_snoc]
    exact hqueue
  · rw [course_snoc]
    exact hawaited

theorem Dismissed.snoc {start : Client} {events : List Event} {event : Event}
    (hdismissed : Dismissed start events) (hpassive : event.isPassive = true)
    (hqueue : ((start.course events).meet event).queue = (start.course events).queue)
    (hawaited : ((start.course events).meet event).inFlight = (start.course events).inFlight) :
    Dismissed start (events ++ [event]) := by
  obtain ⟨before, showDrops, source, datagram, clock, after, reason, rfl, hrest, hheard, hkept,
    hwaits⟩ := hdismissed
  refine ⟨before, showDrops, source, datagram, clock, after ++ [event], reason, ?_, ?_, hheard,
    ?_, ?_⟩
  · rw [List.append_assoc, List.cons_append]
  · intro other hother
    rcases List.mem_append.mp hother with hafter | hlast
    · exact hrest other hafter
    · rw [List.mem_singleton.mp hlast]
      exact hpassive
  · rw [course_snoc, hqueue, hkept]
  · rw [course_snoc, hawaited, hwaits]

/-- A client that has left already has nobody to tell. -/
theorem Tied.disconnect_disconnected (htied : c.Tied) (hphase : c.phase = .disconnected)
    (h : Hub) (now : Instant) :
    c.disconnect h now = .done (c.reset, h) := by
  have hfarewell : c.sendFarewell h now = .done (c, h) := by
    rw [Client.sendFarewell, htied.disconnected hphase]
  have hleave : c.sendLeave h now = .done h := by
    rw [sendLeave, if_pos hphase]
  rw [Client.disconnect, hfarewell, Attempt.done_andThen]
  simp only [hleave]
  rfl

/-- What a client is left with that is disconnected after an event: nothing, or what it
had before, and then it was disconnected before or heard the farewell in the event. -/
theorem Tied.meet_disconnected (htied : c.Tied) {event : Event}
    (hleft : (c.meet event).phase = .disconnected) :
    ((c.meet event).queue = [] ∧ (c.meet event).inFlight = []) ∨
      ((c.meet event).queue = c.queue ∧ (c.meet event).inFlight = c.inFlight) ∧
        (c.phase = .disconnected ∧ event.isPassive = true ∨
          ∃ showDrops source datagram clock reason,
            event = .hear showDrops source datagram clock ∧
              c.heard? source datagram = some (.disconnect reason)) := by
  cases event with
  | withFragmentsPerTick count => exact .inr ⟨⟨rfl, rfl⟩, .inl ⟨hleft, rfl⟩⟩
  | connect h now =>
      obtain ⟨lastConnect, hmeet⟩ := c.meet_connect h now
      rw [hmeet] at hleft
      cases hleft
  | sendProbe size clock =>
      rcases c.sendProbe_cases size clock with heq | ⟨hconnected, message, heq⟩
      · rw [heq] at hleft ⊢
        exact .inr ⟨⟨rfl, rfl⟩, .inl ⟨hleft, rfl⟩⟩
      · rw [heq] at hleft
        have hphase : c.phase = .disconnected := hleft
        rw [isConnected, id?, hphase] at hconnected
        cases hconnected
  | hear showDrops source datagram clock =>
      have hhandled : c.Handled source datagram (c.meet (.hear showDrops source datagram clock)) :=
        c.handled showDrops source datagram clock
      generalize c.meet (.hear showDrops source datagram clock) = after at *
      right
      cases hhandled with
      | noted serverInfo lastPrint => exact ⟨⟨rfl, rfl⟩, .inl ⟨hleft, rfl⟩⟩
      | welcomed id showDrops => cases hleft
      | received hchannel houtgoing inFlight stats =>
          rw [htied.disconnected hleft] at hchannel
          cases hchannel
      | @dismissed reason hheard =>
          exact ⟨⟨rfl, rfl⟩, .inr ⟨showDrops, source, datagram, clock, reason, rfl, hheard⟩⟩
  | askAgain h now =>
      obtain ⟨lastConnect, heq⟩ := c.sendConnect_reached h now
      have hmeet : c.meet (.askAgain h now) = { c with lastConnect } := heq
      rw [hmeet] at hleft ⊢
      exact .inr ⟨⟨rfl, rfl⟩, .inl ⟨hleft, rfl⟩⟩
  | pump h now =>
      have hphase : c.phase = .disconnected := by
        rw [← hleft, Client.meet, Client.pump]
        split <;> rfl
      have hmeet : c.meet (.pump h now) = c := by
        rw [Client.meet, Client.pump, htied.disconnected hphase]
        rfl
      rw [hmeet]
      exact .inr ⟨⟨rfl, rfl⟩, .inl ⟨hphase, rfl⟩⟩
  | disconnect h now =>
      left
      rcases c.disconnect_reached h now with ⟨-, heq⟩ | ⟨hfault, heq⟩
      · have hmeet : c.meet (.disconnect h now) = (c.sendFarewell h now).reached.1.reset := heq
        rw [hmeet]
        exact ⟨rfl, rfl⟩
      -- only a client that has somebody to tell can be stopped
      · obtain ⟨channel, hself⟩ := c.sendFarewell_reached h now
        have hmeet : c.meet (.disconnect h now) = { c with channel } := heq.trans hself
        rw [hmeet] at hleft
        have hphase : c.phase = .disconnected := hleft
        rw [htied.disconnect_disconnected hphase] at hfault
        exact absurd rfl hfault

/-- A disconnected client has nothing left, unless its server sent it away. -/
theorem cleared_or_dismissed {start : Client} (htied : start.Tied)
    (hcleared : start.queue = [] ∧ start.inFlight = []) (events : List Event)
    (hleft : (start.course events).phase = .disconnected) :
    (start.course events).queue = [] ∧ (start.course events).inFlight = [] ∨
      Dismissed start events := by
  induction events using List.reverseRecOn with
  | nil => exact .inl hcleared
  | append_singleton events event ih =>
      rw [course_snoc] at hleft ⊢
      rcases (htied.course events).meet_disconnected hleft with
        hnothing | ⟨⟨hqueue, hawaited⟩, ⟨hbefore, hpassive⟩ |
          ⟨showDrops, source, datagram, clock, reason, rfl, hheard⟩⟩
      · exact .inl hnothing
      · rcases ih hbefore with ⟨hempty, hnone⟩ | hdismissed
        · exact .inl ⟨hqueue.trans hempty, hawaited.trans hnone⟩
        · exact .inr (hdismissed.snoc hpassive hqueue hawaited)
      · exact .inr (.of_hear hheard showDrops clock hqueue hawaited)

/-- What is pumped after nothing waited are packets of messages that were queued since. -/
theorem Steady.pump_hands_queued (hsteady : Steady server qport c) (hnothing : c.waiting = [])
    (later : List Event) (h : Hub) (now : Instant) :
    ∃ sent, Hub.Hands .client server now h sent ((c.course later).pump h now).reached.2 ∧
      ∀ bytes ∈ sent, ∃ message ∈ c.queuedBy later, ∃ p : Packet, p.CutFrom message ∧
        p.bytes = bytes := by
  obtain ⟨sent, hhands, hcut⟩ := (hsteady.course later).pump_hands h now
  have hsuffix := hsteady.course_suffix later
  rw [hnothing, List.nil_append] at hsuffix
  refine ⟨sent, hhands, fun bytes hbytes => ?_⟩
  obtain ⟨message, hmessage, hpacket⟩ := hcut bytes hbytes
  exact ⟨message, hsuffix.subset hmessage, hpacket⟩

/-- Whatever happens to a client, in the order of its calls or any other: it has no channel
while it is disconnected, and nothing is queued or awaited then unless its server sent it
away.  Only a delay that is too long keeps a client from leaving.  One that leaves counts
what it awaited as lost and forgets it with its queue, and nothing that it pumps ever
after belongs to what it had queued before. -/
theorem leaves_nothing (server : Address) (qport : UInt16) :
    (∀ c, History server qport c →
      ∃ events, (Client.new server qport).course events = c) ∧
    ∀ events,
      let c := (Client.new server qport).course events
      (c.phase = .disconnected → c.channel = none ∧
        (c.queue = [] ∧ c.inFlight = [] ∨ Dismissed (Client.new server qport) events)) ∧
      ∀ h now,
        (∀ fault, (c.disconnect h now).fault = some fault →
          h.settings.Overruns .client fault) ∧
        ((c.disconnect h now).fault = none →
          let left := (c.disconnect h now).reached.1
          left.phase = .disconnected ∧ left.channel = none ∧ left.queue = [] ∧
            left.inFlight = [] ∧ left.stats.lost = c.stats.lost + c.inFlight.length ∧
            ∀ later g since, ∃ sent,
              Hub.Hands .client server since g sent
                  ((left.course later).pump g since).reached.2 ∧
                ∀ bytes ∈ sent, ∃ message ∈ left.queuedBy later,
                  ∃ p : Packet, p.CutFrom message ∧ p.bytes = bytes) := by
  have hnew : History server qport (Client.new server qport) := .new
  refine ⟨fun c hhistory => hhistory.exists_course, fun events => ?_⟩
  intro c
  have hsteady : Steady server qport c := hnew.steady.course events
  refine ⟨fun hleft => ⟨(hnew.tied.course events).disconnected hleft, ?_⟩, fun h now => ⟨?_, ?_⟩⟩
  · exact cleared_or_dismissed hnew.tied ⟨rfl, rfl⟩ events hleft
  · have hengaged : Engaged server qport h.settings (c, h) := ⟨hsteady, rfl⟩
    exact (hengaged.keeps_disconnect now).stopped
  · intro hdone left
    have hprobes := c.sameProbes_sendFarewell h now
    have hgone : Steady server qport left := hsteady.disconnect h now
    have hreset : left = (c.sendFarewell h now).reached.1.reset := by
      rcases c.disconnect_reached h now with ⟨-, heq⟩ | ⟨hfault, -⟩
      · exact heq
      · exact absurd hdone hfault
    have hlost : left.stats.lost = c.stats.lost + c.inFlight.length := by
      rw [hreset, ← hprobes.stats, ← hprobes.inFlight]
      rfl
    have hnothing : left.waiting = [] := by
      rw [hreset]
      rfl
    refine ⟨?_, ?_, ?_, ?_, hlost, hgone.pump_hands_queued hnothing⟩ <;> rw [hreset] <;> rfl

/-! ## A farewell of the server -/

/-- A client that asks again is connected again, with a new channel and with what it had. -/
theorem course_connects (hserver : c.server = server) (h : Hub) (now : Instant)
    (showDrops : Bool) {id : Nat} (hid : id ≤ 0xFFFFFFFF) (clock : UInt64) :
    ∃ lastConnect,
      c.course [.connect h now, .hear showDrops server (connectResponse id).toDatagram clock] =
        { c with
          phase := .connected (UInt32.ofNat id)
          channel := some { side := .client, remote := server, qport := c.qport, showDrops }
          lastConnect } := by
  obtain ⟨lastConnect, hmeet⟩ := c.meet_connect h now
  obtain ⟨records, hhandle⟩ := handle_connectResponse
    (c := { c with phase := .connecting, lastConnect }) rfl showDrops hid clock
  refine ⟨lastConnect, ?_⟩
  rw [course, List.foldl_cons, hmeet, List.foldl_cons, List.foldl_nil, meet, ← hserver]
  exact congrArg Prod.snd hhandle

theorem handle_of_heard {source : Address} {datagram : ByteArray} {reason : String}
    (hheard : c.heard? source datagram = some (.disconnect reason)) (showDrops : Bool)
    (clock : UInt64) :
    (c.handle showDrops source datagram clock).2 =
      { c with phase := .disconnected, channel := none } := by
  unfold heard? at hheard
  split at hheard
  · cases hheard
  · next hsequenced =>
      obtain ⟨channel, hchannel, hheard⟩ := Option.bind_eq_some_iff.mp hheard
      obtain ⟨message, hmessage, hdecode⟩ := Option.bind_eq_some_iff.mp hheard
      have hread : Message.decode message = .ok (.disconnect reason) := by
        cases hresult : Message.decode message with
        | error e =>
            rw [hresult] at hdecode
            cases hdecode
        | ok heard =>
            rw [hresult] at hdecode
            cases hdecode
            rfl
      rw [handle, if_neg hsequenced, hchannel]
      simp only [handleSequenced, hmessage, handleMessage, hread]

/-- A message that comes whole and is newer than all before it is heard. -/
theorem heard?_whole {channel : Channel} (hchannel : c.channel = some channel)
    {source : Address} (hsource : channel.recognizes source = true) {sequence : UInt32}
    (hsendable : Sequence.Sendable sequence)
    (hnewer : Sequence.newer sequence channel.incoming.sequence = true) {m : Message}
    (hsize : m.run.size < 2 ^ 64) :
    c.heard? source (Packet.whole channel.peerStamp sequence m.encode).bytes = some m := by
  have hsequenced :
      isConnectionless (Packet.whole channel.peerStamp sequence m.encode).bytes = false :=
    Header.isConnectionless_bytes_append hsendable m.encode
  have hmessage := Channel.message?_of_whole hsendable hsource hnewer m.encode
  generalize (Packet.whole channel.peerStamp sequence m.encode).bytes = datagram at *
  rw [heard?, hsequenced, if_neg Bool.false_ne_true, hchannel]
  change (channel.receive source (.ofBytes datagram)).1.message?.bind
    (fun message => (Message.decode message).toOption) = some m
  rw [hmessage, Option.bind_some, Message.decode_encode m hsize]
  rfl

/-- A frame in which a client hears nothing but that it is sent away. -/
theorem tick_dismissal {h : Hub} {toServer : List ByteArray} {datagram : ByteArray}
    {reason : String} (hcarries : h.Carries toServer [datagram])
    (hheard : c.heard? .loopback datagram = some (.disconnect reason)) (now : Instant)
    (clock : UInt64) :
    (c.tick h now clock).reached.1 = { c with phase := .disconnected, channel := none } := by
  obtain ⟨ring, hdrain, -⟩ := Hub.drain_of_holds hcarries.toClient hcarries.inbound
  have hreceive : (c.receiveAll h clock).1 =
      { c with phase := .disconnected, channel := none } := by
    rw [receiveAll, hdrain]
    exact handle_of_heard hheard _ clock
  rw [tick]
  cases hreceived : c.receiveAll h clock with
  | mk gone rest =>
      rw [hreceived] at hreceive
      simp only at hreceive
      subst hreceive
      rfl

/-- A client that connects, is asked for a probe and leaves before the probe is sent. -/
theorem leaves_nothing_of_unsent_probe :
    let bare : Hub := .loopbackOnly { qport := 1 }
    let c := (Client.new .loopback 1).course [.connect bare 0,
      .hear false .loopback (connectResponse 1).toDatagram 0, .sendProbe 3 0]
    let left := (c.disconnect bare 0).reached.1
    c.queue = [Sample.probe ⟨1, 0, 3⟩] ∧ (c.disconnect bare 0).fault = none ∧
      left.queue = [] ∧ left.inFlight = [] ∧ left.stats.lost = 1 := by
  intro bare c left
  have hserver : (Client.new .loopback 1).server = .loopback := rfl
  obtain ⟨lastConnect, hjoined⟩ := course_connects hserver bare 0 false
    (show 1 ≤ 0xFFFFFFFF by decide) 0
  have hasked : c = ((Client.new .loopback 1).course [.connect bare 0,
      .hear false .loopback (connectResponse 1).toDatagram 0]).meet (.sendProbe 3 0) := rfl
  rw [hjoined] at hasked
  have hqueue : c.queue = [Sample.probe ⟨1, 0, 3⟩] := by
    rw [hasked]
    rfl
  have hawaited : c.stats.lost + c.inFlight.length = 1 := by
    rw [hasked]
    rfl
  obtain ⟨hstopped, hleaves⟩ := ((leaves_nothing .loopback 1).2 [.connect bare 0,
    .hear false .loopback (connectResponse 1).toDatagram 0, .sendProbe 3 0]).2 bare 0
  have hdone : (c.disconnect bare 0).fault = none := by
    cases hfault : (c.disconnect bare 0).fault with
    | none => rfl
    | some fault => exact absurd (hstopped fault hfault).jitter (Nat.lt_irrefl 0)
  obtain ⟨-, -, hempty, hnone, hlost, -⟩ := hleaves hdone
  exact ⟨hqueue, hdone, hempty, hnone, hlost.trans hawaited⟩

/-- A client that its server sends away with a probe unsent still has and awaits the probe,
and once it is connected again the probe goes out over the new channel. -/
theorem leftovers_after_farewell :
    let bare : Hub := .loopbackOnly { qport := 1 }
    ∃ c : Client, History .loopback 1 c ∧ c.phase = .disconnected ∧
      c.queue = [Sample.probe ⟨1, 0, 3⟩] ∧ c.inFlight = [⟨1, 3⟩] ∧ c.stats.lost = 0 ∧
      let again := c.course [.connect bare 0,
        .hear false .loopback (connectResponse 2).toDatagram 0]
      again.phase = .connected 2 ∧
        ((again.pump bare 0).reached.2.ringOf .server).Holds
          [(Packet.whole (some 1) Sequence.first (Sample.probe ⟨1, 0, 3⟩)).bytes] := by
  intro bare
  let joined := Server.guest.joined 0
  let asked : Client := joined.meet (.sendProbe 3 0)
  let gone : Client := { asked with phase := .disconnected, channel := none }
  let dismissal := (Packet.whole none 1 (Message.disconnect "kicked").encode).bytes
  have hsend : joined.sendProbe 3 0 = .ok (some 1, asked) := rfl
  have hasked : History .loopback 1 asked := Server.history_guest.sendProbe hsend
  have hchannel : asked.channel = some Server.guest.clientEnd := rfl
  have hheard : asked.heard? .loopback dismissal = some (.disconnect "kicked") :=
    heard?_whole hchannel rfl Sequence.first_sendable rfl (by decide)
  have hcarries : (bare.setRing .client (Ring.empty.push dismissal)).Carries [] [dismissal] :=
    (Hub.carries_loopbackOnly _).setRing_client (Ring.holds_empty.push (by decide) _)
  have hgone : History .loopback 1 gone := by
    have htick := hasked.tick (bare.setRing .client (Ring.empty.push dismissal)) 0 0
    rw [tick_dismissal hcarries hheard] at htick
    exact htick
  have hserver : gone.server = .loopback := rfl
  obtain ⟨lastConnect, hagain⟩ := course_connects hserver bare 0 false
    (show 2 ≤ 0xFFFFFFFF by decide) 0
  refine ⟨gone, hgone, rfl, rfl, rfl, rfl, ?_⟩
  rw [hagain]
  refine ⟨rfl, ?_⟩
  -- the new channel starts anew, so the probe is the first message that it sends
  let renewed : Channel := { side := .client, remote := .loopback, qport := 1 }
  let probe := Sample.probe ⟨1, 0, 3⟩
  have haligned : renewed.Aligned := .of_idle Sequence.first_sendable rfl
  have hpending : renewed.pending [probe] = [.whole (some 1) Sequence.first probe] := by
    have hfits : ¬ maxUnfragmentedSize < probe.size := by
      rw [Sample.size_probe]
      decide
    rw [Channel.pending_of_idle rfl, Packet.stream, Packet.stream, Packet.ofMessage,
      if_neg hfits]
    rfl
  have hempty : (bare.ringOf renewed.side.peer).Holds [] := Ring.holds_empty
  have hfew : (renewed.pending [probe]).length < 8 := by
    rw [hpending]
    decide
  have hsent := Channel.ship_loopback_all haligned rfl hempty hfew (by decide) 0
  rw [hpending] at hsent
  exact hsent

end Client
end DatagramLink

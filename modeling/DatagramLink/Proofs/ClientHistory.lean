import DatagramLink.Client.Frame
import DatagramLink.Proofs.ChannelFrame
import DatagramLink.Proofs.FrameLoops
import DatagramLink.Proofs.NetworkTraffic

/-!
# What becomes of a client

`Client.History` is how a client comes about: calls in any order, on hubs that carry
anything.  Whatever it heard, its channel is a client's end of a connection to its own
server and with its own qport (`Client.Steady`).

So it is known what a client hands to its hub when it leaves (`Client.farewells`): a
farewell over the channel, which carries the qport, and a notice, which carries nothing
but the name of the command.
-/

namespace DatagramLink

/-! ## A client's end of a connection -/

namespace Channel

/-- A message that fits into one datagram is one datagram that the hub is handed.  Whatever
the hub makes of it, the channel has used up a sequence. -/
theorem shipAll_whole {c : Channel} (haligned : c.Aligned) (hidle : c.isBusy = false)
    {message : ByteArray} (hsize : message.size ≤ maxUnfragmentedSize) (h : Hub)
    (now : Instant) :
    (c.shipAll h message now).reached.channel = c.finishMessage ∧
      ∃ note,
        (c.shipAll h message now).reached.hub =
          ((h.report [note]).send c.side
            (Packet.whole c.stamp c.outgoing.sequence message).bytes c.remote now).reached := by
  have hunsent : c.outgoing.unsent = none := by
    simpa [isBusy] using hidle
  have hwhole := sendWhole_eq haligned.sendable message
  generalize hdispatch : c.dispatchOf
    (Packet.whole c.stamp c.outgoing.sequence message).bytes s!"size {message.size}" = d
    at hwhole
  have htransmit : c.transmit message = .ok (d, c.finishMessage) := by
    rw [transmit, hidle, if_neg (by simp), if_neg (Nat.not_lt.mpr hsize)]
    exact hwhole
  have hpump : c.pump [message] 1 = .ok ⟨c.finishMessage, [], [d]⟩ := by
    simp only [pump, hunsent, htransmit]
    rfl
  have hstopped : c.interrupted [message] 0 = (c.finishMessage, []) := by
    simp only [interrupted, pump, prepared, hunsent, if_neg (Nat.not_lt.mpr hsize)]
  have hcount : datagramCount message.size = 1 := if_neg (Nat.not_lt.mpr hsize)
  have hsent : h.dispatch d now =
      (h.report [d.note]).send c.side
        (Packet.whole c.stamp c.outgoing.sequence message).bytes c.remote now := by
    rw [← hdispatch]
    rfl
  have hship : (c.shipAll h message now).reached.channel = c.finishMessage ∧
      (c.shipAll h message now).reached.hub = (h.dispatch d now).reached := by
    rw [shipAll, shipMessage, hidle, if_neg (by simp), hcount, ship, hpump]
    simp only [Hub.dispatchAll]
    obtain ⟨hub, _ | fault⟩ := h.dispatch d now
    · exact ⟨rfl, rfl⟩
    · exact ⟨congrArg Prod.fst hstopped, rfl⟩
  rw [hsent] at hship
  exact ⟨hship.1, d.note, hship.2⟩

structure ClientEnd (c : Channel) (server : Address) (qport : UInt16) : Prop where
  side : c.side = .client
  remote : c.remote = server
  qport : c.qport = qport
  aligned : c.Aligned

section
variable {c : Channel} {server : Address} {qport : UInt16}

theorem ClientEnd.stamp (hend : c.ClientEnd server qport) : c.stamp = some qport := by
  simp only [Channel.stamp, header, hend.side, hend.qport]

theorem ClientEnd.receive (hend : c.ClientEnd server qport) (source : Address)
    (datagram : ByteArray) :
    (c.receive source (.ofBytes datagram)).2.ClientEnd server qport := by
  obtain ⟨hside, hqport, -, houtgoing⟩ := c.receive_keeps source datagram
  refine
    { side := hside.trans hend.side
      remote := (remote_receive_client hend.side source datagram).trans hend.remote
      qport := hqport.trans hend.qport
      aligned := ⟨?_, ?_⟩ }
  · rw [houtgoing]
    exact hend.aligned.sendable
  · rw [houtgoing]
    exact hend.aligned.unsent

theorem ClientEnd.ship (hend : c.ClientEnd server qport) (h : Hub)
    (queue : List ByteArray) (budget : Nat) (now : Instant) :
    (c.ship h queue budget now).reached.channel.ClientEnd server qport := by
  have haligned := aligned_ship hend.aligned h queue budget now
  obtain ⟨outgoing, hframe⟩ := c.frame_ship h queue budget now
  rw [hframe] at haligned ⊢
  exact ⟨hend.side, hend.remote, hend.qport, haligned⟩

theorem ClientEnd.shipAll (hend : c.ClientEnd server qport) (h : Hub)
    (message : ByteArray) (now : Instant) :
    (c.shipAll h message now).reached.channel.ClientEnd server qport := by
  unfold Channel.shipAll shipMessage
  split
  · exact hend
  · exact hend.ship h _ _ now

end

end Channel

/-! ## What a hub is handed -/

/-- A hub is handed datagrams to send, one after the other, with reports in between.  It
may lose them or hold them back, and it may stop at the last one. -/
inductive Hub.Hands (side : Side) (target : Address) (now : Instant) (h : Hub) :
    List ByteArray → Hub → Prop
  | nothing : Hands side target now h [] h
  | report {g : Hub} {sent : List ByteArray} (records : List Record)
      (hhands : Hands side target now h sent g) :
      Hands side target now h sent (g.report records)
  | send {g : Hub} {sent : List ByteArray} (bytes : ByteArray)
      (hhands : Hands side target now h sent g) :
      Hands side target now h (sent ++ [bytes]) (g.send side bytes target now).reached

namespace Client

/-! ## Histories -/

/-- A call that a fault stops leaves the client that it reached. -/
inductive History (server : Address) (qport : UInt16) : Client → Prop
  | new : History server qport (Client.new server qport)
  | withFragmentsPerTick {c : Client} (count : Nat) (hhistory : History server qport c) :
      History server qport (c.withFragmentsPerTick count)
  | connect {c : Client} (h : Hub) (now : Instant) (hhistory : History server qport c) :
      History server qport (c.connect h now).reached.1
  | sendProbe {c after : Client} {size : Nat} {clock : UInt64} {id? : Option UInt32}
      (hhistory : History server qport c)
      (hsend : c.sendProbe size clock = .ok (id?, after)) :
      History server qport after
  | tick {c : Client} (h : Hub) (now : Instant) (clock : UInt64)
      (hhistory : History server qport c) :
      History server qport (c.tick h now clock).reached.1
  | disconnect {c : Client} (h : Hub) (now : Instant)
      (hhistory : History server qport c) :
      History server qport (c.disconnect h now).reached.1

/-- A client that keeps to its server and its qport. -/
structure Steady (server : Address) (qport : UInt16) (c : Client) : Prop where
  server : c.server = server
  qport : c.qport = qport
  channel : ∀ channel, c.channel = some channel → channel.ClientEnd c.server c.qport

variable {server : Address} {qport : UInt16} {c : Client}

theorem Steady.with_channel (hsteady : Steady server qport c) {channel : Channel}
    (hend : channel.ClientEnd c.server c.qport) :
    Steady server qport { c with channel := some channel } where
  server := hsteady.server
  qport := hsteady.qport
  channel := by
    intro other hother
    cases hother
    exact hend

theorem Steady.without_channel (hsteady : Steady server qport c) :
    Steady server qport { c with channel := none } where
  server := hsteady.server
  qport := hsteady.qport
  channel := by
    intro other hother
    cases hother

theorem Steady.handleConnected (hsteady : Steady server qport c) (showDrops : Bool)
    (command : Command) :
    Steady server qport (c.handleConnected showDrops command).2 := by
  unfold Client.handleConnected
  split
  · split
    · exact hsteady
    · refine ⟨hsteady.server, hsteady.qport, ?_⟩
      intro channel hchannel
      cases hchannel
      exact ⟨rfl, rfl, rfl, .of_idle Sequence.first_sendable rfl⟩
  · exact hsteady

theorem Steady.handleMessage (hsteady : Steady server qport c) (message : ByteArray)
    (clock : UInt64) :
    Steady server qport (c.handleMessage message clock).2 := by
  unfold Client.handleMessage
  split
  · unfold handleEcho
    split
    · exact hsteady
    · unfold countEcho
      split
      · exact ⟨hsteady.server, hsteady.qport, hsteady.channel⟩
      · exact ⟨hsteady.server, hsteady.qport, hsteady.channel⟩
  · exact ⟨hsteady.server, hsteady.qport, by simp⟩
  · exact hsteady
  · exact hsteady

theorem Steady.handle (hsteady : Steady server qport c) (showDrops : Bool)
    (source : Address) (datagram : ByteArray) (clock : UInt64) :
    Steady server qport (c.handle showDrops source datagram clock).2 := by
  unfold Client.handle
  split
  · split
    · cases hcommand : Command.ofDatagram? datagram with
      | none => exact hsteady
      | some command =>
          simp only
          unfold Client.handleCommand
          split
          · exact hsteady.handleConnected showDrops command
          · exact ⟨hsteady.server, hsteady.qport, hsteady.channel⟩
          · exact ⟨hsteady.server, hsteady.qport, hsteady.channel⟩
          · exact hsteady
    · exact hsteady
  · cases hchannel : c.channel with
    | none => exact hsteady
    | some channel =>
        have hend := (hsteady.channel channel hchannel).receive source datagram
        have hnext := hsteady.without_channel.with_channel hend
        simp only [Client.handleSequenced]
        cases hreceive : channel.receive source (.ofBytes datagram) with
        | mk receipt channel' =>
            rw [hreceive] at hnext
            simp only
            split
            · exact hnext
            · exact hnext.handleMessage _ clock

theorem Steady.sendConnect (hsteady : Steady server qport c) (h : Hub) (now : Instant) :
    Steady server qport (c.sendConnect h now).reached.1 := by
  unfold Client.sendConnect
  split
  · exact ⟨hsteady.server, hsteady.qport, hsteady.channel⟩
  · exact hsteady

theorem Steady.sendProbe (hsteady : Steady server qport c) {size : Nat} {clock : UInt64}
    {id? : Option UInt32} {after : Client}
    (hsend : c.sendProbe size clock = .ok (id?, after)) :
    Steady server qport after := by
  unfold Client.sendProbe at hsend
  split at hsend
  · cases hsend
    exact hsteady
  · split at hsend
    · cases hsend
    · cases hsend
      exact ⟨hsteady.server, hsteady.qport, hsteady.channel⟩

/-- What handling a datagram keeps, a frame's receiving keeps. -/
theorem receiveAll_keeps {P : Client → Prop}
    (hhandle : ∀ {c : Client} (showDrops : Bool) (source : Address) (datagram : ByteArray)
      (clock : UInt64), P c → P (c.handle showDrops source datagram clock).2)
    (hkept : P c) (h : Hub) (clock : UInt64) :
    P (c.receiveAll h clock).1 := by
  have hfold : ∀ (polls : List Hub.Poll) {x : Client × Hub}, P x.1 →
      P (polls.foldl (handlePoll clock) x).1 := by
    intro polls
    induction polls with
    | nil => exact fun hx => hx
    | cons poll polls ih =>
        rintro ⟨c, h⟩ hx
        refine ih ?_
        simp only [handlePoll]
        cases poll.found with
        | none => exact hx
        | some found => exact hhandle _ found.1 found.2 clock hx
  exact hfold _ hkept

/-- What receiving, asking for a connection and pumping keep, a frame keeps. -/
theorem tick_keeps {P : Client → Prop} {h : Hub} {now : Instant} {clock : UInt64}
    (hreceived : P (c.receiveAll h clock).1)
    (hsendConnect : ∀ {c : Client} (h : Hub), P c → P (c.sendConnect h now).reached.1)
    (hpump : ∀ {c : Client} (h : Hub), P c → P (c.pump h now).reached.1) :
    P (c.tick h now clock).reached.1 := by
  unfold Client.tick
  cases hreceive : c.receiveAll h clock with
  | mk c₁ h₁ =>
      rw [hreceive] at hreceived
      let Q : Client × Hub → Prop := fun x => P x.1
      have hresent : Q (c₁.resendConnect h₁ now).reached := by
        unfold Client.resendConnect
        split
        · exact hsendConnect _ hreceived
        · exact hreceived
      refine Attempt.andThen_reached (P := Q) ?_ fun x hx => hx
      exact Attempt.andThen_reached (P := Q) hresent fun x hx => hpump x.2 hx

theorem Steady.receiveAll (hsteady : Steady server qport c) (h : Hub) (clock : UInt64) :
    Steady server qport (c.receiveAll h clock).1 :=
  receiveAll_keeps (fun showDrops source datagram clock hsteady =>
    hsteady.handle showDrops source datagram clock) hsteady h clock

theorem Steady.pump (hsteady : Steady server qport c) (h : Hub) (now : Instant) :
    Steady server qport (c.pump h now).reached.1 := by
  unfold Client.pump
  cases hchannel : c.channel with
  | none => exact hsteady
  | some channel =>
      have hend := (hsteady.channel channel hchannel).ship h c.queue c.fragmentsPerTick now
      have hnext := hsteady.with_channel hend
      exact ⟨hnext.server, hnext.qport, hnext.channel⟩

theorem Steady.tick (hsteady : Steady server qport c) (h : Hub) (now : Instant)
    (clock : UInt64) :
    Steady server qport (c.tick h now clock).reached.1 :=
  tick_keeps (hsteady.receiveAll h clock) (fun h hsteady => hsteady.sendConnect h now)
    fun h hsteady => hsteady.pump h now

theorem Steady.sendFarewell (hsteady : Steady server qport c) (h : Hub) (now : Instant) :
    Steady server qport (c.sendFarewell h now).reached.1 := by
  unfold Client.sendFarewell
  cases hchannel : c.channel with
  | none => exact hsteady
  | some channel =>
      simp only
      split
      · exact hsteady
      · exact hsteady.with_channel
          ((hsteady.channel channel hchannel).shipAll h farewell.encode now)

theorem Steady.disconnect (hsteady : Steady server qport c) (h : Hub) (now : Instant) :
    Steady server qport (c.disconnect h now).reached.1 := by
  let P : Client × Hub → Prop := fun x => Steady server qport x.1
  have hfarewell : P (c.sendFarewell h now).reached := hsteady.sendFarewell h now
  refine Attempt.andThen_reached (P := P) ?_ fun x hx => ?_
  · exact Attempt.andThen_reached (P := P) hfarewell fun x hx => hx
  · have hbare := Steady.without_channel hx
    exact ⟨hbare.server, hbare.qport, hbare.channel⟩

theorem History.steady (hhistory : History server qport c) : Steady server qport c := by
  induction hhistory with
  | new => exact ⟨rfl, rfl, fun channel hchannel => by cases hchannel⟩
  | withFragmentsPerTick count hhistory ih => exact ⟨ih.server, ih.qport, ih.channel⟩
  | @connect c h now hhistory ih =>
      have hstarted : Steady server qport { c with phase := .connecting } :=
        ⟨ih.server, ih.qport, ih.channel⟩
      exact hstarted.sendConnect _ now
  | sendProbe hhistory hsend ih => exact ih.sendProbe hsend
  | tick h now clock hhistory ih => exact ih.tick h now clock
  | disconnect h now hhistory ih => exact ih.disconnect h now

/-! ## Phases and channels -/

/-- A connected client has a channel, and a disconnected one has none. -/
structure Tied (c : Client) : Prop where
  connected : ∀ id, c.phase = .connected id → c.channel.isSome
  disconnected : c.phase = .disconnected → c.channel = none

theorem Tied.congr (htied : c.Tied) {after : Client} (hphase : after.phase = c.phase)
    (hchannel : after.channel.isSome = c.channel.isSome) :
    after.Tied where
  connected := fun id hid => hchannel.trans (htied.connected id (hphase.symm.trans hid))
  disconnected := fun hleft => by
    have hnone := htied.disconnected (hphase.symm.trans hleft)
    rw [hnone] at hchannel
    exact Option.isNone_iff_eq_none.mp (by simpa using hchannel)

theorem Tied.of_connecting (hphase : c.phase = .connecting) : c.Tied where
  connected := fun id hid => by cases hphase.symm.trans hid
  disconnected := fun hleft => by cases hphase.symm.trans hleft

theorem Tied.handleMessage (htied : c.Tied) (message : ByteArray) (clock : UInt64) :
    (c.handleMessage message clock).2.Tied := by
  unfold Client.handleMessage
  split
  · unfold handleEcho
    split
    · exact htied
    · unfold countEcho
      split <;> exact htied.congr rfl rfl
  · exact ⟨fun id hid => (by cases hid), fun _ => rfl⟩
  · exact htied
  · exact htied

theorem Tied.handle (htied : c.Tied) (showDrops : Bool) (source : Address)
    (datagram : ByteArray) (clock : UInt64) :
    (c.handle showDrops source datagram clock).2.Tied := by
  unfold Client.handle
  split
  · split
    · split
      · exact htied
      · next command _ =>
          unfold handleCommand
          split
          · unfold Client.handleConnected
            split
            · split
              · exact htied
              · exact ⟨fun _ _ => rfl, fun hleft => by cases hleft⟩
            · exact htied
          · exact htied.congr rfl rfl
          · exact htied.congr rfl rfl
          · exact htied
    · exact htied
  · cases hchannel : c.channel with
    | none => exact htied
    | some channel =>
        simp only [handleSequenced]
        have hnext : Tied { c with
            channel := some (channel.receive source (.ofBytes datagram)).2 } :=
          htied.congr rfl (by rw [hchannel]; rfl)
        split
        · exact hnext
        · exact hnext.handleMessage _ clock

theorem Tied.sendConnect (htied : c.Tied) (h : Hub) (now : Instant) :
    (c.sendConnect h now).reached.1.Tied := by
  unfold Client.sendConnect
  split
  · exact htied.congr rfl rfl
  · exact htied

theorem Tied.pump (htied : c.Tied) (h : Hub) (now : Instant) :
    (c.pump h now).reached.1.Tied := by
  unfold Client.pump
  cases hchannel : c.channel with
  | none => exact htied
  | some channel => exact htied.congr rfl (by rw [hchannel]; rfl)

theorem Tied.tick (htied : c.Tied) (h : Hub) (now : Instant) (clock : UInt64) :
    (c.tick h now clock).reached.1.Tied :=
  tick_keeps
    (receiveAll_keeps (fun showDrops source datagram clock htied =>
      htied.handle showDrops source datagram clock) htied h clock)
    (fun h htied => htied.sendConnect h now) fun h htied => htied.pump h now

theorem Tied.disconnect (htied : c.Tied) (h : Hub) (now : Instant) :
    (c.disconnect h now).reached.1.Tied := by
  let P : Client × Hub → Prop := fun x => x.1.Tied
  have hfarewell : P (c.sendFarewell h now).reached := by
    unfold Client.sendFarewell
    cases hchannel : c.channel with
    | none => exact htied
    | some channel =>
        simp only
        split
        · exact htied
        · exact htied.congr rfl (by rw [hchannel]; rfl)
  refine Attempt.andThen_reached (P := P) ?_ fun x hx => ?_
  · exact Attempt.andThen_reached (P := P) hfarewell fun x hx => hx
  · exact ⟨fun id hid => (by cases hid), fun _ => rfl⟩

theorem History.tied (hhistory : History server qport c) : c.Tied := by
  induction hhistory with
  | new => exact ⟨fun id hid => (by cases hid), fun _ => rfl⟩
  | withFragmentsPerTick count hhistory ih => exact ih.congr rfl rfl
  | @connect c h now hhistory ih => exact (Tied.of_connecting rfl).sendConnect _ now
  | @sendProbe c after size clock id? hhistory hsend ih =>
      unfold Client.sendProbe at hsend
      split at hsend
      · cases hsend
        exact ih
      · split at hsend
        · cases hsend
        · cases hsend
          exact ih.congr rfl rfl
  | tick h now clock hhistory ih => exact ih.tick h now clock
  | disconnect h now hhistory ih => exact ih.disconnect h now

/-! ## Leaving -/

/-- The farewell over the channel, unless a split message occupies it. -/
def channelFarewell? (c : Client) : Option ByteArray :=
  (c.channel.filter (!·.isBusy)).map fun channel =>
    (Packet.whole channel.stamp channel.outgoing.sequence farewell.encode).bytes

/-- The datagrams with which a client leaves. -/
def farewells (c : Client) : List ByteArray :=
  c.channelFarewell?.toList ++
    if c.phase = .disconnected then [] else [disconnectNotice.toDatagram]

theorem size_encode_farewell : farewell.encode.size = 23 := by
  rw [farewell, Message.encode, Message.encodeRun, ByteArray.size_append,
    ByteArray.size_append, Bytes.size_littleEndian, Bytes.size_littleEndian]
  rfl

theorem farewell_fits : farewell.encode.size ≤ maxUnfragmentedSize := by
  rw [size_encode_farewell]
  decide

/-- The farewell changes nothing but the channel. -/
theorem sendFarewell_reached (c : Client) (h : Hub) (now : Instant) :
    ∃ channel, (c.sendFarewell h now).reached.1 = { c with channel } := by
  unfold sendFarewell
  split
  · exact ⟨c.channel, rfl⟩
  · split
    · exact ⟨c.channel, rfl⟩
    · exact ⟨_, rfl⟩

theorem Steady.sendFarewell_hands (hsteady : Steady server qport c) (h : Hub) (now : Instant) :
    Hub.Hands .client server now h c.channelFarewell?.toList
      (c.sendFarewell h now).reached.2 := by
  unfold Client.sendFarewell channelFarewell?
  cases hchannel : c.channel with
  | none => exact .nothing
  | some channel =>
      have hend := hsteady.channel channel hchannel
      simp only
      cases hbusy : channel.isBusy with
      | true =>
          simp only [Option.filter, hbusy]
          exact .nothing
      | false =>
          obtain ⟨-, note, hhub⟩ :=
            Channel.shipAll_whole hend.aligned hbusy farewell_fits h now
          rw [hend.side, hend.remote, hsteady.server] at hhub
          simp only [Option.filter, hbusy]
          change Hub.Hands .client server now h _
            (channel.shipAll h farewell.encode now).reached.hub
          rw [hhub]
          exact .send _ (.report [note] .nothing)

/-- A client that gets to leave is reset; a fault leaves it where its farewell did. -/
theorem disconnect_reached (c : Client) (h : Hub) (now : Instant) :
    (c.disconnect h now).fault = none ∧
        (c.disconnect h now).reached.1 = (c.sendFarewell h now).reached.1.reset ∨
      (c.disconnect h now).fault ≠ none ∧
        (c.disconnect h now).reached.1 = (c.sendFarewell h now).reached.1 := by
  unfold disconnect
  obtain ⟨⟨told, left⟩, _ | fault⟩ := c.sendFarewell h now
  · simp only [Attempt.andThen]
    obtain ⟨left, _ | fault⟩ := told.sendLeave left now
    · exact .inl ⟨rfl, rfl⟩
    · exact .inr ⟨nofun, rfl⟩
  · exact .inr ⟨nofun, rfl⟩

theorem hub_disconnect {c₁ : Client} {h h₁ : Hub} {now : Instant}
    (hfarewell : c.sendFarewell h now = .done (c₁, h₁)) :
    (c.disconnect h now).reached.2 = (c₁.sendLeave h₁ now).reached := by
  rw [disconnect, hfarewell, Attempt.done_andThen]
  cases hleave : c₁.sendLeave h₁ now with
  | mk hub fault =>
      simp only [hleave, Attempt.map]
      cases fault <;> rfl

/-- All that a client hands to its hub when it leaves are its farewells. -/
theorem Steady.disconnect_hands (hsteady : Steady server qport c) (h : Hub) (now : Instant) :
    ∃ sent, sent <+: c.farewells ∧
      Hub.Hands .client server now h sent (c.disconnect h now).reached.2 ∧
      ((c.disconnect h now).fault = none → sent = c.farewells) := by
  obtain ⟨channel, hself⟩ := c.sendFarewell_reached h now
  have hfirst := hsteady.sendFarewell_hands h now
  cases hfarewell : c.sendFarewell h now with
  | mk reached fault =>
      obtain ⟨c₁, h₁⟩ := reached
      rw [hfarewell] at hself hfirst
      simp only at hself hfirst
      cases fault with
      | some fault =>
          have hstop : c.disconnect h now = .stopped (c₁, h₁) fault := by
            rw [Client.disconnect, hfarewell]
            rfl
          rw [hstop]
          exact ⟨_, List.prefix_append _ _, hfirst, fun hnone => by cases hnone⟩
      | none =>
          refine ⟨_, List.prefix_refl _, ?_, fun _ => rfl⟩
          rw [hub_disconnect hfarewell, hself]
          unfold farewells sendLeave
          by_cases hphase : c.phase = .disconnected
          · rw [if_pos hphase, if_pos hphase, List.append_nil]
            exact hfirst
          · rw [if_neg hphase, if_neg hphase, hsteady.server]
            exact .send disconnectNotice.toDatagram hfirst

end Client
end DatagramLink

import DatagramLink.Client.Frame
import DatagramLink.Proofs.Handshaking
import DatagramLink.Proofs.NetworkTraffic

/-!
# A client on a network

What a client knows when all that it hears comes from one server: the identifier that
it is connected with is one that the server gave out.  Every call keeps that, whatever
is lost, repeated or late, and even when a fault stops the call in the middle.  In turn
the client asks for nothing but connections with its own qport, and it takes its leave.
-/

namespace DatagramLink

/-- A datagram of a server that has given out the identifiers below `next`: if it is a
response to a request for a connection, it carries one of them. -/
def ServerTells (next : Nat) (bytes : ByteArray) : Prop :=
  isConnectionless bytes = true → ∀ command, Command.ofDatagram? bytes = some command →
    command.name = "connectResponse" →
      ∃ id, 1 ≤ id ∧ id < next ∧ command = connectResponse id

/-- A datagram of a client: if it is connectionless, it asks for a connection or takes
leave. -/
def ClientTells (qport : UInt16) (bytes : ByteArray) : Prop :=
  isConnectionless bytes = true → ∀ command, Command.ofDatagram? bytes = some command →
    command = connectRequest qport ∨ command = disconnectNotice

theorem ServerTells.mono {next next' : Nat} (hle : next ≤ next') {bytes : ByteArray}
    (htells : ServerTells next bytes) :
    ServerTells next' bytes := by
  intro hconnectionless command hcommand hname
  obtain ⟨id, hpositive, hless, hresponse⟩ := htells hconnectionless command hcommand hname
  exact ⟨id, hpositive, Nat.lt_of_lt_of_le hless hle, hresponse⟩

theorem clientTells_sequenced (qport : UInt16) {bytes : ByteArray}
    (hsequenced : isConnectionless bytes = false) :
    ClientTells qport bytes := by
  intro hconnectionless
  rw [hsequenced] at hconnectionless
  cases hconnectionless

theorem clientTells_connectRequest (qport : UInt16) :
    ClientTells qport (connectRequest qport).toDatagram := by
  intro _ command hcommand
  rw [Command.ofDatagram?_toDatagram (Command.printable_connectRequest qport)] at hcommand
  exact Or.inl (Option.some.inj hcommand).symm

theorem clientTells_disconnectNotice (qport : UInt16) :
    ClientTells qport disconnectNotice.toDatagram := by
  intro _ command hcommand
  rw [Command.ofDatagram?_toDatagram Command.printable_disconnectNotice] at hcommand
  exact Or.inr (Option.some.inj hcommand).symm

namespace Client

/-- A client of one server, with an identifier that the server gave out. -/
structure Bound (c : Client) (host : Endpoint) (qport : UInt16) (next : Nat) : Prop where
  server : c.server = .remote host
  qport : c.qport = qport
  reaches : ∀ channel, c.channel = some channel → channel.Reaches host
  granted : ∀ id, c.phase = .connected id → 1 ≤ id.toNat ∧ id.toNat < next

variable {c : Client} {host : Endpoint} {qport : UInt16} {next next' : Nat}

theorem Bound.mono (hbound : c.Bound host qport next) (hle : next ≤ next') :
    c.Bound host qport next' where
  server := hbound.server
  qport := hbound.qport
  reaches := hbound.reaches
  granted := by
    intro id hphase
    obtain ⟨hpositive, hless⟩ := hbound.granted id hphase
    exact ⟨hpositive, Nat.lt_of_lt_of_le hless hle⟩

theorem Bound.with_channel (hbound : c.Bound host qport next) {channel : Channel}
    (hreaches : channel.Reaches host) :
    Bound { c with channel := some channel } host qport next where
  server := hbound.server
  qport := hbound.qport
  reaches := by
    intro other hother
    cases hother
    exact hreaches
  granted := hbound.granted

/-! ## Receiving -/

theorem Bound.handleEcho (hbound : c.Bound host qport next) (id : UInt32)
    (timestamp : UInt64) (payload : ByteArray) (clock : UInt64) :
    (c.handleEcho id timestamp payload clock).2.Bound host qport next := by
  unfold Client.handleEcho
  split
  · exact hbound
  · unfold countEcho
    split
    · exact ⟨hbound.server, hbound.qport, hbound.reaches, hbound.granted⟩
    · exact ⟨hbound.server, hbound.qport, hbound.reaches, hbound.granted⟩

theorem Bound.handleMessage (hbound : c.Bound host qport next) (message : ByteArray)
    (clock : UInt64) :
    (c.handleMessage message clock).2.Bound host qport next := by
  unfold Client.handleMessage
  split
  · exact hbound.handleEcho _ _ _ clock
  · exact ⟨hbound.server, hbound.qport, by simp, by simp⟩
  · exact hbound
  · exact hbound

/-- A response is taken only while the client waits for one, and it carries an
identifier that was given out. -/
theorem Bound.handleConnected (hbound : c.Bound host qport next) {id : Nat}
    (hpositive : 1 ≤ id) (hless : id < next) (showDrops : Bool) :
    (c.handleConnected showDrops (connectResponse id)).2.Bound host qport next := by
  have hnumber : ((connectResponse id).arg? 0).bind (Text.unsigned? 0xFFFFFFFF) =
      if id ≤ 0xFFFFFFFF then some id else none :=
    Text.unsigned?_toString_eq _ id
  unfold Client.handleConnected
  rw [hnumber]
  by_cases hconnecting : c.phase = .connecting
  · rw [if_pos hconnecting]
    by_cases hfits : id ≤ 0xFFFFFFFF
    · rw [if_pos hfits]
      have hvalue : (UInt32.ofNat id).toNat = id := by
        rw [UInt32.toNat_ofNat']
        omega
      refine ⟨hbound.server, hbound.qport, ?_, ?_⟩
      · intro channel hchannel
        cases hchannel
        exact ⟨hbound.server, .of_idle Sequence.first_sendable rfl⟩
      · intro other hother
        cases hother
        rw [hvalue]
        exact ⟨hpositive, hless⟩
    · rw [if_neg hfits]
      exact hbound
  · rw [if_neg hconnecting]
    exact hbound

theorem Bound.handle (hbound : c.Bound host qport next) {bytes : ByteArray}
    (hheard : ServerTells next bytes) (showDrops : Bool) (clock : UInt64) :
    (c.handle showDrops (.remote host) bytes clock).2.Bound host qport next := by
  unfold Client.handle
  cases hconnectionless : isConnectionless bytes with
  | true =>
      have hsource : (Address.remote host == c.server) = true := by
        rw [hbound.server]
        exact beq_self_eq_true _
      rw [if_pos rfl, if_pos hsource]
      cases hcommand : Command.ofDatagram? bytes with
      | none => exact hbound
      | some command =>
          simp only
          unfold Client.handleCommand
          split
          · next hname =>
              obtain ⟨id, hpositive, hless, rfl⟩ :=
                hheard hconnectionless command hcommand hname
              exact hbound.handleConnected hpositive hless showDrops
          · exact ⟨hbound.server, hbound.qport, hbound.reaches, hbound.granted⟩
          · exact ⟨hbound.server, hbound.qport, hbound.reaches, hbound.granted⟩
          · exact hbound
  | false =>
      rw [if_neg (by simp)]
      cases hchannel : c.channel with
      | none => exact hbound
      | some channel =>
          have hbare : Bound { c with channel := none } host qport next :=
            ⟨hbound.server, hbound.qport, by simp, hbound.granted⟩
          have hreaches := (hbound.reaches channel hchannel).receive bytes
          have hnext := hbare.with_channel hreaches
          simp only [Client.handleSequenced]
          cases hreceive : channel.receive (.remote host) (.ofBytes bytes) with
          | mk receipt channel' =>
              rw [hreceive] at hnext
              simp only
              split
              · exact hnext
              · exact hnext.handleMessage _ clock

/-! ## Calls -/

/-- A client and its hub, when all that they hear comes from one server. -/
structure Online (host : Endpoint) (qport : UInt16) (next : Nat) (x : Client × Hub) :
    Prop where
  bound : x.1.Bound host qport next
  traffic : x.2.Traffic .client (ClientTells qport)
    fun source bytes => source = host ∧ ServerTells next bytes

variable {h : Hub}

theorem Online.mono {x : Client × Hub} (honline : Online host qport next x)
    (hle : next ≤ next') :
    Online host qport next' x where
  bound := honline.bound.mono hle
  traffic := by
    apply honline.traffic.mono (fun _ htells => htells)
    intro source bytes hheard
    exact ⟨hheard.1, hheard.2.mono hle⟩

theorem Online.sendConnect (honline : Online host qport next (c, h)) (now : Instant) :
    Online host qport next (c.sendConnect h now).reached := by
  have hsent : (h.sendText .client (connectRequest c.qport).render c.server now).reached.Traffic
      .client (ClientTells qport) fun source bytes => source = host ∧ ServerTells next bytes := by
    have hbytes := clientTells_connectRequest qport
    rw [honline.bound.server, honline.bound.qport]
    exact honline.traffic.send hbytes .client host now
  unfold Client.sendConnect
  cases hsend : h.sendText .client (connectRequest c.qport).render c.server now with
  | mk hub fault =>
      rw [hsend] at hsent
      have hbound := honline.bound
      cases fault with
      | none =>
          exact ⟨⟨hbound.server, hbound.qport, hbound.reaches, hbound.granted⟩, hsent⟩
      | some fault => exact ⟨hbound, hsent⟩

theorem Online.connect (honline : Online host qport next (c, h)) (now : Instant) :
    Online host qport next (c.connect h now).reached := by
  have hbound := honline.bound
  have hstarted : Online host qport next
      ({ c with phase := .connecting }, h.report [.info s!"Connecting to {c.server}..."]) :=
    ⟨⟨hbound.server, hbound.qport, hbound.reaches, by simp⟩, honline.traffic.report _⟩
  exact hstarted.sendConnect now

theorem Online.sendProbe (honline : Online host qport next (c, h)) {size : Nat}
    {clock : UInt64} {id? : Option UInt32} {after : Client}
    (hsend : c.sendProbe size clock = .ok (id?, after)) :
    Online host qport next (after, h) := by
  have hbound := honline.bound
  unfold Client.sendProbe at hsend
  split at hsend
  · cases hsend
    exact honline
  · split at hsend
    · cases hsend
    · cases hsend
      exact ⟨⟨hbound.server, hbound.qport, hbound.reaches, hbound.granted⟩,
        honline.traffic⟩

theorem Online.receiveAll (honline : Online host qport next (c, h)) (clock : UInt64) :
    Online host qport next (c.receiveAll h clock) := by
  have hfold : ∀ (polls : List Hub.Poll) {x : Client × Hub},
      Online host qport next x →
      (∀ poll ∈ polls, ∀ source bytes, poll.found = some (source, bytes) →
        ∃ endpoint, source = .remote endpoint ∧ endpoint = host ∧
          ServerTells next bytes) →
      Online host qport next (polls.foldl (handlePoll clock) x) := by
    intro polls
    induction polls with
    | nil => exact fun honline _ => honline
    | cons poll polls ih =>
        intro x hx hpolls
        refine ih ?_ fun other hother => hpolls other (List.mem_cons_of_mem _ hother)
        obtain ⟨c, h⟩ := x
        simp only [handlePoll]
        cases hfound : poll.found with
        | none => exact ⟨hx.bound, hx.traffic.report _⟩
        | some found =>
            obtain ⟨source, bytes⟩ := found
            obtain ⟨endpoint, rfl, rfl, hheard⟩ :=
              hpolls poll List.mem_cons_self source bytes hfound
            exact ⟨hx.bound.handle hheard _ clock, hx.traffic.report _⟩
  obtain ⟨hleft, hpolls⟩ := honline.traffic.drain
  exact hfold _ ⟨honline.bound, hleft⟩ hpolls

theorem Online.pump (honline : Online host qport next (c, h)) (now : Instant) :
    Online host qport next (c.pump h now).reached := by
  unfold Client.pump
  cases hchannel : c.channel with
  | none => exact honline
  | some channel =>
      obtain ⟨-, hready, htraffic⟩ := (honline.bound.reaches channel hchannel).ship
        honline.traffic (fun bytes => clientTells_sequenced qport) c.queue
        c.fragmentsPerTick now
      have hbound := honline.bound.with_channel hready
      exact ⟨⟨hbound.server, hbound.qport, hbound.reaches, hbound.granted⟩, htraffic⟩

theorem Online.tick (honline : Online host qport next (c, h)) (now : Instant)
    (clock : UInt64) :
    Online host qport next (c.tick h now clock).reached := by
  have hreceived := honline.receiveAll clock
  unfold Client.tick
  cases hreceive : c.receiveAll h clock with
  | mk c₁ h₁ =>
      rw [hreceive] at hreceived
      simp only
      apply Attempt.andThen_reached
      · apply Attempt.andThen_reached
        · unfold Client.resendConnect
          split
          · have hreported : Online host qport next
                (c₁, h₁.report [.debug "Resending connect request"]) :=
              ⟨hreceived.bound, hreceived.traffic.report _⟩
            exact hreported.sendConnect now
          · exact hreceived
        · intro x hx
          exact hx.pump now
      · intro x hx
        exact ⟨hx.bound, hx.traffic.flush now⟩

theorem Online.sendFarewell (honline : Online host qport next (c, h)) (now : Instant) :
    Online host qport next (c.sendFarewell h now).reached := by
  unfold Client.sendFarewell
  cases hchannel : c.channel with
  | none => exact honline
  | some channel =>
      simp only
      cases hbusy : channel.isBusy with
      | true => exact honline
      | false =>
          have hmessage : channel.shipAll h farewell.encode now =
              channel.ship h [farewell.encode]
                (Channel.datagramCount farewell.encode.size) now := by
            rw [Channel.shipAll, Channel.shipMessage, hbusy]
            rfl
          obtain ⟨-, hready, htraffic⟩ := (honline.bound.reaches channel hchannel).ship
            honline.traffic (fun bytes => clientTells_sequenced qport) [farewell.encode]
            (Channel.datagramCount farewell.encode.size) now
          rw [if_neg (by simp), hmessage]
          exact ⟨honline.bound.with_channel hready, htraffic⟩

theorem Online.disconnect (honline : Online host qport next (c, h)) (now : Instant) :
    Online host qport next (c.disconnect h now).reached := by
  unfold Client.disconnect
  apply Attempt.andThen_reached
  · apply Attempt.andThen_reached (honline.sendFarewell now)
    intro x hx
    obtain ⟨c₁, h₁⟩ := x
    refine ⟨hx.bound, ?_⟩
    simp only [Attempt.map]
    unfold Client.sendLeave
    split
    · exact hx.traffic
    · rw [hx.bound.server]
      exact hx.traffic.send (clientTells_disconnectNotice qport) .client host now
  · intro x hx
    refine ⟨⟨hx.bound.server, hx.bound.qport, ?_, ?_⟩, hx.traffic⟩
    · intro channel hchannel
      cases hchannel
    · intro id hphase
      cases hphase

end Client
end DatagramLink

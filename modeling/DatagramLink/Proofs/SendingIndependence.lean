import DatagramLink.Proofs.ClientHistory

/-!
# What sending does not look at

What a client sends, and how its hub carries it, depends neither on the receiving direction
of its channel nor on what waits for it nor on the journal.  `Client.SendsAs` says that two
states differ in no more than these, and everything that sends keeps it: both states send
the same, stop at the same fault if at any, and keep what they differ in.
-/

namespace DatagramLink

/-! ## Hubs -/

namespace Hub

/-- The hub with something else waiting for the client, and another journal. -/
def withInbound (h : Hub) (ring : Ring) (inbound : List Arrival) (journal : Array Record) :
    Hub :=
  { h with toClient := ring, socket := { h.socket with inbound }, journal }

/-- The second hub is the first one with these things waiting for the client. -/
def SendsAs (ring : Ring) (inbound : List Arrival) (h g : Hub) : Prop :=
  ∃ journal, g = h.withInbound ring inbound journal

variable {ring : Ring} {inbound : List Arrival} {h g : Hub}

theorem sendsAs_self (h : Hub) : SendsAs h.toClient h.socket.inbound h h := ⟨h.journal, rfl⟩

theorem rollLoss_withInbound (h : Hub) (ring : Ring) (inbound : List Arrival)
    (journal : Array Record) :
    (h.withInbound ring inbound journal).rollLoss =
      (h.rollLoss.1, h.rollLoss.2.withInbound ring inbound journal) := by
  have hsettings : (h.withInbound ring inbound journal).settings = h.settings := rfl
  rw [rollLoss, rollLoss, hsettings]
  split <;> rfl

theorem rollDelay_withInbound (h : Hub) (ring : Ring) (inbound : List Arrival)
    (journal : Array Record) (side : Side) :
    (h.withInbound ring inbound journal).rollDelay side =
      ((h.rollDelay side).1, (h.rollDelay side).2.withInbound ring inbound journal) := by
  have hsettings : (h.withInbound ring inbound journal).settings = h.settings := rfl
  rw [rollDelay, rollDelay, hsettings]
  split <;> rfl

namespace SendsAs

theorem settings (hsame : SendsAs ring inbound h g) : g.settings = h.settings := by
  obtain ⟨journal, rfl⟩ := hsame
  rfl

theorem report (hsame : SendsAs ring inbound h g) (records records' : List Record) :
    SendsAs ring inbound (h.report records) (g.report records') := by
  obtain ⟨journal, rfl⟩ := hsame
  exact ⟨_, rfl⟩

theorem reportIf (hsame : SendsAs ring inbound h g) (shown : Bool) (record : Record) :
    SendsAs ring inbound (h.reportIf shown record) (g.reportIf shown record) := by
  unfold Hub.reportIf
  split
  · exact hsame.report _ _
  · exact hsame

theorem offer (hsame : SendsAs ring inbound h g) (d : Datagram) (attempt : String) :
    SendsAs ring inbound (h.offer d attempt) (g.offer d attempt) := by
  obtain ⟨journal, rfl⟩ := hsame
  have hrefusal : (h.withInbound ring inbound journal).socket.send d =
      ((h.socket.send d).1, { (h.socket.send d).2 with inbound }) := rfl
  unfold Hub.offer
  rw [hrefusal]
  obtain ⟨_ | reason, socket⟩ := h.socket.send d
  · exact ⟨journal, rfl⟩
  · exact ⟨_, rfl⟩

theorem hold (hsame : SendsAs ring inbound h g) (side : Side) (d : Datagram)
    (now : Instant) :
    (g.hold side d now).fault = (h.hold side d now).fault ∧
      SendsAs ring inbound (h.hold side d now).reached (g.hold side d now).reached := by
  obtain ⟨journal, rfl⟩ := hsame
  unfold Hub.hold
  rw [rollDelay_withInbound]
  obtain ⟨_ | delay, after⟩ := h.rollDelay side
  · exact ⟨rfl, journal, rfl⟩
  · exact ⟨rfl, journal, rfl⟩

theorem sendRemote (hsame : SendsAs ring inbound h g) (side : Side) (d : Datagram)
    (now : Instant) :
    (g.sendRemote side d now).fault = (h.sendRemote side d now).fault ∧
      SendsAs ring inbound (h.sendRemote side d now).reached
        (g.sendRemote side d now).reached := by
  obtain ⟨journal, rfl⟩ := hsame
  unfold Hub.sendRemote
  rw [rollLoss_withInbound]
  obtain ⟨lost, after⟩ := h.rollLoss
  have hafter : SendsAs ring inbound after (after.withInbound ring inbound journal) :=
    ⟨journal, rfl⟩
  cases lost with
  | true => exact ⟨rfl, hafter.reportIf _ _⟩
  | false =>
      have hsettings : (after.withInbound ring inbound journal).settings = after.settings := rfl
      simp only [hsettings]
      split
      · exact hafter.hold side d now
      · exact ⟨rfl, hafter.offer d _⟩

theorem send (hsame : SendsAs ring inbound h g) (bytes : ByteArray) (target : Address)
    (now : Instant) :
    (g.send .client bytes target now).fault = (h.send .client bytes target now).fault ∧
      SendsAs ring inbound (h.send .client bytes target now).reached
        (g.send .client bytes target now).reached := by
  have hsettings := hsame.settings
  unfold Hub.send
  rw [hsettings]
  have hshown := hsame.reportIf h.settings.showPackets
    (.info s!"{Side.client} send {bytes.size} bytes to {target}")
  cases target with
  | loopback =>
      obtain ⟨journal, heq⟩ := hshown
      simp only [heq]
      exact ⟨rfl, journal, rfl⟩
  | remote endpoint => exact hshown.sendRemote .client ⟨bytes, endpoint⟩ now

theorem flush (hsame : SendsAs ring inbound h g) (now : Instant) :
    SendsAs ring inbound (h.flush now).2 (g.flush now).2 := by
  have hfold : ∀ (due : List Held) {h g : Hub}, SendsAs ring inbound h g →
      SendsAs ring inbound (due.foldl (fun h x => h.offer x.datagram "flush delayed packet") h)
        (due.foldl (fun h x => h.offer x.datagram "flush delayed packet") g) := by
    intro due
    induction due with
    | nil => exact fun hsame => hsame
    | cons x due ih => exact fun hsame => ih (hsame.offer x.datagram _)
  obtain ⟨journal, rfl⟩ := hsame
  exact hfold _ ⟨journal, rfl⟩

theorem dispatchAll (hsame : SendsAs ring inbound h g) {sent : List Dispatch}
    (hside : ∀ d ∈ sent, d.side = .client) (now : Instant) :
    (g.dispatchAll sent now).fault = (h.dispatchAll sent now).fault ∧
      (g.dispatchAll sent now).reached.1 = (h.dispatchAll sent now).reached.1 ∧
      SendsAs ring inbound (h.dispatchAll sent now).reached.2
        (g.dispatchAll sent now).reached.2 := by
  induction sent generalizing h g with
  | nil => exact ⟨rfl, rfl, hsame⟩
  | cons d sent ih =>
      have hfirst : (g.dispatch d now).fault = (h.dispatch d now).fault ∧
          SendsAs ring inbound (h.dispatch d now).reached (g.dispatch d now).reached := by
        unfold Hub.dispatch
        rw [hside d List.mem_cons_self]
        exact (hsame.report [d.note] [d.note]).send d.bytes d.target now
      unfold Hub.dispatchAll
      cases hh : h.dispatch d now with
      | mk after fault =>
          cases hg : g.dispatch d now with
          | mk after' fault' =>
              rw [hh, hg] at hfirst
              obtain ⟨hfault, hafter⟩ := hfirst
              simp only at hfault hafter
              subst hfault
              cases fault' with
              | some fault => exact ⟨rfl, rfl, hafter⟩
              | none =>
                  obtain ⟨hfault, hcount, hrest⟩ :=
                    ih hafter fun e he => hside e (List.mem_cons_of_mem _ he)
                  exact ⟨hfault, congrArg (· + 1) hcount, hrest⟩

end SendsAs
end Hub

/-! ## Channels -/

namespace Channel

/-- The channel with another receiving direction. -/
def withIncoming (c : Channel) (incoming : Incoming) : Channel := { c with incoming }

def Pumped.withIncoming (p : Pumped) (incoming : Incoming) : Pumped :=
  { p with channel := p.channel.withIncoming incoming }

theorem sendFragment_withIncoming (c : Channel) (incoming : Incoming) (u : Unsent) :
    (c.withIncoming incoming).sendFragment u =
      (c.sendFragment u).map fun (d, after) => (d, after.withIncoming incoming) := by
  have hheader : (c.withIncoming incoming).header = c.header := rfl
  unfold sendFragment
  rw [hheader]
  cases (c.header (some u.nextFragment)).encode with
  | error fault => rfl
  | ok header =>
      have hadvance : (c.withIncoming incoming).advance u =
          (c.advance u).withIncoming incoming := by
        unfold advance
        cases u.next? <;> rfl
      simp only [bind, Except.bind, pure, Except.pure, Except.map, hadvance]
      rfl

theorem transmit_withIncoming (c : Channel) (incoming : Incoming) (message : ByteArray) :
    (c.withIncoming incoming).transmit message =
      (c.transmit message).map fun (d, after) => (d, after.withIncoming incoming) := by
  have hbusy : (c.withIncoming incoming).isBusy = c.isBusy := rfl
  unfold transmit
  rw [hbusy]
  split
  · rfl
  · split
    · exact c.sendFragment_withIncoming incoming ⟨message, 0⟩
    · have hheader : (c.withIncoming incoming).header none = c.header none := rfl
      unfold sendWhole
      rw [hheader]
      cases (c.header none).encode <;> rfl

theorem pump_withIncoming (c : Channel) (incoming : Incoming) (queue : List ByteArray)
    (budget : Nat) :
    (c.withIncoming incoming).pump queue budget =
      (c.pump queue budget).map (·.withIncoming incoming) := by
  induction budget generalizing c queue with
  | zero => rfl
  | succ budget ih =>
      -- both sending branches go on with what is left of the budget
      have hstep : ∀ (sent : Except Fault (Dispatch × Channel)) (rest : List ByteArray),
          (do
            let (d, after) ← sent.map fun (d, after) => (d, after.withIncoming incoming)
            let later ← after.pump rest budget
            return { later with dispatches := d :: later.dispatches } : Except Fault Pumped) =
          (do
            let (d, after) ← sent
            let later ← after.pump rest budget
            return { later with dispatches := d :: later.dispatches } :
              Except Fault Pumped).map (·.withIncoming incoming) := by
        intro sent rest
        cases sent with
        | error fault => rfl
        | ok first =>
            simp only [bind, Except.bind, Except.map, ih first.2 rest]
            cases first.2.pump rest budget <;> rfl
      have hunsent : (c.withIncoming incoming).outgoing = c.outgoing := rfl
      unfold pump
      rw [hunsent]
      cases c.outgoing.unsent with
      | some u =>
          simp only [c.sendFragment_withIncoming incoming u]
          exact hstep _ queue
      | none =>
          cases queue with
          | nil => rfl
          | cons message queue =>
              simp only [c.transmit_withIncoming incoming message]
              exact hstep _ queue

theorem prepared_withIncoming (c : Channel) (incoming : Incoming) (queue : List ByteArray) :
    (c.withIncoming incoming).prepared queue =
      ((c.prepared queue).1.withIncoming incoming, (c.prepared queue).2) := by
  have hunsent : (c.withIncoming incoming).outgoing.unsent = c.outgoing.unsent := rfl
  unfold prepared
  rw [hunsent]
  cases c.outgoing.unsent with
  | some u => rfl
  | none =>
      cases queue with
      | nil => rfl
      | cons message queue =>
          simp only
          split <;> rfl

theorem interrupted_withIncoming (c : Channel) (incoming : Incoming)
    (queue : List ByteArray) (count : Nat) :
    (c.withIncoming incoming).interrupted queue count =
      ((c.interrupted queue count).1.withIncoming incoming,
        (c.interrupted queue count).2) := by
  unfold interrupted
  rw [pump_withIncoming]
  cases c.pump queue count with
  | error fault => rfl
  | ok pumped => exact pumped.channel.prepared_withIncoming incoming pumped.queue

/-- Two channels that differ in their receiving direction ship the same. -/
structure Ships (incoming : Incoming) (ring : Ring) (inbound : List Arrival)
    (a b : Attempt Shipment) : Prop where
  fault : b.fault = a.fault
  channel : b.reached.channel = a.reached.channel.withIncoming incoming
  queue : b.reached.queue = a.reached.queue
  hub : Hub.SendsAs ring inbound a.reached.hub b.reached.hub

section
variable {c : Channel} {server : Address} {qport : UInt16} {incoming : Incoming} {ring : Ring}
  {inbound : List Arrival} {h g : Hub}

theorem ClientEnd.ships (hend : c.ClientEnd server qport)
    (hsame : Hub.SendsAs ring inbound h g) (incoming : Incoming) (queue : List ByteArray)
    (budget : Nat) (now : Instant) :
    Ships incoming ring inbound (c.ship h queue budget now)
      ((c.withIncoming incoming).ship g queue budget now) := by
  obtain ⟨pumped, hpump, hsending, -, -⟩ := pump_spec hend.aligned queue budget
  have hsides : ∀ d ∈ pumped.dispatches, d.side = .client :=
    fun d hd => (hsending.addressed d hd).1.trans hend.side
  have hsent := hsame.dispatchAll hsides now
  unfold Channel.ship
  rw [pump_withIncoming, hpump]
  simp only [Except.map, Pumped.withIncoming]
  cases hh : h.dispatchAll pumped.dispatches now with
  | mk reached fault =>
      cases hg : g.dispatchAll pumped.dispatches now with
      | mk reached' fault' =>
          rw [hh, hg] at hsent
          obtain ⟨hfault, hcount, hhub⟩ := hsent
          simp only at hfault hcount hhub
          subst hfault
          cases fault' with
          | none => exact ⟨rfl, rfl, rfl, hhub⟩
          | some fault =>
              simp only [interrupted_withIncoming, hcount]
              exact ⟨rfl, rfl, rfl, hhub⟩

theorem ClientEnd.shipsAll (hend : c.ClientEnd server qport)
    (hsame : Hub.SendsAs ring inbound h g) (incoming : Incoming) (message : ByteArray)
    (now : Instant) :
    Ships incoming ring inbound (c.shipAll h message now)
      ((c.withIncoming incoming).shipAll g message now) := by
  have hbusy : (c.withIncoming incoming).isBusy = c.isBusy := rfl
  unfold Channel.shipAll shipMessage
  rw [hbusy]
  split
  · exact ⟨rfl, rfl, rfl, hsame⟩
  · exact hend.ships hsame incoming _ _ now

end

end Channel

/-! ## Clients -/

namespace Client

/-- The client with another receiving direction of its channel, if it has one. -/
def withIncoming (c : Client) (incoming : Incoming) : Client :=
  { c with channel := c.channel.map (·.withIncoming incoming) }

/-- Two states that send the same.  The second one has this receiving direction and these
things waiting. -/
structure SendsAs (incoming : Incoming) (ring : Ring) (inbound : List Arrival)
    (x y : Client × Hub) : Prop where
  client : y.1 = x.1.withIncoming incoming
  hub : Hub.SendsAs ring inbound x.2 y.2

/-- What a frame does once everything that waited is handled. -/
def share (now : Instant) (x : Client × Hub) : Attempt (Client × Hub) :=
  ((x.1.resendConnect x.2 now).andThen fun y => y.1.pump y.2 now).andThen
    fun y => .done (y.1, (y.2.flush now).2)

theorem tick_eq (c : Client) (h : Hub) (now : Instant) (clock : UInt64) :
    c.tick h now clock = share now (c.receiveAll h clock) := rfl

/-- Two attempts that come equally far. -/
structure AttemptsAs (incoming : Incoming) (ring : Ring) (inbound : List Arrival)
    (a b : Attempt (Client × Hub)) : Prop where
  fault : b.fault = a.fault
  reached : SendsAs incoming ring inbound a.reached b.reached

variable {incoming : Incoming} {ring : Ring} {inbound : List Arrival} {x y : Client × Hub}

theorem AttemptsAs.andThen {a b : Attempt (Client × Hub)}
    {next : Client × Hub → Attempt (Client × Hub)}
    (hfirst : AttemptsAs incoming ring inbound a b)
    (hnext : ∀ {x y}, x = a.reached → SendsAs incoming ring inbound x y →
      AttemptsAs incoming ring inbound (next x) (next y)) :
    AttemptsAs incoming ring inbound (a.andThen next) (b.andThen next) := by
  obtain ⟨reached, fault⟩ := a
  obtain ⟨reached', fault'⟩ := b
  obtain ⟨hfault, hreached⟩ := hfirst
  simp only at hfault hreached
  subst hfault
  cases fault' with
  | none => exact hnext rfl hreached
  | some fault => exact ⟨rfl, hreached⟩

theorem sendProbe_withIncoming (c : Client) (incoming : Incoming) (size : Nat)
    (clock : UInt64) :
    (c.withIncoming incoming).sendProbe size clock =
      (c.sendProbe size clock).map fun (id?, after) => (id?, after.withIncoming incoming) := by
  have hconnected : (c.withIncoming incoming).isConnected = c.isConnected := rfl
  unfold Client.sendProbe
  rw [hconnected]
  split
  · rfl
  · split <;> rfl

namespace SendsAs

theorem with_phase (hsame : SendsAs incoming ring inbound x y) (phase : Phase) :
    SendsAs incoming ring inbound ({ x.1 with phase }, x.2) ({ y.1 with phase }, y.2) :=
  ⟨by rw [hsame.client]; rfl, hsame.hub⟩

theorem report (hsame : SendsAs incoming ring inbound x y) (records : List Record) :
    SendsAs incoming ring inbound (x.1, x.2.report records) (y.1, y.2.report records) :=
  ⟨hsame.client, hsame.hub.report _ _⟩

theorem sendConnect (hsame : SendsAs incoming ring inbound x y) (now : Instant) :
    AttemptsAs incoming ring inbound (x.1.sendConnect x.2 now) (y.1.sendConnect y.2 now) := by
  obtain ⟨c, h⟩ := x
  obtain ⟨d, g⟩ := y
  obtain ⟨hclient, hhub⟩ := hsame
  simp only at hclient hhub
  subst hclient
  have hsent := hhub.send (connectionless (connectRequest c.qport).render.toUTF8) c.server now
  unfold Client.sendConnect Hub.sendText Hub.sendConnectionless
  simp only [withIncoming]
  cases hh : h.send .client (connectionless (connectRequest c.qport).render.toUTF8) c.server
    now with
  | mk reached fault =>
      cases hg : g.send .client (connectionless (connectRequest c.qport).render.toUTF8)
        c.server now with
      | mk reached' fault' =>
          rw [hh, hg] at hsent
          obtain ⟨hfault, hsent⟩ := hsent
          simp only at hfault hsent
          subst hfault
          cases fault' with
          | none => exact ⟨rfl, rfl, hsent⟩
          | some fault => exact ⟨rfl, rfl, hsent⟩

theorem connect (hsame : SendsAs incoming ring inbound x y) (now : Instant) :
    AttemptsAs incoming ring inbound (x.1.connect x.2 now) (y.1.connect y.2 now) := by
  have hstarted := (hsame.with_phase .connecting).report
    [.info s!"Connecting to {x.1.server}..."]
  have hsent := hstarted.sendConnect now
  obtain ⟨d, g⟩ := y
  obtain ⟨hclient, -⟩ := hsame
  simp only at hclient
  subst hclient
  exact hsent

theorem requestInfo (hsame : SendsAs incoming ring inbound x y) (now : Instant) :
    AttemptsAs incoming ring inbound ((x.1.requestInfo x.2 now).map fun h => (x.1, h))
      ((y.1.requestInfo y.2 now).map fun h => (y.1, h)) := by
  have hserver : y.1.server = x.1.server := by
    rw [hsame.client]
    rfl
  unfold Client.requestInfo
  rw [hserver]
  obtain ⟨hfault, hhub⟩ := hsame.hub.send (connectionless infoRequest.render.toUTF8)
    x.1.server now
  exact ⟨hfault, hsame.client, hhub⟩

theorem sendFarewell (hsame : SendsAs incoming ring inbound x y) {server : Address}
    {qport : UInt16} (hsteady : Steady server qport x.1) (now : Instant) :
    AttemptsAs incoming ring inbound (x.1.sendFarewell x.2 now)
      (y.1.sendFarewell y.2 now) := by
  obtain ⟨c, h⟩ := x
  obtain ⟨d, g⟩ := y
  obtain ⟨hclient, hhub⟩ := hsame
  simp only at hclient hhub
  subst hclient
  have hsteady' : Steady server qport c := hsteady
  unfold Client.sendFarewell
  cases hchannel : c.channel with
  | none =>
      have hnone : (c.withIncoming incoming).channel = none := by
        rw [withIncoming, hchannel]
        rfl
      simp only [hnone]
      exact ⟨rfl, rfl, hhub⟩
  | some channel =>
      have hsome : (c.withIncoming incoming).channel =
          some (channel.withIncoming incoming) := by
        rw [withIncoming, hchannel]
        rfl
      have hbusy : (channel.withIncoming incoming).isBusy = channel.isBusy := rfl
      simp only [hsome, hbusy]
      split
      · exact ⟨rfl, rfl, hhub⟩
      · obtain ⟨hfault, hship, -, hsent⟩ :=
          (hsteady'.channel channel hchannel).shipsAll hhub incoming farewell.encode now
        refine ⟨hfault, ?_, hsent⟩
        simp only [Attempt.map, hship]
        rfl

theorem sendLeave (hsame : SendsAs incoming ring inbound x y) (now : Instant) :
    AttemptsAs incoming ring inbound ((x.1.sendLeave x.2 now).map fun h => (x.1, h))
      ((y.1.sendLeave y.2 now).map fun h => (y.1, h)) := by
  have hserver : y.1.server = x.1.server := by
    rw [hsame.client]
    rfl
  have hphase : y.1.phase = x.1.phase := by
    rw [hsame.client]
    rfl
  unfold Client.sendLeave
  rw [hserver, hphase]
  split
  · exact ⟨rfl, hsame.client, hsame.hub⟩
  · obtain ⟨hfault, hhub⟩ := hsame.hub.send (connectionless disconnectNotice.render.toUTF8)
      x.1.server now
    exact ⟨hfault, hsame.client, hhub⟩

theorem disconnect (hsame : SendsAs incoming ring inbound x y) {server : Address}
    {qport : UInt16} (hsteady : Steady server qport x.1) (now : Instant) :
    AttemptsAs incoming ring inbound (x.1.disconnect x.2 now) (y.1.disconnect y.2 now) := by
  unfold Client.disconnect
  refine AttemptsAs.andThen (AttemptsAs.andThen (hsame.sendFarewell hsteady now) ?_) ?_
  · exact fun _ hsame => hsame.sendLeave now
  · intro x y _ hsame
    refine ⟨rfl, ?_, hsame.hub⟩
    simp only [Attempt.done, hsame.client]
    rfl

theorem resendConnect (hsame : SendsAs incoming ring inbound x y) (now : Instant) :
    AttemptsAs incoming ring inbound (x.1.resendConnect x.2 now)
      (y.1.resendConnect y.2 now) := by
  have hneeds : y.1.needsResend now = x.1.needsResend now := by
    rw [hsame.client]
    rfl
  unfold Client.resendConnect
  rw [hneeds]
  split
  · exact (hsame.report _).sendConnect now
  · exact ⟨rfl, hsame⟩

theorem pump (hsame : SendsAs incoming ring inbound x y) {server : Address}
    {qport : UInt16} (hsteady : Steady server qport x.1) (now : Instant) :
    AttemptsAs incoming ring inbound (x.1.pump x.2 now) (y.1.pump y.2 now) := by
  obtain ⟨c, h⟩ := x
  obtain ⟨d, g⟩ := y
  obtain ⟨hclient, hhub⟩ := hsame
  simp only at hclient hhub
  subst hclient
  have hsteady' : Steady server qport c := hsteady
  unfold Client.pump
  cases hchannel : c.channel with
  | none =>
      have hnone : (c.withIncoming incoming).channel = none := by
        rw [withIncoming, hchannel]
        rfl
      simp only [hnone]
      exact ⟨rfl, rfl, hhub⟩
  | some channel =>
      have hsome : (c.withIncoming incoming).channel =
          some (channel.withIncoming incoming) := by
        rw [withIncoming, hchannel]
        rfl
      have hqueue : (c.withIncoming incoming).queue = c.queue := rfl
      have hshare : (c.withIncoming incoming).fragmentsPerTick = c.fragmentsPerTick := rfl
      simp only [hsome, hqueue, hshare]
      obtain ⟨hfault, hship, hrest, hsent⟩ := (hsteady'.channel channel hchannel).ships hhub
        incoming c.queue c.fragmentsPerTick now
      refine ⟨hfault, ?_, hsent⟩
      simp only [Attempt.map, hship, hrest]
      rfl

theorem share (hsame : SendsAs incoming ring inbound x y) {server : Address}
    {qport : UInt16} (hsteady : Steady server qport x.1) (now : Instant) :
    AttemptsAs incoming ring inbound (Client.share now x) (Client.share now y) := by
  refine AttemptsAs.andThen (AttemptsAs.andThen (hsame.resendConnect now) ?_) ?_
  · intro x' y' hx' hsame'
    have hresent : Steady server qport x'.1 := by
      rw [hx']
      unfold Client.resendConnect
      split
      · exact hsteady.sendConnect _ now
      · exact hsteady
    exact hsame'.pump hresent now
  · exact fun _ hsame => ⟨rfl, hsame.client, hsame.hub.flush now⟩

end SendsAs
end Client
end DatagramLink

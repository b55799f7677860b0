import DatagramLink.Proofs.Deeds
import DatagramLink.Proofs.Inbound
import DatagramLink.Proofs.Strangers

/-!
# Runs of a client among strangers

Two runs of a client with the same calls, and with the same datagrams of its server between
the same calls, send the same and end in the same state, wherever and whatever strangers send
in either of them; only what the channel counts as dropped may differ.

Of a state three things matter: the client up to the drops of its channel, what its hub sends
on, and what waits for the client from its server.  `Client.Alike` says that two states agree
in these.  Every deed keeps it, and what a stranger sends does not disturb it.
-/

namespace DatagramLink

/-! ## What waits from the server -/

/-- Whether an arrival is something else than a datagram of another endpoint. -/
def Arrival.concerns (endpoint : Endpoint) : Arrival → Bool
  | .datagram _ source => source == endpoint
  | .failure _ => true

/-- What a socket admits of some arrivals: nothing arrives where no socket is bound. -/
def Socket.admitted (s : Socket) (arrivals : List Arrival) : List Arrival :=
  if s.address.isSome then arrivals else []

theorem Socket.deliver_eq (s : Socket) (arrivals : List Arrival) :
    s.deliver arrivals = { s with inbound := s.inbound ++ s.admitted arrivals } := by
  obtain ⟨address, inbound, offers, refusal⟩ := s
  cases address with
  | some endpoint => rfl
  | none => simp [deliver, admitted]

namespace Hub

theorem deliver_eq (h : Hub) (arrivals : List Arrival) :
    h.deliver arrivals = h.withInbound h.toClient
      (h.socket.inbound ++ h.socket.admitted arrivals) h.journal := by
  rw [deliver, Socket.deliver_eq]
  rfl

theorem arriving_filter (endpoint : Endpoint) (inbound : List Arrival) :
    arriving (inbound.filter (·.concerns endpoint)) =
      (arriving inbound).filter (·.1 == .remote endpoint) := by
  induction inbound with
  | nil => rfl
  | cons arrival inbound ih =>
      cases arrival with
      | failure reason => rfl
      | datagram bytes source =>
          by_cases hsource : source = endpoint
          · rw [List.filter_cons_of_pos (by simpa [Arrival.concerns] using hsource)]
            simp only [arriving]
            split
            · exact ih
            · rw [List.filter_cons_of_pos (by simpa using hsource), ih]
          · rw [List.filter_cons_of_neg (by simpa [Arrival.concerns] using hsource), ih]
            simp only [arriving]
            split
            · rfl
            · rw [List.filter_cons_of_neg (by simpa using hsource)]

theorem leftover_filter (endpoint : Endpoint) (inbound : List Arrival) :
    leftover (inbound.filter (·.concerns endpoint)) =
      (leftover inbound).filter (·.concerns endpoint) := by
  induction inbound with
  | nil => rfl
  | cons arrival inbound ih =>
      cases arrival with
      | failure reason => rfl
      | datagram bytes source =>
          by_cases hsource : source = endpoint
          · rw [List.filter_cons_of_pos (by simpa [Arrival.concerns] using hsource)]
            exact ih
          · rw [List.filter_cons_of_neg (by simpa [Arrival.concerns] using hsource), ih]
            rfl

/-- Nothing comes from a socket over loopback. -/
theorem arriving_filter_loopback (inbound : List Arrival) :
    (arriving inbound).filter (·.1 == .loopback) = [] := by
  induction inbound with
  | nil => rfl
  | cons arrival inbound ih =>
      cases arrival with
      | failure reason => rfl
      | datagram bytes source =>
          simp only [arriving]
          split
          · exact ih
          · rw [List.filter_cons_of_neg (by simp), ih]

/-- What waits for the client from its server is the same. -/
def SameFrom (server : Address) (h g : Hub) : Prop :=
  match server with
  | .loopback => h.toClient = g.toClient
  | .remote endpoint =>
      h.socket.inbound.filter (·.concerns endpoint) =
        g.socket.inbound.filter (·.concerns endpoint)

variable {server : Address} {h g : Hub}

/-- A poll after the other finds the same from the server. -/
theorem SameFrom.waitingFor (hsame : SameFrom server h g) :
    (h.waitingFor .client).filter (·.1 == server) =
      (g.waitingFor .client).filter (·.1 == server) := by
  have hring : ∀ endpoint, (∀ found : List ByteArray,
      (found.map (Address.loopback, ·)).filter (·.1 == .remote endpoint) = []) := by
    intro endpoint found
    rw [List.filter_eq_nil_iff]
    intro x hx
    obtain ⟨bytes, -, rfl⟩ := List.mem_map.mp hx
    simp
  unfold Hub.waitingFor
  rw [List.filter_append, List.filter_append]
  cases server with
  | loopback =>
      have hunread : (h.ringOf .client).unread = (g.ringOf .client).unread :=
        congrArg Ring.unread hsame
      rw [arriving_filter_loopback, arriving_filter_loopback, hunread]
  | remote endpoint =>
      have harriving := congrArg arriving hsame
      rw [arriving_filter, arriving_filter] at harriving
      rw [hring endpoint, hring endpoint, harriving]

end Hub

namespace Client

/-! ## Alike -/

/-- Two states that strangers cannot tell apart for the server. -/
structure Alike (server : Address) (x y : Client × Hub) : Prop where
  client : x.1.forgetDrops = y.1.forgetDrops
  hub : Hub.SendsAs y.2.toClient y.2.socket.inbound x.2 y.2
  waiting : Hub.SameFrom server x.2 y.2

/-- Two attempts that come equally far. -/
structure AttemptsAlike (server : Address) (a b : Attempt (Client × Hub)) : Prop where
  fault : a.fault = b.fault
  reached : Alike server a.reached b.reached

variable {server : Address} {qport : UInt16} {x y : Client × Hub}

theorem Alike.refl (server : Address) (x : Client × Hub) : Alike server x x := by
  refine ⟨rfl, x.2.sendsAs_self, ?_⟩
  cases server <;> rfl

theorem AttemptsAlike.andThen {a b : Attempt (Client × Hub)}
    {first second : Client × Hub → Attempt (Client × Hub)}
    (halike : AttemptsAlike server a b)
    (hnext : Alike server a.reached b.reached →
      AttemptsAlike server (first a.reached) (second b.reached)) :
    AttemptsAlike server (a.andThen first) (b.andThen second) := by
  obtain ⟨reached, fault⟩ := a
  obtain ⟨reached', fault'⟩ := b
  obtain ⟨hfault, hreached⟩ := halike
  simp only at hfault
  subst hfault
  cases fault with
  | none => exact hnext hreached
  | some fault => exact ⟨rfl, hreached⟩

/-- Clients that differ in drops only differ in a receiving direction. -/
theorem exists_withIncoming {c d : Client} (hsame : c.forgetDrops = d.forgetDrops) :
    ∃ own other : Incoming, own.forgetDrops = other.forgetDrops ∧
      c = c.withIncoming own ∧ d = c.withIncoming other := by
  have hchannel : c.channel.map (·.forgetDrops) = d.channel.map (·.forgetDrops) :=
    congrArg Client.channel hsame
  have hrest : { c with channel := d.channel } = d := by
    cases c
    cases d
    simp only [forgetDrops, mk.injEq] at hsame ⊢
    obtain ⟨rfl, rfl, rfl, -, rfl, rfl, rfl, rfl, rfl, rfl, rfl, rfl⟩ := hsame
    simp
  cases hc : c.channel with
  | none =>
      have hd : d.channel = none := by
        rw [hc] at hchannel
        simpa using hchannel.symm
      have hself : c.withIncoming {} = c := by
        rw [withIncoming, hc]
        exact congrArg (fun channel => { c with channel }) hc.symm
      refine ⟨{}, {}, rfl, hself.symm, ?_⟩
      rw [hself, ← hrest, hd, ← hc]
  | some channel =>
      obtain ⟨channel', hd, hforget⟩ : ∃ channel', d.channel = some channel' ∧
          channel'.forgetDrops = channel.forgetDrops := by
        rw [hc] at hchannel
        simpa using hchannel.symm
      have hincoming : channel.withIncoming channel'.incoming = channel' := by
        cases channel
        cases channel'
        simp only [Channel.forgetDrops, Channel.withIncoming, Channel.mk.injEq] at hforget ⊢
        obtain ⟨rfl, rfl, rfl, rfl, rfl, -⟩ := hforget
        simp
      refine ⟨channel.incoming, channel'.incoming,
        (congrArg Channel.incoming hforget).symm, ?_, ?_⟩
      · rw [withIncoming, hc]
        exact congrArg (fun channel => { c with channel }) hc
      · rw [withIncoming, hc, Option.map_some, hincoming, ← hd, hrest]

/-- What sends without looking at what waits keeps states alike. -/
theorem Alike.of_sends (halike : Alike server x y)
    (step : Client × Hub → Attempt (Client × Hub))
    (hsends : ∀ {incoming : Incoming} {ring : Ring} {inbound : List Arrival}
      {y : Client × Hub}, SendsAs incoming ring inbound x y →
        AttemptsAs incoming ring inbound (step x) (step y)) :
    AttemptsAlike server (step x) (step y) := by
  obtain ⟨own, other, hincoming, hself, hother⟩ := exists_withIncoming halike.client
  -- what `x` differs in from itself says that sending leaves it alone
  obtain ⟨-, hclient, journal, hhub⟩ := hsends ⟨hself, x.2.sendsAs_self⟩
  obtain ⟨hfault, hclient', journal', hhub'⟩ := hsends ⟨hother, halike.hub⟩
  have hring : (step x).reached.2.toClient = x.2.toClient := by rw [hhub]; rfl
  have hinbound : (step x).reached.2.socket.inbound = x.2.socket.inbound := by rw [hhub]; rfl
  have hring' : (step y).reached.2.toClient = y.2.toClient := by rw [hhub']; rfl
  have hinbound' : (step y).reached.2.socket.inbound = y.2.socket.inbound := by rw [hhub']; rfl
  refine ⟨hfault.symm, ?_, ?_, ?_⟩
  · rw [hclient, hclient']
    simp only [forgetDrops, withIncoming, Option.map_map]
    congr 1
    refine congrArg (Option.map · _) (funext fun channel => ?_)
    simp only [Function.comp, Channel.forgetDrops, Channel.withIncoming, hincoming]
  · rw [hring', hinbound']
    exact ⟨journal', hhub'⟩
  · have hwaiting := halike.waiting
    cases server with
    | loopback => exact hring.trans (Eq.trans hwaiting hring'.symm)
    | remote endpoint =>
        simp only [Hub.SameFrom] at hwaiting ⊢
        rw [hinbound, hinbound', hwaiting]

/-! ## Receiving -/

theorem foldl_handlePoll (c : Client) (h : Hub) (clock : UInt64) (polls : List Hub.Poll) :
    ∃ journal, polls.foldl (handlePoll clock) (c, h) =
      (c.listen h.settings.showDrops clock (polls.filterMap Hub.Poll.found),
        { h with journal }) := by
  induction polls generalizing c h with
  | nil => exact ⟨h.journal, rfl⟩
  | cons poll polls ih =>
      cases hfound : poll.found with
      | none =>
          obtain ⟨journal, hrest⟩ := ih c (h.report poll.records)
          refine ⟨journal, ?_⟩
          rw [List.foldl_cons, List.filterMap_cons_none hfound]
          simp only [handlePoll, hfound]
          exact hrest
      | some found =>
          obtain ⟨source, datagram⟩ := found
          obtain ⟨records, hnext⟩ : ∃ records, handlePoll clock (c, h) poll =
              ((c.handle h.settings.showDrops source datagram clock).2, h.report records) := by
            simp only [handlePoll, hfound]
            exact ⟨_, rfl⟩
          obtain ⟨journal, hrest⟩ := ih
            (c.handle h.settings.showDrops source datagram clock).2 (h.report records)
          refine ⟨journal, ?_⟩
          rw [List.foldl_cons, List.filterMap_cons_some hfound, hnext]
          exact hrest

/-- Receiving hears all that waits and leaves nothing in the ring. -/
theorem receiveAll_spec (c : Client) (h : Hub) (clock : UInt64) :
    ∃ journal, c.receiveAll h clock =
      (c.listen h.settings.showDrops clock (h.waitingFor .client),
        h.withInbound (h.toClient.pops h.toClient.length).2 (Hub.leftover h.socket.inbound)
          journal) := by
  obtain ⟨hfound, hdrained⟩ := h.drain_spec .client
  have hsettings : (h.drain .client).2.settings = h.settings := by rw [hdrained]; rfl
  obtain ⟨journal, hfold⟩ := foldl_handlePoll c (h.drain .client).2 clock (h.drain .client).1
  rw [hfound, hsettings] at hfold
  refine ⟨journal, Eq.trans hfold ?_⟩
  rw [hdrained]
  rfl

theorem Alike.receiveAll (halike : Alike server x y) (hx : Steady server qport x.1)
    (hy : Steady server qport y.1) (clock : UInt64) :
    Alike server (x.1.receiveAll x.2 clock) (y.1.receiveAll y.2 clock) := by
  obtain ⟨journal, hheard⟩ := receiveAll_spec x.1 x.2 clock
  obtain ⟨journal', hheard'⟩ := receiveAll_spec y.1 y.2 clock
  rw [hheard, hheard', halike.hub.settings]
  refine ⟨?_, ?_, ?_⟩
  · calc (x.1.listen x.2.settings.showDrops clock (x.2.waitingFor .client)).forgetDrops
        = (x.1.listen x.2.settings.showDrops clock
            ((x.2.waitingFor .client).filter (·.1 == server))).forgetDrops :=
          hx.listen_filter _ clock _
      _ = (y.1.listen x.2.settings.showDrops clock
            ((y.2.waitingFor .client).filter (·.1 == server))).forgetDrops := by
          rw [halike.waiting.waitingFor]
          exact listen_congr halike.client _ clock _
      _ = (y.1.listen x.2.settings.showDrops clock (y.2.waitingFor .client)).forgetDrops :=
          (hy.listen_filter _ clock _).symm
  · obtain ⟨between, hhub⟩ := halike.hub
    exact ⟨journal', by rw [hhub]; rfl⟩
  · have hwaiting := halike.waiting
    cases server with
    | loopback =>
        change (x.2.toClient.pops x.2.toClient.length).2 =
          (y.2.toClient.pops y.2.toClient.length).2
        rw [show x.2.toClient = y.2.toClient from hwaiting]
    | remote endpoint =>
        change (Hub.leftover x.2.socket.inbound).filter (·.concerns endpoint) =
          (Hub.leftover y.2.socket.inbound).filter (·.concerns endpoint)
        rw [← Hub.leftover_filter, ← Hub.leftover_filter]
        exact congrArg Hub.leftover hwaiting

theorem Alike.tick (halike : Alike server x y) (hx : Steady server qport x.1)
    (hy : Steady server qport y.1) (now : Instant) (clock : UInt64) :
    AttemptsAlike server (x.1.tick x.2 now clock) (y.1.tick y.2 now clock) := by
  rw [tick_eq, tick_eq]
  exact (halike.receiveAll hx hy clock).of_sends (share now)
    fun hsame => hsame.share (hx.receiveAll x.2 clock) now

/-! ## Deeds -/

/-- Whether a deed is a datagram of somebody else than the server. -/
def Deed.isForeign (server : Address) : Deed → Bool
  | .meet (.arrive source _) => source != server
  | _ => false

/-- What is added to what waits. -/
theorem Alike.withInbound (halike : Alike server x y) (ring ring' : Ring)
    (inbound inbound' : List Arrival)
    (hsame : Hub.SameFrom server (x.2.withInbound ring inbound x.2.journal)
      (y.2.withInbound ring' inbound' y.2.journal)) :
    Alike server (x.1, x.2.withInbound ring inbound x.2.journal)
      (y.1, y.2.withInbound ring' inbound' y.2.journal) := by
  obtain ⟨journal, hhub⟩ := halike.hub
  refine ⟨halike.client, ⟨y.2.journal, ?_⟩, hsame⟩
  simp only
  rw [hhub]
  rfl

theorem Alike.deliver (halike : Alike server x y) (arrivals : List Arrival) :
    Alike server (x.1, x.2.deliver arrivals) (y.1, y.2.deliver arrivals) := by
  have haddress : y.2.socket.address = x.2.socket.address := by
    obtain ⟨journal, hhub⟩ := halike.hub
    rw [hhub]
    rfl
  rw [Hub.deliver_eq, Hub.deliver_eq, Socket.admitted, Socket.admitted, haddress]
  refine halike.withInbound _ _ _ _ ?_
  have hwaiting := halike.waiting
  cases server with
  | loopback => exact hwaiting
  | remote endpoint =>
      simp only [Hub.SameFrom] at hwaiting
      simp only [Hub.SameFrom, Hub.withInbound, List.filter_append, hwaiting]

theorem Alike.arrive (halike : Alike server x y) (source : Address) (bytes : ByteArray) :
    Alike server (x.1, x.2.meet .client (.arrive source bytes))
      (y.1, y.2.meet .client (.arrive source bytes)) := by
  cases source with
  | remote endpoint => exact halike.deliver _
  | loopback =>
      refine halike.withInbound _ _ _ _ ?_
      have hwaiting := halike.waiting
      cases server with
      | loopback => exact congrArg (·.push bytes) hwaiting
      | remote endpoint => exact hwaiting

/-- A stranger's datagram makes no difference. -/
theorem Alike.arrive_foreign (halike : Alike server x y) {source : Address}
    (hforeign : source ≠ server) (bytes : ByteArray) :
    Alike server (x.1, x.2.meet .client (.arrive source bytes)) y := by
  have hwaiting := halike.waiting
  cases source with
  | loopback =>
      refine halike.withInbound _ y.2.toClient _ y.2.socket.inbound ?_
      cases server with
      | loopback => exact absurd rfl hforeign
      | remote endpoint => exact hwaiting
  | remote endpoint =>
      simp only [Hub.meet, Hub.deliver_eq]
      refine halike.withInbound _ y.2.toClient _ y.2.socket.inbound ?_
      cases server with
      | loopback => exact hwaiting
      | remote other =>
          have hother : endpoint ≠ other := fun heq => hforeign (congrArg _ heq)
          have hnothing : (x.2.socket.admitted [.datagram bytes endpoint]).filter
              (·.concerns other) = [] := by
            unfold Socket.admitted
            split
            · exact List.filter_cons_of_neg (by simpa [Arrival.concerns] using hother)
            · rfl
          simp only [Hub.SameFrom] at hwaiting
          simp only [Hub.SameFrom, Hub.withInbound, List.filter_append, hnothing,
            List.append_nil, hwaiting]

/-- A deed keeps states alike. -/
theorem Alike.perform (halike : Alike server x y) (hx : Steady server qport x.1)
    (hy : Steady server qport y.1) (deed : Deed) :
    AttemptsAlike server (perform x deed) (perform y deed) := by
  have hsends := halike.of_sends (Client.perform · deed)
  cases deed with
  | connect now => exact hsends fun hsame => hsame.connect now
  | requestInfo now => exact hsends fun hsame => hsame.requestInfo now
  | disconnect now => exact hsends fun hsame => hsame.disconnect hx now
  | tick now clock => exact halike.tick hx hy now clock
  | sendProbe size clock =>
      refine hsends ?_
      intro incoming ring inbound y hsame
      have hsend := sendProbe_withIncoming x.1 incoming size clock
      rw [← hsame.client] at hsend
      simp only [Client.perform, hsend]
      cases x.1.sendProbe size clock with
      | error fault => exact ⟨rfl, hsame⟩
      | ok sent => exact ⟨rfl, rfl, hsame.hub⟩
  | meet incident =>
      cases incident with
      | arrive source bytes => exact ⟨rfl, halike.arrive source bytes⟩
      | failReceive reason => exact ⟨rfl, halike.deliver _⟩
      | collect =>
          refine hsends ?_
          intro incoming ring inbound y hsame
          obtain ⟨journal, hhub⟩ := hsame.hub
          refine ⟨rfl, hsame.client, journal, ?_⟩
          simp only [Client.perform, Attempt.done, hhub]
          rfl

/-- A run is like the same run without the strangers. -/
theorem Alike.performAll (halike : Alike server x y) (hx : History server qport x.1)
    (hy : History server qport y.1) (deeds : List Deed) :
    AttemptsAlike server (performAll x deeds)
      (performAll y (deeds.filter (!·.isForeign server))) := by
  induction deeds generalizing x y with
  | nil => exact ⟨rfl, halike⟩
  | cons deed deeds ih =>
      cases hforeign : deed.isForeign server with
      | false =>
          rw [List.filter_cons_of_pos (by simp [hforeign])]
          exact (halike.perform hx.steady hy.steady deed).andThen fun hnext =>
            ih hnext (hx.perform deed) (hy.perform deed)
      | true =>
          rw [List.filter_cons_of_neg (by simp [hforeign])]
          match deed with
          | .meet (.arrive source bytes) =>
              have hsource : source ≠ server := by simpa [Deed.isForeign] using hforeign
              exact ih (halike.arrive_foreign hsource bytes)
                (hx.perform (.meet (.arrive source bytes))) hy

/-! ## Strangers -/

/-- What a client, its socket, its server's ring and the delay line show of a run, but for the
drops of the client's channel. -/
structure SameOutcome (a b : Attempt (Client × Hub)) : Prop where
  fault : a.fault = b.fault
  client : a.reached.1.forgetDrops = b.reached.1.forgetDrops
  offers : a.reached.2.socket.offers = b.reached.2.socket.offers
  toServer : a.reached.2.toServer = b.reached.2.toServer
  delayed : a.reached.2.delayed = b.reached.2.delayed

theorem AttemptsAlike.sameOutcome {a b : Attempt (Client × Hub)}
    (halike : AttemptsAlike server a b) :
    SameOutcome a b := by
  obtain ⟨hfault, hclient, ⟨journal, hhub⟩, -⟩ := halike
  refine ⟨hfault, hclient, ?_, ?_, ?_⟩ <;> rw [hhub] <;> rfl

theorem SameOutcome.symm {a b : Attempt (Client × Hub)} (hsame : SameOutcome a b) :
    SameOutcome b a :=
  ⟨hsame.fault.symm, hsame.client.symm, hsame.offers.symm, hsame.toServer.symm,
    hsame.delayed.symm⟩

theorem SameOutcome.trans {a b c : Attempt (Client × Hub)} (hfirst : SameOutcome a b)
    (hsecond : SameOutcome b c) :
    SameOutcome a c :=
  ⟨hfirst.fault.trans hsecond.fault, hfirst.client.trans hsecond.client,
    hfirst.offers.trans hsecond.offers, hfirst.toServer.trans hsecond.toServer,
    hfirst.delayed.trans hsecond.delayed⟩

/-- A connected client has its end of a connection to its server, a disconnected one has none,
and what a run comes to depends on nobody but the server. -/
theorem History.undisturbed_by_strangers {c : Client} (hhistory : History server qport c) :
    ((∀ id, c.phase = .connected id →
        ∃ channel, c.channel = some channel ∧ channel.side = .client ∧
          channel.qport = c.qport ∧ channel.remote = c.server) ∧
      (c.phase = .disconnected → c.channel = none)) ∧
    ∀ (h : Hub) (deeds others : List Deed),
      deeds.filter (!·.isForeign c.server) = others.filter (!·.isForeign c.server) →
        SameOutcome (performAll (c, h) deeds) (performAll (c, h) others) := by
  have hsteady := hhistory.steady
  refine ⟨⟨?_, hhistory.tied.disconnected⟩, ?_⟩
  · intro id hid
    obtain ⟨channel, hchannel⟩ := Option.isSome_iff_exists.mp (hhistory.tied.connected id hid)
    have hend := hsteady.channel channel hchannel
    exact ⟨channel, hchannel, hend.side, hend.qport, hend.remote⟩
  · intro h deeds others hsame
    rw [hsteady.server] at hsame
    have hstart := Alike.refl server (c, h)
    have hdeeds := (hstart.performAll hhistory hhistory deeds).sameOutcome
    have hothers := (hstart.performAll hhistory hhistory others).sameOutcome
    rw [hsame] at hdeeds
    exact hdeeds.trans hothers.symm

/-- A forged answer to a request for a connection and a forged message leave a run as it is
without them, before and after the server answers. -/
theorem History.undisturbed_by_forgeries :
    let home : Endpoint := .v4 ⟨#v[10, 0, 0, 1]⟩ 27960
    let stranger : Address := .remote (.v4 ⟨#v[10, 0, 0, 2]⟩ 27960)
    let c := Client.new (.remote home) 7
    let h : Hub := { settings := { qport := 7 }, socket := .bound home }
    let answer : Deed := .meet (.arrive (.remote home) (connectResponse 5).toDatagram)
    let forgedAnswer : Deed := .meet (.arrive stranger (connectResponse 6).toDatagram)
    let forgedMessage : Deed :=
      .meet (.arrive .loopback (Packet.whole none 1 farewell.encode).bytes)
    let deeds : List Deed := [.connect 0, answer, .tick 10 0, .tick 20 0]
    let others : List Deed :=
      [.connect 0, forgedAnswer, answer, .tick 10 0, forgedMessage, .tick 20 0]
    History (.remote home) 7 c ∧
      deeds.filter (!·.isForeign c.server) = others.filter (!·.isForeign c.server) ∧
      (performAll (c, h) others).reached.1.phase = .connected 5 ∧
      SameOutcome (performAll (c, h) deeds) (performAll (c, h) others) := by
  intro home stranger c h answer forgedAnswer forgedMessage deeds others
  have hhistory : History (.remote home) 7 c := .new
  have hsame : deeds.filter (!·.isForeign c.server) =
      others.filter (!·.isForeign c.server) := by
    simp [deeds, others, answer, forgedAnswer, forgedMessage, Deed.isForeign, c, Client.new,
      stranger, home]
  have hconnected : (performAll (c, h) others).reached.1.phase = .connected 5 := by
    decide +kernel
  exact ⟨hhistory, hsame, hconnected,
    hhistory.undisturbed_by_strangers.2 h deeds others hsame⟩

end Client
end DatagramLink

import DatagramLink.Proofs.ClientOnNetwork

/-!
# A server of one client on a network

What a server does when all that it hears comes from one client with one qport.  Its
table never has more than one entry, and that is the one of the last connection it gave
out: every request first removes the entry that the client has, and identifiers only
grow.  All connect responses on the way carry identifiers that were given out.
-/

namespace DatagramLink

theorem serverTells_sequenced (next : Nat) {bytes : ByteArray}
    (hsequenced : isConnectionless bytes = false) :
    ServerTells next bytes := by
  intro hconnectionless
  rw [hsequenced] at hconnectionless
  cases hconnectionless

theorem serverTells_connectResponse {next id : Nat} (hpositive : 1 ≤ id) (hless : id < next) :
    ServerTells next (connectResponse id).toDatagram := by
  intro _ command hcommand _
  rw [Command.ofDatagram?_toDatagram (Command.printable_connectResponse id)] at hcommand
  exact ⟨id, hpositive, hless, (Option.some.inj hcommand).symm⟩

theorem serverTells_full (next : Nat) :
    ServerTells next (printNotice "Server is full").toDatagram := by
  intro _ command hcommand hname
  have hprintable : (printNotice "Server is full").Printable :=
    ⟨by decide, by decide, by decide⟩
  rw [Command.ofDatagram?_toDatagram hprintable] at hcommand
  rw [← Option.some.inj hcommand] at hname
  exact absurd hname (by decide)

/-! ## The table -/

/-- The entry of the connection with the last identifier before `next`. -/
structure Peer.Current (p : Peer) (host : Endpoint) (qport : UInt16) (next : Nat) :
    Prop where
  id : p.id + 1 = next
  qport : p.channel.qport = qport
  reaches : p.channel.Reaches host

section
variable {p : Peer} {host : Endpoint} {qport : UInt16} {next : Nat}

theorem Peer.Current.owns (hcurrent : p.Current host qport next) :
    p.owns (.remote host) qport = true := by
  rw [Peer.owns, hcurrent.qport, hcurrent.reaches.remote]
  simp

theorem Peer.Current.receive (hcurrent : p.Current host qport next) (datagram : ByteArray)
    (now : Instant) :
    (p.receive (.remote host) datagram now).2.Current host qport next := by
  have hreaches := hcurrent.reaches.receive datagram
  have hfollows := p.channel.follows_receive (.remote host) datagram
  cases hreceive : p.channel.receive (.remote host) (.ofBytes datagram) with
  | mk receipt channel =>
      rw [hreceive] at hreaches hfollows
      obtain ⟨remote, incoming, hframe⟩ := hfollows.frame
      simp only at hframe
      have hqport : channel.qport = qport := by
        rw [hframe]
        exact hcurrent.qport
      simp only [Peer.receive, hreceive]
      split
      · exact ⟨hcurrent.id, hqport, hreaches⟩
      · exact ⟨hcurrent.id, hqport, hreaches⟩

theorem Peer.Current.enqueue (hcurrent : p.Current host qport next) (message : ByteArray) :
    (p.enqueue message).2.Current host qport next :=
  ⟨hcurrent.id, hcurrent.qport, hcurrent.reaches⟩

end

namespace Roster

/-- A table with at most one entry, which is the current one. -/
structure Bound (r : Roster) (host : Endpoint) (qport : UInt16) : Prop where
  first : 1 ≤ r.nextId
  single : r.peers.length ≤ 1
  current : ∀ p ∈ r.peers, p.Current host qport r.nextId
  room : ∀ p ∈ r.peers, 1 ≤ r.capacity

variable {r : Roster} {host : Endpoint} {qport : UInt16}

theorem Bound.filter (hbound : r.Bound host qport) (kept : Peer → Bool) :
    Bound { r with peers := r.peers.filter kept } host qport where
  first := hbound.first
  single := Nat.le_trans (List.length_filter_le kept r.peers) hbound.single
  current := fun p hp => hbound.current p (List.mem_filter.mp hp).1
  room := fun p hp => hbound.room p (List.mem_filter.mp hp).1

theorem Bound.empty (hbound : r.Bound host qport) :
    Bound { r with peers := [] } host qport :=
  ⟨hbound.first, Nat.zero_le _, by simp, by simp⟩

theorem Bound.cases (hbound : r.Bound host qport) :
    r.peers = [] ∨ ∃ p, r.peers = [p] ∧ p.Current host qport r.nextId := by
  cases hpeers : r.peers with
  | nil => exact Or.inl rfl
  | cons p rest =>
      have hsingle := hbound.single
      rw [hpeers, List.length_cons] at hsingle
      have hrest : rest = [] := List.length_eq_zero_iff.mp (by omega)
      refine Or.inr ⟨p, by rw [hrest], hbound.current p ?_⟩
      rw [hpeers]
      exact List.mem_cons_self

theorem Bound.modify (hbound : r.Bound host qport) (test : Peer → Bool) {α : Type}
    (step : Peer → α × Peer)
    (hstep : ∀ p, p.Current host qport r.nextId →
      (step p).2.Current host qport r.nextId) :
    (r.modify test step).2.Bound host qport ∧
      (r.modify test step).2.nextId = r.nextId := by
  refine ⟨?_, rfl⟩
  rcases hbound.cases with hnone | ⟨p, hone, hcurrent⟩
  · have hsame : (r.modify test step).2 = { r with peers := [] } := by
      simp only [Roster.modify, hnone, modifyFirst]
    rw [hsame]
    exact hbound.empty
  · have hroom : 1 ≤ r.capacity := by
      apply hbound.room p
      rw [hone]
      exact List.mem_cons_self
    cases htest : test p with
    | true =>
        have hsame : (r.modify test step).2 = { r with peers := [(step p).2] } := by
          simp only [Roster.modify, hone, modifyFirst, htest, if_true]
        rw [hsame]
        refine ⟨hbound.first, Nat.le_refl _, ?_, fun _ _ => hroom⟩
        intro q hq
        rw [List.mem_singleton.mp hq]
        exact hstep p hcurrent
    | false =>
        have hsame : (r.modify test step).2 = { r with peers := [p] } := by
          simp only [Roster.modify, hone, modifyFirst, htest, Bool.false_eq_true, if_false]
        rw [hsame, ← hone]
        exact hbound

theorem Bound.of_modify (hbound : r.Bound host qport) {test : Peer → Bool} {α : Type}
    {step : Peer → α × Peer} {result : Option α} {after : Roster}
    (hmodify : r.modify test step = (result, after))
    (hstep : ∀ p, p.Current host qport r.nextId →
      (step p).2.Current host qport r.nextId) :
    after.Bound host qport ∧ after.nextId = r.nextId := by
  have hkept := hbound.modify test step hstep
  rw [hmodify] at hkept
  exact hkept

theorem Bound.dropExisting (hbound : r.Bound host qport) :
    (Server.dropExisting r (.remote host) qport).2 = { r with peers := [] } := by
  rcases hbound.cases with hnone | ⟨p, hone, hcurrent⟩
  · have hfind : r.find? (.remote host) qport = none := by
      rw [Roster.find?, hnone]
      rfl
    rw [Server.dropExisting, hfind, ← hnone]
  · have hfind : r.find? (.remote host) qport = some p := by
      rw [Roster.find?, hone]
      exact List.find?_cons_of_pos hcurrent.owns
    rw [Server.dropExisting, hfind]
    simp [Roster.remove, hone]

end Roster

/-! ## Answers -/

namespace Server

variable {s : Server} {host : Endpoint} {qport : UInt16} {next : Nat}

/-- An accepted request makes an entry with the next identifier the only one. -/
theorem welcome_of_room (hbound : s.roster.Bound host qport) (hroom : 1 ≤ s.roster.capacity)
    (showDrops : Bool) (now : Instant) :
    ∃ records,
      s.welcome showDrops (.remote host) qport now =
        ({ records, reply := some (connectResponse s.roster.nextId) },
          { s with roster :=
            { s.roster with
              peers :=
                [{ id := s.roster.nextId
                   channel := Roster.newChannel (.remote host) qport showDrops
                   lastSeen := now }]
              nextId := s.roster.nextId + 1 } }) := by
  refine ⟨(s.welcome showDrops (.remote host) qport now).1.records, ?_⟩
  have hdrop := hbound.dropExisting
  cases hexisting : dropExisting s.roster (.remote host) qport with
  | mk records roster =>
      rw [hexisting] at hdrop
      simp only at hdrop
      subst hdrop
      have hfree : ¬ s.roster.capacity ≤ Roster.length { s.roster with peers := [] } :=
        Nat.not_le.mpr hroom
      simp only [welcome, hexisting, Roster.add, if_neg hfree]
      rfl

theorem welcome_of_full (hbound : s.roster.Bound host qport) (hfull : s.roster.capacity = 0)
    (showDrops : Bool) (now : Instant) :
    ∃ records,
      s.welcome showDrops (.remote host) qport now =
        ({ records, reply := some (printNotice "Server is full") },
          { s with roster := { s.roster with peers := [] } }) := by
  refine ⟨(s.welcome showDrops (.remote host) qport now).1.records, ?_⟩
  have hdrop := hbound.dropExisting
  cases hexisting : dropExisting s.roster (.remote host) qport with
  | mk records roster =>
      rw [hexisting] at hdrop
      simp only at hdrop
      subst hdrop
      have hnone : s.roster.capacity ≤ Roster.length { s.roster with peers := [] } :=
        Nat.le_of_eq hfull
      simp only [welcome, hexisting, Roster.add, if_pos hnone]

/-- What handling a datagram leaves: a bound table, and an answer that tells nothing but
identifiers that were given out.  The next identifier is only given out in a response. -/
structure Answered (host : Endpoint) (qport : UInt16) (next : Nat)
    (x : Response × Server) : Prop where
  bound : x.2.roster.Bound host qport
  granted : x.2.roster.nextId = next ∨
    x.2.roster.nextId = next + 1 ∧ x.1.reply = some (connectResponse next)
  tells : ∀ command, x.1.reply = some command →
    ServerTells x.2.roster.nextId command.toDatagram

theorem Answered.grown {x : Response × Server} (hanswered : Answered host qport next x) :
    next ≤ x.2.roster.nextId := by
  rcases hanswered.granted with hsame | ⟨hnext, -⟩
  · exact Nat.le_of_eq hsame.symm
  · rw [hnext]
    exact Nat.le_succ next

theorem answered_welcome (hbound : s.roster.Bound host qport) (showDrops : Bool)
    (now : Instant) :
    Answered host qport s.roster.nextId
      (s.welcome showDrops (.remote host) qport now) := by
  by_cases hfull : s.roster.capacity = 0
  · obtain ⟨records, hwelcome⟩ := welcome_of_full hbound hfull showDrops now
    rw [hwelcome]
    refine ⟨hbound.empty, Or.inl rfl, ?_⟩
    intro command hreply
    cases hreply
    exact serverTells_full _
  · have hroom : 1 ≤ s.roster.capacity := Nat.one_le_iff_ne_zero.mpr hfull
    obtain ⟨records, hwelcome⟩ := welcome_of_room hbound hroom showDrops now
    rw [hwelcome]
    refine ⟨⟨?_, Nat.le_refl _, ?_, fun _ _ => hroom⟩, Or.inr ⟨rfl, rfl⟩, ?_⟩
    · exact Nat.le_succ_of_le hbound.first
    · intro p hp
      rw [List.mem_singleton.mp hp]
      exact ⟨rfl, rfl, rfl, .of_idle Sequence.first_sendable rfl⟩
    · intro command hreply
      cases hreply
      exact serverTells_connectResponse hbound.first (Nat.lt_succ_self _)

theorem answered_leave (hbound : s.roster.Bound host qport) (source : Address) :
    Answered host qport s.roster.nextId (s.handleLeave source) := by
  unfold handleLeave
  split
  · exact ⟨hbound, Or.inl rfl, by simp⟩
  · exact ⟨hbound.filter _, Or.inl rfl, by simp⟩

theorem answered_message (hbound : s.roster.Bound host qport) (client : Nat)
    (message : ByteArray) :
    Answered host qport s.roster.nextId (s.handleMessage client message) := by
  unfold handleMessage
  split
  · next id timestamp payload _ =>
      obtain ⟨hmodified, hsame⟩ := hbound.modify (·.id == client)
        (·.enqueue (Message.encode (.echo id timestamp payload)))
        fun p hcurrent => hcurrent.enqueue _
      refine ⟨hmodified, Or.inl hsame, ?_⟩
      intro command hreply
      cases hreply
  · exact ⟨hbound.filter _, Or.inl rfl, by simp⟩
  · exact ⟨hbound, Or.inl rfl, by simp⟩
  · exact ⟨hbound, Or.inl rfl, by simp⟩

theorem answered_sequenced (hbound : s.roster.Bound host qport) (other : UInt16)
    (datagram : ByteArray) (now : Instant) :
    Answered host qport s.roster.nextId
      (s.handleSequenced (.remote host) other datagram now) := by
  unfold handleSequenced
  split
  · next heq =>
      obtain ⟨hmodified, hsame⟩ :=
        hbound.of_modify heq fun p hcurrent => hcurrent.receive datagram now
      exact ⟨hmodified, Or.inl hsame, by simp⟩
  · next client receipt roster heq =>
      obtain ⟨hmodified, hsame⟩ :=
        hbound.of_modify heq fun p hcurrent => hcurrent.receive datagram now
      split
      · exact ⟨hmodified, Or.inl hsame, by simp⟩
      · next message _ =>
          have hanswered := answered_message (s := { s with roster }) hmodified client
            message
          rw [hsame] at hanswered
          exact ⟨hanswered.bound, hanswered.granted, hanswered.tells⟩

theorem answered_handle (hbound : s.roster.Bound host qport) {bytes : ByteArray}
    (hheard : ClientTells qport bytes) (showDrops : Bool) (now : Instant) :
    Answered host qport s.roster.nextId
      (s.handle showDrops (.remote host) bytes now) := by
  unfold handle
  cases hconnectionless : isConnectionless bytes with
  | true =>
      rw [if_pos rfl]
      cases hcommand : Command.ofDatagram? bytes with
      | none => exact ⟨hbound, Or.inl rfl, by simp⟩
      | some command =>
          have hanswered : Answered host qport s.roster.nextId
              (s.handleCommand showDrops (.remote host) command now) := by
            rcases hheard hconnectionless command hcommand with rfl | rfl
            · rw [handleCommand_connectRequest]
              exact answered_welcome hbound showDrops now
            · exact answered_leave hbound (.remote host)
          exact ⟨hanswered.bound, hanswered.granted, hanswered.tells⟩
  | false =>
      rw [if_neg (by simp)]
      split
      · exact ⟨hbound, Or.inl rfl, by simp⟩
      · exact answered_sequenced hbound _ bytes now

/-! ## Frames -/

/-- A server and its hub, when all that they hear comes from one client.  At least the
identifiers below `next` were given out. -/
structure Online (host : Endpoint) (qport : UInt16) (next : Nat) (x : Server × Hub) :
    Prop where
  bound : x.1.roster.Bound host qport
  grown : next ≤ x.1.roster.nextId
  traffic : x.2.Traffic .server (ServerTells x.1.roster.nextId)
    fun source bytes => source = host ∧ ClientTells qport bytes

variable {h : Hub}

theorem Online.serveDatagram (honline : Online host qport next (s, h)) {bytes : ByteArray}
    (hheard : ClientTells qport bytes) (now : Instant) :
    Online host qport next (s.serveDatagram h (.remote host) bytes now).reached := by
  have hanswered := answered_handle honline.bound hheard h.settings.showDrops now
  unfold Server.serveDatagram
  cases hhandle : s.handle h.settings.showDrops (.remote host) bytes now with
  | mk response after =>
      rw [hhandle] at hanswered
      have htraffic : h.Traffic .server (ServerTells after.roster.nextId)
          fun source bytes => source = host ∧ ClientTells qport bytes :=
        honline.traffic.mono (fun _ htells => htells.mono hanswered.grown) fun _ _ => id
      refine ⟨hanswered.bound, Nat.le_trans honline.grown hanswered.grown, ?_⟩
      simp only [Attempt.map]
      unfold respond
      cases hreply : response.reply with
      | none => exact htraffic.report _
      | some command =>
          exact (htraffic.report _).send (hanswered.tells command hreply) .server host now

theorem Online.receiveAll (honline : Online host qport next (s, h)) (now : Instant) :
    Online host qport next (s.receiveAll h now).reached := by
  refine receiveAll_reached ?_ ?_ honline
  · intro s h rest records honline hpoll
    obtain ⟨hrest, -⟩ := honline.traffic.poll
    rw [hpoll] at hrest
    exact ⟨honline.bound, honline.grown, hrest.report records⟩
  · intro s h rest source bytes records honline hpoll
    obtain ⟨hrest, hfound⟩ := honline.traffic.poll
    rw [hpoll] at hrest hfound
    obtain ⟨endpoint, rfl, rfl, hheard⟩ := hfound source bytes rfl
    have hleft : Online endpoint qport next (s, rest.report records) :=
      ⟨honline.bound, honline.grown, hrest.report records⟩
    exact hleft.serveDatagram hheard now

theorem traffic_pumpPeers (budget : Nat) (now : Instant) {peers : List Peer}
    (hcurrent : ∀ p ∈ peers, p.Current host qport next)
    (htraffic : h.Traffic .server (ServerTells next)
      fun source bytes => source = host ∧ ClientTells qport bytes) :
    (Roster.pumpPeers budget now peers h).reached.1.length = peers.length ∧
      (∀ p ∈ (Roster.pumpPeers budget now peers h).reached.1,
        p.Current host qport next) ∧
      (Roster.pumpPeers budget now peers h).reached.2.Traffic .server (ServerTells next)
        fun source bytes => source = host ∧ ClientTells qport bytes := by
  induction peers generalizing h with
  | nil => exact ⟨rfl, hcurrent, htraffic⟩
  | cons p peers ih =>
      have hfirst := hcurrent p List.mem_cons_self
      have hothers : ∀ q ∈ peers, q.Current host qport next :=
        fun q hq => hcurrent q (List.mem_cons_of_mem _ hq)
      obtain ⟨⟨outgoing, hframe⟩, hready, hshipped⟩ := hfirst.reaches.ship htraffic
        (fun bytes => serverTells_sequenced next) p.queue budget now
      have hpumped : (p.pump h budget now).reached.1.Current host qport next := by
        refine ⟨hfirst.id, ?_, hready⟩
        change (p.channel.ship h p.queue budget now).reached.channel.qport = qport
        rw [hframe]
        exact hfirst.qport
      have hsent : (p.pump h budget now).reached.2.Traffic .server (ServerTells next)
          fun source bytes => source = host ∧ ClientTells qport bytes := hshipped
      rw [Roster.pumpPeers]
      cases hpump : p.pump h budget now with
      | mk reached fault =>
          obtain ⟨q, hub⟩ := reached
          rw [hpump] at hpumped hsent
          cases fault with
          | some fault =>
              refine ⟨rfl, ?_, hsent⟩
              intro other hother
              rcases List.mem_cons.mp hother with rfl | hother
              · exact hpumped
              · exact hothers other hother
          | none =>
              obtain ⟨hlength, hlater, hlast⟩ := ih hothers hsent
              refine ⟨congrArg Nat.succ hlength, ?_, hlast⟩
              intro other hother
              rcases List.mem_cons.mp hother with rfl | hother
              · exact hpumped
              · exact hlater other hother

theorem Online.pump (honline : Online host qport next (s, h)) (now : Instant) :
    Online host qport next (s.pump h now).reached := by
  obtain ⟨hlength, hcurrent, htraffic⟩ := traffic_pumpPeers s.fragmentsPerTick now
    honline.bound.current honline.traffic
  have hbound := honline.bound
  refine ⟨⟨hbound.first, ?_, hcurrent, ?_⟩, honline.grown, htraffic⟩
  · change (Roster.pumpPeers s.fragmentsPerTick now s.roster.peers h).reached.1.length ≤ 1
    rw [hlength]
    exact hbound.single
  · intro p hp
    have hsome : s.roster.peers ≠ [] := by
      intro hnone
      rw [hnone] at hlength
      have hempty := List.length_eq_zero_iff.mp hlength
      change p ∈ (Roster.pumpPeers s.fragmentsPerTick now s.roster.peers h).reached.1 at hp
      rw [hnone, hempty] at hp
      cases hp
    obtain ⟨q, hq⟩ := List.exists_mem_of_ne_nil _ hsome
    exact hbound.room q hq

theorem Online.tick (honline : Online host qport next (s, h)) (now : Instant)
    (checked : Nat → Instant) :
    Online host qport next (s.tick h now checked).reached := by
  unfold Server.tick
  apply Attempt.andThen_reached
  · apply Attempt.andThen_reached (honline.receiveAll now)
    intro x hx
    exact hx.pump now
  · intro x hx
    exact ⟨hx.bound.filter _, hx.grown, (hx.traffic.report _).flush now⟩

end Server
end DatagramLink

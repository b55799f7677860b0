import DatagramLink.Proofs.ChannelCounts

/-!
# What a server counts

All that a server counts goes up by no more than one with each datagram that it is given: its
identifiers, its echoes and the counts of its channels.  Its queues hold echoes of what was in
memory.  So over a hub without simulated loss and delay a server asks for nothing that a machine
does not have, whatever it is given, until the number of datagrams does not fit into 32 bits.
-/

namespace DatagramLink

/-- What tells the kind of a datagram is only looked at where there is enough of it. -/
theorem kind_fits (datagram : ByteArray) : KindFits datagram where
  marker := by
    intro hconnectionless
    simp only [isConnectionless, Bool.and_eq_true, decide_eq_true_eq] at hconnectionless
    exact hconnectionless.1
  qport := by
    intro qport hqport
    unfold peekQport at hqport
    split at hqport
    · cases hqport
    · next henough =>
        rw [Bool.or_eq_true, decide_eq_true_eq, not_or] at henough
        exact Nat.not_lt.mp henough.1

namespace Server

/-! ## One datagram -/

/-- A server that was given the datagrams `heard`. -/
structure Counted (heard : List ByteArray) (s : Server) : Prop where
  served : ∃ hostname capacity events, Served hostname capacity heard events s
  sizes : ∀ datagram ∈ heard, datagram.size ≤ maxPayloadSize
  identifiers : s.roster.nextId ≤ heard.length + 1
  echoed : s.echoed ≤ heard.length
  channels : ∀ p ∈ s.roster.peers, p.channel.Counted heard.length

variable {heard : List ByteArray} {s : Server} {source : Address} {datagram : ByteArray}

theorem counted_new (hostname : String) (capacity : Nat) :
    (Server.new hostname capacity).Counted [] where
  served := ⟨hostname, capacity, _, .new⟩
  sizes := by simp
  identifiers := Nat.le_refl _
  echoed := Nat.le_refl _
  channels := by
    intro p hp
    cases hp

theorem Counted.withFragmentsPerTick (hcounted : s.Counted heard) (count : Nat) :
    (s.withFragmentsPerTick count).Counted heard := by
  obtain ⟨hostname, capacity, events, hserved⟩ := hcounted.served
  exact ⟨⟨_, _, _, hserved.withFragmentsPerTick count⟩, hcounted.sizes,
    hcounted.identifiers, hcounted.echoed, hcounted.channels⟩

theorem Counted.withClientTimeout (hcounted : s.Counted heard) (timeout : Nat) :
    (s.withClientTimeout timeout).Counted heard := by
  obtain ⟨hostname, capacity, events, hserved⟩ := hcounted.served
  exact ⟨⟨_, _, _, hserved.withClientTimeout timeout⟩, hcounted.sizes,
    hcounted.identifiers, hcounted.echoed, hcounted.channels⟩

theorem Counted.balanced (hcounted : s.Counted heard) :
    ∃ events, Balanced maxPayloadSize events s := by
  obtain ⟨hostname, capacity, events, hserved⟩ := hcounted.served
  exact ⟨events, hserved.balanced (by decide) (by decide) hcounted.sizes⟩

theorem Counted.sound (hcounted : s.Counted heard) : s.roster.Sound := by
  obtain ⟨hostname, capacity, events, hserved⟩ := hcounted.served
  exact hserved.sound

/-- What waits is no longer than the messages that it answers. -/
theorem Counted.sizable (hcounted : s.Counted heard) {p : Peer} (hp : p ∈ s.roster.peers) :
    ∀ message ∈ p.queue, Sizable message := by
  intro message hmessage
  obtain ⟨events, hbalanced⟩ := hcounted.balanced
  have hsize := hbalanced.reply_size_le (by decide) hp hmessage
  have hlimit : maxPayloadSize = 2 ^ 63 - 1 := rfl
  unfold Sizable maxHeaderSize wordLimit
  omega

theorem channel_of_mem_handle (hsound : s.roster.Sound) {showDrops : Bool} {now : Instant}
    {q : Peer} (hq : q ∈ (s.handle showDrops source datagram now).2.roster.peers) :
    (∃ qport, q.channel = Roster.newChannel source qport showDrops) ∨
      ∃ p ∈ s.roster.peers, q.channel = p.channel ∨
        q.channel = (p.channel.receive source (.ofBytes datagram)).2 := by
  obtain ⟨reply, after, -, hafter, hhandles⟩ := handles hsound showDrops source datagram now
  rw [hafter] at hq
  have hkept : ∀ {r : Peer}, r ∈ s.roster.peers → r.channel = q.channel →
      ∃ p ∈ s.roster.peers, q.channel = p.channel ∨
        q.channel = (p.channel.receive source (.ofBytes datagram)).2 :=
    fun hr hchannel => ⟨_, hr, Or.inl hchannel.symm⟩
  have hreceived : ∀ p : Peer, (p.receive source datagram now).2.channel =
      (p.channel.receive source (.ofBytes datagram)).2 := by
    intro p
    unfold Peer.receive
    split
    next receipt channel heq =>
      split <;> exact (congrArg Prod.snd heq).symm
  -- one client takes the datagram, the others keep their channels
  have hreplaced : ∀ {before after : List Peer} {p r : Peer},
      s.roster.peers = before ++ p :: after →
      q ∈ before ++ r :: after →
      r.channel = (p.channel.receive source (.ofBytes datagram)).2 →
      ∃ p ∈ s.roster.peers, q.channel = p.channel ∨
        q.channel = (p.channel.receive source (.ofBytes datagram)).2 := by
    intro before after p r hpeers hmem hchannel
    rcases List.mem_append.mp hmem with hbefore | hrest
    · exact hkept (by rw [hpeers]; exact List.mem_append_left _ hbefore) rfl
    · rcases List.mem_cons.mp hrest with rfl | hafter
      · exact ⟨p, by simp [hpeers], Or.inr hchannel⟩
      · exact hkept (by rw [hpeers]; simp [hafter]) rfl
  have hremoved : ∀ {before after : List Peer} {p : Peer},
      s.roster.peers = before ++ p :: after → q ∈ before ++ after →
      q ∈ s.roster.peers := by
    intro before after p hpeers hmem
    rw [hpeers]
    exact ((List.sublist_cons_self p after).append_left before).subset hmem
  cases hhandles with
  | unmoved hno => exact Or.inr (hkept hq rfl)
  | @welcomed command qport hconnectionless hcommand hname harguments hroom =>
      rcases List.mem_append.mp hq with hold | hnew
      · exact Or.inr (hkept (List.mem_filter.mp hold).1 rfl)
      · rw [List.mem_singleton.mp hnew]
        exact Or.inl ⟨qport, rfl⟩
  | left hconnectionless hcommand hname hpeers hat =>
      exact Or.inr (hkept (hremoved hpeers hq) rfl)
  | heard hsequenced hqport hpeers howns =>
      exact Or.inr (hreplaced hpeers hq (hreceived _))
  | probed hsequenced hqport hpeers howns hmessage hdecode =>
      exact Or.inr (hreplaced hpeers hq (hreceived _))
  | parted hsequenced hqport hpeers howns hmessage hdecode =>
      exact Or.inr (hkept (hremoved hpeers hq) rfl)

theorem numbers_handle (hsound : s.roster.Sound) (showDrops : Bool) (source : Address)
    (datagram : ByteArray) (now : Instant) :
    (s.handle showDrops source datagram now).2.roster.nextId ≤ s.roster.nextId + 1 ∧
      (s.handle showDrops source datagram now).2.echoed ≤ s.echoed + 1 := by
  obtain ⟨reply, after, -, hafter, hhandles⟩ := handles hsound showDrops source datagram now
  rw [hafter]
  cases hhandles with
  | unmoved => exact ⟨Nat.le_succ _, Nat.le_succ _⟩
  | welcomed => exact ⟨Nat.le_refl _, Nat.le_succ _⟩
  | left => exact ⟨Nat.le_succ _, Nat.le_succ _⟩
  | heard => exact ⟨Nat.le_succ _, Nat.le_succ _⟩
  | probed => exact ⟨Nat.le_succ _, Nat.le_refl _⟩
  | parted => exact ⟨Nat.le_succ _, Nat.le_succ _⟩

theorem Counted.handle (hcounted : s.Counted heard) (showDrops : Bool) (source : Address)
    (hsize : datagram.size ≤ maxPayloadSize) (now : Instant) :
    (s.handle showDrops source datagram now).2.Counted (heard ++ [datagram]) := by
  have hone : (heard ++ [datagram]).length = heard.length + 1 := by simp
  have hnumbers := numbers_handle hcounted.sound showDrops source datagram now
  have hidentifiers := hcounted.identifiers
  have hechoed := hcounted.echoed
  refine ⟨?_, ?_, by omega, by omega, ?_⟩
  · obtain ⟨hostname, capacity, events, hserved⟩ := hcounted.served
    exact ⟨_, _, _, hserved.handle showDrops source datagram now⟩
  · intro d hd
    rcases List.mem_append.mp hd with hold | hnew
    · exact hcounted.sizes d hold
    · rw [List.mem_singleton.mp hnew]
      exact hsize
  · intro q hq
    rw [hone]
    rcases channel_of_mem_handle hcounted.sound hq with ⟨qport, hnew⟩ | ⟨p, hp, hold | hheard⟩
    · rw [hnew]
      exact (Channel.counted_new .server source qport showDrops).mono (Nat.zero_le _)
    · rw [hold]
      exact (hcounted.channels p hp).mono (Nat.le_succ _)
    · rw [hheard]
      exact (hcounted.channels p hp).receive source datagram

theorem Counted.handle_fits (hcounted : s.Counted heard)
    (hsize : datagram.size ≤ maxPayloadSize) (hfew : heard.length + 2 < halfWordLimit)
    (source : Address) :
    s.HandleFits source datagram := by
  have hlimit := lt_wordLimit hfew
  refine ⟨kind_fits datagram, ?_, ?_, fun p hp => ?_, fun p hp message hcompletes => ?_⟩
  · have hidentifiers := hcounted.identifiers
    omega
  · have hechoed := hcounted.echoed
    omega
  · exact (hcounted.channels p hp).receive_fits (Nat.lt_of_succ_lt hfew) source datagram
  · obtain ⟨events, hbalanced⟩ := hcounted.balanced
    obtain ⟨p', hp', hid, hmessage⟩ := exists_of_completes? hcompletes
    have hbound := p'.channel.size_le_of_delivered source datagram hmessage
    have hlarge : maxMessageSize ≤ maxPayloadSize := by decide
    exact hbalanced.step_answered (by decide) hp (by omega)

theorem fault_serveDatagram (s : Server) {h : Hub} (hdirect : h.settings.Direct)
    (source : Address) (datagram : ByteArray) (now : Instant) :
    (s.serveDatagram h source datagram now).fault = none := by
  change (respond h source _ now).fault = none
  unfold respond
  split
  · rfl
  · exact Hub.fault_send (h := h.report _) hdirect .server _ _ now

theorem Counted.serve_fits (hcounted : s.Counted heard) {h : Hub}
    (hdirect : h.settings.Direct) (hsize : datagram.size ≤ maxPayloadSize)
    (hfew : heard.length + 2 < halfWordLimit) (source : Address) (now : Instant)
    (hsent : (s.serveDatagram h source datagram now).reached.2.traffic < wordLimit) :
    s.ServeFits now h source datagram where
  handle := hcounted.handle_fits hsize hfew source
  reply := by
    intro response after command hhandle hreply
    refine Hub.send_fits (h := h.report response.records) hdirect ?_
    simp only [serveDatagram, hhandle, respond, hreply] at hsent
    exact hsent
  done := fault_serveDatagram s hdirect source datagram now

/-! ## Frames -/

/-- A server and its hub, after `arrived` datagrams at the socket. -/
structure Ready (arrived : Nat) (heard : List ByteArray) (x : Server × Hub) : Prop where
  server : x.1.Counted heard
  hub : x.2.Fed .server arrived heard.length
  short : ∀ bytes ∈ (x.2.ringOf .server).unread, bytes.size ≤ maxPayloadSize

variable {arrived : Nat} {h : Hub} {now : Instant}

theorem Ready.emits (hready : Ready arrived heard (s, h)) {g : Hub}
    (hemits : Hub.Emits .server h g) :
    Ready arrived heard (s, g) := by
  refine ⟨hready.server, hready.hub.emits hemits, ?_⟩
  rw [hemits.sameInbound.ring]
  exact hready.short

/-- Answering one datagram of a list that is short enough. -/
theorem Ready.serve (hready : Ready arrived heard (s, h)) {rest : Hub} {records : List Record}
    (hpoll : h.poll .server = (⟨some (source, datagram), records⟩, rest)) :
    ∃ served left, s.serveDatagram (rest.report records) source datagram now =
        .done (served, left) ∧
      Ready arrived (heard ++ [datagram]) (served, left) ∧ h.traffic ≤ left.traffic ∧
      (arrived + left.traffic + 1 < halfWordLimit →
        s.ServeFits now (rest.report records) source datagram) := by
  have hhub : h.Fed .server arrived heard.length := hready.hub
  obtain ⟨hfed, htraffic⟩ := hhub.poll
  obtain ⟨hleft, hfound⟩ := h.poll_spec .server
  rw [hpoll] at hfed htraffic hleft hfound
  have hsize : datagram.size ≤ maxPayloadSize := by
    have hbuffer : receiveBufferSize ≤ maxPayloadSize := by decide
    rcases hfound source datagram rfl with hring | hsocket
    · exact hready.short datagram hring
    · exact (Nat.le_of_lt hsocket).trans hbuffer
  have hlength : (heard ++ [datagram]).length = heard.length + 1 := by simp
  have hfedReport : (rest.report records).Fed .server arrived (heard ++ [datagram]).length := by
    rw [hlength]
    exact hfed.emits (.report records .nothing)
  have hemits := emits_serveDatagram s (rest.report records) source datagram now
  have hserver : (s.serveDatagram (rest.report records) source datagram now).reached.1.Counted
      (heard ++ [datagram]) := hready.server.handle _ source hsize now
  obtain ⟨served, left, hserve⟩ : ∃ served left,
      s.serveDatagram (rest.report records) source datagram now = .done (served, left) :=
    ⟨_, _, Attempt.eq_done (fault_serveDatagram s hfedReport.direct source datagram now)⟩
  have hserves := fun hfew =>
    hready.server.serve_fits hfedReport.direct hsize hfew source now
  rw [hserve] at hemits hserver hserves
  have hring : ((rest.report records).ringOf .server).unread ⊆ (h.ringOf .server).unread := by
    rw [Hub.ringOf_report]
    exact hleft
  have hbefore : Ready arrived (heard ++ [datagram]) (served, rest.report records) :=
    ⟨hserver, hfedReport, fun bytes hbytes => hready.short bytes (hring hbytes)⟩
  have hafter : Ready arrived (heard ++ [datagram]) (served, left) := hbefore.emits hemits
  have hheard : (heard ++ [datagram]).length ≤ arrived + left.traffic := hafter.hub.heard_le
  refine ⟨served, left, hserve, hafter,
    (Nat.le_of_eq htraffic.symm).trans hemits.traffic_le, fun hfew => ?_⟩
  exact hserves (by omega) (lt_wordLimit (show left.traffic < halfWordLimit by omega))

theorem Ready.receiveAll (hready : Ready arrived heard (s, h)) (now : Instant) :
    ∃ heard' after left, s.receiveAll h now = .done (after, left) ∧
      Ready arrived heard' (after, left) ∧ h.traffic ≤ left.traffic ∧
      (arrived + left.traffic + 1 < halfWordLimit → s.DrainFits now h) := by
  induction hwaiting : h.waiting .server using Nat.strong_induction_on
    generalizing s h heard with
  | _ waiting ih =>
      have hhub : h.Fed .server arrived heard.length := hready.hub
      have hpollFits : ∀ {limit : Nat}, h.traffic ≤ limit →
          arrived + limit + 1 < halfWordLimit → h.PollFits .server := by
        intro limit hle hfew
        exact hhub.poll_fits (lt_wordLimit (by omega))
      obtain ⟨hfed, htraffic⟩ := hhub.poll
      have hleft := (h.poll_spec .server).1
      cases hpoll : h.poll .server with
      | mk poll rest =>
          obtain ⟨found, records⟩ := poll
          cases found with
          | none =>
              rw [hpoll] at hfed htraffic hleft
              have hrest : Ready arrived heard (s, rest) :=
                ⟨hready.server, hfed, fun bytes hbytes => hready.short bytes (hleft hbytes)⟩
              refine ⟨heard, s, rest.report records, receiveAll_of_none hpoll,
                hrest.emits (.report records .nothing), Nat.le_of_eq htraffic.symm, ?_⟩
              intro hfew
              exact .empty (hpollFits (Nat.le_of_eq htraffic.symm) hfew) (by rw [hpoll])
          | some found =>
              obtain ⟨source, datagram⟩ := found
              obtain ⟨served, left, hserve, hnext, hgrown, hserves⟩ := hready.serve hpoll
              have hless := waiting_served_lt hpoll hserve
              obtain ⟨heard', after, last, hrest, hlast, hmore, hdrain⟩ :=
                ih _ (hwaiting ▸ hless) hnext rfl
              refine ⟨heard', after, last, (receiveAll_of_some hpoll hserve).trans hrest, hlast,
                hgrown.trans hmore, fun hfew => ?_⟩
              exact .next (hpollFits (hgrown.trans hmore) hfew) hpoll (hserves (by omega)) hserve
                (hdrain hfew)

/-- Clients send their shares one after the other. -/
theorem pumpPeers_spec {heard : Nat} (budget : Nat) (now : Instant) {peers : List Peer}
    (hpeers : ∀ p ∈ peers, p.channel.Counted heard ∧ p.channel.side = .server ∧
      ∀ message ∈ p.queue, Sizable message)
    (hdirect : h.settings.Direct) :
    (Roster.pumpPeers budget now peers h).fault = none ∧
      (∀ q ∈ (Roster.pumpPeers budget now peers h).reached.1, q.channel.Counted heard) ∧
      Hub.Emits .server h (Roster.pumpPeers budget now peers h).reached.2 ∧
      ((Roster.pumpPeers budget now peers h).reached.2.traffic < wordLimit →
        SharesFit now budget peers h) := by
  induction peers generalizing h with
  | nil => exact ⟨rfl, by simp [Roster.pumpPeers, Attempt.done], .nothing, fun _ => .nobody⟩
  | cons p peers ih =>
      obtain ⟨hcounted, hside, hqueue⟩ := hpeers p List.mem_cons_self
      obtain ⟨hdone, hkept, hemits, hship⟩ := hcounted.ship hdirect hqueue budget now
      rw [hside] at hemits
      have hfirst : Hub.Emits .server h (p.pump h budget now).reached.2 := hemits
      have hdirect' : (p.pump h budget now).reached.2.settings.Direct := by
        rw [hfirst.sameInbound.settings]
        exact hdirect
      obtain ⟨hrestDone, hrestKept, hrestEmits, hrestFits⟩ :=
        ih (fun q hq => hpeers q (List.mem_cons_of_mem _ hq)) hdirect'
      have hall : Roster.pumpPeers budget now (p :: peers) h =
          (Roster.pumpPeers budget now peers (p.pump h budget now).reached.2).map fun x =>
            ((p.pump h budget now).reached.1 :: x.1, x.2) := by
        have hpump : (p.pump h budget now).fault = none := hdone
        rw [Roster.pumpPeers, Attempt.eq_done hpump]
        rfl
      rw [hall]
      refine ⟨hrestDone, ?_, hfirst.trans hrestEmits, fun hfew => ?_⟩
      · intro q hq
        rcases List.mem_cons.mp hq with rfl | hlater
        · exact hkept
        · exact hrestKept q hlater
      · have hfirstFew : (p.channel.ship h p.queue budget now).reached.hub.traffic < wordLimit :=
          Nat.lt_of_le_of_lt hrestEmits.traffic_le hfew
        exact .next (hship hfirstFew) (fun waiting _ => Outbox.pop?_ofQueue waiting)
          (hrestFits hfew)

theorem Ready.pump (hready : Ready arrived heard (s, h)) (now : Instant) :
    (s.pump h now).fault = none ∧ Ready arrived heard (s.pump h now).reached ∧
      h.traffic ≤ (s.pump h now).reached.2.traffic ∧
      (arrived + (s.pump h now).reached.2.traffic + 1 < halfWordLimit →
        SharesFit now s.fragmentsPerTick s.roster.peers h) := by
  have hcounted := hready.server
  have hsound := hcounted.sound
  obtain ⟨hdone, hkept, hemits, hfits⟩ := pumpPeers_spec s.fragmentsPerTick now
    (fun p hp => ⟨hcounted.channels p hp,
      (hsound.issued p.identity (List.mem_map_of_mem hp)).2.2, hcounted.sizable hp⟩)
    hready.hub.direct
  have hserver : (s.pump h now).reached.1.Counted heard := by
    obtain ⟨hostname, capacity, events, hserved⟩ := hcounted.served
    exact ⟨⟨_, _, _, hserved.pump h now⟩, hcounted.sizes, hcounted.identifiers,
      hcounted.echoed, hkept⟩
  have hsent : Hub.Emits .server h (s.pump h now).reached.2 := hemits
  have hafter : Ready arrived heard ((s.pump h now).reached.1, h) :=
    ⟨hserver, hready.hub, hready.short⟩
  refine ⟨hdone, hafter.emits hsent, hsent.traffic_le, fun hfew => hfits ?_⟩
  exact lt_wordLimit (show (s.pump h now).reached.2.traffic < halfWordLimit by omega)

theorem Counted.dropSilent (hcounted : s.Counted heard) (h : Hub) (checked : Nat → Instant) :
    (s.dropSilent h checked).1.Counted heard := by
  obtain ⟨hostname, capacity, events, hserved⟩ := hcounted.served
  exact ⟨⟨_, _, _, hserved.dropSilent h checked⟩, hcounted.sizes, hcounted.identifiers,
    hcounted.echoed, fun p hp => hcounted.channels p (List.mem_filter.mp hp).1⟩

theorem Counted.reorder (hcounted : s.Counted heard) (rank : Nat → Nat) :
    (s.reorder rank).Counted heard := by
  have hperm : (s.reorder rank).roster.peers.Perm s.roster.peers := List.mergeSort_perm _ _
  obtain ⟨hostname, capacity, events, hserved⟩ := hcounted.served
  exact ⟨⟨_, _, _, hserved.reorder hperm⟩, hcounted.sizes, hcounted.identifiers,
    hcounted.echoed, fun p hp => hcounted.channels p (hperm.mem_iff.mp hp)⟩

/-- A frame goes through, and it asks for nothing that there is not. -/
theorem Ready.tick (hready : Ready arrived heard (s, h)) (now : Instant)
    (checked : Nat → Instant) :
    ∃ heard' after left, s.tick h now checked = .done (after, left) ∧
      Ready arrived heard' (after, left) ∧ h.traffic ≤ left.traffic ∧
      (arrived + left.traffic + 1 < halfWordLimit → s.TickFits now h checked) := by
  obtain ⟨heard', after, left, hreceive, hreceived, hgrown, hdrain⟩ := hready.receiveAll now
  obtain ⟨hpumped, hready', hmore, hshares⟩ := hreceived.pump now
  cases hpump : after.pump left now with
  | mk reached fault =>
      obtain ⟨sent, hub⟩ := reached
      rw [hpump] at hpumped hready' hmore hshares
      cases hpumped
      have hemits : Hub.Emits .server hub ((sent.dropSilent hub checked).2.flush now).2 :=
        (Hub.Emits.report _ .nothing).trans (Hub.emits_flush .server _ now)
      have hquiet : Ready arrived heard' ((sent.dropSilent hub checked).1, hub) :=
        ⟨hready'.server.dropSilent hub checked, hready'.hub, hready'.short⟩
      have htick : s.tick h now checked =
          .done ((sent.dropSilent hub checked).1,
            ((sent.dropSilent hub checked).2.flush now).2) := by
        simp only [Server.tick, hreceive, Attempt.done_andThen, hpump]
        rfl
      have hlast := hemits.traffic_le
      refine ⟨heard', _, _, htick, hquiet.emits hemits, (hgrown.trans hmore).trans hlast, ?_⟩
      intro hfew
      simp only at hmore hshares
      refine ⟨hdrain (by omega), fun after' left' hother => ?_, by rw [htick]; rfl⟩
      rw [hreceive] at hother
      cases hother
      exact hshares (by omega)

/-! ## Runs -/

/-- How many datagrams come to the socket. -/
def Deed.arrivals : Deed → Nat
  | .meet incident => incident.arrivals
  | .tick _ _ | .reorder _ => 0

theorem Ready.meet (hready : Ready arrived heard (s, h)) {incident : Hub.Incident}
    (hshort : ∀ source bytes, incident = .arrive source bytes → bytes.size ≤ maxPayloadSize) :
    Ready (arrived + incident.arrivals) heard (s, h.meet .server incident) ∧
      h.traffic ≤ (h.meet .server incident).traffic := by
  obtain ⟨hfed, hgrown⟩ := hready.hub.meet incident
  refine ⟨⟨hready.server, hfed, ?_⟩, hgrown⟩
  cases incident with
  | arrive source bytes =>
      cases source with
      | remote endpoint => exact hready.short
      | loopback =>
          intro other hother
          change other ∈ ((h.ringOf .server).push bytes).unread at hother
          rw [Ring.unread_push (hready.hub.behind .server)] at hother
          rcases List.mem_append.mp (List.mem_of_mem_drop hother) with hold | hnew
          · exact hready.short other hold
          · rw [List.mem_singleton.mp hnew]
            exact hshort .loopback bytes rfl
  | failReceive reason => exact hready.short
  | collect => exact hready.short

theorem Ready.perform {x : Server × Hub} (hready : Ready arrived heard x) {deed : Deed}
    (hshort : ∀ source bytes, deed = .meet (.arrive source bytes) →
      bytes.size ≤ maxPayloadSize) :
    ∃ heard' after, Server.perform x deed = .done after ∧
      Ready (arrived + deed.arrivals) heard' after ∧ x.2.traffic ≤ after.2.traffic ∧
      (arrived + after.2.traffic + 1 < halfWordLimit → DeedFits x deed) := by
  obtain ⟨s, h⟩ := x
  cases deed with
  | tick now checked =>
      obtain ⟨heard', after, left, htick, hafter, hgrown, hfits⟩ := hready.tick now checked
      exact ⟨heard', (after, left), htick, hafter, hgrown, hfits⟩
  | reorder rank =>
      have hafter : Ready arrived heard (s.reorder rank, h) :=
        ⟨hready.server.reorder rank, hready.hub, hready.short⟩
      exact ⟨heard, _, rfl, hafter, Nat.le_refl _, fun _ => trivial⟩
  | meet incident =>
      obtain ⟨hafter, hgrown⟩ :=
        hready.meet fun source bytes heq => hshort source bytes (congrArg Deed.meet heq)
      exact ⟨heard, _, rfl, hafter, hgrown, fun _ => trivial⟩

/-- A run goes through, and as long as the datagrams can be counted in 32 bits, it asks for
nothing that there is not. -/
theorem Ready.performAll {x : Server × Hub} (hready : Ready arrived heard x)
    {deeds : List Deed}
    (hshort : ∀ source bytes, Deed.meet (.arrive source bytes) ∈ deeds →
      bytes.size ≤ maxPayloadSize) :
    ∃ after, Server.performAll x deeds = .done after ∧ x.2.traffic ≤ after.2.traffic ∧
      (arrived + (deeds.map Deed.arrivals).sum + after.2.traffic + 1 < halfWordLimit →
        RunFits x deeds) := by
  induction deeds generalizing x arrived heard with
  | nil => exact ⟨x, rfl, Nat.le_refl _, fun _ => trivial⟩
  | cons deed deeds ih =>
      obtain ⟨heard', next, hperform, hnext, hgrown, hdeed⟩ :=
        hready.perform fun source bytes heq =>
          hshort source bytes (by rw [← heq]; exact List.mem_cons_self)
      obtain ⟨after, hrest, hmore, hfits⟩ :=
        ih hnext fun source bytes hmem => hshort source bytes (List.mem_cons_of_mem _ hmem)
      refine ⟨after, ?_, hgrown.trans hmore, fun hfew => ?_⟩
      · rw [Server.performAll, Attempt.forEach, hperform, Attempt.done_andThen]
        exact hrest
      · rw [List.map_cons, List.sum_cons] at hfew
        exact ⟨hdeed (by omega), next, hperform, hfits (by omega)⟩

end Server
end DatagramLink

import DatagramLink.Proofs.ClientHistory
import DatagramLink.Proofs.EchoSession
import DatagramLink.Proofs.ServerSteps

/-!
# Who is removed when a client leaves

A client leaves in two ways.  Its farewell over the channel carries the qport, and a
server takes it as coming from the one client with that host and qport.  Its notice
carries nothing, and a server takes it as coming from the first client at exactly the
address that it comes from, whoever that is.

So the farewells of one client, in any order and however often they come, leave alone
every other client that is not at an address where a notice comes from, and the one over
the channel removes the client that sent it.  Clients that share an address are not safe
from each other.
-/

namespace DatagramLink

theorem Client.decode_farewell :
    Message.decode Client.farewell.encode = .ok Client.farewell := by
  apply Message.decode_encode
  exact (by decide : 11 < 2 ^ 64)

/-- What a client sends as it leaves. -/
inductive IsFarewell (qport : UInt16) : ByteArray → Prop
  | channel {sequence : UInt32} (hsendable : Sequence.Sendable sequence) :
      IsFarewell qport
        (Packet.whole (some qport) sequence Client.farewell.encode).bytes
  | notice : IsFarewell qport disconnectNotice.toDatagram

theorem IsFarewell.kinds {qport : UInt16} {datagram : ByteArray}
    (hfarewell : IsFarewell qport datagram) :
    (isConnectionless datagram = false ∧ peekQport datagram = some qport) ∨
      datagram = disconnectNotice.toDatagram := by
  cases hfarewell with
  | @channel sequence hsendable =>
      have hchannel : isConnectionless
          (Packet.whole (some qport) sequence Client.farewell.encode).bytes = false :=
        Header.isConnectionless_bytes_append hsendable Client.farewell.encode
      exact Or.inl ⟨hchannel, Header.peekQport_bytes_append hchannel rfl⟩
  | notice => exact Or.inr rfl

theorem IsFarewell.asks_nothing {qport : UInt16} {datagram : ByteArray}
    (hfarewell : IsFarewell qport datagram) :
    isConnectionless datagram = true → ∀ command,
      Command.ofDatagram? datagram = some command → command.name ≠ "connect" := by
  intro hconnectionless command hcommand
  rcases hfarewell.kinds with ⟨hsequenced, -⟩ | rfl
  · rw [hsequenced] at hconnectionless
    cases hconnectionless
  · rw [Command.ofDatagram?_toDatagram Command.printable_disconnectNotice] at hcommand
    cases hcommand
    simp [disconnectNotice]

theorem Client.Steady.isFarewell {server : Address} {qport : UInt16} {c : Client}
    (hsteady : Steady server qport c) {datagram : ByteArray}
    (hmem : datagram ∈ c.farewells) :
    IsFarewell qport datagram := by
  rcases List.mem_append.mp hmem with hfirst | hlast
  · obtain ⟨channel, hchannel, rfl⟩ :=
      Option.map_eq_some_iff.mp (Option.mem_toList.mp hfirst)
    have hend := hsteady.channel channel (Option.filter_eq_some_iff.mp hchannel).1
    rw [hend.stamp, hsteady.qport]
    exact .channel hend.aligned.sendable
  · split at hlast
    · cases hlast
    · rw [List.mem_singleton.mp hlast]
      exact .notice

/-- A datagram on its arrival at a server. -/
structure Visit where
  source : Address
  datagram : ByteArray
  now : Instant
  showDrops : Bool := false

namespace Server

def handleAll (s : Server) (visits : List Visit) : Server :=
  visits.foldl (fun s v => (s.handle v.showDrops v.source v.datagram v.now).2) s

variable {s : Server} {showDrops : Bool} {source : Address} {datagram : ByteArray}
  {now : Instant} {qport : UInt16} {p : Peer}

/-! ## Datagrams and the clients that they leave alone -/

theorem owns_congr {a b : Address} (hhost : a.sameHost b = true) :
    p.owns a qport = p.owns b qport := by
  rw [Address.sameHost_iff] at hhost
  rw [Bool.eq_iff_iff, Peer.owns_iff, Peer.owns_iff, hhost]

theorem mem_replace_iff {before after : List Peer} {q q' : Peer} (hne : p ≠ q)
    (hne' : p ≠ q') :
    p ∈ before ++ q' :: after ↔ p ∈ before ++ q :: after := by
  simp [hne, hne']

theorem mem_remove_iff {before after : List Peer} {q : Peer} (hne : p ≠ q) :
    p ∈ before ++ after ↔ p ∈ before ++ q :: after := by
  simp [hne]

/-- A datagram of a channel concerns only the client that owns it. -/
theorem mem_handle_sequenced (hsound : s.roster.Sound)
    (hsequenced : isConnectionless datagram = false)
    (hqport : peekQport datagram = some qport) (hother : p.owns source qport = false)
    (showDrops : Bool) (now : Instant) :
    p ∈ (s.handle showDrops source datagram now).2.roster.peers ↔
      p ∈ s.roster.peers := by
  -- whoever has the identity of the client that owns the datagram is another client
  have hne : ∀ {q q' : Peer} {qport' : UInt16}, peekQport datagram = some qport' →
      q.owns source qport' = true → q'.identity = q.identity → p ≠ q' := by
    rintro q q' qport' hpeek howns hidentity rfl
    rw [hqport] at hpeek
    cases hpeek
    rw [Peer.owns_iff, ← hidentity, ← Peer.owns_iff, hother] at howns
    cases howns
  obtain ⟨reply, after, -, hafter, hhandles⟩ := handles hsound showDrops source datagram now
  rw [hafter]
  cases hhandles with
  | unmoved hno => exact Iff.rfl
  | welcomed hconnectionless hcommand hname harguments hroom =>
      rw [hsequenced] at hconnectionless
      cases hconnectionless
  | left hconnectionless hcommand hname hpeers hat =>
      rw [hsequenced] at hconnectionless
      cases hconnectionless
  | heard hsequenced hpeek hpeers howns =>
      rw [hpeers]
      exact mem_replace_iff (hne hpeek howns rfl)
        (hne hpeek howns (Peer.identity_receive _ _ _ _))
  | probed hsequenced hpeek hpeers howns hmessage hdecode =>
      rw [hpeers]
      exact mem_replace_iff (hne hpeek howns rfl)
        (hne hpeek howns
          ((Peer.identity_enqueue _ _).trans (Peer.identity_receive _ _ _ _)))
  | parted hsequenced hpeek hpeers howns hmessage hdecode =>
      rw [hpeers]
      exact mem_remove_iff (hne hpeek howns rfl)

theorem handle_disconnectNotice (s : Server) (showDrops : Bool) (source : Address)
    (now : Instant) :
    (s.handle showDrops source disconnectNotice.toDatagram now).2 =
      (s.handleLeave source).2 := by
  have hconnectionless : isConnectionless disconnectNotice.toDatagram = true :=
    Header.isConnectionless_connectionless _
  have hcommand : s.handleCommand showDrops source disconnectNotice now =
      s.handleLeave source := rfl
  simp only [handle, hconnectionless, if_true,
    Command.ofDatagram?_toDatagram Command.printable_disconnectNotice, hcommand]

/-- A notice removes at most one client, which is at exactly the address that it comes
from. -/
theorem handle_notice_cases (hsound : s.roster.Sound) (showDrops : Bool)
    (source : Address) (now : Instant) :
    (s.handle showDrops source disconnectNotice.toDatagram now).2 = s ∨
      ∃ before q after, s.roster.peers = before ++ q :: after ∧
        q.channel.remote = source ∧
        (s.handle showDrops source disconnectNotice.toDatagram now).2 =
          s.withPeers (before ++ after) := by
  rw [handle_disconnectNotice]
  unfold handleLeave
  cases hfind : s.roster.findAt? source with
  | none => exact Or.inl rfl
  | some q =>
      obtain ⟨hat, before, after, hpeers, -⟩ := List.find?_eq_some_iff_append.mp hfind
      refine Or.inr ⟨before, q, after, hpeers, beq_iff_eq.mp hat, ?_⟩
      simp only [hsound.remove_eq hpeers]
      rfl

theorem mem_handle_notice (hsound : s.roster.Sound)
    (hnotice : source ≠ p.channel.remote) (showDrops : Bool) (now : Instant) :
    p ∈ (s.handle showDrops source disconnectNotice.toDatagram now).2.roster.peers ↔
      p ∈ s.roster.peers := by
  rcases handle_notice_cases hsound showDrops source now with
    hsame | ⟨before, q, after, hpeers, hat, hafter⟩
  · rw [hsame]
  · rw [hafter, hpeers]
    refine mem_remove_iff ?_
    rintro rfl
    exact hnotice hat.symm

theorem mem_handle_farewell (hsound : s.roster.Sound)
    (hfarewell : IsFarewell qport datagram) (hother : p.owns source qport = false)
    (hnotice : datagram = disconnectNotice.toDatagram → source ≠ p.channel.remote)
    (showDrops : Bool) (now : Instant) :
    p ∈ (s.handle showDrops source datagram now).2.roster.peers ↔
      p ∈ s.roster.peers := by
  rcases hfarewell.kinds with ⟨hsequenced, hqport⟩ | rfl
  · exact mem_handle_sequenced hsound hsequenced hqport hother showDrops now
  · exact mem_handle_notice hsound (hnotice rfl) showDrops now

/-! ## Who is gone for good -/

/-- No client of this host and qport is in the table. -/
def Without (s : Server) (home : Address) (qport : UInt16) : Prop :=
  ∀ q ∈ s.roster.peers, q.owns home qport = false

theorem known_of_replace {before after : List Peer} {q r r' : Peer}
    (hidentity : r'.identity = r.identity) (hmem : q ∈ before ++ r' :: after) :
    ∃ q₀ ∈ before ++ r :: after, q₀.identity = q.identity := by
  rcases List.mem_append.mp hmem with hq | hq
  · exact ⟨q, List.mem_append_left _ hq, rfl⟩
  · rcases List.mem_cons.mp hq with rfl | hq
    · exact ⟨r, List.mem_append_right _ List.mem_cons_self, hidentity.symm⟩
    · exact ⟨q, List.mem_append_right _ (List.mem_cons_of_mem _ hq), rfl⟩

theorem known_of_remove {before after : List Peer} {q r : Peer}
    (hmem : q ∈ before ++ after) :
    ∃ q₀ ∈ before ++ r :: after, q₀.identity = q.identity :=
  ⟨q, ((List.sublist_cons_self r after).append_left before).subset hmem, rfl⟩

/-- Only a request for a connection makes someone known who was not. -/
theorem known_of_mem_handle (hsound : s.roster.Sound)
    (hrequest : isConnectionless datagram = true → ∀ command,
      Command.ofDatagram? datagram = some command → command.name ≠ "connect")
    {q : Peer} (hmem : q ∈ (s.handle showDrops source datagram now).2.roster.peers) :
    ∃ q₀ ∈ s.roster.peers, q₀.identity = q.identity := by
  obtain ⟨reply, after, -, hafter, hhandles⟩ := handles hsound showDrops source datagram now
  rw [hafter] at hmem
  cases hhandles with
  | unmoved hno => exact ⟨q, hmem, rfl⟩
  | welcomed hconnectionless hcommand hname harguments hroom =>
      exact absurd hname (hrequest hconnectionless _ hcommand)
  | left hconnectionless hcommand hname hpeers hat =>
      rw [hpeers]
      exact known_of_remove hmem
  | heard hsequenced hpeek hpeers howns =>
      rw [hpeers]
      exact known_of_replace (Peer.identity_receive _ _ _ _) hmem
  | probed hsequenced hpeek hpeers howns hmessage hdecode =>
      rw [hpeers]
      exact known_of_replace
        ((Peer.identity_enqueue _ _).trans (Peer.identity_receive _ _ _ _)) hmem
  | parted hsequenced hpeek hpeers howns hmessage hdecode =>
      rw [hpeers]
      exact known_of_remove hmem

theorem Without.handle {home : Address} {other : UInt16} (hwithout : s.Without home other)
    (hsound : s.roster.Sound) (hfarewell : IsFarewell qport datagram) (showDrops : Bool)
    (source : Address) (now : Instant) :
    (s.handle showDrops source datagram now).2.Without home other := by
  intro q hq
  obtain ⟨q₀, hq₀, hidentity⟩ := known_of_mem_handle hsound hfarewell.asks_nothing hq
  rw [Bool.eq_false_iff, Ne, Peer.owns_iff, ← hidentity, ← Peer.owns_iff, hwithout q₀ hq₀]
  exact Bool.false_ne_true

/-- A notice may find someone else, or the client itself. -/
theorem mem_handle_notice_or_without {home : Address} (hsound : s.roster.Sound)
    (hmem : p ∈ s.roster.peers) (howns : p.owns home qport = true) (showDrops : Bool)
    (source : Address) (now : Instant) :
    p ∈ (s.handle showDrops source disconnectNotice.toDatagram now).2.roster.peers ∨
      (s.handle showDrops source disconnectNotice.toDatagram now).2.Without home qport := by
  rcases handle_notice_cases hsound showDrops source now with
    hsame | ⟨before, q, after, hpeers, -, hafter⟩
  · rw [hsame]
    exact Or.inl hmem
  · rw [hafter]
    by_cases hself : p = q
    · subst hself
      exact Or.inr (hsound.not_owns_others hpeers howns)
    · rw [hpeers] at hmem
      exact Or.inl ((mem_remove_iff hself).mpr hmem)

/-! ## The farewell over the channel -/

/-- A whole message that is newer than all before it comes through. -/
theorem message?_of_whole (hside : p.channel.side = .server)
    (howns : p.owns source p.channel.qport = true) {sequence : UInt32}
    (hsendable : Sequence.Sendable sequence)
    (hnewer : Sequence.newer sequence p.channel.incoming.sequence = true)
    (message : ByteArray) (now : Instant) :
    (p.receive source (Packet.whole (some p.channel.qport) sequence message).bytes
      now).1.message? = some message := by
  have hstamp : p.channel.peerStamp = some p.channel.qport := by
    rw [Channel.peerStamp, hside]
  have hrecognizes : p.channel.recognizes source = true := by
    have hhost := (Bool.and_eq_true_iff.mp howns).2
    rw [Address.sameHost_comm] at hhost
    rw [Channel.recognizes, hside, hhost]
    simp
  have hmessage := Channel.message?_of_whole hsendable hrecognizes hnewer message
  rw [hstamp] at hmessage
  have hreceipt : ∀ datagram, (p.receive source datagram now).1 =
      (p.channel.receive source (.ofBytes datagram)).1 := by
    intro datagram
    rw [Peer.receive]
    cases p.channel.receive source (.ofBytes datagram) with
    | mk receipt channel => cases hdelivered : receipt.isDelivered <;> simp [hdelivered]
  rw [hreceipt]
  exact hmessage

/-- A message that ends a connection removes the client that it comes from. -/
theorem handle_disconnect (hsound : s.roster.Sound) {before after : List Peer}
    (hpeers : s.roster.peers = before ++ p :: after)
    (howns : p.owns source p.channel.qport = true) {sequence : UInt32}
    (hsendable : Sequence.Sendable sequence)
    (hnewer : Sequence.newer sequence p.channel.incoming.sequence = true)
    {message : ByteArray} {reason : String}
    (hdecode : Message.decode message = .ok (.disconnect reason))
    (showDrops : Bool) (now : Instant) :
    (s.handle showDrops source
      (Packet.whole (some p.channel.qport) sequence message).bytes now).2 =
        s.withPeers (before ++ after) := by
  have hmember : p ∈ s.roster.peers := by
    rw [hpeers]
    exact List.mem_append_right _ List.mem_cons_self
  have hside : p.channel.side = .server :=
    (hsound.issued p.identity (List.mem_map_of_mem hmember)).2.2
  have hfirst : ∀ q ∈ before, q.owns source p.channel.qport = false :=
    fun q hq => hsound.not_owns_others hpeers howns q (List.mem_append_left after hq)
  have hchannel : isConnectionless
      (Packet.whole (some p.channel.qport) sequence message).bytes = false :=
    Header.isConnectionless_bytes_append hsendable message
  have hpeek : peekQport (Packet.whole (some p.channel.qport) sequence message).bytes =
      some p.channel.qport :=
    Header.peekQport_bytes_append hchannel rfl
  have hmessage := message?_of_whole hside howns hsendable hnewer message now
  generalize (Packet.whole (some p.channel.qport) sequence message).bytes = datagram at *
  have hremove := (hsound.replace hpeers
    (p.identity_receive source datagram now)).remove_eq rfl
  rw [handle, hchannel, hpeek]
  simp only [Bool.false_eq_true, if_false, handleSequenced, Roster.modify, hpeers,
    Roster.modifyFirst_append hfirst howns, hmessage, handleMessage, hdecode, hremove]
  rfl

/-! ## A client leaves -/

variable {hostname : String} {capacity : Nat} {answers : List Command} {home : Address}

theorem History.mem_handleAll (hhistory : History hostname capacity answers s)
    (hother : p.owns home qport = false) {visits : List Visit}
    (hvisits : ∀ v ∈ visits, v.source.sameHost home = true ∧ IsFarewell qport v.datagram)
    (hnotices : ∀ v ∈ visits, v.datagram = disconnectNotice.toDatagram →
      v.source ≠ p.channel.remote) :
    p ∈ (s.handleAll visits).roster.peers ↔ p ∈ s.roster.peers := by
  induction visits generalizing s answers with
  | nil => exact Iff.rfl
  | cons v visits ih =>
      obtain ⟨hhost, hfarewell⟩ := hvisits v List.mem_cons_self
      have hstep := mem_handle_farewell hhistory.orderly.sound hfarewell
        ((owns_congr hhost).trans hother) (hnotices v List.mem_cons_self) v.showDrops v.now
      have hrest := ih (hhistory.handle v.showDrops v.source v.datagram v.now)
        (fun w hw => hvisits w (List.mem_cons_of_mem _ hw))
        (fun w hw => hnotices w (List.mem_cons_of_mem _ hw))
      exact hrest.trans hstep

theorem Without.handleAll {other : Address} {port : UInt16}
    (hwithout : s.Without other port) (hhistory : History hostname capacity answers s)
    {visits : List Visit} (hvisits : ∀ v ∈ visits, IsFarewell qport v.datagram) :
    (s.handleAll visits).Without other port := by
  induction visits generalizing s answers with
  | nil => exact hwithout
  | cons v visits ih =>
      have hstep := hwithout.handle hhistory.orderly.sound (hvisits v List.mem_cons_self)
        v.showDrops v.source v.now
      exact ih hstep (hhistory.handle v.showDrops v.source v.datagram v.now)
        fun w hw => hvisits w (List.mem_cons_of_mem _ hw)

/-- Once the farewell over the channel has come, the client is not in the table, whatever
came before it and comes after it. -/
theorem History.without_of_handleAll (hhistory : History hostname capacity answers s)
    (hmem : p ∈ s.roster.peers) (howns : p.owns home qport = true) {sequence : UInt32}
    (hsendable : Sequence.Sendable sequence)
    (hnewer : Sequence.newer sequence p.channel.incoming.sequence = true)
    {farewell : ByteArray}
    (hfarewell :
      farewell = (Packet.whole (some qport) sequence Client.farewell.encode).bytes)
    {visits : List Visit}
    (hvisits : ∀ v ∈ visits, v.source.sameHost home = true ∧
      (v.datagram = farewell ∨ v.datagram = disconnectNotice.toDatagram))
    (hcomes : ∃ v ∈ visits, v.datagram = farewell) :
    (s.handleAll visits).Without home qport := by
  have hkind : ∀ v ∈ visits, IsFarewell qport v.datagram := by
    intro v hv
    rcases (hvisits v hv).2 with hbye | hnotice
    · rw [hbye, hfarewell]
      exact .channel hsendable
    · rw [hnotice]
      exact .notice
  induction visits generalizing s answers with
  | nil =>
      obtain ⟨v, hv, -⟩ := hcomes
      cases hv
  | cons v visits ih =>
      have hsound := hhistory.orderly.sound
      have hnext := hhistory.handle v.showDrops v.source v.datagram v.now
      have hkinds := fun w hw => hkind w (List.mem_cons_of_mem v hw)
      -- once it is gone, the rest does not bring it back
      have hgone : (s.handle v.showDrops v.source v.datagram v.now).2.Without home qport →
          (s.handleAll (v :: visits)).Without home qport :=
        fun hwithout => hwithout.handleAll hnext hkinds
      have hhost := (hvisits v List.mem_cons_self).1
      by_cases hbye : v.datagram = farewell
      · apply hgone
        obtain ⟨before, after, hpeers⟩ := List.append_of_mem hmem
        have hqport : p.channel.qport = qport := ((p.owns_iff home qport).mp howns).1
        have howns' : p.owns v.source p.channel.qport = true := by
          rw [owns_congr hhost, hqport]
          exact howns
        rw [hbye, hfarewell, ← hqport, handle_disconnect hsound hpeers howns' hsendable
          hnewer Client.decode_farewell v.showDrops v.now, hqport]
        exact hsound.not_owns_others hpeers howns
      · have hnotice := (hvisits v List.mem_cons_self).2.resolve_left hbye
        have hafter := mem_handle_notice_or_without hsound hmem howns v.showDrops v.source
          v.now
        rw [← hnotice] at hafter
        rcases hafter with hstays | hwithout
        · refine ih hnext hstays (fun w hw => hvisits w (List.mem_cons_of_mem _ hw)) ?_ hkinds
          obtain ⟨w, hw, hsame⟩ := hcomes
          rcases List.mem_cons.mp hw with rfl | hw
          · exact absurd hsame hbye
          · exact ⟨w, hw, hsame⟩
        · exact hgone hwithout

/-- A client with this qport leaves from this host.  It hands nothing but its farewells to
its hub.  Handled in any order and any number of times, they leave every other client in
the table as it was, unless a notice comes from exactly the address of that client.  And
the one that leaves is gone once its farewell over the channel has come, if the server had
nothing newer from it before. -/
theorem History.farewells_spare {server : Address} {c : Client}
    (hserver : History hostname capacity answers s)
    (hclient : Client.History server qport c) {visits : List Visit}
    (hvisits : ∀ v ∈ visits, v.source.sameHost home = true ∧ v.datagram ∈ c.farewells) :
    (∀ h now, ∃ sent, sent <+: c.farewells ∧
      Hub.Hands .client server now h sent (c.disconnect h now).reached.2 ∧
      ((c.disconnect h now).fault = none → sent = c.farewells)) ∧
    (∀ p : Peer, p.owns home qport = false →
      (∀ v ∈ visits, v.datagram = disconnectNotice.toDatagram →
        v.source ≠ p.channel.remote) →
      (p ∈ (s.handleAll visits).roster.peers ↔ p ∈ s.roster.peers)) ∧
    ∀ p ∈ s.roster.peers, p.owns home qport = true →
      ∀ channel, c.channel = some channel →
        Sequence.newer channel.outgoing.sequence p.channel.incoming.sequence = true →
        (∃ v ∈ visits, c.channelFarewell? = some v.datagram) →
        (s.handleAll visits).Without home qport := by
  have hsteady := hclient.steady
  refine ⟨hsteady.disconnect_hands, fun p hother hnotices => ?_, ?_⟩
  · refine hserver.mem_handleAll hother (fun v hv => ?_) hnotices
    exact ⟨(hvisits v hv).1, hsteady.isFarewell (hvisits v hv).2⟩
  · rintro p hmem howns channel hchannel hnewer ⟨v, hv, hcomes⟩
    have hend := hsteady.channel channel hchannel
    have hfarewell : v.datagram = (Packet.whole (some qport) channel.outgoing.sequence
        Client.farewell.encode).bytes := by
      obtain ⟨other, hother, hbytes⟩ := Option.map_eq_some_iff.mp hcomes
      have hsame := (Option.filter_eq_some_iff.mp hother).1
      rw [hchannel] at hsame
      cases hsame
      rw [← hbytes, hend.stamp, hsteady.qport]
    refine hserver.without_of_handleAll hmem howns hend.aligned.sendable hnewer hfarewell
      (fun w hw => ?_) ⟨v, hv, rfl⟩
    refine ⟨(hvisits w hw).1, ?_⟩
    rcases List.mem_append.mp (hvisits w hw).2 with hfirst | hlast
    · rw [hcomes] at hfirst
      exact Or.inl (List.mem_singleton.mp hfirst)
    · split at hlast
      · cases hlast
      · exact Or.inr (List.mem_singleton.mp hlast)

/-- The first client of a server, in the server's own process. -/
def guest : Session.Options := ⟨{ qport := 1 }, 1, 8, "lobby", 4, 8, defaultClientTimeout⟩

theorem history_guest : Client.History .loopback 1 (guest.joined 0) := by
  obtain ⟨hub, hconnect, hcarries, hsettings⟩ := Session.connect_start guest 0
  have hroom : 1 ≤ guest.capacity := by decide
  obtain ⟨hub₁, -, hcarries₁, hsettings₁⟩ :=
    @Session.work_start guest _ hroom 0 hcarries hsettings
  obtain ⟨hub₂, htick, -⟩ := Session.tick_asking guest hcarries₁ hsettings₁ 0 0 0
  have hasking : (guest.client.connect (.loopbackOnly guest.settings) 0).reached.1 =
      guest.asking 0 :=
    congrArg (fun a => a.reached.client) hconnect
  have hstart : Client.History .loopback 1 guest.client := .withFragmentsPerTick 8 .new
  have hconnecting := hstart.connect (.loopbackOnly guest.settings) 0
  rw [hasking] at hconnecting
  have hjoined := hconnecting.tick hub₁ 0 0
  rw [htick] at hjoined
  exact hjoined

theorem History.farewells_spare_distant :
    let far : Address := .remote (.v4 ⟨#v[10, 0, 0, 2]⟩ 5000)
    let p : Peer := ⟨2, Roster.newChannel far 2 false, 0, []⟩
    let visits := ((guest.joined 0).farewells.reverse ++ (guest.joined 0).farewells).map
      fun datagram => (⟨.loopback, datagram, 0, false⟩ : Visit)
    History "lobby" 4 [connectResponse 1, connectResponse 2] (lobby far) ∧
      Client.History .loopback 1 (guest.joined 0) ∧
      (∀ v ∈ visits,
        v.source.sameHost .loopback = true ∧ v.datagram ∈ (guest.joined 0).farewells) ∧
      p.owns .loopback 1 = false ∧ p ∈ ((lobby far).handleAll visits).roster.peers ∧
      ((lobby far).handleAll visits).Without .loopback 1 := by
  intro far p visits
  have hvisits : ∀ v ∈ visits, v.source = .loopback ∧
      v.datagram ∈ (guest.joined 0).farewells := by
    intro v hv
    obtain ⟨datagram, hmem, rfl⟩ := List.mem_map.mp hv
    refine ⟨rfl, ?_⟩
    simpa using hmem
  have hlegal : ∀ v ∈ visits, v.source.sameHost .loopback = true ∧
      v.datagram ∈ (guest.joined 0).farewells := by
    intro v hv
    rw [(hvisits v hv).1]
    exact ⟨rfl, (hvisits v hv).2⟩
  have hother : p.owns .loopback 1 = false := rfl
  have hfar : ∀ v ∈ visits, v.datagram = disconnectNotice.toDatagram →
      v.source ≠ p.channel.remote := by
    intro v hv _
    rw [(hvisits v hv).1]
    intro hsame
    cases hsame
  obtain ⟨-, hspared, hgone⟩ :=
    (history_lobby far).farewells_spare history_guest hlegal
  have hfirst : ∃ v ∈ visits, (guest.joined 0).channelFarewell? = some v.datagram :=
    ⟨_, List.mem_map_of_mem (List.mem_append_right _ List.mem_cons_self), rfl⟩
  exact ⟨history_lobby far, history_guest, hlegal, hother,
    (hspared p hother hfar).mpr (List.mem_cons_of_mem _ List.mem_cons_self),
    hgone _ List.mem_cons_self rfl _ rfl rfl hfirst⟩

/-- Of two clients of one process, the second one goes when the first one leaves: the
farewell removes the first one, and the notice finds the second one at the same
address. -/
theorem History.farewells_take_another :
    let s := lobby .loopback
    let p : Peer := ⟨2, Roster.newChannel .loopback 2 false, 0, []⟩
    let visits := (guest.joined 0).farewells.map
      fun datagram => (⟨.loopback, datagram, 0, false⟩ : Visit)
    History "lobby" 4 [connectResponse 1, connectResponse 2] s ∧
      Client.History .loopback 1 (guest.joined 0) ∧
      (guest.joined 0).phase = .connected 1 ∧
      p ∈ s.roster.peers ∧ p.owns .loopback 1 = false ∧
      p ∉ (s.handleAll visits).roster.peers := by
  intro s p visits
  have hpeers : s.roster.peers =
      [] ++ ⟨1, Roster.newChannel .loopback 1 false, 0, []⟩ :: [p] := rfl
  have hfarewell : (s.handle false .loopback
      (Packet.whole (some 1) Sequence.first Client.farewell.encode).bytes 0).2 =
        s.withPeers [p] :=
    handle_disconnect (history_lobby .loopback).orderly.sound hpeers rfl
      Sequence.first_sendable rfl Client.decode_farewell false 0
  have hnotice : ((s.withPeers [p]).handle false .loopback disconnectNotice.toDatagram
      0).2 = s.withPeers [] :=
    handle_disconnectNotice (s.withPeers [p]) false .loopback 0
  have hfarewells : (guest.joined 0).farewells =
      [(Packet.whole (some 1) Sequence.first Client.farewell.encode).bytes,
        disconnectNotice.toDatagram] := rfl
  have hvisits : s.handleAll visits = s.withPeers [] := by
    simp only [handleAll, visits, hfarewells, List.map_cons, List.map_nil, List.foldl_cons,
      List.foldl_nil, hfarewell, hnotice]
  refine ⟨history_lobby .loopback, history_guest, rfl,
    List.mem_cons_of_mem _ List.mem_cons_self, rfl, ?_⟩
  rw [hvisits]
  exact List.not_mem_nil

end Server
end DatagramLink

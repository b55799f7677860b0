import DatagramLink.Proofs.ChannelFrame
import DatagramLink.Proofs.FragmentHistory

/-!
# Whom a channel listens to

The address of a channel's peer may move during a run, so what a datagram is checked
against is not fixed.  What is fixed is the host and the qport for a server's end, and the
whole address for a client's end: `KeepsTo` is kept by every datagram, spoofed, stale and
malformed ones included.  So all that a channel takes in, fragment by fragment, comes from
the peer that it was set up for, and its address is that of the last complete message.
-/

namespace DatagramLink

/-- What tells the peer of a channel that was set up like this: to a client's end its
address, to a server's end its host and its qport. -/
def FromPeer (side : Side) (home : Address) (qport : UInt16) (source : Address)
    (stamp : Option UInt16) : Prop :=
  match side with
  | .client => source = home
  | .server => stamp = some qport ∧ source.sameHost home = true

namespace Channel

structure KeepsTo (c : Channel) (side : Side) (home : Address) (qport : UInt16) : Prop where
  side : c.side = side
  qport : c.qport = qport
  host : c.remote.host? = home.host?
  port : c.side = .client → c.remote = home

variable {c : Channel} {side : Side} {home : Address} {qport : UInt16} {source : Address}
  {datagram : ByteArray}

theorem KeepsTo.receive (hkeeps : c.KeepsTo side home qport) (source : Address)
    (datagram : ByteArray) :
    (c.receive source (.ofBytes datagram)).2.KeepsTo side home qport := by
  obtain ⟨hside, hqport, hhost, -⟩ := c.receive_keeps source datagram
  constructor
  · exact hside.trans hkeeps.side
  · exact hqport.trans hkeeps.qport
  · exact hhost.trans hkeeps.host
  · intro hclient
    rw [hside] at hclient
    rw [remote_receive_client hclient, hkeeps.port hclient]

theorem keepsTo_feed (side : Side) (home : Address) (qport : UInt16) (showDrops : Bool)
    (traffic : List (Address × ByteArray)) :
    ((setup side home qport showDrops).feed traffic).KeepsTo side home qport := by
  induction traffic using List.reverseRecOn with
  | nil => exact ⟨rfl, rfl, rfl, fun _ => rfl⟩
  | append_singleton traffic d ih =>
      rw [feed_snoc]
      exact ih.receive d.1 d.2

theorem KeepsTo.fromPeer (hkeeps : c.KeepsTo side home qport) {header : Header}
    {payload : ByteArray} (htakes : c.Takes source datagram header payload) :
    FromPeer side home qport source header.qport := by
  have hrecognized := htakes.recognized
  have hstamp := htakes.qport
  cases side with
  | client =>
      have hsource : source = c.remote := by
        simpa [recognizes, hkeeps.side] using hrecognized
      exact hsource.trans (hkeeps.port hkeeps.side)
  | server =>
      simp only [peerStamp, hkeeps.side, hkeeps.qport] at hstamp
      have hhost := (host_of_recognizes hrecognized).trans hkeeps.host
      exact ⟨hstamp, (Address.sameHost_iff source home).mpr hhost⟩

/-! ## The address after a run -/

/-- The sources of the datagrams with which messages were complete. -/
def deliveredFrom (c : Channel) : List (Address × ByteArray) → List Address
  | [] => []
  | (source, datagram) :: rest =>
      (if (c.receive source (.ofBytes datagram)).1.isDelivered then [source] else []) ++
        (c.receive source (.ofBytes datagram)).2.deliveredFrom rest

theorem deliveredFrom_snoc (c : Channel) (traffic : List (Address × ByteArray))
    (source : Address) (datagram : ByteArray) :
    c.deliveredFrom (traffic ++ [(source, datagram)]) =
      c.deliveredFrom traffic ++
        if ((c.feed traffic).receive source (.ofBytes datagram)).1.isDelivered then [source]
        else [] := by
  induction traffic generalizing c with
  | nil =>
      simp only [List.nil_append, deliveredFrom, List.append_nil]
      rfl
  | cons d rest ih =>
      simp only [List.cons_append, deliveredFrom, ih, List.append_assoc]
      rfl

theorem remote_receive (c : Channel) (source : Address) (datagram : ByteArray) :
    (c.receive source (.ofBytes datagram)).2.remote =
      if (c.receive source (.ofBytes datagram)).1.isDelivered then source else c.remote := by
  obtain ⟨verdict, message?, after, hverdict, -, hafter, hreceives⟩ :=
    c.receives source datagram
  rw [Receipt.isDelivered, hverdict, hafter]
  cases hreceives <;> rfl

theorem remote_feed (c : Channel) (traffic : List (Address × ByteArray)) :
    (c.feed traffic).remote = (c.deliveredFrom traffic).getLastD c.remote := by
  induction traffic using List.reverseRecOn with
  | nil => rfl
  | append_singleton traffic d ih =>
      rw [feed_snoc, deliveredFrom_snoc, remote_receive, ih]
      split <;> simp

/-! ## What is taken in -/

/-- A message comes from datagrams of the peer alone: it is the payload of the last one,
or the fragments of earlier ones and then its own. -/
inductive ComesFrom (c : Channel) (peer : Address → Option UInt16 → Prop)
    (traffic : List (Address × ByteArray)) (source : Address) (datagram : ByteArray) :
    ByteArray → Prop
  | whole {header : Header} {message : ByteArray}
      (htakes : (c.feed traffic).Takes source datagram header message)
      (hpeer : peer source header.qport) (hwhole : header.fragment = none) :
      ComesFrom c peer traffic source datagram message
  | joined {header : Header} {payload : ByteArray} {f : Fragment} {gathered : ByteArray}
      {ps : List Piece} (htakes : (c.feed traffic).Takes source datagram header payload)
      (hpeer : peer source header.qport) (hfragment : header.fragment = some f)
      (hgathers : Gathers c traffic header.sequence gathered ps)
      (hpieces : ∀ p ∈ ps, peer p.source p.qport) :
      ComesFrom c peer traffic source datagram
        (gathered ++ payload.extract 0 f.length.toNat)

theorem fromPeer_of_gathers {showDrops : Bool} {traffic : List (Address × ByteArray)}
    {sequence : UInt32} {bytes : ByteArray} {ps : List Piece}
    (hgathers : Gathers (setup side home qport showDrops) traffic sequence bytes ps) :
    ∀ p ∈ ps, FromPeer side home qport p.source p.qport := by
  intro p hp
  obtain ⟨datagram, -, htakes⟩ := (hgathers.chain.arrived p hp).found
  exact (keepsTo_feed side home qport showDrops _).fromPeer htakes

/-- Only a datagram that gets past every check is gathered or completes a message. -/
theorem exists_takes (c : Channel) (source : Address) (datagram : ByteArray)
    (htaken : (c.receive source (.ofBytes datagram)).1.verdict = .gathered ∨
      (c.receive source (.ofBytes datagram)).1.verdict = .delivered) :
    ∃ header payload, c.Takes source datagram header payload := by
  obtain ⟨verdict, message?, after, hverdict, -, -, hreceives⟩ := c.receives source datagram
  rw [hverdict] at htaken
  cases hreceives with
  | ignored hconnectionless => simp at htaken
  | dropped hsequenced hdrops => simp at htaken
  | misplaced htakes hfragment hlegal hmisplaced => simp at htaken
  | whole htakes hwhole => exact ⟨_, _, htakes⟩
  | added htakes hfragment hlegal hcontinues hmore => exact ⟨_, _, htakes⟩
  | completed htakes hfragment hlegal hcontinues hlast => exact ⟨_, _, htakes⟩

theorem comesFrom_of_delivered (side : Side) (home : Address) (qport : UInt16)
    (showDrops : Bool) (traffic : List (Address × ByteArray)) (source : Address)
    (datagram message : ByteArray)
    (hdelivered : (((setup side home qport showDrops).feed traffic).receive source
      (.ofBytes datagram)).1.message? = some message) :
    (setup side home qport showDrops).ComesFrom (FromPeer side home qport) traffic source
      datagram message := by
  have haccounted := accounted_feed (c := setup side home qport showDrops) rfl traffic
  have hkeeps := keepsTo_feed side home qport showDrops traffic
  obtain ⟨verdict, message?, after, -, hmessage, -, hreceives⟩ :=
    ((setup side home qport showDrops).feed traffic).receives source datagram
  rw [hdelivered] at hmessage
  subst hmessage
  cases hreceives with
  | whole htakes hwhole => exact .whole htakes (hkeeps.fromPeer htakes) hwhole
  | @completed header payload f htakes hfragment hlegal hcontinues hlast =>
      obtain ⟨ps, hgathers⟩ := haccounted header.sequence
      exact .joined htakes (hkeeps.fromPeer htakes) hfragment hgathers
        (fromPeer_of_gathers hgathers)

/-- Whatever a channel is fed, its peer's address is the source of the last complete
message, which is the same host, and at a client's end the same address, as at the start.
All that it takes in comes from that peer. -/
theorem follows_peer (side : Side) (home : Address) (qport : UInt16) (showDrops : Bool)
    (traffic : List (Address × ByteArray)) :
    let start := setup side home qport showDrops
    let c := start.feed traffic
    c.remote = (start.deliveredFrom traffic).getLastD home ∧
      (side = .client → c.remote = home) ∧
      c.remote.sameHost home = true ∧
      ∀ source datagram,
        let receipt := (c.receive source (.ofBytes datagram)).1
        let after := (c.receive source (.ofBytes datagram)).2
        (receipt.isDelivered = false → after.remote = c.remote) ∧
          (receipt.verdict = .gathered ∨ receipt.verdict = .delivered →
            ∃ header payload, c.Takes source datagram header payload ∧
              FromPeer side home qport source header.qport) ∧
          ∀ message, receipt.message? = some message →
            start.ComesFrom (FromPeer side home qport) traffic source datagram message := by
  intro start c
  have hkeeps : c.KeepsTo side home qport := keepsTo_feed side home qport showDrops traffic
  refine ⟨start.remote_feed traffic, fun hclient => hkeeps.port (hkeeps.side.trans hclient),
    ?_, ?_⟩
  · exact (Address.sameHost_iff c.remote home).mpr hkeeps.host
  · intro source datagram receipt after
    refine ⟨?_, ?_, ?_⟩
    · intro hrefused
      have hremote := c.remote_receive source datagram
      rwa [if_neg (by simpa using hrefused)] at hremote
    · intro htaken
      obtain ⟨header, payload, htakes⟩ := c.exists_takes source datagram htaken
      exact ⟨header, payload, htakes, hkeeps.fromPeer htakes⟩
    · intro message hmessage
      exact comesFrom_of_delivered side home qport showDrops traffic source datagram message
        hmessage

end Channel
end DatagramLink

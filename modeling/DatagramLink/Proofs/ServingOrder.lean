import DatagramLink.Proofs.NetworkTraffic
import DatagramLink.Proofs.PumpBudgets
import DatagramLink.Proofs.ServerCounts

/-!
# The order in which clients are served

In a frame all clients of a server send through one hub, one after another.  What a client
sends is settled before its turn: it is the front of its backlog, and without chance the
hub carries it whatever it carried before.  So the order of the table decides only how
the datagrams of different clients are interleaved.  All turns of a frame are taken at one
time.  How long a client was silent is found out behind them, by a reading of the clock for
each client, and it does not depend on turns at all.
-/

namespace DatagramLink

/-! ## What a hub takes -/

/-- Datagrams that a socket was offered, and datagrams that were put into a delay line. -/
structure Emission where
  offered : List Datagram
  held : List Held
  deriving DecidableEq

namespace Emission

def append (first second : Emission) : Emission :=
  ⟨first.offered ++ second.offered, first.held ++ second.held⟩

/-- Emissions one after another. -/
def join (emissions : List Emission) : Emission := emissions.foldr append ⟨[], []⟩

end Emission

/-- What becomes of datagrams that a server sends at one time. -/
def Settings.emission (settings : Settings) (now : Instant) (sent : List Datagram) :
    Emission :=
  if 0 < settings.delay .server then
    ⟨[], sent.map (⟨now + milliseconds (settings.delay .server), ·⟩)⟩
  else
    ⟨sent, []⟩

theorem Settings.emission_cons (settings : Settings) (now : Instant) (d : Datagram)
    (sent : List Datagram) :
    settings.emission now (d :: sent) =
      (settings.emission now [d]).append (settings.emission now sent) := by
  unfold emission
  split <;> rfl

namespace Hub

/-- What a hub has taken since it was `before`. -/
def emissionSince (before after : Hub) : Emission :=
  ⟨(after.socket.offers.toList.map Offer.datagram).drop before.socket.offers.size,
    after.delayed.held.drop before.delayed.held.length⟩

/-- Nothing but an emission comes to what a hub was offered and holds. -/
structure Takes (before : Hub) (emission : Emission) (after : Hub) : Prop where
  offered : after.socket.offers.toList.map Offer.datagram =
    before.socket.offers.toList.map Offer.datagram ++ emission.offered
  held : after.delayed.held = before.delayed.held ++ emission.held
  settings : after.settings = before.settings

variable {h g k : Hub} {first second : Emission}

theorem Takes.refl (h : Hub) : h.Takes ⟨[], []⟩ h :=
  ⟨(List.append_nil _).symm, (List.append_nil _).symm, rfl⟩

theorem Takes.trans (hfirst : h.Takes first g) (hsecond : g.Takes second k) :
    h.Takes (first.append second) k where
  offered := by
    rw [hsecond.offered, hfirst.offered, List.append_assoc]
    rfl
  held := by
    rw [hsecond.held, hfirst.held, List.append_assoc]
    rfl
  settings := hsecond.settings.trans hfirst.settings

theorem Takes.emissionSince (htakes : h.Takes first g) : h.emissionSince g = first := by
  have hoffers : h.socket.offers.size =
      (h.socket.offers.toList.map Offer.datagram).length := by simp
  rw [Hub.emissionSince, htakes.offered, htakes.held, hoffers, List.drop_left,
    List.drop_left]

theorem Takes.regular (htakes : h.Takes first g) (hregular : h.settings.Regular) :
    g.settings.Regular := by
  rw [htakes.settings]
  exact hregular

theorem dispatch_takes (hregular : h.settings.Regular) {d : Dispatch} {target : Endpoint}
    (hside : d.side = .server) (htarget : d.target = .remote target) (now : Instant) :
    ∃ after, h.dispatch d now = .done after ∧
      h.Takes (h.settings.emission now [⟨d.bytes, target⟩]) after := by
  have hreported : (h.report [d.note]).settings.Regular := hregular
  obtain ⟨after, hsend, hsettings, hdirect, hdelayed⟩ :=
    (h.report [d.note]).send_spec hreported .server ⟨d.bytes, target⟩ now
  refine ⟨after, ?_, ?_⟩
  · rw [dispatch, hside, htarget]
    exact hsend
  · unfold Settings.emission
    split
    · next hwaits =>
        obtain ⟨hsocket, hline⟩ := hdelayed hwaits
        refine ⟨?_, by rw [hline]; rfl, hsettings⟩
        rw [hsocket, List.append_nil]
        rfl
    · next hnone =>
        obtain ⟨⟨refusal, hoffers⟩, hline⟩ := hdirect (Nat.eq_zero_of_not_pos hnone)
        refine ⟨?_, by rw [hline, List.append_nil]; rfl, hsettings⟩
        rw [hoffers, Array.toList_push, List.map_append]
        rfl

theorem dispatchAll_takes (hregular : h.settings.Regular) {sent : List Dispatch}
    {target : Endpoint} (hsent : ∀ d ∈ sent, d.side = .server ∧ d.target = .remote target)
    (now : Instant) :
    ∃ after, h.dispatchAll sent now = .done (sent.length, after) ∧
      h.Takes (h.settings.emission now (sent.map (⟨·.bytes, target⟩))) after := by
  induction sent generalizing h with
  | nil =>
      refine ⟨h, rfl, ?_⟩
      rw [List.map_nil, Settings.emission, List.map_nil, ite_self]
      exact Takes.refl h
  | cons d sent ih =>
      obtain ⟨hside, htarget⟩ := hsent d List.mem_cons_self
      obtain ⟨between, hdispatch, hfirst⟩ := dispatch_takes hregular hside htarget now
      obtain ⟨after, hrest, hlater⟩ :=
        ih (hfirst.regular hregular) fun e he => hsent e (List.mem_cons_of_mem d he)
      refine ⟨after, ?_, ?_⟩
      · rw [dispatchAll_cons_of_done (by rw [hdispatch]; rfl), hdispatch]
        exact congrArg (Attempt.map _) hrest
      · rw [hfirst.settings] at hlater
        rw [List.map_cons, Settings.emission_cons]
        exact hfirst.trans hlater

end Hub

/-! ## A client's turn -/

namespace Peer

/-- A client after its turn. -/
def served (p : Peer) (budget : Nat) : Peer :=
  match p.channel.pump p.queue budget with
  | .ok pumped => { p with channel := pumped.channel, queue := pumped.queue }
  | .error _ => p

/-- The datagrams for the network that a client sends in its turn. -/
def share (p : Peer) (budget : Nat) : List Datagram :=
  match p.channel.remote with
  | .loopback => []
  | .remote target => (p.backlog.take budget).map (⟨·.bytes, target⟩)

/-- A client on the network whose channel stopped between two datagrams. -/
structure Distant (p : Peer) : Prop where
  aligned : p.channel.Aligned
  side : p.channel.side = .server
  network : p.channel.remote ≠ .loopback

variable {p : Peer} {h : Hub}

theorem id_served (p : Peer) (budget : Nat) : (p.served budget).id = p.id := by
  unfold served
  split <;> rfl

theorem isOverdue_served (p : Peer) (budget timeout : Nat) (checked : Nat → Instant) :
    (p.served budget).isOverdue timeout checked = p.isOverdue timeout checked := by
  unfold served
  split <;> rfl

/-- What a turn does to the client does not depend on the hub, and what it does to the hub
depends on nothing but the client and the settings. -/
theorem Distant.pump (hdistant : p.Distant) (hregular : h.settings.Regular) (budget : Nat)
    (now : Instant) :
    ∃ after, p.pump h budget now = .done (p.served budget, after) ∧
      h.Takes (h.settings.emission now (p.share budget)) after := by
  obtain ⟨pumped, hpump, hsending, hbytes, -⟩ :=
    Channel.pump_takes hdistant.aligned p.queue budget
  cases hremote : p.channel.remote with
  | loopback => exact absurd hremote hdistant.network
  | remote target =>
      have hsent : ∀ d ∈ pumped.dispatches, d.side = .server ∧ d.target = .remote target := by
        intro d hd
        obtain ⟨hside, htarget⟩ := hsending.addressed d hd
        exact ⟨hside.trans hdistant.side, htarget.trans hremote⟩
      have hshare : p.share budget = pumped.dispatches.map (⟨·.bytes, target⟩) := by
        have hpackets := congrArg (List.map (⟨·, target⟩ : ByteArray → Datagram)) hbytes
        rw [List.map_map, List.map_map] at hpackets
        simp only [share, hremote]
        exact hpackets.symm
      obtain ⟨after, hhanded, htakes⟩ := Hub.dispatchAll_takes hregular hsent now
      refine ⟨after, ?_, ?_⟩
      · rw [pump_of_done hpump hhanded, served, hpump]
      · rw [hshare]
        exact htakes

end Peer

/-! ## All turns of a frame -/

namespace Roster

/-- What the hub takes of each client of a list in its turn. -/
def emissions (budget : Nat) (now : Instant) : List Peer → Hub → List (Nat × Emission)
  | [], _ => []
  | p :: rest, h =>
      (p.id, h.emissionSince (p.pump h budget now).reached.2) ::
        emissions budget now rest (p.pump h budget now).reached.2

theorem pumpPeers_distant {peers : List Peer} (hdistant : ∀ p ∈ peers, p.Distant) {h : Hub}
    (hregular : h.settings.Regular) (budget : Nat) (now : Instant) :
    ∃ after,
      pumpPeers budget now peers h = .done (peers.map (·.served budget), after) ∧
        emissions budget now peers h =
          peers.map (fun p => (p.id, h.settings.emission now (p.share budget))) ∧
        h.Takes (Emission.join ((emissions budget now peers h).map Prod.snd)) after := by
  induction peers generalizing h with
  | nil => exact ⟨h, rfl, rfl, Hub.Takes.refl h⟩
  | cons p rest ih =>
      obtain ⟨between, hpump, hfirst⟩ :=
        (hdistant p List.mem_cons_self).pump hregular budget now
      obtain ⟨after, hrest, hemissions, hlater⟩ :=
        ih (fun q hq => hdistant q (List.mem_cons_of_mem p hq)) (hfirst.regular hregular)
      have hturn : emissions budget now (p :: rest) h =
          (p.id, h.settings.emission now (p.share budget)) ::
            emissions budget now rest between := by
        rw [emissions, hpump]
        simp only [Attempt.done, hfirst.emissionSince]
      refine ⟨after, ?_, ?_, ?_⟩
      · simp only [pumpPeers, hpump, Attempt.done]
        exact congrArg (Attempt.map _) hrest
      · rw [hturn, hemissions, hfirst.settings]
        rfl
      · rw [hturn]
        exact hfirst.trans hlater

theorem find?_served (peers : List Peer) (budget id : Nat) :
    (peers.map (·.served budget)).find? (·.id == id) =
      (peers.find? (·.id == id)).map (·.served budget) := by
  rw [List.find?_map]
  simp only [Function.comp_def, Peer.id_served]

theorem filter_served (peers : List Peer) (budget timeout : Nat) (checked : Nat → Instant) :
    (peers.map (·.served budget)).filter (!·.isOverdue timeout checked) =
      (peers.filter (!·.isOverdue timeout checked)).map (·.served budget) := by
  rw [List.filter_map]
  simp only [Function.comp_def, Peer.isOverdue_served]

theorem timedOut_served (r : Roster) (budget timeout : Nat) (checked : Nat → Instant) :
    timedOut { r with peers := r.peers.map (·.served budget) } timeout checked =
      r.timedOut timeout checked := by
  simp only [timedOut, List.filter_map, List.map_map, Function.comp_def,
    Peer.isOverdue_served, Peer.id_served]

/-- Leaving clients out and looking one up can be done in either order, and in any order
of the table. -/
theorem Sound.find?_filter_perm {r : Roster} (hsound : r.Sound) {order : List Peer}
    (horder : order.Perm r.peers) (keep : Peer → Bool) (id : Nat) :
    (order.filter keep).find? (·.id == id) = (r.get? id).filter keep := by
  have hkept := hsound.filter keep
  refine (hkept.get?_perm (horder.filter keep) id).trans (Option.ext fun p => ?_)
  rw [hkept.get?_eq_some_iff, List.mem_filter, Option.filter_eq_some_iff,
    hsound.get?_eq_some_iff]
  exact and_right_comm

theorem mem_timedOut_iff (r : Roster) (timeout : Nat) (checked : Nat → Instant) (id : Nat) :
    id ∈ r.timedOut timeout checked ↔
      ∃ p ∈ r.peers, p.id = id ∧ (timeout : Int) < checked id - p.lastSeen := by
  simp only [timedOut, List.mem_map, List.mem_filter, Peer.isOverdue, Peer.isTimedOut,
    decide_eq_true_eq]
  constructor
  · rintro ⟨p, ⟨hp, hsilent⟩, rfl⟩
    exact ⟨p, hp, rfl, hsilent⟩
  · rintro ⟨p, hp, rfl, hsilent⟩
    exact ⟨p, ⟨hp, hsilent⟩, rfl⟩

end Roster

/-! ## The clients' part of a frame -/

namespace Server

/-- All clients send their shares, and then the silent ones go. -/
def attend (s : Server) (h : Hub) (now : Instant) (checked : Nat → Instant) :
    Attempt (Server × Hub) :=
  (s.pump h now).andThen fun x => .done (x.1.dropSilent x.2 checked)

theorem tick_eq_attend (s : Server) (h : Hub) (now : Instant) (checked : Nat → Instant) :
    s.tick h now checked =
      (s.receiveAll h now).andThen fun x =>
        (x.1.attend x.2 now checked).andThen fun y => .done (y.1, (y.2.flush now).2) := by
  unfold tick attend
  rw [Attempt.andThen_assoc]
  apply congrArg
  funext x
  rw [Attempt.andThen_assoc]
  rfl

/-- The hub's share of one client's turn; nothing for a client that is not there. -/
def emissionOf (s : Server) (h : Hub) (now : Instant) (id : Nat) : Option Emission :=
  ((Roster.emissions s.fragmentsPerTick now s.roster.peers h).find? (·.1 == id)).map Prod.snd

/-- The clients that go at the end of their part of a frame. -/
def overdue (s : Server) (h : Hub) (now : Instant) (checked : Nat → Instant) : List Nat :=
  (s.pump h now).reached.1.roster.timedOut s.clientTimeout checked

variable {s : Server} {h : Hub} {now : Instant} {checked : Nat → Instant}

/-- What the clients' part of a frame comes to when they are served in some order.  Nothing
but `interleaved` speaks of the order. -/
structure Attends (s : Server) (h : Hub) (now : Instant) (checked : Nat → Instant)
    (order : List Peer) : Prop where
  ended : ((s.withPeers order).attend h now checked).fault = none
  clients : ∀ id, ((s.withPeers order).pump h now).reached.1.roster.get? id =
    (s.roster.get? id).map (·.served s.fragmentsPerTick)
  table : ∀ id, ((s.withPeers order).attend h now checked).reached.1.roster.get? id =
    ((s.roster.get? id).filter (!·.isOverdue s.clientTimeout checked)).map
      (·.served s.fragmentsPerTick)
  left : ((s.withPeers order).attend h now checked).reached.1.roster.peers.Perm
    ((s.roster.peers.filter (!·.isOverdue s.clientTimeout checked)).map
      (·.served s.fragmentsPerTick))
  /-- Nothing of the server changes but its clients. -/
  others : ((s.withPeers order).attend h now checked).reached.1.withPeers [] = s.withPeers []
  emitted : ∀ id, (s.withPeers order).emissionOf h now id =
    (s.roster.get? id).map fun p => h.settings.emission now (p.share s.fragmentsPerTick)
  /-- The hub takes nothing else, and it takes each client's datagrams in a row. -/
  interleaved : h.Takes
    (.join (order.map fun p => h.settings.emission now (p.share s.fragmentsPerTick)))
    ((s.withPeers order).attend h now checked).reached.2
  overdue : ∀ id, id ∈ (s.withPeers order).overdue h now checked ↔
    ∃ p ∈ s.roster.peers, p.id = id ∧ (s.clientTimeout : Int) < checked id - p.lastSeen

/-- What the clients' part of a frame comes to, turn after turn. -/
theorem attend_distant (hdistant : ∀ p ∈ s.roster.peers, p.Distant)
    (hregular : h.settings.Regular) (now : Instant) (checked : Nat → Instant) :
    ∃ after records,
      s.pump h now =
          .done (s.withPeers (s.roster.peers.map (·.served s.fragmentsPerTick)), after) ∧
        s.attend h now checked =
          .done
            (s.withPeers ((s.roster.peers.filter (!·.isOverdue s.clientTimeout checked)).map
              (·.served s.fragmentsPerTick)), after.report records) ∧
        Roster.emissions s.fragmentsPerTick now s.roster.peers h =
          s.roster.peers.map (fun p =>
            (p.id, h.settings.emission now (p.share s.fragmentsPerTick))) ∧
        h.Takes (.join (s.roster.peers.map fun p =>
          h.settings.emission now (p.share s.fragmentsPerTick))) after := by
  obtain ⟨after, hturns, hemissions, htakes⟩ :=
    Roster.pumpPeers_distant hdistant hregular s.fragmentsPerTick now
  have hpump : s.pump h now =
      .done (s.withPeers (s.roster.peers.map (·.served s.fragmentsPerTick)), after) := by
    unfold pump Roster.pump
    rw [hturns]
    rfl
  have hattend : ∃ records, s.attend h now checked =
      .done
        (s.withPeers ((s.roster.peers.filter (!·.isOverdue s.clientTimeout checked)).map
          (·.served s.fragmentsPerTick)), after.report records) := by
    rw [attend, hpump, ← Roster.filter_served]
    exact ⟨_, rfl⟩
  obtain ⟨records, hattend⟩ := hattend
  rw [hemissions, List.map_map] at htakes
  exact ⟨after, records, hpump, hattend, hemissions, htakes⟩

theorem attends (hsound : s.roster.Sound) (hdistant : ∀ p ∈ s.roster.peers, p.Distant)
    (hregular : h.settings.Regular) (now : Instant) (checked : Nat → Instant)
    {order : List Peer} (horder : order.Perm s.roster.peers) :
    s.Attends h now checked order := by
  obtain ⟨after, records, hpump, hattend, hemissions, htakes⟩ :=
    attend_distant (s := s.withPeers order)
      (fun p hp => hdistant p (horder.mem_iff.mp hp)) hregular now checked
  refine
    { ended := by rw [hattend]; rfl
      clients := fun id => ?_
      table := fun id => ?_
      left := ?_
      others := by rw [hattend]; rfl
      emitted := fun id => ?_
      interleaved := ?_
      overdue := fun id => ?_ }
  · rw [hpump, ← hsound.get?_perm horder]
    exact Roster.find?_served order s.fragmentsPerTick id
  · rw [hattend, ← hsound.find?_filter_perm horder]
    exact Roster.find?_served _ s.fragmentsPerTick id
  · rw [hattend]
    exact (horder.filter _).map _
  · rw [emissionOf, hemissions, ← hsound.get?_perm horder, List.find?_map, Option.map_map]
    rfl
  · rw [hattend]
    exact ⟨htakes.offered, htakes.held, htakes.settings⟩
  · rw [overdue, hpump]
    change id ∈ Roster.timedOut
      { (s.withPeers order).roster with
        peers := (s.withPeers order).roster.peers.map (·.served s.fragmentsPerTick) }
      s.clientTimeout checked ↔ _
    rw [Roster.timedOut_served, Roster.mem_timedOut_iff]
    simp only [withPeers, horder.mem_iff]

/-! ## Reachable servers -/

variable {hostname : String} {capacity : Nat} {answers : List Command}

/-- Whatever a server went through, its channels stopped between two datagrams. -/
theorem History.aligned (hhistory : History hostname capacity answers s) :
    ∀ p ∈ s.roster.peers, p.channel.Aligned := by
  induction hhistory with
  | new => simp [Server.new]
  | withFragmentsPerTick count hhistory ih => exact ih
  | withClientTimeout timeout hhistory ih => exact ih
  | handle showDrops source datagram now hhistory ih =>
      intro q hq
      rcases channel_of_mem_handle hhistory.orderly.sound hq with
        ⟨qport, hnew⟩ | ⟨p, hp, hold | hheard⟩
      · rw [hnew]
        exact (Channel.sound_setup .server source qport showDrops).aligned
      · rw [hold]
        exact ih p hp
      · obtain ⟨-, -, -, hkept⟩ := p.channel.receive_keeps source datagram
        have haligned := ih p hp
        rw [hheard]
        constructor
        · rw [hkept]
          exact haligned.sendable
        · rw [hkept]
          exact haligned.unsent
  | pump h now hhistory ih =>
      intro q hq
      obtain ⟨p, hp, rfl | ⟨g, rfl⟩⟩ := Roster.mem_pumpPeers hq
      · exact ih q hp
      · exact Channel.aligned_ship (ih p hp) g p.queue _ now
  | dropSilent h checked hhistory ih =>
      intro q hq
      exact ih q (List.mem_filter.mp hq).1
  | reorder hperm hhistory ih =>
      intro q hq
      exact ih q (hperm.mem_iff.mp hq)

theorem History.distant (hhistory : History hostname capacity answers s)
    (hnetwork : ∀ p ∈ s.roster.peers, p.channel.remote ≠ .loopback) :
    ∀ p ∈ s.roster.peers, p.Distant := by
  intro p hp
  have hissued := hhistory.orderly.sound.issued p.identity (List.mem_map_of_mem hp)
  exact ⟨hhistory.aligned p hp, hissued.2.2, hnetwork p hp⟩

/-- Two servers whose clients cannot tell in which of them they were served. -/
structure AttendAlike (a b : Server) (h : Hub) (now : Instant) (checked : Nat → Instant) :
    Prop where
  clients : ∀ id,
    (a.pump h now).reached.1.roster.get? id = (b.pump h now).reached.1.roster.get? id
  table : ∀ id,
    (a.attend h now checked).reached.1.roster.get? id =
      (b.attend h now checked).reached.1.roster.get? id
  left : (a.attend h now checked).reached.1.roster.peers.Perm
    (b.attend h now checked).reached.1.roster.peers
  others : (a.attend h now checked).reached.1.withPeers [] =
    (b.attend h now checked).reached.1.withPeers []
  emitted : ∀ id, a.emissionOf h now id = b.emissionOf h now id
  overdue : ∀ id, id ∈ a.overdue h now checked ↔ id ∈ b.overdue h now checked

theorem Attends.alike {first second : List Peer} (hfirst : s.Attends h now checked first)
    (hsecond : s.Attends h now checked second) :
    AttendAlike (s.withPeers first) (s.withPeers second) h now checked where
  clients := fun id => (hfirst.clients id).trans (hsecond.clients id).symm
  table := fun id => (hfirst.table id).trans (hsecond.table id).symm
  left := hfirst.left.trans hsecond.left.symm
  others := hfirst.others.trans hsecond.others.symm
  emitted := fun id => (hfirst.emitted id).trans (hsecond.emitted id).symm
  overdue := fun id => (hfirst.overdue id).trans (hsecond.overdue id).symm

/-- Whatever a server went through, if all its clients are on the network and its hub acts
without chance, the order in which it serves them shows in no client, in nothing that a
client is sent, and not in who is dropped.  Only the datagrams of different clients leave
in another order. -/
theorem History.serving_order_free (hhistory : History hostname capacity answers s)
    (hnetwork : ∀ p ∈ s.roster.peers, p.channel.remote ≠ .loopback)
    (hregular : h.settings.Regular) (now : Instant) (checked : Nat → Instant) :
    (∀ g, s.tick g now checked =
        (s.receiveAll g now).andThen fun x =>
          (x.1.attend x.2 now checked).andThen fun y => .done (y.1, (y.2.flush now).2)) ∧
      (∀ order : List Peer, order.Perm s.roster.peers → s.Attends h now checked order) ∧
      ∀ first second : List Peer,
        first.Perm s.roster.peers → second.Perm s.roster.peers →
          AttendAlike (s.withPeers first) (s.withPeers second) h now checked := by
  have hdistant := hhistory.distant hnetwork
  have hattends : ∀ order : List Peer, order.Perm s.roster.peers →
      s.Attends h now checked order :=
    fun order horder => attends hhistory.orderly.sound hdistant hregular now checked horder
  refine ⟨fun g => s.tick_eq_attend g now checked, hattends,
    fun first second hfirst hsecond => ?_⟩
  exact (hattends first hfirst).alike (hattends second hsecond)

/-- A new server that owes an echo to each of two hosts. -/
def indebted : Server :=
  let traffic (qport : UInt16) (host : UInt8) : List (Address × ByteArray) :=
    (visit qport (Message.encode (.probe 1 5 "ping".toUTF8))).map
      (.remote (.v4 ⟨#v[10, 0, 0, host]⟩ 5000), ·)
  (traffic 7 2 ++ traffic 8 3).foldl (fun s d => (s.handle false d.1 d.2 0).2)
    (.new "lobby" 4)

theorem exists_history_foldl (traffic : List (Address × ByteArray)) :
    ∃ answers, History "lobby" 4 answers
      (traffic.foldl (fun s d => (s.handle false d.1 d.2 0).2) (.new "lobby" 4)) := by
  induction traffic using List.reverseRecOn with
  | nil => exact ⟨[], .new⟩
  | append_singleton traffic d ih =>
      obtain ⟨answers, hhistory⟩ := ih
      rw [List.foldl_concat]
      exact ⟨_, hhistory.handle false d.1 d.2 0⟩

/-- Two echoes that leave in either order.  Of the two clients the first one was silent for
exactly as long as it may be, and the second one for a nanosecond more. -/
theorem History.serving_order_free_of_two_debts :
    let hub : Hub := .ofSocket { qport := 7 } .plain (.v4 ⟨#v[10, 0, 0, 1]⟩ 27960)
    let checked : Nat → Instant := fun id => defaultClientTimeout + (id - 1)
    ∃ answers, History "lobby" 4 answers indebted ∧
      (∀ p ∈ indebted.roster.peers, p.channel.remote ≠ .loopback) ∧
      hub.settings.Regular ∧
      indebted.roster.peers.map (fun p => (p.share indebted.fragmentsPerTick).length) =
        [1, 1] ∧
      indebted.overdue hub 0 checked = [2] ∧
      AttendAlike (indebted.withPeers indebted.roster.peers)
        (indebted.withPeers indebted.roster.peers.reverse) hub 0 checked := by
  intro hub checked
  obtain ⟨answers, hhistory⟩ : ∃ answers, History "lobby" 4 answers indebted :=
    exists_history_foldl _
  have hnetwork : ∀ p ∈ indebted.roster.peers, p.channel.remote ≠ .loopback := by
    decide +kernel
  have hregular : hub.settings.Regular := Settings.regular_of_zero rfl rfl
  have howed : indebted.roster.peers.map
      (fun p => (p.share indebted.fragmentsPerTick).length) = [1, 1] := by
    decide +kernel
  have hoverdue : indebted.overdue hub 0 checked = [2] := by
    decide +kernel
  obtain ⟨-, -, halike⟩ := hhistory.serving_order_free hnetwork hregular 0 checked
  exact ⟨answers, hhistory, hnetwork, hregular, howed, hoverdue,
    halike _ _ (.refl _) (List.reverse_perm _)⟩

end Server
end DatagramLink

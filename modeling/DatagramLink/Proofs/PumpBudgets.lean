import Mathlib.Data.List.TakeDrop
import DatagramLink.Proofs.ChannelInvariant
import DatagramLink.Proofs.ConstantLatency
import DatagramLink.Proofs.SendingFaults

/-!
# Budgets of a pump

What a server sends to a client is a fixed list of datagrams (`Peer.backlog`), and a pump
hands the next ones of that list to the hub, as many as its budget allows.  Where a budget
ends, inside a message or between two of them, shows nowhere else: two pumps at the same
time are one pump with both budgets.
-/

namespace DatagramLink

/-! ## Channels -/

namespace Packet

theorem stream_eq_nil_iff {stamp : Option UInt16} {sequence : UInt32}
    {messages : List ByteArray} :
    stream stamp sequence messages = [] ↔ messages = [] := by
  cases messages with
  | nil => exact iff_of_true rfl rfl
  | cons message rest =>
      refine iff_of_false (fun hnil => ?_) (List.cons_ne_nil _ _)
      have hlength := length_ofMessage stamp sequence message
      rw [(List.append_eq_nil_iff.mp hnil).1, Channel.datagramCount] at hlength
      split at hlength <;> cases hlength

end Packet

namespace Channel

variable {c : Channel}

/-- Something is pending as long as fragments are unsent or messages are queued. -/
theorem pending_eq_nil_iff (haligned : c.Aligned) (queue : List ByteArray) :
    c.pending queue = [] ↔ c.isBusy = false ∧ queue = [] := by
  cases hunsent : c.outgoing.unsent with
  | none =>
      have hidle : c.isBusy = false := by simp [isBusy, hunsent]
      rw [pending_of_idle hidle, Packet.stream_eq_nil_iff]
      simp [hidle]
  | some u =>
      obtain ⟨k, hk, hstart⟩ := haligned.unsent u hunsent
      have hnumber : u.start / fragmentSize = k := by
        rw [hstart]
        exact Nat.mul_div_cancel_left k (by decide)
      have hbusy : c.isBusy = true := by simp [isBusy, hunsent]
      simp only [pending, hunsent, hnumber, Packet.fragments_cons hk, hbusy]
      simp

theorem pump_idle (hidle : c.outgoing.unsent = none) (budget : Nat) :
    c.pump [] budget = .ok ⟨c, [], []⟩ := by
  cases budget with
  | zero => rfl
  | succ budget => simp only [pump, hidle]

/-- A budget in two parts sends what it sends in one. -/
theorem pump_add (c : Channel) (queue : List ByteArray) (a b : Nat) :
    c.pump queue (a + b) = (do
      let first ← c.pump queue a
      let second ← first.channel.pump first.queue b
      return { second with dispatches := first.dispatches ++ second.dispatches }) := by
  induction a generalizing c queue with
  | zero =>
      rw [Nat.zero_add]
      change c.pump queue b = (do
        let second ← c.pump queue b
        return { second with dispatches := [] ++ second.dispatches })
      cases c.pump queue b <;> rfl
  | succ a ih =>
      -- a datagram in front of both sides is a datagram in front of their equation
      have hstep : ∀ (sent : Except Fault (Dispatch × Channel)) (rest : List ByteArray),
          (do
            let next ← sent
            let later ← next.2.pump rest (a + b)
            return { later with dispatches := next.1 :: later.dispatches } :
              Except Fault Pumped) =
          (do
            let first ← (do
              let next ← sent
              let later ← next.2.pump rest a
              return { later with dispatches := next.1 :: later.dispatches } :
                Except Fault Pumped)
            let second ← first.channel.pump first.queue b
            return { second with dispatches := first.dispatches ++ second.dispatches }) := by
        intro sent rest
        cases sent with
        | error fault => rfl
        | ok next =>
            simp only [bind, Except.bind, ih next.2 rest]
            cases next.2.pump rest a with
            | error fault => rfl
            | ok first =>
                simp only [pure, Except.pure]
                cases first.channel.pump first.queue b <;> rfl
      rw [Nat.add_right_comm]
      cases hunsent : c.outgoing.unsent with
      | some u =>
          simp only [pump, hunsent]
          exact hstep _ queue
      | none =>
          cases queue with
          | nil => simp [pump_idle hunsent, bind, Except.bind, pure, Except.pure]
          | cons message queue =>
              simp only [pump, hunsent]
              exact hstep _ queue

/-- A pump takes its budget off the front of what is pending. -/
theorem pump_takes (haligned : c.Aligned) (queue : List ByteArray) (budget : Nat) :
    ∃ pumped, c.pump queue budget = .ok pumped ∧
      Sending c queue pumped.dispatches pumped.channel pumped.queue ∧
      pumped.dispatches.map Dispatch.bytes =
        ((c.pending queue).take budget).map Packet.bytes ∧
      pumped.channel.pending pumped.queue = (c.pending queue).drop budget := by
  obtain ⟨pumped, hpump, hsending, hwithin, hstop⟩ := pump_spec haligned queue budget
  obtain ⟨packets, hbytes, hpending⟩ := hsending.pending
  have hall := hpending []
  rw [List.append_nil, List.append_nil] at hall
  have hlength : packets.length = pumped.dispatches.length := by
    simpa using (congrArg List.length hbytes).symm
  refine ⟨pumped, hpump, hsending, ?_⟩
  rcases Nat.lt_or_eq_of_le hwithin with hless | hequal
  · have hnone := (pending_eq_nil_iff hsending.aligned pumped.queue).mpr (hstop hless)
    rw [hnone, List.append_nil] at hall
    rw [hall, List.take_of_length_le (by omega), List.drop_of_length_le (by omega)]
    exact ⟨hbytes, hnone⟩
  · rw [hall, List.take_left' (by omega), List.drop_left' (by omega)]
    exact ⟨hbytes, rfl⟩

end Channel

/-! ## Hubs -/

namespace Hub

/-- Dispatches in two lots are handed over as they are in one. -/
theorem dispatchAll_append (h : Hub) (first second : List Dispatch) (now : Instant) :
    h.dispatchAll (first ++ second) now =
      (h.dispatchAll first now).andThen fun x =>
        (x.2.dispatchAll second now).map fun y => (x.1 + y.1, y.2) := by
  induction first generalizing h with
  | nil =>
      change h.dispatchAll second now =
        (h.dispatchAll second now).map fun y => (0 + y.1, y.2)
      simp [Attempt.map]
  | cons d first ih =>
      rw [List.cons_append, dispatchAll, dispatchAll]
      obtain ⟨between, _ | fault⟩ := h.dispatch d now
      · simp only [ih between]
        obtain ⟨⟨count, left⟩, _ | fault⟩ := between.dispatchAll first now
        · simp only [Attempt.andThen, Attempt.map, Nat.add_right_comm]
        · rfl
      · rfl

/-- A hub without chance carries all that it is handed. -/
theorem dispatchAll_regular {h : Hub} (hregular : h.settings.Regular) (sent : List Dispatch)
    (now : Instant) :
    ∃ after, h.dispatchAll sent now = .done (sent.length, after) ∧
      after.settings = h.settings := by
  induction sent generalizing h with
  | nil => exact ⟨h, rfl, rfl⟩
  | cons d sent ih =>
      have hsend := (h.report [d.note]).keeps_send d.side d.bytes d.target now
      have hdone : (h.dispatch d now).fault = none := by
        apply Option.eq_none_iff_forall_ne_some.mpr
        intro fault hfault
        have hjitter := (hsend.stopped fault hfault).jitter
        exact absurd hregular.even (Nat.ne_of_gt hjitter)
      have hsettings : (h.dispatch d now).reached.settings = h.settings := hsend.reached
      have hnext : (h.dispatch d now).reached.settings.Regular := by
        rw [hsettings]
        exact hregular
      obtain ⟨after, hrest, hsame⟩ := ih hnext
      rw [dispatchAll_cons_of_done hdone, hrest]
      exact ⟨after, rfl, hsame.trans hsettings⟩

end Hub

/-! ## Clients of a server -/

namespace Peer

/-- The datagrams that are still to be sent: the fragments that are left of the message in
between, then every queued message completely. -/
def backlog (p : Peer) : List Packet := p.channel.pending p.queue

/-- One pump: it ends without a fault, and the hub is handed `sent`, the next datagrams of
the backlog. -/
structure Sends (p : Peer) (h : Hub) (budget : Nat) (now : Instant) (sent : List Dispatch)
    (q : Peer) (g : Hub) : Prop where
  called : p.pump h budget now = .done (q, g)
  handed : h.dispatchAll sent now = .done (sent.length, g)
  addressed : ∀ d ∈ sent, d.side = p.channel.side ∧ d.target = p.channel.remote
  count : sent.length = min budget p.backlog.length
  bytes : sent.map Dispatch.bytes = (p.backlog.take budget).map Packet.bytes
  left : q.backlog = p.backlog.drop budget
  pending : q.hasPending = false ↔ q.backlog = []

variable {p : Peer} {h : Hub}

theorem hasPending_iff (haligned : p.channel.Aligned) :
    p.hasPending = false ↔ p.backlog = [] := by
  rw [backlog, Channel.pending_eq_nil_iff haligned]
  simp [hasPending]

theorem pump_of_done {budget count : Nat} {now : Instant} {pumped : Channel.Pumped} {g : Hub}
    (hpump : p.channel.pump p.queue budget = .ok pumped)
    (hhanded : h.dispatchAll pumped.dispatches now = .done (count, g)) :
    p.pump h budget now =
      .done ({ p with channel := pumped.channel, queue := pumped.queue }, g) := by
  simp only [pump, Channel.ship, hpump, hhanded]
  rfl

theorem exists_sends (haligned : p.channel.Aligned) (hregular : h.settings.Regular)
    (budget : Nat) (now : Instant) :
    ∃ sent q g, p.Sends h budget now sent q g ∧ q.channel.Aligned ∧
      g.settings = h.settings := by
  obtain ⟨pumped, hpump, hsending, hbytes, hleft⟩ :=
    Channel.pump_takes haligned p.queue budget
  obtain ⟨g, hhanded, hsettings⟩ := h.dispatchAll_regular hregular pumped.dispatches now
  refine ⟨pumped.dispatches, { p with channel := pumped.channel, queue := pumped.queue }, g,
    ?_, hsending.aligned, hsettings⟩
  exact
    { called := pump_of_done hpump hhanded
      handed := hhanded
      addressed := hsending.addressed
      count := by simpa [backlog] using congrArg List.length hbytes
      bytes := hbytes
      left := hleft
      pending := hasPending_iff hsending.aligned }

/-- Two pumps at the same time are one pump with both budgets. -/
theorem pump_add (haligned : p.channel.Aligned) (hregular : h.settings.Regular) (a b : Nat)
    (now : Instant) :
    ((p.pump h a now).andThen fun x => x.1.pump x.2 b now) = p.pump h (a + b) now := by
  obtain ⟨first, hfirst, hsending, -, -⟩ := Channel.pump_takes haligned p.queue a
  obtain ⟨second, hsecond, -, -, -⟩ := Channel.pump_takes hsending.aligned first.queue b
  obtain ⟨between, hbetween, hsettings⟩ :=
    h.dispatchAll_regular hregular first.dispatches now
  have hstill : between.settings.Regular := by
    rw [hsettings]
    exact hregular
  obtain ⟨after, hafter, -⟩ := between.dispatchAll_regular hstill second.dispatches now
  have hboth : p.channel.pump p.queue (a + b) =
      .ok { second with dispatches := first.dispatches ++ second.dispatches } := by
    rw [Channel.pump_add, hfirst]
    simp only [bind, Except.bind, hsecond]
    rfl
  have hhanded : h.dispatchAll (first.dispatches ++ second.dispatches) now =
      .done (first.dispatches.length + second.dispatches.length, after) := by
    rw [Hub.dispatchAll_append, hbetween, Attempt.done_andThen, hafter]
    rfl
  have hrest : Peer.pump { p with channel := first.channel, queue := first.queue } between b
      now = .done ({ p with channel := second.channel, queue := second.queue }, after) :=
    pump_of_done hsecond hafter
  rw [pump_of_done hfirst hbetween, pump_of_done hboth hhanded, Attempt.done_andThen]
  exact hrest

/-- Pumps one after another, each with its budget and its time, and what every one of them
hands to the hub. -/
inductive Shares :
    Peer → Hub → List (Nat × Instant) → List (List Dispatch) → Peer → Hub → Prop
  | none {p : Peer} {h : Hub} : Shares p h [] [] p h
  | next {p q r : Peer} {h g k : Hub} {budget : Nat} {now : Instant}
      {shares : List (Nat × Instant)} {sent : List Dispatch} {later : List (List Dispatch)}
      (hsends : p.Sends h budget now sent q g) (hrest : Shares q g shares later r k) :
      Shares p h ((budget, now) :: shares) (sent :: later) r k

theorem exists_shares (haligned : p.channel.Aligned) (hregular : h.settings.Regular)
    (shares : List (Nat × Instant)) :
    ∃ sent q g, Shares p h shares sent q g ∧ q.channel.Aligned ∧
      sent.flatten.map Dispatch.bytes =
        (p.backlog.take (shares.map Prod.fst).sum).map Packet.bytes ∧
      q.backlog = p.backlog.drop (shares.map Prod.fst).sum := by
  induction shares generalizing p h with
  | nil => exact ⟨[], p, h, .none, haligned, rfl, rfl⟩
  | cons share shares ih =>
      obtain ⟨budget, now⟩ := share
      obtain ⟨sent, q, g, hsends, hnext, hsettings⟩ :=
        exists_sends haligned hregular budget now
      have hstill : g.settings.Regular := by
        rw [hsettings]
        exact hregular
      obtain ⟨later, r, k, hrest, hlast, hbytes, hleft⟩ := ih hnext hstill
      refine ⟨sent :: later, r, k, .next hsends hrest, hlast, ?_, ?_⟩
      · rw [List.flatten_cons, List.map_append, hsends.bytes, hbytes, hsends.left,
          List.map_cons, List.sum_cons, List.take_add, List.map_append]
      · rw [hleft, hsends.left, List.drop_drop, List.map_cons, List.sum_cons]

/-- What a client is sent is its backlog in order, and only the total budget counts. -/
structure PumpsInOrder (p : Peer) (h : Hub) : Prop where
  additive : ∀ a b now,
    ((p.pump h a now).andThen fun x => x.1.pump x.2 b now) = p.pump h (a + b) now
  ordered : ∀ shares : List (Nat × Instant), ∃ sent q g,
    Shares p h shares sent q g ∧
      sent.flatten.map Dispatch.bytes =
        (p.backlog.map Packet.bytes).take (shares.map Prod.fst).sum ∧
      (q.hasPending = false ↔
        sent.flatten.map Dispatch.bytes = p.backlog.map Packet.bytes)

theorem PumpsInOrder.of_aligned (haligned : p.channel.Aligned) (hregular : h.settings.Regular) :
    PumpsInOrder p h := by
  refine ⟨pump_add haligned hregular, fun shares => ?_⟩
  obtain ⟨sent, q, g, hshares, hlast, hbytes, hleft⟩ :=
    exists_shares haligned hregular shares
  rw [List.map_take] at hbytes
  refine ⟨sent, q, g, hshares, hbytes, ?_⟩
  rw [hasPending_iff hlast, hleft, hbytes, List.drop_eq_nil_iff, List.take_eq_self_iff,
    List.length_map]

/-- Whatever a client's channel sent and received before and whatever is queued, on a hub
without chance only the total budget counts.  Pumps with any budgets, at any times, hand
the backlog to the hub from its front on, each as many datagrams as it may and as there
are, and nothing is pending exactly when the whole backlog was sent.  None of them stops
at a fault, so none starts a message while fragments of the one before it are unsent. -/
theorem pumps_in_order (id : Nat) (remote : Address) (qport : UInt16) (showDrops : Bool)
    (calls : List Channel.Call) (lastSeen : Instant) (queue : List ByteArray) {h : Hub}
    (hregular : h.settings.Regular) :
    PumpsInOrder
      ⟨id, (Channel.setup .server remote qport showDrops).run calls, lastSeen, queue⟩ h := by
  have hsound := (Channel.sound_setup .server remote qport showDrops).run calls
  exact .of_aligned hsound.aligned hregular

/-- A client with the first of three fragments sent and another message queued. -/
theorem pumps_in_order_of_split_reply :
    (Hub.loopbackOnly { qport := 7 }).settings.Regular ∧
      PumpsInOrder
        ⟨1, (Channel.setup .server .loopback 7 false).run
            [.transmit ⟨Array.replicate 3000 0⟩], 0, ["next".toUTF8]⟩
        (Hub.loopbackOnly { qport := 7 }) := by
  have hregular : (Hub.loopbackOnly { qport := 7 }).settings.Regular :=
    Settings.regular_of_zero rfl rfl
  exact ⟨hregular, pumps_in_order 1 .loopback 7 false _ 0 _ hregular⟩

end Peer
end DatagramLink

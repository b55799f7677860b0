import DatagramLink.Channel.Exchange
import DatagramLink.Proofs.ChannelSafety
import DatagramLink.Proofs.RingQueue

/-!
# Loopback links

One side of a process sends messages to the other over a loopback ring.  Calls that
send and calls that take come in any order, and the only demand is that the reader
keeps up: never more than sixteen datagrams are unread.

What makes the link lossless is `Link.Flowing`: the datagrams in the ring followed by
those that the sender still has to send are what the receiver expects.  A sending call
moves the first datagram of the sender to the end of the ring, and a taking call moves
the first one of the ring to the receiver.
-/

namespace DatagramLink

/-- Two ends of a connection on one hub, with the messages that wait to be sent and
those that were delivered. -/
structure Link where
  sender : Channel
  receiver : Channel
  hub : Hub
  queue : List ByteArray
  delivered : List ByteArray := []

namespace Link

inductive Call where
  /-- The sender starts its next message.  While fragments are unsent it refuses, and
  the message stays queued. -/
  | start (now : Instant)
  | resume (now : Instant)
  | take

def step (l : Link) : Call → Except Fault Link
  | .start now =>
      match l.queue with
      | [] => .ok l
      | message :: queue =>
          match l.sender.transmit message with
          | .error .messageUnsent => .ok l
          | .error fault => .error fault
          | .ok (d, sender) =>
              (l.hub.dispatch d now).result.map fun hub => { l with sender, hub, queue }
  | .resume now =>
      match l.sender.transmitNext with
      | .error fault => .error fault
      | .ok (none, sender) => .ok { l with sender }
      | .ok (some d, sender) =>
          (l.hub.dispatch d now).result.map fun hub => { l with sender, hub }
  | .take =>
      match l.hub.pollRing l.receiver.side with
      | (none, hub) => .ok { l with hub }
      | (some datagram, hub) =>
          match l.receiver.receiveOn hub .loopback datagram with
          | (receipt, receiver, hub) =>
              .ok { l with
                receiver
                hub
                delivered := l.delivered ++ receipt.message?.toList }

def run : List Call → Link → Except Fault Link
  | [], l => .ok l
  | call :: rest, l =>
      match l.step call with
      | .error fault => .error fault
      | .ok next => run rest next

def backlog (l : Link) : Nat :=
  (l.hub.ringOf l.receiver.side).sent - (l.hub.ringOf l.receiver.side).taken

/-- At no time more than sixteen datagrams are unread. -/
def InTime : List Call → Link → Prop
  | [], l => l.backlog ≤ ringSize
  | call :: rest, l =>
      l.backlog ≤ ringSize ∧ ∀ next, l.step call = .ok next → InTime rest next

def sends (l : Link) : Call → Bool
  | .start _ => !l.queue.isEmpty && !l.sender.isBusy
  | .resume _ => l.sender.isBusy
  | .take => false

theorem InTime.backlog_le {calls : List Call} {l : Link} (hintime : InTime calls l) :
    l.backlog ≤ ringSize := by
  cases calls with
  | nil => exact hintime
  | cons call rest => exact hintime.1

theorem step_of_sends {l : Link} (haligned : l.sender.Aligned) {call : Call}
    (hsends : l.sends call = true) :
    ∃ d sender queue now, l.sender.Sending l.queue [d] sender queue ∧
      ∀ hub, (l.hub.dispatch d now).result = .ok hub →
        l.step call = .ok { l with sender, hub, queue } := by
  cases call with
  | take => cases hsends
  | start now =>
      cases hqueue : l.queue with
      | nil => simp [sends, hqueue] at hsends
      | cons message queue =>
          have hidle : l.sender.isBusy = false := by
            simpa [sends, hqueue] using hsends
          obtain ⟨d, sender, htransmit, hsending⟩ :=
            Channel.sending_message haligned hidle message queue
          refine ⟨d, sender, queue, now, hsending, fun hub hresult => ?_⟩
          simp only [step, hqueue, htransmit, hresult, Except.map]
  | resume now =>
      obtain ⟨d, sender, htransmit, hsending⟩ :=
        Channel.sending_transmitNext haligned hsends l.queue
      refine ⟨d, sender, l.queue, now, hsending, fun hub hresult => ?_⟩
      simp only [step, htransmit, hresult, Except.map]

theorem step_of_not_sends {l : Link} {call : Call} (hsends : l.sends call = false)
    (htake : call ≠ .take) :
    l.step call = .ok l := by
  cases call with
  | take => exact absurd rfl htake
  | start now =>
      cases hqueue : l.queue with
      | nil => simp only [step, hqueue]
      | cons message queue =>
          have hbusy : l.sender.isBusy = true := by
            simpa [sends, hqueue] using hsends
          simp only [step, hqueue, Channel.transmit, hbusy, if_true]
  | resume now =>
      have hunsent : l.sender.outgoing.unsent = none := by
        simpa [sends, Channel.isBusy] using hsends
      simp only [step, Channel.transmitNext, hunsent]

/-! ## The invariant -/

/-- What was delivered, what is in the ring and what the sender still has to send make
up the messages, and the receiver has refused nothing. -/
structure Flowing (last : UInt32) (messages : List ByteArray) (tally : Tally)
    (l : Link) : Prop where
  ends : Channel.Matches l.sender l.receiver
  aligned : l.sender.Aligned
  target : l.sender.remote = .loopback
  source : l.receiver.remote = .loopback
  carried : ∃ flying : List Packet,
    (l.hub.ringOf l.receiver.side).Holds (flying.map Packet.bytes) ∧
      l.receiver.Expects (flying ++ l.sender.pending l.queue) ∧
      l.delivered ++ (flying ++ l.sender.pending l.queue).filterMap Packet.completes =
        messages
  sequence : l.receiver.incoming.sequence = Sequence.advance l.delivered.length last
  discarded : l.receiver.incoming.tally.discarded = tally.discarded
  abandoned : l.receiver.incoming.tally.abandoned = tally.abandoned
  totalDropped : l.receiver.incoming.tally.totalDropped = tally.totalDropped

section
variable {last : UInt32} {messages : List ByteArray} {tally : Tally} {l : Link}

theorem Flowing.dispatch
    (hflowing : Flowing last messages tally l) {d : Dispatch} {sender : Channel}
    {queue : List ByteArray} (hsending : l.sender.Sending l.queue [d] sender queue)
    (now : Instant) :
    ∃ hub, (l.hub.dispatch d now).result = .ok hub ∧
      ({ l with sender, hub, queue } : Link).backlog = l.backlog + 1 ∧
      (l.backlog < ringSize → Flowing last messages tally { l with sender, hub, queue }) := by
  obtain ⟨flying, hholds, hexpects, hmessages⟩ := hflowing.carried
  obtain ⟨hside, htarget⟩ := hsending.addressed d List.mem_cons_self
  rw [hflowing.target] at htarget
  obtain ⟨hub, hdispatch, hpushed, -, -⟩ := l.hub.dispatch_loopback htarget now
  have hresult : (l.hub.dispatch d now).result = .ok hub := by
    rw [hdispatch]
    rfl
  have hreader : d.side.peer = l.receiver.side := by
    rw [hside, hflowing.ends.side]
  rw [hreader] at hpushed
  have hcounted := hholds.counted
  rw [List.length_map] at hcounted
  refine ⟨hub, hresult, ?_, fun hroom => ?_⟩
  · simp only [backlog, hpushed, Ring.push]
    omega
  · obtain ⟨packets, hbytes, hpending⟩ := hsending.pending
    obtain ⟨outgoing, hframe⟩ := hsending.frame
    have hpackets := hpending []
    rw [List.append_nil, List.append_nil] at hpackets
    rw [List.map_singleton] at hbytes
    have hflying : (flying.map Packet.bytes).length < ringSize := by
      unfold backlog at hroom
      rw [List.length_map]
      omega
    refine
      { ends := ⟨?_, ?_⟩
        aligned := hsending.aligned
        target := ?_
        source := hflowing.source
        carried := ⟨flying ++ packets, ?_, ?_, ?_⟩
        sequence := hflowing.sequence
        discarded := hflowing.discarded
        abandoned := hflowing.abandoned
        totalDropped := hflowing.totalDropped }
    · rw [hframe]
      exact hflowing.ends.side
    · rw [hframe]
      exact hflowing.ends.qport
    · rw [hframe]
      exact hflowing.target
    · simp only [hpushed, List.map_append, ← hbytes]
      exact hholds.push hflying d.bytes
    · rw [List.append_assoc, ← hpackets]
      exact hexpects
    · rw [List.append_assoc, ← hpackets]
      exact hmessages

theorem Flowing.take (hflowing : Flowing last messages tally l) :
    ∃ next, l.step .take = .ok next ∧ Flowing last messages tally next ∧
      next.backlog = l.backlog - 1 ∧ next.sender = l.sender ∧ next.queue = l.queue := by
  obtain ⟨flying, hholds, hexpects, hmessages⟩ := hflowing.carried
  cases flying with
  | nil =>
      have hcaught := hholds.counted
      refine ⟨l, ?_, hflowing, ?_, rfl, rfl⟩
      · simp only [step, Hub.pollRing_of_empty hholds]
      · simp only [backlog, hcaught, List.map_nil, List.length_nil]
        omega
  | cons p flying =>
      rw [List.map_cons] at hholds
      obtain ⟨ring, hpoll, hrest⟩ := Hub.pollRing_of_holds hholds
      obtain ⟨receipt, incoming, hreceive, hcompletes, hadvanced, hexpects'⟩ :=
        hexpects.receive
      have hloopback : l.receiver.receive .loopback (.ofBytes p.bytes) =
          (receipt, { l.receiver with incoming }) := by
        rw [← hflowing.source]
        exact hreceive
      obtain ⟨hdiscarded, habandoned, hdropped⟩ := hadvanced.losses
      have hcounted := hholds.counted
      have hleft := hrest.counted
      rw [List.length_cons] at hcounted
      have hstep : l.step .take = .ok
          { l with
            receiver := { l.receiver with incoming }
            hub := (l.hub.setRing l.receiver.side ring).report receipt.records
            delivered := l.delivered ++ receipt.message?.toList } := by
        simp only [step, hpoll, Channel.receiveOn, hloopback]
      refine ⟨_, hstep, ?_, ?_, rfl, rfl⟩
      rotate_left
      · simp only [backlog, Hub.ringOf_report, Hub.ringOf_setRing]
        omega
      refine
        { ends := ⟨hflowing.ends.side, hflowing.ends.qport⟩
          aligned := hflowing.aligned
          target := hflowing.target
          source := hflowing.source
          carried := ⟨flying, ?_, hexpects', ?_⟩
          sequence := ?_
          discarded := hdiscarded.trans hflowing.discarded
          abandoned := habandoned.trans hflowing.abandoned
          totalDropped := hdropped.trans hflowing.totalDropped }
      · simp only [Hub.ringOf_report, Hub.ringOf_setRing]
        exact hrest
      · rw [List.cons_append, List.filterMap_cons] at hmessages
        rw [hcompletes]
        cases hcase : p.completes with
        | none => simpa [hcase] using hmessages
        | some message => simpa [hcase] using hmessages
      · have hsequence := hadvanced.sequence
        rw [hflowing.sequence] at hsequence
        rw [hcompletes]
        cases hcase : p.completes with
        | none => simpa [hcase] using hsequence
        | some message => simpa [hcase, Sequence.advance] using hsequence

theorem Flowing.step
    (hflowing : Flowing last messages tally l) (call : Call)
    (hroom : ∀ next, l.step call = .ok next → next.backlog ≤ ringSize) :
    ∃ next, l.step call = .ok next ∧ Flowing last messages tally next := by
  by_cases htake : call = .take
  · subst call
    obtain ⟨next, hstep, hnext, -⟩ := hflowing.take
    exact ⟨next, hstep, hnext⟩
  · cases hsends : l.sends call with
    | false => exact ⟨l, step_of_not_sends hsends htake, hflowing⟩
    | true =>
        obtain ⟨d, sender, queue, now, hsending, hcall⟩ :=
          step_of_sends hflowing.aligned hsends
        obtain ⟨hub, hresult, hbacklog, hnext⟩ := hflowing.dispatch hsending now
        have hstep := hcall hub hresult
        have hafter := hroom _ hstep
        exact ⟨_, hstep, hnext (by omega)⟩

theorem Flowing.run
    (hflowing : Flowing last messages tally l) {calls : List Call}
    (hintime : InTime calls l) :
    ∃ final, Link.run calls l = .ok final ∧ Flowing last messages tally final := by
  induction calls generalizing l with
  | nil => exact ⟨l, rfl, hflowing⟩
  | cons call calls ih =>
      obtain ⟨next, hstep, hnext⟩ := hflowing.step call
        fun next hnext => (hintime.2 next hnext).backlog_le
      obtain ⟨final, hrun, hfinal⟩ := ih hnext (hintime.2 next hstep)
      refine ⟨final, ?_, hfinal⟩
      simp only [Link.run, hstep, hrun]

structure Complete (l : Link) : Prop where
  started : l.queue = []
  sent : l.sender.isBusy = false
  drained : l.backlog = 0

theorem Flowing.delivered_eq
    (hflowing : Flowing last messages tally l) (hcomplete : Complete l) :
    l.delivered = messages := by
  obtain ⟨flying, hholds, -, hmessages⟩ := hflowing.carried
  have hempty : flying = [] := by
    have hcounted := hholds.counted
    have hdrained := hcomplete.drained
    unfold backlog at hdrained
    rw [List.length_map] at hcounted
    exact List.length_eq_zero_iff.mp (by omega)
  rw [hempty, hcomplete.started, Channel.pending_of_idle hcomplete.sent] at hmessages
  simpa [Packet.stream] using hmessages

end

theorem flowing_start
    {sender receiver : Channel} {last : UInt32}
    (hpaired : Channel.Paired sender receiver last)
    (htarget : sender.remote = .loopback) (hsource : receiver.remote = .loopback)
    {hub : Hub}
    (hread : (hub.ringOf receiver.side).taken = (hub.ringOf receiver.side).sent)
    {messages : List ByteArray}
    (hsizes : ∀ message ∈ messages, message.size ≤ maxMessageSize) :
    Flowing last messages receiver.incoming.tally
      { sender, receiver, hub, queue := messages } where
  ends := hpaired.ends
  aligned := hpaired.aligned
  target := htarget
  source := hsource
  carried := by
    refine ⟨[], Ring.holds_of_caught_up hread, hpaired.expects hsizes, ?_⟩
    rw [List.nil_append, List.nil_append, hpaired.pending_eq, Packet.completes_stream]
  sequence := hpaired.accepted
  discarded := rfl
  abandoned := rfl
  totalDropped := rfl

/-- There is always a schedule that is in time and completes: one call that sends, one
that takes. -/
theorem Flowing.exists_complete
    {last : UInt32} {messages : List ByteArray} {tally : Tally} {l : Link}
    (hflowing : Flowing last messages tally l) (hdrained : l.backlog = 0) :
    ∃ calls final, InTime calls l ∧ Link.run calls l = .ok final ∧ Complete final := by
  induction hleft : (l.sender.pending l.queue).length generalizing l with
  | zero =>
      have hsends : ∀ call, l.sends call = false := by
        intro call
        cases hcall : l.sends call with
        | false => rfl
        | true =>
            obtain ⟨d, sender, queue, now, hsending, -⟩ :=
              step_of_sends hflowing.aligned hcall
            obtain ⟨packets, hbytes, hpending⟩ := hsending.pending
            have hone := congrArg List.length hbytes
            have hcount := congrArg List.length (hpending [])
            simp only [List.length_map, List.length_append, List.length_singleton,
              List.append_nil] at hone hcount
            omega
      have hidle : l.sender.isBusy = false := hsends (.resume 0)
      have hqueue : l.queue = [] := by
        have hstart := hsends (.start 0)
        simpa [sends, hidle] using hstart
      refine ⟨[], l, ?_, rfl, hqueue, hidle, hdrained⟩
      change l.backlog ≤ ringSize
      omega
  | succ left ih =>
      have hready : ∃ call, l.sends call = true := by
        cases hbusy : l.sender.isBusy with
        | true => exact ⟨.resume 0, hbusy⟩
        | false =>
            refine ⟨.start 0, ?_⟩
            cases hqueue : l.queue with
            | nil =>
                rw [hqueue, Channel.pending_of_idle hbusy] at hleft
                simp [Packet.stream] at hleft
            | cons message queue => simp [sends, hqueue, hbusy]
      obtain ⟨call, hsends⟩ := hready
      obtain ⟨d, sender, queue, now, hsending, hcall⟩ :=
        step_of_sends hflowing.aligned hsends
      obtain ⟨hub, hresult, hbacklog, hsent⟩ := hflowing.dispatch hsending now
      have hstep := hcall hub hresult
      have hmid := hsent (by rw [hdrained]; decide)
      obtain ⟨next, htake, hnext, hempty, hsender, hqueue⟩ := hmid.take
      obtain ⟨packets, hbytes, hpending⟩ := hsending.pending
      have hone := congrArg List.length hbytes
      have hcount := congrArg List.length (hpending [])
      simp only [List.length_map, List.length_append, List.length_singleton,
        List.append_nil] at hone hcount
      have hless : (next.sender.pending next.queue).length = left := by
        rw [hsender, hqueue]
        simp only
        omega
      obtain ⟨calls, final, hintime, hrun, hcomplete⟩ := ih hnext (by omega) hless
      refine ⟨call :: .take :: calls, final, ?_, ?_, hcomplete⟩
      · refine ⟨by omega, fun mid hmid => ?_⟩
        rw [hstep] at hmid
        cases hmid
        refine ⟨by rw [hbacklog, hdrained]; decide, fun after hafter => ?_⟩
        rw [htake] at hafter
        cases hafter
        exact hintime
      · simp only [Link.run, hstep, htake, hrun]

/-- A link whose reader keeps up delivers every message once and in order, in either
direction and on any hub.  No call faults, and the receiver counts no loss. -/
theorem run_delivers_all
    {sender receiver : Channel} {last : UInt32}
    (hpaired : Channel.Paired sender receiver last)
    (htarget : sender.remote = .loopback) (hsource : receiver.remote = .loopback)
    {hub : Hub}
    (hread : (hub.ringOf receiver.side).taken = (hub.ringOf receiver.side).sent)
    {messages : List ByteArray}
    (hsizes : ∀ message ∈ messages, message.size ≤ maxMessageSize) :
    (∃ calls final, InTime calls { sender, receiver, hub, queue := messages } ∧
        run calls { sender, receiver, hub, queue := messages } = .ok final ∧
        Complete final) ∧
      ∀ calls, InTime calls { sender, receiver, hub, queue := messages } →
        ∃ final, run calls { sender, receiver, hub, queue := messages } = .ok final ∧
          (Complete final →
            final.delivered = messages ∧
              final.receiver.incoming.tally.discarded =
                receiver.incoming.tally.discarded ∧
              final.receiver.incoming.tally.abandoned =
                receiver.incoming.tally.abandoned ∧
              final.receiver.incoming.tally.totalDropped =
                receiver.incoming.tally.totalDropped ∧
              final.receiver.incoming.sequence =
                Sequence.advance messages.length last) := by
  have hstart := flowing_start hpaired htarget hsource hread hsizes
  constructor
  · refine hstart.exists_complete ?_
    simp only [backlog, hread, Nat.sub_self]
  · intro calls hintime
    obtain ⟨final, hrun, hflowing⟩ := hstart.run hintime
    refine ⟨final, hrun, fun hcomplete => ?_⟩
    have hdelivered := hflowing.delivered_eq hcomplete
    refine ⟨hdelivered, hflowing.discarded, hflowing.abandoned, hflowing.totalDropped, ?_⟩
    rw [hflowing.sequence, hdelivered]

/-- From a server to a client, with the sequence passing the end of the circle. -/
theorem run_delivers_across_wrap :
    let sender : Channel := ⟨.server, .loopback, 7, false, ⟨0x7FFFFFFE, none⟩, {}⟩
    let receiver : Channel := ⟨.client, .loopback, 7, false, {}, ⟨0x7FFFFFFD, .idle, {}⟩⟩
    let start : Link :=
      ⟨sender, receiver, .loopbackOnly { qport := 7 }, ["first".toUTF8, "second".toUTF8], []⟩
    Channel.Paired sender receiver 0x7FFFFFFD ∧
      (∃ calls final, InTime calls start ∧ run calls start = .ok final ∧ Complete final) ∧
      ∀ calls, InTime calls start →
        ∃ final, run calls start = .ok final ∧
          (Complete final →
            final.delivered = ["first".toUTF8, "second".toUTF8] ∧
              final.receiver.incoming.tally.discarded = 0 ∧
              final.receiver.incoming.tally.abandoned = 0 ∧
              final.receiver.incoming.tally.totalDropped = 0 ∧
              final.receiver.incoming.sequence = 1) := by
  intro sender receiver start
  have hpaired : Channel.Paired sender receiver 0x7FFFFFFD :=
    ⟨⟨rfl, rfl⟩, Or.inr (by decide), by decide, rfl, rfl, rfl⟩
  have hsizes : ∀ message ∈ ["first".toUTF8, "second".toUTF8],
      message.size ≤ maxMessageSize := by decide
  exact ⟨hpaired, run_delivers_all hpaired rfl rfl rfl hsizes⟩

end Link
end DatagramLink

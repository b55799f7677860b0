import DatagramLink.Channel.Sending
import DatagramLink.Proofs.HeaderCodec

/-!
# Splitting messages into datagrams

What a channel sends for a queue of messages is fixed before anything is sent: the
fragments that are unsent, then the datagrams of every queued message, each message
with the next sequence.  `Channel.pending` is that list.  Every way of sending takes
datagrams off its front and leaves the rest pending (`Channel.Sending`), whatever is
queued behind, so budgets and interruptions never show in what is sent in the end.
-/

namespace DatagramLink

/-- A datagram of a channel, with the message that it completes. -/
structure Packet where
  header : Header
  payload : ByteArray
  completes : Option ByteArray

namespace Packet

def bytes (p : Packet) : ByteArray := p.header.bytes ++ p.payload

def whole (stamp : Option UInt16) (sequence : UInt32) (message : ByteArray) : Packet where
  header := ⟨sequence, stamp, none⟩
  payload := message
  completes := some message

def fragment (stamp : Option UInt16) (sequence : UInt32) (u : Unsent) : Packet where
  header := ⟨sequence, stamp, some u.nextFragment⟩
  payload := u.nextPayload
  completes := if u.next?.isNone then some u.message else none

/-- The fragments of a message from the `k`-th one on. -/
def fragments (stamp : Option UInt16) (sequence : UInt32) (message : ByteArray) (k : Nat) :
    List Packet :=
  (List.range' k (message.size / fragmentSize + 1 - k)).map fun i =>
    fragment stamp sequence ⟨message, fragmentSize * i⟩

def ofMessage (stamp : Option UInt16) (sequence : UInt32) (message : ByteArray) :
    List Packet :=
  if maxUnfragmentedSize < message.size then
    fragments stamp sequence message 0
  else
    [whole stamp sequence message]

def stream (stamp : Option UInt16) (sequence : UInt32) : List ByteArray → List Packet
  | [] => []
  | message :: rest =>
      ofMessage stamp sequence message ++ stream stamp (Sequence.next sequence) rest

/-! ## Fragments -/

theorem nextLength_eq
    {message : ByteArray} {k : Nat} (hk : k ≤ message.size / fragmentSize) :
    Unsent.nextLength ⟨message, fragmentSize * k⟩ =
      if k = message.size / fragmentSize then message.size % fragmentSize
      else fragmentSize := by
  have hdivision := Nat.div_add_mod message.size fragmentSize
  have hrest : message.size % fragmentSize < fragmentSize :=
    Nat.mod_lt _ (by decide)
  change min fragmentSize (message.size - fragmentSize * k) = _
  by_cases hlast : k = message.size / fragmentSize
  · subst k
    rw [if_pos rfl]
    omega
  · have hmore : fragmentSize * (k + 1) ≤
        fragmentSize * (message.size / fragmentSize) :=
      Nat.mul_le_mul_left _ (by omega)
    rw [Nat.mul_add] at hmore
    rw [if_neg hlast]
    omega

theorem nextPayload_eq
    {message : ByteArray} {k : Nat} (hk : k ≤ message.size / fragmentSize) :
    Unsent.nextPayload ⟨message, fragmentSize * k⟩ =
      message.extract (fragmentSize * k) (min (fragmentSize * (k + 1)) message.size) := by
  have hstart := Nat.mul_le_mul_left fragmentSize hk
  have hdivision := Nat.div_add_mod message.size fragmentSize
  have hstop : Unsent.nextStop ⟨message, fragmentSize * k⟩ =
      min (fragmentSize * (k + 1)) message.size := by
    rw [Unsent.nextStop, Unsent.nextLength, Nat.mul_add]
    simp only
    omega
  rw [Unsent.nextPayload, hstop]

theorem next?_eq
    {message : ByteArray} {k : Nat} (hk : k ≤ message.size / fragmentSize) :
    Unsent.next? ⟨message, fragmentSize * k⟩ =
      if k = message.size / fragmentSize then none
      else some ⟨message, fragmentSize * (k + 1)⟩ := by
  have hrest : message.size % fragmentSize < fragmentSize :=
    Nat.mod_lt _ (by decide)
  unfold Unsent.next? Unsent.nextStop
  rw [nextLength_eq hk]
  by_cases hlast : k = message.size / fragmentSize
  · simp [hlast, hrest]
  · simp [hlast, Nat.mul_add]

theorem completes_fragment
    {message : ByteArray} {k : Nat} (hk : k ≤ message.size / fragmentSize)
    (stamp : Option UInt16) (sequence : UInt32) :
    (fragment stamp sequence ⟨message, fragmentSize * k⟩).completes =
      if k = message.size / fragmentSize then some message else none := by
  simp only [fragment, next?_eq hk]
  split <;> simp

theorem fragments_cons
    {message : ByteArray} {k : Nat} (hk : k ≤ message.size / fragmentSize)
    (stamp : Option UInt16) (sequence : UInt32) :
    fragments stamp sequence message k =
      fragment stamp sequence ⟨message, fragmentSize * k⟩ ::
        fragments stamp sequence message (k + 1) := by
  have hcount : message.size / fragmentSize + 1 - k =
      (message.size / fragmentSize + 1 - (k + 1)) + 1 := by
    omega
  unfold fragments
  rw [hcount, List.range'_succ, List.map_cons]

theorem fragments_of_lt
    {message : ByteArray} {k : Nat} (hk : message.size / fragmentSize < k)
    (stamp : Option UInt16) (sequence : UInt32) :
    fragments stamp sequence message k = [] := by
  have hcount : message.size / fragmentSize + 1 - k = 0 := by
    omega
  simp [fragments, hcount]

theorem length_ofMessage
    (stamp : Option UInt16) (sequence : UInt32) (message : ByteArray) :
    (ofMessage stamp sequence message).length = Channel.datagramCount message.size := by
  unfold ofMessage Channel.datagramCount
  split <;> simp [fragments]

theorem getElem?_fragments_zero
    {stamp : Option UInt16} {sequence : UInt32} {message : ByteArray} {i : Nat} {p : Packet} :
    (fragments stamp sequence message 0)[i]? = some p ↔
      i ≤ message.size / fragmentSize ∧
        p = fragment stamp sequence ⟨message, fragmentSize * i⟩ := by
  by_cases hi : i ≤ message.size / fragmentSize
  · have hlt : i < message.size / fragmentSize + 1 - 0 := by omega
    rw [fragments, List.getElem?_map, List.getElem?_range' hlt, Option.map_some,
      Option.some_inj, Nat.zero_add, Nat.one_mul]
    exact ⟨fun heq => ⟨hi, heq.symm⟩, fun hboth => hboth.2.symm⟩
  · have hnone : (fragments stamp sequence message 0)[i]? = none := by
      rw [List.getElem?_eq_none_iff, fragments, List.length_map, List.length_range']
      omega
    simp [hnone, hi]

theorem getElem?_ofMessage
    {stamp : Option UInt16} {sequence : UInt32} {message : ByteArray} {i : Nat} {p : Packet} :
    (ofMessage stamp sequence message)[i]? = some p ↔
      message.size ≤ maxUnfragmentedSize ∧ i = 0 ∧ p = whole stamp sequence message ∨
        maxUnfragmentedSize < message.size ∧ i ≤ message.size / fragmentSize ∧
          p = fragment stamp sequence ⟨message, fragmentSize * i⟩ := by
  unfold ofMessage
  by_cases hlong : maxUnfragmentedSize < message.size
  · rw [if_pos hlong, getElem?_fragments_zero]
    simp only [hlong, Nat.not_le.mpr hlong, true_and, false_and, false_or]
  · rw [if_neg hlong, List.getElem?_singleton]
    simp only [hlong, Nat.not_lt.mp hlong, true_and, false_and, or_false]
    split <;> simp_all [eq_comm]

theorem mem_ofMessage
    {stamp : Option UInt16} {sequence : UInt32} {message : ByteArray} {p : Packet} :
    p ∈ ofMessage stamp sequence message ↔
      message.size ≤ maxUnfragmentedSize ∧ p = whole stamp sequence message ∨
        maxUnfragmentedSize < message.size ∧
          ∃ k, k ≤ message.size / fragmentSize ∧
            p = fragment stamp sequence ⟨message, fragmentSize * k⟩ := by
  rw [List.mem_iff_getElem?]
  simp only [getElem?_ofMessage, exists_or, exists_and_left, exists_eq_left]

theorem sequence_of_mem
    {stamp : Option UInt16} {sequence : UInt32} {message : ByteArray} {p : Packet}
    (hp : p ∈ ofMessage stamp sequence message) :
    p.header.sequence = sequence := by
  rcases mem_ofMessage.mp hp with ⟨-, rfl⟩ | ⟨-, k, -, rfl⟩ <;> rfl

theorem qport_of_mem
    {stamp : Option UInt16} {sequence : UInt32} {message : ByteArray} {p : Packet}
    (hp : p ∈ ofMessage stamp sequence message) :
    p.header.qport = stamp := by
  rcases mem_ofMessage.mp hp with ⟨-, rfl⟩ | ⟨-, k, -, rfl⟩ <;> rfl

/-! ## Messages that packets complete -/

theorem completes_fragments
    {message : ByteArray} {k : Nat} (hk : k ≤ message.size / fragmentSize)
    (stamp : Option UInt16) (sequence : UInt32) :
    (fragments stamp sequence message k).filterMap completes = [message] := by
  induction hleft : message.size / fragmentSize - k generalizing k with
  | zero =>
      have hlast : k = message.size / fragmentSize := by omega
      rw [fragments_cons hk, fragments_of_lt (by omega), List.filterMap_cons,
        completes_fragment hk, if_pos hlast]
      rfl
  | succ left ih =>
      have hmore : ¬ k = message.size / fragmentSize := by omega
      rw [fragments_cons hk, List.filterMap_cons, completes_fragment hk, if_neg hmore]
      exact ih (by omega) (by omega)

theorem completes_ofMessage
    (stamp : Option UInt16) (sequence : UInt32) (message : ByteArray) :
    (ofMessage stamp sequence message).filterMap completes = [message] := by
  unfold ofMessage
  split
  · exact completes_fragments (Nat.zero_le _) stamp sequence
  · rfl

/-- A stream completes the messages that it carries, in order. -/
theorem completes_stream
    (stamp : Option UInt16) (sequence : UInt32) (messages : List ByteArray) :
    (stream stamp sequence messages).filterMap completes = messages := by
  induction messages generalizing sequence with
  | nil => rfl
  | cons message rest ih =>
      rw [stream, List.filterMap_append, completes_ofMessage, ih]
      rfl

theorem length_stream
    (stamp : Option UInt16) (sequence : UInt32) (messages : List ByteArray) :
    (stream stamp sequence messages).length =
      (messages.map fun message => Channel.datagramCount message.size).sum := by
  induction messages generalizing sequence with
  | nil => rfl
  | cons message rest ih =>
      rw [stream, List.length_append, length_ofMessage, ih, List.map_cons, List.sum_cons]

/-- The `i`-th message of a stream carries the `i`-th sequence. -/
theorem exists_of_mem_stream
    {stamp : Option UInt16} {sequence : UInt32} {messages : List ByteArray} {p : Packet}
    (hp : p ∈ stream stamp sequence messages) :
    ∃ i message,
      messages[i]? = some message ∧
        p ∈ ofMessage stamp (Sequence.advance i sequence) message := by
  induction messages generalizing sequence with
  | nil => simp [stream] at hp
  | cons message rest ih =>
      rw [stream, List.mem_append] at hp
      rcases hp with hp | hp
      · exact ⟨0, message, rfl, hp⟩
      · obtain ⟨i, found, hfound, hmem⟩ := ih hp
        refine ⟨i + 1, found, hfound, ?_⟩
        rw [Sequence.advance_succ]
        exact hmem

end Packet

/-! ## What a channel has to send -/

namespace Channel

def stamp (c : Channel) : Option UInt16 := (c.header none).qport

/-- The datagrams that sending a queue completely puts out. -/
def pending (c : Channel) (queue : List ByteArray) : List Packet :=
  match c.outgoing.unsent with
  | none => Packet.stream c.stamp c.outgoing.sequence queue
  | some u =>
      Packet.fragments c.stamp c.outgoing.sequence u.message (u.start / fragmentSize) ++
        Packet.stream c.stamp (Sequence.next c.outgoing.sequence) queue

/-- A channel whose sequence is one that is sent, and which stopped between two
fragments of its message. -/
structure Aligned (c : Channel) : Prop where
  sendable : Sequence.Sendable c.outgoing.sequence
  unsent : ∀ u, c.outgoing.unsent = some u →
    ∃ k, k ≤ u.message.size / fragmentSize ∧ u.start = fragmentSize * k

theorem Aligned.of_idle
    {c : Channel} (hsendable : Sequence.Sendable c.outgoing.sequence)
    (hidle : c.isBusy = false) :
    c.Aligned where
  sendable := hsendable
  unsent := by
    intro u hu
    simp [isBusy, hu] at hidle

theorem pending_of_idle
    {c : Channel} (hidle : c.isBusy = false) (queue : List ByteArray) :
    c.pending queue = Packet.stream c.stamp c.outgoing.sequence queue := by
  cases hunsent : c.outgoing.unsent with
  | none => simp [pending, hunsent]
  | some u => simp [isBusy, hunsent] at hidle

/-- The messages that a channel still has to complete: the one whose fragments are
unsent, and then the queue. -/
theorem completes_pending {c : Channel} (haligned : c.Aligned) (queue : List ByteArray) :
    (c.pending queue).filterMap Packet.completes =
      (c.outgoing.unsent.map Unsent.message).toList ++ queue := by
  cases hunsent : c.outgoing.unsent with
  | none => simp [pending, hunsent, Packet.completes_stream]
  | some u =>
      obtain ⟨k, hk, hstart⟩ := haligned.unsent u hunsent
      have hnumber : u.start / fragmentSize = k := by
        rw [hstart]
        exact Nat.mul_div_cancel_left k (by decide)
      simp only [pending, hunsent, hnumber, List.filterMap_append,
        Packet.completes_fragments hk, Packet.completes_stream, Option.map_some,
        Option.toList_some]

/-- Datagrams `sent` leave, in the order in which they were pending, and the queue
shrinks to `rest`.  Only the sending direction of the channel changes. -/
structure Sending (c : Channel) (queue : List ByteArray) (sent : List Dispatch)
    (after : Channel) (rest : List ByteArray) : Prop where
  frame : ∃ outgoing, after = { c with outgoing }
  aligned : after.Aligned
  addressed : ∀ d ∈ sent, d.side = c.side ∧ d.target = c.remote
  pending : ∃ packets : List Packet,
    sent.map Dispatch.bytes = packets.map Packet.bytes ∧
      ∀ more, c.pending (queue ++ more) = packets ++ after.pending (rest ++ more)

namespace Sending

variable {c d e : Channel} {queue rest last : List ByteArray}
  {sent later : List Dispatch}

theorem refl (haligned : c.Aligned) (queue : List ByteArray) :
    Sending c queue [] c queue where
  frame := ⟨c.outgoing, rfl⟩
  aligned := haligned
  addressed := by simp
  pending := ⟨[], rfl, fun _ => rfl⟩

theorem trans (hfirst : Sending c queue sent d rest)
    (hsecond : Sending d rest later e last) :
    Sending c queue (sent ++ later) e last where
  frame := by
    obtain ⟨outgoing, rfl⟩ := hfirst.frame
    obtain ⟨outgoing', rfl⟩ := hsecond.frame
    exact ⟨outgoing', rfl⟩
  aligned := hsecond.aligned
  addressed := by
    obtain ⟨outgoing, rfl⟩ := hfirst.frame
    intro dispatch hdispatch
    rcases List.mem_append.mp hdispatch with hmem | hmem
    · exact hfirst.addressed dispatch hmem
    · exact hsecond.addressed dispatch hmem
  pending := by
    obtain ⟨packets, hbytes, hpending⟩ := hfirst.pending
    obtain ⟨packets', hbytes', hpending'⟩ := hsecond.pending
    refine ⟨packets ++ packets', ?_, ?_⟩
    · rw [List.map_append, List.map_append, hbytes, hbytes']
    · intro more
      rw [hpending, hpending', List.append_assoc]

/-- What was sent is what was pending before and is no longer. -/
theorem bytes_of_done (hsending : Sending c queue sent d [])
    (hidle : d.isBusy = false) :
    sent.map Dispatch.bytes = (c.pending queue).map Packet.bytes := by
  obtain ⟨packets, hbytes, hpending⟩ := hsending.pending
  have hall := hpending []
  rw [List.append_nil, List.append_nil, pending_of_idle hidle, Packet.stream,
    List.append_nil] at hall
  rw [hbytes, hall]

theorem bytes_of_message {message : ByteArray} (hsending : Sending c [message] sent d [])
    (hidle : c.isBusy = false) (hdone : d.isBusy = false) :
    sent.map Dispatch.bytes =
      (Packet.ofMessage c.stamp c.outgoing.sequence message).map Packet.bytes := by
  rw [hsending.bytes_of_done hdone, pending_of_idle hidle, Packet.stream, Packet.stream,
    List.append_nil]

end Sending

/-! ## One datagram -/

variable {c : Channel}

theorem sendFragment_eq (hsendable : Sequence.Sendable c.outgoing.sequence)
    (u : Unsent) :
    c.sendFragment u =
      .ok (c.dispatchOf (Packet.fragment c.stamp c.outgoing.sequence u).bytes
          s!"fragment {u.start}..{u.nextStop} of {u.message.size}",
        c.advance u) := by
  have hencode : (c.header (some u.nextFragment)).encode =
      .ok (c.header (some u.nextFragment)).bytes :=
    Header.encode_eq_bytes (Header.lt_fragmentBit_of_sendable hsendable)
  rw [sendFragment, hencode]
  rfl

theorem sendWhole_eq (hsendable : Sequence.Sendable c.outgoing.sequence)
    (message : ByteArray) :
    c.sendWhole message =
      .ok (c.dispatchOf (Packet.whole c.stamp c.outgoing.sequence message).bytes
          s!"size {message.size}",
        c.finishMessage) := by
  have hencode : (c.header none).encode = .ok (c.header none).bytes :=
    Header.encode_eq_bytes (Header.lt_fragmentBit_of_sendable hsendable)
  rw [sendWhole, hencode]
  rfl

theorem aligned_finishMessage (c : Channel) : c.finishMessage.Aligned :=
  .of_idle (Sequence.next_sendable _) rfl

theorem sending_fragment (haligned : c.Aligned) {u : Unsent}
    (hunsent : c.outgoing.unsent = some u) (queue : List ByteArray) :
    ∃ d after, c.sendFragment u = .ok (d, after) ∧
      Sending c queue [d] after queue := by
  refine ⟨_, _, sendFragment_eq haligned.sendable u, ?_⟩
  obtain ⟨k, hk, hstart⟩ := haligned.unsent u hunsent
  obtain ⟨message, start⟩ := u
  simp only at hk hstart
  subst hstart
  have hpending : ∀ more, c.pending more =
      Packet.fragment c.stamp c.outgoing.sequence ⟨message, fragmentSize * k⟩ ::
        (Packet.fragments c.stamp c.outgoing.sequence message (k + 1) ++
          Packet.stream c.stamp (Sequence.next c.outgoing.sequence) more) := by
    intro more
    have hnumber : fragmentSize * k / fragmentSize = k :=
      Nat.mul_div_cancel_left k (by decide)
    simp only [pending, hunsent, hnumber]
    rw [Packet.fragments_cons hk, List.cons_append]
  by_cases hlast : k = message.size / fragmentSize
  · have hafter : c.advance ⟨message, fragmentSize * k⟩ = c.finishMessage := by
      have hnext := Packet.next?_eq hk
      rw [if_pos hlast] at hnext
      simp only [advance, hnext]
    rw [hafter]
    refine
      { frame := ⟨_, rfl⟩
        aligned := aligned_finishMessage c
        addressed := by simp [dispatchOf]
        pending := ⟨[_], rfl, fun more => ?_⟩ }
    rw [hpending, Packet.fragments_of_lt (by omega), List.nil_append]
    rfl
  · have hafter : c.advance ⟨message, fragmentSize * k⟩ =
        { c with outgoing :=
            ⟨c.outgoing.sequence, some ⟨message, fragmentSize * (k + 1)⟩⟩ } := by
      have hnext := Packet.next?_eq hk
      rw [if_neg hlast] at hnext
      simp only [advance, hnext]
    have hnumber : fragmentSize * (k + 1) / fragmentSize = k + 1 :=
      Nat.mul_div_cancel_left (k + 1) (by decide)
    rw [hafter]
    refine
      { frame := ⟨_, rfl⟩
        aligned := ⟨haligned.sendable, ?_⟩
        addressed := by simp [dispatchOf]
        pending := ⟨[_], rfl, fun more => ?_⟩ }
    · intro v hv
      cases hv
      exact ⟨k + 1, by simp only; omega, rfl⟩
    · rw [hpending]
      simp only [pending, hnumber, List.singleton_append]
      rfl

theorem sending_message (haligned : c.Aligned) (hidle : c.isBusy = false)
    (message : ByteArray) (queue : List ByteArray) :
    ∃ d after, c.transmit message = .ok (d, after) ∧
      Sending c (message :: queue) [d] after queue := by
  by_cases hlong : maxUnfragmentedSize < message.size
  · -- a long message is first put in place and then sent as any unsent fragment
    let started : Channel :=
      { c with outgoing := ⟨c.outgoing.sequence, some ⟨message, 0⟩⟩ }
    have hstarted : started.Aligned := by
      refine ⟨haligned.sendable, fun u hu => ?_⟩
      cases hu
      exact ⟨0, Nat.zero_le _, rfl⟩
    obtain ⟨d, after, hsend, hsending⟩ := sending_fragment hstarted rfl queue
    have htransmit : c.transmit message = started.sendFragment ⟨message, 0⟩ := by
      simp only [transmit, hidle, hlong, if_true, Bool.false_eq_true, if_false]
      rw [sendFragment_eq haligned.sendable, sendFragment_eq hstarted.sendable]
      unfold advance
      cases Unsent.next? ⟨message, 0⟩ <;> rfl
    refine ⟨d, after, htransmit.trans hsend, ?_⟩
    obtain ⟨outgoing, hframe⟩ := hsending.frame
    obtain ⟨packets, hbytes, hpending⟩ := hsending.pending
    refine
      { frame := ⟨outgoing, hframe⟩
        aligned := hsending.aligned
        addressed := hsending.addressed
        pending := ⟨packets, hbytes, fun more => ?_⟩ }
    rw [← hpending, pending_of_idle hidle, List.cons_append, Packet.stream,
      Packet.ofMessage, if_pos hlong]
    simp only [pending, started, Nat.zero_div]
    rfl
  · have htransmit : c.transmit message = c.sendWhole message := by
      simp [transmit, hidle, hlong]
    refine ⟨_, _, htransmit.trans (sendWhole_eq haligned.sendable message), ?_⟩
    refine
      { frame := ⟨_, rfl⟩
        aligned := aligned_finishMessage c
        addressed := by simp [dispatchOf]
        pending := ⟨[_], rfl, fun more => ?_⟩ }
    rw [pending_of_idle hidle, List.cons_append, Packet.stream, Packet.ofMessage,
      if_neg hlong]
    rfl

theorem sending_transmitNext (haligned : c.Aligned) (hbusy : c.isBusy = true)
    (queue : List ByteArray) :
    ∃ d after, c.transmitNext = .ok (some d, after) ∧
      Sending c queue [d] after queue := by
  cases hunsent : c.outgoing.unsent with
  | none => simp [isBusy, hunsent] at hbusy
  | some u =>
      obtain ⟨d, after, hsend, hsending⟩ := sending_fragment haligned hunsent queue
      refine ⟨d, after, ?_, hsending⟩
      simp [transmitNext, hunsent, hsend, Except.map]

/-! ## Sending within a budget -/

/-- A pump never faults.  It stays within its budget, and it stops before only when
everything is sent. -/
theorem pump_spec (haligned : c.Aligned) (queue : List ByteArray) (budget : Nat) :
    ∃ pumped, c.pump queue budget = .ok pumped ∧
      Sending c queue pumped.dispatches pumped.channel pumped.queue ∧
      pumped.dispatches.length ≤ budget ∧
      (pumped.dispatches.length < budget →
        pumped.channel.isBusy = false ∧ pumped.queue = []) := by
  induction budget generalizing c queue with
  | zero => exact ⟨_, rfl, .refl haligned queue, Nat.le_refl _, by simp⟩
  | succ budget ih =>
      -- both sending branches put one dispatch in front of what the rest sends
      have hstep : ∀ {d after rest}, Sending c queue [d] after rest →
          (∀ pumped, after.pump rest budget = .ok pumped →
            c.pump queue (budget + 1) =
              .ok { pumped with dispatches := d :: pumped.dispatches }) →
          ∃ pumped, c.pump queue (budget + 1) = .ok pumped ∧
            Sending c queue pumped.dispatches pumped.channel pumped.queue ∧
            pumped.dispatches.length ≤ budget + 1 ∧
            (pumped.dispatches.length < budget + 1 →
              pumped.channel.isBusy = false ∧ pumped.queue = []) := by
        intro d after rest hsending hpump
        obtain ⟨pumped, hrest, hlater, hle, hstop⟩ := ih hsending.aligned rest
        refine ⟨_, hpump pumped hrest, hsending.trans hlater, ?_, ?_⟩
        · exact Nat.succ_le_succ hle
        · intro hlt
          exact hstop (Nat.lt_of_succ_lt_succ hlt)
      cases hunsent : c.outgoing.unsent with
      | some u =>
          obtain ⟨d, after, hsend, hsending⟩ := sending_fragment haligned hunsent queue
          refine hstep hsending fun pumped hrest => ?_
          simp only [pump, hunsent, hsend, bind, Except.bind, hrest]
          rfl
      | none =>
          have hidle : c.isBusy = false := by simp [isBusy, hunsent]
          cases queue with
          | nil =>
              refine ⟨⟨c, [], []⟩, ?_, .refl haligned [], Nat.zero_le _, ?_⟩
              · simp only [pump, hunsent]
              · exact fun _ => ⟨hidle, rfl⟩
          | cons message queue =>
              obtain ⟨d, after, hsend, hsending⟩ :=
                sending_message haligned hidle message queue
              refine hstep hsending fun pumped hrest => ?_
              simp only [pump, hunsent, hsend, bind, Except.bind, hrest]
              rfl

/-! ## Sending completely -/

/-- `transmitNext` until nothing is unsent. -/
inductive Finishes : Channel → List Dispatch → Channel → Prop
  | done {c : Channel} (hidle : c.isBusy = false) : Finishes c [] c
  | next {c after last : Channel} {d : Dispatch} {sent : List Dispatch}
      (hbusy : c.isBusy = true) (hsend : c.transmitNext = .ok (some d, after))
      (hrest : Finishes after sent last) :
      Finishes c (d :: sent) last

/-- Messages sent in order, each one completely. -/
inductive SendsAll : Channel → List ByteArray → List Dispatch → Channel → Prop
  | nil {c : Channel} : SendsAll c [] [] c
  | cons {c after idle last : Channel} {message : ByteArray} {messages : List ByteArray}
      {d : Dispatch} {fragments sent : List Dispatch}
      (hsend : c.transmit message = .ok (d, after))
      (hfinish : Finishes after fragments idle)
      (hrest : SendsAll idle messages sent last) :
      SendsAll c (message :: messages) (d :: fragments ++ sent) last

theorem Finishes.sending {after : Channel} {sent : List Dispatch}
    (hfinish : Finishes c sent after) (haligned : c.Aligned)
    (queue : List ByteArray) :
    Sending c queue sent after queue ∧ after.isBusy = false := by
  induction hfinish with
  | done hidle => exact ⟨.refl haligned queue, hidle⟩
  | next hbusy hsend hrest ih =>
      obtain ⟨d, after, hnext, hsending⟩ := sending_transmitNext haligned hbusy queue
      rw [hsend] at hnext
      cases hnext
      obtain ⟨hlater, hidle⟩ := ih hsending.aligned
      exact ⟨hsending.trans hlater, hidle⟩

/-- Fragments run out, so finishing a message ends. -/
theorem exists_finishes (haligned : c.Aligned) :
    ∃ sent after, Finishes c sent after := by
  induction hleft : (c.pending []).length using Nat.strong_induction_on generalizing c with
  | _ left ih =>
      cases hbusy : c.isBusy with
      | false => exact ⟨[], c, .done hbusy⟩
      | true =>
          obtain ⟨d, after, hsend, hsending⟩ := sending_transmitNext haligned hbusy []
          obtain ⟨packets, hbytes, hpending⟩ := hsending.pending
          have hcount := congrArg List.length (hpending [])
          have hone := congrArg List.length hbytes
          simp only [List.length_map, List.length_append, List.length_singleton,
            List.append_nil] at hcount hone
          obtain ⟨sent, last, hfinish⟩ := ih _ (by omega) hsending.aligned rfl
          exact ⟨d :: sent, last, .next hbusy hsend hfinish⟩

/-- Sending messages completely puts out exactly what was pending for them. -/
theorem SendsAll.sending {after : Channel} {messages : List ByteArray}
    {sent : List Dispatch} (hsends : SendsAll c messages sent after)
    (haligned : c.Aligned) (hidle : c.isBusy = false) :
    Sending c messages sent after [] ∧ after.isBusy = false := by
  induction hsends with
  | nil => exact ⟨.refl haligned [], hidle⟩
  | @cons c _ _ _ message messages _ _ _ hsend hfinish hrest ih =>
      obtain ⟨d, after, hstart, hfirst⟩ := sending_message haligned hidle message messages
      rw [hsend] at hstart
      cases hstart
      obtain ⟨hfragments, hdone⟩ := hfinish.sending hfirst.aligned messages
      obtain ⟨hlater, hlast⟩ := ih hfragments.aligned hdone
      exact ⟨(hfirst.trans hfragments).trans hlater, hlast⟩

theorem exists_sendsAll (haligned : c.Aligned) (hidle : c.isBusy = false)
    (messages : List ByteArray) :
    ∃ sent after, SendsAll c messages sent after := by
  induction messages generalizing c with
  | nil => exact ⟨[], c, .nil⟩
  | cons message messages ih =>
      obtain ⟨d, started, hsend, hfirst⟩ := sending_message haligned hidle message []
      obtain ⟨fragments, idle, hfinish⟩ := exists_finishes hfirst.aligned
      obtain ⟨hfragments, hdone⟩ := hfinish.sending hfirst.aligned []
      obtain ⟨sent, last, hrest⟩ := ih hfragments.aligned hdone
      exact ⟨_, last, .cons hsend hfinish hrest⟩

end Channel
end DatagramLink

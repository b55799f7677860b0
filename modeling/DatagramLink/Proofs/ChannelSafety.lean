import DatagramLink.Proofs.Reassembly

/-!
# Channels on an unreliable network

The datagrams of a run of messages arrive in any order, any number of times or not at
all.  The messages that the receiver delivers are still a subsequence of those that
were sent.

The invariant is `Channel.Reached`: the receiver has accepted up to some message of
the run, and what it gathers is a prefix, a whole number of fragments long, of a later
message.  A fragment names its place only by the low 16 bits of its offset.  Two places
of one message have different low bits, because `fragmentSize` times the first power
of two where they agree is more than the largest message.
-/

namespace DatagramLink
namespace Channel

/-- The messages that become complete when datagrams arrive one after another, and the
channel behind the last one. -/
def takeIn (c : Channel) (source : Address) : List ByteArray → List ByteArray × Channel
  | [] => ([], c)
  | datagram :: rest =>
      match c.receive source (.ofBytes datagram) with
      | (receipt, c) =>
          match c.takeIn source rest with
          | (messages, c) => (receipt.message?.toList ++ messages, c)

/-- Two ends of a connection between messages: the receiver has accepted `last`, and
the sender's next message follows it. -/
structure Paired (sender receiver : Channel) (last : UInt32) : Prop where
  ends : Matches sender receiver
  origin : Sequence.Origin last
  sequence : sender.outgoing.sequence = Sequence.next last
  accepted : receiver.incoming.sequence = last
  sent : sender.isBusy = false
  gathered : receiver.isGathering = false

theorem Paired.aligned {sender receiver : Channel} {last : UInt32}
    (hpaired : Paired sender receiver last) :
    sender.Aligned := by
  refine .of_idle ?_ hpaired.sent
  rw [hpaired.sequence]
  exact Sequence.next_sendable last

theorem Paired.pending_eq {sender receiver : Channel} {last : UInt32}
    (hpaired : Paired sender receiver last) (messages : List ByteArray) :
    sender.pending messages =
      Packet.stream receiver.peerStamp (Sequence.next last) messages := by
  rw [pending_of_idle hpaired.sent, hpaired.sequence, hpaired.ends.stamp_eq]

theorem assembly_of_not_gathering {c : Channel} (hidle : c.isGathering = false) :
    c.incoming.assembly = .idle := by
  cases hassembly : c.incoming.assembly with
  | idle => rfl
  | gathering sequence bytes => simp [isGathering, hassembly, Assembly.isIdle] at hidle

theorem Paired.expects {sender receiver : Channel} {last : UInt32}
    (hpaired : Paired sender receiver last) {messages : List ByteArray}
    (hsizes : ∀ message ∈ messages, message.size ≤ maxMessageSize) :
    receiver.Expects (sender.pending messages) := by
  refine .idle messages ?_ (assembly_of_not_gathering hpaired.gathered) hsizes ?_
  · rw [hpaired.accepted]
    exact hpaired.origin
  · rw [hpaired.accepted]
    exact hpaired.pending_eq messages

/-! ## Places of fragments -/

theorem fragment_place_inj
    {message : ByteArray} (hmessage : message.size ≤ maxMessageSize) {j k : Nat}
    (hj : j ≤ message.size / fragmentSize) (hk : k ≤ message.size / fragmentSize)
    (hplace : UInt16.ofNat (fragmentSize * k) = UInt16.ofNat (fragmentSize * j)) :
    k = j := by
  have hlow := congrArg UInt16.toNat hplace
  simp only [UInt16.toNat_ofNat', fragmentSize] at hlow hj hk
  have hlimit : message.size ≤ 8388608 := hmessage
  omega

/-! ## The invariant -/

/-- The receiver has accepted `count` messages of the run, and gathers nothing or the
beginning of a later one. -/
structure Reached (last : UInt32) (messages : List ByteArray) (count : Nat)
    (c : Channel) : Prop where
  within : count ≤ messages.length
  sequence : c.incoming.sequence = Sequence.advance count last
  assembly : c.incoming.assembly = .idle ∨
    ∃ i message j, messages[i]? = some message ∧ j ≤ message.size / fragmentSize ∧
      c.incoming.assembly =
        .gathering (Sequence.advance (i + 1) last)
          (message.extract 0 (fragmentSize * j))

section
variable {last : UInt32} {messages : List ByteArray} {count : Nat} {c : Channel}

theorem Reached.gathered_eq
    (horigin : Sequence.Origin last) (hrun : messages.length ≤ Sequence.maxRun)
    (hreached : Reached last messages count c) {i : Nat} {message : ByteArray}
    (hmessage : messages[i]? = some message) :
    ∃ j, j ≤ message.size / fragmentSize ∧
      c.gathered (Sequence.advance (i + 1) last) =
        message.extract 0 (fragmentSize * j) := by
  have hi := (List.getElem?_eq_some_iff.mp hmessage).1
  rcases hreached.assembly with hidle | ⟨other, found, j, hfound, hj, hassembly⟩
  · refine ⟨0, Nat.zero_le _, ?_⟩
    simpa using gathered_of_idle hidle _
  · have hother := (List.getElem?_eq_some_iff.mp hfound).1
    by_cases hsame : other = i
    · subst other
      rw [hmessage, Option.some.injEq] at hfound
      subst found
      refine ⟨j, hj, ?_⟩
      exact gathered_of_gathering hassembly
    · have hdifferent : ¬ some (Sequence.advance (other + 1) last) =
          some (Sequence.advance (i + 1) last) := by
        intro heq
        have hnumbers := Sequence.advance_inj horigin (by omega) (by omega)
          (Option.some.inj heq)
        omega
      refine ⟨0, Nat.zero_le _, ?_⟩
      simp [gathered, hassembly, Assembly.sequence?, hdifferent]

/-- One datagram of the run, whichever it is.  The receiver delivers nothing, or a
message behind all that it has accepted. -/
theorem Reached.receive
    (horigin : Sequence.Origin last) (hrun : messages.length ≤ Sequence.maxRun)
    (hsizes : ∀ message ∈ messages, message.size ≤ maxMessageSize)
    (hreached : Reached last messages count c) {p : Packet}
    (hp : p ∈ Packet.stream c.peerStamp (Sequence.next last) messages) :
    ∃ receipt incoming,
      c.receive c.remote (.ofBytes p.bytes) = (receipt, { c with incoming }) ∧
        (receipt.message? = none ∧ Reached last messages count { c with incoming } ∨
          ∃ i message, count ≤ i ∧ messages[i]? = some message ∧
            receipt.message? = some message ∧
            Reached last messages (i + 1) { c with incoming }) := by
  obtain ⟨i, message, hmessage, hmem⟩ := Packet.exists_of_mem_stream hp
  rw [← Sequence.advance_succ] at hmem
  have hi := (List.getElem?_eq_some_iff.mp hmessage).1
  have hsize := hsizes message (List.mem_of_getElem? hmessage)
  have hsendable : Sequence.Sendable (Sequence.advance (i + 1) last) :=
    Sequence.next_sendable _
  have hnewer := Sequence.newer_advance_advance_iff horigin (i := i + 1) (j := count)
    (by omega) (Nat.le_trans hreached.within hrun)
  rw [← hreached.sequence] at hnewer
  by_cases hlate : i < count
  · -- the message or a later one is accepted already
    have hstale : Sequence.newer p.header.sequence c.incoming.sequence = false := by
      rw [Packet.sequence_of_mem hmem, ← Bool.not_eq_true, hnewer]
      omega
    obtain ⟨receipt, tally, hreceive, hnone⟩ :=
      receive_stale (c := c) (by rw [Packet.sequence_of_mem hmem]; exact hsendable)
        (Packet.qport_of_mem hmem) c.recognizes_remote hstale
    exact ⟨receipt, _, hreceive,
      Or.inl ⟨hnone, hreached.within, hreached.sequence, hreached.assembly⟩⟩
  · have hlater : Sequence.newer (Sequence.advance (i + 1) last) c.incoming.sequence =
        true := by
      rw [hnewer]
      omega
    have haccepted : ∀ tally, Reached last messages (i + 1)
        { c with incoming := ⟨Sequence.advance (i + 1) last, .idle, tally⟩ } :=
      fun _ => ⟨hi, rfl, Or.inl rfl⟩
    rcases Packet.mem_ofMessage.mp hmem with ⟨-, rfl⟩ | ⟨-, k, hk, rfl⟩
    · have hreceive := receive_whole hsendable c.recognizes_remote hlater message
      obtain ⟨receipt, tally, hwhole, hdelivered, -⟩ :=
        c.receiveWhole_spec c.remote (Sequence.advance (i + 1) last)
          (Packet.whole c.peerStamp (Sequence.advance (i + 1) last) message).cursor
      rw [Packet.remaining_cursor] at hdelivered
      exact ⟨receipt, _, hreceive.trans hwhole,
        Or.inr ⟨i, message, by omega, hmessage, hdelivered, haccepted tally⟩⟩
    · have hreceive := receive_fragment hsendable c.recognizes_remote hlater
        ⟨message, fragmentSize * k⟩
      have hgathering : ∀ j tally, j ≤ message.size / fragmentSize →
          Reached last messages count
            { c with incoming :=
                ⟨c.incoming.sequence,
                  .gathering (Sequence.advance (i + 1) last)
                    (message.extract 0 (fragmentSize * j)),
                  tally⟩ } := by
        intro j tally hj
        exact ⟨hreached.within, hreached.sequence,
          Or.inr ⟨i, message, j, hmessage, hj, rfl⟩⟩
      have hpayload := Packet.remaining_cursor
        (Packet.fragment c.peerStamp (Sequence.advance (i + 1) last)
          ⟨message, fragmentSize * k⟩)
      obtain ⟨j, hj, hgathered⟩ := hreached.gathered_eq horigin hrun hmessage
      by_cases hplace : k = j
      · subst j
        obtain ⟨receipt, tally, hfragment, hdelivered, -⟩ :=
          receiveFragment_of_placed c.remote hk hsize
            (Packet.inBounds_cursor _) hpayload hgathered
        by_cases hend : k = message.size / fragmentSize
        · rw [if_pos hend] at hfragment hdelivered
          exact ⟨receipt, _, hreceive.trans hfragment,
            Or.inr ⟨i, message, by omega, hmessage, hdelivered, haccepted _⟩⟩
        · rw [if_neg hend] at hfragment hdelivered
          exact ⟨receipt, _, hreceive.trans hfragment,
            Or.inl ⟨hdelivered, hgathering (k + 1) tally (by omega)⟩⟩
      · have hmisplaced : UInt16.ofNat (fragmentSize * k) ≠
            UInt16.ofNat (c.gathered (Sequence.advance (i + 1) last)).size := by
          intro heq
          have hlength : (message.extract 0 (fragmentSize * j)).size =
              fragmentSize * j := by
            have hstart := Nat.mul_le_mul_left fragmentSize hj
            have hdivision := Nat.div_add_mod message.size fragmentSize
            rw [ByteArray.size_extract]
            omega
          rw [hgathered, hlength] at heq
          exact hplace (fragment_place_inj hsize hj hk heq)
        obtain ⟨receipt, tally, hfragment, hnone⟩ :=
          receiveFragment_of_misplaced c.remote hk hpayload hmisplaced
        rw [hgathered] at hfragment
        exact ⟨receipt, _, hreceive.trans hfragment,
          Or.inl ⟨hnone, hgathering j tally hj⟩⟩

/-- From any state of the run on, what is delivered comes from the messages behind
those that are accepted, in their order. -/
theorem Reached.takeIn_sublist
    (horigin : Sequence.Origin last) (hrun : messages.length ≤ Sequence.maxRun)
    (hsizes : ∀ message ∈ messages, message.size ≤ maxMessageSize)
    (hreached : Reached last messages count c) (arrivals : List ByteArray)
    (harrivals : ∀ datagram ∈ arrivals,
      ∃ p ∈ Packet.stream c.peerStamp (Sequence.next last) messages,
        p.bytes = datagram) :
    (c.takeIn c.remote arrivals).1.Sublist (messages.drop count) := by
  induction arrivals generalizing c count with
  | nil => exact List.nil_sublist _
  | cons datagram arrivals ih =>
      obtain ⟨p, hp, rfl⟩ := harrivals datagram List.mem_cons_self
      have hrest : ∀ datagram ∈ arrivals,
          ∃ p ∈ Packet.stream c.peerStamp (Sequence.next last) messages,
            p.bytes = datagram := by
        intro datagram hmem
        exact harrivals datagram (List.mem_cons_of_mem _ hmem)
      obtain ⟨receipt, incoming, hreceive, hstep⟩ :=
        hreached.receive horigin hrun hsizes hp
      have hdelivered : (c.takeIn c.remote (p.bytes :: arrivals)).1 =
          receipt.message?.toList ++
            (Channel.takeIn { c with incoming } c.remote arrivals).1 := by
        simp only [takeIn, hreceive]
      rw [hdelivered]
      rcases hstep with ⟨hnone, hnext⟩ | ⟨i, message, hi, hmessage, hsome, hnext⟩
      · rw [hnone]
        exact ih hnext hrest
      · obtain ⟨hlt, hget⟩ := List.getElem?_eq_some_iff.mp hmessage
        have hlater := (ih hnext hrest).cons_cons message
        have hdrop := List.drop_sublist_drop_left messages hi
        rw [List.drop_eq_getElem_cons hlt, hget] at hdrop
        rw [hsome]
        exact hlater.trans hdrop

end

/-! ## Delivery -/

/-- Messages are sent one after another, and any selection of their datagrams arrives
in any order, with any losses and repetitions.  The delivered messages are a
subsequence of the sent ones, each byte for byte, on runs shorter than half of the
circle of sequences. -/
theorem takeIn_sublist_of_sendsAll
    {sender receiver : Channel} {last : UInt32} (hpaired : Paired sender receiver last)
    {messages : List ByteArray} (hcount : messages.length ≤ 2 ^ 30 - 3)
    (hsizes : ∀ message ∈ messages, message.size ≤ maxMessageSize) :
    (∃ sent after, SendsAll sender messages sent after) ∧
      ∀ sent after, SendsAll sender messages sent after →
        ∀ arrivals : List ByteArray,
          (∀ datagram ∈ arrivals, datagram ∈ sent.map Dispatch.bytes) →
            (receiver.takeIn receiver.remote arrivals).1.Sublist messages := by
  constructor
  · exact exists_sendsAll hpaired.aligned hpaired.sent messages
  · intro sent after hsends arrivals harrivals
    obtain ⟨hsending, hidle⟩ := hsends.sending hpaired.aligned hpaired.sent
    have hreached : Reached last messages 0 receiver :=
      ⟨Nat.zero_le _, hpaired.accepted,
        Or.inl (assembly_of_not_gathering hpaired.gathered)⟩
    have hdrawn : ∀ datagram ∈ arrivals,
        ∃ p ∈ Packet.stream receiver.peerStamp (Sequence.next last) messages,
          p.bytes = datagram := by
      intro datagram hmem
      have hsent := harrivals datagram hmem
      rw [hsending.bytes_of_done hidle, hpaired.pending_eq] at hsent
      exact List.mem_map.mp hsent
    exact hreached.takeIn_sublist hpaired.origin hcount hsizes arrivals hdrawn

/-- The run passes the end of the circle: the client's first message has the last
sequence and its second message the first one. -/
theorem takeIn_sublist_across_wrap :
    Paired ⟨.client, .loopback, 7, false, ⟨0x7FFFFFFE, none⟩, {}⟩
        ⟨.server, .loopback, 7, false, {}, ⟨0x7FFFFFFD, .idle, {}⟩⟩ 0x7FFFFFFD ∧
      (∃ sent after,
        SendsAll ⟨.client, .loopback, 7, false, ⟨0x7FFFFFFE, none⟩, {}⟩
          ["first".toUTF8, "second".toUTF8] sent after) ∧
      ∀ sent after,
        SendsAll ⟨.client, .loopback, 7, false, ⟨0x7FFFFFFE, none⟩, {}⟩
            ["first".toUTF8, "second".toUTF8] sent after →
          ∀ arrivals : List ByteArray,
            (∀ datagram ∈ arrivals, datagram ∈ sent.map Dispatch.bytes) →
              (takeIn ⟨.server, .loopback, 7, false, {}, ⟨0x7FFFFFFD, .idle, {}⟩⟩
                .loopback arrivals).1.Sublist ["first".toUTF8, "second".toUTF8] := by
  have hpaired : Paired ⟨.client, .loopback, 7, false, ⟨0x7FFFFFFE, none⟩, {}⟩
      ⟨.server, .loopback, 7, false, {}, ⟨0x7FFFFFFD, .idle, {}⟩⟩ 0x7FFFFFFD :=
    ⟨⟨rfl, rfl⟩, Or.inr (by decide), by decide, rfl, rfl, rfl⟩
  exact ⟨hpaired, takeIn_sublist_of_sendsAll hpaired (by decide) (by decide)⟩

end Channel
end DatagramLink

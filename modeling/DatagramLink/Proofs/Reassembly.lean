import DatagramLink.Channel.Receiving
import DatagramLink.Proofs.MessageSplitting

/-!
# Putting messages together

What a receiving channel does with each datagram that a matching channel sends.  A
fragment is taken when the bytes gathered for its sequence are the message up to the
fragment, and then they are the message up to the next one; any other fragment leaves
the gathered bytes alone.

In order, nothing is refused: `Channel.Expects` is the state of a receiver whose
sender still has a given list of datagrams to deliver, and every datagram of the list
moves it on.
-/

namespace DatagramLink

namespace Packet

def cursor (p : Packet) : Cursor :=
  (Cursor.ofBytes p.bytes).skip p.header.encodedSize

@[simp] theorem remaining_cursor (p : Packet) : p.cursor.remaining = p.payload :=
  Header.remaining_skip_bytes p.header p.payload

theorem inBounds_cursor (p : Packet) : p.cursor.InBounds := by
  have hin := Cursor.inBounds_ofBytes p.bytes
  have hskip := hin.skip (Cursor.remaining_ofBytes p.bytes)
  rw [Header.size_bytes] at hskip
  exact hskip

end Packet

theorem Assembly.eq_gathering_of_sequence? {a : Assembly} {sequence : UInt32}
    (hsequence : a.sequence? = some sequence) :
    a = .gathering sequence a.bytes := by
  cases a with
  | idle => cases hsequence
  | gathering other bytes =>
      cases hsequence
      rfl

namespace Channel

/-! ## Headers -/

def peerStamp (c : Channel) : Option UInt16 :=
  match c.side with
  | .client => none
  | .server => some c.qport

/-- The two ends of one connection: a client's and a server's, with one qport. -/
structure Matches (c d : Channel) : Prop where
  side : d.side = c.side.peer
  qport : d.qport = c.qport

theorem Matches.stamp_eq {sender receiver : Channel} (hmatch : Matches sender receiver) :
    sender.stamp = receiver.peerStamp := by
  unfold stamp header peerStamp
  rw [hmatch.side, hmatch.qport]
  cases sender.side <;> rfl

theorem recognizes_remote (c : Channel) : c.recognizes c.remote = true := by
  simp [recognizes]

/-- A datagram of the peer is dropped only when its sequence is not a newer one. -/
theorem receive_packet
    {c : Channel} {p : Packet} {source : Address}
    (hsendable : Sequence.Sendable p.header.sequence)
    (hstamp : p.header.qport = c.peerStamp) (hsource : c.recognizes source = true) :
    c.receive source (.ofBytes p.bytes) =
      if Sequence.newer p.header.sequence c.incoming.sequence then
        match p.header.fragment with
        | none => c.receiveWhole source p.header.sequence p.cursor
        | some fragment =>
            c.receiveFragment source p.header.sequence fragment p.cursor
      else
        c.discard source (.stale p.header.sequence c.incoming.sequence) p.cursor := by
  have hwithQport : (c.side == .server) = p.header.qport.isSome := by
    rw [hstamp, peerStamp]
    cases c.side <;> rfl
  have hread : Header.read (c.side == .server) (Cursor.ofBytes p.bytes).rewind =
      (.ok p.header, p.cursor) := by
    rw [hwithQport, Cursor.rewind_ofBytes]
    exact Header.read_bytes_append
      (Header.lt_fragmentBit_of_sendable hsendable) p.payload
  have hchannel : isConnectionless (Cursor.ofBytes p.bytes).bytes = false :=
    Header.isConnectionless_bytes_append hsendable p.payload
  have hqport : (c.side == .server && p.header.qport != some c.qport) = false := by
    rw [hstamp, peerStamp]
    cases c.side <;> simp
  have hrefusal : c.refusal? source p.header =
      if Sequence.newer p.header.sequence c.incoming.sequence then none
      else some (.stale p.header.sequence c.incoming.sequence) := by
    unfold refusal?
    rw [hqport, hsource]
    cases Sequence.newer p.header.sequence c.incoming.sequence <;> rfl
  rw [receive, hchannel, hread]
  simp only [Bool.false_eq_true, if_false, hrefusal]
  cases hnewer : Sequence.newer p.header.sequence c.incoming.sequence with
  | true => cases p.header.fragment <;> rfl
  | false => rfl

section
variable {c : Channel} {sequence : UInt32} {source : Address}

theorem receive_whole
    (hsendable : Sequence.Sendable sequence) (hsource : c.recognizes source = true)
    (hnewer : Sequence.newer sequence c.incoming.sequence = true) (message : ByteArray) :
    c.receive source (.ofBytes (Packet.whole c.peerStamp sequence message).bytes) =
      c.receiveWhole source sequence
        (Packet.whole c.peerStamp sequence message).cursor :=
  (receive_packet (p := Packet.whole c.peerStamp sequence message) hsendable rfl
    hsource).trans (if_pos hnewer)

theorem receive_fragment
    (hsendable : Sequence.Sendable sequence) (hsource : c.recognizes source = true)
    (hnewer : Sequence.newer sequence c.incoming.sequence = true) (u : Unsent) :
    c.receive source (.ofBytes (Packet.fragment c.peerStamp sequence u).bytes) =
      c.receiveFragment source sequence u.nextFragment
        (Packet.fragment c.peerStamp sequence u).cursor :=
  (receive_packet (p := Packet.fragment c.peerStamp sequence u) hsendable rfl
    hsource).trans (if_pos hnewer)

theorem receive_stale
    {p : Packet} (hsendable : Sequence.Sendable p.header.sequence)
    (hstamp : p.header.qport = c.peerStamp) (hsource : c.recognizes source = true)
    (hstale : Sequence.newer p.header.sequence c.incoming.sequence = false) :
    ∃ receipt tally,
      c.receive source (.ofBytes p.bytes) =
          (receipt, { c with incoming := { c.incoming with tally } }) ∧
        receipt.message? = none := by
  have hreceive := receive_packet hsendable hstamp hsource
  rw [hstale] at hreceive
  exact ⟨_, _, hreceive, rfl⟩

end

/-! ## Whole messages -/

/-- No partial message of another sequence stands in the way. -/
def Undisturbed (c : Channel) (sequence : UInt32) : Prop :=
  c.incoming.assembly = .idle ∨ c.incoming.assembly.sequence? = some sequence

theorem abandon_spec (c : Channel) (sequence : UInt32) :
    ∃ records tally,
      c.abandon sequence =
          (records, { c with incoming := ⟨c.incoming.sequence, .idle, tally⟩ }) ∧
        (c.incoming.assembly = .idle → tally = c.incoming.tally) := by
  cases hassembly : c.incoming.assembly with
  | idle =>
      refine ⟨[], c.incoming.tally, ?_, fun _ => rfl⟩
      simp only [abandon, hassembly]
      rw [← hassembly]
  | gathering other bytes =>
      refine ⟨(c.abandon sequence).1, c.incoming.tally.abandon, ?_, by simp⟩
      simp only [abandon, hassembly]

theorem receiveWhole_spec (c : Channel) (source : Address) (sequence : UInt32)
    (cursor : Cursor) :
    ∃ receipt tally,
      c.receiveWhole source sequence cursor =
          (receipt,
            { c with remote := source, incoming := ⟨sequence, .idle, tally⟩ }) ∧
        receipt.message? = some cursor.remaining ∧
        (c.incoming.assembly = .idle →
          tally =
            c.incoming.tally.deliver (Sequence.gap sequence c.incoming.sequence)) := by
  obtain ⟨records, tally, habandon, htally⟩ := c.abandon_spec sequence
  refine ⟨(c.receiveWhole source sequence cursor).1,
    tally.deliver (Sequence.gap sequence c.incoming.sequence), ?_, ?_, fun hidle => ?_⟩
  · simp only [receiveWhole, habandon, accept]
  · simp only [receiveWhole, habandon, accept]
    rfl
  · rw [htally hidle]

/-- A whole message that is newer than all before it comes through. -/
theorem message?_of_whole {c : Channel} {sequence : UInt32} {source : Address}
    (hsendable : Sequence.Sendable sequence) (hsource : c.recognizes source = true)
    (hnewer : Sequence.newer sequence c.incoming.sequence = true) (message : ByteArray) :
    (c.receive source
      (.ofBytes (Packet.whole c.peerStamp sequence message).bytes)).1.message? =
        some message := by
  obtain ⟨receipt, tally, hreceive, hmessage, -⟩ := c.receiveWhole_spec source sequence
    (Packet.whole c.peerStamp sequence message).cursor
  rw [receive_whole hsendable hsource hnewer, hreceive]
  rw [Packet.remaining_cursor] at hmessage
  exact hmessage

/-! ## Fragments -/

def gathered (c : Channel) (sequence : UInt32) : ByteArray :=
  if c.incoming.assembly.sequence? = some sequence then c.incoming.assembly.bytes
  else ByteArray.empty

theorem gathered_of_gathering {c : Channel} {sequence : UInt32} {bytes : ByteArray}
    (hgathering : c.incoming.assembly = .gathering sequence bytes) :
    c.gathered sequence = bytes := by
  rw [gathered, hgathering, Assembly.sequence?, if_pos rfl, Assembly.bytes]

theorem gathered_of_other {c : Channel} {sequence : UInt32}
    (hother : c.incoming.assembly.sequence? ≠ some sequence) :
    c.gathered sequence = ByteArray.empty :=
  if_neg hother

theorem gathered_of_idle {c : Channel} (hidle : c.incoming.assembly = .idle)
    (sequence : UInt32) :
    c.gathered sequence = ByteArray.empty :=
  gathered_of_other (by simp [hidle, Assembly.sequence?])

/-- Gathering goes on with the bytes of its sequence, or starts anew. -/
theorem gather_spec (c : Channel) (sequence : UInt32) :
    ∃ records tally,
      c.gather sequence =
          (records,
            { c with incoming :=
                ⟨c.incoming.sequence, .gathering sequence (c.gathered sequence), tally⟩ }) ∧
        (c.Undisturbed sequence → tally = c.incoming.tally) := by
  by_cases hsame : c.incoming.assembly.sequence? = some sequence
  · refine ⟨[], c.incoming.tally, ?_, fun _ => rfl⟩
    have hassembly := Assembly.eq_gathering_of_sequence? hsame
    rw [gather, if_pos hsame, gathered, if_pos hsame, ← hassembly]
  · obtain ⟨records, tally, habandon, htally⟩ := c.abandon_spec sequence
    refine ⟨records, tally, ?_, fun hundisturbed => ?_⟩
    · rw [gather, if_neg hsame, gathered_of_other hsame, habandon]
    · exact htally (hundisturbed.resolve_right hsame)

/-- What a receiver reads off the fields of a fragment that a channel sends. -/
theorem fragment_fields
    {message : ByteArray} {k : Nat} (hk : k ≤ message.size / fragmentSize) :
    fragmentSize * k + (Unsent.nextFragment ⟨message, fragmentSize * k⟩).length.toNat ≤
        message.size ∧
      (Unsent.nextPayload ⟨message, fragmentSize * k⟩).size =
        (Unsent.nextFragment ⟨message, fragmentSize * k⟩).length.toNat ∧
      (Unsent.nextFragment ⟨message, fragmentSize * k⟩).length.toNat ≤ fragmentSize ∧
      ((Unsent.nextFragment ⟨message, fragmentSize * k⟩).isLast = true ↔
        k = message.size / fragmentSize) ∧
      message.extract 0 (fragmentSize * k) ++
          Unsent.nextPayload ⟨message, fragmentSize * k⟩ =
        if k = message.size / fragmentSize then message
        else message.extract 0 (fragmentSize * (k + 1)) := by
  have hlength := Packet.nextLength_eq hk
  have hdivision := Nat.div_add_mod message.size fragmentSize
  have hrest : message.size % fragmentSize < fragmentSize :=
    Nat.mod_lt _ (by decide)
  have hstart : fragmentSize * k ≤ fragmentSize * (message.size / fragmentSize) :=
    Nat.mul_le_mul_left _ hk
  have hsize : fragmentSize = 1300 := rfl
  have hfield : (Unsent.nextFragment ⟨message, fragmentSize * k⟩).length.toNat =
      Unsent.nextLength ⟨message, fragmentSize * k⟩ := by
    simp only [Unsent.nextFragment, UInt16.toNat_ofNat']
    apply Nat.mod_eq_of_lt
    rw [hlength]
    split <;> omega
  have hstop : Unsent.nextStop ⟨message, fragmentSize * k⟩ =
      fragmentSize * k + Unsent.nextLength ⟨message, fragmentSize * k⟩ := rfl
  have hbytes : message.extract 0 (fragmentSize * k) ++
      Unsent.nextPayload ⟨message, fragmentSize * k⟩ =
        message.extract 0 (Unsent.nextStop ⟨message, fragmentSize * k⟩) :=
    ByteArray.extract_append_extract.trans (by rw [hstop]; congr 1; omega)
  have hpayload : (Unsent.nextPayload ⟨message, fragmentSize * k⟩).size =
      min (Unsent.nextStop ⟨message, fragmentSize * k⟩) message.size -
        fragmentSize * k := by
    rw [Unsent.nextPayload, ByteArray.size_extract]
  rw [hfield, hpayload, hbytes, Fragment.isLast, hfield, decide_eq_true_eq, hstop, hlength]
  by_cases hlast : k = message.size / fragmentSize
  · subst k
    simp only [if_true, hdivision, ByteArray.extract_zero_size]
    exact ⟨Nat.le_refl _, by omega, by omega, iff_of_true hrest trivial, trivial⟩
  · have hmore : fragmentSize * (k + 1) ≤
        fragmentSize * (message.size / fragmentSize) :=
      Nat.mul_le_mul_left _ (by omega)
    rw [Nat.mul_add] at hmore
    simp only [hlast, if_false, Nat.mul_add, Nat.mul_one, iff_false]
    exact ⟨by omega, by omega, by omega, by omega, trivial⟩

section
variable {c : Channel} (source : Address) {sequence : UInt32} {message : ByteArray}
  {k : Nat} {cursor : Cursor}

/-- A fragment that does not continue the gathered bytes leaves them alone. -/
theorem receiveFragment_of_misplaced
    (hk : k ≤ message.size / fragmentSize)
    (hpayload : cursor.remaining = Unsent.nextPayload ⟨message, fragmentSize * k⟩)
    (hplace : UInt16.ofNat (fragmentSize * k) ≠
      UInt16.ofNat (c.gathered sequence).size) :
    ∃ receipt tally,
      c.receiveFragment source sequence
            (Unsent.nextFragment ⟨message, fragmentSize * k⟩) cursor =
          (receipt,
            { c with incoming :=
                ⟨c.incoming.sequence, .gathering sequence (c.gathered sequence), tally⟩ }) ∧
        receipt.message? = none := by
  obtain ⟨-, hsize, hfull, -, -⟩ := fragment_fields hk
  obtain ⟨records, tally, hgather, -⟩ := c.gather_spec sequence
  have hlegal : ¬ (fragmentSize <
        (Unsent.nextFragment ⟨message, fragmentSize * k⟩).length.toNat ∨
      cursor.remaining.size <
        (Unsent.nextFragment ⟨message, fragmentSize * k⟩).length.toNat) := by
    rw [hpayload, hsize]
    omega
  have hstart : (Unsent.nextFragment ⟨message, fragmentSize * k⟩).start ≠
      UInt16.ofNat (Assembly.gathering sequence (c.gathered sequence)).bytes.size :=
    hplace
  refine ⟨(c.receiveFragment source sequence
      (Unsent.nextFragment ⟨message, fragmentSize * k⟩) cursor).1,
    tally.discard (.missingFragment sequence (c.gathered sequence).size
      (Unsent.nextFragment ⟨message, fragmentSize * k⟩).start), ?_, ?_⟩
  · simp only [receiveFragment, if_neg hlegal, hgather, appendFragment, if_pos hstart,
      discard]
    rfl
  · simp only [receiveFragment, if_neg hlegal, hgather, appendFragment, if_pos hstart,
      discard]
    rfl

/-- A fragment that continues the gathered bytes is added to them, and the last one
completes the message. -/
theorem receiveFragment_of_placed
    (hk : k ≤ message.size / fragmentSize) (hmessage : message.size ≤ maxMessageSize)
    (hin : cursor.InBounds)
    (hpayload : cursor.remaining = Unsent.nextPayload ⟨message, fragmentSize * k⟩)
    (hplace : c.gathered sequence = message.extract 0 (fragmentSize * k)) :
    ∃ receipt tally,
      c.receiveFragment source sequence
            (Unsent.nextFragment ⟨message, fragmentSize * k⟩) cursor =
          (receipt,
            if k = message.size / fragmentSize then
              { c with
                remote := source
                incoming :=
                  ⟨sequence, .idle,
                    tally.deliver (Sequence.gap sequence c.incoming.sequence)⟩ }
            else
              { c with incoming :=
                  ⟨c.incoming.sequence,
                    .gathering sequence (message.extract 0 (fragmentSize * (k + 1))),
                    tally⟩ }) ∧
        receipt.message? =
          (if k = message.size / fragmentSize then some message else none) ∧
        (c.Undisturbed sequence → tally = c.incoming.tally) := by
  obtain ⟨hstop, hsize, hfull, hlast, hbytes⟩ := fragment_fields hk
  obtain ⟨records, tally, hgather, htally⟩ := c.gather_spec sequence
  have hlegal : ¬ (fragmentSize <
        (Unsent.nextFragment ⟨message, fragmentSize * k⟩).length.toNat ∨
      cursor.remaining.size <
        (Unsent.nextFragment ⟨message, fragmentSize * k⟩).length.toNat) := by
    rw [hpayload, hsize]
    omega
  have hgatheredSize : (c.gathered sequence).size = fragmentSize * k := by
    rw [hplace, ByteArray.size_extract]
    omega
  have hstart : ¬ (Unsent.nextFragment ⟨message, fragmentSize * k⟩).start ≠
      UInt16.ofNat (Assembly.gathering sequence (c.gathered sequence)).bytes.size := by
    rw [Assembly.bytes, hgatheredSize]
    exact fun hne => hne rfl
  have hbound : ¬ maxMessageSize <
      (Assembly.gathering sequence (c.gathered sequence)).bytes.size +
        (Unsent.nextFragment ⟨message, fragmentSize * k⟩).length.toNat := by
    rw [Assembly.bytes, hgatheredSize]
    omega
  have hread : cursor.read (Unsent.nextFragment ⟨message, fragmentSize * k⟩).length.toNat =
      (.ok (Unsent.nextPayload ⟨message, fragmentSize * k⟩),
        cursor.skip (Unsent.nextFragment ⟨message, fragmentSize * k⟩).length.toNat) := by
    rw [← hsize]
    have hrest : cursor.remaining =
        Unsent.nextPayload ⟨message, fragmentSize * k⟩ ++ ByteArray.empty := by
      rw [hpayload, ByteArray.append_empty]
    exact Cursor.read_of_append hin hrest
  have hsettle : c.receiveFragment source sequence
        (Unsent.nextFragment ⟨message, fragmentSize * k⟩) cursor =
      Prod.map (·.after records) id
        (Channel.settle
          { c with incoming :=
              ⟨c.incoming.sequence,
                .gathering sequence
                  (c.gathered sequence ++ Unsent.nextPayload ⟨message, fragmentSize * k⟩),
                tally⟩ }
          source sequence (Unsent.nextFragment ⟨message, fragmentSize * k⟩).isLast
          (cursor.skip
            (Unsent.nextFragment ⟨message, fragmentSize * k⟩).length.toNat)) := by
    simp only [receiveFragment, if_neg hlegal, hgather, appendFragment, if_neg hstart,
      if_neg hbound, hread, extend, Assembly.extend]
    rfl
  rw [hplace, hbytes] at hsettle
  by_cases hend : k = message.size / fragmentSize
  · rw [if_pos hend, hlast.mpr hend] at hsettle
    simp only [if_pos hend]
    exact ⟨_, tally, hsettle, congrArg some (Cursor.remaining_ofBytes message), htally⟩
  · have hmore : (Unsent.nextFragment ⟨message, fragmentSize * k⟩).isLast = false := by
      rw [← Bool.not_eq_true, hlast]
      exact hend
    rw [if_neg hend, hmore] at hsettle
    simp only [if_neg hend]
    exact ⟨_, tally, hsettle, rfl, htally⟩

end

/-! ## In order -/

/-- The datagrams `packets` are what a matching sender still has to deliver: the rest
of the message that is being put together, if there is one, and then messages with the
next sequences. -/
inductive Expects (c : Channel) (packets : List Packet) : Prop
  | idle (messages : List ByteArray)
      (horigin : Sequence.Origin c.incoming.sequence)
      (hassembly : c.incoming.assembly = .idle)
      (hsizes : ∀ message ∈ messages, message.size ≤ maxMessageSize)
      (hpackets : packets =
        Packet.stream c.peerStamp (Sequence.next c.incoming.sequence) messages)
  | gathering (message : ByteArray) (k : Nat) (messages : List ByteArray)
      (horigin : Sequence.Origin c.incoming.sequence)
      (hassembly : c.incoming.assembly =
        .gathering (Sequence.next c.incoming.sequence)
          (message.extract 0 (fragmentSize * k)))
      (hk : k ≤ message.size / fragmentSize)
      (hsizes : ∀ m ∈ message :: messages, m.size ≤ maxMessageSize)
      (hpackets : packets =
        Packet.fragments c.peerStamp (Sequence.next c.incoming.sequence) message k ++
          Packet.stream c.peerStamp
            (Sequence.next (Sequence.next c.incoming.sequence)) messages)

/-- What the receiving direction is after a packet that comes in order: a message that
it completes is counted, and no sequence is skipped. -/
structure Advanced (before after : Incoming) (p : Packet) : Prop where
  sequence : after.sequence =
    if p.completes.isSome then Sequence.next before.sequence else before.sequence
  tally : after.tally =
    if p.completes.isSome then before.tally.deliver 0 else before.tally

theorem Advanced.losses
    {before after : Incoming} {p : Packet} (hadvanced : Advanced before after p) :
    after.tally.discarded = before.tally.discarded ∧
      after.tally.abandoned = before.tally.abandoned ∧
      after.tally.totalDropped = before.tally.totalDropped := by
  rw [hadvanced.tally]
  split <;> exact ⟨rfl, rfl, rfl⟩

theorem receive_fragment_in_order
    {c : Channel} {message : ByteArray} {k : Nat} {messages : List ByteArray}
    (horigin : Sequence.Origin c.incoming.sequence)
    (hk : k ≤ message.size / fragmentSize)
    (hsizes : ∀ m ∈ message :: messages, m.size ≤ maxMessageSize)
    (hundisturbed : c.Undisturbed (Sequence.next c.incoming.sequence))
    (hplace : c.gathered (Sequence.next c.incoming.sequence) =
      message.extract 0 (fragmentSize * k)) :
    ∃ receipt incoming,
      c.receive c.remote
            (.ofBytes (Packet.fragment c.peerStamp (Sequence.next c.incoming.sequence)
              ⟨message, fragmentSize * k⟩).bytes) =
          (receipt, { c with incoming }) ∧
        receipt.message? =
          (Packet.fragment c.peerStamp (Sequence.next c.incoming.sequence)
            ⟨message, fragmentSize * k⟩).completes ∧
        Advanced c.incoming incoming
          (Packet.fragment c.peerStamp (Sequence.next c.incoming.sequence)
            ⟨message, fragmentSize * k⟩) ∧
        Expects { c with incoming }
          (Packet.fragments c.peerStamp (Sequence.next c.incoming.sequence) message
              (k + 1) ++
            Packet.stream c.peerStamp
              (Sequence.next (Sequence.next c.incoming.sequence)) messages) := by
  have hmessage := hsizes message List.mem_cons_self
  have hcompletes := Packet.completes_fragment hk c.peerStamp
    (Sequence.next c.incoming.sequence)
  have hreceive := receive_fragment (Sequence.next_sendable c.incoming.sequence)
    c.recognizes_remote (Sequence.newer_next horigin) ⟨message, fragmentSize * k⟩
  obtain ⟨receipt, tally, hfragment, hmessage?, htally⟩ :=
    receiveFragment_of_placed (c := c) c.remote hk hmessage
      (Packet.inBounds_cursor _)
      (Packet.remaining_cursor (Packet.fragment c.peerStamp
        (Sequence.next c.incoming.sequence) ⟨message, fragmentSize * k⟩)) hplace
  rw [htally hundisturbed, Sequence.gap_next horigin] at hfragment
  by_cases hend : k = message.size / fragmentSize
  · rw [if_pos hend] at hcompletes hmessage? hfragment
    refine ⟨receipt, _, hreceive.trans hfragment, hmessage?.trans hcompletes.symm,
      ⟨?_, ?_⟩, ?_⟩
    · rw [hcompletes]
      rfl
    · rw [hcompletes]
      rfl
    · rw [Packet.fragments_of_lt (by omega), List.nil_append]
      exact .idle messages (Or.inr (Sequence.next_sendable _)) rfl
        (fun m hm => hsizes m (List.mem_cons_of_mem _ hm)) rfl
  · rw [if_neg hend] at hcompletes hmessage? hfragment
    refine ⟨receipt, _, hreceive.trans hfragment, hmessage?.trans hcompletes.symm,
      ⟨?_, ?_⟩, ?_⟩
    · rw [hcompletes]
      rfl
    · rw [hcompletes]
      rfl
    · exact .gathering message (k + 1) messages horigin rfl (by omega) hsizes rfl

theorem Expects.with_outgoing {c : Channel} {packets : List Packet}
    (hexpects : c.Expects packets) (outgoing : Outgoing) :
    Expects { c with outgoing } packets := by
  cases hexpects with
  | idle messages horigin hassembly hsizes hpackets =>
      exact .idle messages horigin hassembly hsizes hpackets
  | gathering message k messages horigin hassembly hk hsizes hpackets =>
      exact .gathering message k messages horigin hassembly hk hsizes hpackets

/-- Every datagram that a receiver expects belongs to its connection. -/
theorem Expects.header {c : Channel} {packets : List Packet} (hexpects : c.Expects packets)
    {p : Packet} (hp : p ∈ packets) :
    Sequence.Sendable p.header.sequence ∧ p.header.qport = c.peerStamp := by
  have hstream : ∀ {sequence messages},
      p ∈ Packet.stream c.peerStamp (Sequence.next sequence) messages →
        Sequence.Sendable p.header.sequence ∧ p.header.qport = c.peerStamp := by
    intro sequence messages hmem
    obtain ⟨i, message, -, hmessage⟩ := Packet.exists_of_mem_stream hmem
    rw [← Sequence.advance_succ] at hmessage
    rw [Packet.sequence_of_mem hmessage, Packet.qport_of_mem hmessage]
    exact ⟨Sequence.next_sendable _, rfl⟩
  cases hexpects with
  | idle messages horigin hassembly hsizes hpackets =>
      rw [hpackets] at hp
      exact hstream hp
  | gathering message k messages horigin hassembly hk hsizes hpackets =>
      rw [hpackets, List.mem_append] at hp
      rcases hp with hp | hp
      · obtain ⟨i, -, rfl⟩ := List.mem_map.mp hp
        exact ⟨Sequence.next_sendable _, rfl⟩
      · exact hstream hp

/-- A datagram that comes in order is taken: it completes the message that the sender
completed with it, and the receiver goes on to the rest. -/
theorem Expects.receive {c : Channel} {p : Packet} {rest : List Packet}
    (hexpects : c.Expects (p :: rest)) :
    ∃ receipt incoming,
      c.receive c.remote (.ofBytes p.bytes) = (receipt, { c with incoming }) ∧
        receipt.message? = p.completes ∧
        Advanced c.incoming incoming p ∧
        Expects { c with incoming } rest := by
  cases hexpects with
  | gathering message k messages horigin hassembly hk hsizes hpackets =>
      rw [Packet.fragments_cons hk, List.cons_append, List.cons.injEq] at hpackets
      obtain ⟨rfl, rfl⟩ := hpackets
      refine receive_fragment_in_order horigin hk hsizes (Or.inr ?_) ?_
      · rw [hassembly]
        rfl
      · exact gathered_of_gathering hassembly
  | idle messages horigin hassembly hsizes hpackets =>
      cases messages with
      | nil => simp [Packet.stream] at hpackets
      | cons message messages =>
          rw [Packet.stream, Packet.ofMessage] at hpackets
          by_cases hlong : maxUnfragmentedSize < message.size
          · rw [if_pos hlong, Packet.fragments_cons (Nat.zero_le _), List.cons_append,
              List.cons.injEq] at hpackets
            obtain ⟨rfl, rfl⟩ := hpackets
            refine receive_fragment_in_order horigin (Nat.zero_le _) hsizes
              (Or.inl hassembly) ?_
            simpa using gathered_of_idle hassembly _
          · rw [if_neg hlong, List.singleton_append, List.cons.injEq] at hpackets
            obtain ⟨rfl, rfl⟩ := hpackets
            have hreceive := receive_whole
              (Sequence.next_sendable c.incoming.sequence) c.recognizes_remote
              (Sequence.newer_next horigin) message
            obtain ⟨receipt, tally, hwhole, hmessage?, htally⟩ :=
              c.receiveWhole_spec c.remote (Sequence.next c.incoming.sequence)
                (Packet.whole c.peerStamp (Sequence.next c.incoming.sequence)
                  message).cursor
            rw [htally hassembly, Sequence.gap_next horigin] at hwhole
            rw [Packet.remaining_cursor] at hmessage?
            exact ⟨receipt, _, hreceive.trans hwhole, hmessage?, ⟨rfl, rfl⟩,
              .idle messages (Or.inr (Sequence.next_sendable _)) rfl
                (fun m hm => hsizes m (List.mem_cons_of_mem _ hm)) rfl⟩

end Channel
end DatagramLink

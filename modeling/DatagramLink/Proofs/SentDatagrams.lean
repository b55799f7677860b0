import DatagramLink.Proofs.Reassembly

/-!
# The datagrams of a message

The other end sees no calls and no state, only datagrams, and reads a header and a payload off each
of them.  Here a message is sent completely and its datagrams are read back: how many there are,
what their headers say, and that their payloads are the message cut at every `fragmentSize` bytes.

Nothing bounds the message.  Where it is too large to be put together again, only the low 16 bits
of a start are on the wire, and that is what is stated.
-/

namespace DatagramLink

namespace Dispatch

/-- The header that the other end reads.  It expects a qport from clients only. -/
def header? (d : Dispatch) : Option Header :=
  match (Header.read (d.side == .client) (.ofBytes d.bytes)).1 with
  | .ok header => some header
  | .error _ => none

/-- What the other end finds behind the header. -/
def payload (d : Dispatch) : ByteArray :=
  (Header.read (d.side == .client) (.ofBytes d.bytes)).2.remaining

end Dispatch

/-- The fields of the `i`-th of `count` fragments of a message, and its payload. -/
structure Fragment.Cuts (f : Fragment) (payload message : ByteArray) (i count : Nat) : Prop where
  start : f.start.toNat = fragmentSize * i % 2 ^ 16
  length : f.length.toNat = payload.size
  payload : payload =
    message.extract (fragmentSize * i) (min (fragmentSize * (i + 1)) message.size)
  last : f.isLast = true ↔ i + 1 = count

namespace Packet

variable {stamp : Option UInt16} {sequence : UInt32} {message : ByteArray} {i k : Nat}
  {p : Packet}

/-- The payloads of all fragments from one on are the rest of the message. -/
theorem payloads_fragments (hk : k ≤ message.size / fragmentSize) :
    ((fragments stamp sequence message k).map payload).foldr (· ++ ·) ByteArray.empty =
      message.extract (fragmentSize * k) message.size := by
  have hdivision := Nat.div_add_mod message.size fragmentSize
  induction hleft : message.size / fragmentSize - k generalizing k with
  | zero =>
      obtain rfl : k = message.size / fragmentSize := by omega
      have hrest : message.size % fragmentSize < fragmentSize := Nat.mod_lt _ (by decide)
      have hpayload := nextPayload_eq hk
      rw [Nat.mul_add, Nat.min_eq_right (by omega)] at hpayload
      rw [fragments_cons hk, fragments_of_lt (Nat.lt_succ_self _), ← hpayload]
      exact ByteArray.append_empty
  | succ left ih =>
      have hmore : k + 1 ≤ message.size / fragmentSize := by omega
      have hstep := Nat.mul_le_mul_left fragmentSize (Nat.le_succ k)
      have hstop := Nat.mul_le_mul_left fragmentSize hmore
      have hpayload := nextPayload_eq hk
      rw [Nat.min_eq_left (by omega)] at hpayload
      rw [fragments_cons hk, List.map_cons, List.foldr_cons, ih hmore (by omega)]
      change Unsent.nextPayload _ ++ _ = _
      rw [hpayload, ByteArray.extract_append_extract, Nat.min_eq_left hstep,
        Nat.max_eq_right (by omega)]

theorem payloads_ofMessage (stamp : Option UInt16) (sequence : UInt32) (message : ByteArray) :
    ((ofMessage stamp sequence message).map payload).foldr (· ++ ·) ByteArray.empty =
      message := by
  unfold ofMessage
  split
  · rw [payloads_fragments (Nat.zero_le _), Nat.mul_zero, ByteArray.extract_zero_size]
  · exact ByteArray.append_empty

theorem size_le_of_mem (hp : p ∈ ofMessage stamp sequence message) :
    p.bytes.size ≤ maxDatagramSize := by
  have hheader : p.header.encodedSize ≤ maxHeaderSize := by
    unfold Header.encodedSize
    split <;> split <;> decide
  rw [bytes, ByteArray.size_append, Header.size_bytes]
  rcases mem_ofMessage.mp hp with ⟨hshort, rfl⟩ | ⟨-, k, hk, rfl⟩
  · exact Nat.add_le_add hheader hshort
  · obtain ⟨-, hsize, hfull, -, -⟩ := Channel.fragment_fields hk
    have hroom : fragmentSize ≤ maxUnfragmentedSize := by decide
    exact Nat.add_le_add hheader (hsize.le.trans (hfull.trans hroom))

theorem cuts_nextFragment (hi : i ≤ message.size / fragmentSize) :
    (Unsent.nextFragment ⟨message, fragmentSize * i⟩).Cuts
      (Unsent.nextPayload ⟨message, fragmentSize * i⟩) message i
      (message.size / fragmentSize + 1) := by
  obtain ⟨-, hsize, -, hlast, -⟩ := Channel.fragment_fields hi
  refine ⟨UInt16.toNat_ofNat' .., hsize.symm, nextPayload_eq hi, hlast.trans ?_⟩
  omega

/-- A datagram with the bytes of a packet is read as the packet. -/
theorem reads {d : Dispatch} (hsendable : Sequence.Sendable p.header.sequence)
    (hside : (d.side == .client) = p.header.qport.isSome) (hbytes : d.bytes = p.bytes) :
    d.header? = some p.header ∧ d.payload = p.payload := by
  have hread : Header.read (d.side == .client) (.ofBytes d.bytes) = (.ok p.header, p.cursor) := by
    rw [hside, hbytes]
    exact Header.read_bytes_append (Header.lt_fragmentBit_of_sendable hsendable) p.payload
  rw [Dispatch.header?, Dispatch.payload, hread]
  exact ⟨rfl, p.remaining_cursor⟩

end Packet

namespace Channel

theorem isSome_stamp (c : Channel) : c.stamp.isSome = (c.side == .client) := by
  unfold stamp header
  cases c.side <;> rfl

/-! ## One message -/

/-- A channel that was idle has sent a message completely. -/
structure Sent (c : Channel) (message : ByteArray) (sent : List Dispatch) (d : Channel) :
    Prop where
  sendable : Sequence.Sendable c.outgoing.sequence
  idle : c.isBusy = false
  sending : Sending c [message] sent d []
  done : d.isBusy = false

namespace Sent

variable {c d : Channel} {message : ByteArray} {sent : List Dispatch}

theorem bytes_eq (hsent : c.Sent message sent d) :
    sent.map Dispatch.bytes =
      (Packet.ofMessage c.stamp c.outgoing.sequence message).map Packet.bytes :=
  hsent.sending.bytes_of_message hsent.idle hsent.done

theorem length_eq (hsent : c.Sent message sent d) :
    sent.length = datagramCount message.size := by
  have hlength := congrArg List.length hsent.bytes_eq
  rwa [List.length_map, List.length_map, Packet.length_ofMessage] at hlength

/-- The other end reads the headers and the payloads of the packets that make up the message. -/
theorem reads_eq (hsent : c.Sent message sent d) :
    sent.map (fun e => (e.header?, e.payload)) =
      (Packet.ofMessage c.stamp c.outgoing.sequence message).map
        fun p => (some p.header, p.payload) := by
  have hlength := hsent.length_eq
  rw [← Packet.length_ofMessage c.stamp c.outgoing.sequence] at hlength
  refine List.ext_getElem (by simpa using hlength) fun i hi hi' => ?_
  rw [List.length_map] at hi hi'
  rw [List.getElem_map, List.getElem_map]
  have hmem := List.getElem_mem hi'
  have hside := (hsent.sending.addressed _ (List.getElem_mem hi)).1
  have hplace : sent[i].bytes =
      (Packet.ofMessage c.stamp c.outgoing.sequence message)[i].bytes := by
    have hentry := congrArg (·[i]?) hsent.bytes_eq
    simpa [hi, hi'] using hentry
  obtain ⟨hheader, hpayload⟩ := Packet.reads
    (by rw [Packet.sequence_of_mem hmem]; exact hsent.sendable)
    (by rw [Packet.qport_of_mem hmem, hside, isSome_stamp]) hplace
  rw [hheader, hpayload]

theorem payloads_eq (hsent : c.Sent message sent d) :
    (sent.map Dispatch.payload).foldr (· ++ ·) ByteArray.empty = message := by
  have hpayloads := congrArg (List.map Prod.snd) hsent.reads_eq
  rw [List.map_map, List.map_map] at hpayloads
  exact (congrArg (List.foldr (· ++ ·) ByteArray.empty) hpayloads).trans
    (Packet.payloads_ofMessage _ _ message)

/-- Each datagram is the message, or the fragment with its number. -/
theorem reads_at (hsent : c.Sent message sent d) {i : Nat} (hi : i < sent.length) :
    ∃ fragment?,
      sent[i].header? = some ⟨c.outgoing.sequence, c.stamp, fragment?⟩ ∧
        (message.size ≤ maxUnfragmentedSize → fragment? = none) ∧
        (maxUnfragmentedSize < message.size → ∃ f, fragment? = some f ∧
          f.Cuts sent[i].payload message i sent.length) := by
  have hentry := congrArg (·[i]?) hsent.reads_eq
  simp only [List.getElem?_map, List.getElem?_eq_getElem hi, Option.map_some] at hentry
  obtain ⟨p, hp, hpair⟩ := Option.map_eq_some_iff.mp hentry.symm
  obtain ⟨hheader, hpayload⟩ := Prod.ext_iff.mp hpair
  simp only at hheader hpayload
  rw [← hheader, ← hpayload]
  rcases Packet.getElem?_ofMessage.mp hp with ⟨hshort, -, rfl⟩ | ⟨hlong, hplace, rfl⟩
  · exact ⟨none, rfl, fun _ => rfl, fun hlong => absurd hshort (Nat.not_le.mpr hlong)⟩
  · have hcount := hsent.length_eq
    rw [datagramCount, if_pos hlong] at hcount
    refine ⟨_, rfl, fun hshort => absurd hshort (Nat.not_le.mpr hlong), fun _ => ⟨_, rfl, ?_⟩⟩
    rw [hcount]
    exact Packet.cuts_nextFragment hplace

theorem fits (hsent : c.Sent message sent d) {e : Dispatch} (he : e ∈ sent) :
    e.bytes.size ≤ maxDatagramSize ∧ isConnectionless e.bytes = false := by
  have hmem := List.mem_map_of_mem (f := Dispatch.bytes) he
  rw [hsent.bytes_eq] at hmem
  obtain ⟨p, hp, hpacket⟩ := List.mem_map.mp hmem
  have hsendable := hsent.sendable
  rw [← Packet.sequence_of_mem hp] at hsendable
  rw [← hpacket]
  exact ⟨Packet.size_le_of_mem hp, Header.isConnectionless_bytes_append hsendable p.payload⟩

/-- What a channel would send next tells its sequence, and behind one message that is the next
one. -/
theorem eq_finishMessage (hsent : c.Sent message sent d) : d = c.finishMessage := by
  obtain ⟨-, hidle, ⟨⟨outgoing, rfl⟩, -, -, packets, -, hpending⟩, hdone⟩ := hsent
  have hnow := hpending []
  have hlater := hpending [ByteArray.empty]
  rw [pending_of_idle hidle, pending_of_idle hdone] at hnow hlater
  simp only [List.cons_append, List.nil_append, List.append_nil, Packet.stream] at hnow hlater
  rw [hnow] at hlater
  have hnext := List.append_cancel_left hlater
  have hsequence : Sequence.next c.outgoing.sequence = outgoing.sequence :=
    congrArg (fun p : Packet => p.header.sequence) (List.cons.inj hnext).1
  have hunsent : outgoing.unsent = none := by
    simpa [isBusy] using hdone
  rw [finishMessage, hsequence, ← hunsent]

end Sent

/-- A message is cut exactly.  Sending it ends, and what was sent, one datagram a call, is the
message in one piece, or its pieces of `fragmentSize` bytes in order and a shorter one at the end.
All are within the size of a datagram and belong to a channel, and the channel is idle again with
the sequence moved on by one. -/
theorem transmits_exactly {c : Channel} (hidle : c.isBusy = false)
    (hsendable : Sequence.Sendable c.outgoing.sequence) (message : ByteArray) :
    (∃ first started rest last,
        c.transmit message = .ok (first, started) ∧ Finishes started rest last) ∧
      ∀ first started rest last,
        c.transmit message = .ok (first, started) → Finishes started rest last →
          let sent := first :: rest
          sent.length =
              (if message.size ≤ maxUnfragmentedSize then 1
              else message.size / fragmentSize + 1) ∧
            (∀ i (hi : i < sent.length), ∃ fragment?,
              sent[i].header? = some ⟨c.outgoing.sequence, c.stamp, fragment?⟩ ∧
                (message.size ≤ maxUnfragmentedSize → fragment? = none) ∧
                (maxUnfragmentedSize < message.size → ∃ f, fragment? = some f ∧
                  f.Cuts sent[i].payload message i sent.length)) ∧
            (sent.map Dispatch.payload).foldr (· ++ ·) ByteArray.empty = message ∧
            (∀ d ∈ sent, d.bytes.size ≤ maxDatagramSize ∧ isConnectionless d.bytes = false) ∧
            last = { c with outgoing := ⟨Sequence.next c.outgoing.sequence, none⟩ } := by
  have haligned := Aligned.of_idle hsendable hidle
  obtain ⟨first, started, hsend, hfirst⟩ := sending_message haligned hidle message []
  refine ⟨?_, ?_⟩
  · obtain ⟨rest, last, hfinish⟩ := exists_finishes hfirst.aligned
    exact ⟨first, started, rest, last, hsend, hfinish⟩
  · intro first' started' rest last hsend' hfinish sent
    rw [hsend] at hsend'
    cases hsend'
    obtain ⟨hrest, hdone⟩ := hfinish.sending hfirst.aligned []
    have hsent : c.Sent message sent last := ⟨hsendable, hidle, hfirst.trans hrest, hdone⟩
    refine ⟨?_, fun i hi => hsent.reads_at hi, hsent.payloads_eq, fun d hd => hsent.fits hd,
      hsent.eq_finishMessage⟩
    rw [hsent.length_eq, datagramCount]
    split <;> split <;> omega

/-- The last sequence of the circle, and a message of two full fragments: a third one without
payload ends it. -/
theorem transmits_exactly_full_fragments :
    let c : Channel := ⟨.client, .loopback, 7, false, ⟨0x7FFFFFFE, none⟩, {}⟩
    let message := Bytes.fill 65 2600
    c.isBusy = false ∧ Sequence.Sendable c.outgoing.sequence ∧
      ∃ first started rest last,
        c.transmit message = .ok (first, started) ∧ Finishes started rest last ∧
          rest.length = 2 ∧
          (∀ i (hi : i < (first :: rest).length), ∃ f,
            (first :: rest)[i].header? = some ⟨0x7FFFFFFE, some 7, some f⟩ ∧
              f.Cuts (first :: rest)[i].payload message i 3) ∧
          last.outgoing = ⟨1, none⟩ := by
  intro c message
  have hsize : message.size = 2600 := Bytes.size_generate 2600 _
  have hlong : maxUnfragmentedSize < message.size := by
    rw [hsize]
    decide
  have hidle : c.isBusy = false := rfl
  have hsendable : Sequence.Sendable c.outgoing.sequence := by decide
  obtain ⟨⟨first, started, rest, last, hsend, hfinish⟩, hexact⟩ :=
    transmits_exactly hidle hsendable message
  obtain ⟨hlength, hreads, -, -, hlast⟩ := hexact first started rest last hsend hfinish
  have hthree : (first :: rest).length = 3 := by
    rw [hlength, if_neg (Nat.not_le.mpr hlong), hsize]
    rfl
  refine ⟨hidle, hsendable, first, started, rest, last, hsend, hfinish,
    Nat.succ.inj hthree, fun i hi => ?_, ?_⟩
  · obtain ⟨_, hheader, -, hcut⟩ := hreads i hi
    obtain ⟨f, rfl, hcuts⟩ := hcut hlong
    rw [hthree] at hcuts
    exact ⟨f, hheader, hcuts⟩
  · rw [hlast]
    rfl

end Channel
end DatagramLink

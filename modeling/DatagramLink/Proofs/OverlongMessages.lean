import DatagramLink.Proofs.ChannelInvariant
import DatagramLink.Proofs.DeliveryCondition

/-!
# Messages that are too large

A receiver puts `maxMessageSize` bytes together at most.  Of a larger message it gathers the full
fragments that fit and drops the next one.  After that it still takes a fragment that starts where
the gathered bytes end, and a fragment names its start by the low 16 bits only: `2 ^ 14` fragments
further on they are the same again.  A full fragment does not fit there, but the last one may, and
with it the receiver delivers a message that nobody sent.
-/

namespace DatagramLink

/-- How many full fragments of a message can be gathered. -/
def fragmentCapacity : Nat := maxMessageSize / fragmentSize

/-- The last fragment of a message fits behind those that can be gathered, and seems to start
there. -/
structure Splices (message : ByteArray) : Prop where
  start : 2 ^ 14 ∣ message.size / fragmentSize - fragmentCapacity
  fits : message.size % fragmentSize ≤ maxMessageSize % fragmentSize

theorem splices_iff (message : ByteArray) :
    Splices message ↔
      2 ^ 14 ∣ message.size / fragmentSize - fragmentCapacity ∧
        message.size % fragmentSize ≤ maxMessageSize % fragmentSize :=
  ⟨fun hsplices => ⟨hsplices.start, hsplices.fits⟩, fun hboth => ⟨hboth.1, hboth.2⟩⟩

instance (message : ByteArray) : Decidable (Splices message) :=
  decidable_of_iff' _ (splices_iff message)

/-- The fragments that can be gathered, and then the last one. -/
def splice (message : ByteArray) : ByteArray :=
  message.extract 0 (fragmentSize * fragmentCapacity) ++
    message.extract (fragmentSize * (message.size / fragmentSize)) message.size

section
variable {message : ByteArray} {i : Nat}

theorem mul_fragmentCapacity_le : fragmentSize * fragmentCapacity ≤ maxMessageSize :=
  Nat.mul_div_le _ _

theorem fragmentCapacity_le (hlong : maxMessageSize < message.size) :
    fragmentCapacity ≤ message.size / fragmentSize :=
  Nat.div_le_div_right (Nat.le_of_lt hlong)

/-- Two fragments seem to start at the same place when their numbers agree modulo `2 ^ 14`. -/
theorem place_eq_iff (hi : fragmentCapacity ≤ i) :
    UInt16.ofNat (fragmentSize * i) = UInt16.ofNat (fragmentSize * fragmentCapacity) ↔
      2 ^ 14 ∣ i - fragmentCapacity := by
  have hcapacity : fragmentCapacity = 6452 := by decide
  rw [← UInt16.toNat_inj, UInt16.toNat_ofNat', UInt16.toNat_ofNat', hcapacity,
    show fragmentSize = 1300 from rfl]
  omega

theorem nextPayload_last (message : ByteArray) :
    Unsent.nextPayload ⟨message, fragmentSize * (message.size / fragmentSize)⟩ =
      message.extract (fragmentSize * (message.size / fragmentSize)) message.size := by
  have hend : message.size < fragmentSize * (message.size / fragmentSize + 1) :=
    Nat.lt_mul_div_succ _ (by decide)
  rw [Packet.nextPayload_eq (Nat.le_refl _), Nat.min_eq_right hend.le]

/-- What is delivered in place of a message that is too large is smaller. -/
theorem size_splice_lt (hlong : maxMessageSize < message.size) (hsplices : Splices message) :
    (splice message).size < message.size := by
  have hfits := hsplices.fits
  have hdivision := Nat.div_add_mod message.size fragmentSize
  have hlimit := Nat.div_add_mod maxMessageSize fragmentSize
  rw [splice, ByteArray.size_append, ByteArray.size_extract, ByteArray.size_extract]
  rw [← fragmentCapacity] at hlimit
  omega

end

namespace Channel

section
variable {c : Channel} {sequence : UInt32} {message : ByteArray} {i k : Nat}

/-- A fragment that comes in its place is added as long as there is room for a full one. -/
theorem Awaits.continues_of_lt (hawaits : c.Awaits sequence message k)
    (hlong : maxMessageSize < message.size) (hk : k < fragmentCapacity) :
    (Unsent.nextFragment ⟨message, fragmentSize * k⟩).Continues (c.gathered sequence) := by
  have hle := (Nat.le_of_lt hk).trans (fragmentCapacity_le hlong)
  have hlength := length_nextFragment hle
  rw [if_neg (hk.trans_le (fragmentCapacity_le hlong)).ne] at hlength
  have hroom : fragmentSize * (k + 1) ≤ fragmentSize * fragmentCapacity :=
    Nat.mul_le_mul_left _ hk
  rw [Fragment.Continues, hawaits.size_gathered hle, hlength]
  exact ⟨rfl, hroom.trans mul_fragmentCapacity_le⟩

/-- Behind the fragments that can be gathered no full one fits. -/
theorem Awaits.not_continues_of_lt (hawaits : c.Awaits sequence message fragmentCapacity)
    (hlong : maxMessageSize < message.size) (hi : i < message.size / fragmentSize) :
    ¬ (Unsent.nextFragment ⟨message, fragmentSize * i⟩).Continues (c.gathered sequence) := by
  have hlength := length_nextFragment (Nat.le_of_lt hi)
  rw [if_neg hi.ne] at hlength
  rw [Fragment.Continues, hawaits.size_gathered (fragmentCapacity_le hlong), hlength]
  exact fun hfits => absurd hfits.2 (by decide)

/-- The last fragment is taken for the next one when the message splices. -/
theorem Awaits.continues_last_iff (hawaits : c.Awaits sequence message fragmentCapacity)
    (hlong : maxMessageSize < message.size) :
    (Unsent.nextFragment ⟨message, fragmentSize * (message.size / fragmentSize)⟩).Continues
        (c.gathered sequence) ↔
      Splices message := by
  have hle := fragmentCapacity_le hlong
  have hlength := length_nextFragment (Nat.le_refl (message.size / fragmentSize))
  have hlimit := Nat.div_add_mod maxMessageSize fragmentSize
  rw [if_pos rfl] at hlength
  rw [← fragmentCapacity] at hlimit
  rw [Fragment.Continues, hawaits.size_gathered hle, hlength, splices_iff]
  refine and_congr (place_eq_iff hle) ?_
  omega

/-- The fragments that are not the last one arrive in order. -/
theorem Awaits.receive_overlong (hawaits : c.Awaits sequence message (min i fragmentCapacity))
    (hsendable : Sequence.Sendable sequence) (hlong : maxMessageSize < message.size)
    (hi : i < message.size / fragmentSize) :
    ∃ receipt incoming,
      c.receive c.remote
            (.ofBytes (Packet.fragment c.peerStamp sequence
              ⟨message, fragmentSize * i⟩).bytes) =
          (receipt, { c with incoming }) ∧
        receipt.message? = none ∧
        Awaits { c with incoming } sequence message (min (i + 1) fragmentCapacity) := by
  by_cases hroom : i < fragmentCapacity
  · rw [Nat.min_eq_left (Nat.le_of_lt hroom)] at hawaits
    rw [Nat.min_eq_left hroom]
    obtain ⟨receipt, hreceive, hnone⟩ :=
      hawaits.receive_more hsendable hi (hawaits.continues_of_lt hlong hroom)
    exact ⟨receipt, _, hreceive, hnone, hawaits.gathering (i + 1) _⟩
  · rw [Nat.min_eq_right (Nat.not_lt.mp hroom)] at hawaits
    rw [Nat.min_eq_right (by omega)]
    exact hawaits.receive_misfit hsendable (Nat.le_of_lt hi)
      (hawaits.not_continues_of_lt hlong hi)

theorem Awaits.takeIn_overlong
    (hawaits : c.Awaits sequence message (min i fragmentCapacity))
    (hsendable : Sequence.Sendable sequence) (hlong : maxMessageSize < message.size)
    (hi : i ≤ message.size / fragmentSize) :
    (c.takeIn c.remote
        ((Packet.fragments c.peerStamp sequence message i).map Packet.bytes)).1 =
      if Splices message then [splice message] else [] := by
  induction hleft : message.size / fragmentSize - i generalizing c i with
  | zero =>
      obtain rfl : i = message.size / fragmentSize := by omega
      rw [Nat.min_eq_right (fragmentCapacity_le hlong)] at hawaits
      rw [Packet.fragments_cons hi, Packet.fragments_of_lt (Nat.lt_succ_self _)]
      have hcontinues := hawaits.continues_last_iff hlong
      by_cases hsplices : Splices message
      · obtain ⟨receipt, incoming, hreceive, hdelivered, -⟩ :=
          hawaits.receive_last hsendable (hcontinues.mpr hsplices)
        rw [nextPayload_last] at hdelivered
        simp only [List.map_cons, List.map_nil, takeIn, hreceive, hdelivered, if_pos hsplices]
        rfl
      · obtain ⟨receipt, incoming, hreceive, hnone, -⟩ :=
          hawaits.receive_misfit hsendable hi fun hfits => hsplices (hcontinues.mp hfits)
        simp only [List.map_cons, List.map_nil, takeIn, hreceive, hnone, if_neg hsplices]
        rfl
  | succ left ih =>
      obtain ⟨receipt, incoming, hreceive, hnone, hafter⟩ :=
        hawaits.receive_overlong hsendable hlong (by omega)
      have hrest := ih hafter (by omega) (by omega)
      rw [Packet.fragments_cons hi, List.map_cons]
      simp only [takeIn, hreceive, hnone]
      exact hrest

/-- Datagrams of one sequence that is not newer than the last complete message. -/
theorem takeIn_stale (hsendable : Sequence.Sendable sequence)
    (hstale : Sequence.newer sequence c.incoming.sequence = false) (packets : List Packet)
    (hpackets : ∀ p ∈ packets, p.header.sequence = sequence ∧ p.header.qport = c.peerStamp) :
    (c.takeIn c.remote (packets.map Packet.bytes)).1 = [] := by
  induction packets generalizing c with
  | nil => rfl
  | cons p rest ih =>
      obtain ⟨rfl, hstamp⟩ := hpackets p List.mem_cons_self
      obtain ⟨receipt, tally, hreceive, hnone⟩ :=
        receive_stale hsendable hstamp c.recognizes_remote hstale
      have hrest := ih (c := { c with incoming := { c.incoming with tally } }) hstale
        fun q hq => hpackets q (List.mem_cons_of_mem _ hq)
      simp only [List.map_cons, takeIn, hreceive, hnone]
      exact hrest

end

section
variable {sender receiver after : Channel} {message : ByteArray} {sent : List Dispatch}

theorem SendsAll.takeIn_overlong (hsends : SendsAll sender [message] sent after)
    (hmatch : Matches sender receiver) (hsendable : Sequence.Sendable sender.outgoing.sequence)
    (hidle : sender.isBusy = false)
    (hother : receiver.incoming.assembly.sequence? ≠ some sender.outgoing.sequence)
    (hlong : maxMessageSize < message.size) :
    (receiver.takeIn receiver.remote (sent.map Dispatch.bytes)).1 =
      if Sequence.newer sender.outgoing.sequence receiver.incoming.sequence = true ∧
          Splices message then
        [splice message]
      else [] := by
  rw [hsends.bytes_eq hmatch hsendable hidle]
  by_cases hnewer :
      Sequence.newer sender.outgoing.sequence receiver.incoming.sequence = true
  · have hsplit : maxUnfragmentedSize < message.size := Nat.lt_trans (by decide) hlong
    have hawaits : receiver.Awaits sender.outgoing.sequence message (min 0 fragmentCapacity) :=
      .of_other hnewer hother
    simp only [hnewer, true_and]
    rw [Packet.ofMessage, if_pos hsplit]
    exact hawaits.takeIn_overlong hsendable hlong (Nat.zero_le _)
  · rw [if_neg fun hboth => hnewer hboth.1]
    refine takeIn_stale hsendable (by simpa using hnewer) _ fun p hp => ?_
    exact ⟨Packet.sequence_of_mem hp, Packet.qport_of_mem hp⟩

end

/-- All datagrams of a message that is too large arrive in order.  The receiver does not deliver
the message, but it delivers another one if the message splices, and nothing otherwise. -/
theorem overlong_delivers_splice {sender receiver : Channel} (hmatch : Matches sender receiver)
    (hsendable : Sequence.Sendable sender.outgoing.sequence) (hidle : sender.isBusy = false)
    (hother : receiver.incoming.assembly.sequence? ≠ some sender.outgoing.sequence)
    {message : ByteArray} (hlong : maxMessageSize < message.size) :
    (∃ sent after, SendsAll sender [message] sent after) ∧
      ∀ sent after, SendsAll sender [message] sent after →
        (receiver.takeIn receiver.remote (sent.map Dispatch.bytes)).1 =
            (if Sequence.newer sender.outgoing.sequence receiver.incoming.sequence = true ∧
                Splices message then
              [splice message]
            else []) ∧
          message ∉ (receiver.takeIn receiver.remote (sent.map Dispatch.bytes)).1 := by
  refine ⟨exists_sendsAll (.of_idle hsendable hidle) hidle [message], ?_⟩
  intro sent after hsends
  have hdelivered := hsends.takeIn_overlong hmatch hsendable hidle hother hlong
  refine ⟨hdelivered, fun hmem => ?_⟩
  rw [hdelivered] at hmem
  split at hmem
  · next hboth =>
      have hsize := size_splice_lt hlong hboth.2
      rw [← List.mem_singleton.mp hmem] at hsize
      exact Nat.lt_irrefl _ hsize
  · simp at hmem

/-- The smallest message that is too large is not delivered to a fresh receiver, in no form. -/
theorem overlong_delivers_splice_smallest :
    Matches (setup .client .loopback 7 false) (setup .server .loopback 7 false) ∧
      maxMessageSize < (Bytes.fill 65 8388609).size ∧
      ∃ sent after, SendsAll (setup .client .loopback 7 false) [Bytes.fill 65 8388609] sent after ∧
        ((setup .server .loopback 7 false).takeIn .loopback (sent.map Dispatch.bytes)).1 = [] := by
  have hsize : (Bytes.fill 65 8388609).size = 8388609 := Bytes.size_generate 8388609 _
  have hlong : maxMessageSize < (Bytes.fill 65 8388609).size := by
    rw [hsize]
    decide
  have hwhole : ¬ Splices (Bytes.fill 65 8388609) := by
    rw [splices_iff, hsize]
    decide
  have hends : Matches (setup .client .loopback 7 false) (setup .server .loopback 7 false) :=
    ⟨rfl, rfl⟩
  obtain ⟨⟨sent, after, hsends⟩, hdelivers⟩ :=
    overlong_delivers_splice hends Sequence.first_sendable rfl nofun hlong
  have hdelivered := (hdelivers sent after hsends).1
  rw [if_neg fun hboth => hwhole hboth.2] at hdelivered
  exact ⟨hends, hlong, sent, after, hsends, hdelivered⟩

/-- A message of 29686804 bytes comes to a fresh receiver completely and in order, and the receiver
delivers its first 8387600 and its last 4 bytes as a message. -/
theorem overlong_delivered_shortened :
    maxMessageSize < (Bytes.fill 65 29686804).size ∧
      ∃ sent after,
        SendsAll (setup .client .loopback 7 false) [Bytes.fill 65 29686804] sent after ∧
        ((setup .server .loopback 7 false).takeIn .loopback (sent.map Dispatch.bytes)).1 =
          [(Bytes.fill 65 29686804).extract 0 8387600 ++
            (Bytes.fill 65 29686804).extract 29686800 29686804] := by
  have hsize : (Bytes.fill 65 29686804).size = 29686804 := Bytes.size_generate 29686804 _
  have hlong : maxMessageSize < (Bytes.fill 65 29686804).size := by
    rw [hsize]
    decide
  have hsplices : Splices (Bytes.fill 65 29686804) := by
    rw [splices_iff, hsize]
    decide
  have hends : Matches (setup .client .loopback 7 false) (setup .server .loopback 7 false) :=
    ⟨rfl, rfl⟩
  obtain ⟨sent, after, hsends⟩ :=
    exists_sendsAll (c := setup .client .loopback 7 false)
      (.of_idle Sequence.first_sendable rfl) rfl [Bytes.fill 65 29686804]
  have hdelivered := hsends.takeIn_overlong hends Sequence.first_sendable rfl nofun hlong
  rw [if_pos ⟨by decide, hsplices⟩, splice, hsize] at hdelivered
  exact ⟨hlong, sent, after, hsends, hdelivered⟩

end Channel
end DatagramLink

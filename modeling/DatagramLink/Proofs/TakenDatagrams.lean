import DatagramLink.Proofs.ReceiptCases

/-!
# Datagrams that get past every check

Once a datagram is not refused, its header and its payload alone decide what becomes of it.
`Channel.receives` goes from what became of a datagram to what it was; here it is the other way
round: a message of its own and each kind of legal fragment have one equation for the channel behind
them, so that a run over known datagrams is a calculation.
-/

namespace DatagramLink
namespace Channel

variable {c : Channel} {source : Address} {datagram : ByteArray} {header : Header}
  {payload : ByteArray} {f : Fragment}

theorem isSome_peerStamp (c : Channel) : c.peerStamp.isSome = (c.side == .server) := by
  unfold peerStamp
  cases c.side <;> rfl

theorem Takes.refusal?_eq_none (htakes : c.Takes source datagram header payload) :
    c.refusal? source header = none := by
  have hqport : (c.side == .server && header.qport != some c.qport) = false := by
    rw [htakes.qport, peerStamp]
    cases c.side <;> simp
  simp [refusal?, hqport, htakes.recognized, htakes.newer]

theorem Takes.read_eq (htakes : c.Takes source datagram header payload) :
    Header.read (c.side == .server) (.ofBytes datagram) =
      (.ok header, (Cursor.ofBytes datagram).skip header.encodedSize) := by
  rw [htakes.bytes, ← isSome_peerStamp, ← htakes.qport]
  exact Header.read_bytes_append htakes.range payload

theorem receive_of_takes (htakes : c.Takes source datagram header payload) :
    ∃ cursor : Cursor, cursor.InBounds ∧ cursor.remaining = payload ∧
      c.receive source (.ofBytes datagram) =
        match header.fragment with
        | none => c.receiveWhole source header.sequence cursor
        | some f => c.receiveFragment source header.sequence f cursor := by
  have hread := htakes.read_eq
  have hin := Header.inBounds_read (Cursor.inBounds_ofBytes datagram) (c.side == .server)
  have hremaining : ((Cursor.ofBytes datagram).skip header.encodedSize).remaining = payload := by
    rw [htakes.bytes]
    exact Header.remaining_skip_bytes header payload
  have hsequenced : isConnectionless (Cursor.ofBytes datagram).bytes = false := htakes.sequenced
  rw [hread] at hin
  refine ⟨_, hin, hremaining, ?_⟩
  rw [receive, hsequenced, Cursor.rewind_ofBytes, hread]
  cases hkind : header.fragment with
  | none => simp only [Bool.false_eq_true, if_false, htakes.refusal?_eq_none, hkind]
  | some f => simp only [Bool.false_eq_true, if_false, htakes.refusal?_eq_none, hkind]

/-! ## Each kind of datagram -/

theorem receive_of_whole (htakes : c.Takes source datagram header payload)
    (hwhole : header.fragment = none) :
    ∃ receipt,
      c.receive source (.ofBytes datagram) =
          (receipt, c.accepted source header.sequence c.incoming.tallyGivenUp) ∧
        receipt.message? = some payload := by
  obtain ⟨cursor, hin, hremaining, hreceive⟩ := receive_of_takes htakes
  have habandon := c.abandon_eq header.sequence
  refine ⟨(c.receiveWhole source header.sequence cursor).1, ?_, ?_⟩
  · rw [hreceive, hwhole]
    refine Prod.ext rfl ?_
    change ((c.abandon header.sequence).2.accept source header.sequence cursor).2 = _
    rw [habandon]
    rfl
  · rw [← hremaining]
    rfl

theorem receive_of_misfit (htakes : c.Takes source datagram header payload)
    (hfragment : header.fragment = some f) (hlegal : f.Legal payload)
    (hmisfit : ¬ f.Continues (c.gathered header.sequence)) :
    ∃ receipt,
      c.receive source (.ofBytes datagram) =
          (receipt,
            c.gathering header.sequence (c.gathered header.sequence)
              ((c.incoming.tallyFor header.sequence).discard (c.misfit header.sequence f))) ∧
        receipt.message? = none := by
  obtain ⟨cursor, hin, rfl, hreceive⟩ := receive_of_takes htakes
  obtain ⟨records, hdropped⟩ := receiveFragment_of_misfit source hlegal hmisfit
  rw [hreceive, hfragment]
  exact ⟨_, hdropped, rfl⟩

theorem receive_of_more (htakes : c.Takes source datagram header payload)
    (hfragment : header.fragment = some f) (hlegal : f.Legal payload)
    (hcontinues : f.Continues (c.gathered header.sequence)) (hmore : f.isLast = false) :
    ∃ receipt,
      c.receive source (.ofBytes datagram) =
          (receipt,
            c.gathering header.sequence
              (c.gathered header.sequence ++ payload.extract 0 f.length.toNat)
              (c.incoming.tallyFor header.sequence)) ∧
        receipt.message? = none := by
  obtain ⟨cursor, hin, rfl, hreceive⟩ := receive_of_takes htakes
  have hadded := receiveFragment_of_continues source hin hlegal hcontinues
  rw [hmore] at hadded
  rw [hreceive, hfragment]
  exact ⟨_, hadded, rfl⟩

theorem receive_of_last (htakes : c.Takes source datagram header payload)
    (hfragment : header.fragment = some f) (hlegal : f.Legal payload)
    (hcontinues : f.Continues (c.gathered header.sequence)) (hlast : f.isLast = true) :
    ∃ receipt,
      c.receive source (.ofBytes datagram) =
          (receipt, c.accepted source header.sequence (c.incoming.tallyFor header.sequence)) ∧
        receipt.message? =
          some (c.gathered header.sequence ++ payload.extract 0 f.length.toNat) := by
  obtain ⟨cursor, hin, rfl, hreceive⟩ := receive_of_takes htakes
  have hcompleted := receiveFragment_of_continues source hin hlegal hcontinues
  rw [hlast] at hcompleted
  rw [hreceive, hfragment]
  exact ⟨_, hcompleted, congrArg some (Cursor.remaining_ofBytes _)⟩

/-! ## Datagrams of the peer -/

/-- A datagram that the peer sends is taken as long as its sequence is a newer one. -/
theorem takes_packet {p : Packet} (hsendable : Sequence.Sendable p.header.sequence)
    (hstamp : p.header.qport = c.peerStamp) (hsource : c.recognizes source = true)
    (hnewer : Sequence.newer p.header.sequence c.incoming.sequence = true) :
    c.Takes source p.bytes p.header p.payload where
  sequenced := Header.isConnectionless_bytes_append hsendable p.payload
  bytes := rfl
  range := Header.lt_fragmentBit_of_sendable hsendable
  qport := hstamp
  recognized := hsource
  newer := hnewer

end Channel
end DatagramLink

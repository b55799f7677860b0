import DatagramLink.Proofs.TakenDatagrams

/-!
# What rejected datagrams leave alone

A datagram that completes no message never touches what was accepted: the last sequence, the
peer's address, the counts of complete and of skipped messages.  Nor does it touch what is being
sent.  Most rejections stop earlier still and leave the partial message alone as well.  The one
that does not is the drop of a fragment that starts in the wrong place, since its message has
become the one that is put together by then.

A fragment can also be dropped as malformed at that point, when it does not fit behind the
gathered bytes.  But then there are gathered bytes, and they are of its own message.
-/

namespace DatagramLink

/-- The fragment of a message that lacks the bytes in front of it.  All other causes are a malformed
datagram, a wrong qport, a wrong address and a stale sequence. -/
def Discard.isMissingFragment : Discard → Bool
  | .missingFragment _ _ _ => true
  | _ => false

namespace Channel

variable {c after : Channel} {source : Address} {datagram : ByteArray} {header : Header}
  {payload : ByteArray} {f : Fragment} {sequence : UInt32} {cause : Discard}
  {verdict : Verdict} {message? : Option ByteArray}

/-- Behind nothing every legal fragment fits, so what a fragment does not fit behind was gathered
for its message. -/
theorem sequence?_of_overflow (hlegal : f.Legal payload)
    (hmisplaced : ¬ f.Continues (c.gathered sequence))
    (hstart : f.start = UInt16.ofNat (c.gathered sequence).size) :
    c.incoming.assembly.sequence? = some sequence := by
  by_contra hother
  refine hmisplaced ⟨hstart, ?_⟩
  have hsize : (c.gathered sequence).size = 0 := by
    rw [gathered_of_other hother]
    rfl
  have hlength := hlegal.1
  rw [hsize, Nat.zero_add]
  exact hlength.trans (by decide)

/-- A fragment in its place is dropped for its size only, and its message is put together as
before. -/
theorem gathering_of_misfit (hlegal : f.Legal payload)
    (hmisplaced : ¬ f.Continues (c.gathered sequence))
    (hcause : (c.misfit sequence f).isMissingFragment = false) :
    c.gathering sequence (c.gathered sequence)
        ((c.incoming.tallyFor sequence).discard (c.misfit sequence f)) =
      { c with incoming :=
        { c.incoming with tally := c.incoming.tally.discard (c.misfit sequence f) } } := by
  have hstart : f.start = UInt16.ofNat (c.gathered sequence).size := by
    by_contra hstart
    rw [misfit, if_pos hstart] at hcause
    cases hcause
  have hsame := sequence?_of_overflow hlegal hmisplaced hstart
  rw [gathering_of_sequence? hsame, Incoming.tallyFor, if_pos hsame]

theorem Receives.of_discarded
    (hreceives : c.Receives source datagram (.discarded cause) message? after)
    (hcause : cause.isMissingFragment = false) :
    after = { c with incoming :=
      { c.incoming with tally := c.incoming.tally.discard cause } } := by
  cases hreceives with
  | dropped hsequenced hdrops => rfl
  | misplaced htakes hfragment hlegal hmisplaced =>
      exact gathering_of_misfit hlegal hmisplaced hcause

/-- Without a complete message only the partial one changes, and the counts of drops. -/
theorem Receives.of_not_delivered
    (hreceives : c.Receives source datagram verdict message? after)
    (hrejected : verdict ≠ .delivered) :
    ∃ assembly discarded abandoned lastDiscard,
      after = { c with incoming :=
        { c.incoming with
          assembly
          tally := { c.incoming.tally with discarded, abandoned, lastDiscard } } } := by
  cases hreceives with
  | ignored hconnectionless => exact ⟨_, _, _, _, rfl⟩
  | dropped hsequenced hdrops => exact ⟨_, _, _, _, rfl⟩
  | whole htakes hwhole => exact absurd rfl hrejected
  | misplaced htakes hfragment hlegal hmisplaced =>
      obtain ⟨abandoned, htally⟩ := c.incoming.tallyFor_eq _
      rw [htally]
      exact ⟨_, _, _, _, rfl⟩
  | added htakes hfragment hlegal hcontinues hmore =>
      obtain ⟨abandoned, htally⟩ := c.incoming.tallyFor_eq _
      rw [htally]
      exact ⟨_, _, _, _, rfl⟩
  | completed htakes hfragment hlegal hcontinues hlast => exact absurd rfl hrejected

/-- What is behind a datagram that completes no message, wherever it comes from.  A datagram of no
channel changes nothing.  A malformed, foreign or stale one is counted and changes nothing else.
Any other one changes at most the partial message besides. -/
theorem rejected_spares_channel (c : Channel) (source : Address) (datagram : ByteArray)
    (hrejected : (c.receive source (.ofBytes datagram)).1.isDelivered = false) :
    let receipt := (c.receive source (.ofBytes datagram)).1
    let after := (c.receive source (.ofBytes datagram)).2
    (isConnectionless datagram = true → after = c) ∧
      (∀ cause, receipt.verdict = .discarded cause → cause.isMissingFragment = false →
        after = { c with incoming :=
          { c.incoming with
            tally :=
              { c.incoming.tally with
                discarded := c.incoming.tally.discarded + 1
                lastDiscard := some cause } } }) ∧
      ∃ assembly discarded abandoned lastDiscard,
        after = { c with incoming :=
          { c.incoming with
            assembly
            tally := { c.incoming.tally with discarded, abandoned, lastDiscard } } } := by
  intro receipt after
  have hreceives : c.Receives source datagram receipt.verdict receipt.message? after :=
    c.receives_self source datagram
  have hverdict : receipt.verdict ≠ .delivered := by
    intro hdelivered
    simp [Receipt.isDelivered, receipt, hdelivered] at hrejected
  refine ⟨fun hconnectionless => ?_, fun cause hcause hmissing => ?_,
    hreceives.of_not_delivered hverdict⟩
  · exact congrArg Prod.snd (if_pos hconnectionless)
  · rw [hcause] at hreceives
    exact hreceives.of_discarded hmissing

/-- A server's end has gathered as many full fragments of message 2 as fit into the largest message.
One more is malformed, and the gathered bytes stay. -/
theorem rejected_spares_channel_at_size_limit :
    let c : Channel :=
      ⟨.server, .loopback, 7, false, {}, ⟨1, .gathering 2 (Bytes.fill 65 8387600), {}⟩⟩
    let full : Fragment := ⟨64528, 1300⟩
    let datagram := Header.bytes ⟨2, some 7, some full⟩ ++ Bytes.fill 66 1300
    let receipt := (c.receive .loopback (.ofBytes datagram)).1
    let after := (c.receive .loopback (.ofBytes datagram)).2
    receipt.isDelivered = false ∧
      receipt.verdict = .discarded (.illegalFragment full 8387600) ∧
      after = { c with incoming := ⟨1, .gathering 2 (Bytes.fill 65 8387600),
        { discarded := 1, lastDiscard := some (.illegalFragment full 8387600) }⟩ } := by
  -- only the sizes matter, and the bytes are too many to be written out
  obtain ⟨bytes, hbytes⟩ : ∃ bytes, bytes = Bytes.fill 65 8387600 := ⟨_, rfl⟩
  obtain ⟨payload, hpayload⟩ : ∃ payload, payload = Bytes.fill 66 1300 := ⟨_, rfl⟩
  have hsize : bytes.size = 8387600 := hbytes ▸ Bytes.size_generate 8387600 _
  have hfull : payload.size = 1300 := hpayload ▸ Bytes.size_generate 1300 _
  rw [← hbytes, ← hpayload]
  intro c full datagram receipt after
  have hgathered : c.gathered 2 = bytes := gathered_of_gathering rfl
  have htakes : c.Takes .loopback datagram ⟨2, some 7, some full⟩ payload :=
    { sequenced := Header.isConnectionless_bytes_append (by decide) _
      bytes := rfl
      range := by decide
      qport := rfl
      recognized := rfl
      newer := show Sequence.newer 2 1 = true by decide }
  obtain ⟨cursor, -, hremaining, hreceive⟩ := receive_of_takes htakes
  have hlegal : full.Legal cursor.remaining := by
    rw [hremaining]
    exact ⟨by decide, hfull.ge⟩
  have hoverflow : ¬ full.Continues (c.gathered 2) := by
    rw [Fragment.Continues, hgathered, hsize]
    decide
  have hcause : c.misfit 2 full = .illegalFragment full 8387600 := by
    rw [misfit, hgathered, hsize]
    decide
  obtain ⟨records, hdropped⟩ := receiveFragment_of_misfit .loopback hlegal hoverflow
  have hverdict : receipt.verdict = .discarded (.illegalFragment full 8387600) := by
    rw [← hcause]
    exact congrArg (fun outcome => outcome.1.verdict) (hreceive.trans hdropped)
  have hrejected : receipt.isDelivered = false := by
    rw [Receipt.isDelivered, hverdict]
    rfl
  obtain ⟨-, hcounted, -⟩ := rejected_spares_channel c .loopback datagram hrejected
  exact ⟨hrejected, hverdict, hcounted _ hverdict rfl⟩

end Channel
end DatagramLink

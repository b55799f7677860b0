import DatagramLink.Proofs.ChannelInvariant
import DatagramLink.Proofs.DeliveryCondition

/-!
# Partial messages and other datagrams

A channel puts one message together at a time.  `Channel.Displaces` lists the datagrams that end
that: a message of its own, or a fragment of another message, as long as it gets past the checks.
All others leave the partial message in place, or complete it.

The checks compare a datagram with the last complete message and not with the partial one.  So a
message that was overtaken on the way, older than the partial one, displaces it as well.
-/

namespace DatagramLink
namespace Channel

/-- A datagram that takes the place of the partial message of `sequence`. -/
inductive Displaces (c : Channel) (source : Address) (datagram : ByteArray)
    (sequence : UInt32) : Prop
  | whole {header : Header} {payload : ByteArray}
      (htakes : c.Takes source datagram header payload) (hwhole : header.fragment = none)
  | fragment {header : Header} {payload : ByteArray} {f : Fragment}
      (htakes : c.Takes source datagram header payload)
      (hfragment : header.fragment = some f) (hlegal : f.Legal payload)
      (hother : header.sequence ≠ sequence)

variable {c : Channel} {source : Address} {datagram : ByteArray} {sequence : UInt32}
  {bytes : ByteArray}

theorem tallyGivenUp_of_gathering
    (hgathering : c.incoming.assembly = .gathering sequence bytes) :
    c.incoming.tallyGivenUp = c.incoming.tally.abandon := by
  rw [Incoming.tallyGivenUp, hgathering]

theorem tallyFor_of_other (hgathering : c.incoming.assembly = .gathering sequence bytes)
    {other : UInt32} (hother : other ≠ sequence) :
    c.incoming.tallyFor other = c.incoming.tally.abandon := by
  have hsequence : c.incoming.assembly.sequence? ≠ some other := by
    rw [hgathering, Assembly.sequence?, ne_eq, Option.some.injEq]
    exact hother.symm
  rw [Incoming.tallyFor, if_neg hsequence, tallyGivenUp_of_gathering hgathering]

theorem tallyFor_self (hgathering : c.incoming.assembly = .gathering sequence bytes) :
    c.incoming.tallyFor sequence = c.incoming.tally := by
  rw [Incoming.tallyFor, hgathering, Assembly.sequence?, if_pos rfl]

/-- A datagram that displaces a partial message is counted against it. -/
theorem Displaces.receive (hdisplaces : c.Displaces source datagram sequence)
    (hgathering : c.incoming.assembly = .gathering sequence bytes) :
    let after := (c.receive source (.ofBytes datagram)).2
    after.incoming.tally.abandoned = c.incoming.tally.abandoned + 1 ∧
      after.incoming.assembly.sequence? ≠ some sequence := by
  cases hdisplaces with
  | whole htakes hwhole =>
      obtain ⟨receipt, hreceive, -⟩ := receive_of_whole htakes hwhole
      rw [hreceive, tallyGivenUp_of_gathering hgathering]
      exact ⟨rfl, nofun⟩
  | @fragment header payload f htakes hfragment hlegal hother =>
      have hsequence : some header.sequence ≠ some sequence :=
        fun heq => hother (Option.some.inj heq)
      have htally := tallyFor_of_other hgathering hother
      by_cases hcontinues : f.Continues (c.gathered header.sequence)
      · cases hlast : f.isLast with
        | true =>
            obtain ⟨receipt, hreceive, -⟩ :=
              receive_of_last htakes hfragment hlegal hcontinues hlast
            rw [hreceive, htally]
            exact ⟨rfl, nofun⟩
        | false =>
            obtain ⟨receipt, hreceive, -⟩ :=
              receive_of_more htakes hfragment hlegal hcontinues hlast
            rw [hreceive, htally]
            exact ⟨rfl, hsequence⟩
      · obtain ⟨receipt, hreceive, -⟩ := receive_of_misfit htakes hfragment hlegal hcontinues
        rw [hreceive, htally]
        exact ⟨rfl, hsequence⟩

/-- Any other datagram leaves the partial message in place, or adds to it, or completes it. -/
theorem receive_of_not_displaces (hgathering : c.incoming.assembly = .gathering sequence bytes)
    (hkeeps : ¬ c.Displaces source datagram sequence) :
    let receipt := (c.receive source (.ofBytes datagram)).1
    let after := (c.receive source (.ofBytes datagram)).2
    after.incoming.tally.abandoned = c.incoming.tally.abandoned ∧
      ∃ more, after.incoming.assembly = .gathering sequence (bytes ++ more) ∨
        receipt.message? = some (bytes ++ more) := by
  intro receipt after
  obtain ⟨verdict, message?, last, -, hmessage, hafter, hreceives⟩ :=
    c.receives source datagram
  change after = last at hafter
  change receipt.message? = message? at hmessage
  rw [hafter, hmessage]
  have hstays : c.incoming.assembly = .gathering sequence (bytes ++ ByteArray.empty) := by
    rw [ByteArray.append_empty, hgathering]
  -- a legal fragment that does not displace the partial message belongs to it
  have hsame : ∀ {header : Header} {payload : ByteArray} {f : Fragment},
      c.Takes source datagram header payload → header.fragment = some f →
        f.Legal payload → header.sequence = sequence := by
    intro header payload f htakes hfragment hlegal
    by_contra hother
    exact hkeeps (.fragment htakes hfragment hlegal hother)
  cases hreceives with
  | ignored hconnectionless => exact ⟨rfl, _, .inl hstays⟩
  | dropped hsequenced hdrops => exact ⟨rfl, _, .inl hstays⟩
  | whole htakes hwhole => exact absurd (.whole htakes hwhole) hkeeps
  | misplaced htakes hfragment hlegal hmisplaced =>
      cases hsame htakes hfragment hlegal
      rw [tallyFor_self hgathering, gathered_of_gathering hgathering]
      refine ⟨rfl, ByteArray.empty, .inl ?_⟩
      rw [ByteArray.append_empty]
      rfl
  | added htakes hfragment hlegal hcontinues hmore =>
      cases hsame htakes hfragment hlegal
      rw [tallyFor_self hgathering, gathered_of_gathering hgathering]
      exact ⟨rfl, _, .inl rfl⟩
  | completed htakes hfragment hlegal hcontinues hlast =>
      cases hsame htakes hfragment hlegal
      rw [tallyFor_self hgathering, gathered_of_gathering hgathering]
      exact ⟨rfl, _, .inr rfl⟩

/-- A partial message is given up for exactly the datagrams that displace it.  Their sequence is
newer than the last complete message, whichever side of the partial one it is on. -/
theorem displaced_or_kept (side : Side) (remote : Address) (qport : UInt16) (showDrops : Bool)
    (calls : List Call) {sequence : UInt32} {bytes : ByteArray}
    (hgathering : ((setup side remote qport showDrops).run calls).incoming.assembly =
      .gathering sequence bytes)
    (source : Address) (datagram : ByteArray) :
    let c := (setup side remote qport showDrops).run calls
    let receipt := (c.receive source (.ofBytes datagram)).1
    let after := (c.receive source (.ofBytes datagram)).2
    (c.Displaces source datagram sequence →
        after.incoming.tally.abandoned = c.incoming.tally.abandoned + 1 ∧
          after.incoming.assembly.sequence? ≠ some sequence) ∧
      (¬ c.Displaces source datagram sequence →
        after.incoming.tally.abandoned = c.incoming.tally.abandoned ∧
          ∃ more, after.incoming.assembly = .gathering sequence (bytes ++ more) ∨
            receipt.message? = some (bytes ++ more)) :=
  ⟨fun hdisplaces => hdisplaces.receive hgathering,
    fun hkeeps => receive_of_not_displaces hgathering hkeeps⟩

/-! ## Overtaken messages -/

/-- Behind a message that comes late, a fragment in the middle of a newer one is no use: what came
before it is gone. -/
theorem receive_fragment_past_late {message : ByteArray} {k : Nat} {header : Header}
    {payload : ByteArray} (hmiddle : 0 < k) (hk : k ≤ message.size / fragmentSize)
    (hmessage : message.size ≤ maxMessageSize) (hsendable : Sequence.Sendable sequence)
    (htakes : c.Takes c.remote datagram header payload) (hwhole : header.fragment = none)
    (hlate : Sequence.newer sequence header.sequence = true) :
    ((c.receive c.remote (.ofBytes datagram)).2.receive c.remote
      (.ofBytes (Packet.fragment c.peerStamp sequence
        ⟨message, fragmentSize * k⟩).bytes)).1.message? = none := by
  obtain ⟨receipt, hreceive, -⟩ := receive_of_whole htakes hwhole
  rw [hreceive]
  have hstarts : (c.accepted c.remote header.sequence c.incoming.tallyGivenUp).Awaits sequence
      message 0 := .of_other hlate nofun
  have hmisfit : ¬ (Unsent.nextFragment ⟨message, fragmentSize * k⟩).Continues
      ((c.accepted c.remote header.sequence c.incoming.tallyGivenUp).gathered sequence) :=
    fun hfits =>
      absurd ((hstarts.continues_iff hmessage (Nat.zero_le _) hk).mp hfits) hmiddle.ne'
  obtain ⟨receipt', incoming, hdropped, hnone, -⟩ := hstarts.receive_misfit hsendable hk hmisfit
  exact (congrArg (fun outcome => outcome.1.message?) hdropped).trans hnone

/-- A fresh server's end with the first fragment of a message. -/
theorem run_first_fragment {message : ByteArray} (hsplit : 0 < message.size / fragmentSize)
    (hmessage : message.size ≤ maxMessageSize) :
    (setup .server .loopback 7 false).run
        [.receive .loopback (Packet.fragment (some 7) 2 ⟨message, 0⟩).bytes] =
      (setup .server .loopback 7 false).gathering 2 (message.extract 0 fragmentSize) {} :=
  receive_first_fragment (c := setup .server .loopback 7 false) (by decide) (by decide) nofun
    hsplit hmessage

theorem takes_whole_past_first {sequence : UInt32} (hsendable : Sequence.Sendable sequence)
    (hnewer : Sequence.newer sequence 0 = true) (bytes payload : ByteArray) :
    ((setup .server .loopback 7 false).gathering 2 bytes {}).Takes .loopback
      (Packet.whole (some 7) sequence payload).bytes ⟨sequence, some 7, none⟩ payload :=
  takes_packet (p := Packet.whole (some 7) sequence payload) hsendable rfl rfl hnewer

/-- A message behind the partial one displaces it. -/
theorem displaced_or_kept_by_newer :
    let c := (setup .server .loopback 7 false).run
      [.receive .loopback (Packet.fragment (some 7) 2 ⟨Bytes.fill 65 1400, 0⟩).bytes]
    let after :=
      (c.receive .loopback (.ofBytes (Packet.whole (some 7) 3 "next".toUTF8).bytes)).2
    c.incoming.assembly = .gathering 2 ((Bytes.fill 65 1400).extract 0 fragmentSize) ∧
      after.incoming.tally.abandoned = c.incoming.tally.abandoned + 1 ∧
      after.incoming.assembly.sequence? ≠ some 2 := by
  have hsize : (Bytes.fill 65 1400).size = 1400 := Bytes.size_generate 1400 _
  generalize Bytes.fill 65 1400 = message at hsize ⊢
  have hrun : (setup .server .loopback 7 false).run
      [.receive .loopback (Packet.fragment (some 7) 2 ⟨message, 0⟩).bytes] = _ :=
    run_first_fragment (by rw [hsize]; decide) (by rw [hsize]; decide)
  have hgathering := congrArg (fun d : Channel => d.incoming.assembly) hrun
  have hfate := displaced_or_kept .server .loopback 7 false
    [.receive .loopback (Packet.fragment (some 7) 2 ⟨message, 0⟩).bytes] hgathering
    .loopback (Packet.whole (some 7) 3 "next".toUTF8).bytes
  refine ⟨hgathering, hfate.1 ?_⟩
  rw [hrun]
  exact .whole (takes_whole_past_first (by decide) (by decide) _ _) rfl

/-- The first fragment of message 2 has come, and message 1 comes late.  Without it the last
fragment completes message 2, and with it message 2 is lost. -/
theorem displaced_by_older :
    let message := Bytes.fill 65 1300 ++ Bytes.fill 66 100
    let first := (Packet.fragment (some 7) 2 ⟨message, 0⟩).bytes
    let last := (Packet.fragment (some 7) 2 ⟨message, fragmentSize⟩).bytes
    let late := (Packet.whole (some 7) 1 "late".toUTF8).bytes
    let c := (setup .server .loopback 7 false).run [.receive .loopback first]
    let after := (c.receive .loopback (.ofBytes late)).2
    c.incoming.assembly = .gathering 2 (message.extract 0 fragmentSize) ∧
      Sequence.newer 1 c.incoming.sequence = true ∧ Sequence.newer 1 2 = false ∧
      after.incoming.tally.abandoned = c.incoming.tally.abandoned + 1 ∧
      (c.receive .loopback (.ofBytes last)).1.message? = some message ∧
      (after.receive .loopback (.ofBytes last)).1.message? = none := by
  intro message
  have hsize : message.size = 1400 := by
    rw [ByteArray.size_append, Bytes.fill, Bytes.size_generate, Bytes.fill, Bytes.size_generate]
  clear_value message
  have hend : message.size / fragmentSize = 1 := by
    rw [hsize]
    decide
  have hmessage : message.size ≤ maxMessageSize := by
    rw [hsize]
    decide
  have hrun : (setup .server .loopback 7 false).run
      [.receive .loopback (Packet.fragment (some 7) 2 ⟨message, 0⟩).bytes] = _ :=
    run_first_fragment (by omega) hmessage
  have htakes : ((setup .server .loopback 7 false).gathering 2
      (message.extract 0 fragmentSize) {}).Takes .loopback
        (Packet.whole (some 7) 1 "late".toUTF8).bytes ⟨1, some 7, none⟩ "late".toUTF8 :=
    takes_whole_past_first (by decide) (by decide) _ _
  have hwaits : ((setup .server .loopback 7 false).gathering 2
      (message.extract 0 fragmentSize) {}).Awaits 2 message 1 :=
    ⟨show Sequence.newer 2 0 = true by decide, gathered_of_gathering rfl⟩
  have hnext := (hwaits.continues_iff hmessage hend.ge (Nat.le_refl _)).mpr hend
  obtain ⟨receipt, incoming, hlast, hdelivered, -⟩ := hwaits.receive_last (by decide) hnext
  have hlost := receive_fragment_past_late Nat.one_pos hend.ge hmessage
    (show Sequence.Sendable 2 by decide) htakes rfl (by decide)
  have hdisplaces := (Displaces.whole htakes rfl).receive rfl
  obtain ⟨-, -, -, -, hbytes⟩ := fragment_fields (Nat.le_refl (message.size / fragmentSize))
  rw [if_pos rfl, hend] at hbytes
  rw [hend, hbytes] at hdelivered
  rw [hend] at hlast
  dsimp only
  rw [hrun]
  exact ⟨rfl, show Sequence.newer 1 0 = true by decide, by decide, hdisplaces.1,
    (congrArg (fun outcome => outcome.1.message?) hlast).trans hdelivered, hlost⟩

end Channel
end DatagramLink

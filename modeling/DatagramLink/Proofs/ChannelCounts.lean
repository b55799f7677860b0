import DatagramLink.Proofs.ChannelInvariant
import DatagramLink.Proofs.HubCounts

/-!
# What a channel counts

A datagram adds at most one to every count of a channel, and less than half of the numbers of
32 bits to the number of skipped sequences.  So the counts are bounded by the number of
datagrams, and a channel that is in form asks for nothing that a machine does not have, until
their number does not fit into 32 bits.
-/

namespace DatagramLink

theorem Sequence.gap_lt (later older : UInt32) : gap later older < 2 ^ 31 := by
  simp only [gap, toNat_sub_and_mask]
  split <;> omega

/-! ## Tallies -/

/-- What `heard` datagrams can be counted as, when partial messages were given up for `given`
of them. -/
structure Tally.Within (heard given : Nat) (t : Tally) : Prop where
  delivered : t.delivered ≤ heard
  discarded : t.discarded ≤ heard
  abandoned : t.abandoned ≤ given
  skipped : t.totalDropped ≤ heard * 2 ^ 31

namespace Tally.Within

variable {heard given : Nat} {t : Tally}

theorem mono (hwithin : t.Within heard given) {heard' given' : Nat} (hheard : heard ≤ heard')
    (hgiven : given ≤ given') :
    t.Within heard' given' where
  delivered := hwithin.delivered.trans hheard
  discarded := hwithin.discarded.trans hheard
  abandoned := hwithin.abandoned.trans hgiven
  skipped := hwithin.skipped.trans (Nat.mul_le_mul_right _ hheard)

theorem discard (hwithin : t.Within heard given) (cause : Discard) :
    (t.discard cause).Within (heard + 1) given where
  delivered := Nat.le_succ_of_le hwithin.delivered
  discarded := Nat.succ_le_succ hwithin.discarded
  abandoned := hwithin.abandoned
  skipped := hwithin.skipped.trans (Nat.mul_le_mul_right _ (Nat.le_succ _))

theorem abandon (hwithin : t.Within heard given) : t.abandon.Within heard (given + 1) where
  delivered := hwithin.delivered
  discarded := hwithin.discarded
  abandoned := Nat.succ_le_succ hwithin.abandoned
  skipped := hwithin.skipped

theorem deliver (hwithin : t.Within heard given) (later older : UInt32) :
    (t.deliver (Sequence.gap later older)).Within (heard + 1) given where
  delivered := Nat.succ_le_succ hwithin.delivered
  discarded := Nat.le_succ_of_le hwithin.discarded
  abandoned := hwithin.abandoned
  skipped := by
    have hgap := Sequence.gap_lt later older
    have hskipped := hwithin.skipped
    simp only [Tally.deliver]
    omega

theorem count_fits (hwithin : t.Within heard heard) (hfew : heard + 1 < halfWordLimit) :
    t.CountFits := by
  obtain ⟨hdelivered, hdiscarded, habandoned, hskipped⟩ := hwithin
  have hlimit := lt_wordLimit hfew
  refine ⟨by omega, by omega, by omega, fun later older => ?_⟩
  have hgap := Sequence.gap_lt later older
  unfold halfWordLimit at hfew
  unfold wordLimit
  omega

end Tally.Within

namespace Incoming

variable {heard given : Nat} {i : Incoming}

theorem within_tallyGivenUp (hwithin : i.tally.Within heard given) :
    i.tallyGivenUp.Within heard (given + 1) := by
  unfold tallyGivenUp
  split
  · exact hwithin.mono (Nat.le_refl _) (Nat.le_succ _)
  · exact hwithin.abandon

theorem within_tallyFor (hwithin : i.tally.Within heard given) (sequence : UInt32) :
    (i.tallyFor sequence).Within heard (given + 1) := by
  unfold tallyFor
  split
  · exact hwithin.mono (Nat.le_refl _) (Nat.le_succ _)
  · exact within_tallyGivenUp hwithin

end Incoming

namespace Channel

/-! ## Receiving -/

/-- A channel in form, after no more than `heard` datagrams. -/
structure Counted (heard : Nat) (c : Channel) : Prop where
  aligned : c.Aligned
  incoming : c.incoming.Sound
  tally : c.incoming.tally.Within heard heard
  sizable : ∀ u, c.outgoing.unsent = some u → Sizable u.message

variable {heard : Nat} {c : Channel}

theorem Counted.mono (hcounted : c.Counted heard) {heard' : Nat} (hle : heard ≤ heard') :
    c.Counted heard' where
  aligned := hcounted.aligned
  incoming := hcounted.incoming
  tally := hcounted.tally.mono hle hle
  sizable := hcounted.sizable

theorem counted_new (side : Side) (remote : Address) (qport : UInt16) (showDrops : Bool) :
    Counted 0 { side, remote, qport, showDrops } where
  aligned := .of_idle Sequence.first_sendable rfl
  incoming := Incoming.sound_of_idle rfl
  tally := ⟨Nat.le_refl _, Nat.le_refl _, Nat.le_refl _, Nat.le_refl _⟩
  sizable := by simp

theorem Counted.receive (hcounted : c.Counted heard) (source : Address)
    (datagram : ByteArray) :
    (c.receive source (.ofBytes datagram)).2.Counted (heard + 1) := by
  obtain ⟨hsound, houtgoing⟩ := receive_sound hcounted.incoming source datagram
  refine ⟨⟨?_, ?_⟩, hsound, ?_, ?_⟩
  · rw [houtgoing]
    exact hcounted.aligned.sendable
  · rw [houtgoing]
    exact hcounted.aligned.unsent
  · obtain ⟨verdict, message?, after, -, -, hafter, hreceives⟩ := c.receives source datagram
    rw [hafter]
    have htally := hcounted.tally
    cases hreceives with
    | ignored hconnectionless => exact htally.mono (Nat.le_succ _) (Nat.le_succ _)
    | dropped hsequenced hdrops => exact (htally.discard _).mono (Nat.le_refl _) (Nat.le_succ _)
    | whole htakes hwhole => exact (Incoming.within_tallyGivenUp htally).deliver _ _
    | misplaced htakes hfragment hlegal hmisplaced =>
        exact (Incoming.within_tallyFor htally _).discard _
    | added htakes hfragment hlegal hcontinues hmore =>
        exact (Incoming.within_tallyFor htally _).mono (Nat.le_succ _) (Nat.le_refl _)
    | completed htakes hfragment hlegal hcontinues hlast =>
        exact (Incoming.within_tallyFor htally _).deliver _ _
  · rw [houtgoing]
    exact hcounted.sizable

theorem inBounds_appendFragment {cursor : Cursor} (hin : cursor.InBounds) (source : Address)
    (sequence : UInt32) (f : Fragment) :
    (c.appendFragment source sequence f cursor).1.cursor.InBounds := by
  have hread := hin.read f.length.toNat
  unfold appendFragment
  split
  · exact hin
  · split
    · exact hin
    · split
      · next cause rest heq =>
          rw [heq] at hread
          exact hread
      · next payload rest heq =>
          rw [heq] at hread
          unfold settle
          split
          · exact Cursor.inBounds_ofBytes _
          · exact hread

/-- What is left to read of a datagram or of a complete message is a part of it. -/
theorem inBounds_receive (c : Channel) (source : Address) (datagram : ByteArray) :
    (c.receive source (.ofBytes datagram)).1.cursor.InBounds := by
  have hstart := Cursor.inBounds_ofBytes datagram
  have hheader := Header.inBounds_read hstart (c.side == .server)
  unfold receive
  rw [Cursor.rewind_ofBytes]
  split
  · exact hstart
  · split
    · next cause rest heq =>
        rw [heq] at hheader
        exact hheader
    · next header rest heq =>
        rw [heq] at hheader
        split
        · exact hheader
        · split
          · exact hheader
          · next f hfragment =>
              unfold receiveFragment
              split
              · exact hheader
              · exact inBounds_appendFragment hheader source header.sequence f

theorem Counted.receive_fits (hcounted : c.Counted heard) (hfew : heard + 1 < halfWordLimit)
    (source : Address) (datagram : ByteArray) :
    c.ReceiveFits source datagram where
  header := Header.inBounds_read (Cursor.inBounds_ofBytes datagram) _
  assembled := by
    intro length
    have hwithin := hcounted.incoming.within
    have hlength := length.toNat_lt
    have hlarge : maxMessageSize = 8388608 := rfl
    unfold wordLimit
    omega
  counts := hcounted.tally.count_fits hfew
  message := fun _ => c.inBounds_receive source datagram

/-! ## Sending -/

theorem header_fits (haligned : c.Aligned) : c.HeaderFits := by
  have hlast := ((Sequence.sendable_iff_toNat _).mp haligned.sendable).2
  refine ⟨Header.lt_fragmentBit_of_sendable haligned.sendable, ?_⟩
  unfold halfWordLimit
  omega

theorem cut_fits {u : Unsent} (hstart : u.start ≤ u.message.size)
    (hsizable : Sizable u.message) :
    u.CutFits := by
  refine ⟨hstart, ?_, hsizable⟩
  have hlength : u.nextLength ≤ u.message.size - u.start := Nat.min_le_right _ _
  unfold Unsent.nextStop
  omega

theorem message_of_sendFragment {after : Channel} {u v : Unsent} {d : Dispatch}
    (hsend : c.sendFragment u = .ok (d, after)) (hunsent : after.outgoing.unsent = some v) :
    v.message = u.message := by
  unfold sendFragment at hsend
  cases hencode : (c.header (some u.nextFragment)).encode with
  | error fault =>
      rw [hencode] at hsend
      cases hsend
  | ok bytes =>
      rw [hencode] at hsend
      cases hsend
      unfold advance Unsent.next? at hunsent
      split at hunsent
      · cases hunsent
      · next rest heq =>
          split at heq
          · cases heq
          · cases heq
            cases hunsent
            rfl

theorem message_of_transmit {after : Channel} {message : ByteArray} {v : Unsent} {d : Dispatch}
    (hsend : c.transmit message = .ok (d, after)) (hunsent : after.outgoing.unsent = some v) :
    v.message = message := by
  unfold transmit at hsend
  split at hsend
  · cases hsend
  · split at hsend
    · exact message_of_sendFragment hsend hunsent
    · unfold sendWhole at hsend
      cases hencode : (c.header none).encode with
      | error fault =>
          rw [hencode] at hsend
          cases hsend
      | ok bytes =>
          rw [hencode] at hsend
          cases hsend
          cases hunsent

theorem Counted.of_sending (hcounted : c.Counted heard) {after : Channel}
    {queue rest : List ByteArray} {sent : List Dispatch}
    (hsending : Sending c queue sent after rest)
    (hsizable : ∀ u, after.outgoing.unsent = some u → Sizable u.message) :
    after.Counted heard := by
  obtain ⟨outgoing, hframe⟩ := hsending.frame
  have haligned := hsending.aligned
  subst hframe
  exact ⟨haligned, hcounted.incoming, hcounted.tally, hsizable⟩

/-- A share of a channel in form asks for nothing that there is not. -/
theorem Counted.pump_fits (hcounted : c.Counted heard) {queue : List ByteArray}
    (hqueue : ∀ message ∈ queue, Sizable message) (budget : Nat) :
    c.PumpFits queue budget ∧
      ∃ pumped, c.pump queue budget = .ok pumped ∧ pumped.channel.Counted heard := by
  induction budget generalizing c queue with
  | zero => exact ⟨.spent, _, rfl, hcounted⟩
  | succ budget ih =>
      cases hunsent : c.outgoing.unsent with
      | some u =>
          obtain ⟨d, after, hsend, hsending⟩ := sending_fragment hcounted.aligned hunsent queue
          have hsizable := hcounted.sizable u hunsent
          have hnext : after.Counted heard := hcounted.of_sending hsending fun v hv => by
            rw [message_of_sendFragment hsend hv]
            exact hsizable
          have hstart : u.start ≤ u.message.size := by
            obtain ⟨k, hk, hplace⟩ := hcounted.aligned.unsent u hunsent
            rw [hplace]
            exact (Nat.mul_le_mul_left _ hk).trans (Nat.mul_div_le _ _)
          obtain ⟨hrest, pumped, hpump, hlast⟩ := ih hnext hqueue
          refine ⟨.fragment hunsent (header_fits hcounted.aligned)
            (cut_fits hstart hsizable) hsend hrest,
            { pumped with dispatches := d :: pumped.dispatches }, ?_, hlast⟩
          simp only [pump, hunsent, hsend, bind, Except.bind, hpump]
          rfl
      | none =>
          have hidle : c.isBusy = false := by simp [isBusy, hunsent]
          cases queue with
          | nil =>
              refine ⟨.idle hunsent, ⟨c, [], []⟩, ?_, hcounted⟩
              simp only [pump, hunsent]
          | cons message queue =>
              obtain ⟨d, after, hsend, hsending⟩ :=
                sending_message hcounted.aligned hidle message queue
              have hsizable := hqueue message List.mem_cons_self
              have hnext : after.Counted heard := hcounted.of_sending hsending fun v hv => by
                rw [message_of_transmit hsend hv]
                exact hsizable
              obtain ⟨hrest, pumped, hpump, hlast⟩ :=
                ih hnext fun m hm => hqueue m (List.mem_cons_of_mem _ hm)
              refine ⟨.message hunsent ⟨hidle, header_fits hcounted.aligned,
                cut_fits (Nat.zero_le _) hsizable⟩ hsend hrest,
                { pumped with dispatches := d :: pumped.dispatches }, ?_, hlast⟩
              simp only [pump, hunsent, hsend, bind, Except.bind, hpump]
              rfl

/-- Over a hub without loss and delay, a share is sent completely. -/
theorem Counted.ship (hcounted : c.Counted heard) {h : Hub} (hdirect : h.settings.Direct)
    {queue : List ByteArray} (hqueue : ∀ message ∈ queue, Sizable message) (budget : Nat)
    (now : Instant) :
    (c.ship h queue budget now).fault = none ∧
      (c.ship h queue budget now).reached.channel.Counted heard ∧
      Hub.Emits c.side h (c.ship h queue budget now).reached.hub ∧
      ((c.ship h queue budget now).reached.hub.traffic < wordLimit →
        c.ShipFits now h queue budget) := by
  obtain ⟨hfits, pumped, hpump, hlast⟩ := hcounted.pump_fits hqueue budget
  obtain ⟨pumped', hpump', hsending, -⟩ := pump_spec hcounted.aligned queue budget
  rw [hpump] at hpump'
  cases hpump'
  have hside : ∀ d ∈ pumped.dispatches, d.side = c.side := fun d hd => (hsending.addressed d hd).1
  have hemits := Hub.emits_dispatchAll hside h now
  have hdone := Hub.fault_dispatchAll hdirect pumped.dispatches now
  have hship : c.ship h queue budget now =
      .done ⟨pumped.channel, pumped.queue, (h.dispatchAll pumped.dispatches now).reached.2,
        (h.dispatchAll pumped.dispatches now).reached.1⟩ := by
    simp only [Channel.ship, hpump]
    rw [Attempt.eq_done hdone]
    rfl
  refine ⟨by rw [hship]; rfl, by rw [hship]; exact hlast, by rw [hship]; exact hemits, ?_⟩
  intro hfew
  refine ⟨hfits, fun other hother => ?_, by rw [hship]; rfl⟩
  rw [hpump] at hother
  cases hother
  rw [hship] at hfew
  exact Hub.dispatch_fits hdirect hside hfew

end Channel
end DatagramLink

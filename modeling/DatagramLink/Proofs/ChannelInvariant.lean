import DatagramLink.Proofs.ReceiptCases

/-!
# The state of a channel between calls

Messages are started and sent on, and datagrams from anywhere come in, in any order.  The
two directions keep their form independently of each other: what is unsent stops between
two fragments of a long message, and what is gathered is a whole number of full fragments
of a message newer than the last complete one.

A message may only be started when nothing is unsent.  `Channel.perform` refuses it
otherwise, so that a run is any list of calls at all.
-/

namespace DatagramLink

namespace Channel

inductive Call where
  | transmit (message : ByteArray)
  | transmitNext
  | receive (source : Address) (datagram : ByteArray)

def setup (side : Side) (remote : Address) (qport : UInt16) (showDrops : Bool) : Channel :=
  { side, remote, qport, showDrops }

def perform (c : Channel) : Call → Channel
  | .transmit message =>
      match c.transmit message with
      | .ok (_, after) => after
      | .error _ => c
  | .transmitNext =>
      match c.transmitNext with
      | .ok (_, after) => after
      | .error _ => c
  | .receive source datagram => (c.receive source (.ofBytes datagram)).2

def run (c : Channel) (calls : List Call) : Channel := calls.foldl perform c

end Channel

/-! ## The sending direction -/

/-- A message that has to be split, stopped between two of its fragments. -/
structure Unsent.InPlace (u : Unsent) : Prop where
  long : maxUnfragmentedSize < u.message.size
  aligned : fragmentSize ∣ u.start
  within : u.start ≤ u.message.size

structure Outgoing.Sound (o : Outgoing) : Prop where
  sendable : Sequence.Sendable o.sequence
  unsent : ∀ u, o.unsent = some u → u.InPlace

theorem Unsent.InPlace.next {u v : Unsent} (hu : u.InPlace) (hnext : u.next? = some v) :
    v.InPlace := by
  unfold Unsent.next? at hnext
  split at hnext
  · cases hnext
  · next hfull =>
      have hlength : u.nextLength = fragmentSize :=
        Nat.le_antisymm (Nat.min_le_left _ _) (Nat.not_lt.mp hfull)
      have hleft : u.nextLength ≤ u.message.size - u.start := Nat.min_le_right _ _
      cases hnext
      refine ⟨hu.long, ?_, ?_⟩
      · change fragmentSize ∣ u.start + u.nextLength
        rw [hlength]
        exact (Nat.dvd_add_right hu.aligned).mpr (Nat.dvd_refl _)
      · change u.start + u.nextLength ≤ u.message.size
        have hwithin := hu.within
        omega

namespace Channel

variable {c : Channel}

theorem sound_finishMessage (c : Channel) : c.finishMessage.outgoing.Sound where
  sendable := Sequence.next_sendable _
  unsent := by
    intro u hu
    cases hu

theorem sound_advance (hsendable : Sequence.Sendable c.outgoing.sequence) {u : Unsent}
    (hu : u.InPlace) :
    (c.advance u).outgoing.Sound := by
  unfold advance
  cases hnext : u.next? with
  | none => exact c.sound_finishMessage
  | some v =>
      refine ⟨hsendable, fun w hw => ?_⟩
      cases hw
      exact hu.next hnext

theorem exists_sendFragment (hsendable : Sequence.Sendable c.outgoing.sequence)
    (u : Unsent) :
    ∃ d, c.sendFragment u = .ok (d, c.advance u) :=
  ⟨_, sendFragment_eq hsendable u⟩

theorem incoming_advance (c : Channel) (u : Unsent) :
    (c.advance u).incoming = c.incoming := by
  unfold advance
  cases u.next? <;> rfl

theorem transmit_sound (hsound : c.outgoing.Sound) (hidle : c.isBusy = false)
    (message : ByteArray) :
    ∃ d after, c.transmit message = .ok (d, after) ∧ after.outgoing.Sound ∧
      after.incoming = c.incoming := by
  by_cases hlong : maxUnfragmentedSize < message.size
  · have hplace : Unsent.InPlace ⟨message, 0⟩ := ⟨hlong, Nat.dvd_zero _, Nat.zero_le _⟩
    obtain ⟨d, hsend⟩ := exists_sendFragment hsound.sendable ⟨message, 0⟩
    refine ⟨d, c.advance ⟨message, 0⟩, ?_, sound_advance hsound.sendable hplace,
      incoming_advance c _⟩
    simp only [transmit, hidle, hlong, if_true, Bool.false_eq_true, if_false]
    exact hsend
  · have htransmit : c.transmit message = c.sendWhole message := by
      simp only [transmit, hidle, hlong, Bool.false_eq_true, if_false]
    exact ⟨_, _, htransmit.trans (sendWhole_eq hsound.sendable message),
      c.sound_finishMessage, rfl⟩

theorem transmitNext_sound (hsound : c.outgoing.Sound) :
    ∃ d after, c.transmitNext = .ok (d, after) ∧ after.outgoing.Sound ∧
      after.incoming = c.incoming := by
  cases hunsent : c.outgoing.unsent with
  | none =>
      refine ⟨none, c, ?_, hsound, rfl⟩
      simp only [transmitNext, hunsent]
  | some u =>
      obtain ⟨d, hsend⟩ := exists_sendFragment hsound.sendable u
      refine ⟨some d, c.advance u, ?_,
        sound_advance hsound.sendable (hsound.unsent u hunsent), incoming_advance c u⟩
      simp only [transmitNext, hunsent, hsend]
      rfl

end Channel

/-! ## The receiving direction -/

structure Incoming.Sound (i : Incoming) : Prop where
  newer : ∀ sequence bytes, i.assembly = .gathering sequence bytes →
    Sequence.newer sequence i.sequence = true
  full : fragmentSize ∣ i.assembly.bytes.size
  within : i.assembly.bytes.size ≤ maxMessageSize

theorem Incoming.sound_of_idle {i : Incoming} (hidle : i.assembly = .idle) :
    i.Sound := by
  constructor
  · intro sequence bytes hgathering
    rw [hidle] at hgathering
    cases hgathering
  · rw [hidle]
    exact Nat.dvd_zero _
  · rw [hidle]
    exact Nat.zero_le _

/-- A legal fragment that does not end its message is a full one. -/
theorem Fragment.Legal.size_eq {f : Fragment} {payload : ByteArray}
    (hlegal : f.Legal payload) (hmore : f.isLast = false) :
    f.length.toNat = fragmentSize ∧
      (payload.extract 0 f.length.toNat).size = fragmentSize := by
  obtain ⟨hlength, hthere⟩ := hlegal
  simp only [Fragment.isLast, decide_eq_false_iff_not, Nat.not_lt] at hmore
  rw [ByteArray.size_extract]
  omega

namespace Channel

variable {c : Channel}

theorem sound_gathered (hsound : c.incoming.Sound) (sequence : UInt32) :
    fragmentSize ∣ (c.gathered sequence).size ∧
      (c.gathered sequence).size ≤ maxMessageSize := by
  unfold gathered
  split
  · exact ⟨hsound.full, hsound.within⟩
  · exact ⟨Nat.dvd_zero _, Nat.zero_le _⟩

theorem sound_gathering {sequence : UInt32} {bytes : ByteArray} {tally : Tally}
    (hnewer : Sequence.newer sequence c.incoming.sequence = true)
    (hfull : fragmentSize ∣ bytes.size) (hwithin : bytes.size ≤ maxMessageSize) :
    (c.gathering sequence bytes tally).incoming.Sound := by
  refine ⟨fun other gathered hgathering => ?_, hfull, hwithin⟩
  cases hgathering
  exact hnewer

theorem receive_sound (hsound : c.incoming.Sound) (source : Address)
    (datagram : ByteArray) :
    (c.receive source (.ofBytes datagram)).2.incoming.Sound ∧
      (c.receive source (.ofBytes datagram)).2.outgoing = c.outgoing := by
  obtain ⟨verdict, message?, after, -, -, hafter, hreceives⟩ := c.receives source datagram
  rw [hafter]
  cases hreceives with
  | ignored hconnectionless => exact ⟨hsound, rfl⟩
  | dropped hsequenced hdrops =>
      exact ⟨⟨hsound.newer, hsound.full, hsound.within⟩, rfl⟩
  | whole htakes hwhole => exact ⟨Incoming.sound_of_idle rfl, rfl⟩
  | misplaced htakes hfragment hlegal hmisplaced =>
      obtain ⟨hfull, hwithin⟩ := c.sound_gathered hsound _
      exact ⟨sound_gathering htakes.newer hfull hwithin, rfl⟩
  | added htakes hfragment hlegal hcontinues hmore =>
      obtain ⟨hfull, hwithin⟩ := c.sound_gathered hsound _
      obtain ⟨hlength, hsize⟩ := hlegal.size_eq hmore
      have htotal := hcontinues.2
      rw [hlength] at htotal
      refine ⟨sound_gathering htakes.newer ?_ ?_, rfl⟩
      · rw [ByteArray.size_append, hsize]
        exact (Nat.dvd_add_right hfull).mpr (Nat.dvd_refl _)
      · rw [ByteArray.size_append, hsize]
        exact htotal
  | completed htakes hfragment hlegal hcontinues hlast =>
      exact ⟨Incoming.sound_of_idle rfl, rfl⟩

/-! ## Runs -/

/-- Both directions in form. -/
structure Sound (c : Channel) : Prop where
  outgoing : c.outgoing.Sound
  incoming : c.incoming.Sound

theorem sound_setup (side : Side) (remote : Address) (qport : UInt16) (showDrops : Bool) :
    (setup side remote qport showDrops).Sound where
  outgoing := by
    refine ⟨Sequence.first_sendable, fun u hu => ?_⟩
    cases hu
  incoming := Incoming.sound_of_idle rfl

theorem Sound.perform (hsound : c.Sound) (call : Call) : (c.perform call).Sound := by
  cases call with
  | transmit message =>
      cases hbusy : c.isBusy with
      | true =>
          have hrefused : c.perform (.transmit message) = c := by
            simp [Channel.perform, transmit, hbusy]
          rw [hrefused]
          exact hsound
      | false =>
          obtain ⟨d, after, hsend, houtgoing, hincoming⟩ :=
            transmit_sound hsound.outgoing hbusy message
          simp only [Channel.perform, hsend]
          refine ⟨houtgoing, ?_⟩
          rw [hincoming]
          exact hsound.incoming
  | transmitNext =>
      obtain ⟨d, after, hsend, houtgoing, hincoming⟩ := transmitNext_sound hsound.outgoing
      simp only [Channel.perform, hsend]
      refine ⟨houtgoing, ?_⟩
      rw [hincoming]
      exact hsound.incoming
  | receive source datagram =>
      obtain ⟨hincoming, houtgoing⟩ := receive_sound hsound.incoming source datagram
      refine ⟨?_, hincoming⟩
      simp only [Channel.perform, houtgoing]
      exact hsound.outgoing

theorem Sound.run (hsound : c.Sound) (calls : List Call) : (c.run calls).Sound := by
  induction calls generalizing c with
  | nil => exact hsound
  | cons call rest ih => exact ih (hsound.perform call)

/-- What is unsent stops between two of the message's fragments, so it can be sent on. -/
theorem Sound.aligned (hsound : c.Sound) : c.Aligned where
  sendable := hsound.outgoing.sendable
  unsent := by
    intro u hunsent
    have hplace := hsound.outgoing.unsent u hunsent
    obtain ⟨k, hk⟩ := hplace.aligned
    refine ⟨k, (Nat.le_div_iff_mul_le (by decide)).mpr ?_, hk⟩
    rw [Nat.mul_comm, ← hk]
    exact hplace.within

end Channel
end DatagramLink
